import SmppReplay.Document.Yaml.Cursor
import SmppReplay.Text.Numeral

/-!
# Texts of YAML

The three ways to write a text: without quotes, between quotes, and as a block of lines.

Outside blocks a text is a row of words with gaps between them.  A gap without a line break
keeps its blanks; otherwise one line break reads as a blank, and of several the first is
dropped.
-/

namespace SmppReplay
namespace Document
namespace Yaml

/-! ### Gaps -/

/-- The white space between two words. -/
structure Gap where
  /-- The blanks in front of the first line break. -/
  blanks : List Char := []
  breaks : List Char := []
  /-- A line break that does not count opened the gap. -/
  escaped : Bool := false
  deriving Repr

/-- The gap goes over a line's end. -/
def Gap.breaksLine (g : Gap) : Bool :=
  g.escaped || !g.breaks.isEmpty

/-- What a gap reads as. -/
def Gap.join (g : Gap) : List Char :=
  if g.escaped then g.breaks
  else
    match g.breaks with
    | [] => g.blanks
    | ['\n'] => [' ']
    | '\n' :: more => more
    | breaks => breaks

/-- Takes in the rest of a gap.  Inside the indentation of a line no tab may stand. -/
def gapFrom? (margin : Nat) : Nat → Gap → Cursor → Option (Gap × Cursor)
  | 0, _, _ => none
  | fuel + 1, g, c =>
      match c.rest with
      | x :: _ =>
          if isBlank x then
            if g.breaksLine then
              if x = '\t' && c.column < margin then none
              else gapFrom? margin fuel g (c.advance 1)
            else gapFrom? margin fuel { g with blanks := g.blanks ++ [x] } (c.advance 1)
          else if isBreak x then
            gapFrom? margin fuel { g with breaks := g.breaks ++ [breakText x] } c.passBreak
          else some (g, c)
      | [] => some (g, c)

/-- The gap at the cursor, and the place behind it. -/
def gap? (margin : Nat) (escaped : Bool) (c : Cursor) : Option (Gap × Cursor) :=
  gapFrom? margin (c.rest.length + 1) { escaped } c

/-! ### Texts without quotes -/

/-- The character parts the items of lists and records between brackets. -/
def isFlowIndicator (c : Char) : Bool :=
  c == ',' || c == '[' || c == ']' || c == '\x7b' || c == '\x7d'

/-- The word at the start of the characters.  Between brackets a colon in front of a
bracket, a comma or a question mark is refused. -/
def plainWord? (flow : Bool) : List Char → Option (List Char)
  | [] => some []
  | c :: r =>
      if isBlank c || isBreak c then some []
      else if flow && c == ':' && r.head?.any (fun d => isFlowIndicator d || d == '?') then
        none
      else if (c == ':' && endsWord r) || (flow && isFlowIndicator c) then some []
      else (plainWord? flow r).map (c :: ·)

/-- A text without quotes. -/
structure Plain where
  text : List Char
  /-- The place behind the white space after it. -/
  after : Cursor
  /-- The white space after it goes over a line's end. -/
  breaksLine : Bool
  deriving Repr

/-- Goes on with a text, after a gap. -/
def plainFrom? (flow : Bool) (margin : Nat) : Nat → List Char → Gap → Cursor → Option Plain
  | 0, _, _, _ => none
  | fuel + 1, chars, g, c =>
      if c.atDocumentMark || c.rest.head? == some '#' then some ⟨chars, c, g.breaksLine⟩
      else do
        let word ← plainWord? flow c.rest
        if word.isEmpty then some ⟨chars, c, g.breaksLine⟩
        else
          let chars := chars ++ g.join ++ word
          let c := c.advance word.length
          if !c.atSpace then some ⟨chars, c, false⟩
          else
            let (g, c) ← gap? margin false c
            if !flow && c.column < margin then some ⟨chars, c, g.breaksLine⟩
            else plainFrom? flow margin fuel chars g c

/-- The text without quotes at the cursor; outside brackets its lines begin at the margin. -/
def plain? (flow : Bool) (margin : Nat) (c : Cursor) : Option Plain :=
  plainFrom? flow margin (c.rest.length + 1) [] {} c

/-! ### Texts between quotes -/

/-- Why a word between quotes ends. -/
inductive WordEnd where
  | quote
  | gap
  /-- A line break that does not count. -/
  | escapedBreak
  deriving DecidableEq, Repr

/-- The character that a short escape stands for. -/
def escape? (c : Char) : Option Char :=
  if c = '0' then some (Char.ofNat 0)
  else if c = 'a' then some (Char.ofNat 7)
  else if c = 'b' then some (Char.ofNat 8)
  else if c = 't' ∨ c = '\t' then some '\t'
  else if c = 'n' then some '\n'
  else if c = 'v' then some (Char.ofNat 11)
  else if c = 'f' then some (Char.ofNat 12)
  else if c = 'r' then some '\r'
  else if c = 'e' then some (Char.ofNat 27)
  else if c = ' ' ∨ c = '"' ∨ c = '/' ∨ c = '\\' then some c
  else if c = 'N' then some '\u0085'
  else if c = '_' then some '\u00A0'
  else if c = 'L' then some '\u2028'
  else if c = 'P' then some '\u2029'
  else none

/-- The character with a hexadecimal number. -/
def numbered? (digits : List Char) : Option Char := do
  let n ← Text.Numeral.ofDigits? 16 digits
  if n.isValidChar then some (Char.ofNat n) else none

/-- A word between double quotes, why it ends, and what follows it. -/
def doubleWord? : List Char → Option (List Char × WordEnd × List Char)
  | [] => none
  | '"' :: r => some ([], .quote, '"' :: r)
  | '\\' :: 'x' :: a :: b :: r => do
      let x ← numbered? [a, b]
      let (s, stop, rest) ← doubleWord? r
      return (x :: s, stop, rest)
  | '\\' :: 'u' :: a :: b :: c :: d :: r => do
      let x ← numbered? [a, b, c, d]
      let (s, stop, rest) ← doubleWord? r
      return (x :: s, stop, rest)
  | '\\' :: 'U' :: a :: b :: c :: d :: e :: f :: g :: h :: r => do
      let x ← numbered? [a, b, c, d, e, f, g, h]
      let (s, stop, rest) ← doubleWord? r
      return (x :: s, stop, rest)
  | '\\' :: c :: r =>
      if isBreak c then some ([], .escapedBreak, '\\' :: c :: r)
      else do
        let x ← escape? c
        let (s, stop, rest) ← doubleWord? r
        return (x :: s, stop, rest)
  | c :: r =>
      if isBlank c || isBreak c then some ([], .gap, c :: r)
      else do
        let (s, stop, rest) ← doubleWord? r
        return (c :: s, stop, rest)

/-- A word between single quotes, why it ends, and what follows it.  A quote in it is
written twice. -/
def singleWord? : List Char → Option (List Char × WordEnd × List Char)
  | [] => none
  | '\'' :: '\'' :: r => do
      let (s, stop, rest) ← singleWord? r
      return ('\'' :: s, stop, rest)
  | '\'' :: r => some ([], .quote, '\'' :: r)
  | c :: r =>
      if isBlank c || isBreak c then some ([], .gap, c :: r)
      else do
        let (s, stop, rest) ← singleWord? r
        return (c :: s, stop, rest)

/-- Goes on with a text between quotes. -/
def quotedFrom? (word? : List Char → Option (List Char × WordEnd × List Char)) :
    Nat → List Char → Cursor → Option (List Char × Cursor)
  | 0, _, _ => none
  | fuel + 1, chars, c =>
      if c.atDocumentMark then none
      else do
        let (word, stop, rest) ← word? c.rest
        let chars := chars ++ word
        let c := c.advance (c.rest.length - rest.length)
        match stop with
        | .quote => some (chars, c.advance 1)
        | .gap => do
            let (g, c) ← gap? 0 false c
            quotedFrom? word? fuel (chars ++ g.join) c
        | .escapedBreak => do
            let (g, c) ← gap? 0 true (c.advance 1).passBreak
            quotedFrom? word? fuel (chars ++ g.join) c

/-- The text between quotes at the cursor, which stands at the opening quote, and the place
behind it. -/
def quoted? (double : Bool) (c : Cursor) : Option (List Char × Cursor) :=
  quotedFrom? (if double then doubleWord? else singleWord?) c.rest.length [] (c.advance 1)

/-! ### Blocks of lines -/

/-- What becomes of the line breaks at the end of a block. -/
inductive Chomping where
  /-- One stays. -/
  | clip
  /-- None stays. -/
  | strip
  /-- All stay. -/
  | keep
  deriving DecidableEq, Repr

/-- How the end of a block is marked. -/
def chomping? (c : Char) : Option Chomping :=
  if c = '+' then some .keep else if c = '-' then some .strip else none

/-- The indentation that a digit names. -/
def increment? (c : Char) : Option Nat :=
  if '1' ≤ c ∧ c ≤ '9' then some (c.toNat - '0'.toNat) else none

/-- The marks behind the character that opens a block, in either order, and their number. -/
def blockMarks (cs : List Char) : Chomping × Option Nat × Nat :=
  match cs.head?.bind chomping?, cs.head?.bind increment? with
  | some chomp, _ =>
      match cs.tail.head?.bind increment? with
      | some n => (chomp, some n, 2)
      | none => (chomp, none, 1)
  | none, some n =>
      match cs.tail.head?.bind chomping? with
      | some chomp => (chomp, some n, 2)
      | none => (.clip, some n, 1)
  | none, none => (.clip, none, 0)

/-- The place behind the rest of a line that holds no more than blanks and a comment. -/
def passLine? (c : Cursor) : Option Cursor :=
  let c := c.advance (c.rest.takeWhile isBlank).length
  let c :=
    if c.rest.head? == some '#' then c.advance (c.rest.takeWhile (!isBreak ·)).length else c
  if endsWord c.rest then some c.passBreak else none

/-- Passes empty lines and the indentation of the next line.  Gives the line breaks, the
widest indentation and the place behind them.  Without a given indentation all blanks belong
to it. -/
def emptyLines? (indent : Option Nat) :
    Nat → List Char → Nat → Cursor → Option (List Char × Nat × Cursor)
  | 0, _, _, _ => none
  | fuel + 1, breaks, widest, c =>
      let blanks := (c.rest.takeWhile (· == ' ')).length
      let c := c.advance ((indent.map (· - c.column)).elim blanks (min blanks))
      let widest := max widest c.column
      match c.rest with
      | x :: _ =>
          if x = '\t' && indent.all (c.column < ·) then none
          else if isBreak x then
            emptyLines? indent fuel (breaks ++ [breakText x]) widest c.passBreak
          else some (breaks, widest, c)
      | [] => some (breaks, widest, c)

/-- What is known of a block so far. -/
structure Block where
  text : List Char
  /-- The line break behind the last line. -/
  lineEnd : List Char
  /-- The line breaks of the empty lines after it. -/
  breaks : List Char
  /-- The last line opens with a blank. -/
  opensBlank : Bool
  deriving Repr

/-- The block with one more line.  In a folded block a single line break between two lines
that open with no blank reads as a blank. -/
def Block.addLine (literal : Bool) (b : Block) (line : List Char)
    (lineEnd : List Char) : Block :=
  let opensBlank := line.head?.any isBlank
  let folds := !literal && b.lineEnd == ['\n'] && !b.opensBlank && !opensBlank
  let joint := if folds then if b.breaks.isEmpty then [' '] else [] else b.lineEnd
  ⟨b.text ++ joint ++ b.breaks ++ line, lineEnd, [], opensBlank⟩

/-- Goes on with a block whose lines stand at an indentation. -/
def blockFrom? (literal : Bool) (indent : Nat) :
    Nat → Block → Cursor → Option (Block × Cursor)
  | 0, _, _ => none
  | fuel + 1, b, c =>
      if c.column != indent || c.rest.isEmpty then some (b, c)
      else do
        let line := c.rest.takeWhile (!isBreak ·)
        let c := c.advance line.length
        let lineEnd := (c.rest.take 1).map breakText
        let (breaks, _, c) ← emptyLines? (some indent) (c.rest.length + 1) [] 0 c.passBreak
        blockFrom? literal indent fuel { b.addLine literal line lineEnd with breaks } c

/-- The text of a block. -/
def Block.finish (chomp : Chomping) (b : Block) : List Char :=
  match chomp with
  | .clip => b.text ++ b.lineEnd
  | .strip => b.text
  | .keep => b.text ++ b.lineEnd ++ b.breaks

/-- The block at the cursor, which stands at the character that opens it, and the place
behind it.  Its lines stand at least at the margin. -/
def block? (literal : Bool) (margin : Nat) (c : Cursor) : Option (List Char × Cursor) := do
  let (chomp, increment, size) := blockMarks c.rest.tail
  let c ← passLine? (c.advance (1 + size))
  let given := increment.map (margin - 1 + ·)
  let (breaks, widest, c) ← emptyLines? given (c.rest.length + 1) [] 0 c
  let indent := given.getD (max (max widest margin) 1)
  let (b, c) ← blockFrom? literal indent (c.rest.length + 1) ⟨[], [], breaks, false⟩ c
  return (b.finish chomp, c)

end Yaml
end Document
end SmppReplay
