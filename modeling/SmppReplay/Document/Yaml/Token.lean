import SmppReplay.Document.Yaml.Scalar

/-!
# Tokens of YAML

**Input.**  The characters of a file.

**Algorithm.** Columns decide where blocks begin and end, so the scanner keeps the columns
of the blocks that are open.  Whether a text is a key shows only at the colon behind it: the
scanner remembers the last place of each bracket level where a key may have begun, and puts
the mark of the key, and where a block opens with it the mark of the block, in front of the
tokens that came since.  Such a key stays on its line and has at most 1024 characters.

**Result.**  `tokens?` gives the tokens of a text that keeps these rules.
-/

namespace SmppReplay
namespace Document
namespace Yaml

/-- A token. -/
inductive Token where
  /-- The directive that names the version. -/
  | version (supported : Bool)
  /-- The directive that declares the handle of tags. -/
  | handle (name : String)
  | documentStart
  | documentEnd
  | blockSequence
  | blockMapping
  | blockEnd
  | flowSequence
  | flowSequenceEnd
  | flowMapping
  | flowMappingEnd
  /-- The dash in front of an item. -/
  | item
  | comma
  | key
  | value
  | alias (name : String)
  | anchor (name : String)
  /-- A tag, by its handle; a tag written out has none. -/
  | tag (handle : String)
  | scalar (isPlain : Bool) (text : String)
  deriving DecidableEq, Repr

/-- A place where a key may have begun. -/
structure KeyPlace where
  /-- What stands there can be nothing but a key. -/
  required : Bool
  /-- The number of tokens in front of it. -/
  position : Nat
  index : Nat
  line : Nat
  column : Nat
  deriving DecidableEq, Repr

/-- What the scanner knows at a place. -/
structure Scanner where
  cursor : Cursor
  /-- The tokens so far, the last one first. -/
  tokens : List Token
  /-- One more than the column of the innermost open block; zero outside blocks. -/
  margin : Nat
  /-- The margins of the blocks around it. -/
  outer : List Nat
  /-- The number of open brackets. -/
  flow : Nat
  /-- Where a key may have begun, for each open bracket and outside them. -/
  places : List (Option KeyPlace)
  /-- A key may begin here. -/
  keyAllowed : Bool
  deriving Repr

namespace Scanner

/-- The scanner at the start of a text. -/
def start (cs : List Char) : Scanner :=
  ⟨.start cs, [], 0, [], 0, [none], true⟩

/-- The scanner with one more token. -/
def emit (t : Token) (s : Scanner) : Scanner :=
  { s with tokens := t :: s.tokens }

/-- The scanner with a token in front of those that came after the first `position` ones. -/
def emitAt (position : Nat) (t : Token) (s : Scanner) : Scanner :=
  { s with tokens := s.tokens.insertIdx (s.tokens.length - position) t }

/-- The scanner some characters further on the line. -/
def advance (n : Nat) (s : Scanner) : Scanner :=
  { s with cursor := s.cursor.advance n }

/-- Says whether a key may begin next. -/
def allowKey (allowed : Bool) (s : Scanner) : Scanner :=
  { s with keyAllowed := allowed }

/-- Passes white space, comments and line breaks.  A tab does not count as white space where
a key may begin, except between brackets. -/
def passSpace : Nat → Scanner → Scanner
  | 0, s => s
  | fuel + 1, s =>
      let skips (c : Char) : Bool :=
        c == ' ' || (c == '\t' && (s.flow != 0 || !s.keyAllowed))
      let s := s.advance (s.cursor.rest.takeWhile skips).length
      let s :=
        if s.cursor.rest.head? == some '#' then
          s.advance (s.cursor.rest.takeWhile (!isBreak ·)).length
        else s
      if s.cursor.rest.head?.any isBreak then
        passSpace fuel
          { s with cursor := s.cursor.passBreak, keyAllowed := s.keyAllowed || s.flow == 0 }
      else s

/-- Forgets the places where no key can have begun any more.  A required key must not be
among them. -/
def forgetStale? (s : Scanner) : Option Scanner := do
  let places ← s.places.mapM fun
    | none => some none
    | some k =>
        if k.line < s.cursor.line || k.index + 1024 < s.cursor.index then
          if k.required then none else some none
        else some (some k)
  return { s with places }

/-- Forgets the place of the innermost level, where no required key may stand. -/
def dropPlace? (s : Scanner) : Option Scanner :=
  match s.places with
  | some k :: r => if k.required then none else some { s with places := none :: r }
  | _ => some s

/-- Remembers this place if a key may begin here. -/
def savePlace? (s : Scanner) : Option Scanner :=
  if s.keyAllowed then do
    let c := s.cursor
    let required := s.flow == 0 && s.margin == c.column + 1
    let s ← s.dropPlace?
    return { s with
      places := some ⟨required, s.tokens.length, c.index, c.line, c.column⟩ :: s.places.tail }
  else some s

/-- Opens a block at a column to the right of the innermost one, with its mark at a
position. -/
def openBlock (column position : Nat) (t : Token) (s : Scanner) : Scanner :=
  if s.flow == 0 && s.margin ≤ column then
    { s with margin := column + 1, outer := s.margin :: s.outer }.emitAt position t
  else s

/-- Closes the blocks whose column is not left of the bound. -/
def closeBlocksFrom (bound : Nat) (margin : Nat) (tokens : List Token) :
    List Nat → Nat × List Nat × List Token
  | [] => (margin, [], tokens)
  | m :: r =>
      if bound < margin then closeBlocksFrom bound m (.blockEnd :: tokens) r
      else (margin, m :: r, tokens)

/-- Closes the blocks to the right of the bound; brackets keep all blocks open. -/
def closeBlocks (bound : Nat) (s : Scanner) : Scanner :=
  if s.flow == 0 then
    let (margin, outer, tokens) := closeBlocksFrom bound s.margin s.tokens s.outer
    { s with margin, outer, tokens }
  else s

/-- A name character. -/
def isNameChar (c : Char) : Bool :=
  c.isAlphanum || c == '_' || c == '-'

/-- An anchor or an alias; the cursor stands at its mark. -/
def name? (make : String → Token) (s : Scanner) : Option Scanner := do
  let s ← s.savePlace?
  let name := s.cursor.rest.tail.takeWhile isNameChar
  let s := (s.allowKey false).advance (1 + name.length)
  let ends := endsWord s.cursor.rest ||
    s.cursor.rest.head?.any ("?:,]\x7d%@\x60".toList.contains ·)
  if name.isEmpty || !ends then none else some (s.emit (make (String.ofList name)))

/-- A character of a tag; a tag written out may hold three more. -/
def isTagChar (writtenOut : Bool) (c : Char) : Bool :=
  isNameChar c || ";/?:@&=+$.!~*'()".toList.contains c ||
    (writtenOut && (c == ',' || c == '[' || c == ']'))

/-- The number of octets of a character that opens with the octet. -/
def octetWidth? (n : Nat) : Option Nat :=
  if n < 0x80 then some 1
  else if 0xC0 ≤ n ∧ n < 0xE0 then some 2
  else if 0xE0 ≤ n ∧ n < 0xF0 then some 3
  else if 0xF0 ≤ n ∧ n < 0xF8 then some 4
  else none

/-- The number of characters of the tag text at the start.  Octets may be written by their
numbers; `pending` octets of a character are still to come. -/
def tagLength? (writtenOut : Bool) (pending : Nat) : List Char → Option Nat
  | '%' :: a :: b :: r => do
      let n ← Text.Numeral.ofDigits? 16 [a, b]
      let pending ←
        if pending = 0 then (octetWidth? n).map (· - 1)
        else if 0x80 ≤ n ∧ n < 0xC0 then some (pending - 1)
        else none
      return 3 + (← tagLength? writtenOut pending r)
  | c :: r =>
      if c = '%' then none
      else if pending = 0 && isTagChar writtenOut c then
        (tagLength? writtenOut 0 r).map (· + 1)
      else if pending = 0 then some 0 else none
  | [] => if pending = 0 then some 0 else none

/-- The handle at the start of the characters, which open with an exclamation mark: a name
between two such marks, or one mark. -/
def tagHandle (cs : List Char) : List Char :=
  let name := cs.tail.takeWhile isNameChar
  if (cs.drop (1 + name.length)).head? == some '!' then '!' :: name ++ ['!'] else ['!']

/-- A tag; the cursor stands at its mark. -/
def tag? (s : Scanner) : Option Scanner := do
  let s ← s.savePlace?
  let s := s.allowKey false
  let cs := s.cursor.rest
  let (handle, size) ←
    if cs.tail.head? == some '<' then do
      let n ← tagLength? true 0 (cs.drop 2)
      if n = 0 || (cs.drop (2 + n)).head? != some '>' then none
      else some ([], n + 3)
    else do
      let handle := tagHandle cs
      let n ← tagLength? false 0 (cs.drop handle.length)
      if 1 < handle.length && n = 0 then none else some (handle, handle.length + n)
  let s := s.advance size
  let ends := endsWord s.cursor.rest || (s.flow != 0 && s.cursor.rest.head? == some ',')
  if ends then some (s.emit (.tag (String.ofList handle))) else none

/-- The number at the start of a version, and what follows it. -/
def versionNumber? (cs : List Char) : Option (Nat × List Char) := do
  let ds := cs.takeWhile Char.isDigit
  guard (ds.length ≤ 9)
  return (← Text.Numeral.ofDigits? 10 ds, cs.dropWhile Char.isDigit)

/-- The token of a directive's value, and what follows it. -/
def directiveValue? (name : List Char) (cs : List Char) : Option (Token × List Char) :=
  let cs := cs.dropWhile isBlank
  if name = "YAML".toList then do
    let (major, r) ← versionNumber? cs
    match r with
    | '.' :: r => do
        let (minor, r) ← versionNumber? r
        return (.version (major = 1 && (minor = 1 || minor = 2)), r)
    | _ => none
  else if name = "TAG".toList && cs.head? == some '!' then do
    let handle := tagHandle cs
    let r := cs.drop handle.length
    guard (r.head?.any isBlank)
    let r := r.dropWhile isBlank
    let n ← tagLength? true 0 r
    guard (n != 0 && endsWord (r.drop n))
    return (.handle (String.ofList handle), r.drop n)
  else none

/-- A directive; the cursor stands at its mark. -/
def directive? (s : Scanner) : Option Scanner := do
  let s ← (s.closeBlocks 0).dropPlace?
  let name := s.cursor.rest.tail.takeWhile isNameChar
  let value := s.cursor.rest.drop (1 + name.length)
  guard (endsWord value)
  let (t, rest) ← directiveValue? name value
  let s := (s.allowKey false).advance (s.cursor.rest.length - rest.length)
  let cursor ← passLine? s.cursor
  return { s with cursor }.emit t

/-- The mark of a document's start or end. -/
def documentMark? (s : Scanner) : Option Scanner := do
  let s ← (s.closeBlocks 0).dropPlace?
  let t := if s.cursor.rest.head? == some '-' then Token.documentStart else .documentEnd
  return ((s.allowKey false).advance 3).emit t

/-- An opening bracket. -/
def openFlow? (t : Token) (s : Scanner) : Option Scanner := do
  let s ← s.savePlace?
  let s := { s with flow := s.flow + 1, places := none :: s.places }
  return ((s.allowKey true).advance 1).emit t

/-- A closing bracket. -/
def closeFlow? (t : Token) (s : Scanner) : Option Scanner := do
  let s ← s.dropPlace?
  let s := if s.flow == 0 then s else { s with flow := s.flow - 1, places := s.places.tail }
  return ((s.allowKey false).advance 1).emit t

/-- A comma between brackets. -/
def comma? (s : Scanner) : Option Scanner := do
  let s ← s.dropPlace?
  return ((s.allowKey true).advance 1).emit .comma

/-- Opens a block at the cursor, unless it stands between brackets. -/
def openHere? (t : Token) (s : Scanner) : Option Scanner :=
  if s.flow == 0 then
    if s.keyAllowed then some (s.openBlock s.cursor.column s.tokens.length t) else none
  else some s

/-- The dash in front of an item. -/
def item? (s : Scanner) : Option Scanner := do
  let s ← s.openHere? .blockSequence
  let s ← s.dropPlace?
  return ((s.allowKey true).advance 1).emit .item

/-- The question mark in front of a key. -/
def key? (s : Scanner) : Option Scanner := do
  let s ← s.openHere? .blockMapping
  let s ← s.dropPlace?
  return ((s.allowKey (s.flow == 0)).advance 1).emit .key

/-- The colon in front of a value.  If a key may have begun on its level, it did. -/
def value? (s : Scanner) : Option Scanner :=
  match s.places with
  | some k :: r =>
      let s := ({ s with places := none :: r }.emitAt k.position .key).openBlock
        k.column k.position
        .blockMapping
      some (((s.allowKey false).advance 1).emit .value)
  | _ => do
      let s ← s.openHere? .blockMapping
      return ((s.allowKey (s.flow == 0)).advance 1).emit .value

/-- A block of lines. -/
def block? (literal : Bool) (s : Scanner) : Option Scanner := do
  let s ← s.dropPlace?
  let (chars, cursor) ← Yaml.block? literal s.margin s.cursor
  return ({ s with cursor }.allowKey true).emit (.scalar false (String.ofList chars))

/-- A text between quotes. -/
def quoted? (double : Bool) (s : Scanner) : Option Scanner := do
  let s ← s.savePlace?
  let (chars, cursor) ← Yaml.quoted? double s.cursor
  return ({ s with cursor }.allowKey false).emit (.scalar false (String.ofList chars))

/-- A text without quotes. -/
def plain? (s : Scanner) : Option Scanner := do
  let s ← s.savePlace?
  let p ← Yaml.plain? (s.flow != 0) s.margin s.cursor
  return ({ s with cursor := p.after }.allowKey p.breaksLine).emit
    (.scalar true (String.ofList p.text))

/-- A text without quotes may open with the character, followed by these. -/
def opensPlain (flow : Bool) (c : Char) (r : List Char) : Bool :=
  !("-?:,[]\x7b\x7d#&*!|>'\"%@\x60".toList.contains c || isBlank c || isBreak c) ||
    (c == '-' && !r.head?.any isBlank) ||
    (!flow && (c == '?' || c == ':') && !endsWord r)

/-- The token at the cursor, which is not at the end of the text. -/
def next? (s : Scanner) : Option Scanner :=
  match s.cursor.rest with
  | [] => none
  | c :: r =>
      let flow := s.flow != 0
      if s.cursor.column == 0 && c == '%' then s.directive?
      else if s.cursor.atDocumentMark then s.documentMark?
      else if c == '[' then s.openFlow? .flowSequence
      else if c == '\x7b' then s.openFlow? .flowMapping
      else if c == ']' then s.closeFlow? .flowSequenceEnd
      else if c == '\x7d' then s.closeFlow? .flowMappingEnd
      else if c == ',' then s.comma?
      else if c == '-' && endsWord r then s.item?
      else if c == '?' && (flow || endsWord r) then s.key?
      else if c == ':' && (flow || endsWord r) then s.value?
      else if c == '*' then s.name? .alias
      else if c == '&' then s.name? .anchor
      else if c == '!' then s.tag?
      else if c == '|' && !flow then s.block? true
      else if c == '>' && !flow then s.block? false
      else if c == '\'' then s.quoted? false
      else if c == '"' then s.quoted? true
      else if opensPlain flow c r then s.plain?
      else none

/-- The tokens from a place up to the end of the text. -/
def run? : Nat → Scanner → Option (List Token)
  | 0, _ => none
  | fuel + 1, s => do
      let s ← (s.passSpace (s.cursor.rest.length + 1)).forgetStale?
      if s.cursor.rest.isEmpty then
        let s ← (s.closeBlocks 0).dropPlace?
        return s.tokens.reverse
      else run? fuel (← (s.closeBlocks (s.cursor.column + 1)).next?)

end Scanner

/-- A character that a text may hold. -/
def isAllowed (c : Char) : Bool :=
  let n := c.toNat
  n == 9 || n == 10 || n == 13 || (0x20 ≤ n && n ≤ 0x7E) || n == 0x85 ||
    (0xA0 ≤ n && n ≤ 0xFFFD) || 0x10000 ≤ n

/-- The tokens of a text.  A byte order mark at its start takes up a column.  Every token
takes a character, which bounds their number. -/
def tokens? (cs : List Char) : Option (List Token) :=
  if cs.all isAllowed then
    let s := Scanner.start cs
    let s := if cs.head? == some '\uFEFF' then s.advance 1 else s
    s.run? (cs.length + 1)
  else none

end Yaml
end Document
end SmppReplay
