import SmppReplay.Document.Value
import SmppReplay.Text.Decimal
import SmppReplay.Text.Numeral

/-!
# Reading JSON

**Input.**  The characters of a file.

**Result.** `Json.read?` gives the document of a text that is one JSON value with white
space around it.  A text with half a surrogate pair, and a number beyond double precision,
keep their place as unreadable values, and a key of that kind has no name.
-/

namespace SmppReplay
namespace Document
namespace Json

/-- The white space of JSON. -/
def isSpace (c : Char) : Bool :=
  c == ' ' || c == '\t' || c == '\n' || c == '\r'

/-- The characters without white space at the start. -/
def skip (cs : List Char) : List Char :=
  cs.dropWhile isSpace

/-- The code number that a short escape stands for. -/
def escape? (c : Char) : Option Nat :=
  if c = '"' ∨ c = '\\' ∨ c = '/' then some c.toNat
  else if c = 'b' then some 8
  else if c = 'f' then some 12
  else if c = 'n' then some 10
  else if c = 'r' then some 13
  else if c = 't' then some 9
  else none

/-- The code numbers of a text up to its closing quote, and the characters after it. -/
def units? : List Char → Option (List Nat × List Char)
  | [] => none
  | '"' :: r => some ([], r)
  | '\\' :: 'u' :: a :: b :: c :: d :: r => do
      let unit ← Text.Numeral.ofDigits? 16 [a, b, c, d]
      let (us, rest) ← units? r
      return (unit :: us, rest)
  | '\\' :: e :: r => do
      let unit ← escape? e
      let (us, rest) ← units? r
      return (unit :: us, rest)
  | c :: r => do
      guard (0x20 ≤ c.toNat)
      let (us, rest) ← units? r
      return (c.toNat :: us, rest)

/-- The number is the first half of a surrogate pair. -/
def isLead (u : Nat) : Bool :=
  0xD800 ≤ u && u < 0xDC00

/-- The number is the second half of a surrogate pair. -/
def isTrail (u : Nat) : Bool :=
  0xDC00 ≤ u && u < 0xE000

/-- The characters of code numbers, two halves of a pair in a row being one character. -/
def ofUnits? : List Nat → Option (List Char)
  | [] => some []
  | [u] => if isLead u || isTrail u then none else some [Char.ofNat u]
  | u :: v :: r =>
      if isLead u then
        if isTrail v then
          (ofUnits? r).map (Char.ofNat (0x10000 + (u - 0xD800) * 0x400 + (v - 0xDC00)) :: ·)
        else none
      else if isTrail u then none
      else (ofUnits? (v :: r)).map (Char.ofNat u :: ·)

/-- A text after its opening quote, if it is one of characters, and what follows it. -/
def string? (cs : List Char) : Option (Option String × List Char) := do
  let (us, rest) ← units? cs
  return ((ofUnits? us).map String.ofList, rest)

/-- The digits at the start and what follows them; there is at least one. -/
def digits? (cs : List Char) : Option (List Char × List Char) :=
  let ds := cs.takeWhile Char.isDigit
  if ds.isEmpty then none else some (ds, cs.dropWhile Char.isDigit)

/-- The digits of the part behind the point, if there is one. -/
def fraction? : List Char → Option (List Char × List Char)
  | '.' :: r => digits? r
  | r => some ([], r)

/-- The exponent, if there is one. -/
def exponent? (cs : List Char) : Option (Option Int × List Char) :=
  match cs with
  | c :: r =>
      if c = 'e' ∨ c = 'E' then do
        let (negative, r) := match r with
          | '+' :: r => (false, r)
          | '-' :: r => (true, r)
          | r => (false, r)
        let (ds, rest) ← digits? r
        let n ← Text.Numeral.ofDigits? 10 ds
        return (some (if negative then -(n : Int) else n), rest)
      else some (none, cs)
  | [] => some (none, [])

/-- The digits in front of the point: a zero, or digits that do not open with one. -/
def whole? : List Char → Option (List Char × List Char)
  | '0' :: r => some (['0'], r)
  | r => digits? r

/-- The value of a number by its parts. -/
def ofParts (negative : Bool) (whole fraction : List Char) (exponent : Option Int) :
    Document :=
  let coefficient := (Text.Numeral.ofDigits? 10 (whole ++ fraction)).getD 0
  let decimal : Text.Decimal := ⟨coefficient, exponent.getD 0 - fraction.length⟩
  if !decimal.isFinite then .unreadable
  else if !fraction.isEmpty || exponent.isSome || (negative && coefficient = 0) then .decimal
  else if negative then .integer (-coefficient)
  else .integer coefficient

/-- A number, and what follows it. -/
def number? (cs : List Char) : Option (Document × List Char) := do
  let (negative, r) := match cs with
    | '-' :: r => (true, r)
    | r => (false, r)
  let (whole, r) ← whole? r
  let (fraction, r) ← fraction? r
  let (exponent, r) ← exponent? r
  return (ofParts negative whole fraction exponent, r)

/-- The text opens with the word; what follows it. -/
def word? (word : String) (cs : List Char) : Option (List Char) :=
  if word.toList.isPrefixOf cs then some (cs.drop word.length) else none

mutual

/-- A value, and what follows it. -/
def value? : Nat → List Char → Option (Document × List Char)
  | 0, _ => none
  | fuel + 1, cs =>
      match skip cs with
      | '"' :: r => (string? r).map fun (s, rest) =>
          ((s.map Document.text).getD .unreadable, rest)
      | '[' :: r =>
          match skip r with
          | ']' :: rest => some (.list [], rest)
          | r => (items? fuel r).map fun (ds, rest) => (.list ds, rest)
      | '\x7b' :: r =>
          match skip r with
          | '\x7d' :: rest => some (.record [], rest)
          | r => (entries? fuel r).map fun (es, rest) => (.record es, rest)
      | 'n' :: r => (word? "ull" r).map fun rest => (.null, rest)
      | 't' :: r => (word? "rue" r).map fun rest => (.bool true, rest)
      | 'f' :: r => (word? "alse" r).map fun rest => (.bool false, rest)
      | r => number? r

/-- The items of a list that is not empty, up to its closing bracket. -/
def items? : Nat → List Char → Option (List Document × List Char)
  | 0, _ => none
  | fuel + 1, cs => do
      let (d, r) ← value? fuel cs
      match skip r with
      | ']' :: rest => some ([d], rest)
      | ',' :: r => do
          let (ds, rest) ← items? fuel r
          return (d :: ds, rest)
      | _ => none

/-- The entries of a record that is not empty, up to its closing brace. -/
def entries? : Nat → List Char → Option (List (Option String × Document) × List Char)
  | 0, _ => none
  | fuel + 1, cs =>
      match skip cs with
      | '"' :: r => do
          let (key, r) ← string? r
          match skip r with
          | ':' :: r => do
              let (d, r) ← value? fuel r
              match skip r with
              | '\x7d' :: rest => some ([(key, d)], rest)
              | ',' :: r => do
                  let (es, rest) ← entries? fuel r
                  return ((key, d) :: es, rest)
              | _ => none
          | _ => none
      | _ => none

end

/-- The document of a text.  Two calls take at least one character, which bounds their
number. -/
def read? (s : String) : Option Document := do
  let cs := s.toList
  let (d, rest) ← value? (2 * cs.length + 2) cs
  if (skip rest).isEmpty then some d else none

end Json
end Document
end SmppReplay
