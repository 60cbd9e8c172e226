import SmppReplay.Document.Value
import SmppReplay.Text.Decimal
import SmppReplay.Text.Numeral

/-!
# Words of TOML

The values that are written without quotes and brackets: truth values, numbers, dates and
times.  Such a value is a run of characters, so each is recognised as a whole.

A date or a time is checked and reads as a record whose entries no field has.
-/

namespace SmppReplay
namespace Document
namespace Toml

/-- A character of an unquoted value. -/
def isWordChar (c : Char) : Bool :=
  c.isAlphanum || c == '_' || c == '+' || c == '-' || c == '.' || c == ':'

/-- The digits of a run in which single underscores may part them. -/
def parted? : List Char → Option (List Char)
  | [] => none
  | [c] => if c = '_' then none else some [c]
  | c :: '_' :: d :: r => if c = '_' then none else (parted? (d :: r)).map (c :: ·)
  | c :: r => if c = '_' then none else (parted? r).map (c :: ·)

/-- The value of a run of digits of the radix. -/
def run? (radix : Nat) (cs : List Char) : Option Nat :=
  (parted? cs).bind (Text.Numeral.ofDigits? radix)

/-- The value of a run of decimal digits that opens with a zero only if it is one. -/
def whole? (cs : List Char) : Option Nat :=
  match cs with
  | '0' :: _ :: _ => none
  | cs => run? 10 cs

/-- The sign, true for minus, and what follows it. -/
def sign : List Char → Bool × List Char
  | '+' :: r => (false, r)
  | '-' :: r => (true, r)
  | r => (false, r)

/-- A whole number of sixty-four bits with a sign. -/
def inRange? (n : Int) : Option Int :=
  if Int64.minValue.toInt ≤ n ∧ n ≤ Int64.maxValue.toInt then some n else none

/-- A whole number. -/
def integer? (cs : List Char) : Option Int :=
  match cs with
  | '0' :: 'x' :: r => (run? 16 r).bind fun n => inRange? n
  | '0' :: 'o' :: r => (run? 8 r).bind fun n => inRange? n
  | '0' :: 'b' :: r => (run? 2 r).bind fun n => inRange? n
  | cs => do
      let (negative, r) := sign cs
      let n ← whole? r
      inRange? (if negative then -(n : Int) else n)

/-- The parts of a word around the first character of a kind, if there is one. -/
def splitAt? (p : Char → Bool) (cs : List Char) : List Char × Option (List Char) :=
  (cs.takeWhile (!p ·), (cs.dropWhile (!p ·)).tail?)

/-- The word is a number with a point or an exponent.  A number too large for double
precision is none unless it is negative. -/
def isFloat (cs : List Char) : Bool :=
  let (negative, r) := sign cs
  if r = "inf".toList || r = "nan".toList then true
  else
    let (mantissa, exponent) := splitAt? (fun c => c == 'e' || c == 'E') r
    let (whole, fraction) := splitAt? (· == '.') mantissa
    let value := do
      let w ← whole? whole
      let f ← (fraction.map parted?).getD (some [])
      let fractionValue ← if f.isEmpty then some 0 else Text.Numeral.ofDigits? 10 f
      let e ← match exponent with
        | none => some (0 : Int)
        | some e =>
            let (down, ds) := sign e
            (run? 10 ds).map fun n => if down then -(n : Int) else n
      guard (fraction.isSome || exponent.isSome)
      some (⟨w * Nat.pow 10 f.length + fractionValue, e - f.length⟩ : Text.Decimal)
    match value with
    | some d => negative || d.isFinite
    | none => false

/-- The number of two digits at the start, and what follows it. -/
def twoDigits? : List Char → Option (Nat × List Char)
  | a :: b :: r => (Text.Numeral.ofDigits? 10 [a, b]).map fun n => (n, r)
  | _ => none

/-- What follows the character at the start. -/
def after? (c : Char) : List Char → Option (List Char)
  | d :: r => if d = c then some r else none
  | [] => none

/-- The year has a twenty-ninth of February. -/
def isLeap (year : Nat) : Bool :=
  year % 4 == 0 && (year % 100 != 0 || year % 400 == 0)

/-- The number of days of a month. -/
def monthLength (year month : Nat) : Nat :=
  if month = 2 then if isLeap year then 29 else 28
  else if month = 4 ∨ month = 6 ∨ month = 9 ∨ month = 11 then 30
  else 31

/-- What follows the date at the start. -/
def afterDate? (cs : List Char) : Option (List Char) := do
  let (century, r) ← twoDigits? cs
  let (rest, r) ← twoDigits? r
  let (month, r) ← twoDigits? (← after? '-' r)
  let (day, r) ← twoDigits? (← after? '-' r)
  guard (1 ≤ month && month ≤ 12 && 1 ≤ day && day ≤ monthLength (100 * century + rest) month)
  return r

/-- What follows the part of a second at the start, if there is one. -/
def afterSecondPart? : List Char → Option (List Char)
  | '.' :: r => if (r.head?.any Char.isDigit) then some (r.dropWhile Char.isDigit) else none
  | r => some r

/-- What follows the time at the start. -/
def afterTime? (cs : List Char) : Option (List Char) := do
  let (hour, r) ← twoDigits? cs
  let (minute, r) ← twoDigits? (← after? ':' r)
  let (second, r) ← twoDigits? (← after? ':' r)
  guard (hour ≤ 23 && minute ≤ 59 && second ≤ 60)
  afterSecondPart? r

/-- The characters are a distance from universal time, or there are none. -/
def isOffset : List Char → Bool
  | [] => true
  | [c] => c == 'Z' || c == 'z'
  | c :: r =>
      (c == '+' || c == '-') &&
        ((do
          let (hour, r) ← twoDigits? r
          let (minute, r) ← twoDigits? (← after? ':' r)
          return hour ≤ 23 && minute ≤ 59 && r.isEmpty) |>.getD false)

/-- The word is a date, a time, or both. -/
def isMoment (cs : List Char) : Bool :=
  match afterDate? cs with
  | some [] => true
  | some (c :: r) =>
      (c == 'T' || c == 't' || c == ' ') && ((afterTime? r).map isOffset).getD false
  | none => afterTime? cs == some []

/-- The document of a word. -/
def word? (cs : List Char) : Option Document :=
  if cs = "true".toList then some (.bool true)
  else if cs = "false".toList then some (.bool false)
  else if isMoment cs then some (.record [])
  else if isFloat cs then some .decimal
  else (integer? cs).map .integer

/-- The characters go on with a blank and a time, after a date. -/
def opensTime : List Char → Bool
  | ' ' :: a :: b :: ':' :: _ => a.isDigit && b.isDigit
  | _ => false

/-- The word at the start, and what follows it.  A blank may part a date from a time. -/
def splitWord (cs : List Char) : List Char × List Char :=
  let word := cs.takeWhile isWordChar
  let rest := cs.dropWhile isWordChar
  if afterDate? word == some [] && opensTime rest then
    let time := (rest.drop 1).takeWhile isWordChar
    (word ++ ' ' :: time, (rest.drop 1).dropWhile isWordChar)
  else (word, rest)

/-- An unquoted value, and what follows it. -/
def scalar? (cs : List Char) : Option (Document × List Char) :=
  let (word, rest) := splitWord cs
  (word? word).map fun d => (d, rest)

end Toml
end Document
end SmppReplay
