import SmppReplay.Text.Blank

/-!
# Numerals

Reading and writing natural numbers in a radix.

* `ofDigits?` reads a nonempty run of digits.
* `unsigned?` also takes one leading plus sign and refuses a value outside a bound.
* `integer?` is the integer literal of scripts: blanks around it are ignored, `0x` or `0X`
  selects hexadecimal, and the value lies below 2^64.
* `hexPadded` writes a number in hexadecimal with a least number of digits.
-/

namespace SmppReplay
namespace Text
namespace Numeral

/-- The value of a decimal or hexadecimal digit of either case. -/
def digit? (c : Char) : Option Nat :=
  if '0' ≤ c ∧ c ≤ '9' then some (c.toNat - '0'.toNat)
  else if 'a' ≤ c ∧ c ≤ 'f' then some (c.toNat - 'a'.toNat + 10)
  else if 'A' ≤ c ∧ c ≤ 'F' then some (c.toNat - 'A'.toNat + 10)
  else none

/-- The value of a digit of the radix. -/
def digitIn? (radix : Nat) (c : Char) : Option Nat :=
  (digit? c).filter (· < radix)

/-- Continues a numeral whose digits so far have the value `acc`. -/
def continue? (radix : Nat) (acc : Nat) : List Char → Option Nat
  | [] => some acc
  | c :: cs => (digitIn? radix c).bind fun d => continue? radix (acc * radix + d) cs

/-- The value of a nonempty run of digits. -/
def ofDigits? (radix : Nat) : List Char → Option Nat
  | [] => none
  | c :: cs => continue? radix 0 (c :: cs)

/-- The value of a run of digits after at most one plus sign, if it lies below `bound`. -/
def unsigned? (radix bound : Nat) (cs : List Char) : Option Nat :=
  let digits := match cs with
    | '+' :: ds => ds
    | ds => ds
  (ofDigits? radix digits).filter (· < bound)

/-- The value of a decimal numeral below `bound`. -/
def decimal? (bound : Nat) (s : String) : Option Nat :=
  unsigned? 10 bound s.toList

/-- The integer literal of scripts, below 2^64. -/
def integer? (s : String) : Option UInt64 :=
  let value := match trimRight (trimLeft s.toList) with
    | '0' :: 'x' :: ds => unsigned? 16 UInt64.size ds
    | '0' :: 'X' :: ds => unsigned? 16 UInt64.size ds
    | ds => unsigned? 10 UInt64.size ds
  value.map UInt64.ofNat

/-- An integer literal that lies below `bound`. -/
def integerBelow? (bound : Nat) (s : String) : Option Nat :=
  ((integer? s).map UInt64.toNat).filter (· < bound)

/-- An integer literal of eight bits. -/
def uint8? (s : String) : Option UInt8 :=
  (integerBelow? UInt8.size s).map UInt8.ofNat

/-- An integer literal of sixteen bits. -/
def uint16? (s : String) : Option UInt16 :=
  (integerBelow? UInt16.size s).map UInt16.ofNat

/-- An integer literal of thirty-two bits. -/
def uint32? (s : String) : Option UInt32 :=
  (integerBelow? UInt32.size s).map UInt32.ofNat

/-- The upper-case hexadecimal digits of a number, with zeros in front up to `width` digits. -/
def hexPadded (width n : Nat) : String :=
  let digits := (Nat.toDigits 16 n).map Char.toUpper
  String.ofList (List.replicate (width - digits.length) '0' ++ digits)

/-- The decimal digits of a number, with zeros in front up to `width` digits. -/
def decPadded (width n : Nat) : String :=
  let digits := Nat.toDigits 10 n
  String.ofList (List.replicate (width - digits.length) '0' ++ digits)

/-- The lower-case hexadecimal digits of a number, without padding. -/
def hexLower (n : Nat) : String :=
  String.ofList (Nat.toDigits 16 n)

end Numeral
end Text
end SmppReplay
