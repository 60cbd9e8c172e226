import SmppReplay.Text.Numeral

/-!
# Octets as hexadecimal digits

Two digits an octet, without separators.
-/

namespace SmppReplay
namespace Text
namespace Hex

/-- The octets in lower-case digits. -/
def lower (bs : List UInt8) : String :=
  String.ofList (bs.flatMap fun b =>
    [Nat.digitChar (b.toNat / 16), Nat.digitChar (b.toNat % 16)])

/-- The octets in upper-case digits. -/
def upper (bs : List UInt8) : String :=
  String.ofList (bs.flatMap fun b =>
    [(Nat.digitChar (b.toNat / 16)).toUpper, (Nat.digitChar (b.toNat % 16)).toUpper])

/-- Octets from their digits, two by two. -/
def ofDigits? : List Char → Option (List UInt8)
  | [] => some []
  | [_] => none
  | c :: d :: r => do
      let hi ← Numeral.digit? c
      let lo ← Numeral.digit? d
      let rest ← ofDigits? r
      return UInt8.ofNat (hi * 16 + lo) :: rest

end Hex
end Text
end SmppReplay
