/-!
# Decimal numbers and the range of double precision

A decimal number is a whole number times a power of ten. `isFinite` decides whether the
nearest number of double precision is finite: it is, up to half a unit of the last place
above the largest one.
-/

namespace SmppReplay
namespace Text

/-- The least number whose nearest number of double precision is infinite. -/
def doubleBound : Nat :=
  (1 <<< 1024) - (1 <<< 970)

/-- A whole number times a power of ten. -/
structure Decimal where
  coefficient : Nat
  exponent : Int
  deriving DecidableEq, Repr

/-- The nearest number of double precision is finite. -/
def Decimal.isFinite (d : Decimal) : Bool :=
  let magnitude : Int := (Nat.toDigits 10 d.coefficient).length + d.exponent
  if d.coefficient = 0 || magnitude < 300 then true
  else if 320 < magnitude then false
  else if 0 ≤ d.exponent then d.coefficient * Nat.pow 10 d.exponent.toNat < doubleBound
  else d.coefficient < doubleBound * Nat.pow 10 (-d.exponent).toNat

end Text
end SmppReplay
