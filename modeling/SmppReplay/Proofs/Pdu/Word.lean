import SmppReplay.Pdu.Header
import Mathlib.Tactic

/-!
# Words as numbers

A word on the wire is a big-endian number.  This module gives the number of a list of octets
and relates it to the words of sixteen and thirty-two bits that headers, optional fields and
frames use.

Main facts:
* `toNat_word16` and `toNat_word32`: a word is the number of its octets;
* `word16_octets16` and `word32_octets32`: the octets of a word write it.
-/

namespace SmppReplay
namespace Pdu

/-- The number that octets write, the high one first. -/
def bigEndian (bs : List UInt8) : Nat :=
  bs.foldl (fun n b => n * UInt8.size + b.toNat) 0

/-- An octet fills the low places of a shifted number. -/
theorem shiftLeft_or_toNat (n : Nat) (b : UInt8) :
    n <<< 8 ||| b.toNat = n * UInt8.size + b.toNat := by
  rw [← Nat.shiftLeft_add_eq_or_of_lt b.toNat_lt, Nat.shiftLeft_eq]

theorem toNat_word16 (a b : UInt8) :
    (word16 a b).toNat = bigEndian [a, b] := by
  have ha : a.toNat < 256 := a.toNat_lt
  have hfit : a.toNat <<< 8 % 65536 = a.toNat <<< 8 := by
    apply Nat.mod_eq_of_lt
    rw [Nat.shiftLeft_eq]
    omega
  have hor : (word16 a b).toNat = a.toNat <<< 8 ||| b.toNat := by
    simp [word16, hfit]
  rw [hor, shiftLeft_or_toNat]
  simp [bigEndian]

theorem toNat_word32 (a b c d : UInt8) :
    (word32 a b c d).toNat = bigEndian [a, b, c, d] := by
  have ha : a.toNat < 256 := a.toNat_lt
  have hb : b.toNat < 256 := b.toNat_lt
  have hc : c.toNat < 256 := c.toNat_lt
  have hfit : ∀ n k, n <<< k < 4294967296 → n <<< k % 4294967296 = n <<< k :=
    fun n k h => Nat.mod_eq_of_lt h
  have hor : (word32 a b c d).toNat =
      ((a.toNat <<< 24 ||| b.toNat <<< 16) ||| c.toNat <<< 8) ||| d.toNat := by
    have h24 := hfit a.toNat 24 (by rw [Nat.shiftLeft_eq]; omega)
    have h16 := hfit b.toNat 16 (by rw [Nat.shiftLeft_eq]; omega)
    have h8 := hfit c.toNat 8 (by rw [Nat.shiftLeft_eq]; omega)
    simp [word32, h24, h16, h8]
  have hnest : ((a.toNat <<< 24 ||| b.toNat <<< 16) ||| c.toNat <<< 8) ||| d.toNat =
      ((a.toNat <<< 8 ||| b.toNat) <<< 8 ||| c.toNat) <<< 8 ||| d.toNat := by
    simp only [Nat.shiftLeft_or_distrib, ← Nat.shiftLeft_add]
  rw [hor, hnest, shiftLeft_or_toNat, shiftLeft_or_toNat, shiftLeft_or_toNat]
  simp [bigEndian]

theorem bigEndian_octets16 (n : UInt16) :
    bigEndian (octets16 n) = n.toNat := by
  have hn : n.toNat < 65536 := n.toNat_lt
  simp [bigEndian, octets16, UInt8.size, Nat.shiftRight_eq_div_pow]
  omega

theorem bigEndian_octets32 (n : UInt32) :
    bigEndian (octets32 n) = n.toNat := by
  have hn : n.toNat < 4294967296 := n.toNat_lt
  simp [bigEndian, octets32, UInt8.size, Nat.shiftRight_eq_div_pow]
  omega

theorem word16_octets16 (n : UInt16) :
    word16 (n >>> 8).toUInt8 n.toUInt8 = n := by
  apply UInt16.toNat_inj.mp
  rw [toNat_word16]
  exact bigEndian_octets16 n

theorem word32_octets32 (n : UInt32) :
    word32 (n >>> 24).toUInt8 (n >>> 16).toUInt8 (n >>> 8).toUInt8 n.toUInt8 = n := by
  apply UInt32.toNat_inj.mp
  rw [toNat_word32]
  exact bigEndian_octets32 n

end Pdu
end SmppReplay
