import SmppReplay.Pdu.Error

/-!
# Words and headers

Big-endian words as octets, and the sixteen octets that open every message: length, command
number, status and sequence number.
-/

namespace SmppReplay
namespace Pdu

/-- The octets of a word of sixteen bits, the high one first. -/
def octets16 (n : UInt16) : List UInt8 :=
  [(n >>> 8).toUInt8, n.toUInt8]

/-- The octets of a word of thirty-two bits, the high one first. -/
def octets32 (n : UInt32) : List UInt8 :=
  [(n >>> 24).toUInt8, (n >>> 16).toUInt8, (n >>> 8).toUInt8, n.toUInt8]

/-- The word of sixteen bits that two octets write. -/
def word16 (a b : UInt8) : UInt16 :=
  a.toUInt16 <<< 8 ||| b.toUInt16

/-- The word of thirty-two bits that four octets write. -/
def word32 (a b c d : UInt8) : UInt32 :=
  a.toUInt32 <<< 24 ||| b.toUInt32 <<< 16 ||| c.toUInt32 <<< 8 ||| d.toUInt32

/-- The number of octets of a header. -/
def headerSize : Nat := 16

/-- The four words of a header. -/
structure Header where
  length : UInt32
  commandId : UInt32
  status : UInt32
  sequence : UInt32
  deriving DecidableEq, Repr

namespace Header

/-- The octets of a header. -/
def encode (h : Header) : List UInt8 :=
  octets32 h.length ++ octets32 h.commandId ++ octets32 h.status ++ octets32 h.sequence

/-- Splits a frame into its header and the octets after it.  The command number may be
unknown and the length wrong. -/
def split (frame : List UInt8) : Except Error (Header × List UInt8) :=
  match frame with
  | a₀ :: a₁ :: a₂ :: a₃ :: b₀ :: b₁ :: b₂ :: b₃ :: c₀ :: c₁ :: c₂ :: c₃ ::
      d₀ :: d₁ :: d₂ :: d₃ :: body =>
      .ok (⟨word32 a₀ a₁ a₂ a₃, word32 b₀ b₁ b₂ b₃, word32 c₀ c₁ c₂ c₃,
        word32 d₀ d₁ d₂ d₃⟩, body)
  | short => .error (.malformed (.shortFrame short.length))

/-- The header of a frame. -/
def parse (frame : List UInt8) : Except Error Header :=
  (split frame).map Prod.fst

end Header

end Pdu
end SmppReplay
