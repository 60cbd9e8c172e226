import SmppReplay.Pdu.Encode
import Mathlib.Tactic

/-!
# The sequence number and the status of a frame

The sequence number of a message stands in the last word of the header and nowhere else, and
the status in the word in front of it.  So a message has a frame, or a fault, whatever its
number and its status are, and its frames differ in those words only.

Main facts:
* `encode_mapHeader`: whether a message has a frame does not depend on its header;
* `encode_withSequence`: the frame of a message with another number.
-/

namespace SmppReplay

/-- The message with its sequence number and its status changed. -/
def Message.mapHeader (m : Message) (sequence status : UInt32 → UInt32) : Message :=
  { m with sequence := sequence m.sequence, status := status m.status }

namespace Pdu

/-- The frame with another sequence number in its header. -/
def renumber (n : UInt32) (frame : List UInt8) : List UInt8 :=
  frame.take 12 ++ octets32 n ++ frame.drop headerSize

/-- The fields are written in the same way whatever the number is. -/
theorem encodeBody_withSequence (m : Message) (n : UInt32) :
    encodeBody (m.withSequence n) = encodeBody m := by
  rfl

/-- A message with another header has a frame exactly if it has one itself, or the same
fault. -/
theorem encode_mapHeader (m : Message) (sequence status : UInt32 → UInt32) :
    (fun _ => ()) <$> encode (m.mapHeader sequence status) = (fun _ => ()) <$> encode m := by
  have hlayout : (m.mapHeader sequence status).layout = m.layout := rfl
  have hbody : encodeBody (m.mapHeader sequence status) = encodeBody m := rfl
  unfold encode
  rw [hlayout, hbody]
  cases m.layout.unsupported with
  | some reason =>
      rfl
  | none =>
      cases encodeBody m with
      | error e =>
          rfl
      | ok body =>
          rfl

/-- **A message with another number** has the same frame but for its number, or the same
fault. -/
theorem encode_withSequence (m : Message) (n : UInt32) :
    encode (m.withSequence n) = renumber n <$> encode m := by
  have hlayout : (m.withSequence n).layout = m.layout := rfl
  unfold encode
  rw [hlayout, encodeBody_withSequence]
  cases m.layout.unsupported with
  | some reason =>
      rfl
  | none =>
      cases encodeBody m with
      | error e =>
          rfl
      | ok body =>
          rfl

/-- Another number does not change the length of a frame that holds a header. -/
theorem length_renumber
    (n : UInt32) {frame : List UInt8}
    (h : headerSize ≤ frame.length) :
    (renumber n frame).length = frame.length := by
  have hsize : headerSize = 16 := rfl
  simp only [renumber, octets32, List.length_append, List.length_take, List.length_drop,
    List.length_cons, List.length_nil]
  omega

end Pdu
end SmppReplay
