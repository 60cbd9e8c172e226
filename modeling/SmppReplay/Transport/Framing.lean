import SmppReplay.InPlace
import SmppReplay.Pdu.Header
import SmppReplay.Transport.Error

/-!
# Frames in a stream

A stream of octets is a sequence of frames; each frame opens with its own length in four
octets, and the length counts them.

**Rules.** A length below the size of a header, or above the configured maximum, is a fault,
and the octets stay where they are.  A frame is cut off as soon as all its octets are there.

* `Framing.cut` takes one frame off a buffer.
* `Framing.drain` takes off all frames that are complete.
* `Framing.check` decides whether a frame may be written, and `Framing.append` writes it.
-/

namespace SmppReplay
namespace Transport

/-- The rule for frames: the most octets that one may have. -/
structure Framing where
  maxFrame : Nat := 65536
  deriving DecidableEq, Repr

namespace Framing

/-- A length that a frame may have. -/
def checkSize (f : Framing) (size : Nat) : Except Error Unit :=
  if size < Pdu.headerSize then .error (.invalidFrame (.belowHeader size))
  else if f.maxFrame < size then .error (.frameTooLarge size f.maxFrame)
  else .ok ()

/-- The length that the octets open with. -/
def declared? : List UInt8 → Option Nat
  | a :: b :: c :: d :: _ => some (Pdu.word32 a b c d).toNat
  | _ => none

/-- The first frame of a buffer and the octets after it, if all of it is there. -/
def cut (f : Framing) (buf : List UInt8) : Except Error (Option (List UInt8 × List UInt8)) :=
  match declared? buf with
  | none => .ok none
  | some n =>
      match f.checkSize n with
      | .error e => .error e
      | .ok () => .ok (if buf.length < n then none else some (buf.take n, buf.drop n))

/-- The first frame of a buffer to which nothing will be added: octets that make no frame
are a fault. -/
def cutLast (f : Framing) (buf : List UInt8) : Except Error
    (Option (List UInt8 × List UInt8)) :=
  match f.cut buf with
  | .ok none => if buf.isEmpty then .ok none else .error (.io "bytes remaining on stream")
  | r => r

/-- A frame that may be written: its length is its own and lies within the bounds. -/
def check (f : Framing) (frame : List UInt8) : Except Error Unit :=
  match declared? frame with
  | none => .error (.invalidFrame .incomplete)
  | some n =>
      if n ≠ frame.length then .error (.invalidFrame (.sizeMismatch n frame.length))
      else f.checkSize n

/-- Adds a frame to an output. -/
def append (f : Framing) (frame : List UInt8) : InPlace Error (List UInt8) Unit := do
  match f.check frame with
  | .ok () => modify fun out => out ++ frame
  | .error e => throw e

/-- The output with one more frame. -/
def write (f : Framing) (frame out : List UInt8) : Except Error (List UInt8) :=
  (f.append frame).result out

theorem write_eq (f : Framing) (frame out : List UInt8) :
    f.write frame out = (f.check frame).map fun _ => out ++ frame := by
  unfold write append InPlace.result InPlace.verdict InPlace.state
  cases f.check frame <;> rfl

theorem length_lt_of_cut {f : Framing} {buf frame rest : List UInt8}
    (h : f.cut buf = .ok (some (frame, rest))) : rest.length < buf.length := by
  unfold cut at h
  split at h
  · simp at h
  · next n hn =>
    split at h
    · simp at h
    · next hc =>
      split at h
      · simp at h
      · next hle =>
        simp only [Except.ok.injEq, Option.some.injEq, Prod.mk.injEq] at h
        have hpos : 16 ≤ n := by
          unfold checkSize Pdu.headerSize at hc
          split at hc
          · simp at hc
          · omega
        rw [← h.2, List.length_drop]
        omega

/-- What is left when no further frame can be cut. -/
structure Drained where
  frames : List (List UInt8)
  rest : List UInt8
  /-- The fault that stopped the cutting, if one did. -/
  fault : Option Error
  deriving DecidableEq, Repr

/-- All complete frames of a buffer, up to a fault. -/
def drain (f : Framing) (buf : List UInt8) : Drained :=
  match _h : f.cut buf with
  | .error e => ⟨[], buf, some e⟩
  | .ok none => ⟨[], buf, none⟩
  | .ok (some (frame, rest)) =>
      let d := f.drain rest
      { d with frames := frame :: d.frames }
termination_by buf.length
decreasing_by exact length_lt_of_cut _h

end Framing

end Transport
end SmppReplay
