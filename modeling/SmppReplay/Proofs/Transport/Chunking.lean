import SmppReplay.Proofs.Pdu.Word
import SmppReplay.Transport.Framing
import Mathlib.Tactic

/-!
# Streams in pieces

A stream arrives in pieces that have nothing to do with its frames: a piece may end inside
the length of a frame, inside its body, or behind several frames.  Whoever reads keeps what
is left of the pieces so far, adds the next piece and takes off what has become complete.

The invariant of that loop is that it has done exactly what cutting the whole stream so far
would have done.  It holds because a frame at the front of a buffer is the frame at the
front of every longer buffer.

Main facts:
* `feedAll_eq_drain`: the pieces do not matter, only the stream that they make;
* `Cuts.partition` and `Cuts.admits`: the frames and what is left make the stream, and every
  frame is one that the rule admits;
* `Cuts.fault_eq_some_iff` and `Cuts.fault_eq_none_iff`: what is left tells why the cutting
  stopped.
-/

namespace SmppReplay
namespace Transport
namespace Framing

open Pdu (bigEndian headerSize)

section Defs

variable (f : Framing)

/-- A frame that the rule admits: its own length, within the bounds. -/
def Admits (frame : List UInt8) : Prop :=
  bigEndian (frame.take 4) = frame.length ∧
    headerSize ≤ frame.length ∧ frame.length ≤ f.maxFrame

/-- The length at the front of the octets is out of bounds, and that is the fault. -/
def Refuses (buf : List UInt8) (e : Error) : Prop :=
  4 ≤ buf.length ∧
    ((bigEndian (buf.take 4) < headerSize ∧
        e = .invalidFrame (.belowHeader (bigEndian (buf.take 4)))) ∨
      (headerSize ≤ bigEndian (buf.take 4) ∧ f.maxFrame < bigEndian (buf.take 4) ∧
        e = .frameTooLarge (bigEndian (buf.take 4)) f.maxFrame))

/-- The octets end inside the length at their front, or it is within the bounds and they end
inside the frame that it announces. -/
def Awaits (buf : List UInt8) : Prop :=
  buf.length < 4 ∨
    (headerSize ≤ bigEndian (buf.take 4) ∧ bigEndian (buf.take 4) ≤ f.maxFrame ∧
      buf.length < bigEndian (buf.take 4))

/-- The cutting of a buffer, from its front to where it stops. -/
inductive Cuts : List UInt8 → Drained → Prop
  | awaiting {buf : List UInt8} (h : f.Awaits buf) :
      Cuts buf ⟨[], buf, none⟩
  | refused {buf : List UInt8} {e : Error} (h : f.Refuses buf e) :
      Cuts buf ⟨[], buf, some e⟩
  | frame {frame rest : List UInt8} {d : Drained}
      (h : f.Admits frame) (hrest : Cuts rest d) :
      Cuts (frame ++ rest) { d with frames := frame :: d.frames }

/-- Takes up one more piece of a stream: it joins what was left of the pieces before, and
all frames that are complete then are cut off. -/
def feed (d : Drained) (piece : List UInt8) : Drained :=
  { f.drain (d.rest ++ piece) with frames := d.frames ++ (f.drain (d.rest ++ piece)).frames }

/-- Takes up the pieces of a stream, one after the other. -/
def feedAll (pieces : List (List UInt8)) : Drained :=
  pieces.foldl f.feed ⟨[], [], none⟩

end Defs

/-! ### One cut -/

theorem declared?_eq (buf : List UInt8) :
    declared? buf = if buf.length < 4 then none else some (bigEndian (buf.take 4)) := by
  match buf with
  | [] | [_] | [_, _] | [_, _, _] =>
      rfl
  | a :: b :: c :: d :: rest =>
      have hlen : ¬ (a :: b :: c :: d :: rest).length < 4 := by
        simp
      rw [if_neg hlen]
      simp [declared?, Pdu.toNat_word32]

/-- What one cut does: nothing for want of octets, a fault, or a frame off the front. -/
theorem cut_cases (f : Framing) (buf : List UInt8) :
    (f.cut buf = .ok none ∧ f.Awaits buf) ∨
    (∃ e, f.cut buf = .error e ∧ f.Refuses buf e) ∨
    (∃ frame rest, f.cut buf = .ok (some (frame, rest)) ∧
      buf = frame ++ rest ∧ f.Admits frame) := by
  unfold cut
  rw [declared?_eq]
  by_cases hshort : buf.length < 4
  · rw [if_pos hshort]
    exact Or.inl ⟨rfl, Or.inl hshort⟩
  · rw [if_neg hshort]
    simp only [checkSize]
    by_cases hbelow : bigEndian (buf.take 4) < headerSize
    · rw [if_pos hbelow]
      exact Or.inr (Or.inl ⟨_, rfl, by omega, Or.inl ⟨hbelow, rfl⟩⟩)
    · rw [if_neg hbelow]
      by_cases habove : f.maxFrame < bigEndian (buf.take 4)
      · rw [if_pos habove]
        exact Or.inr (Or.inl ⟨_, rfl, by omega, Or.inr ⟨by omega, habove, rfl⟩⟩)
      · rw [if_neg habove]
        by_cases hwait : buf.length < bigEndian (buf.take 4)
        · exact Or.inl ⟨by simp [hwait], Or.inr ⟨by omega, by omega, hwait⟩⟩
        · refine Or.inr (Or.inr ⟨buf.take (bigEndian (buf.take 4)),
            buf.drop (bigEndian (buf.take 4)), by simp [hwait], ?_, ?_⟩)
          · rw [List.take_append_drop]
          · have hlen : (buf.take (bigEndian (buf.take 4))).length =
                bigEndian (buf.take 4) := by
              rw [List.length_take]
              omega
            have hmin : min 4 (bigEndian (buf.take 4)) = 4 := by
              unfold headerSize at hbelow
              omega
            refine ⟨?_, ?_, ?_⟩
            · rw [List.take_take, hmin, hlen]
            · omega
            · omega

/-- A frame at the front of a buffer is cut off, whatever stands behind it. -/
theorem cut_frame {f : Framing} {frame : List UInt8}
    (h : f.Admits frame)
    (rest : List UInt8) :
    f.cut (frame ++ rest) = .ok (some (frame, rest)) := by
  obtain ⟨hlen, hmin, hmax⟩ := h
  have hlong : 16 ≤ frame.length := hmin
  have htake : (frame ++ rest).take 4 = frame.take 4 := by
    rw [List.take_append_of_le_length (by omega)]
  unfold cut
  rw [declared?_eq, if_neg (by simp; omega), htake, hlen]
  have hcheck : f.checkSize frame.length = .ok () := by
    rw [checkSize, if_neg (by omega), if_neg (by omega)]
  simp [hcheck]

/-! ### All cuts of a buffer -/

theorem drain_of_none {f : Framing} {buf : List UInt8}
    (h : f.cut buf = .ok none) :
    f.drain buf = ⟨[], buf, none⟩ := by
  rw [drain]
  split <;> simp_all

theorem drain_of_error {f : Framing} {buf : List UInt8} {e : Error}
    (h : f.cut buf = .error e) :
    f.drain buf = ⟨[], buf, some e⟩ := by
  rw [drain]
  split <;> simp_all

theorem drain_of_some {f : Framing} {buf frame rest : List UInt8}
    (h : f.cut buf = .ok (some (frame, rest))) :
    f.drain buf = { f.drain rest with frames := frame :: (f.drain rest).frames } := by
  rw [drain]
  split <;> simp_all

/-- The cutting goes on exactly as far as `Cuts` says. -/
theorem cuts_drain (f : Framing) (buf : List UInt8) :
    f.Cuts buf (f.drain buf) := by
  induction hn : buf.length using Nat.strongRecOn generalizing buf with
  | ind n ih =>
      rcases cut_cases f buf with ⟨hcut, hwait⟩ | ⟨e, hcut, hbad⟩ |
        ⟨frame, rest, hcut, hbuf, hframe⟩
      · rw [drain_of_none hcut]
        exact Cuts.awaiting hwait
      · rw [drain_of_error hcut]
        exact Cuts.refused hbad
      · have hless : rest.length < n := hn ▸ length_lt_of_cut hcut
        rw [drain_of_some hcut, hbuf]
        exact Cuts.frame hframe (ih rest.length hless rest rfl)

/-- Cutting a buffer with more octets behind it is cutting the buffer, and then what it left
with the octets behind that. -/
theorem drain_append (f : Framing) (buf more : List UInt8) :
    f.drain (buf ++ more) = f.feed (f.drain buf) more := by
  induction hn : buf.length using Nat.strongRecOn generalizing buf with
  | ind n ih =>
      rcases cut_cases f buf with ⟨hcut, _⟩ | ⟨e, hcut, _⟩ | ⟨frame, rest, hcut, hbuf, hframe⟩
      · rw [drain_of_none hcut]
        rfl
      · rw [drain_of_error hcut]
        rfl
      · have hless : rest.length < n := hn ▸ length_lt_of_cut hcut
        have hcut' : f.cut (buf ++ more) = .ok (some (frame, rest ++ more)) := by
          rw [hbuf, List.append_assoc]
          exact cut_frame hframe (rest ++ more)
        rw [drain_of_some hcut', drain_of_some hcut, ih rest.length hless rest rfl]
        rfl

/-- Frames one behind the other are cut apart, and nothing is left. -/
theorem drain_flatten {f : Framing} {frames : List (List UInt8)}
    (h : ∀ frame ∈ frames, f.Admits frame) :
    f.drain frames.flatten = ⟨frames, [], none⟩ := by
  induction frames with
  | nil =>
      exact drain_of_none rfl
  | cons frame frames ih =>
      obtain ⟨hframe, hframes⟩ := List.forall_mem_cons.1 h
      rw [List.flatten_cons, drain_of_some (cut_frame hframe _), ih hframes]

/-- Frames in front of other octets are the first ones to be cut off. -/
theorem drain_flatten_append {f : Framing} {frames : List (List UInt8)}
    (h : ∀ frame ∈ frames, f.Admits frame)
    (rest : List UInt8) :
    f.drain (frames.flatten ++ rest) =
      { f.drain rest with frames := frames ++ (f.drain rest).frames } := by
  rw [drain_append, drain_flatten h]
  rfl

/-! ### Pieces -/

/-- The invariant of the reading loop. -/
theorem foldl_feed_drain (f : Framing) (stream : List UInt8) (pieces : List (List UInt8)) :
    pieces.foldl f.feed (f.drain stream) = f.drain (stream ++ pieces.flatten) := by
  induction pieces generalizing stream with
  | nil =>
      simp
  | cons piece pieces ih =>
      rw [List.foldl_cons, ← drain_append, ih, List.flatten_cons, List.append_assoc]

theorem feedAll_eq_drain (f : Framing) (pieces : List (List UInt8)) :
    f.feedAll pieces = f.drain pieces.flatten := by
  have hnil : f.drain [] = ⟨[], [], none⟩ := drain_of_none rfl
  rw [feedAll, ← hnil, foldl_feed_drain, List.nil_append]

/-- Octets that wait for more are not refused. -/
theorem Awaits.not_refuses
    {f : Framing} {buf : List UInt8} {e : Error}
    (hwait : f.Awaits buf) :
    ¬ f.Refuses buf e := by
  rintro ⟨hlong, hbad⟩
  rcases hwait with hshort | ⟨hmin, hmax, _⟩
  · omega
  · rcases hbad with ⟨hbelow, _⟩ | ⟨_, habove, _⟩ <;> omega

/-- Octets that open with a frame are not refused. -/
theorem Admits.not_refuses
    {f : Framing} {frame : List UInt8} {e : Error}
    (h : f.Admits frame)
    (rest : List UInt8) :
    ¬ f.Refuses (frame ++ rest) e := by
  obtain ⟨hlen, hmin, hmax⟩ := h
  rintro ⟨-, hbad⟩
  have hlong : 16 ≤ frame.length := hmin
  rw [List.take_append_of_le_length (by omega), hlen] at hbad
  omega

/-- Octets are refused for one fault. -/
theorem Refuses.unique
    {f : Framing} {buf : List UInt8} {e e' : Error}
    (h : f.Refuses buf e)
    (h' : f.Refuses buf e') :
    e = e' := by
  obtain ⟨_, ⟨hbelow, rfl⟩ | ⟨hmin, _, rfl⟩⟩ := h
  · obtain ⟨_, ⟨_, rfl⟩ | ⟨hmin, _⟩⟩ := h'
    · rfl
    · omega
  · obtain ⟨_, ⟨hbelow, _⟩ | ⟨_, _, rfl⟩⟩ := h'
    · omega
    · rfl

namespace Cuts

variable {f : Framing} {buf : List UInt8} {d : Drained}

/-- Nothing is lost, added or moved. -/
theorem partition (h : f.Cuts buf d) :
    d.frames.flatten ++ d.rest = buf := by
  induction h with
  | awaiting | refused =>
      rfl
  | frame hframe hrest ih =>
      simpa using ih

theorem admits (h : f.Cuts buf d) :
    ∀ frame ∈ d.frames, f.Admits frame := by
  induction h with
  | awaiting | refused =>
      simp
  | frame hframe hrest ih =>
      intro frame hmem
      rcases List.mem_cons.1 hmem with rfl | hmem
      · exact hframe
      · exact ih frame hmem

/-- The cutting stops with the fault that the octets left over call for. -/
theorem fault_eq_some_iff (h : f.Cuts buf d) (e : Error) :
    d.fault = some e ↔ f.Refuses d.rest e := by
  induction h with
  | awaiting hwait =>
      simpa using hwait.not_refuses
  | refused hbad =>
      constructor
      · intro heq
        exact Option.some.inj heq ▸ hbad
      · intro h
        exact congrArg some (hbad.unique h)
  | frame hframe hrest ih =>
      exact ih

/-- Without a fault the cutting stops where more octets are needed. -/
theorem fault_eq_none_iff (h : f.Cuts buf d) :
    d.fault = none ↔ f.Awaits d.rest := by
  induction h with
  | awaiting hwait =>
      simpa using hwait
  | refused hbad =>
      simp only [reduceCtorEq, false_iff]
      intro hwait
      exact hwait.not_refuses hbad
  | frame hframe hrest ih =>
      exact ih

theorem length_frames_le (h : f.Cuts buf d) :
    d.frames.length * headerSize ≤ buf.length := by
  induction h with
  | awaiting | refused =>
      simp
  | @frame frame rest d hframe hrest ih =>
      obtain ⟨_, hmin, _⟩ := hframe
      rw [List.length_cons, Nat.succ_mul, List.length_append]
      omega

end Cuts

/-- **The pieces of a stream do not matter.** Reading the pieces is cutting the stream that
they make; the frames and the octets left over make that stream; every frame has its own
length at its front, within the bounds; the octets left over are refused for the fault that
stopped the cutting, or wait for more; and a stream has at most one frame for each sixteen
octets. -/
theorem feedAll_correct (f : Framing) (pieces : List (List UInt8)) :
    f.feedAll pieces = f.drain pieces.flatten ∧
    (f.feedAll pieces).frames.flatten ++ (f.feedAll pieces).rest = pieces.flatten ∧
    (∀ frame ∈ (f.feedAll pieces).frames,
      bigEndian (frame.take 4) = frame.length ∧
        16 ≤ frame.length ∧ frame.length ≤ f.maxFrame) ∧
    (∀ e, (f.feedAll pieces).fault = some e ↔ f.Refuses (f.feedAll pieces).rest e) ∧
    ((f.feedAll pieces).fault = none ↔ f.Awaits (f.feedAll pieces).rest) ∧
    (f.feedAll pieces).frames.length ≤ pieces.flatten.length / 16 := by
  rw [feedAll_eq_drain]
  have hcuts := cuts_drain f pieces.flatten
  have hcount := hcuts.length_frames_le
  refine ⟨rfl, hcuts.partition, hcuts.admits, hcuts.fault_eq_some_iff,
    hcuts.fault_eq_none_iff, ?_⟩
  exact (Nat.le_div_iff_mul_le (by decide)).2 hcount

end Framing
end Transport
end SmppReplay
