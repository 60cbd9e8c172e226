import SmppReplay.Proofs.Pdu.RoundTrip
import SmppReplay.Proofs.Transport.Chunking

/-!
# Frames of a stream and frames of messages

**Question.** The rule for streams and the reader of messages know the length of a header
and the place of a length on their own.  Do they mean the same octets?

**From the stream.** What is cut off a stream holds a header and declares its own length, so
that the reader finds fault with its contents at most (`decode_fault_of_admits`).

**To the stream.** The frame of a message declares its own length (`declared?_encode`), and
the rule asks for no more than its bound: it is written, and cut off again, if and only if
it is not too long (`check_encode`, `cut_encode`).
-/

namespace SmppReplay

namespace Transport.Framing

variable {f : Framing} {frame : List UInt8}

theorem length_of_declared?
    {n : Nat}
    (h : declared? frame = some n) :
    4 ≤ frame.length ∧ Pdu.bigEndian (frame.take 4) = n := by
  rw [declared?_eq] at h
  split_ifs at h with hshort
  exact ⟨Nat.not_lt.1 hshort, Option.some.inj h⟩

theorem checkSize_of_le
    {size : Nat}
    (h : Pdu.headerSize ≤ size) :
    f.checkSize size =
      if f.maxFrame < size then .error (.frameTooLarge size f.maxFrame) else .ok () :=
  if_neg (Nat.not_lt.2 h)

/-- A frame that declares its own length is refused only for its length. -/
theorem check_of_declared
    (hdeclared : declared? frame = some frame.length)
    (hsize : Pdu.headerSize ≤ frame.length) :
    f.check frame =
      if f.maxFrame < frame.length then .error (.frameTooLarge frame.length f.maxFrame)
      else .ok () := by
  simp only [check, hdeclared, ne_eq, not_true_eq_false, if_false, checkSize_of_le hsize]

/-- A frame that declares its own length is cut off whatever stands behind it, unless it is
too long. -/
theorem cut_of_declared
    (hdeclared : declared? frame = some frame.length)
    (hsize : Pdu.headerSize ≤ frame.length)
    (rest : List UInt8) :
    f.cut (frame ++ rest) =
      if f.maxFrame < frame.length then .error (.frameTooLarge frame.length f.maxFrame)
      else .ok (some (frame, rest)) := by
  obtain ⟨hword, hlength⟩ := length_of_declared? hdeclared
  split_ifs with hlong
  · have hfront : declared? (frame ++ rest) = some frame.length := by
      rw [declared?_eq, List.take_append_of_le_length hword, hlength, List.length_append,
        if_neg (by omega)]
    simp only [cut, hfront, checkSize_of_le hsize, if_pos hlong]
  · exact cut_frame ⟨hlength, hsize, Nat.not_lt.1 hlong⟩ rest

end Transport.Framing

namespace Pdu

open Transport (Framing)

/-! ### From the stream -/

/-- What the rule admits holds a header with its own length. -/
theorem wordAt_of_admits
    {f : Framing} {frame : List UInt8}
    (h : f.Admits frame) :
    headerSize ≤ frame.length ∧ wordAt frame 0 = frame.length :=
  ⟨h.2.1, h.1⟩

/-- **The reader finds fault with the contents of a frame at most**: with its type, or with
its body. -/
theorem decode_fault_of_admits
    {f : Framing} {frame : List UInt8} {e : Error}
    (h : f.Admits frame)
    (he : decode frame = .error e) :
    (∃ id, e = .unknownCommandId id) ∨ ∃ why, e = .malformed why ∧ why.OfBody := by
  have hdecodes := decodes_decode frame
  generalize decode frame = result at hdecodes he
  cases hdecodes with
  | malformed why hheader =>
      exact absurd (wordAt_of_admits h) hheader
  | @unknown id =>
      exact .inl ⟨id, (Except.error.inj he).symm⟩
  | typed =>
      exact .inr (readTyped_malformed he)

/-! ### To the stream -/

section Encoded

variable {m : Message} {frame : List UInt8}

/-- The length in front of a frame is its own, if it fits there. -/
theorem declared?_encode
    (h : encode m = .ok frame)
    (hlen : frame.length < UInt32.size) :
    Framing.declared? frame = some frame.length ∧ headerSize ≤ frame.length := by
  obtain ⟨body, -, rfl⟩ := encode_eq_ok h
  have hlength := (Header.split_encode (headerOf m body) body).2.2
  refine ⟨?_, hlength ▸ Nat.le_add_right _ _⟩
  have hword : Framing.declared? ((headerOf m body).encode ++ body) =
      some (headerOf m body).length.toNat :=
    congrArg (fun n : UInt32 => some n.toNat) (word32_octets32 (headerOf m body).length)
  rw [hword, hlength]
  rw [hlength] at hlen
  exact congrArg some (UInt32.toNat_ofNat_of_lt hlen)

/-- **Which messages are sent.** A connection writes the frame of a message exactly if it is
not longer than the rule for frames allows. -/
theorem check_encode
    (f : Framing)
    (h : encode m = .ok frame)
    (hlen : frame.length < UInt32.size) :
    f.check frame =
      if f.maxFrame < frame.length then .error (.frameTooLarge frame.length f.maxFrame)
      else .ok () :=
  Framing.check_of_declared (declared?_encode h hlen).1 (declared?_encode h hlen).2

/-- **Which messages are received.** The frame of a message is cut off a stream under the
same condition. -/
theorem cut_encode
    (f : Framing)
    (h : encode m = .ok frame)
    (hlen : frame.length < UInt32.size)
    (rest : List UInt8) :
    f.cut (frame ++ rest) =
      if f.maxFrame < frame.length then .error (.frameTooLarge frame.length f.maxFrame)
      else .ok (some (frame, rest)) :=
  Framing.cut_of_declared (declared?_encode h hlen).1 (declared?_encode h hlen).2 rest

end Encoded

end Pdu
end SmppReplay
