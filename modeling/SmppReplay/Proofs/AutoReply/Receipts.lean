import SmppReplay.Proofs.AutoReply.Answers
import SmppReplay.Proofs.Transport.MessageFrames

/-!
# Received frames

**Question.** A stream is cut into frames, and a responder takes the frames.  Does the
transcript show each of them?

**Answer.** Yes, by one entry, and in the order of the stream (`received_session`).  A frame
that was cut off holds a header, so that number, type and status can be told whatever the
rest of it is; if it is a message, the message shows the same three (`header_of_decode`) and
stands in the entry too.  Answers make entries of other kinds.

Main fact:
* `stream_recorded`: the frames of a stream, their entries, and the way back from a message
  to the stream.
-/

namespace SmppReplay

namespace Pdu

/-! ### The words of a header in a message -/

theorem header_foldl_withTlv (m : Message) (ts : List RawTlv) :
    (ts.foldl withTlv m).type = m.type ∧ (ts.foldl withTlv m).status = m.status ∧
      (ts.foldl withTlv m).sequence = m.sequence := by
  rw [foldl_withTlv_eq]
  exact ⟨rfl, rfl, rfl⟩

/-- A message has the type, the status and the number that its frame opens with. -/
theorem header_of_decode
    {frame : List UInt8} {m : Message}
    (h : decode frame = .ok m) :
    ∃ header, Header.parse frame = .ok header ∧
      m.type.id = header.commandId ∧ m.status = header.status ∧
        m.sequence = header.sequence := by
  obtain ⟨hsize, hlen, type, hid, -⟩ := (decode_isOk_iff frame).1 ⟨m, h⟩
  obtain ⟨header, hsplit, hlength, hcommand, -, -⟩ := Header.split_eq_ok hsize
  have htype : type.id = header.commandId := UInt32.toNat_inj.1 (hid.trans hcommand.symm)
  rw [decode_of_header hsplit (hlength.trans hlen) htype] at h
  refine ⟨header, by rw [Header.parse, hsplit]; rfl, ?_⟩
  unfold readTyped at h
  split_ifs at h
  · obtain rfl := Except.ok.inj h
    exact ⟨htype, rfl, rfl⟩
  · obtain ⟨vs, ts, -, rfl⟩ := (readBody_eq_ok_iff _ _ _).1 h
    obtain ⟨hm, hstatus, hsequence⟩ :=
      header_foldl_withTlv { opening type header with mandatory := _ } ts
    exact ⟨(congrArg MessageType.id hm).trans htype, hstatus, hsequence⟩

/-- The header of a frame is its first four words. -/
theorem parse_eq_words
    {frame : List UInt8} {header : Header}
    (h : Header.parse frame = .ok header) :
    header.commandId = UInt32.ofNat (wordAt frame 4) ∧
      header.status = UInt32.ofNat (wordAt frame 8) ∧
        header.sequence.toNat = wordAt frame 12 := by
  rcases Nat.lt_or_ge frame.length headerSize with hshort | hlong
  · rw [Header.parse, Header.split_eq_error hshort] at h
    cases h
  · obtain ⟨header', hsplit, -, hcommand, hstatus, hsequence⟩ := Header.split_eq_ok hlong
    rw [Header.parse, hsplit] at h
    obtain rfl := Except.ok.inj h
    exact ⟨by rw [← hcommand, UInt32.ofNat_toNat], by rw [← hstatus, UInt32.ofNat_toNat],
      hsequence⟩

end Pdu

namespace AutoReply

open Transcript (Entry)
open Transport (Framing Result)

/-! ### One frame -/

/-- The line for a frame: number, type and status as they stand in its header. -/
def arrivalText (frame : List UInt8) : String :=
  let sequence := Pdu.wordAt frame 12
  let type := MessageType.label (UInt32.ofNat (Pdu.wordAt frame 4))
  let status := StatusCode.label (UInt32.ofNat (Pdu.wordAt frame 8))
  "Received PDU, " ++ s!"seq={sequence}, type={type}, status={status}"

/-- An entry that shows a frame: its own number, type and status, and the message if it is
one. -/
structure Receipt (frame : List UInt8) (e : Entry) : Prop where
  kind : e.kind = .received
  text : e.text = arrivalText frame
  message : e.message = (Pdu.decode frame).toOption

theorem receipt_headerEntry
    {frame : List UInt8} {header : Pdu.Header}
    (hparse : Pdu.Header.parse frame = .ok header)
    (hdecode : ∀ m, Pdu.decode frame ≠ .ok m) :
    Receipt frame (headerEntry header) := by
  obtain ⟨hcommand, hstatus, hsequence⟩ := Pdu.parse_eq_words hparse
  refine ⟨rfl, ?_, ?_⟩
  · have hfront : "Received PDU, seq=" = "Received PDU, " ++ "seq=" := rfl
    have hback : ", status=" = ", " ++ "status=" := rfl
    rw [arrivalText, ← hcommand, ← hstatus, ← hsequence]
    simp only [headerEntry, hfront, hback, String.append_assoc]
    rfl
  · cases h : Pdu.decode frame with
    | error e =>
        rfl
    | ok m =>
        exact absurd h (hdecode m)

theorem receipt_received
    {frame : List UInt8} {m : Message}
    (hdecode : Pdu.decode frame = .ok m) :
    Receipt frame (.received m) := by
  obtain ⟨header, hparse, htype, hstatus, hsequence⟩ := Pdu.header_of_decode hdecode
  obtain ⟨hcommand, hstatusWord, hsequenceWord⟩ := Pdu.parse_eq_words hparse
  refine ⟨rfl, ?_, ?_⟩
  · have hname : MessageType.label m.type.id = m.type.name := by
      rw [MessageType.label, (MessageType.ofId?_eq_some_iff _ _).2 rfl]
    rw [arrivalText, ← hcommand, ← hstatusWord, ← hsequenceWord, ← htype, ← hstatus,
      ← hsequence, hname]
    rfl
  · rw [hdecode]
    rfl

/-- The entries about frames that have arrived. -/
def received (entries : List Entry) : List Entry :=
  entries.filter fun e => e.kind = .received

theorem received_append (entries entries' : List Entry) :
    received (entries ++ entries') = received entries ++ received entries' :=
  List.filter_append ..

/-- The outcome of sending an answer is another kind of entry. -/
theorem received_outcomeEntry (m : Message) (cause? : Option String) :
    received [outcomeEntry m cause?] = [] := by
  cases cause? <;> rfl

/-- **A frame that holds a header makes one entry about its arrival**, whatever becomes of
the answer. -/
theorem received_respond
    {frame : List UInt8}
    (h : Pdu.headerSize ≤ frame.length)
    (enabled : TypeSet) (send : List UInt8 → Result) :
    ∃ e, Receipt frame e ∧ received (respond enabled send frame).entries = [e] := by
  obtain ⟨entry, reply, hdue, hrespond⟩ := exists_due_respond enabled send frame
  rw [hrespond, carryOut, received_append]
  cases hdue with
  | nothing hshort =>
      exact absurd h (Nat.not_le.2 hshort)
  | header _ hparse hnone =>
      exact ⟨_, receipt_headerEntry hparse hnone, rfl⟩
  | entry hdecode =>
      exact ⟨_, receipt_received hdecode, rfl⟩
  | reply hdecode =>
      exact ⟨_, receipt_received hdecode, congrArg (_ :: ·) (received_outcomeEntry _ _)⟩

/-! ### Sessions -/

/-- The frames among some calls, in order. -/
def framesOf : List Call → List (List UInt8)
  | [] => []
  | .set _ _ :: calls => framesOf calls
  | .frame _ frame :: calls => frame :: framesOf calls

/-- **One entry for each frame, in their order.** -/
theorem received_session
    {calls : List Call}
    (h : ∀ frame ∈ framesOf calls, Pdu.headerSize ≤ frame.length)
    (enabled : TypeSet) :
    List.Forall₂ Receipt (framesOf calls)
      (received ((session enabled calls).flatMap Response.entries)) := by
  induction calls generalizing enabled with
  | nil =>
      exact .nil
  | cons call calls ih =>
      cases call with
      | set t b =>
          exact ih h (enabled.switch t b)
      | frame send frame =>
          obtain ⟨e, hreceipt, hentries⟩ :=
            received_respond (h frame List.mem_cons_self) enabled send
          have hrest := ih (fun frame' hmem =>
            h frame' (List.mem_cons_of_mem frame hmem)) enabled
          rw [session, List.flatMap_cons, received_append, hentries]
          exact .cons hreceipt hrest

/-! ### Streams -/

/-- A frame that a responder can tell: it holds a header, which declares the frame's own
length, and nothing but its type or its body can be wrong. -/
structure Recognisable (f : Framing) (frame : List UInt8) : Prop where
  size : Pdu.headerSize ≤ frame.length ∧ frame.length ≤ f.maxFrame
  length : Pdu.wordAt frame 0 = frame.length
  parsed : ∃ header, Pdu.Header.parse frame = .ok header
  fault : ∀ e, Pdu.decode frame = .error e →
    (∃ id, e = .unknownCommandId id) ∨ ∃ why, e = .malformed why ∧ why.OfBody
  matching : ∀ declared size,
    Pdu.decode frame ≠ .error (.malformed (.lengthMismatch declared size))

theorem recognisable_of_admits
    {f : Framing} {frame : List UInt8}
    (h : f.Admits frame) :
    Recognisable f frame where
  size := h.2
  length := h.1
  parsed := parse_eq_ok h.2.1
  fault := fun _ => Pdu.decode_fault_of_admits h
  matching := by
    intro declared size he
    rcases Pdu.decode_fault_of_admits h he with ⟨id, hid⟩ | ⟨why, hwhy, hbody⟩
    · cases hid
    · obtain rfl := Pdu.Error.malformed.inj hwhy
      exact hbody

/-- **Streams and transcripts show the same frames.** Every frame of a stream is one that a
responder can tell, and if the frames are handed over in order, each makes one entry about
its arrival, in the same order.  The other way round, a message that has a frame is written
to a stream exactly if the frame is not too long, and then it is the frame that is cut off
there, whatever follows. -/
theorem stream_recorded (f : Framing) :
    (∀ pieces enabled calls, framesOf calls = (f.feedAll pieces).frames →
      (∀ frame ∈ (f.feedAll pieces).frames, Recognisable f frame) ∧
      List.Forall₂ Receipt (f.feedAll pieces).frames
        (received ((session enabled calls).flatMap Response.entries))) ∧
    ∀ m frame, Pdu.encode m = .ok frame → frame.length < UInt32.size → ∀ out rest,
      f.write frame out =
          (if f.maxFrame < frame.length then .error (.frameTooLarge frame.length f.maxFrame)
          else .ok (out ++ frame)) ∧
        f.cut (frame ++ rest) =
          if f.maxFrame < frame.length then .error (.frameTooLarge frame.length f.maxFrame)
          else .ok (some (frame, rest)) := by
  constructor
  · intro pieces enabled calls hcalls
    have hadmits : ∀ frame ∈ (f.feedAll pieces).frames, f.Admits frame := by
      rw [Framing.feedAll_eq_drain]
      exact (Framing.cuts_drain f pieces.flatten).admits
    refine ⟨fun frame hmem => recognisable_of_admits (hadmits frame hmem), ?_⟩
    rw [← hcalls]
    refine received_session (fun frame hmem => ?_) enabled
    exact (hadmits frame (hcalls ▸ hmem)).2.1
  · intro m frame hencode hlen out rest
    refine ⟨?_, Pdu.cut_encode f hencode hlen rest⟩
    rw [Framing.write_eq, Pdu.check_encode f hencode hlen]
    split_ifs <;> rfl

/-- An inquiry with the number 9. -/
def inquiryFrame : List UInt8 :=
  [0, 0, 0, 16, 0, 0, 0, 21, 0, 0, 0, 0, 0, 0, 0, 9]

/-- A frame of no type, with the number 1. -/
def typelessFrame : List UInt8 :=
  [0, 0, 0, 17, 0, 0, 0, 99, 0, 0, 0, 0, 0, 0, 0, 1, 5]

/-- An inquiry and a frame of no type, in pieces that end inside either of them: each has
its entry, also if the answer to the inquiry is not sent. -/
theorem stream_recorded_pieces :
    List.Forall₂ Receipt [inquiryFrame, typelessFrame]
        (received ((session (.ofList standardTypes)
          [.frame (fun _ => .failed .disconnected) inquiryFrame,
            .frame (fun _ => .ok) typelessFrame]).flatMap Response.entries)) ∧
      Framing.cut {} (inquiryFrame ++ typelessFrame) =
        .ok (some (inquiryFrame, typelessFrame)) := by
  have hframes : (Framing.feedAll {} [inquiryFrame.take 3, inquiryFrame.drop 3 ++ [0, 0],
      typelessFrame.drop 2]).frames = [inquiryFrame, typelessFrame] := by
    decide +kernel
  obtain ⟨hrecorded, hwritten⟩ := stream_recorded {}
  constructor
  · rw [← hframes]
    refine (hrecorded _ _ _ ?_).2
    rw [hframes]
    rfl
  · exact (hwritten (Message.build .enquireLink [.sequence 9]) inquiryFrame
      (by decide +kernel) (by decide) [] typelessFrame).2

end AutoReply
end SmppReplay
