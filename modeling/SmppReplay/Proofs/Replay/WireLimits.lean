import SmppReplay.Proofs.Batch.Messages
import SmppReplay.Proofs.Pdu.Renumbering
import SmppReplay.Proofs.Replay.Aborts
import SmppReplay.Proofs.Transport.MessageFrames
import SmppReplay.Transport.Connection

/-!
# Compiled messages on the wire

**Question.**  Can every message of a compiled script be sent over a connection that works?

A message that compiles has a frame whatever number it is sent with, and all these frames
have one length.  A connection writes a frame if and only if it is not longer than the
connection's rule allows (`check_encode`), and the compiler does not ask how long that is.

**Answer.** Messages whose optional texts and payloads take at most 58989 octets together
are always sent; a run over a connection that works is then not aborted.  If such a run is
aborted, a message with a longer frame is the cause (`compiled_sendable`).  A payload of the
greatest length that has a wire form makes such a frame (`compiled_payload_refused`).
-/

namespace SmppReplay

namespace Replay

open Script (Element)
open Transcript (Entry)
open Transport (Connection Endpoint Framing Result)

/-! ### Runs over a connection that works -/

/-- Every connection of the run works: it says that it is connected, and its system writes
all frames that the default rule allows. -/
structure Healthy (s : State) : Prop where
  connected : ∀ state, .stateReturned state ∈ s.trace → state = .connected
  written : ∀ m frame result, .sendReturned .script m frame result ∈ s.trace →
    result = (Connection.opened {}).sendResult frame .ok

/-- **What aborts a run over connections that work** is a message without a frame, or one
whose frame is refused. -/
theorem refused_of_aborted
    {batch : Batch} {s : State} {o : Outcome}
    (h : Accounted batch s)
    (hhealthy : Healthy s)
    (ho : s.outcome? = some o) :
    o = .completed ∨ ∃ m n cause, Event.send m ∈ batch ∧
      o = .aborted (Entry.failureText (m.withSequence n) cause) ∧
      ((∃ e, Pdu.encode (m.withSequence n) = .error e) ∨
        ∃ frame e, Pdu.encode (m.withSequence n) = .ok frame ∧ cause = e.message ∧
          Framing.check {} frame = .error e) := by
  rcases h.ending (task_of_outcome? ho) with ⟨hcompleted, -⟩ | ⟨f, hf, rfl⟩
  · exact .inl hcompleted
  have hm : Event.send f.message ∈ batch :=
    (Fault.stops h hf).last.1.subset (List.mem_append_right _ List.mem_cons_self)
  have htrace : ∀ k ∈ f.attempt, k ∈ s.trace := fun k hk =>
    List.mem_of_mem_filter (hf.subset (List.mem_append_right _ (List.mem_cons_of_mem _ hk)))
  refine .inr ⟨f.message, (f.standing.numbered f.message).sequence, f.cause, hm, rfl, ?_⟩
  obtain ⟨_, _, st, m, attempt, cause, _, _, hfails⟩ := f
  cases hfails with
  | notConnected hstate =>
      exact absurd (hhealthy.connected _ (htrace _ (by simp))) hstate
  | unwritable hencode =>
      exact .inl ⟨_, hencode⟩
  | @unsent frame e hencode =>
      have hresult := hhealthy.written (st.numbered m) frame (.failed e) (htrace _ (by simp))
      refine .inr ⟨frame, e, hencode, rfl, ?_⟩
      simp only [Connection.sendResult, Connection.opened, if_true] at hresult
      split at hresult
      · cases hresult
      · rename_i e' hcheck
        rw [hcheck, Result.failed.inj hresult]

/-! ### Scripts with one payload -/

/-- An element with a payload of one line. -/
def payloadElement (line : String) : Element :=
  .mk "MessagePayload" [] "" [.mk "line" [] line []]

/-- A script that connects and sends one message with a payload of one line. -/
def payloadScript (line : String) : Element :=
  .mk "Batch" [] "" [.mk "Connect" [] "" [.mk "Server" [] "" []],
    .mk "PDU" [("type", "DATA_SM")] "" [payloadElement line]]

/-- The message with a payload. -/
def payloadMessage (payload : List UInt8) : Message :=
  .build .dataSm [.sequence 1, .setOptional .messagePayload (.octets payload)]

theorem linesOrText_payloadElement (line : String) :
    Batch.linesOrText (payloadElement line) = line ++ "\n" := by
  have hlines : (payloadElement line).childrenNamed "line" = [.mk "line" [] line []] := rfl
  rw [Batch.linesOrText, hlines]
  simp [String.join, Element.text]

/-- A payload is written as it is, behind the other fields and its own tag and length. -/
theorem encode_payloadMessage
    {payload : List UInt8}
    (h : payload.length ≤ 65535) :
    ∃ frame, Pdu.encode (payloadMessage payload) = .ok frame ∧
      frame.length = 30 + payload.length := by
  have hlength : Pdu.encodeTlvLength "MessagePayload" payload.length =
      .ok (Pdu.octets16 (UInt16.ofNat payload.length)) :=
    if_neg (Nat.not_lt.2 h)
  have hfield : Pdu.encodeOptional FieldTable.messagePayload (.octets payload) =
      .ok ([4, 36] ++ (Pdu.octets16 (UInt16.ofNat payload.length) ++ payload)) := by
    change ((Pdu.encodeTlvLength "MessagePayload" payload.length).map
      fun len => len ++ payload).map _ = _
    rw [hlength]
    rfl
  have hparts : Pdu.encodeBody (payloadMessage payload) = (do
      let optional ← [(FieldTable.messagePayload, FieldValue.octets payload)].mapM
        fun e => Pdu.encodeOptional e.1 e.2
      pure (List.replicate 10 0 ++ optional.flatten ++ [])) := rfl
  have hbody : Pdu.encodeBody (payloadMessage payload) = .ok (List.replicate 10 0 ++
      ([4, 36] ++ (Pdu.octets16 (UInt16.ofNat payload.length) ++ payload) ++ []) ++ []) := by
    rw [hparts, List.mapM_cons, hfield]
    rfl
  have hframe : Pdu.encode (payloadMessage payload) = _ := congrArg (Except.map _) hbody
  refine ⟨_, hframe, ?_⟩
  rw [(Pdu.Header.split_encode _ _).2.2]
  simp only [List.append_nil, List.length_append, List.length_replicate, Pdu.octets16,
    Pdu.headerSize, List.length_cons, List.length_nil]
  omega

/-- The compiler takes any payload that has a wire form. -/
theorem compile_payloadScript
    {line : String}
    (h : (Text.Utf8.encode (line ++ "\n")).length ≤ 65535) :
    Batch.compile {} (payloadScript line) =
      .ok [.connect ⟨"localhost", 2775⟩,
        .send (payloadMessage (Text.Utf8.encode (line ++ "\n")))] := by
  obtain ⟨frame, hframe, -⟩ := encode_payloadMessage h
  have hconnect : Batch.element {} 1 (.mk "Connect" [] "" [.mk "Server" [] "" []]) =
      .ok [.connect ⟨"localhost", 2775⟩] := by
    decide +kernel
  have hmessage : Batch.message {} 1
    (.mk "PDU" [("type", "DATA_SM")] "" [payloadElement line]) =
      .ok (payloadMessage (Text.Utf8.encode (line ++ "\n"))) := by
    rw [← linesOrText_payloadElement] at hframe ⊢
    change (Batch.ofPdu (Pdu.encode (payloadMessage _)) >>= fun _ =>
      .ok (payloadMessage _)) = _
    rw [hframe]
    rfl
  have hnamed : (Element.mk "PDU" [("type", "DATA_SM")] ""
      [payloadElement line]).isNamed "PDU" := by
    change Text.eqIgnoringCase "PDU" "PDU"
    decide
  have hnext : Batch.nextAfter 1 (.mk "Connect" [] "" [.mk "Server" [] "" []]) = 1 := by
    decide
  change Batch.elements {} 1 [_, _] = _
  rw [Batch.elements, hconnect, hnext, Batch.elements, Batch.element, if_pos hnamed, hmessage]
  rfl

/-! ### Compiled batches -/

section Compiled

variable {d : Batch.Defaults} {root : Script.Element} {batch : Batch} {m : Message}
  {n : UInt32}
  {frame : List UInt8}

/-- A message of a compiled script has no raw fields, and a frame with every number. -/
theorem exists_frame_of_mem_compile
    (h : Batch.compile d root = .ok batch)
    (hm : Event.send m ∈ batch) :
    m.unknown = [] ∧ ∃ frame, Pdu.encode m = .ok frame ∧
      ∀ n, Pdu.encode (m.withSequence n) = .ok (Pdu.renumber n frame) := by
  obtain ⟨pdu, -, next, hmessage⟩ := Batch.exists_message_of_mem_elements h hm
  have hmade := Batch.made_of_message hmessage
  obtain ⟨frame, hframe⟩ := hmade.exists_frame
  refine ⟨hmade.drafted.noRaw, frame, hframe, fun n => ?_⟩
  rw [Pdu.encode_withSequence, hframe]
  rfl

/-- The default rule for frames asks for the length of a compiled message and nothing else. -/
theorem check_of_mem_compile
    (h : Batch.compile d root = .ok batch)
    (hm : Event.send m ∈ batch)
    (hframe : Pdu.encode (m.withSequence n) = .ok frame) :
    Framing.check {} frame =
      if 65536 < frame.length then .error (.frameTooLarge frame.length 65536) else .ok () :=
  Pdu.check_encode {} hframe (Pdu.length_encode_lt hframe
    (exists_frame_of_mem_compile h hm).1)

/-- The longest type leaves 58989 octets for texts and payloads. -/
theorem length_le_of_freeOctets_le
    (h : Batch.compile d root = .ok batch)
    (hm : Event.send m ∈ batch)
    (hfree : m.freeOctets ≤ 58989)
    (hframe : Pdu.encode (m.withSequence n) = .ok frame) :
    frame.length ≤ 65536 := by
  have hraw : (m.withSequence n).unknown = [] := (exists_frame_of_mem_compile h hm).1
  have hle := Pdu.length_encode_le hframe hraw
  change frame.length ≤ m.type.boundedOctets + m.freeOctets at hle
  have htype := Pdu.boundedOctets_le m.type
  omega

/-- A run of a compiled script over connections that work is aborted by a long frame only. -/
theorem completed_or_refused
    (h : Batch.compile d root = .ok batch)
    {defaults : AutoReply.TypeSet} {moves : List Move} {o : Outcome}
    (hhealthy : Healthy (steps (.start defaults batch) moves))
    (ho : (steps (.start defaults batch) moves).outcome? = some o) :
    o = .completed ∨ ∃ m n frame, Event.send m ∈ batch ∧
      Pdu.encode (m.withSequence n) = .ok frame ∧ 65536 < frame.length ∧
      o = .aborted (Entry.failureText (m.withSequence n)
        (Transport.Error.frameTooLarge frame.length 65536).message) := by
  rcases refused_of_aborted (accounted_steps defaults batch moves) hhealthy ho with
    hcompleted | ⟨m, n, cause, hm, hcause, ⟨e, he⟩ | ⟨frame, e, hframe, rfl, hrefused⟩⟩
  · exact .inl hcompleted
  · obtain ⟨-, frame, -, hall⟩ := exists_frame_of_mem_compile h hm
    rw [hall n] at he
    cases he
  · rw [check_of_mem_compile h hm hframe] at hrefused
    split_ifs at hrefused with hlong
    obtain rfl := Except.error.inj hrefused
    exact .inr ⟨m, n, frame, hm, hframe, hlong, hcause⟩

end Compiled

/-- What holds of the messages of a batch that are sent over connections with the default
rule. -/
structure Sendable (batch : Batch) : Prop where
  /-- A message has a frame with every number, and it is written if it is not longer than
  the rule allows. -/
  written : ∀ m, Event.send m ∈ batch → ∃ frame, Pdu.encode m = .ok frame ∧
    ∀ n, Pdu.encode (m.withSequence n) = .ok (Pdu.renumber n frame) ∧
      (Framing.check {} (Pdu.renumber n frame) = .ok () ↔ frame.length ≤ 65536)
  /-- Short texts and payloads make frames that are written. -/
  short : ∀ m, Event.send m ∈ batch → m.freeOctets ≤ 58989 →
    ∀ n frame, Pdu.encode (m.withSequence n) = .ok frame → Framing.check {} frame = .ok ()
  /-- If all connections work, only a message with a longer frame aborts a run. -/
  aborted : ∀ defaults moves o, Healthy (steps (.start defaults batch) moves) →
    (steps (.start defaults batch) moves).outcome? = some o → o = .completed ∨
      ∃ m n frame, Event.send m ∈ batch ∧ Pdu.encode (m.withSequence n) = .ok frame ∧
        65536 < frame.length ∧
        o = .aborted (Entry.failureText (m.withSequence n)
          (Transport.Error.frameTooLarge frame.length 65536).message)
  /-- So nothing aborts it if all texts and payloads are short. -/
  completed : (∀ m, Event.send m ∈ batch → m.freeOctets ≤ 58989) →
    ∀ defaults moves o, Healthy (steps (.start defaults batch) moves) →
      (steps (.start defaults batch) moves).outcome? = some o → o = .completed

/-- **Compiled messages on the wire.** Every message of a compiled script has a frame with
every number.  A connection with the default rule writes it exactly if it has at most 65536
octets, which is so if the optional texts and payloads of the message take at most 58989;
and nothing else keeps a run over connections that work from its end. -/
theorem compiled_sendable
    (d : Batch.Defaults) (root : Script.Element) (batch : Batch)
    (h : Batch.compile d root = .ok batch) :
    Sendable batch := by
  refine ⟨?_, ?_, fun _ _ _ => completed_or_refused h, ?_⟩
  · intro m hm
    obtain ⟨hraw, frame, hframe, hall⟩ := exists_frame_of_mem_compile h hm
    have hheader := (Pdu.declared?_encode hframe (Pdu.length_encode_lt hframe hraw)).2
    refine ⟨frame, hframe, fun n => ⟨hall n, ?_⟩⟩
    rw [check_of_mem_compile h hm (hall n), Pdu.length_renumber n hheader]
    split_ifs with hlong
    · exact iff_of_false (fun hok => by cases hok) (Nat.not_le.2 hlong)
    · exact iff_of_true rfl (Nat.not_lt.1 hlong)
  · intro m hm hfree n frame hframe
    rw [check_of_mem_compile h hm hframe,
      if_neg (Nat.not_lt.2 (length_le_of_freeOctets_le h hm hfree hframe))]
  · intro hfree defaults moves o hhealthy ho
    rcases completed_or_refused h hhealthy ho with hcompleted | ⟨m, n, frame, hm,
      hframe, hlong, -⟩
    · exact hcompleted
    · exact absurd hlong (Nat.not_lt.2 (length_le_of_freeOctets_le h hm (hfree m hm) hframe))

/-- A run that sends a short payload is not aborted while the connections work. -/
theorem compiled_hello_completes :
    ∃ batch, Batch.compile {} (payloadScript "hello") = .ok batch ∧
      ∀ defaults moves o, Healthy (steps (.start defaults batch) moves) →
        (steps (.start defaults batch) moves).outcome? = some o → o = .completed := by
  have hcompile : Batch.compile {} (payloadScript "hello") = _ :=
    compile_payloadScript (by decide)
  refine ⟨_, hcompile, (compiled_sendable _ _ _ hcompile).completed ?_⟩
  intro m hm
  obtain rfl : m = payloadMessage (Text.Utf8.encode ("hello" ++ "\n")) := by
    simpa using hm
  decide

/-! ### A message that compiles and is refused -/

/-- A message whose frame is refused aborts the run, although the connection works. -/
theorem aborted_of_refused
    {peer : Endpoint} {m : Message} {frame : List UInt8} {e : Transport.Error}
    (hseq : ¬m.sequence < 1)
    (hframe : Pdu.encode m = .ok frame)
    (hrefused : Framing.check {} frame = .error e) :
    ∃ moves, Healthy (steps (.start .empty [.connect peer, .send m]) moves) ∧
      (steps (.start .empty [.connect peer, .send m]) moves).outcome? =
        some (.aborted (Entry.failureText m e.message)) := by
  have hresult : .failed e = (Connection.opened {}).sendResult frame .ok := by
    simp [Connection.sendResult, Connection.opened, hrefused]
  have hnumbered : m.withSequence m.sequence = m := rfl
  refine ⟨[.proceed, .opened .ok, .proceed, .state .connected, .sent (.failed e), .reported,
    .closed .ok], ?_⟩
  have hrun : steps (.start .empty [.connect peer, .send m])
      [.proceed, .opened .ok, .proceed, .state .connected, .sent (.failed e), .reported,
        .closed .ok] =
    { defaults := .empty
      rest := []
      processed := 2
      task := .finished (.aborted (Entry.failureText m e.message))
      nextSequence := m.sequence + 1
      trace := [.took (.connect peer), .openCalled peer, .openReturned peer .ok,
        .logged .script (connectedEntry peer), .took (.send m), .stateReturned .connected,
        .sendCalled .script m frame, .sendReturned .script m frame (.failed e),
        .logged .script (.sendFailed m e.message), .closeCalled, .closeReturned .ok,
        .logged .script disconnectedEntry] } := by
    simp [steps, step, State.start, State.proceed, State.take, State.opened, State.mark,
      State.record, State.numbered, hseq, hnumbered, State.asked, hframe, State.sent,
      State.reported, State.abort, State.finish, State.closed, finalCloseEntry, Result.cause?]
  rw [hrun]
  refine ⟨⟨by simp, ?_⟩, rfl⟩
  simp only [List.mem_cons, Mark.sendReturned.injEq, reduceCtorEq, List.not_mem_nil, false_or,
    or_false, true_and]
  rintro _ _ _ ⟨rfl, rfl, rfl⟩
  exact hresult

/-- A letter is one octet. -/
theorem length_encode_letters (k : Nat) :
    (Text.Utf8.encode (String.ofList (List.replicate k 'a') ++ "\n")).length = k + 1 := by
  have hline : ("\n".toList.map fun c => (String.utf8EncodeChar c).length).sum = 1 := by
    decide
  have hletter : (String.utf8EncodeChar 'a').length = 1 := by
    decide
  rw [Text.Utf8.encode, String.toList_append, String.toList_ofList, List.length_flatMap,
    List.map_append, List.sum_append, hline, List.map_replicate, hletter, List.sum_replicate,
    smul_eq_mul, Nat.mul_one]

/-- The longest payload that has a wire form compiles and is refused: the run is aborted. -/
theorem compiled_payload_refused :
    ∃ peer m frame,
      Batch.compile {} (payloadScript (String.ofList (List.replicate 65534 'a'))) =
        .ok [.connect peer, .send m] ∧
      Pdu.encode m = .ok frame ∧
      Framing.check {} frame = .error (.frameTooLarge 65565 65536) ∧
      ∃ moves, Healthy (steps (.start .empty [.connect peer, .send m]) moves) ∧
        (steps (.start .empty [.connect peer, .send m]) moves).outcome? =
          some (.aborted (Entry.failureText m
            (Transport.Error.frameTooLarge 65565 65536).message)) := by
  have hpayload := length_encode_letters 65534
  obtain ⟨frame, hframe, hlength⟩ := encode_payloadMessage hpayload.le
  rw [hpayload] at hlength
  have hrefused : Framing.check {} frame = .error (.frameTooLarge 65565 65536) := by
    rw [Pdu.check_encode {} hframe (Pdu.length_encode_lt hframe rfl), hlength]
    rfl
  exact ⟨_, _, frame, compile_payloadScript hpayload.le, hframe, hrefused,
    aborted_of_refused (by decide) hframe hrefused⟩

end Replay
end SmppReplay
