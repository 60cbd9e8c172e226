import SmppReplay.AutoReply.Responder
import SmppReplay.Proofs.Pdu.Frame

/-!
# What a frame is due

**Question.**  A frame of any octets arrives.  What is recorded, and what is sent?

`Due` lists the four cases.  A frame without a header is due nothing; one that is no
message, an entry about its header; a message that is not answered, an entry with the
message; and a request that is answered, such an entry and one reply.  A reply always has a
wire form (`encode_answer`), so that it can be handed over.

A responder takes frames and settings in any order (`session`).  Each frame gets what it is
due under the settings in front of it, whatever became of earlier replies.

Main facts:
* `exists_due`: each frame falls under one of the cases;
* `session_frame`: what a frame of a session leads to.
-/

namespace SmppReplay
namespace AutoReply

open Transcript (Entry)
open Transport (Result)

/-! ### Answers -/

/-- A request that can be answered, and the type of its answer. -/
inductive Pairs : MessageType → MessageType → Prop
  | enquireLink : Pairs .enquireLink .enquireLinkResp
  | deliverSm : Pairs .deliverSm .deliverSmResp

theorem Pairs.isAnswerable
    {t u : MessageType}
    (h : Pairs t u) :
    isAnswerable t = true := by
  cases h <;> rfl

theorem Pairs.response?_eq
    {t u : MessageType}
    (h : Pairs t u) :
    t.response? = some u := by
  cases h <;> decide

theorem exists_pairs_of_isAnswerable
    {t : MessageType}
    (h : isAnswerable t = true) :
    ∃ u, Pairs t u := by
  unfold isAnswerable at h
  split at h
  · exact ⟨_, Pairs.enquireLink⟩
  · exact ⟨_, Pairs.deliverSm⟩
  · cases h

/-- The answer of a type to the request with a number: its status is that of success, and
its fields are the default ones. -/
def answer (u : MessageType) (n : UInt32) : Message :=
  (Message.new u).withSequence n

/-- The octets behind the header of an answer: those of an empty text, or none. -/
def answerBody : MessageType → List UInt8
  | .deliverSmResp => [0]
  | _ => []

/-- The octets of an answer. -/
def answerFrame (u : MessageType) (n : UInt32) : List UInt8 :=
  let length := UInt32.ofNat (Pdu.headerSize + (answerBody u).length)
  (Pdu.Header.mk length u.id 0 n).encode ++ answerBody u

/-- **Every answer has a wire form.** -/
theorem encode_answer
    {t u : MessageType}
    (h : Pairs t u)
    (n : UInt32) :
    Pdu.encode (answer u n) = .ok (answerFrame u n) := by
  -- The number stands in the header only, so that the body is that of one closed message.
  have hnumber : Pdu.encodeBody (answer u n) = Pdu.encodeBody (Message.new u) := rfl
  have hbody : Pdu.encodeBody (Message.new u) = .ok (answerBody u) := by
    cases h <;> decide
  have hsupported : (answer u n).layout.unsupported = none := by
    cases h <;> rfl
  unfold Pdu.encode
  rw [hsupported, hnumber, hbody]
  rfl

/-- A reply is due to a request that can be answered and that is of a type in the set. -/
theorem reply?_eq_some_iff
    {enabled : TypeSet} {frame : List UInt8} {m : Message}
    (hdecode : Pdu.decode frame = .ok m)
    (r : Message) :
    reply? enabled frame = some r ↔
      ∃ u, Pairs m.type u ∧ enabled.contains m.type = true ∧ r = answer u m.sequence := by
  unfold reply?
  rw [hdecode]
  constructor
  · intro h
    obtain ⟨hcan, hresponse⟩ := Option.ite_none_right_eq_some.1 h
    rw [Bool.and_eq_true] at hcan
    obtain ⟨u, hu⟩ := exists_pairs_of_isAnswerable hcan.1
    rw [Message.response?, hu.response?_eq] at hresponse
    exact ⟨u, hu, hcan.2, (Option.some.inj hresponse).symm⟩
  · rintro ⟨u, hu, henabled, rfl⟩
    simp only [hu.isAnswerable, henabled, Message.response?, hu.response?_eq, Bool.and_self,
      if_true, Option.map_some]
    rfl

/-! ### What is due -/

/-- What a frame is due while some types are enabled: the entry that its arrival makes, and
the reply that is handed over. -/
inductive Due (enabled : TypeSet) (frame : List UInt8) :
    Option Entry → Option (Message × List UInt8) → Prop
  /-- The frame does not hold a header. -/
  | nothing (h : frame.length < Pdu.headerSize) :
      Due enabled frame none none
  /-- The frame holds a header, and is no message. -/
  | header {header : Pdu.Header} (h : Pdu.headerSize ≤ frame.length)
      (hparse : Pdu.Header.parse frame = .ok header)
      (hdecode : ∀ m, Pdu.decode frame ≠ .ok m) :
      Due enabled frame (some (headerEntry header)) none
  /-- The message is none that can be answered, or not of a type in the set. -/
  | entry {m : Message} (hdecode : Pdu.decode frame = .ok m)
      (h : ∀ u, Pairs m.type u → enabled.contains m.type = false) :
      Due enabled frame (some (.received m)) none
  /-- The request is answered. -/
  | reply {m : Message} {u : MessageType} {bs : List UInt8}
      (hdecode : Pdu.decode frame = .ok m)
      (hpair : Pairs m.type u) (h : enabled.contains m.type = true)
      (hencode : Pdu.encode (answer u m.sequence) = .ok bs) :
      Due enabled frame (some (.received m)) (some (answer u m.sequence, bs))

theorem parse_eq_ok
    {frame : List UInt8}
    (h : Pdu.headerSize ≤ frame.length) :
    ∃ header, Pdu.Header.parse frame = .ok header := by
  obtain ⟨header, hsplit, -⟩ := Pdu.Header.split_eq_ok h
  exact ⟨header, by rw [Pdu.Header.parse, hsplit]; rfl⟩

theorem parse_eq_error
    {frame : List UInt8}
    (h : frame.length < Pdu.headerSize) :
    Pdu.Header.parse frame = .error (.malformed (.shortFrame frame.length)) := by
  rw [Pdu.Header.parse, Pdu.Header.split_eq_error h]
  rfl

theorem decode_eq_error
    {frame : List UInt8}
    (h : frame.length < Pdu.headerSize) :
    Pdu.decode frame = .error (.malformed (.shortFrame frame.length)) := by
  unfold Pdu.decode
  rw [Pdu.Header.split_eq_error h]
  rfl

/-- **Each frame falls under one of the cases.** The entry is the one of the frame's
arrival, and a reply is handed over if there is one. -/
theorem exists_due (enabled : TypeSet) (frame : List UInt8) :
    ∃ reply, Due enabled frame (arrivalEntry frame) reply ∧
      reply? enabled frame = reply.map Prod.fst ∧
      ∀ m bs, reply = some (m, bs) → Pdu.encode m = .ok bs := by
  cases hdecode : Pdu.decode frame with
  | error e =>
      have hreply : reply? enabled frame = none := by
        rw [reply?, hdecode]
      have hnone : ∀ m, Pdu.decode frame ≠ .ok m := by
        rw [hdecode]
        exact fun m h => nomatch h
      refine ⟨none, ?_, hreply, fun _ _ h => nomatch h⟩
      rw [arrivalEntry, hdecode]
      rcases Nat.lt_or_ge frame.length Pdu.headerSize with hshort | hlong
      · rw [parse_eq_error hshort]
        exact Due.nothing hshort
      · obtain ⟨header, hparse⟩ := parse_eq_ok hlong
        rw [hparse]
        exact Due.header hlong hparse hnone
  | ok m =>
      have hentry : arrivalEntry frame = some (.received m) := by
        rw [arrivalEntry, hdecode]
      rw [hentry]
      cases hreply : reply? enabled frame with
      | none =>
          refine ⟨none, Due.entry hdecode ?_, rfl, fun _ _ h => nomatch h⟩
          intro u hu
          refine Bool.eq_false_iff.2 fun henabled => ?_
          have hsome := (reply?_eq_some_iff hdecode _).2 ⟨u, hu, henabled, rfl⟩
          rw [hreply] at hsome
          cases hsome
      | some r =>
          obtain ⟨u, hu, henabled, rfl⟩ := (reply?_eq_some_iff hdecode r).1 hreply
          have hencode := encode_answer hu m.sequence
          refine ⟨some (_, _), Due.reply hdecode hu henabled hencode, rfl, ?_⟩
          rintro _ _ ⟨⟩
          exact hencode

theorem Pairs.right_unique
    {t u u' : MessageType}
    (h : Pairs t u)
    (h' : Pairs t u') :
    u = u' := by
  cases h <;> cases h' <;> rfl

/-- The cases exclude one another. -/
theorem Due.unique
    {enabled : TypeSet} {frame : List UInt8} {entry entry' : Option Entry}
    {reply reply' : Option (Message × List UInt8)}
    (h : Due enabled frame entry reply)
    (h' : Due enabled frame entry' reply') :
    entry = entry' ∧ reply = reply' := by
  have hshort : ∀ {m}, Pdu.decode frame = .ok m → ¬ frame.length < Pdu.headerSize := by
    intro m hdecode hlt
    rw [decode_eq_error hlt] at hdecode
    cases hdecode
  cases h with
  | nothing hlt =>
      cases h' with
      | nothing =>
          exact ⟨rfl, rfl⟩
      | header hle =>
          exact absurd hlt (Nat.not_lt.2 hle)
      | entry hdecode | reply hdecode =>
          exact absurd hlt (hshort hdecode)
  | header hle hparse hnone =>
      cases h' with
      | nothing hlt =>
          exact absurd hlt (Nat.not_lt.2 hle)
      | header hle' hparse' =>
          obtain rfl := Except.ok.inj (hparse.symm.trans hparse')
          exact ⟨rfl, rfl⟩
      | entry hdecode | reply hdecode =>
          exact absurd hdecode (hnone _)
  | entry hdecode hsilent =>
      cases h' with
      | nothing hlt =>
          exact absurd hlt (hshort hdecode)
      | header hle hparse hnone =>
          exact absurd hdecode (hnone _)
      | entry hdecode' =>
          obtain rfl := Except.ok.inj (hdecode.symm.trans hdecode')
          exact ⟨rfl, rfl⟩
      | reply hdecode' hpair henabled =>
          obtain rfl := Except.ok.inj (hdecode.symm.trans hdecode')
          exact absurd henabled (ne_true_of_eq_false (hsilent _ hpair))
  | reply hdecode hpair henabled hencode =>
      cases h' with
      | nothing hlt =>
          exact absurd hlt (hshort hdecode)
      | header hle hparse hnone =>
          exact absurd hdecode (hnone _)
      | entry hdecode' hsilent =>
          obtain rfl := Except.ok.inj (hdecode.symm.trans hdecode')
          exact absurd henabled (ne_true_of_eq_false (hsilent _ hpair))
      | reply hdecode' hpair' henabled' hencode' =>
          obtain rfl := Except.ok.inj (hdecode.symm.trans hdecode')
          obtain rfl := hpair.right_unique hpair'
          obtain rfl := Except.ok.inj (hencode.symm.trans hencode')
          exact ⟨rfl, rfl⟩

theorem Due.reply?_eq
    {enabled : TypeSet} {frame : List UInt8} {entry : Option Entry}
    {reply : Option (Message × List UInt8)}
    (h : Due enabled frame entry reply) :
    reply? enabled frame = reply.map Prod.fst := by
  obtain ⟨reply', hdue, hreply, -⟩ := exists_due enabled frame
  rw [hreply, (h.unique hdue).2]

/-- What is due, carried out: the reply is handed over, and its outcome is recorded. -/
def carryOut (send : List UInt8 → Result) (entry : Option Entry)
    (reply : Option (Message × List UInt8)) : Response where
  entries := entry.toList ++ (reply.map fun r => outcomeEntry r.1 (send r.2).cause?).toList
  attempt := reply.map Prod.snd

theorem exists_due_respond (enabled : TypeSet) (send : List UInt8 → Result)
    (frame : List UInt8) :
    ∃ entry reply, Due enabled frame entry reply ∧
      respond enabled send frame = carryOut send entry reply := by
  obtain ⟨reply, hdue, hreply, hencode⟩ := exists_due enabled frame
  refine ⟨_, reply, hdue, ?_⟩
  unfold respond
  cases reply with
  | none =>
      rw [Option.map_none] at hreply
      rw [hreply, carryOut]
      exact congrArg (Response.mk · none) (List.append_nil _).symm
  | some r =>
      rw [Option.map_some] at hreply
      simp only [hreply, hencode r.1 r.2 rfl]
      rfl

/-! ### Sessions -/

/-- What happens to a responder. -/
inductive Call where
  /-- A type is switched on or off. -/
  | set (type : MessageType) (enabled : Bool)
  /-- A frame arrives, and `send` tells the result of handing octets over. -/
  | frame (send : List UInt8 → Result) (frame : List UInt8)

/-- The set after one call. -/
def TypeSet.afterCall (enabled : TypeSet) : Call → TypeSet
  | .set t b => enabled.switch t b
  | .frame _ _ => enabled

/-- The set after some calls. -/
def TypeSet.afterCalls (enabled : TypeSet) (calls : List Call) : TypeSet :=
  calls.foldl TypeSet.afterCall enabled

/-- The responses to the frames of some calls, in order. -/
def session : TypeSet → List Call → List Response
  | _, [] => []
  | enabled, .set t b :: calls => session (enabled.switch t b) calls
  | enabled, .frame send frame :: calls => respond enabled send frame :: session enabled calls

theorem session_append (enabled : TypeSet) (calls calls' : List Call) :
    session enabled (calls ++ calls') =
      session enabled calls ++ session (enabled.afterCalls calls) calls' := by
  induction calls generalizing enabled with
  | nil =>
      rfl
  | cons call calls ih =>
      cases call with
      | set t b =>
          exact ih _
      | frame send frame =>
          exact congrArg (respond enabled send frame :: ·) (ih enabled)

/-- **A frame gets what it is due under the settings in front of it**, whatever the results
of earlier and later sendings are. -/
theorem session_frame
    (enabled : TypeSet) (before : List Call) (send : List UInt8 → Result) (frame : List UInt8)
    (after : List Call) :
    ∃ entry reply, Due (enabled.afterCalls before) frame entry reply ∧
      session enabled (before ++ .frame send frame :: after) =
        session enabled before ++ carryOut send entry reply ::
          session (enabled.afterCalls before) after := by
  obtain ⟨entry, reply, hdue, hrespond⟩ :=
    exists_due_respond (enabled.afterCalls before) send frame
  refine ⟨entry, reply, hdue, ?_⟩
  rw [session_append, session, hrespond]

end AutoReply
end SmppReplay
