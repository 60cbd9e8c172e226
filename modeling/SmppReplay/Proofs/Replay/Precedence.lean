import SmppReplay.Proofs.Replay.Course

/-!
# Requests and responses in the transcript

**Question.** A peer answers a request of the script after it was handed over.  Is the entry
of the request in front of the entry of the response?

The entry of the request is made when its sending has returned, and the inbound side does
not wait for that.  So the entries are in order (`RequestsFirst`) if no response arrives
before the script has made the entry of its request (`Awaited`).  That a peer answers
nothing that it was not handed (`Patient`) is not enough, and neither is it that the peer
waits until the sending of the request has returned.

**Method.** As long as a message has no entry it was handed over, and since then no response
to it arrived (`Unanswered`).  This is kept by the stretches of the inbound side, of which
only an arrival matters.

Main facts:
* `requestsFirst_of_awaited`: when the entries are in order;
* `response_first`: a response can be in front of its request.
-/

namespace SmppReplay
namespace Replay

open AutoReply (TypeSet Due)
open Transcript (Entry)
open Transport (Endpoint Result)

/-! ### Responses -/

/-- The number of the request that a frame answers, if its header is one of a response. -/
def answeredNumber? (frame : List UInt8) : Option UInt32 :=
  match Pdu.Header.parse frame with
  | .ok header =>
      if header.commandId &&& MessageType.responseBit = 0 then none else some header.sequence
  | .error _ => none

/-- The script hands a message over. -/
def Mark.isHandover : Mark → Bool
  | .sendCalled .script _ _ => true
  | _ => false

/-- Between the handing over of a request and its entry there is no entry of a response to
it. -/
def RequestsFirst (s : State) : Prop :=
  ∀ (front : List Mark) (m : Message) (frame : List UInt8) (between back : List Mark),
    s.trace = front ++ .sendCalled .script m frame :: (between ++
      .logged .script (.sent m) :: back) →
    (∀ k ∈ between, k.isHandover = false) →
    ∀ (l : List Mark) (enabled : TypeSet) (response : List UInt8) (e : Entry) (r : List Mark),
      between = l ++ .delivered enabled response :: .logged .inbound e :: r →
        answeredNumber? response ≠ some m.sequence

/-- The message that was handed over. -/
def Handed.message : Handed → Message
  | .sending m _ => m
  | .sent m => m

/-- No response to a request of the script arrives before the entry of the request is made. -/
def Awaited (defaults : TypeSet) (batch : Batch) (moves : List Move) : Prop :=
  ∀ n response, moves[n]? = some (.deliver response) →
    ∀ h, (steps (.start defaults batch) (moves.take n)).task.handed? = some h →
      answeredNumber? response ≠ some h.message.sequence

/-- A response arrives only behind the handing over of a request with its number. -/
def Prompted (front : List Mark) : Mark → Prop
  | .delivered _ response => ∀ n, answeredNumber? response = some n →
      ∃ m frame, .sendCalled .script m frame ∈ front ∧ m.sequence = n
  | _ => True

/-- The peer answers nothing that it was not handed. -/
def Patient (s : State) : Prop :=
  Throughout Prompted s.trace

/-! ### Messages without an entry -/

/-- The last mark of a kind is at one place. -/
theorem last_unique
    {p : Mark → Bool} {l l' r r' : List Mark} {k k' : Mark}
    (h : l ++ k :: r = l' ++ k' :: r')
    (hk : p k = true)
    (hk' : p k' = true)
    (hr : ∀ x ∈ r, p x = false)
    (hr' : ∀ x ∈ r', p x = false) :
    l = l' ∧ k = k' ∧ r = r' := by
  rcases split_cases h with ⟨l'', hl', htail⟩ | ⟨r'', rfl, rfl⟩
  · cases l'' with
    | nil =>
        rw [List.nil_append, List.cons.injEq] at htail
        exact ⟨by rw [hl', List.append_nil], htail.1, htail.2⟩
    | cons x l'' =>
        rw [List.cons_append, List.cons.injEq] at htail
        have hlater : p k' = false :=
          hr k' (htail.2 ▸ List.mem_append_right l'' List.mem_cons_self)
        rw [hlater] at hk'
        cases hk'
  · have hlater : p k = false := hr' k (List.mem_append_right r'' List.mem_cons_self)
    rw [hlater] at hk
    cases hk

/-- The entries of the marks are in order: `RequestsFirst`, of a trace. -/
def InOrder (l : List Mark) : Prop :=
  ∀ (front : List Mark) (m : Message) (frame : List UInt8) (between back : List Mark),
    l = front ++ .sendCalled .script m frame :: (between ++
      .logged .script (.sent m) :: back) →
    (∀ k ∈ between, k.isHandover = false) →
    ∀ (enabled : TypeSet) (response : List UInt8), .delivered enabled response ∈ between →
      answeredNumber? response ≠ some m.sequence

/-- The message was handed over, and since then no other one was, and no response to it
arrived. -/
def Unanswered (l : List Mark) (m : Message) : Prop :=
  ∃ front frame between, l = front ++ .sendCalled .script m frame :: between ∧
    (∀ k ∈ between, k.isHandover = false) ∧
    ∀ (enabled : TypeSet) (response : List UInt8), .delivered enabled response ∈ between →
      answeredNumber? response ≠ some m.sequence

/-- What no entry of a message is made by leaves the entries in order. -/
theorem InOrder.append
    {l ks : List Mark}
    (h : InOrder l)
    (hks : ∀ m, .logged .script (.sent m) ∉ ks) :
    InOrder (l ++ ks) := by
  intro front m frame between back hsplit hbetween
  rw [← List.cons_append, ← List.append_assoc] at hsplit
  rcases split_cases hsplit with ⟨front', -, hlater⟩ | ⟨back', hearlier, -⟩
  · exact absurd (hlater ▸ List.mem_append_right front' List.mem_cons_self) (hks m)
  · refine h front m frame between back' ?_ hbetween
    rw [hearlier, List.append_assoc, List.cons_append]

/-- The entry of a message that is not answered keeps the order. -/
theorem InOrder.reported
    {l : List Mark} {m : Message}
    (h : InOrder l)
    (hm : Unanswered l m) :
    InOrder (l ++ [.logged .script (.sent m)]) := by
  obtain ⟨front₀, frame₀, between₀, hl, hnone₀, hunanswered⟩ := hm
  intro front m' frame between back hsplit hbetween
  rw [← List.cons_append, ← List.append_assoc] at hsplit
  rcases split_cases hsplit with ⟨front', hfront, hlast⟩ | ⟨back', hearlier, -⟩
  · -- The entry is the new one, so the handing over is the one that nothing has answered.
    cases front' with
    | nil =>
        have hentry : Entry.sent m = .sent m' := by
          simpa using congrArg List.head? hlast
        obtain rfl := Option.some.inj (congrArg Entry.message hentry)
        rw [List.append_nil, hl] at hfront
        obtain ⟨-, -, rfl⟩ := last_unique hfront rfl rfl hbetween hnone₀
        exact hunanswered
    | cons k front' =>
        rw [List.cons_append, List.cons.injEq] at hlast
        exact absurd hlast.2 (by simp)
  · refine h front m' frame between back' ?_ hbetween
    rw [hearlier, List.append_assoc, List.cons_append]

/-- A message stays unanswered behind marks that hand over none and are no responses to it. -/
theorem Unanswered.append
    {l ks : List Mark} {m : Message}
    (h : Unanswered l m)
    (hhandover : ∀ k ∈ ks, k.isHandover = false)
    (hks : ∀ (enabled : TypeSet) (response : List UInt8), .delivered enabled response ∈ ks →
      answeredNumber? response ≠ some m.sequence) :
    Unanswered (l ++ ks) m := by
  obtain ⟨front, frame, between, rfl, hbetween, hunanswered⟩ := h
  refine ⟨front, frame, between ++ ks, ?_, List.forall_mem_append.2 ⟨hbetween, hhandover⟩, ?_⟩
  · rw [List.append_assoc, List.cons_append]
  · intro enabled response hresponse
    rcases List.mem_append.1 hresponse with hmem | hmem
    · exact hunanswered enabled response hmem
    · exact hks enabled response hmem

/-- The entries are in order, and the message that has no entry yet is not answered. -/
def Unhurried (l : List Mark) (u : Underway) : Prop :=
  InOrder l ∧ ∀ h, u.message = some h → Unanswered l h.message

/-- **A stretch keeps the order**, if it is none in which a response to the message without
an entry arrives. -/
theorem Stretch.unhurried
    {u u' : Underway} {l ks : List Mark}
    (hks : Stretch u ks u')
    (h : Unhurried l u)
    (hawaited : ∀ m, u.message = some m → ∀ (enabled : TypeSet) (response : List UInt8),
      .delivered enabled response ∈ ks → answeredNumber? response ≠ some m.message.sequence) :
    Unhurried (l ++ ks) u' := by
  obtain ⟨horder, hmessage⟩ := h
  -- The inbound side makes no entry of a message of the script, and leaves it as it is.
  have hinbound : (∀ k ∈ ks, k.isScript = false) → u'.message = u.message →
      Unhurried (l ++ ks) u' := by
    intro hnone hsame
    refine ⟨horder.append fun m hm => absurd (hnone _ hm) (by simp [Mark.isScript]), ?_⟩
    intro h hh
    rw [hsame] at hh
    refine (hmessage h hh).append (fun k hk => ?_) (hawaited h hh)
    cases k with
    | sendCalled side =>
        cases side with
        | script => exact absurd (hnone _ hk) (by simp [Mark.isScript])
        | inbound => rfl
    | _ =>
        rfl
  cases hks with
  | script hplain =>
      refine ⟨horder.append fun m hm => absurd (hplain _ hm) Bool.false_ne_true, ?_⟩
      intro h hh
      cases hh
  | @handed rs m frame hencode =>
      refine ⟨horder.append (by simp), ?_⟩
      rintro _ ⟨⟩
      refine ⟨l ++ [.stateReturned .connected], frame, [], ?_, by simp, by simp⟩
      rw [List.append_assoc]
      rfl
  | sent m frame =>
      refine ⟨horder.append (by simp), ?_⟩
      rintro _ ⟨⟩
      exact (hmessage _ rfl).append (by simp [Mark.isHandover]) (by simp)
  | failed m frame e =>
      refine ⟨horder.append (by simp), ?_⟩
      intro h hh
      cases hh
  | reported m =>
      refine ⟨horder.reported (hmessage _ rfl), ?_⟩
      intro h hh
      cases hh
  | @arrived p rs enabled frame entry reply hdue =>
      refine hinbound ?_ rfl
      cases entry <;> cases reply <;> simp [arrival, Mark.isScript]
  | replied | noted | lost | interrupted | notified =>
      exact hinbound (by simp [Mark.isScript]) rfl

/-! ### The order of the entries -/

/-- A frame that is taken is the one that arrives. -/
theorem eq_deliver_of_delivered
    {s s' : State} {move : Move} {ks : List Mark} {enabled : TypeSet} {frame : List UInt8}
    (h : Happens s move s')
    (hlistens : Listens s)
    (hks : s'.trace = s.trace ++ ks)
    (hmem : .delivered enabled frame ∈ ks) :
    move = .deliver frame := by
  cases hmove : move.isScript with
  | true =>
      obtain ⟨ks', htrace, hscript, -⟩ := adds_script h hmove hlistens
      obtain rfl := List.append_cancel_left (htrace.symm.trans hks)
      exact absurd (hscript _ hmem) Bool.false_ne_true
  | false =>
      cases h with
      | @delivered enabled' frame' henabled =>
          obtain ⟨entry, reply, -, htrace, -⟩ := exists_due_deliver s enabled' frame'
          obtain rfl := List.append_cancel_left (htrace.symm.trans hks)
          obtain ⟨-, rfl⟩ : enabled = enabled' ∧ frame = frame' := by
            simpa [arrival] using hmem
          rfl
      | nothing =>
          obtain rfl := List.append_right_eq_self.1 hks.symm
          cases hmem
      | replied | noted | looked | notified =>
          obtain rfl := List.append_cancel_left hks
          simp at hmem
      | lost henabled =>
          obtain rfl := List.append_cancel_left ((List.append_assoc ..).symm.trans hks)
          simp at hmem
      | proceed | opened | asked | sent | reported | closed | finished | entered | woken
      | left =>
          cases hmove

/-- As long as no response arrives too early, the entries are in order. -/
theorem unhurried_steps
    {defaults : TypeSet} {batch : Batch} {moves : List Move}
    (h : Awaited defaults batch moves) :
    Unhurried (steps (.start defaults batch) moves).trace
      (steps (.start defaults batch) moves).underway := by
  induction moves using List.reverseRecOn with
  | nil =>
      refine ⟨?_, ?_⟩
      · intro front m frame between back hsplit
        have hnil : [] = front ++ _ := hsplit
        simp at hnil
      · intro h hh
        cases hh
  | append_singleton moves move ih =>
      have hearlier : Awaited defaults batch moves := by
        intro n response hn
        obtain ⟨hlt, -⟩ := List.getElem?_eq_some_iff.1 hn
        have hmore := h n response ((List.getElem?_append_left hlt).trans hn)
        rw [List.take_append_of_le_length hlt.le] at hmore
        exact hmore
      have hmove := happens_step (steps (.start defaults batch) moves) move
      have hlistens := listens_steps defaults batch moves
      rw [steps_snoc]
      rcases stretch_happens hmove hlistens with hsame | ⟨ks, htrace, hstretch⟩
      · rw [hsame]
        exact ih hearlier
      · rw [htrace]
        refine hstretch.unhurried (ih hearlier) ?_
        intro m hm enabled response hresponse
        have hlast := eq_deliver_of_delivered hmove hlistens htrace hresponse
        refine h moves.length response ?_ m ?_
        · rw [List.getElem?_concat_length, hlast]
        · rw [List.take_left]
          exact hm

/-- **Requests and responses in the transcript.** The entry of every request of the script
is in front of those of its responses, if none of them arrives before it is made. -/
theorem requestsFirst_of_awaited
    {defaults : TypeSet} {batch : Batch} {moves : List Move}
    (h : Awaited defaults batch moves) :
    RequestsFirst (steps (.start defaults batch) moves) := by
  obtain ⟨horder, -⟩ := unhurried_steps h
  intro front m frame between back htrace hbetween l enabled response e r hsplit
  refine horder front m frame between back htrace hbetween enabled response ?_
  rw [hsplit]
  exact List.mem_append_right l List.mem_cons_self

/-- The response to a request with number 1, on the wire. -/
def promptResponse : List UInt8 :=
  [0, 0, 0, 16, 128, 0, 0, 21, 0, 0, 0, 0, 0, 0, 0, 1]

/-- A batch with two requests. -/
def requestBatch : Batch :=
  [.connect ⟨"h", 1⟩, .send (Message.new .enquireLink), .send (Message.new .enquireLink)]

/-- The response to the first request arrives while the second one is being sent. -/
def laterMoves : List Move :=
  [.proceed, .opened .ok, .proceed, .state .connected, .sent .ok, .reported, .proceed,
    .state .connected, .deliver promptResponse, .sent .ok, .reported]

/-- A response that arrives behind the entry of its request does not disturb the order, even
while another request has no entry. -/
theorem requestsFirst_of_later_response :
    Awaited .empty requestBatch laterMoves ∧
      RequestsFirst (steps (.start .empty requestBatch) laterMoves) := by
  have hawaited : Awaited .empty requestBatch laterMoves := by
    intro n response hn h hh
    have hsequence :
        ((steps (.start .empty requestBatch) (laterMoves.take 8)).task.handed?.map
          fun h => h.message.sequence) = some 2 := by
      decide +kernel
    have hanswered : answeredNumber? promptResponse = some 1 := by
      decide +kernel
    have hlt : n < 11 := (List.getElem?_eq_some_iff.1 hn).1
    interval_cases n
    case «8» =>
      cases hn
      simp only [hh, Option.map_some, Option.some.injEq] at hsequence
      rw [hanswered, hsequence]
      decide
    all_goals cases hn
  exact ⟨hawaited, requestsFirst_of_awaited hawaited⟩

/-- A request with number 1. -/
def promptRequest : Message :=
  (Message.new .enquireLink).withSequence 1

/-- A peer answers at once: the response arrives while the request is still being sent. -/
def promptRun : State :=
  steps (.start .empty [.connect ⟨"h", 1⟩, .send (Message.new .enquireLink)])
    [.proceed, .opened .ok, .proceed, .state .connected, .deliver promptResponse,
      .sent .ok, .reported]

/-- The trace of the run up to the handing over. -/
def promptFront : List Mark :=
  [.took (.connect ⟨"h", 1⟩), .openCalled ⟨"h", 1⟩, .openReturned ⟨"h", 1⟩ .ok,
    .logged .script (connectedEntry ⟨"h", 1⟩), .took (.send (Message.new .enquireLink)),
    .stateReturned .connected]

/-- The trace of the run between the handing over and the entry of the request. -/
def promptBetween (frame : List UInt8) : List Mark :=
  [.delivered .empty promptResponse,
    .logged .inbound (.received ((Message.new .enquireLinkResp).withSequence 1)),
    .sendReturned .script promptRequest frame .ok]

/-- A response can be in front of its request, though it was not sent before the request was
handed over. -/
theorem response_first :
    Patient promptRun ∧ ¬RequestsFirst promptRun := by
  obtain ⟨frame, htrace⟩ : ∃ frame, promptRun.trace = promptFront ++
      .sendCalled .script promptRequest frame ::
        (promptBetween frame ++ [.logged .script (.sent promptRequest)]) :=
    ⟨[0, 0, 0, 16, 0, 0, 0, 21, 0, 0, 0, 0, 0, 0, 0, 1], by decide +kernel⟩
  have hanswered : answeredNumber? promptResponse = some promptRequest.sequence := by
    decide +kernel
  constructor
  · rw [Patient, htrace]
    simp [promptFront, promptBetween, Prompted, hanswered]
  · intro hfirst
    refine hfirst promptFront promptRequest frame (promptBetween frame) [] htrace ?_ [] .empty
      promptResponse _ _ rfl hanswered
    simp [promptBetween, Mark.isHandover]

/-- A peer waits until the sending of the request has returned, but not until its entry is
made. -/
def lateRun : State :=
  steps (.start .empty [.connect ⟨"h", 1⟩, .send (Message.new .enquireLink)])
    [.proceed, .opened .ok, .proceed, .state .connected, .sent .ok,
      .deliver promptResponse, .reported]

/-- A response can be in front of its request, though the sending of the request had
returned. -/
theorem response_first_of_returned :
    Patient lateRun ∧ ¬RequestsFirst lateRun := by
  obtain ⟨frame, htrace⟩ : ∃ frame, lateRun.trace = promptFront ++
      .sendCalled .script promptRequest frame ::
        (([.sendReturned .script promptRequest frame .ok, .delivered .empty promptResponse,
          .logged .inbound (.received ((Message.new .enquireLinkResp).withSequence 1))]) ++
          [.logged .script (.sent promptRequest)]) :=
    ⟨[0, 0, 0, 16, 0, 0, 0, 21, 0, 0, 0, 0, 0, 0, 0, 1], by decide +kernel⟩
  have hanswered : answeredNumber? promptResponse = some promptRequest.sequence := by
    decide +kernel
  constructor
  · rw [Patient, htrace]
    simp [promptFront, Prompted, hanswered]
  · intro hfirst
    refine hfirst promptFront promptRequest frame _ [] htrace ?_
      [.sendReturned .script promptRequest frame .ok] .empty promptResponse _ [] rfl hanswered
    simp [Mark.isHandover]

end Replay
end SmppReplay
