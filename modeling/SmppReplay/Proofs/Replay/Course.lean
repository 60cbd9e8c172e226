import SmppReplay.Proofs.AutoReply.Answers
import SmppReplay.Proofs.Replay.EnabledTypes

/-!
# The course of a run

The trace of a run is made up of the stretches of its moves.  A message that the script
hands over is under way until its entry is made, and meanwhile the script does nothing else;
the replies of the inbound side are under way too, the latest of which is done with first.
`Stretch` lists what one move adds and what is under way before and after; `Course` puts the
stretches one after the other.

The inbound side does three things in a run: it records a frame and hands over a reply, as
the frame is due (`AutoReply.Due`); it records the outcome of a reply; and it records that a
connection is lost.

Main facts:
* `course_steps`: the trace of every run is such a course;
* `Course.exists_stretch`: each mark of a course lies in one stretch;
* `frames_get_their_due`: what is done with each frame, in a session and in a run.
-/

namespace SmppReplay
namespace Replay

open AutoReply (TypeSet Due)
open Transcript (Entry)
open Transport (Endpoint Result)

/-! ### Stretches -/

/-- A message that the script has handed over and that has no entry yet. -/
inductive Handed where
  /-- It is being sent. -/
  | sending (message : Message) (frame : List UInt8)
  /-- It was sent. -/
  | sent (message : Message)

/-- The messages that have no entry yet: the script's, and the replies, the latest first. -/
structure Underway where
  message : Option Handed := none
  replies : List Reply := []

/-- The message that the script has handed over. -/
def Task.handed? : Task → Option Handed
  | .sending m frame => some (.sending m frame)
  | .reporting m none => some (.sent m)
  | _ => none

/-- What is under way at a moment. -/
def State.underway (s : State) : Underway :=
  ⟨s.task.handed?, s.replies⟩

/-- The marks of a frame that arrives: its entry, and the handing over of the reply. -/
def arrival (enabled : TypeSet) (frame : List UInt8) (entry : Option Entry)
    (reply : Option (Message × List UInt8)) : List Mark :=
  .delivered enabled frame :: (entry.toList.map (.logged .inbound) ++
    reply.toList.map fun r => .sendCalled .inbound r.1 r.2)

/-- The reply as one that is under way. -/
def handedOver (reply : Option (Message × List UInt8)) : List Reply :=
  reply.toList.map fun r => ⟨r.1, r.2, none⟩

/-- The marks that one move adds to the trace, and what is under way before and after. -/
inductive Stretch : Underway → List Mark → Underway → Prop
  | script {rs : List Reply} {ks : List Mark} (h : ∀ k ∈ ks, k.isPlain = true) :
      Stretch ⟨none, rs⟩ ks ⟨none, rs⟩
  | handed {rs : List Reply} {m : Message} {frame : List UInt8}
      (h : Pdu.encode m = .ok frame) :
      Stretch ⟨none, rs⟩ [.stateReturned .connected, .sendCalled .script m frame]
        ⟨some (.sending m frame), rs⟩
  | sent {rs : List Reply} (m : Message) (frame : List UInt8) :
      Stretch ⟨some (.sending m frame), rs⟩ [.sendReturned .script m frame .ok]
        ⟨some (.sent m), rs⟩
  | failed {rs : List Reply} (m : Message) (frame : List UInt8) (e : Transport.Error) :
      Stretch ⟨some (.sending m frame), rs⟩
        [.sendReturned .script m frame (.failed e)] ⟨none, rs⟩
  | reported {rs : List Reply} (m : Message) :
      Stretch ⟨some (.sent m), rs⟩ [.logged .script (.sent m)] ⟨none, rs⟩
  | arrived {p : Option Handed} {rs : List Reply} {enabled : TypeSet} {frame : List UInt8}
      {entry : Option Entry} {reply : Option (Message × List UInt8)}
      (h : Due enabled frame entry reply) :
      Stretch ⟨p, rs⟩ (arrival enabled frame entry reply) ⟨p, handedOver reply ++ rs⟩
  | replied {p : Option Handed} {rs : List Reply} (r : Reply) (result : Result)
      (h : r.result = none) :
      Stretch ⟨p, r :: rs⟩ [.sendReturned .inbound r.message r.frame result]
        ⟨p, { r with result := some result } :: rs⟩
  | noted {p : Option Handed} {rs : List Reply} (r : Reply) {result : Result}
      (h : r.result = some result) :
      Stretch ⟨p, r :: rs⟩ [.logged .inbound (AutoReply.outcomeEntry r.message result.cause?)]
        ⟨p, rs⟩
  | lost {p : Option Handed} {rs : List Reply} :
      Stretch ⟨p, rs⟩ [.lost, .logged .inbound AutoReply.lostEntry] ⟨p, rs⟩
  | interrupted {p : Option Handed} {rs : List Reply} (pausing : Bool) :
      Stretch ⟨p, rs⟩ [.interrupted pausing] ⟨p, rs⟩
  | notified {p : Option Handed} {rs : List Reply} :
      Stretch ⟨p, rs⟩ [.notified] ⟨p, rs⟩

/-- Stretches one after the other. -/
inductive Course : Underway → List Mark → Underway → Prop
  | nil (u : Underway) : Course u [] u
  | snoc {u u₁ u' : Underway} {l ks : List Mark} (h : Course u l u₁)
      (hks : Stretch u₁ ks u') :
      Course u (l ++ ks) u'

/-! ### What a move leaves under way -/

namespace State

variable {s : State}

theorem underway_of_handed?
    (h : s.task.handed? = none) :
    s.underway = ⟨none, s.replies⟩ := by
  rw [underway, h]

theorem underway_finish (s : State) (o : Outcome) :
    (s.finish o).underway = ⟨none, s.replies⟩ := by
  unfold finish
  split <;> rfl

theorem underway_take
    (hready : s.task = .ready)
    (e : Event) :
    (s.take e).underway = ⟨none, s.replies⟩ := by
  have hidle : s.underway = ⟨none, s.replies⟩ := by
    refine underway_of_handed? ?_
    rw [hready]
    rfl
  cases e with
  | connect peer =>
      simp only [take]
      split
      · exact hidle
      · rfl
  | disconnect =>
      simp only [take]
      split
      · rfl
      · exact hidle
  | send m =>
      simp only [take]
      split
      · rfl
      · exact hidle
  | pause length =>
      rfl
  | setAutoReply t enabled =>
      simp only [take]
      split <;> exact hidle

theorem underway_proceed
    (hready : s.task = .ready) :
    s.proceed.underway = ⟨none, s.replies⟩ := by
  unfold proceed
  split
  · exact underway_finish s _
  · refine underway_take ?_ _
    exact hready

theorem underway_opened (s : State) (peer : Endpoint) (result : Result) :
    (s.opened peer result).underway = ⟨none, s.replies⟩ := by
  cases result <;> rfl

theorem underway_woken (s : State) (cut : Bool) :
    (s.woken cut).underway = ⟨none, s.replies⟩ := by
  cases cut <;> rfl

end State

/-- What a frame that is taken is due is done: its marks are added, and its reply is under
way. -/
theorem exists_due_deliver (s : State) (enabled : TypeSet) (frame : List UInt8) :
    ∃ entry reply, Due enabled frame entry reply ∧
      (s.deliver enabled frame).trace = s.trace ++ arrival enabled frame entry reply ∧
      (s.deliver enabled frame).underway =
        ⟨s.task.handed?, handedOver reply ++ s.replies⟩ := by
  obtain ⟨reply, hdue, hreply, hencode⟩ := AutoReply.exists_due enabled frame
  refine ⟨_, reply, hdue, ?_⟩
  have harrived : (s.arrived enabled frame).trace =
      s.trace ++ arrival enabled frame (AutoReply.arrivalEntry frame) none ∧
      (s.arrived enabled frame).task = s.task ∧
        (s.arrived enabled frame).replies = s.replies := by
    unfold State.arrived
    cases AutoReply.arrivalEntry frame with
    | none =>
        exact ⟨rfl, rfl, rfl⟩
    | some e =>
        refine ⟨?_, rfl, rfl⟩
        simp [State.record, State.mark, arrival]
  obtain ⟨htrace, htask, hreplies⟩ := harrived
  have hanswers := answers_deliver s enabled frame
  generalize s.deliver enabled frame = s' at hanswers ⊢
  cases hanswers with
  | silent hsilent =>
      rw [hsilent] at hreply
      obtain rfl := Option.map_eq_none_iff.1 hreply.symm
      exact ⟨htrace, by rw [State.underway, htask, hreplies]; rfl⟩
  | @handed m bs hhanded hbs =>
      rw [hhanded] at hreply
      obtain ⟨⟨m', bs'⟩, rfl, rfl⟩ := Option.map_eq_some_iff.1 hreply.symm
      obtain rfl := Except.ok.inj (hbs.symm.trans (hencode _ _ rfl))
      refine ⟨?_, ?_⟩
      · simp [State.mark, htrace, arrival]
      · simp [State.underway, State.mark, htask, hreplies, handedOver]
  | @unsent m e hunsent he =>
      rw [hunsent] at hreply
      obtain ⟨⟨m', bs'⟩, rfl, rfl⟩ := Option.map_eq_some_iff.1 hreply.symm
      -- A reply has a wire form.
      exact absurd (he.symm.trans (hencode _ _ rfl)) (by simp)

/-! ### Runs -/

/-- The second moment comes by a stretch. -/
def ByStretch (s s' : State) : Prop :=
  ∃ ks, s'.trace = s.trace ++ ks ∧ Stretch s.underway ks s'.underway

namespace ByStretch

variable {s s' : State}

/-- A move of the script that hands over no message and is told of no success. -/
theorem script
    (hidle : s.task.handed? = none)
    (hadds : Adds Mark.isPlain s s')
    (hunderway : s'.underway = ⟨none, s.replies⟩) :
    ByStretch s s' := by
  obtain ⟨ks, htrace, hks, -, -⟩ := hadds
  refine ⟨ks, htrace, ?_⟩
  rw [State.underway_of_handed? hidle, hunderway]
  exact Stretch.script hks

theorem asked
    {m : Message}
    (htask : s.task = .asking m)
    (state : Transport.ConnectionState) :
    ByStretch s (s.asked m state) := by
  have hidle : s.task.handed? = none := by
    rw [htask]
    rfl
  have hunsent : ∀ cause, ByStretch s ((s.mark (.stateReturned state)).unsent m cause) :=
    fun cause => script hidle (Adds.unsent s m state cause) rfl
  unfold State.asked
  cases state with
  | connected =>
      cases hencode : Pdu.encode m with
      | error e =>
          exact hunsent e.message
      | ok frame =>
          refine ⟨_, List.append_assoc .., ?_⟩
          rw [State.underway_of_handed? hidle]
          exact Stretch.handed hencode
  | disconnected | failed =>
      exact hunsent _

theorem sent
    {m : Message} {frame : List UInt8}
    (htask : s.task = .sending m frame)
    (result : Result) :
    ByStretch s (s.sent m frame result) := by
  refine ⟨_, rfl, ?_⟩
  rw [State.underway, htask]
  cases result with
  | ok =>
      exact Stretch.sent m frame
  | failed e =>
      exact Stretch.failed m frame e

theorem reported
    {m : Message} {cause : Option String}
    (htask : s.task = .reporting m cause) :
    ByStretch s (s.reported m cause) := by
  cases cause with
  | none =>
      refine ⟨_, rfl, ?_⟩
      rw [State.underway, htask]
      exact Stretch.reported m
  | some cause =>
      refine script ?_ ((Adds.refl _ s).abort m cause) (State.underway_finish _ _)
      rw [htask]
      rfl

end ByStretch

/-- Every move adds a stretch, or does nothing. -/
theorem stretch_happens
    {s s' : State} {move : Move}
    (hmove : Happens s move s')
    (hlistens : Listens s) :
    s' = s ∨ ByStretch s s' := by
  cases hmove with
  | nothing =>
      exact .inl rfl
  | proceed htask =>
      refine .inr (.script ?_ (Adds.proceed (hlistens.enabled_eq_none htask))
        (State.underway_proceed htask))
      rw [htask]
      rfl
  | opened result htask =>
      refine .inr (.script ?_ (Adds.opened s _ result) (State.underway_opened s _ result))
      rw [htask]
      rfl
  | asked state htask =>
      exact .inr (.asked htask state)
  | sent result htask =>
      exact .inr (.sent htask result)
  | reported htask =>
      exact .inr (.reported htask)
  | closed result htask =>
      refine .inr (.script ?_ (Adds.closed s _ result (by decide)) rfl)
      rw [htask]
      rfl
  | finished result htask =>
      refine .inr (.script ?_ (Adds.closed s _ result
        (kind_finalCloseEntry_ne_sent result)) rfl)
      rw [htask]
      rfl
  | entered htask =>
      refine .inr (.script ?_ (Adds.entered s _) rfl)
      rw [htask]
      rfl
  | woken htask =>
      refine .inr (.script ?_ (Adds.woken s _) (State.underway_woken s _))
      rw [htask]
      rfl
  | left htask =>
      refine .inr (.script ?_ (Adds.left s) rfl)
      rw [htask]
      rfl
  | @delivered enabled frame henabled =>
      obtain ⟨entry, reply, hdue, htrace, hunderway⟩ := exists_due_deliver s enabled frame
      exact .inr ⟨_, htrace, hunderway ▸ Stretch.arrived hdue⟩
  | @replied r rest result hreplies hresult =>
      refine .inr ⟨_, rfl, ?_⟩
      rw [State.underway, hreplies]
      exact Stretch.replied r result hresult
  | @noted r rest result hreplies hresult =>
      refine .inr ⟨_, rfl, ?_⟩
      rw [State.underway, hreplies]
      exact Stretch.noted r hresult
  | lost henabled =>
      exact .inr ⟨_, List.append_assoc .., Stretch.lost⟩
  | looked =>
      exact .inr ⟨_, rfl, Stretch.interrupted _⟩
  | notified =>
      exact .inr ⟨_, rfl, Stretch.notified⟩

/-- **The course of a run.** -/
theorem course_steps (defaults : TypeSet) (batch : Batch) (moves : List Move) :
    Course {} (steps (.start defaults batch) moves).trace
      (steps (.start defaults batch) moves).underway := by
  induction moves using List.reverseRecOn with
  | nil =>
      exact Course.nil {}
  | append_singleton moves move ih =>
      rw [steps_snoc]
      rcases stretch_happens (happens_step _ move) (listens_steps defaults batch moves) with
        hsame | ⟨ks, htrace, hstretch⟩
      · rw [hsame]
        exact ih
      · rw [htrace]
        exact ih.snoc hstretch

/-! ### Marks of a course -/

/-- **Each mark of a course lies in one stretch.** -/
theorem Course.exists_stretch
    {u u' : Underway} {l front back : List Mark} {k : Mark}
    (h : Course u l u')
    (hl : l = front ++ k :: back) :
    ∃ before u₁ a b u₂ after, front = before ++ a ∧ back = b ++ after ∧
      Course u before u₁ ∧ Stretch u₁ (a ++ k :: b) u₂ ∧ Course u₂ after u' := by
  induction h generalizing back with
  | nil =>
      simp at hl
  | @snoc u₁ u' l ks h hks ih =>
      rcases split_cases hl with ⟨a, hfront, hk⟩ | ⟨back', hearlier, hback⟩
      · exact ⟨l, u₁, a, back, u', [], hfront, (List.append_nil _).symm, h, hk ▸ hks,
          Course.nil u'⟩
      · obtain ⟨before, u₂, a, b, u₃, after, hfront, rfl, hbefore, hstretch, hafter⟩ :=
          ih hearlier
        refine ⟨before, u₂, a, b, u₃, after ++ ks, hfront, ?_, hbefore, hstretch,
          hafter.snoc hks⟩
        rw [hback, List.append_assoc]

/-- A frame that arrives is the first thing in its stretch. -/
theorem Stretch.of_delivered
    {u u' : Underway} {a b : List Mark} {enabled : TypeSet} {frame : List UInt8}
    (h : Stretch u (a ++ .delivered enabled frame :: b) u') :
    a = [] ∧ ∃ entry reply, Due enabled frame entry reply ∧
      .delivered enabled frame :: b = arrival enabled frame entry reply := by
  have hmem : .delivered enabled frame ∈ a ++ .delivered enabled frame :: b :=
    List.mem_append_right a List.mem_cons_self
  generalize hall : a ++ .delivered enabled frame :: b = all at h hmem
  cases h with
  | script hplain =>
      exact absurd (hplain _ hmem) Bool.false_ne_true
  | handed | sent | failed | reported | replied | noted | lost | interrupted | notified =>
      simp at hmem
  | @arrived p rs enabled' frame' entry reply hdue =>
      cases a with
      | nil =>
          cases (List.cons.inj hall).1
          exact ⟨rfl, entry, reply, hdue, hall⟩
      | cons k a =>
          -- Behind the arrival there is no second one.
          rw [List.cons_append, arrival, List.cons.injEq] at hall
          have hlater : .delivered enabled frame ∈ a ++ .delivered enabled frame :: b :=
            List.mem_append_right a List.mem_cons_self
          rw [hall.2] at hlater
          simp at hlater

/-! ### What is done with each frame -/

/-- What the inbound side does in a run up to a moment. -/
structure Attentive (defaults : TypeSet) (s : State) : Prop where
  /-- It takes frames, hands over their replies, and records how a reply fared and that a
  connection is lost; it does nothing else. -/
  course : Course {} s.trace s.underway
  /-- Each frame gets what it is due under the default types and the settings that were
  taken up since the connection began to be opened. -/
  arrivals : ∀ front enabled frame back, s.trace = front ++ .delivered enabled frame :: back →
    ∃ before peer since entry reply after,
      front = before ++ .openCalled peer :: since ∧ (∀ k ∈ since, k.isWithin = true) ∧
      enabled = defaults.applied (taken since) ∧ Due enabled frame entry reply ∧
      .delivered enabled frame :: back = arrival enabled frame entry reply ++ after

/-- **Each frame gets what it is due.** What that is depends on the frame and on the set
only.  In a session it is carried out under the settings in front of the frame, whatever
becomes of it and of other replies; and so it is in a run. -/
theorem frames_get_their_due :
    (∀ (enabled : TypeSet) (frame : List UInt8),
      ∃! due : Option Entry × Option (Message × List UInt8), Due enabled frame due.1 due.2) ∧
    (∀ (enabled : TypeSet) (before : List AutoReply.Call) (send : List UInt8 → Result)
      (frame : List UInt8) (after : List AutoReply.Call),
      ∃ entry reply, Due (enabled.afterCalls before) frame entry reply ∧
        AutoReply.session enabled (before ++ .frame send frame :: after) =
          AutoReply.session enabled before ++ AutoReply.carryOut send entry reply ::
            AutoReply.session (enabled.afterCalls before) after) ∧
    ∀ (defaults : TypeSet) (batch : Batch) (moves : List Move),
      Attentive defaults (steps (.start defaults batch) moves) := by
  refine ⟨?_, AutoReply.session_frame, ?_⟩
  · intro enabled frame
    obtain ⟨reply, hdue, -, -⟩ := AutoReply.exists_due enabled frame
    refine ⟨(_, reply), hdue, ?_⟩
    rintro ⟨entry', reply'⟩ hdue'
    obtain ⟨hentry, hreply⟩ := hdue'.unique hdue
    exact Prod.ext hentry hreply
  · intro defaults batch moves
    have hcourse := course_steps defaults batch moves
    refine ⟨hcourse, ?_⟩
    intro front enabled frame back htrace
    obtain ⟨before, peer, since, hfront, hsince, henabled⟩ :=
      exists_opening_of_effects (enabled_of_delivered htrace)
    obtain ⟨_, _, a, b, _, after, -, rfl, -, hstretch, -⟩ := hcourse.exists_stretch htrace
    obtain ⟨-, entry, reply, hdue, harrival⟩ := hstretch.of_delivered
    refine ⟨before, peer, since, entry, reply, after, hfront, hsince, henabled, hdue, ?_⟩
    rw [← harrival]
    rfl

/-- In the eventful run the first inquiry gets an entry and a reply, and the second one only
an entry. -/
theorem frames_get_their_due_eventful :
    ∃ entry reply after entry' reply' after',
      Due (.ofList [.enquireLink]) inquiry entry reply ∧
      eventfulRun.trace.drop 2 =
        arrival (.ofList [.enquireLink]) inquiry entry reply ++ after ∧
      Due .empty inquiry entry' reply' ∧
      eventfulRun.trace.drop 10 = arrival .empty inquiry entry' reply' ++ after' := by
  have hattentive : Attentive (.ofList [.enquireLink]) eventfulRun :=
    frames_get_their_due.2.2 _ eventful eventfulMoves
  have hfirst : eventfulRun.trace = eventfulRun.trace.take 2 ++
      .delivered (.ofList [.enquireLink]) inquiry :: eventfulRun.trace.drop 3 := by
    decide +kernel
  have hsecond : eventfulRun.trace =
      eventfulRun.trace.take 10 ++
        .delivered .empty inquiry :: eventfulRun.trace.drop 11 := by
    decide +kernel
  obtain ⟨_, _, _, entry, reply, after, -, -, -, hdue, harrival⟩ :=
    hattentive.arrivals _ _ _ _ hfirst
  obtain ⟨_, _, _, entry', reply', after', -, -, -, hdue', harrival'⟩ :=
    hattentive.arrivals _ _ _ _ hsecond
  refine ⟨entry, reply, after, entry', reply', after', hdue, ?_, hdue', ?_⟩
  · rw [← harrival]
    decide +kernel
  · rw [← harrival']
    decide +kernel

end Replay
end SmppReplay
