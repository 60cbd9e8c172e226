import SmppReplay.Proofs.Replay.Independence
import SmppReplay.Proofs.Replay.Progress

/-!
# How runs end

**Question.** When is a run aborted, what does its report say, and does it matter what the
batch holds behind the event that aborted it?

A run is aborted exactly if a message was taken up over an open connection and not sent
(`Fault`): the connection did not say that it is connected, the message has no wire form, or
its sending failed.  Nothing else ends a run: not a connection that cannot be opened or
closed, not a message without a connection, and nothing of the inbound side.  The message is
the last event, its entry holds the reason, and the connection is closed.  A run without a
fault takes up the whole batch.

**Method.** Where a fault lies, the script's turns and its stage are determined by the marks
(`Fault.stops`).  For what stands behind it, the run of the longer batch goes in lock step
with that of the shorter one as long as the latter does not reach its end (`step_extend`).

Main fact:
* `decided`: how the runs of a batch end.
-/

namespace SmppReplay
namespace Replay

open AutoReply (TypeSet)
open Transcript (Entry)
open Transport (ConnectionState Endpoint Result)

/-! ### Marks determine turns -/

theorem taken_eq_nil
    {l : List Mark}
    (h : ∀ e, .took e ∉ l) :
    taken l = [] := by
  refine List.filterMap_eq_nil_iff.2 fun k hk => ?_
  cases k with
  | took e =>
      exact absurd hk (h e)
  | _ =>
      rfl

theorem Turns.taken_eq
    {st st' : Standing} {events : Batch} {marks : List Mark}
    (h : Turns st events marks st') :
    taken marks = events := by
  induction h with
  | nil =>
      rfl
  | @cons _ _ _ e ms marks events hturn hrest ih =>
      have hms : taken ms = [] := taken_eq_nil hturn.took_notMem
      change e :: taken (ms ++ marks) = e :: events
      rw [taken_append, hms, ih, List.nil_append]

/-- The marks tell the events and where the script stands behind them. -/
theorem Turns.unique
    {st st₁ st₂ : Standing} {events events' : Batch} {marks : List Mark}
    (h : Turns st events marks st₁)
    (h' : Turns st events' marks st₂) :
    events = events' ∧ st₁ = st₂ := by
  obtain rfl : events = events' := h.taken_eq.symm.trans h'.taken_eq
  exact ⟨rfl, (h.same h' (SameAnswers.of_eq fun _ => rfl)).1⟩

/-- The marks tell why a message is not sent. -/
theorem Fails.unique
    {st : Standing} {m : Message} {ms ms' l l' : List Mark} {cause cause' : String}
    (h : Fails st m ms cause)
    (h' : Fails st m ms' cause')
    (hmarks : ms ++ l = ms' ++ l') :
    ms = ms' ∧ cause = cause' ∧ l = l' := by
  have hsame : SameAnswers ms ms' :=
    SameAnswers.of_append (SameAnswers.of_eq fun op => congrArg (answers op) hmarks)
  have hcause : cause = cause' := (h.same h' hsame).1
  -- Two marks if the message is not handed over, else three.
  have hlength : ms.length = ms'.length := by
    cases h <;> cases h' <;> first | rfl | cases hmarks
  obtain ⟨hms, hl⟩ := List.append_inj hmarks hlength
  exact ⟨hms, hcause, hl⟩

/-- While a message is asked about or is being sent, and once it was sent, it has not
failed. -/
theorem Fails.not_underway
    {st : Standing} {m : Message} {ms : List Mark} {cause : String}
    (h : Fails st m ms cause)
    (tail : List Mark) :
    ms ++ tail ≠ [] ∧
      (∀ m' frame, ms ++ tail ≠ [.stateReturned .connected, .sendCalled .script m' frame]) ∧
      ∀ m' frame, ms ++ tail ≠ [.stateReturned .connected, .sendCalled .script m' frame,
        .sendReturned .script m' frame .ok] := by
  cases h <;> simp

/-! ### Faults -/

/-- A message that is taken up over an open connection and not sent. -/
structure Fault where
  /-- The events before it. -/
  done : Batch
  /-- The marks of their turns. -/
  marks : List Mark
  /-- Where the script stands then. -/
  standing : Standing
  message : Message
  /-- The marks up to its failure. -/
  attempt : List Mark
  cause : String
  turns : Turns {} done marks standing
  isOpen : standing.session ≠ none
  fails : Fails standing message attempt cause

namespace Fault

/-- The script's marks up to the failure. -/
def upTo (f : Fault) : List Mark :=
  f.marks ++ .took (.send f.message) :: f.attempt

/-- The fault is one of a run. -/
def In (f : Fault) (s : State) : Prop :=
  f.upTo <+: scriptPart s.trace

/-- The entry of the message, with the number that it was to be sent with. -/
def entry (f : Fault) : Entry :=
  .sendFailed (f.standing.numbered f.message) f.cause

/-- The outcome of the run: the reason is the text of the entry. -/
def outcome (f : Fault) : Outcome :=
  .aborted f.entry.text

/-- What a fault leads to. -/
structure Stops (f : Fault) (batch : Batch) (s : State) : Prop where
  /-- The message is one of the batch, and no event behind it is taken up. -/
  last : f.done ++ [.send f.message] <+: batch ∧ s.processed = f.done.length + 1
  /-- The entry of the message is made, and then the connection is closed before the run is
  over. -/
  closes :
    (scriptPart s.trace = f.upTo ∧
      s.task = .reporting (f.standing.numbered f.message) (some f.cause)) ∨
    (scriptPart s.trace = f.upTo ++ [.logged .script f.entry, .closeCalled] ∧
      s.task = .finishing f.outcome) ∨
    ∃ result, scriptPart s.trace = f.upTo ++ [.logged .script f.entry, .closeCalled,
        .closeReturned result, .logged .script (finalCloseEntry result)] ∧
      s.task = .finished f.outcome

/-- A script that ends where the fault lies ends with the fault. -/
theorem ends_cases
    {f : Fault} {rest : Batch} {ms tail l : List Mark} {o : Outcome} {st' : Standing}
    (h : Ends f.standing rest [.send f.message] ms o st')
    (hms : .took (.send f.message) :: (f.attempt ++ tail) = ms ++ l) :
    tail = .logged .script f.entry :: l ∧ o = f.outcome ∧ st'.session ≠ none := by
  generalize hcurrent : [Event.send f.message] = current at h
  cases h with
  | completed =>
      cases hcurrent
  | @aborted m ms cause held hopen hfails =>
      obtain rfl : f.message = m := Event.send.inj (List.cons.inj hcurrent).1
      rw [List.cons_append, List.cons.injEq, List.append_assoc] at hms
      obtain ⟨-, rfl, rfl⟩ := f.fails.unique hfails hms.2
      refine ⟨rfl, rfl, ?_⟩
      exact f.isOpen

/-- At the stage of its message a fault is about to be reported, or ends the run. -/
theorem stage_cases
    {f : Fault} {rest : Batch} {tail : List Mark} {task : Task} {st' : Standing}
    (h : Stage f.standing rest [.send f.message]
      (.took (.send f.message) :: (f.attempt ++ tail))
      task st') :
    (tail = [] ∧ task = .reporting (f.standing.numbered f.message) (some f.cause)) ∨
      (tail = [.logged .script f.entry, .closeCalled] ∧ task = .finishing f.outcome) ∨
      ∃ result, tail = [.logged .script f.entry, .closeCalled, .closeReturned result,
          .logged .script (finalCloseEntry result)] ∧
        task = .finished f.outcome := by
  obtain ⟨hidle, hunsent, hunreported⟩ := f.fails.not_underway tail
  generalize hms : .took (.send f.message) :: (f.attempt ++ tail) = ms at h
  generalize hcurrent : [Event.send f.message] = current at h
  cases h with
  | ready | opening | closing | entering | pausing | leaving =>
      cases hcurrent
  | asking m hopen =>
      exact absurd (List.cons.inj hms).2 hidle
  | sending m hopen hframe =>
      exact absurd (List.cons.inj hms).2 (hunsent _ _)
  | sent m hopen hframe =>
      exact absurd (List.cons.inj hms).2 (hunreported _ _)
  | @failed m ms cause held hopen hfails =>
      obtain rfl : f.message = m := Event.send.inj (List.cons.inj hcurrent).1
      rw [List.cons.injEq, ← List.append_nil ms] at hms
      obtain ⟨-, rfl, rfl⟩ := f.fails.unique hfails hms.2
      exact .inl ⟨rfl, rfl⟩
  | finishing hends hopen =>
      subst hcurrent
      obtain ⟨rfl, rfl, -⟩ := ends_cases hends hms
      exact .inr (.inl ⟨rfl, rfl⟩)
  | closed result hends hopen =>
      subst hcurrent
      obtain ⟨rfl, rfl, -⟩ := ends_cases hends hms
      exact .inr (.inr ⟨result, rfl, rfl⟩)
  | finished hends hidle =>
      subst hcurrent
      rw [← List.append_nil ms] at hms
      exact absurd hidle (ends_cases hends hms).2.2

/-- **What a fault leads to.** -/
theorem stops
    {f : Fault} {batch : Batch} {s : State}
    (haccount : Accounted batch s)
    (h : f.In s) :
    f.Stops batch s := by
  obtain ⟨done, marks, st, current, ms, hturns, hstage, hscript, hbatch, hprocessed⟩ :=
    haccount
  obtain ⟨tail, htail⟩ := h
  have hsplit : marks ++ ms = f.marks ++ .took (.send f.message) :: (f.attempt ++ tail) := by
    rw [← hscript, ← htail, upTo, List.append_assoc, List.cons_append]
  rcases split_cases hsplit with ⟨front, hfront, hms⟩ | ⟨r, hmarks, hback⟩
  · -- The message is the one that the stage is about.
    obtain ⟨rfl, rfl⟩ := hstage.eq_of_took hms
    rw [List.append_nil] at hfront
    obtain ⟨rfl, rfl⟩ := f.turns.unique (hfront ▸ hturns)
    rw [hms, List.nil_append] at hstage
    refine ⟨⟨⟨s.rest, hbatch.symm⟩, ?_⟩, ?_⟩
    · rw [hprocessed, List.length_append]
      rfl
    · rw [← htail]
      rcases stage_cases hstage with ⟨rfl, htask⟩ | ⟨rfl, htask⟩ | ⟨result, rfl, htask⟩
      · exact .inl ⟨List.append_nil _, htask⟩
      · exact .inr (.inl ⟨rfl, htask⟩)
      · exact .inr (.inr ⟨result, rfl, htask⟩)
  · -- A message that has a turn was sent.
    obtain ⟨before, after, st₁, st₂, ms', r', -, rfl, hbefore, hturn, -⟩ :=
      hturns.exists_of_took hmarks
    obtain ⟨-, rfl⟩ := f.turns.unique hbefore
    have hsame : SameAnswers (f.attempt ++ tail) (ms' ++ (r' ++ ms)) := by
      rw [hback, List.append_assoc]
      exact SameAnswers.of_eq fun _ => rfl
    exact absurd hsame.of_append (f.fails.not_sent f.isOpen hturn)

end Fault

/-- A script that is at its end has done its batch, or has a fault. -/
theorem Accounted.ending
    {batch : Batch} {s : State} {o : Outcome}
    (h : Accounted batch s)
    (htask : s.task = .finished o) :
    (o = .completed ∧ s.processed = batch.length) ∨ ∃ f : Fault, f.In s ∧ o = f.outcome := by
  obtain ⟨done, marks, st, current, ms, hturns, hstage, hscript, hbatch, hprocessed⟩ := h
  rw [htask] at hstage
  obtain ⟨ms₀, tail, st₀, hends, rfl, -, -⟩ := hstage.ends
  cases hends with
  | completed hrest =>
      rw [hrest, List.append_nil] at hbatch
      exact .inl ⟨rfl, by rw [hprocessed, hbatch]⟩
  | @aborted m ms cause held hopen hfails =>
      refine .inr ⟨⟨done, marks, st, m, ms, cause, hturns, by simp [hopen], hfails⟩, ?_, rfl⟩
      rw [Fault.In, hscript]
      refine ⟨.logged .script (.sendFailed (st.numbered m) cause) :: tail, ?_⟩
      simp [Fault.upTo]

/-! ### Batches that go on -/

/-- The state with more events behind those that are not taken up yet. -/
def State.extend (s : State) (more : Batch) : State :=
  { s with rest := s.rest ++ more }

/-- The script is at the end of its batch. -/
def Task.isCompletion : Task → Bool
  | .finishing .completed => true
  | .finished .completed => true
  | _ => false

namespace State

variable (s : State) (more : Batch)

theorem extend_finish (o : Outcome) :
    (s.extend more).finish o = (s.finish o).extend more := by
  obtain ⟨_, _, _, _, session, _, _, _, _, _⟩ := s
  cases session <;> rfl

theorem extend_abort (m : Message) (cause : String) :
    (s.extend more).abort m cause = (s.abort m cause).extend more :=
  extend_finish (s.record .script (.sendFailed m cause)) more _

theorem extend_take (e : Event) :
    (s.extend more).take e = (s.take e).extend more := by
  obtain ⟨_, _, _, _, session, _, _, _, _, _⟩ := s
  cases e <;> cases session <;> rfl

theorem extend_asked (m : Message) (state : ConnectionState) :
    (s.extend more).asked m state = (s.asked m state).extend more := by
  unfold asked
  cases state with
  | connected =>
      cases Pdu.encode m <;> rfl
  | disconnected | failed =>
      rfl

theorem extend_reported (m : Message) (cause : Option String) :
    (s.extend more).reported m cause = (s.reported m cause).extend more := by
  cases cause with
  | none =>
      rfl
  | some cause =>
      exact extend_abort s more m cause

theorem extend_woken (cut : Bool) :
    (s.extend more).woken cut = (s.woken cut).extend more := by
  cases cut <;> rfl

theorem extend_deliver (enabled : TypeSet) (frame : List UInt8) :
    (s.extend more).deliver enabled frame = (s.deliver enabled frame).extend more := by
  unfold deliver
  cases AutoReply.arrivalEntry frame <;>
    cases AutoReply.reply? enabled frame with
    | none =>
        rfl
    | some m =>
        cases hencode : Pdu.encode m <;> simp only [hencode] <;> rfl

end State

/-- The script's end of its batch stays one. -/
theorem isCompletion_step
    {s : State}
    (h : s.task.isCompletion = true)
    (move : Move) :
    (step s move).task.isCompletion = true := by
  have hmove := happens_step s move
  generalize step s move = s' at hmove
  cases hmove with
  | nothing | replied | noted | lost | looked | notified =>
      exact h
  | proceed htask | opened _ htask | asked _ htask | sent _ htask | reported htask
  | closed _ htask | entered htask | woken htask | left htask =>
      rw [htask] at h
      cases h
  | @finished o result htask =>
      rw [htask] at h
      cases o with
      | completed =>
          rfl
      | aborted reason =>
          cases h
  | delivered frame henabled =>
      rw [task_deliver]
      exact h

theorem isCompletion_finish (s : State) :
    (s.finish .completed).task.isCompletion = true := by
  unfold State.finish
  split <;> rfl

/-- As long as the script is not at the end of its batch, more events behind it do not
matter. -/
theorem step_extend
    {s : State} {move : Move}
    (more : Batch)
    (h : (step s move).task.isCompletion = false) :
    step (s.extend more) move = (step s move).extend more := by
  obtain ⟨defaults, rest, processed, task, session, next, enabled, replies, handle,
    trace⟩ := s
  cases move with
  | proceed =>
      cases task with
      | ready =>
          cases rest with
          | nil =>
              exact absurd h (by rw [step, State.proceed, isCompletion_finish]; simp)
          | cons e rest =>
              exact State.extend_take ⟨defaults, rest, processed + 1, .ready, session,
                next, enabled, replies, handle, trace ++ [.took e]⟩ more e
      | _ =>
          rfl
  | opened result =>
      cases task with
      | opening peer =>
          cases result <;> rfl
      | _ =>
          rfl
  | state state =>
      cases task with
      | asking m =>
          exact State.extend_asked _ more m state
      | _ =>
          rfl
  | reported =>
      cases task with
      | reporting m cause =>
          exact State.extend_reported _ more m cause
      | _ =>
          rfl
  | sent _ | closed _ | entered | left =>
      cases task <;> rfl
  | wake cut =>
      cases task with
      | pausing length =>
          change ite _ _ _ = State.extend (ite _ _ _) more
          rw [apply_ite (State.extend · more), ← State.extend_woken]
          rfl
      | _ =>
          rfl
  | deliver frame =>
      cases enabled with
      | none =>
          rfl
      | some set =>
          exact State.extend_deliver _ more set frame
  | replied _ | noted =>
      cases replies with
      | nil =>
          rfl
      | cons r rest =>
          obtain ⟨_, _, result⟩ := r
          cases result <;> rfl
  | lose =>
      cases enabled <;> rfl
  | look | notify =>
      rfl

/-! ### Peers -/

/-- Moves as they come from outside: what happens next depends on the number of moves so far
and on what happened. -/
abbrev Peer := Nat → List Mark → Move

/-- The moment after some moves against a peer. -/
def against (peer : Peer) (s : State) : Nat → State
  | 0 => s
  | n + 1 => step (against peer s n) (peer n (against peer s n).trace)

/-- The moves that a peer makes. -/
def movesOf (peer : Peer) (s : State) : Nat → List Move
  | 0 => []
  | n + 1 => movesOf peer s n ++ [peer n (against peer s n).trace]

/-- A run against a peer is the run of its moves. -/
theorem against_eq_steps (peer : Peer) (s : State) (n : Nat) :
    against peer s n = steps s (movesOf peer s n) := by
  induction n with
  | zero =>
      rfl
  | succ n ih =>
      rw [movesOf, steps_snoc, ← ih]
      rfl

/-- A run against a peer that is not over was not over before. -/
theorem against_going
    {peer : Peer} {s : State} {k n : Nat}
    (hk : k ≤ n)
    (h : (against peer s n).outcome? = none) :
    (against peer s k).outcome? = none := by
  induction n, hk using Nat.le_induction with
  | base =>
      exact h
  | succ n hk ih =>
      refine ih ?_
      cases ho : (against peer s n).outcome? with
      | none =>
          rfl
      | some o =>
          have hover := outcome?_happens (happens_step _ (peer n (against peer s n).trace)) ho
          cases hover.symm.trans h

/-- If a peer always answers, every move of a run that is not over is an answer. -/
theorem answered_movesOf
    {peer : Peer} {s : State} {n : Nat}
    (hanswers : ∀ k, (against peer s k).outcome? = none →
      (against peer s k).awaits (peer k (against peer s k).trace) = true)
    (hgoing : (against peer s n).outcome? = none) :
    answered s (movesOf peer s n) = n := by
  induction n with
  | zero =>
      rfl
  | succ n ih =>
      have hearlier := against_going (Nat.le_succ n) hgoing
      rw [movesOf, answered_snoc, ih hearlier, ← against_eq_steps,
        if_pos (hanswers n hearlier)]

/-- Against the same peer the run of the longer batch goes in lock step. -/
theorem against_extend
    {peer : Peer} {s : State} {n : Nat}
    (more : Batch)
    (h : (against peer s n).task.isCompletion = false) :
    against peer (s.extend more) n = (against peer s n).extend more := by
  induction n with
  | zero =>
      rfl
  | succ n ih =>
      have hearlier : (against peer s n).task.isCompletion = false := by
        refine Bool.eq_false_iff.2 fun hcompletion => ?_
        have hstill := isCompletion_step hcompletion (peer n (against peer s n).trace)
        rw [against, hstill] at h
        cases h
      have hmore := step_extend more h
      rw [against, ih hearlier]
      exact hmore

/-! ### How runs end -/

/-- How the run of a batch against a peer ends. -/
structure Decided (defaults : TypeSet) (batch : Batch) (peer : Peer) (n : Nat) : Prop where
  /-- A script that is not at its end waits for something, and was not answered often. -/
  going : (against peer (.start defaults batch) n).outcome? = none →
    (∃ move, (against peer (.start defaults batch) n).awaits move = true) ∧
      answered (.start defaults batch) (movesOf peer (.start defaults batch) n) <
        4 * batch.length + 2
  /-- Against a peer that always answers the script comes to its end. -/
  comes : (∀ k, (against peer (.start defaults batch) k).outcome? = none →
      (against peer (.start defaults batch) k).awaits
        (peer k (against peer (.start defaults batch) k).trace) = true) →
    4 * batch.length + 2 ≤ n →
      ∃ o, (against peer (.start defaults batch) n).outcome? = some o
  /-- Where a message is not sent over an open connection, it is the last event, its entry
  holds the reason, and the connection is closed. -/
  stops : ∀ f : Fault, f.In (against peer (.start defaults batch) n) →
    f.Stops batch (against peer (.start defaults batch) n)
  /-- A run that is over was aborted if and only if there is such a message. -/
  aborted : ∀ o, (against peer (.start defaults batch) n).outcome? = some o →
    ((∃ reason, o = .aborted reason) ↔
      ∃ f : Fault, f.In (against peer (.start defaults batch) n))
  /-- Else all events were taken up. -/
  completed : ∀ o, (against peer (.start defaults batch) n).outcome? = some o →
    (∀ f : Fault, ¬f.In (against peer (.start defaults batch) n)) →
      o = .completed ∧ (against peer (.start defaults batch) n).processed = batch.length
  /-- What stands behind the event that aborts a run does not matter. -/
  suffix : ∀ reason more,
    (against peer (.start defaults batch) n).outcome? = some (.aborted reason) →
      (against peer (.start defaults (batch ++ more)) n).trace =
          (against peer (.start defaults batch) n).trace ∧
        (against peer (.start defaults (batch ++ more)) n).log =
          (against peer (.start defaults batch) n).log ∧
        ∀ milliseconds,
          (against peer (.start defaults (batch ++ more)) n).report? milliseconds =
            (against peer (.start defaults batch) n).report? milliseconds

/-- **How runs end.** -/
theorem decided (defaults : TypeSet) (batch : Batch) (peer : Peer) (n : Nat) :
    Decided defaults batch peer n := by
  have haccount : Accounted batch (against peer (.start defaults batch) n) :=
    against_eq_steps peer (.start defaults batch) n ▸ accounted_steps defaults batch _
  exact {
    going := fun hgoing =>
      ⟨exists_awaits hgoing, answered_lt_of_going (against_eq_steps .. ▸ hgoing)⟩
    comes := by
      intro hanswers hn
      refine Option.ne_none_iff_exists'.1 fun hgoing => ?_
      have hfew := answered_lt_of_going (against_eq_steps .. ▸ hgoing)
      rw [answered_movesOf hanswers hgoing] at hfew
      exact absurd hn (Nat.not_le_of_lt hfew)
    stops := fun f hf => f.stops haccount hf
    aborted := by
      intro o ho
      have htask := task_of_outcome? ho
      constructor
      · rintro ⟨reason, rfl⟩
        rcases haccount.ending htask with ⟨hcompleted, -⟩ | ⟨f, hf, -⟩
        · cases hcompleted
        · exact ⟨f, hf⟩
      · rintro ⟨f, hf⟩
        rcases (f.stops haccount hf).closes with
          ⟨-, hreporting⟩ | ⟨-, hfinishing⟩ | ⟨result, -, hfinished⟩
        · cases htask.symm.trans hreporting
        · cases htask.symm.trans hfinishing
        · exact ⟨_, Task.finished.inj (htask.symm.trans hfinished)⟩
    completed := by
      intro o ho hnone
      rcases haccount.ending (task_of_outcome? ho) with hcompleted | ⟨f, hf, -⟩
      · exact hcompleted
      · exact absurd hf (hnone f)
    suffix := by
      intro reason more ho
      have hgoing : (against peer (.start defaults batch) n).task.isCompletion = false := by
        rw [task_of_outcome? ho]
        rfl
      have hmore := against_extend more hgoing
      change against peer (.start defaults (batch ++ more)) n = _ at hmore
      rw [hmore]
      exact ⟨rfl, rfl, fun _ => rfl⟩ }

/-- A peer whose moves are listed; whoever has no more moves only looks. -/
def listed (moves : List Move) : Peer :=
  fun n _ => moves.getD n .look

/-- A batch with one message. -/
def linkBatch : Batch :=
  [.connect ⟨"h", 1⟩, .send (Message.new .enquireLink)]

/-- Its connection breaks while the message is being sent. -/
def breakingPeer : Peer :=
  listed [.proceed, .opened .ok, .proceed, .state .connected, .lose,
    .sent (.failed .disconnected), .reported, .closed .ok]

/-- All goes well. -/
def steadyPeer : Peer :=
  listed [.proceed, .opened .ok, .proceed, .state .connected, .sent .ok, .reported, .proceed,
    .closed .ok]

/-- One run is aborted, whatever stands behind its message, and another one comes to its
end. -/
theorem decided_aborted_and_completed :
    (against breakingPeer (.start .empty linkBatch) 8).outcome? =
        some (.aborted "Send failed, seq=1, type=ENQUIRE_LINK: 连接已断开") ∧
      (∃ f : Fault, f.In (against breakingPeer (.start .empty linkBatch) 8) ∧
        f.Stops linkBatch (against breakingPeer (.start .empty linkBatch) 8)) ∧
      (∀ more, (against breakingPeer (.start .empty (linkBatch ++ more)) 8).log =
        (against breakingPeer (.start .empty linkBatch) 8).log) ∧
      (∃ o, (against steadyPeer (.start .empty linkBatch) 10).outcome? = some o) ∧
      (∀ f : Fault, ¬f.In (against steadyPeer (.start .empty linkBatch) 10)) ∧
      (against steadyPeer (.start .empty linkBatch) 10).processed = 2 := by
  have hbroken : (against breakingPeer (.start .empty linkBatch) 8).outcome? =
      some (.aborted "Send failed, seq=1, type=ENQUIRE_LINK: 连接已断开") := by
    decide +kernel
  have hsteady : (against steadyPeer (.start .empty linkBatch) 8).outcome? =
      some .completed := by
    decide +kernel
  have hend : (against steadyPeer (.start .empty linkBatch) 10).outcome? =
      some .completed := by
    decide +kernel
  have hanswers : ∀ k, (against steadyPeer (.start .empty linkBatch) k).outcome? = none →
      (against steadyPeer (.start .empty linkBatch) k).awaits
        (steadyPeer k (against steadyPeer (.start .empty linkBatch) k).trace) = true := by
    intro k hgoing
    have hk : k < 8 := by
      by_contra hle
      cases hsteady.symm.trans (against_going (Nat.le_of_not_lt hle) hgoing)
    revert hgoing
    interval_cases k <;> decide +kernel
  have hbreaking := decided .empty linkBatch breakingPeer 8
  have hending := decided .empty linkBatch steadyPeer 10
  obtain ⟨f, hf⟩ := (hbreaking.aborted _ hbroken).1 ⟨_, rfl⟩
  have hnone : ∀ f : Fault, ¬f.In (against steadyPeer (.start .empty linkBatch) 10) := by
    intro f hf
    obtain ⟨reason, hreason⟩ := (hending.aborted _ hend).2 ⟨f, hf⟩
    cases hreason
  exact ⟨hbroken, ⟨f, hf, hbreaking.stops f hf⟩, fun more =>
    (hbreaking.suffix _ more hbroken).2.1,
    hending.comes hanswers (by decide), hnone, (hending.completed _ hend hnone).2⟩

end Replay
end SmppReplay
