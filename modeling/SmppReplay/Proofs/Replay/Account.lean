import SmppReplay.Proofs.Replay.Turns

/-!
# The account of a run

A run leaves one trace of both sides.  The script's part of it is made up of turns and of
one stage behind them, whatever the inbound side did in between (`Accounted`): each move of
the script goes from a stage to the next one or to the end of its turn, and a move of the
inbound side changes nothing of the script.

Main facts:
* `accounted_steps`: every moment of every run is accounted for;
* `Accounted.turnAt_of_took`: what follows where an event is taken up.
-/

namespace SmppReplay
namespace Replay

open Transcript (Entry)
open Transport (ConnectionState Endpoint Result)

/-- The script's marks are those of its turns and of the stage that it is at, and its events
those of the batch. -/
def Accounted (batch : Batch) (s : State) : Prop :=
  ∃ done marks st current ms,
    Turns {} done marks st ∧ Stage st s.rest current ms s.task s.standing ∧
    scriptPart s.trace = marks ++ ms ∧ batch = done ++ current ++ s.rest ∧
    s.processed = (done ++ current).length

namespace Accounted

variable {batch : Batch} {s s' : State}

theorem start (defaults : AutoReply.TypeSet) (batch : Batch) :
    Accounted batch (.start defaults batch) :=
  ⟨[], [], {}, [], [], Turns.nil {}, Stage.ready, rfl, rfl, rfl⟩

/-- Of a moment only the script's side matters. -/
theorem congr
    (h : Accounted batch s)
    (hscript : scriptPart s'.trace = scriptPart s.trace)
    (hrest : s'.rest = s.rest)
    (htask : s'.task = s.task)
    (hstanding : s'.standing = s.standing)
    (hprocessed : s'.processed = s.processed) :
    Accounted batch s' := by
  unfold Accounted
  rw [hscript, hrest, htask, hstanding, hprocessed]
  exact h

/-- A mark of the inbound side does not matter. -/
theorem mark {k : Mark}
    (h : Accounted batch s)
    (hk : k.isScript = false) :
    Accounted batch (s.mark k) := by
  have hnone : scriptPart [k] = [] := by
    simp [scriptPart, hk]
  refine h.congr ?_ rfl rfl rfl rfl
  rw [State.mark, scriptPart_append, hnone, List.append_nil]

theorem record
    (h : Accounted batch s)
    (e : Entry) :
    Accounted batch (s.record .inbound e) :=
  h.mark rfl

/-! ### The script -/

/-- With a turn done the script is ready again. -/
theorem turn
    {done : Batch} {marks ms : List Mark} {st : Standing} {e : Event}
    (hturns : Turns {} done marks st)
    (hturn : Turn st e ms s.standing)
    (htask : s.task = .ready)
    (hscript : scriptPart s.trace = marks ++ .took e :: ms)
    (hbatch : batch = done ++ [e] ++ s.rest)
    (hprocessed : s.processed = (done ++ [e]).length) :
    Accounted batch s := by
  refine ⟨done ++ [e], _, s.standing, [], [], Turns.snoc hturns hturn, ?_, ?_, ?_, ?_⟩
  · rw [htask]
    exact Stage.ready
  · rw [hscript, List.append_nil]
  · rw [hbatch, List.append_nil]
  · rw [hprocessed, List.append_nil]

/-- When the script is at its end, the connection is closed if it is open. -/
theorem finish
    {done current : Batch} {marks ms : List Mark} {st : Standing} {o : Outcome}
    (hturns : Turns {} done marks st)
    (hends : Ends st s.rest current ms o s.standing)
    (hscript : scriptPart s.trace = marks ++ ms)
    (hbatch : batch = done ++ current ++ s.rest)
    (hprocessed : s.processed = (done ++ current).length) :
    Accounted batch (s.finish o) := by
  unfold State.finish
  split
  · rename_i held hsession
    refine ⟨done, marks, st, current, _, hturns, Stage.finishing hends hsession, ?_, hbatch,
      hprocessed⟩
    rw [State.mark, scriptPart_append, hscript, List.append_assoc]
    rfl
  · rename_i hsession
    exact ⟨done, marks, st, current, ms, hturns, Stage.finished hends hsession,
      hscript, hbatch,
      hprocessed⟩

/-- A message that is not sent ends the script. -/
theorem abort
    {done : Batch} {marks ms : List Mark} {st : Standing} {m : Message} {cause : String}
    {held : Endpoint}
    (hturns : Turns {} done marks st)
    (hopen : st.session = some held)
    (hfails : Fails st m ms cause)
    (hstanding : s.standing = st.after m)
    (hscript : scriptPart s.trace = marks ++ .took (.send m) :: ms)
    (hbatch : batch = done ++ [.send m] ++ s.rest)
    (hprocessed : s.processed = (done ++ [Event.send m]).length) :
    Accounted batch (s.abort (st.numbered m) cause) := by
  have hends : Ends st s.rest [.send m] _ _ s.standing :=
    hstanding ▸ Ends.aborted hopen hfails
  refine finish (s := s.record .script _) hturns hends ?_ hbatch hprocessed
  rw [State.record, State.mark, scriptPart_append, hscript, List.append_assoc]
  rfl

/-- An event that is taken up is dealt with at once, or opens a stage. -/
theorem take
    {done : Batch} {marks : List Mark} {e : Event}
    (hturns : Turns {} done marks s.standing)
    (htask : s.task = .ready)
    (hscript : scriptPart s.trace = marks ++ [.took e])
    (hbatch : batch = done ++ [e] ++ s.rest)
    (hprocessed : s.processed = (done ++ [e]).length) :
    Accounted batch (s.take e) := by
  have hmarked : ∀ ks, scriptPart ks = ks →
      scriptPart (s.trace ++ ks) = marks ++ .took e :: ks := by
    intro ks hks
    rw [scriptPart_append, hscript, hks, List.append_assoc, List.singleton_append]
  cases e with
  | connect peer =>
      simp only [State.take]
      split
      · rename_i held hsession
        exact turn hturns (Turn.refused peer hsession) htask
          (hmarked [_] rfl) hbatch hprocessed
      · rename_i hsession
        exact ⟨done, marks, s.standing, _, _, hturns, Stage.opening peer hsession,
          hmarked [.openCalled peer] rfl, hbatch, hprocessed⟩
  | disconnect =>
      simp only [State.take]
      split
      · rename_i held hsession
        exact ⟨done, marks, s.standing, _, _, hturns, Stage.closing hsession,
          hmarked [.closeCalled] rfl, hbatch, hprocessed⟩
      · rename_i hsession
        exact turn hturns (Turn.notConnected hsession) htask
          (hmarked [_] rfl) hbatch hprocessed
  | send m =>
      simp only [State.take]
      split
      · rename_i held hsession
        exact ⟨done, marks, s.standing, _, _, hturns, Stage.asking m hsession,
          hscript, hbatch,
          hprocessed⟩
      · rename_i hsession
        refine turn hturns (Turn.passedOver m hsession) htask ?_ hbatch hprocessed
        rw [State.record, State.mark, State.mark, List.append_assoc]
        exact hmarked [.unsent .script m, .logged .script (passedOverEntry m)] rfl
  | pause length =>
      exact ⟨done, marks, s.standing, _, _, hturns, Stage.entering length,
        hmarked [.pauseStarted length] rfl, hbatch, hprocessed⟩
  | setAutoReply t enabled =>
      simp only [State.take]
      split
      · rename_i held hsession
        exact turn hturns (Turn.switched t enabled hsession) htask hscript hbatch hprocessed
      · rename_i hsession
        exact turn hturns (Turn.ignored t enabled hsession) htask
          (hmarked [_] rfl) hbatch hprocessed

theorem proceed
    (h : Accounted batch s)
    (hready : s.task = .ready) :
    Accounted batch s.proceed := by
  obtain ⟨done, marks, st, current, ms, hturns, hstage, hscript, hbatch, hprocessed⟩ := h
  rw [hready] at hstage
  cases hstage
  rw [List.append_nil] at hscript hbatch hprocessed
  unfold State.proceed
  split
  · rename_i hrest
    refine finish hturns (Ends.completed hrest) ?_ ?_ ?_
    · rw [hscript, List.append_nil]
    · rw [hbatch, List.append_nil]
    · rw [hprocessed, List.append_nil]
  · rename_i e rest hrest
    refine take hturns hready ?_ ?_ ?_
    · rw [State.mark, scriptPart_append, hscript]
      rfl
    · rw [hbatch, hrest, List.append_assoc]
      rfl
    · change s.processed + 1 = _
      rw [hprocessed, List.length_append]
      rfl

theorem opened
    {peer : Endpoint}
    (h : Accounted batch s)
    (htask : s.task = .opening peer)
    (result : Result) :
    Accounted batch (s.opened peer result) := by
  obtain ⟨done, marks, st, current, ms, hturns, hstage, hscript, hbatch, hprocessed⟩ := h
  rw [htask] at hstage
  generalize hnow : s.standing = now at hstage
  cases hstage with
  | opening _ hidle =>
      subst hnow
      cases result with
      | ok =>
          refine turn hturns (Turn.connected peer hidle) rfl ?_ hbatch hprocessed
          simp only [State.opened, State.record, State.mark, scriptPart_append, hscript,
            List.append_assoc]
          rfl
      | failed e =>
          refine turn hturns (Turn.unreachable peer e hidle) rfl ?_ hbatch hprocessed
          simp only [State.opened, State.record, State.mark, scriptPart_append, hscript,
            List.append_assoc]
          rfl

/-- A message that was not sent has no entry yet. -/
theorem failed
    {done : Batch} {marks ms : List Mark} {st : Standing} {m : Message} {cause : String}
    {held : Endpoint}
    (hturns : Turns {} done marks st)
    (hopen : st.session = some held)
    (hfails : Fails st m ms cause)
    (htask : s.task = .reporting (st.numbered m) (some cause))
    (hstanding : s.standing = st.after m)
    (hscript : scriptPart s.trace = marks ++ .took (.send m) :: ms)
    (hbatch : batch = done ++ [.send m] ++ s.rest)
    (hprocessed : s.processed = (done ++ [Event.send m]).length) :
    Accounted batch s := by
  have hstage : Stage st s.rest [.send m] (.took (.send m) :: ms) s.task s.standing := by
    rw [htask, hstanding]
    exact Stage.failed hopen hfails
  exact ⟨done, marks, st, _, _, hturns, hstage, hscript, hbatch, hprocessed⟩

/-- A message is handed over only to a connection that says that it is connected. -/
theorem asked
    {m : Message}
    (h : Accounted batch s)
    (htask : s.task = .asking m)
    (state : ConnectionState) :
    Accounted batch (s.asked m state) := by
  obtain ⟨done, marks, st, current, ms, hturns, hstage, hscript, hbatch, hprocessed⟩ := h
  rw [htask] at hstage
  generalize hnow : s.standing = now at hstage
  cases hstage with
  | asking m hopen =>
      have hunsent : ∀ cause,
          Fails st m [.stateReturned state, .unsent .script (st.numbered m)] cause →
          Accounted batch ((s.mark (.stateReturned state)).unsent (st.numbered m) cause) := by
        intro cause hfails
        refine failed hturns hopen hfails rfl hnow ?_ hbatch hprocessed
        simp only [State.unsent, State.mark, scriptPart_append, hscript, List.append_assoc]
        rfl
      unfold State.asked
      cases state with
      | connected =>
          cases hencode : Pdu.encode (st.numbered m) with
          | error e =>
              exact hunsent e.message (Fails.unwritable hencode)
          | ok frame =>
              have hstage : Stage st s.rest [.send m] _ (.sending (st.numbered m) frame)
                  s.standing := hnow ▸ Stage.sending m hopen hencode
              refine ⟨done, marks, st, _, _, hturns, hstage, ?_, hbatch, hprocessed⟩
              simp only [State.mark, scriptPart_append, hscript, List.append_assoc]
              rfl
      | disconnected =>
          exact hunsent _ (Fails.notConnected (by decide))
      | failed =>
          exact hunsent _ (Fails.notConnected (by decide))

theorem sent
    {m : Message} {frame : List UInt8}
    (h : Accounted batch s)
    (htask : s.task = .sending m frame)
    (result : Result) :
    Accounted batch (s.sent m frame result) := by
  obtain ⟨done, marks, st, current, ms, hturns, hstage, hscript, hbatch, hprocessed⟩ := h
  rw [htask] at hstage
  generalize hnow : s.standing = now at hstage
  cases hstage with
  | sending m hopen hframe =>
      cases result with
      | ok =>
          have hstage : Stage st s.rest [.send m] _ (.reporting (st.numbered m) none)
              s.standing := hnow ▸ Stage.sent m hopen hframe
          refine ⟨done, marks, st, _, _, hturns, hstage, ?_, hbatch, hprocessed⟩
          simp only [State.sent, State.mark, scriptPart_append, hscript, List.append_assoc]
          rfl
      | failed e =>
          refine failed hturns hopen (Fails.unsent (e := e) hframe) rfl hnow ?_
            hbatch hprocessed
          simp only [State.sent, State.mark, scriptPart_append, hscript, List.append_assoc]
          rfl

/-- The entry of a message ends its turn, or the script. -/
theorem reported
    {m : Message} {cause : Option String}
    (h : Accounted batch s)
    (htask : s.task = .reporting m cause) :
    Accounted batch (s.reported m cause) := by
  obtain ⟨done, marks, st, current, ms, hturns, hstage, hscript, hbatch, hprocessed⟩ := h
  rw [htask] at hstage
  generalize hnow : s.standing = now at hstage
  cases hstage with
  | sent m hopen hframe =>
      refine turn hturns (hnow ▸ Turn.sent m hopen hframe) rfl ?_ hbatch hprocessed
      simp only [State.reported, State.record, State.mark, scriptPart_append, hscript,
        List.append_assoc]
      rfl
  | failed hopen hfails =>
      exact abort hturns hopen hfails hnow hscript hbatch hprocessed

theorem closed
    (h : Accounted batch s)
    (htask : s.task = .closing)
    (result : Result) :
    Accounted batch (s.closed .ready disconnectedEntry result) := by
  obtain ⟨done, marks, st, current, ms, hturns, hstage, hscript, hbatch, hprocessed⟩ := h
  rw [htask] at hstage
  generalize hnow : s.standing = now at hstage
  cases hstage with
  | closing hopen =>
      have hturn := hnow ▸ Turn.disconnected result hopen
      refine turn hturns hturn rfl ?_ hbatch hprocessed
      simp only [State.closed, State.record, State.mark, scriptPart_append, hscript,
        List.append_assoc]
      rfl

theorem finished
    {o : Outcome}
    (h : Accounted batch s)
    (htask : s.task = .finishing o)
    (result : Result) :
    Accounted batch (s.closed (.finished o) (finalCloseEntry result) result) := by
  obtain ⟨done, marks, st, current, ms, hturns, hstage, hscript, hbatch, hprocessed⟩ := h
  rw [htask] at hstage
  generalize hnow : s.standing = now at hstage
  cases hstage with
  | finishing hends hopen =>
      have hstage := hnow ▸ Stage.closed result hends hopen
      refine ⟨done, marks, st, current, _, hturns, hstage, ?_, hbatch, hprocessed⟩
      simp only [State.closed, State.record, State.mark, scriptPart_append, hscript,
        List.append_assoc]
      rfl

theorem entered
    {length : Millis}
    (h : Accounted batch s)
    (htask : s.task = .entering length) :
    Accounted batch (s.entered length) := by
  obtain ⟨done, marks, st, current, ms, hturns, hstage, hscript, hbatch, hprocessed⟩ := h
  rw [htask] at hstage
  generalize hnow : s.standing = now at hstage
  cases hstage with
  | entering =>
      subst hnow
      refine ⟨done, marks, _, _, _, hturns, Stage.pausing length, ?_, hbatch, hprocessed⟩
      simp only [State.entered, State.mark, scriptPart_append, hscript, List.append_assoc]
      rfl

theorem woken
    {length : Millis}
    (h : Accounted batch s)
    (htask : s.task = .pausing length)
    (cut : Bool) :
    Accounted batch (s.woken cut) := by
  obtain ⟨done, marks, st, current, ms, hturns, hstage, hscript, hbatch, hprocessed⟩ := h
  rw [htask] at hstage
  generalize hnow : s.standing = now at hstage
  cases hstage with
  | pausing =>
      subst hnow
      have htrace : (s.woken cut).trace = s.trace ++ .pauseEnded cut :: cutEntries cut := by
        cases cut <;> simp [State.woken, State.record, State.mark, cutEntries]
      have hscript' : scriptPart (.pauseEnded cut :: cutEntries cut) =
          .pauseEnded cut :: cutEntries cut := by
        cases cut <;> rfl
      have haccount :
          Accounted batch { s with task := .leaving, trace := (s.woken cut).trace } := by
        refine ⟨done, marks, _, _, _, hturns, Stage.leaving length cut, ?_,
          hbatch, hprocessed⟩
        rw [htrace, scriptPart_append, hscript, hscript', List.append_assoc]
        rfl
      cases cut <;> exact haccount.congr rfl rfl rfl rfl rfl

theorem left
    (h : Accounted batch s)
    (htask : s.task = .leaving) :
    Accounted batch s.left := by
  obtain ⟨done, marks, st, current, ms, hturns, hstage, hscript, hbatch, hprocessed⟩ := h
  rw [htask] at hstage
  generalize hnow : s.standing = now at hstage
  cases hstage with
  | leaving length cut =>
      subst hnow
      have hmarked : scriptPart s.left.trace = marks ++
          .took (.pause length) :: (.pauseStarted length :: .pauseEntered ::
            .pauseEnded cut :: (cutEntries cut ++ [.pauseLeft])) := by
        simp only [State.left, State.mark, scriptPart_append, hscript, List.append_assoc]
        rfl
      cases cut with
      | false =>
          exact turn hturns (Turn.waited length) rfl hmarked hbatch hprocessed
      | true =>
          exact turn hturns (Turn.cut length) rfl hmarked hbatch hprocessed

/-! ### The inbound side -/

theorem deliver
    (h : Accounted batch s)
    (enabled : AutoReply.TypeSet) (frame : List UInt8) :
    Accounted batch (s.deliver enabled frame) := by
  have harrived : Accounted batch (s.arrived enabled frame) := by
    unfold State.arrived
    cases AutoReply.arrivalEntry frame with
    | none =>
        exact h.mark rfl
    | some e =>
        exact (h.mark rfl).record e
  have hanswers := answers_deliver s enabled frame
  generalize s.deliver enabled frame = s' at hanswers ⊢
  cases hanswers with
  | silent hreply =>
      exact harrived
  | handed hreply hbs =>
      exact (harrived.congr rfl rfl rfl rfl rfl).mark rfl
  | unsent hreply he =>
      exact (harrived.mark rfl).record _

/-- Every move keeps the account. -/
theorem happens
    {move : Move}
    (hmove : Happens s move s')
    (h : Accounted batch s) :
    Accounted batch s' := by
  cases hmove with
  | nothing =>
      exact h
  | proceed htask =>
      exact h.proceed htask
  | opened result htask =>
      exact h.opened htask result
  | asked state htask =>
      exact h.asked htask state
  | sent result htask =>
      exact h.sent htask result
  | reported htask =>
      exact h.reported htask
  | closed result htask =>
      exact h.closed htask result
  | finished result htask =>
      exact h.finished htask result
  | entered htask =>
      exact h.entered htask
  | woken htask =>
      exact h.woken htask _
  | left htask =>
      exact h.left htask
  | delivered frame henabled =>
      exact h.deliver _ frame
  | replied result hreplies hresult =>
      exact (h.congr rfl rfl rfl rfl rfl).mark rfl
  | noted hreplies hresult =>
      exact (h.congr rfl rfl rfl rfl rfl).record _
  | lost henabled =>
      exact (h.mark rfl).record _
  | looked =>
      exact h.mark rfl
  | notified =>
      exact (h.congr rfl rfl rfl rfl rfl).mark rfl

end Accounted

/-- **The script event by event.** At every moment of every run the script has done its
turns, in the order of the batch, and is at a stage behind them. -/
theorem accounted_steps (defaults : AutoReply.TypeSet) (batch : Batch) (moves : List Move) :
    Accounted batch (steps (.start defaults batch) moves) :=
  steps_preserves (fun _ _ _ hmove h => h.happens hmove) moves
    (Accounted.start defaults batch)

/-- What follows where an event is taken up: the script makes its turn and goes on, or it is
still at a stage of that turn. -/
inductive TurnAt (s : State) (st : Standing) (e : Event) : List Mark → Prop
  | made {ms next : List Mark} {st' : Standing} (h : Turn st e ms st')
      (hnext : Resumes next) :
      TurnAt s st e (ms ++ next)
  | underway {ms : List Mark} (h : Stage st s.rest [e] (.took e :: ms) s.task s.standing) :
      TurnAt s st e ms

/-- **What an event leads to.** Where the script takes up an event it has done the turns of
the events before it, and what it does next is the turn of this one. -/
theorem Accounted.turnAt_of_took
    {batch : Batch} {s : State} {front back : List Mark} {e : Event}
    (h : Accounted batch s)
    (htrace : s.trace = front ++ .took e :: back) :
    ∃ done st, done ++ [e] <+: batch ∧ Turns {} done (scriptPart front) st ∧
      TurnAt s st e (scriptPart back) := by
  obtain ⟨done, marks, st, current, ms, hturns, hstage, hscript, hbatch, -⟩ := h
  have hsplit : marks ++ ms = scriptPart front ++ .took e :: scriptPart back := by
    rw [← hscript, htrace, scriptPart_append]
    rfl
  rcases split_cases hsplit with ⟨front', hfront, hms⟩ | ⟨back', hmarks, hback⟩
  · obtain ⟨rfl, rfl⟩ := hstage.eq_of_took hms
    rw [List.append_nil] at hfront
    rw [List.nil_append] at hms
    exact ⟨done, st, ⟨s.rest, hbatch.symm⟩, hfront ▸ hturns, TurnAt.underway (hms ▸ hstage)⟩
  · obtain ⟨before, after, st₁, st₂, ms', r', rfl, rfl, hbefore, hturn, hafter⟩ :=
      hturns.exists_of_took hmarks
    refine ⟨before, st₁, ⟨after ++ current ++ s.rest, ?_⟩, hbefore, ?_⟩
    · rw [hbatch]
      simp only [List.append_assoc, List.cons_append, List.nil_append]
    · rw [hback, List.append_assoc]
      exact TurnAt.made hturn (hafter.resumes hstage.resumes)

end Replay
end SmppReplay
