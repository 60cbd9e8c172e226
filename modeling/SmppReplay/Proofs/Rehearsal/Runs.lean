import SmppReplay.Proofs.Replay.Moments
import SmppReplay.Proofs.Replay.Progress
import SmppReplay.Rehearsal.Run

/-!
# Rehearsals are runs

A rehearsal makes a run step, and it only does what could happen to a run: what is proved of
all runs holds of it.  The peer answers whatever the script waits for, so the rehearsal
comes to the end of the run.

**Method.** What the peer does on its own makes moves of the inbound side and of whoever
cuts pauses short (`Meanwhile`); they leave the script where it is.  So the answer that the
peer gives in the end is one to what the script waited for (`answered_advance`), and the run
has at most `State.ahead` of them to wait for.

Main fact:
* `rehearse_isRun`: a rehearsal is a run, up to its end.
-/

namespace SmppReplay
namespace Rehearsal

open Replay (Move State happens_step steps step)

/-- The second moment of a run follows the first while the script waits. -/
def Meanwhile (s s' : State) : Prop :=
  ∃ moves : List Move, (∀ m ∈ moves, m.isScript = false) ∧ s' = steps s moves

namespace Meanwhile

variable {s s' s'' : State}

theorem refl (s : State) :
    Meanwhile s s :=
  ⟨[], fun _ hm => absurd hm List.not_mem_nil, rfl⟩

theorem trans
    (h : Meanwhile s s')
    (h' : Meanwhile s' s'') :
    Meanwhile s s'' := by
  obtain ⟨moves, hmoves, rfl⟩ := h
  obtain ⟨moves', hmoves', rfl⟩ := h'
  refine ⟨moves ++ moves', ?_, List.foldl_append.symm⟩
  intro m hm
  rcases List.mem_append.mp hm with hm | hm
  · exact hmoves m hm
  · exact hmoves' m hm

theorem move
    (s : State)
    {m : Move}
    (hm : m.isScript = false) :
    Meanwhile s (step s m) :=
  ⟨[m], fun _ hm' => List.eq_of_mem_singleton hm' ▸ hm, rfl⟩

theorem foldl
    {α : Type} {f : World → α → World}
    (hf : ∀ w a, Meanwhile w.run (f w a).run)
    (as : List α) (w : World) :
    Meanwhile w.run (as.foldl f w).run := by
  induction as generalizing w with
  | nil =>
      exact refl _
  | cons a as ih =>
      exact (hf w a).trans (ih (f w a))

/-- The script is where it was. -/
theorem task_eq
    (h : Meanwhile s s') :
    s'.task = s.task := by
  obtain ⟨moves, hmoves, rfl⟩ := h
  induction moves generalizing s with
  | nil =>
      rfl
  | cons m moves ih =>
      have htask : (step s m).task = s.task := by
        have hmove : m.isScript = false := hmoves m List.mem_cons_self
        have hhappens := happens_step s m
        generalize step s m = s' at hhappens ⊢
        cases hhappens with
        | nothing | replied | noted | lost | looked | notified =>
            rfl
        | delivered frame =>
            exact Replay.task_deliver s _ frame
        | proceed | opened | asked | sent | reported | closed | finished | entered | woken
        | left =>
            cases hmove
      exact (ih fun m' hm' => hmoves m' (List.mem_cons_of_mem _ hm')).trans htask

end Meanwhile

/-! ### What the peer does on its own -/

namespace World

theorem meanwhile_move
    (w : World)
    {m : Move}
    (hm : m.isScript = false) :
    Meanwhile w.run (w.move m).run :=
  Meanwhile.move w.run hm

/-- What may happen or not. -/
theorem meanwhile_ite
    {w w' : World} (p : Prop) [Decidable p]
    (h : Meanwhile w.run w'.run) :
    Meanwhile w.run (if p then w' else w).run := by
  split
  · exact h
  · exact Meanwhile.refl _

theorem meanwhile_lose (w : World) :
    Meanwhile w.run w.lose.run :=
  meanwhile_move { w with live := false, state := .disconnected } (m := .lose) rfl

theorem meanwhile_interrupt (w : World) :
    Meanwhile w.run w.interrupt.run :=
  (meanwhile_move w (m := .look) rfl).trans (meanwhile_move (w.move .look) (m := .notify) rfl)

theorem meanwhile_afterInline (w : World) (a : SendAction) :
    Meanwhile w.run (w.afterInline a).run := by
  unfold afterInline
  refine (meanwhile_ite (a.interrupts = true) (meanwhile_interrupt w)).trans ?_
  generalize (if a.interrupts = true then w.interrupt else w) = w
  cases a.state with
  | none =>
      exact meanwhile_ite _ (meanwhile_lose w)
  | some s =>
      exact meanwhile_ite _ (meanwhile_lose { w with state := s })

/-- The delivery of a frame, given what the sending of a reply does. -/
theorem meanwhile_deliver_of_send
    {depth : Nat}
    (hsend : ∀ w frame, Meanwhile w.run (send depth w frame).2.run)
    (w : World) (frame : List UInt8) :
    Meanwhile w.run (deliver depth w frame).run := by
  have hdelivered : Meanwhile w.run (w.move (.deliver frame)).run := meanwhile_move w rfl
  rw [deliver]
  refine hdelivered.trans ?_
  generalize w.move (.deliver frame) = w'
  split
  · exact meanwhile_ite _
      (((hsend w' _).trans (meanwhile_move _ rfl)).trans (meanwhile_move _ rfl))
  · exact Meanwhile.refl _

/-- A frame is taken, and what the peer sends in answer is delivered. -/
theorem meanwhile_taken
    {depth : Nat}
    (hsend : ∀ w frame, Meanwhile w.run (send depth w frame).2.run)
    (w : World) (a : SendAction) (frame : List UInt8) :
    Meanwhile w.run ((a.inline.foldl (deliver depth) (w.accept a frame)).afterInline a).run :=
  (Meanwhile.foldl (meanwhile_deliver_of_send hsend) a.inline (w.accept a frame)).trans
    (meanwhile_afterInline _ a)

/-- A reply is sent while frames that the peer sends in answer are delivered, which leads to
replies with less to nest. -/
theorem meanwhile_send (depth : Nat) (w : World) (frame : List UInt8) :
    Meanwhile w.run (send depth w frame).2.run := by
  induction depth generalizing w frame with
  | zero =>
      rw [send]
      exact Meanwhile.refl _
  | succ depth ih =>
      rw [send]
      split
      · dsimp only
        split
        · exact Meanwhile.refl _
        · exact meanwhile_taken ih
            { w with peer := { w.peer with sends := w.peer.sends.drop 1 } } _ frame
      · exact Meanwhile.refl _

theorem meanwhile_deliver (depth : Nat) (w : World) (frame : List UInt8) :
    Meanwhile w.run (deliver depth w frame).run :=
  meanwhile_deliver_of_send (meanwhile_send depth) w frame

theorem meanwhile_drain (fuel : Nat) (w : World) :
    Meanwhile w.run (drain fuel w).run := by
  induction fuel generalizing w with
  | zero =>
      exact Meanwhile.refl _
  | succ fuel ih =>
      rw [drain]
      split
      · exact Meanwhile.refl _
      · refine Meanwhile.trans ?_ (ih _)
        split
        · exact meanwhile_deliver _ { w with queue := _ } _
        · exact Meanwhile.refl _

theorem meanwhile_act (w : World) (a : TimedAction) :
    Meanwhile w.run (w.act a).run := by
  have hdeliver :
      ∀ (w : World) f, Meanwhile w.run (if w.live then deliver w.depth w f else w).run :=
    fun w f => meanwhile_ite _ (meanwhile_deliver _ w f)
  unfold act
  dsimp only
  refine (Meanwhile.foldl hdeliver a.deliver { w with clock := a.time }).trans ?_
  generalize a.deliver.foldl _ _ = w
  refine Meanwhile.trans ?_ (meanwhile_drain _ _)
  refine (meanwhile_ite ((a.loses && w.live) = true) (meanwhile_lose w)).trans ?_
  exact meanwhile_ite (a.interrupts = true) (meanwhile_interrupt _)

theorem meanwhile_actUntil (stop : Nat) (as : List TimedAction) (w : World) :
    Meanwhile w.run (actUntil stop as w).run := by
  induction as generalizing w with
  | nil =>
      exact Meanwhile.refl _
  | cons a as ih =>
      rw [actUntil]
      split
      · exact Meanwhile.refl _
      · exact (meanwhile_act { w with peer := { w.peer with timeline := as } } a).trans (ih _)

end World

/-! ### The answers of the peer -/

/-- The second moment of a run follows the first when the script got what it waited for. -/
def Answered (s s' : State) : Prop :=
  ∃ between move, Meanwhile s between ∧ between.awaits move = true ∧ s' = step between move

namespace Answered

variable {s s' : State}

/-- The answer came at once. -/
theorem at_once
    (s : State) (move : Move)
    (h : s.awaits move = true) :
    Answered s (step s move) :=
  ⟨s, move, Meanwhile.refl s, h, rfl⟩

theorem reached
    (h : Answered s s') :
    ∃ moves, s' = steps s moves := by
  obtain ⟨between, move, ⟨moves, -, rfl⟩, -, rfl⟩ := h
  exact ⟨moves ++ [move], (Replay.steps_snoc s moves move).symm⟩

/-- The script is nearer to its end. -/
theorem ahead_lt
    (h : Answered s s') :
    s'.ahead < s.ahead := by
  obtain ⟨between, move, ⟨moves, -, rfl⟩, hawaits, rfl⟩ := h
  have hle := Replay.answered_add_ahead_le s moves
  have hless := Replay.ahead_step_of_awaits hawaits
  omega

end Answered

namespace World

theorem answered_pause
    {w : World} {length : Millis}
    (htask : w.run.task = .pausing length)
    (time : Nat) :
    Answered w.run (w.pause time).run := by
  have hmeanwhile := (meanwhile_drain drainLimit w).trans
    (meanwhile_actUntil (w.clock + time) (w.drain drainLimit).peer.timeline
      (w.drain drainLimit))
  unfold pause
  dsimp only
  generalize actUntil (w.clock + time) _ _ = w' at hmeanwhile ⊢
  have htask' : w'.run.task = .pausing length := hmeanwhile.task_eq.trans htask
  by_cases hcut : w'.isCut = true
  · rw [if_pos hcut]
    have hawaits : w'.run.awaits (.wake true) = true := by
      simpa only [State.awaits, htask', Bool.not_true, Bool.false_or, isCut] using hcut
    exact ⟨w'.run, .wake true, hmeanwhile, hawaits, rfl⟩
  · rw [if_neg hcut]
    have hawaits : w'.run.awaits (.wake false) = true := by
      simp only [State.awaits, htask', Bool.not_false, Bool.true_or]
    exact ⟨w'.run, .wake false, hmeanwhile, hawaits, rfl⟩

/-- The peer answers what the script waits for. -/
theorem answered_advance
    {w : World}
    (h : w.run.outcome? = none) :
    Answered w.run w.advance.run := by
  unfold advance
  cases htask : w.run.task with
  | ready =>
      exact Answered.at_once w.run .proceed (by simp only [State.awaits, htask])
  | opening peer =>
      unfold openNext
      cases w.peer.opens.head?.getD .ok <;>
        exact Answered.at_once w.run (.opened _) (by simp only [State.awaits, htask])
  | asking m =>
      exact Answered.at_once w.run (.state _) (by simp only [State.awaits, htask])
  | reporting m cause =>
      exact Answered.at_once w.run .reported (by simp only [State.awaits, htask])
  | closing | finishing o =>
      exact Answered.at_once w.run (.closed _) (by simp only [State.awaits, htask])
  | entering length =>
      exact Answered.at_once w.run .entered (by simp only [State.awaits, htask])
  | leaving =>
      exact Answered.at_once w.run .left (by simp only [State.awaits, htask])
  | sending m frame =>
      have hsend := meanwhile_send w.depth w frame
      exact ⟨_, .sent _, hsend, by simp only [State.awaits, hsend.task_eq, htask], rfl⟩
  | pausing length =>
      exact answered_pause htask _
  | finished o =>
      rw [State.outcome?, htask] at h
      cases h

/-- A rehearsal whose run is over stays as it is. -/
theorem advance_eq_self
    {w : World} {o : Replay.Outcome}
    (h : w.run.outcome? = some o) :
    w.advance = w := by
  unfold advance
  rw [Replay.task_of_outcome? h]

/-- The answers of the peer are moves of the run, and after some of them the run is over, or
that many fewer are ahead. -/
theorem repeat_advance (n : Nat) (w : World) :
    ∃ moves, (Nat.repeat advance n w).run = steps w.run moves ∧
      ((Nat.repeat advance n w).run.outcome? ≠ none ∨
        (Nat.repeat advance n w).run.ahead + n ≤ w.run.ahead) := by
  induction n with
  | zero =>
      exact ⟨[], rfl, Or.inr (Nat.le_refl _)⟩
  | succ n ih =>
      obtain ⟨moves, hmoves, hahead⟩ := ih
      rw [Nat.repeat]
      generalize Nat.repeat advance n w = w' at hmoves hahead ⊢
      cases hends : w'.run.outcome? with
      | some o =>
          rw [advance_eq_self hends]
          exact ⟨moves, hmoves, Or.inl (hends ▸ Option.some_ne_none o)⟩
      | none =>
          have hanswered := answered_advance hends
          obtain ⟨moves', hmoves'⟩ := hanswered.reached
          have hle := hahead.resolve_left fun h => h hends
          have hless := hanswered.ahead_lt
          refine ⟨moves ++ moves', ?_, Or.inr (by omega)⟩
          rw [hmoves', hmoves]
          exact List.foldl_append.symm

end World

/-- **A rehearsal is a run, and it goes on to the end of it.** -/
theorem rehearse_isRun (defaults : AutoReply.TypeSet) (batch : Batch) (peer : Peer) :
    ∃ moves o,
      (rehearse defaults batch peer).run = steps (.start defaults batch) moves ∧
        (rehearse defaults batch peer).run.outcome? = some o := by
  obtain ⟨moves, hmoves, hends⟩ := World.repeat_advance (4 * batch.length + 2)
    { run := .start defaults batch, peer := peer }
  have hover : (rehearse defaults batch peer).run.outcome? ≠ none := by
    refine hends.elim id fun hle => Replay.outcome?_ne_none_of_ahead ?_
    change _ + (4 * batch.length + 2) ≤ 4 * batch.length + 2 at hle
    exact Nat.le_zero.mp (Nat.le_of_add_le_add_right (hle.trans_eq (Nat.zero_add _).symm))
  obtain ⟨o, ho⟩ := Option.ne_none_iff_exists'.mp hover
  exact ⟨moves, o, hmoves, ho⟩

end Rehearsal
end SmppReplay
