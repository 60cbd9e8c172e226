import SmppReplay.Proofs.Replay.Runs

/-!
# Runs come to their end

**Question.** The script waits: for connections to be opened, asked and closed, for messages
to be sent, for pauses.  If what it waits for is answered, does the run come to its end?

It does, whatever the answers are, and whatever the inbound side does in between.  The
script always waits for something until the run is over (`exists_awaits`), and each answer
takes it nearer to its end: an event takes at most four answers, and the end of the run two
more.

**Method.**  `State.ahead` bounds the answers that are still to come.  An answer makes it less
(`ahead_step_of_awaits`), and no other move makes it more (`ahead_happens`).

Main fact:
* `answered_lt_of_going`: a run that is not over has had fewer answers than were ahead at
  its start.
-/

namespace SmppReplay
namespace Replay

open Transport (ConnectionState Endpoint Result)

/-- The move is an answer to what the script waits for. -/
def State.awaits (s : State) (move : Move) : Bool :=
  match s.task, move with
  | .ready, .proceed => true
  | .opening _, .opened _ => true
  | .asking _, .state _ => true
  | .sending _ _, .sent _ => true
  | .reporting _ _, .reported => true
  | .closing, .closed _ => true
  | .finishing _, .closed _ => true
  | .entering _, .entered => true
  | .pausing _, .wake cut => !cut || s.handle.isWoken
  | .leaving, .left => true
  | _, _ => false

/-- The number of moves that answer what the script waits for when they come. -/
def answered (s : State) : List Move → Nat
  | [] => 0
  | m :: ms => (if s.awaits m then 1 else 0) + answered (step s m) ms

theorem answered_snoc (s : State) (moves : List Move) (move : Move) :
    answered s (moves ++ [move]) =
      answered s moves + if (steps s moves).awaits move then 1 else 0 := by
  induction moves generalizing s with
  | nil =>
      exact Nat.add_comm _ _
  | cons m moves ih =>
      rw [List.cons_append, answered, answered, ih, Nat.add_assoc]
      rfl

/-- A bound on the answers that are still to come, but for the events that are not taken up. -/
def Task.ahead : Task → Nat
  | .ready => 2
  | .opening _ => 3
  | .asking _ => 5
  | .sending _ _ => 4
  | .reporting _ _ => 3
  | .closing => 3
  | .entering _ => 5
  | .pausing _ => 4
  | .leaving => 3
  | .finishing _ => 1
  | .finished _ => 0

/-- A bound on the answers that are still to come. -/
def State.ahead (s : State) : Nat :=
  4 * s.rest.length + s.task.ahead

/-! ### What an answer does -/

namespace State

variable {s : State}

theorem ahead_finish (s : State) (o : Outcome) :
    (s.finish o).ahead ≤ 4 * s.rest.length + 1 := by
  unfold finish
  split
  · exact Nat.le_refl _
  · exact Nat.le_succ _

theorem ahead_take
    (hready : s.task = .ready)
    (e : Event) :
    (s.take e).ahead ≤ 4 * s.rest.length + 5 := by
  have hstays : s.ahead ≤ 4 * s.rest.length + 5 := by
    rw [ahead, hready]
    exact Nat.add_le_add_left (by decide) _
  cases e with
  | connect peer =>
      simp only [take]
      split
      · exact hstays
      · exact Nat.add_le_add_left (by decide : 3 ≤ 5) _
  | disconnect =>
      simp only [take]
      split
      · exact Nat.add_le_add_left (by decide : 3 ≤ 5) _
      · exact hstays
  | send m =>
      simp only [take]
      split
      · exact Nat.le_refl _
      · exact hstays
  | pause length =>
      exact Nat.le_refl _
  | setAutoReply t enabled =>
      simp only [take]
      split <;> exact hstays

theorem ahead_proceed
    (hready : s.task = .ready) :
    s.proceed.ahead < s.ahead := by
  have hahead : s.ahead = 4 * s.rest.length + 2 := by
    rw [ahead, hready]
    rfl
  rw [hahead]
  unfold proceed
  split
  · rename_i hrest
    have hfinish := ahead_finish s .completed
    omega
  · rename_i e rest hrest
    have htake :=
        ahead_take (s := { s with rest := rest, processed := s.processed + 1 }.mark (.took e))
      hready e
    have hlength : s.rest.length = rest.length + 1 := by rw [hrest]; rfl
    change _ ≤ 4 * rest.length + 5 at htake
    omega

theorem ahead_opened
    {peer : Endpoint}
    (htask : s.task = .opening peer)
    (result : Result) :
    (s.opened peer result).ahead < s.ahead := by
  rw [State.ahead.eq_1 s, htask]
  cases result <;> exact Nat.lt_succ_self _

theorem ahead_asked
    {m : Message}
    (htask : s.task = .asking m)
    (state : ConnectionState) :
    (s.asked m state).ahead < s.ahead := by
  have hunsent : 4 * s.rest.length + 3 < 4 * s.rest.length + 5 := by omega
  rw [State.ahead.eq_1 s, htask]
  unfold asked
  cases state with
  | connected =>
      cases Pdu.encode m with
      | error e => exact hunsent
      | ok frame => exact Nat.lt_succ_self _
  | disconnected | failed =>
      exact hunsent

theorem ahead_reported
    {m : Message} {cause : Option String}
    (htask : s.task = .reporting m cause) :
    (s.reported m cause).ahead < s.ahead := by
  rw [State.ahead.eq_1 s, htask]
  cases cause with
  | none =>
      exact Nat.lt_succ_self _
  | some cause =>
      have hfinish := ahead_finish (s.record .script (.sendFailed m cause))
        (.aborted (Transcript.Entry.failureText m cause))
      change (s.abort m cause).ahead ≤ 4 * s.rest.length + 1 at hfinish
      exact Nat.lt_of_le_of_lt hfinish (Nat.add_lt_add_left (by decide : 1 < 3) _)

theorem ahead_woken
    {length : Millis}
    (htask : s.task = .pausing length)
    (cut : Bool) :
    (s.woken cut).ahead < s.ahead := by
  rw [State.ahead.eq_1 s, htask]
  cases cut <;> exact Nat.lt_succ_self _

theorem ahead_sent
    {m : Message} {frame : List UInt8}
    (htask : s.task = .sending m frame)
    (result : Result) :
    (s.sent m frame result).ahead < s.ahead := by
  rw [State.ahead.eq_1 s, htask]
  exact Nat.lt_succ_self _

theorem ahead_closed
    (htask : s.task = .closing)
    (result : Result) :
    (s.closed .ready disconnectedEntry result).ahead < s.ahead := by
  rw [State.ahead.eq_1 s, htask]
  exact Nat.lt_succ_self _

theorem ahead_finished
    {o : Outcome}
    (htask : s.task = .finishing o)
    (result : Result) :
    (s.closed (.finished o) (finalCloseEntry result) result).ahead < s.ahead := by
  rw [State.ahead.eq_1 s, htask]
  exact Nat.lt_succ_self _

theorem ahead_entered
    {length : Millis}
    (htask : s.task = .entering length) :
    (s.entered length).ahead < s.ahead := by
  rw [State.ahead.eq_1 s, htask]
  exact Nat.lt_succ_self _

theorem ahead_left
    (htask : s.task = .leaving) :
    s.left.ahead < s.ahead := by
  rw [State.ahead.eq_1 s, htask]
  exact Nat.lt_succ_self _

end State

/-- No move takes the script further from its end. -/
theorem ahead_happens
    {s s' : State} {move : Move}
    (h : Happens s move s') :
    s'.ahead ≤ s.ahead := by
  cases h with
  | nothing | replied | noted | lost | looked | notified =>
      exact Nat.le_refl _
  | delivered frame henabled =>
      rw [State.ahead, State.ahead, task_deliver, rest_deliver]
  | proceed htask =>
      exact (State.ahead_proceed htask).le
  | opened result htask =>
      exact (State.ahead_opened htask result).le
  | asked state htask =>
      exact (State.ahead_asked htask state).le
  | sent result htask =>
      exact (State.ahead_sent htask result).le
  | reported htask =>
      exact (State.ahead_reported htask).le
  | closed result htask =>
      exact (State.ahead_closed htask result).le
  | finished result htask =>
      exact (State.ahead_finished htask result).le
  | entered htask =>
      exact (State.ahead_entered htask).le
  | woken htask =>
      exact (State.ahead_woken htask _).le
  | left htask =>
      exact (State.ahead_left htask).le

/-- An answer takes the script nearer to its end. -/
theorem ahead_step_of_awaits
    {s : State} {move : Move}
    (h : s.awaits move = true) :
    (step s move).ahead < s.ahead := by
  unfold State.awaits at h
  split at h <;> rename_i htask
  case h_1 =>
    simpa only [step, htask] using State.ahead_proceed htask
  case h_2 =>
    simpa only [step, htask] using State.ahead_opened htask _
  case h_3 =>
    simpa only [step, htask] using State.ahead_asked htask _
  case h_4 =>
    simpa only [step, htask] using State.ahead_sent htask _
  case h_5 =>
    simpa only [step, htask] using State.ahead_reported htask
  case h_6 =>
    simpa only [step, htask] using State.ahead_closed htask _
  case h_7 =>
    simpa only [step, htask] using State.ahead_finished htask _
  case h_8 =>
    simpa only [step, htask] using State.ahead_entered htask
  case h_9 length cut =>
    have hcut : (cut && !s.handle.isWoken) = false := by
      cases cut <;> simp_all
    simpa only [step, htask, hcut, Bool.false_eq_true, if_false]
      using State.ahead_woken htask cut
  case h_10 =>
    simpa only [step, htask] using State.ahead_left htask
  case h_11 =>
    cases h

/-- Each answer uses up one of those that are still to come. -/
theorem answered_add_ahead_le (s : State) (moves : List Move) :
    answered s moves + (steps s moves).ahead ≤ s.ahead := by
  induction moves generalizing s with
  | nil =>
      exact (Nat.zero_add _).le
  | cons move moves ih =>
      have hrest := ih (step s move)
      change _ + answered (step s move) moves + (steps (step s move) moves).ahead ≤ _
      split
      · have hless := ahead_step_of_awaits ‹_›
        omega
      · have hle := ahead_happens (happens_step s move)
        omega

/-! ### The end of a run -/

/-- A run is over where nothing is ahead. -/
theorem outcome?_ne_none_of_ahead
    {s : State}
    (h : s.ahead = 0) :
    s.outcome? ≠ none := by
  have htask : s.task.ahead = 0 := Nat.eq_zero_of_add_eq_zero_left h
  unfold State.outcome?
  cases hs : s.task with
  | finished o =>
      exact Option.some_ne_none o
  | _ =>
      rw [hs] at htask
      cases htask

/-- A run that is over stays as it ended. -/
theorem outcome?_happens
    {s s' : State} {move : Move} {o : Outcome}
    (h : Happens s move s')
    (ho : s.outcome? = some o) :
    s'.outcome? = some o := by
  cases h with
  | nothing | replied | noted | lost | looked | notified =>
      exact ho
  | delivered frame henabled =>
      rw [State.outcome?, task_deliver]
      exact ho
  | proceed htask | opened _ htask | asked _ htask | sent _ htask | reported htask
  | closed _ htask | finished _ htask | entered htask | woken htask | left htask =>
      rw [State.outcome?, htask] at ho
      cases ho

/-- A run that is not over had fewer answers than were to come. -/
theorem answered_lt_of_going
    {s : State} {moves : List Move}
    (h : (steps s moves).outcome? = none) :
    answered s moves < s.ahead := by
  have hle := answered_add_ahead_le s moves
  have hahead : (steps s moves).ahead ≠ 0 := fun hzero => outcome?_ne_none_of_ahead hzero h
  omega

/-- A script that is not at its end waits for something, and whoever answers it can choose
what the answer is. -/
theorem exists_awaits
    {s : State}
    (h : s.outcome? = none) :
    ∃ move, s.awaits move = true := by
  unfold State.awaits
  cases htask : s.task with
  | ready => exact ⟨.proceed, rfl⟩
  | opening peer => exact ⟨.opened .ok, rfl⟩
  | asking m => exact ⟨.state .connected, rfl⟩
  | sending m frame => exact ⟨.sent .ok, rfl⟩
  | reporting m cause => exact ⟨.reported, rfl⟩
  | closing | finishing o => exact ⟨.closed .ok, rfl⟩
  | entering length => exact ⟨.entered, rfl⟩
  | pausing length => exact ⟨.wake false, rfl⟩
  | leaving => exact ⟨.left, rfl⟩
  | finished o =>
      rw [State.outcome?, htask] at h
      cases h

end Replay
end SmppReplay
