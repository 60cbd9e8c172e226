import SmppReplay.Proofs.Replay.Account

/-!
# Pauses of a run

**Question.** Somebody can try to cut a pause short at any time, also when there is none.
What do such a call and the other moves of a run do to a pause, and to the handle by which
it is cut short?

**Method.** The marks of a move do not depend on what happened before it (`step_eq`), so
that they can be looked at on their own.  `PauseStep` lists them as far as they are about
pauses, with the task of the script and the handle before and after.  No other move makes
such a mark or touches the handle, function by function of the run.

Main facts:
* `pauseStep`: what each move does to a pause;
* `Accounted.leaves_of_pauseEnded`: behind the end of a pause the script goes on with the
  next event.
-/

namespace SmppReplay

/-- The entry for a frame that arrived is about a message. -/
theorem AutoReply.kind_arrivalEntry
    {frame : List UInt8} {e : Transcript.Entry}
    (h : arrivalEntry frame = some e) :
    e.kind = .received := by
  unfold arrivalEntry at h
  split at h
  · obtain rfl := Option.some.inj h
    rfl
  · split at h
    · obtain rfl := Option.some.inj h
      rfl
    · cases h

namespace Replay

open Transcript (Entry)
open Transport (ConnectionState Endpoint Result)

/-! ### The marks of a move -/

namespace State

/-- The state with more marks in front of its trace. -/
def behind (s : State) (l : List Mark) : State :=
  { s with trace := l ++ s.trace }

theorem mark_behind (s : State) (l : List Mark) (k : Mark) :
    (s.behind l).mark k = (s.mark k).behind l := by
  simp [mark, behind]

theorem finish_behind (s : State) (l : List Mark) (o : Outcome) :
    (s.behind l).finish o = (s.finish o).behind l := by
  cases hsession : s.session <;> simp [finish, mark, behind, hsession]

theorem abort_behind (s : State) (l : List Mark) (m : Message) (cause : String) :
    (s.behind l).abort m cause = (s.abort m cause).behind l := by
  rw [abort, abort, record, record, mark_behind, finish_behind]

theorem take_behind (s : State) (l : List Mark) (e : Event) :
    (s.behind l).take e = (s.take e).behind l := by
  cases e <;> cases hsession : s.session <;>
    simp [take, record, mark, numbered, behind, hsession]

theorem proceed_behind (s : State) (l : List Mark) :
    (s.behind l).proceed = s.proceed.behind l := by
  have hrest : (s.behind l).rest = s.rest := rfl
  rw [proceed, proceed, hrest]
  cases s.rest with
  | nil =>
      exact finish_behind s l .completed
  | cons e rest =>
      have htook :=
        mark_behind { s with rest := rest, processed := s.processed + 1 } l (.took e)
      rw [← take_behind, ← htook]
      rfl

theorem opened_behind (s : State) (l : List Mark) (peer : Endpoint) (result : Result) :
    (s.behind l).opened peer result = (s.opened peer result).behind l := by
  cases result <;> simp [opened, record, mark, behind]

theorem asked_behind (s : State) (l : List Mark) (m : Message) (state : ConnectionState) :
    (s.behind l).asked m state = (s.asked m state).behind l := by
  cases state with
  | connected =>
      cases hencode : Pdu.encode m <;> simp [asked, unsent, hencode, mark, behind]
  | disconnected | failed =>
      simp [asked, unsent, mark, behind]

theorem reported_behind (s : State) (l : List Mark) (m : Message) (cause : Option String) :
    (s.behind l).reported m cause = (s.reported m cause).behind l := by
  cases cause with
  | none =>
      simp [reported, record, mark, behind]
  | some cause =>
      exact abort_behind s l m cause

theorem woken_behind (s : State) (l : List Mark) (cut : Bool) :
    (s.behind l).woken cut = (s.woken cut).behind l := by
  cases cut <;> simp [woken, record, mark, behind]

theorem deliver_behind (s : State) (l : List Mark) (enabled : AutoReply.TypeSet)
    (frame : List UInt8) :
    (s.behind l).deliver enabled frame = (s.deliver enabled frame).behind l := by
  unfold deliver
  cases AutoReply.arrivalEntry frame <;> cases AutoReply.reply? enabled frame with
  | none => simp [record, mark, behind]
  | some m => cases hencode : Pdu.encode m <;> simp [record, mark, behind, hencode]

end State

theorem step_behind (s : State) (l : List Mark) (move : Move) :
    step (s.behind l) move = (step s move).behind l := by
  have htask : (s.behind l).task = s.task := rfl
  have henabled : (s.behind l).enabled = s.enabled := rfl
  have hreplies : (s.behind l).replies = s.replies := rfl
  cases move with
  | proceed =>
      simp only [step, htask]
      cases s.task with
      | ready => exact s.proceed_behind l
      | _ => rfl
  | opened result =>
      simp only [step, htask]
      cases s.task with
      | opening peer => exact s.opened_behind l peer result
      | _ => rfl
  | state state =>
      simp only [step, htask]
      cases s.task with
      | asking m => exact s.asked_behind l m state
      | _ => rfl
  | sent result =>
      cases htask : s.task <;> simp [step, State.behind, htask, State.sent, State.mark]
  | reported =>
      simp only [step, htask]
      cases s.task with
      | reporting m cause => exact s.reported_behind l m cause
      | _ => rfl
  | closed result =>
      cases htask : s.task <;>
        simp [step, State.behind, htask, State.closed, State.record, State.mark]
  | entered =>
      cases htask : s.task <;> simp [step, State.behind, htask, State.entered, State.mark]
  | wake cut =>
      simp only [step, htask]
      cases s.task with
      | pausing length =>
          change ite _ _ _ = State.behind (ite _ _ _) l
          rw [apply_ite (State.behind · l), ← State.woken_behind]
          rfl
      | _ => rfl
  | left =>
      cases htask : s.task <;> simp [step, State.behind, htask, State.left, State.mark]
  | deliver frame =>
      simp only [step, henabled]
      cases s.enabled with
      | some enabled => exact s.deliver_behind l enabled frame
      | none => rfl
  | replied result =>
      simp only [step, hreplies]
      cases s.replies with
      | nil => rfl
      | cons r rest =>
          cases hresult : r.result <;> simp [hresult, State.replied, State.mark, State.behind]
  | noted =>
      simp only [step, hreplies]
      cases s.replies with
      | nil => rfl
      | cons r rest =>
          cases hresult : r.result <;>
            simp [hresult, State.noted, State.record, State.mark, State.behind]
  | lose =>
      cases henabled : s.enabled <;>
        simp [step, State.behind, henabled, State.record, State.mark]
  | look =>
      exact s.mark_behind l _
  | notify =>
      simp [step, State.notify, State.mark, State.behind]

/-! ### What a move does to a pause -/

/-- The state with an empty trace. -/
def State.fresh (s : State) : State :=
  { s with trace := [] }

/-- The marks that a move makes. -/
def State.made (s : State) (move : Move) : List Mark :=
  (step s.fresh move).trace

/-- A move adds its marks, whatever happened before. -/
theorem step_eq (s : State) (move : Move) :
    step s move = (step s.fresh move).behind s.trace := by
  have hfresh : s = s.fresh.behind s.trace := by
    simp [State.fresh, State.behind]
  conv => lhs; rw [hfresh]
  exact step_behind s.fresh s.trace move

theorem trace_step (s : State) (move : Move) :
    (step s move).trace = s.trace ++ s.made move := by
  rw [step_eq]
  rfl

/-- The mark is not about pauses. -/
def Mark.isOffPause : Mark → Bool
  | .pauseStarted _ => false
  | .pauseEntered => false
  | .pauseEnded _ => false
  | .pauseLeft => false
  | .interrupted _ => false
  | .notified => false
  | .logged _ e => e.kind != .pauseInterrupted
  | _ => true

/-- The task is not a pause. -/
def Task.isOffPause : Task → Bool
  | .entering _ => false
  | .pausing _ => false
  | .leaving => false
  | _ => true

/-- What the script is doing and the handle before and after a move, and the marks of the
move. -/
inductive PauseStep : Move → Task → PauseHandle → List Mark → Task → PauseHandle → Prop
  /-- The script stays where it is. -/
  | beside {move : Move} {task : Task} {handle : PauseHandle} {ks : List Mark}
      (h : ∀ k ∈ ks, k.isOffPause = true) :
      PauseStep move task handle ks task handle
  /-- The script has other things to do than to pause. -/
  | other {move : Move} {task task' : Task} {handle : PauseHandle} {ks : List Mark}
      (h : ∀ k ∈ ks, k.isOffPause = true) (htask : task.isOffPause = true)
      (htask' : task'.isOffPause = true) :
      PauseStep move task handle ks task' handle
  | started (length : Millis) (handle : PauseHandle) :
      PauseStep .proceed .ready handle [.took (.pause length), .pauseStarted length]
        (.entering length) handle.wait
  | entered (length : Millis) (handle : PauseHandle) :
      PauseStep .entered (.entering length) handle [.pauseEntered]
        (.pausing length) handle.enter
  | ended (length : Millis) {handle : PauseHandle} {cut : Bool}
      (hcut : cut = true → handle.isWoken = true) :
      PauseStep (.wake cut) (.pausing length) handle
        (.pauseEnded cut :: cutEntries cut) .leaving
        handle.unwait
  | left (handle : PauseHandle) :
      PauseStep .left .leaving handle [.pauseLeft] .ready handle.leave
  /-- Somebody tries to cut a pause short and looks whether there is one. -/
  | looked (task : Task) (handle : PauseHandle) :
      PauseStep .look task handle [.interrupted handle.isPausing] task handle
  /-- Somebody wakes the waits. -/
  | notified (task : Task) (handle : PauseHandle) :
      PauseStep .notify task handle [.notified] task handle.notify

/-- No mark is about pauses, and the handle is the given one. -/
structure OffPause (handle : PauseHandle) (s : State) : Prop where
  marks : ∀ k ∈ s.trace, k.isOffPause = true
  handle_eq : s.handle = handle

namespace OffPause

variable {handle : PauseHandle} {s : State}

theorem mark
    {k : Mark}
    (h : OffPause handle s)
    (hk : k.isOffPause = true) :
    OffPause handle (s.mark k) :=
  ⟨List.forall_mem_append.2 ⟨h.marks, List.forall_mem_singleton.2 hk⟩, h.handle_eq⟩

/-- Only the trace and the handle matter. -/
theorem congr
    {s' : State}
    (h : OffPause handle s)
    (htrace : s'.trace = s.trace)
    (hhandle : s'.handle = s.handle) :
    OffPause handle s' :=
  ⟨htrace ▸ h.marks, hhandle.trans h.handle_eq⟩

/-- One more mark. -/
theorem snoc
    {s' : State} {k : Mark}
    (h : OffPause handle s)
    (htrace : s'.trace = s.trace ++ [k])
    (hk : k.isOffPause = true)
    (hhandle : s'.handle = s.handle) :
    OffPause handle s' :=
  (h.mark hk).congr htrace hhandle

theorem finish
    (h : OffPause handle s)
    (o : Outcome) :
    OffPause handle (s.finish o) ∧ (s.finish o).task.isOffPause = true := by
  unfold State.finish
  split
  · exact ⟨h.snoc rfl rfl rfl, rfl⟩
  · exact ⟨h.congr rfl rfl, rfl⟩

theorem abort
    (h : OffPause handle s)
    (m : Message) (cause : String) :
    OffPause handle (s.abort m cause) ∧ (s.abort m cause).task.isOffPause = true :=
  (h.mark rfl).finish _

/-- An event other than a pause leads to no pause. -/
theorem take
    {e : Event}
    (h : OffPause handle s)
    (htask : s.task.isOffPause = true)
    (he : ∀ length, e ≠ .pause length) :
    OffPause handle (s.take e) ∧ (s.take e).task.isOffPause = true := by
  cases e with
  | connect peer =>
      simp only [State.take]
      split
      · exact ⟨h.mark rfl, htask⟩
      · exact ⟨h.snoc rfl rfl rfl, rfl⟩
  | disconnect =>
      simp only [State.take]
      split
      · exact ⟨h.snoc rfl rfl rfl, rfl⟩
      · exact ⟨h.mark rfl, htask⟩
  | send m =>
      simp only [State.take]
      split
      · exact ⟨h.congr rfl rfl, rfl⟩
      · exact ⟨(h.mark rfl).mark rfl, htask⟩
  | pause length =>
      exact absurd rfl (he length)
  | setAutoReply t enabled =>
      simp only [State.take]
      split
      · exact ⟨h.congr rfl rfl, htask⟩
      · exact ⟨h.mark rfl, htask⟩

theorem opened
    (h : OffPause handle s)
    (peer : Endpoint) (result : Result) :
    OffPause handle (s.opened peer result) ∧
      (s.opened peer result).task.isOffPause = true := by
  have hreturned : OffPause handle ({ s with task := .ready }.mark
      (.openReturned peer result)) :=
    h.snoc rfl rfl rfl
  cases result with
  | ok => exact ⟨hreturned.snoc rfl rfl rfl, rfl⟩
  | failed e => exact ⟨hreturned.snoc rfl rfl rfl, rfl⟩

theorem asked
    (h : OffPause handle s)
    (m : Message) (state : ConnectionState) :
    OffPause handle (s.asked m state) ∧ (s.asked m state).task.isOffPause = true := by
  have hstate : OffPause handle (s.mark (.stateReturned state)) := h.mark rfl
  have hunsent : ∀ cause, OffPause handle ((s.mark (.stateReturned state)).unsent m cause) ∧
      ((s.mark (.stateReturned state)).unsent m cause).task.isOffPause = true :=
    fun _ => ⟨hstate.snoc rfl rfl rfl, rfl⟩
  cases state with
  | connected =>
      simp only [State.asked]
      split
      · exact ⟨hstate.snoc rfl rfl rfl, rfl⟩
      · exact hunsent _
  | disconnected | failed =>
      exact hunsent _

theorem closed
    (h : OffPause handle s)
    (task : Task) {e : Entry} (result : Result)
    (he : (Mark.logged .script e).isOffPause = true) :
    OffPause handle (s.closed task e result) := by
  have hreturned : OffPause handle
      ({ s with task := task, enabled := none }.mark (.closeReturned result)) :=
    h.snoc rfl rfl rfl
  exact hreturned.mark he

theorem reported
    (h : OffPause handle s)
    (m : Message) (cause : Option String) :
    OffPause handle (s.reported m cause) ∧ (s.reported m cause).task.isOffPause = true := by
  cases cause with
  | none => exact ⟨h.snoc rfl rfl rfl, rfl⟩
  | some cause => exact h.abort m cause

theorem deliver
    (h : OffPause handle s)
    (enabled : AutoReply.TypeSet) (frame : List UInt8) :
    OffPause handle (s.deliver enabled frame) := by
  have hdelivered : OffPause handle (s.mark (.delivered enabled frame)) := h.mark rfl
  have harrived : OffPause handle (s.arrived enabled frame) := by
    unfold State.arrived
    cases harrival : AutoReply.arrivalEntry frame with
    | none =>
        exact hdelivered
    | some e =>
        refine hdelivered.mark ?_
        have hkind := AutoReply.kind_arrivalEntry harrival
        simp [Mark.isOffPause, hkind]
  have hanswers := answers_deliver s enabled frame
  generalize s.deliver enabled frame = s' at hanswers ⊢
  cases hanswers with
  | silent => exact harrived
  | handed => exact harrived.snoc rfl rfl rfl
  | unsent => exact (harrived.mark rfl).mark rfl

theorem noted
    (h : OffPause handle s)
    (r : Reply) (rest : List Reply) (result : Result) :
    OffPause handle (s.noted r rest result) := by
  have hrest : OffPause handle { s with replies := rest } := h.congr rfl rfl
  cases result <;> exact hrest.mark rfl

end OffPause

/-- **What a move does to a pause.** -/
theorem pauseStep (s : State) (move : Move) :
    PauseStep move s.task s.handle (s.made move) (step s move).task (step s move).handle := by
  have hsame : (step s move).task = (step s.fresh move).task ∧
      (step s move).handle = (step s.fresh move).handle := by
    rw [step_eq]
    exact ⟨rfl, rfl⟩
  have hfresh : s.task = s.fresh.task ∧ s.handle = s.fresh.handle := ⟨rfl, rfl⟩
  have htrace : s.fresh.trace = [] := rfl
  rw [hsame.1, hsame.2, hfresh.1, hfresh.2, State.made]
  have hmove := happens_step s.fresh move
  generalize s.fresh = s at htrace hmove
  generalize step s move = s' at hmove
  clear hsame hfresh
  have hnone : OffPause s.handle s := ⟨by simp [htrace], rfl⟩
  -- A move of the script that is about no pause leaves the handle alone.
  have hother : s.task.isOffPause = true →
      OffPause s.handle s' ∧ s'.task.isOffPause = true →
      PauseStep move s.task s.handle s'.trace s'.task s'.handle := by
    rintro htask ⟨hoff, htask'⟩
    rw [hoff.handle_eq]
    exact .other hoff.marks htask htask'
  have hbeside : s'.task = s.task → OffPause s.handle s' →
      PauseStep move s.task s.handle s'.trace s'.task s'.handle := by
    intro htask hoff
    rw [hoff.handle_eq, htask]
    exact .beside hoff.marks
  cases hmove with
  | nothing =>
      exact hbeside rfl hnone
  | proceed hready =>
      by_cases hpause : ∃ length rest, s.rest = .pause length :: rest
      · obtain ⟨length, rest, hrest⟩ := hpause
        simp only [State.proceed, hrest, State.take, State.mark, htrace, hready,
          List.nil_append, List.cons_append]
        exact .started length s.handle
      · refine hother (by rw [hready]; rfl) ?_
        unfold State.proceed
        split
        · exact hnone.finish .completed
        · rename_i e rest hrest
          refine OffPause.take (hnone.snoc rfl rfl rfl) (by rw [State.mark, hready]; rfl) ?_
          rintro length rfl
          exact hpause ⟨length, rest, hrest⟩
  | opened result htask =>
      exact hother (by rw [htask]; rfl) (hnone.opened _ result)
  | asked state htask =>
      exact hother (by rw [htask]; rfl) (hnone.asked _ state)
  | sent result htask =>
      exact hother (by rw [htask]; rfl) ⟨hnone.snoc rfl rfl rfl, rfl⟩
  | reported htask =>
      exact hother (by rw [htask]; rfl) (hnone.reported _ _)
  | closed result htask =>
      exact hother (by rw [htask]; rfl) ⟨hnone.closed _ result rfl, rfl⟩
  | finished result htask =>
      have hkind : (Mark.logged .script (finalCloseEntry result)).isOffPause = true := by
        cases result <;> rfl
      exact hother (by rw [htask]; rfl) ⟨hnone.closed _ result hkind, rfl⟩
  | @entered length htask =>
      simp only [State.entered, State.mark, htrace, htask, List.nil_append]
      exact .entered length s.handle
  | @woken length cut htask hcut =>
      have hended : (s.woken cut).trace = .pauseEnded cut :: cutEntries cut ∧
          (s.woken cut).task = .leaving ∧ (s.woken cut).handle = s.handle.unwait := by
        cases cut <;> simp [State.woken, State.record, State.mark, htrace, cutEntries]
      rw [hended.1, hended.2.1, hended.2.2, htask]
      exact .ended length hcut
  | left htask =>
      simp only [State.left, State.mark, htrace, htask, List.nil_append]
      exact .left s.handle
  | delivered frame henabled =>
      exact hbeside (task_deliver ..) (hnone.deliver _ frame)
  | replied result hreplies =>
      exact hbeside rfl (hnone.snoc rfl rfl rfl)
  | noted hreplies hresult =>
      exact hbeside rfl (hnone.noted _ _ _)
  | lost henabled =>
      exact hbeside rfl ((hnone.mark rfl).mark rfl)
  | looked =>
      simp only [State.look, State.mark, htrace, List.nil_append]
      exact .looked s.task s.handle
  | notified =>
      simp only [State.notify, State.mark, htrace, List.nil_append]
      exact .notified s.task s.handle

/-! ### Where the script goes on -/

/-- A pause ends. -/
def Mark.isPauseEnd : Mark → Bool
  | .pauseEnded _ => true
  | _ => false

/-- The script's marks behind the end of a pause: its entry, if it was cut short, and then
the pause is not counted any more and the next event is taken up. -/
inductive LeavesPause (cut : Bool) : List Mark → Prop
  | leaving : LeavesPause cut (cutEntries cut)
  | left {next : List Mark} (h : Resumes next) :
      LeavesPause cut (cutEntries cut ++ .pauseLeft :: next)

theorem isPauseEnd_of_mem_cutEntries
    {cut : Bool} {k : Mark}
    (h : k ∈ cutEntries cut) :
    k.isPauseEnd = false := by
  cases cut with
  | false =>
      cases h
  | true =>
      rw [List.mem_singleton.1 h]
      rfl

/-- The marks of a pause in front of its end. -/
def pauseFront (length : Millis) : List Mark :=
  [.took (.pause length), .pauseStarted length, .pauseEntered]

/-- The end of a pause is at one place in its turn. -/
theorem eq_of_pauseEnded
    {length : Millis} {cut cut' : Bool} {l r r' : List Mark}
    (h : pauseFront length ++ .pauseEnded cut' :: r' = l ++ .pauseEnded cut :: r)
    (hr' : ∀ k ∈ r', k.isPauseEnd = false) :
    cut = cut' ∧ r = r' := by
  obtain ⟨-, hcut, rfl⟩ := eq_of_only (p := Mark.isPauseEnd) h rfl
    (by simp [pauseFront, Mark.isPauseEnd]) hr'
  cases hcut
  exact ⟨rfl, rfl⟩

theorem Turn.eq_of_pauseEnded
    {st st' : Standing} {e : Event} {ms l r : List Mark} {cut : Bool}
    (h : Turn st e ms st')
    (hms : .took e :: ms = l ++ .pauseEnded cut :: r) :
    r = cutEntries cut ++ [.pauseLeft] := by
  have hmem : .pauseEnded cut ∈ .took e :: ms :=
    hms ▸ List.mem_append_right l List.mem_cons_self
  cases h with
  | waited length =>
      have hsplit : pauseFront length ++ .pauseEnded false :: [.pauseLeft] =
          l ++ .pauseEnded cut :: r := hms
      obtain ⟨rfl, rfl⟩ := Replay.eq_of_pauseEnded hsplit (by decide)
      rfl
  | cut length =>
      have hsplit : pauseFront length ++
          .pauseEnded true :: [.logged .script pauseCutEntry, .pauseLeft] =
            l ++ .pauseEnded cut :: r := hms
      obtain ⟨rfl, rfl⟩ := Replay.eq_of_pauseEnded hsplit (by decide)
      rfl
  | connected | unreachable | refused | disconnected | notConnected | sent | passedOver
  | switched | ignored =>
      simp at hmem

/-- Behind the end of a pause stands its entry, if it was cut short, and then the next
event. -/
theorem Turns.leaves_of_pauseEnded
    {st st' : Standing} {events : Batch} {marks l r ms : List Mark} {cut : Bool}
    (h : Turns st events marks st')
    (hmarks : marks = l ++ .pauseEnded cut :: r)
    (hms : Resumes ms) :
    LeavesPause cut (r ++ ms) := by
  induction h generalizing l with
  | nil st =>
      simp at hmarks
  | @cons st st₁ st' e turn marks events hturn hrest ih =>
      rw [← List.cons_append] at hmarks
      rcases split_cases hmarks with ⟨front, -, hlater⟩ | ⟨back, hhere, rfl⟩
      · exact ih hlater
      · obtain rfl := hturn.eq_of_pauseEnded hhere
        rw [List.append_assoc, List.append_assoc]
        exact .left (hrest.resumes hms)

/-- A pause that ends is behind the turn of its event, or is about to be left. -/
theorem Stage.leaves_of_pauseEnded
    {st st' : Standing} {rest current : Batch} {ms l r : List Mark} {task : Task} {cut : Bool}
    (h : Stage st rest current ms task st')
    (hms : ms = l ++ .pauseEnded cut :: r) :
    LeavesPause cut r := by
  have hends : ∀ {ms o st'}, Ends st rest current ms o st' → .pauseEnded cut ∉ ms := by
    intro ms o st' hends
    cases hends with
    | completed => simp
    | aborted _ hfails => cases hfails <;> simp
  have hmem : .pauseEnded cut ∈ ms :=
    hms ▸ List.mem_append_right l List.mem_cons_self
  cases h with
  | leaving length cut' =>
      have hsplit : pauseFront length ++ .pauseEnded cut' :: cutEntries cut' =
          l ++ .pauseEnded cut :: r := hms
      obtain ⟨rfl, rfl⟩ := Replay.eq_of_pauseEnded hsplit fun _ =>
        isPauseEnd_of_mem_cutEntries
      exact .leaving
  | ready | opening | asking | sending | sent | closing | entering | pausing =>
      simp at hmem
  | failed _ hfails =>
      cases hfails <;> simp at hmem
  | finishing h | closed _ h | finished h =>
      simp [hends h] at hmem

/-- **After a pause the script goes on with the next event.** -/
theorem Accounted.leaves_of_pauseEnded
    {batch : Batch} {s : State} {front back : List Mark} {cut : Bool}
    (h : Accounted batch s)
    (htrace : s.trace = front ++ .pauseEnded cut :: back) :
    LeavesPause cut (scriptPart back) := by
  obtain ⟨done, marks, st, current, ms, hturns, hstage, hscript, -, -⟩ := h
  have hsplit : marks ++ ms = scriptPart front ++ .pauseEnded cut :: scriptPart back := by
    rw [← hscript, htrace, scriptPart_append]
    rfl
  rcases split_cases hsplit with ⟨l, -, hms⟩ | ⟨r, hmarks, hback⟩
  · exact hstage.leaves_of_pauseEnded hms
  · rw [hback]
    exact hturns.leaves_of_pauseEnded hmarks hstage.resumes

end Replay
end SmppReplay
