import SmppReplay.Proofs.Replay.Pauses
import SmppReplay.Proofs.Replay.Sequence

/-!
# Interruptions on a clock

**Input.** A run, and a clock that goes on between its moves, however far: nobody stops it.
A pause is due when its length has passed since it was counted; from then on it can end by
itself, and from when its wait was woken it can end cut short (`Clocked.mayMove`).  If both
are so, either can happen.  Somebody who tries to cut a pause short looks at one moment and
notifies at a later one, and both fall anywhere: before, between and into pauses, and while
frames arrive and replies are sent.

**Question.**  Is a call ever lost, does it count twice, or does it reach a later pause?

**Method.** A log tells how far the pause in progress is and when its wait was first woken
(`phaseAt`).  Each tick adds one `Piece` to the log, because the script's task, its clock
and the handle agree with the log (`Clocked.Agrees`); in particular counter and waits of the
handle stay in step.

**Result.**
* `interruptionLaws`: what becomes of every pause and of every call.  That a call in time
  ends its pause is so for scripts that go on in time (`Clocked.isTimely`); a script that is
  kept waiting until its pause is due may find that its time is over.
-/

namespace SmppReplay
namespace Replay

open AutoReply (TypeSet)
open Transcript (Entry)

/-! ### Runs on a clock -/

/-- What can happen next on a clock. -/
inductive Tick where
  /-- Some milliseconds pass. -/
  | pass (n : Nat)
  | move (m : Move)
  deriving DecidableEq

/-- A moment of a run, and a clock. -/
structure Clocked where
  run : State
  /-- Milliseconds since the start. -/
  now : Nat := 0
  /-- When the time of the pause in progress is over. -/
  due : Nat := 0
  /-- The trace of the run, with the time of each mark. -/
  log : List (Nat × Mark) := []
  deriving DecidableEq

namespace Clocked

/-- The start of a run. -/
def start (defaults : TypeSet) (batch : Batch) : Clocked where
  run := .start defaults batch

/-- The run makes a move; the time of a pause begins when it is counted. -/
def move (c : Clocked) (m : Move) : Clocked where
  run := step c.run m
  now := c.now
  due :=
    match c.run.task, m with
    | .entering length, .entered => c.now + length.val.toNat
    | _, _ => c.due
  log := c.log ++ (c.run.made m).map fun k => (c.now, k)

/-- Time passes. -/
def pass (c : Clocked) (n : Nat) : Clocked :=
  { c with now := c.now + n }

/-- A pause does not end by itself before it is due. -/
def mayMove (c : Clocked) : Move → Bool
  | .wake false =>
      match c.run.task with
      | .pausing _ => c.due ≤ c.now
      | _ => true
  | _ => true

/-- The next moment; what cannot happen leaves the moment as it is. -/
def tick (c : Clocked) : Tick → Clocked
  | .pass n => c.pass n
  | .move m => if c.mayMove m then c.move m else c

/-- The moment after some ticks. -/
def ticks (c : Clocked) (ts : List Tick) : Clocked :=
  ts.foldl tick c

theorem ticks_append (c : Clocked) (ts ts' : List Tick) :
    c.ticks (ts ++ ts') = (c.ticks ts).ticks ts' :=
  List.foldl_append

theorem ticks_cons (c : Clocked) (t : Tick) (ts : List Tick) :
    c.ticks (t :: ts) = (c.tick t).ticks ts :=
  rfl

theorem ticks_snoc (c : Clocked) (ts : List Tick) (t : Tick) :
    c.ticks (ts ++ [t]) = (c.ticks ts).tick t :=
  ticks_append c ts [t]

/-- The wait of the pause in progress was woken, and the pause is not due. -/
def isCutInTime (c : Clocked) : Bool :=
  match c.run.task with
  | .pausing _ => c.run.handle.isWoken && decide (c.now < c.due)
  | _ => false

/-- Where a pause was cut short before it is due, time does not pass beyond that. -/
def goesOnInTime (c : Clocked) : Tick → Bool
  | .pass n => !c.isCutInTime || decide (c.now + n < c.due)
  | .move _ => true

/-- The script goes on in time at each of some ticks. -/
def isTimely (c : Clocked) : List Tick → Bool
  | [] => true
  | t :: ts => c.goesOnInTime t && (c.tick t).isTimely ts

theorem isTimely_snoc (c : Clocked) (ts : List Tick) (t : Tick) :
    c.isTimely (ts ++ [t]) = (c.isTimely ts && (c.ticks ts).goesOnInTime t) := by
  induction ts generalizing c with
  | nil =>
      exact Bool.and_true _
  | cons t' ts ih =>
      rw [List.cons_append, isTimely, ih, ← Bool.and_assoc]
      rfl

end Clocked

/-! ### Pauses in a log -/

/-- How far a pause is, as a log tells it. -/
inductive Phase where
  /-- There is no pause. -/
  | idle
  /-- The pause waits and is not counted yet; `woken` is when its wait was first woken. -/
  | begun (length : Millis) (woken : Option Nat)
  /-- It is in progress since `start`. -/
  | counted (start : Nat) (length : Millis) (woken : Option Nat)
  /-- It has ended and is still counted. -/
  | leaving
  deriving DecidableEq

namespace Phase

/-- The phase after one more mark. -/
def after : Phase → Nat × Mark → Phase
  | .idle, (_, .pauseStarted length) => .begun length none
  | .begun length woken, (t, .pauseEntered) => .counted t length woken
  | .begun length woken, (t, .notified) => .begun length (woken.or (some t))
  | .counted start length woken, (t, .notified) => .counted start length (woken.or (some t))
  | .counted _ _ _, (_, .pauseEnded _) => .leaving
  | .leaving, (_, .pauseLeft) => .idle
  | p, _ => p

/-- The pause is counted. -/
def isCounted : Phase → Bool
  | .counted _ _ _ | .leaving => true
  | _ => false

/-- The length of a pause that waits, and when its wait was first woken. -/
def wait? : Phase → Option (Millis × Option Nat)
  | .begun length woken => some (length, woken)
  | .counted _ length woken => some (length, woken)
  | _ => none

/-- The handle in a phase: its counter, and the wait that was begun and is not over. -/
def handle : Phase → PauseHandle
  | .idle => {}
  | .begun _ woken => ⟨0, [woken.isSome]⟩
  | .counted _ _ woken => ⟨1, [woken.isSome]⟩
  | .leaving => ⟨1, []⟩

/-- The script's task is one of the phase. -/
def Tells : Phase → Task → Prop
  | .idle, task => task.isOffPause = true
  | .begun length _, task => task = .entering length
  | .counted _ length _, task => task = .pausing length
  | .leaving, task => task = .leaving

theorem isPausing_handle (p : Phase) :
    p.handle.isPausing = p.isCounted := by
  cases p <;> rfl

theorem handle_notified (p : Phase) (t : Nat) :
    (p.after (t, .notified)).handle = p.handle.notify := by
  cases p with
  | begun length woken | counted start length woken => cases woken <;> rfl
  | idle | leaving => rfl

theorem tells_notified (p : Phase) (t : Nat) (task : Task) :
    (p.after (t, .notified)).Tells task ↔ p.Tells task := by
  cases p <;> exact Iff.rfl

end Phase

/-- How far a pause is behind some marks. -/
def phaseAt (log : List (Nat × Mark)) : Phase :=
  log.foldl Phase.after .idle

/-- The marks that one tick adds to a log, and the phase before and after. -/
inductive Piece : Phase → List (Nat × Mark) → Phase → Prop
  | beside {p : Phase} {ks : List (Nat × Mark)} (h : ∀ k ∈ ks, k.2.isOffPause = true) :
      Piece p ks p
  | started (t : Nat) (length : Millis) :
      Piece .idle [(t, .took (.pause length)), (t, .pauseStarted length)] (.begun length none)
  | entered (t : Nat) (length : Millis) (woken : Option Nat) :
      Piece (.begun length woken) [(t, .pauseEntered)] (.counted t length woken)
  | ended {start t : Nat} {length : Millis} {woken : Option Nat} {cut : Bool}
      (hcut : cut = true → woken ≠ none) (hdue : cut = false → start + length.val.toNat ≤ t) :
      Piece (.counted start length woken)
        ((t, .pauseEnded cut) :: (cutEntries cut).map fun k => (t, k)) .leaving
  | left (t : Nat) :
      Piece .leaving [(t, .pauseLeft)] .idle
  | looked (t : Nat) (p : Phase) :
      Piece p [(t, .interrupted p.isCounted)] p
  | notified (t : Nat) (p : Phase) :
      Piece p [(t, .notified)] (p.after (t, .notified))

/-- Pieces one after the other. -/
inductive Pieces : List (Nat × Mark) → Phase → Prop
  | nil : Pieces [] .idle
  | snoc {p p' : Phase} {l ks : List (Nat × Mark)} (h : Pieces l p) (hks : Piece p ks p') :
      Pieces (l ++ ks) p'

/-- A mark that is not about pauses leaves the phase. -/
theorem Phase.after_of_isOffPause
    (p : Phase) {k : Nat × Mark}
    (h : k.2.isOffPause = true) :
    p.after k = p := by
  obtain ⟨t, k⟩ := k
  cases k with
  | pauseStarted | pauseEntered | pauseEnded | pauseLeft | interrupted | notified => cases h
  | _ => cases p <;> rfl

theorem Phase.foldl_of_isOffPause
    {ks : List (Nat × Mark)}
    (h : ∀ k ∈ ks, k.2.isOffPause = true)
    (p : Phase) :
    ks.foldl Phase.after p = p := by
  induction ks with
  | nil =>
      rfl
  | cons k ks ih =>
      obtain ⟨hk, hks⟩ := List.forall_mem_cons.1 h
      rw [List.foldl_cons, p.after_of_isOffPause hk]
      exact ih hks

theorem Piece.foldl_eq
    {p p' : Phase} {ks : List (Nat × Mark)}
    (h : Piece p ks p') :
    ks.foldl Phase.after p = p' := by
  cases h with
  | beside hks => exact Phase.foldl_of_isOffPause hks p
  | @ended _ _ _ _ cut => cases cut <;> rfl
  | looked => cases p <;> rfl
  | started | entered | left | notified => rfl

/-- Pieces tell the phase. -/
theorem Pieces.phaseAt_eq
    {l : List (Nat × Mark)} {p : Phase}
    (h : Pieces l p) :
    phaseAt l = p := by
  induction h with
  | nil =>
      rfl
  | snoc h hks ih =>
      rw [phaseAt, List.foldl_append, ← phaseAt, ih]
      exact hks.foldl_eq

/-- **Each mark lies in one piece.** -/
theorem Pieces.exists_piece
    {l front back : List (Nat × Mark)} {p : Phase} {k : Nat × Mark}
    (h : Pieces l p)
    (hl : l = front ++ k :: back) :
    ∃ before p₁ a b p₂ after, front = before ++ a ∧ back = b ++ after ∧ phaseAt before = p₁ ∧
      Piece p₁ (a ++ k :: b) p₂ := by
  induction h generalizing back with
  | nil =>
      simp at hl
  | @snoc p p' l ks h hks ih =>
      rcases split_cases hl with ⟨a, rfl, rfl⟩ | ⟨back', hearlier, rfl⟩
      · exact ⟨l, p, a, back, p', [], rfl, (List.append_nil _).symm, h.phaseAt_eq, hks⟩
      · obtain ⟨before, p₁, a, b, p₂, after, rfl, rfl, hbefore, hpiece⟩ := ih hearlier
        exact ⟨before, p₁, a, b, p₂, after ++ ks, rfl, List.append_assoc _ _ _,
          hbefore, hpiece⟩

theorem phaseAt_append (l ks : List (Nat × Mark)) :
    phaseAt (l ++ ks) = ks.foldl Phase.after (phaseAt l) :=
  List.foldl_append

/-- When somebody first woke the waits. -/
def notifiedAt? (ks : List (Nat × Mark)) : Option Nat :=
  ks.findSome? fun k => match k with
    | (t, .notified) => some t
    | _ => none

theorem notifiedAt?_append (ks ks' : List (Nat × Mark)) :
    notifiedAt? (ks ++ ks') = (notifiedAt? ks).or (notifiedAt? ks') :=
  List.findSome?_append

theorem mem_of_notifiedAt?
    {ks : List (Nat × Mark)} {t : Nat}
    (h : notifiedAt? ks = some t) :
    (t, .notified) ∈ ks := by
  obtain ⟨⟨t', k⟩, hmem, hk⟩ := List.exists_of_findSome?_eq_some h
  cases k with
  | notified =>
      cases hk
      exact hmem
  | _ =>
      cases hk

/-- As long as a pause does not end it stays counted. -/
theorem Phase.after_counted
    {k : Nat × Mark}
    (h : k.2.isPauseEnd = false)
    (start : Nat) (length : Millis) (woken : Option Nat) :
    (counted start length woken).after k =
      counted start length (woken.or (notifiedAt? [k])) := by
  obtain ⟨t, k⟩ := k
  cases k with
  | pauseEnded => cases h
  | _ => simp [after, notifiedAt?]

theorem Phase.foldl_counted
    {ks : List (Nat × Mark)}
    (h : ∀ k ∈ ks, k.2.isPauseEnd = false)
    (start : Nat) (length : Millis) (woken : Option Nat) :
    ks.foldl after (counted start length woken) =
      counted start length (woken.or (notifiedAt? ks)) := by
  induction ks generalizing woken with
  | nil =>
      rw [notifiedAt?, List.findSome?_nil, Option.or_none]
      rfl
  | cons k ks ih =>
      obtain ⟨hk, hks⟩ := List.forall_mem_cons.1 h
      rw [List.foldl_cons, after_counted hk, ih hks, Option.or_assoc, ← notifiedAt?_append]
      rfl

/-- A pause that waits has just begun, or waited before. -/
theorem Phase.wait?_after
    {p : Phase} {k : Nat × Mark} {length : Millis} {woken : Option Nat}
    (h : (p.after k).wait? = some (length, woken)) :
    (p = .idle ∧ (∃ t, k = (t, .pauseStarted length)) ∧ woken = none) ∨
      ∃ woken', p.wait? = some (length, woken') ∧ woken = woken'.or (notifiedAt? [k]) := by
  obtain ⟨t, k⟩ := k
  cases p with
  | idle =>
      cases k with
      | pauseStarted length' =>
          cases h
          exact .inl ⟨rfl, ⟨t, rfl⟩, rfl⟩
      | _ =>
          cases h
  | begun length' woken' =>
      have hwait : ((Phase.begun length' woken').after (t, k)).wait? =
          some (length', woken'.or (notifiedAt? [(t, k)])) := by
        cases k <;> simp [after, wait?, notifiedAt?]
      cases hwait.symm.trans h
      exact .inr ⟨woken', rfl, rfl⟩
  | counted start length' woken' =>
      cases hend : k.isPauseEnd with
      | true =>
          cases k with
          | pauseEnded => cases h
          | _ => cases hend
      | false =>
          rw [after_counted hend] at h
          cases h
          exact .inr ⟨woken', rfl, rfl⟩
  | leaving =>
      cases k <;> cases h

/-- **What a phase tells of a log**: the pause that waits is the last one that began, and
its wait was woken when somebody first notified since then. -/
theorem exists_start_of_phaseAt
    {l : List (Nat × Mark)} {length : Millis} {woken : Option Nat}
    (h : (phaseAt l).wait? = some (length, woken)) :
    ∃ front t back, l = front ++ (t, .pauseStarted length) :: back ∧ phaseAt front = .idle ∧
      woken = notifiedAt? back := by
  induction l using List.reverseRecOn generalizing woken with
  | nil =>
      cases h
  | append_singleton l k ih =>
      rw [phaseAt_append] at h
      rcases Phase.wait?_after h with ⟨hidle, ⟨t, rfl⟩, rfl⟩ | ⟨woken', hwait, rfl⟩
      · exact ⟨l, t, [], rfl, hidle, rfl⟩
      · obtain ⟨front, t, back, rfl, hidle, rfl⟩ := ih hwait
        refine ⟨front, t, back ++ [k], ?_, hidle, ?_⟩
        · rw [List.append_assoc, List.cons_append]
        · rw [notifiedAt?_append]

/-- A pause that is counted was counted when its time began. -/
theorem start_mem_of_phaseAt
    {l : List (Nat × Mark)} {start : Nat} {length : Millis} {woken : Option Nat}
    (h : phaseAt l = .counted start length woken) :
    (start, .pauseEntered) ∈ l := by
  induction l using List.reverseRecOn generalizing woken with
  | nil =>
      cases h
  | append_singleton l k ih =>
      rw [phaseAt_append, List.foldl_cons, List.foldl_nil] at h
      obtain ⟨t, k⟩ := k
      cases hp : phaseAt l with
      | idle | leaving =>
          rw [hp] at h
          cases k <;> cases h
      | begun length' woken' =>
          rw [hp] at h
          cases k with
          | pauseEntered =>
              cases h
              exact List.mem_append_right l List.mem_cons_self
          | _ =>
              cases h
      | counted start' length' woken' =>
          rw [hp] at h
          cases hend : k.isPauseEnd with
          | true =>
              cases k with
              | pauseEnded => cases h
              | _ => cases hend
          | false =>
              rw [Phase.after_counted hend] at h
              cases h
              exact List.mem_append_left _ (ih hp)

/-- Where a mark that is about pauses stands in its piece. -/
inductive Stands (t : Nat) : Phase → List (Nat × Mark) → Mark → List (Nat × Mark) → Prop
  | started (length : Millis) :
      Stands t .idle [(t, .took (.pause length))] (.pauseStarted length) []
  | entered (length : Millis) (woken : Option Nat) :
      Stands t (.begun length woken) [] .pauseEntered []
  | ended {start : Nat} {length : Millis} {woken : Option Nat} {cut : Bool}
      (hcut : cut = true → woken ≠ none) (hdue : cut = false → start + length.val.toNat ≤ t) :
      Stands t (.counted start length woken) [] (.pauseEnded cut)
        ((cutEntries cut).map fun k => (t, k))
  | entry {p : Phase} :
      Stands t p [(t, .pauseEnded true)] (.logged .script pauseCutEntry) []
  | left :
      Stands t .leaving [] .pauseLeft []
  | looked (p : Phase) :
      Stands t p [] (.interrupted p.isCounted) []
  | notified (p : Phase) :
      Stands t p [] .notified []

/-- The one item of a list is the one that it is split at. -/
theorem eq_of_singleton_split
    {α : Type} {l r : List α} {x y : α}
    (h : l ++ x :: r = [y]) :
    l = [] ∧ x = y ∧ r = [] := by
  cases l with
  | nil =>
      rw [List.nil_append, List.cons.injEq] at h
      exact ⟨rfl, h⟩
  | cons z l =>
      rw [List.cons_append, List.cons.injEq] at h
      exact absurd h.2 (by simp)

theorem Piece.stands
    {p p' : Phase} {a b : List (Nat × Mark)} {t : Nat} {k : Mark}
    (h : Piece p (a ++ (t, k) :: b) p')
    (hk : k.isOffPause = false) :
    Stands t p a k b := by
  generalize hall : a ++ (t, k) :: b = all at h
  cases h with
  | beside hks =>
      have hoff := hks (t, k) (hall ▸ List.mem_append_right a List.mem_cons_self)
      cases hoff.symm.trans hk
  | started t' length =>
      cases a with
      | nil =>
          -- The event in front is about no pause.
          cases hall
          cases hk
      | cons x a =>
          rw [List.cons_append, List.cons.injEq] at hall
          obtain ⟨rfl, hmark, rfl⟩ := eq_of_singleton_split hall.2
          cases hmark
          rw [hall.1]
          exact .started length
  | @ended _ t' _ _ cut hcut hdue =>
      cases a with
      | nil =>
          cases hall
          exact .ended hcut hdue
      | cons x a =>
          rw [List.cons_append, List.cons.injEq] at hall
          cases cut with
          | false =>
              simp [cutEntries] at hall
          | true =>
              obtain ⟨rfl, hmark, rfl⟩ := eq_of_singleton_split hall.2
              cases hmark
              rw [hall.1]
              exact .entry
  | entered t' length woken =>
      obtain ⟨rfl, hmark, rfl⟩ := eq_of_singleton_split hall
      cases hmark
      exact .entered length woken
  | left t' =>
      obtain ⟨rfl, hmark, rfl⟩ := eq_of_singleton_split hall
      cases hmark
      exact .left
  | looked t' p =>
      obtain ⟨rfl, hmark, rfl⟩ := eq_of_singleton_split hall
      cases hmark
      exact .looked p
  | notified t' p =>
      obtain ⟨rfl, hmark, rfl⟩ := eq_of_singleton_split hall
      cases hmark
      exact .notified p

/-! ### Moves on a clock -/

namespace Clocked

/-- The moment is one of the phase: the script's task, the handle and the clock are those of
it. -/
structure Agrees (c : Clocked) (p : Phase) : Prop where
  task : p.Tells c.run.task
  handle : c.run.handle = p.handle
  due : ∀ start length woken, p = .counted start length woken →
    c.due = start + length.val.toNat

theorem due_move
    {c : Clocked}
    (h : ∀ length, c.run.task ≠ .entering length)
    (m : Move) :
    (c.move m).due = c.due := by
  unfold move
  split
  · exact absurd ‹_› (h _)
  · rfl

/-- **What a move adds to the log**, and the phase that it leads to. -/
theorem exists_piece_move
    {c : Clocked} {p : Phase} {m : Move}
    (h : c.Agrees p)
    (hmay : c.mayMove m = true) :
    ∃ p', Piece p ((c.run.made m).map fun k => (c.now, k)) p' ∧ (c.move m).Agrees p' := by
  obtain ⟨htells, hhandle, hdue⟩ := h
  have hstep := pauseStep c.run m
  have hsame : ∀ start length woken, p = .counted start length woken →
      (c.move m).due = start + length.val.toNat := by
    rintro start length woken rfl
    have htask : c.run.task = .pausing length := htells
    rw [due_move (by rw [htask]; simp)]
    exact hdue start length woken rfl
  generalize htask : c.run.task = task at hstep htells
  generalize hold : c.run.handle = handle at hstep hhandle
  generalize hmade : c.run.made m = made at hstep
  generalize htask' : (step c.run m).task = task' at hstep
  generalize hnew : (step c.run m).handle = handle' at hstep
  subst hhandle
  cases hstep with
  | beside hks =>
      refine ⟨p, .beside (by simpa using hks), ?_, hnew, hsame⟩
      exact htask' ▸ htells
  | other hks hoff hoff' =>
      cases p with
      | idle =>
          refine ⟨.idle, .beside (by simpa using hks), ?_, hnew, hsame⟩
          exact htask' ▸ hoff'
      | begun | counted | leaving =>
          rw [htells] at hoff
          cases hoff
  | started length =>
      cases p with
      | idle =>
          exact ⟨_, .started c.now length, htask', hnew, by simp⟩
      | begun | counted | leaving =>
          cases htells
  | entered length =>
      cases p with
      | begun length' woken =>
          cases htells
          refine ⟨_, .entered c.now length woken, htask', hnew, ?_⟩
          rintro start length woken ⟨⟩
          simp only [move, htask]
      | idle | counted | leaving =>
          cases htells
  | @ended length _ cut hcut =>
      cases p with
      | counted start length' woken =>
          cases htells
          refine ⟨.leaving, .ended ?_ ?_, htask', hnew, by simp⟩
          · intro hwoken
            exact Option.isSome_iff_ne_none.1 (hcut hwoken)
          · rintro rfl
            have hover : c.due ≤ c.now := by
              simpa only [mayMove, htask, decide_eq_true_eq] using hmay
            rwa [hdue start length woken rfl] at hover
      | idle | begun | leaving =>
          cases htells
  | left =>
      cases p with
      | leaving =>
          refine ⟨.idle, .left c.now, ?_, hnew, by simp⟩
          exact congrArg Task.isOffPause htask'
      | idle | begun | counted =>
          cases htells
  | looked =>
      refine ⟨p, ?_, ?_, hnew, hsame⟩
      · rw [Phase.isPausing_handle]
        exact .looked c.now p
      · exact htask' ▸ htells
  | notified =>
      refine ⟨_, .notified c.now p, ?_, ?_, ?_⟩
      · rw [Phase.tells_notified]
        exact htask' ▸ htells
      · rw [Phase.handle_notified]
        exact hnew
      · intro start length woken hcounted
        cases p with
        | counted start' length' woken' =>
            cases hcounted
            exact hsame _ _ _ rfl
        | idle | begun | leaving =>
            cases hcounted

/-- A moment of a run as its log tells it. -/
structure Kept (c : Clocked) (p : Phase) : Prop where
  pieces : Pieces c.log p
  agrees : c.Agrees p
  marks : c.log.map Prod.snd = c.run.trace
  times : c.log.Pairwise fun k k' => k.1 ≤ k'.1
  past : ∀ k ∈ c.log, k.1 ≤ c.now

theorem kept_start (defaults : TypeSet) (batch : Batch) :
    (start defaults batch).Kept .idle :=
  ⟨.nil, ⟨rfl, rfl, by simp⟩, rfl, .nil, by simp [start]⟩

theorem Kept.pass
    {c : Clocked} {p : Phase}
    (h : c.Kept p)
    (n : Nat) :
    (c.pass n).Kept p :=
  ⟨h.pieces, ⟨h.agrees.task, h.agrees.handle, h.agrees.due⟩, h.marks, h.times,
    fun k hk => (h.past k hk).trans (Nat.le_add_right _ _)⟩

theorem Kept.move
    {c : Clocked} {p : Phase} {m : Move}
    (h : c.Kept p)
    (hmay : c.mayMove m = true) :
    ∃ p', Piece p ((c.run.made m).map fun k => (c.now, k)) p' ∧ (c.move m).Kept p' := by
  obtain ⟨p', hpiece, hagrees⟩ := exists_piece_move h.agrees hmay
  refine ⟨p', hpiece, h.pieces.snoc hpiece, hagrees, ?_, ?_, ?_⟩
  · simp only [Clocked.move, List.map_append, h.marks, trace_step, List.map_map]
    simp [Function.comp_def]
  · refine List.pairwise_append.2 ⟨h.times, List.pairwise_map.2 ?_, ?_⟩
    · exact List.pairwise_of_forall fun _ _ => Nat.le_refl _
    · intro k hk k' hk'
      obtain ⟨_, -, rfl⟩ := List.mem_map.1 hk'
      exact h.past k hk
  · intro k hk
    rcases List.mem_append.1 hk with hk | hk
    · exact h.past k hk
    · obtain ⟨_, -, rfl⟩ := List.mem_map.1 hk
      exact Nat.le_refl _

theorem Kept.tick
    {c : Clocked} {p : Phase}
    (h : c.Kept p)
    (t : Tick) :
    ∃ p', (c.tick t).Kept p' := by
  cases t with
  | pass n =>
      exact ⟨p, h.pass n⟩
  | move m =>
      rw [Clocked.tick]
      split
      · obtain ⟨p', -, hkept⟩ := h.move ‹_›
        exact ⟨p', hkept⟩
      · exact ⟨p, h⟩

theorem exists_kept (defaults : TypeSet) (batch : Batch) (ts : List Tick) :
    ∃ p, ((start defaults batch).ticks ts).Kept p := by
  induction ts using List.reverseRecOn with
  | nil =>
      exact ⟨.idle, kept_start defaults batch⟩
  | append_singleton ts t ih =>
      obtain ⟨p, h⟩ := ih
      rw [ticks_snoc]
      exact h.tick t

/-- A run on a clock is a run. -/
theorem exists_moves (defaults : TypeSet) (batch : Batch) (ts : List Tick) :
    ∃ moves, ((start defaults batch).ticks ts).run = steps (.start defaults batch) moves := by
  induction ts using List.reverseRecOn with
  | nil =>
      exact ⟨[], rfl⟩
  | append_singleton ts t ih =>
      obtain ⟨moves, hrun⟩ := ih
      rw [ticks_snoc]
      generalize (start defaults batch).ticks ts = c at hrun
      cases t with
      | pass n =>
          exact ⟨moves, hrun⟩
      | move m =>
          rw [tick]
          split
          · exact ⟨moves ++ [m], by rw [steps_snoc, ← hrun]; rfl⟩
          · exact ⟨moves, hrun⟩

/-- Every move can be made when enough time has passed. -/
theorem mayMove_pass (c : Clocked) (m : Move) :
    (c.pass (c.due - c.now)).mayMove m = true := by
  unfold mayMove
  split
  · split
    · have hlate : c.due ≤ c.now + (c.due - c.now) := by omega
      exact decide_eq_true hlate
    · rfl
  · rfl

/-- **Every run is a run on a clock.** -/
theorem exists_ticks (defaults : TypeSet) (batch : Batch) (moves : List Move) :
    ∃ ts, ((start defaults batch).ticks ts).run = steps (.start defaults batch) moves := by
  induction moves using List.reverseRecOn with
  | nil =>
      exact ⟨[], rfl⟩
  | append_singleton moves m ih =>
      obtain ⟨ts, hrun⟩ := ih
      let c := (start defaults batch).ticks ts
      refine ⟨ts ++ [.pass (c.due - c.now)] ++ [.move m], ?_⟩
      rw [ticks_snoc, ticks_snoc, tick, tick, if_pos (mayMove_pass c m), steps_snoc, ← hrun]
      rfl

/-! ### Calls in time -/

/-- A pause whose wait was woken in time is not due. -/
def OnTime (c : Clocked) (p : Phase) : Prop :=
  ∀ start length t, p = .counted start length (some t) → start < start + length.val.toNat →
    t < start + length.val.toNat → c.now < start + length.val.toNat

/-- A pause whose wait was woken in time was cut short before it was due. -/
def EndsCut (log : List (Nat × Mark)) : Prop :=
  ∀ front t cut back, log = front ++ (t, .pauseEnded cut) :: back →
    ∀ start length t', phaseAt front = .counted start length (some t') →
      start < start + length.val.toNat → t' < start + length.val.toNat →
        cut = true ∧ t < start + length.val.toNat

theorem OnTime.pass
    {c : Clocked} {p : Phase} {n : Nat}
    (h : c.OnTime p)
    (hkept : c.Kept p)
    (hn : c.isCutInTime = true → c.now + n < c.due) :
    (c.pass n).OnTime p := by
  rintro start length t rfl hlong ht
  have htask : c.run.task = .pausing length := hkept.agrees.task
  have hhandle := hkept.agrees.handle
  have hdue := hkept.agrees.due start length _ rfl
  have hnow := h start length t rfl hlong ht
  rw [← hdue] at hnow ⊢
  refine hn ?_
  rw [isCutInTime, htask, hhandle]
  exact Bool.and_eq_true_iff.2 ⟨rfl, decide_eq_true hnow⟩

theorem OnTime.move
    {c : Clocked} {p p' : Phase} {ks : List (Nat × Mark)} {m : Move}
    (h : c.OnTime p)
    (hpiece : Piece p ks p')
    (hnow : ∀ k ∈ ks, k.1 = c.now) :
    (c.move m).OnTime p' := by
  rintro start length t hp' hlong ht
  change c.now < _
  cases hpiece with
  | beside | looked =>
      exact h start length t hp' hlong ht
  | entered t' length' woken =>
      cases hp'
      have hstart : start = c.now := hnow (start, _) List.mem_cons_self
      rwa [← hstart]
  | notified t' p =>
      have ht' : t' = c.now := hnow (t', _) List.mem_cons_self
      cases p with
      | counted start' length' woken =>
          cases woken with
          | none =>
              cases hp'
              rwa [← ht']
          | some first =>
              cases hp'
              exact h start length t rfl hlong ht
      | idle | begun | leaving =>
          cases hp'
  | started | ended | left =>
      cases hp'

/-- A pause that ends at a moment that is on time ends cut short, if its wait was woken in
time. -/
theorem EndsCut.append
    {c : Clocked} {p p' : Phase} {ks : List (Nat × Mark)}
    (h : EndsCut c.log)
    (hpieces : Pieces c.log p)
    (hontime : c.OnTime p)
    (hpiece : Piece p ks p')
    (hnow : ∀ k ∈ ks, k.1 = c.now) :
    EndsCut (c.log ++ ks) := by
  intro front t cut back hsplit start length t' hphase hlong ht'
  rcases split_cases hsplit with ⟨a, rfl, rfl⟩ | ⟨back', hearlier, -⟩
  · have ht : t = c.now := hnow (t, _) (List.mem_append_right a List.mem_cons_self)
    rw [phaseAt_append, hpieces.phaseAt_eq] at hphase
    have hstands := hpiece.stands rfl
    generalize hk : Mark.pauseEnded cut = k at hstands
    cases hstands with
    | ended hcut hdue =>
        cases hk
        cases hphase
        have hbefore := hontime start length t' rfl hlong ht'
        rw [← ht] at hbefore
        refine ⟨?_, hbefore⟩
        cases hend : cut with
        | true => rfl
        | false => exact absurd (hdue hend) (Nat.not_le_of_lt hbefore)
    | _ =>
        cases hk
  · exact h front t cut back' hearlier start length t' hphase hlong ht'

/-- The log of a script that goes on in time. -/
theorem endsCut_ticks
    {defaults : TypeSet} {batch : Batch} {ts : List Tick}
    (h : (start defaults batch).isTimely ts = true) :
    ∃ p, ((start defaults batch).ticks ts).Kept p ∧
      ((start defaults batch).ticks ts).OnTime p ∧
      EndsCut ((start defaults batch).ticks ts).log := by
  induction ts using List.reverseRecOn with
  | nil =>
      refine ⟨.idle, kept_start defaults batch, ?_, ?_⟩
      · rintro start length t ⟨⟩
      · intro front t cut back hsplit
        have hnil : [] = front ++ (t, .pauseEnded cut) :: back := hsplit
        simp at hnil
  | append_singleton ts t ih =>
      rw [isTimely_snoc, Bool.and_eq_true] at h
      obtain ⟨hearlier, hlast⟩ := h
      obtain ⟨p, hkept, hontime, hends⟩ := ih hearlier
      rw [ticks_snoc]
      generalize (start defaults batch).ticks ts = c at hkept hontime hends hlast
      cases t with
      | pass n =>
          have hn : c.isCutInTime = true → c.now + n < c.due := by
            intro hcut
            rw [goesOnInTime, hcut] at hlast
            exact of_decide_eq_true hlast
          exact ⟨p, hkept.pass n, hontime.pass hkept hn, hends⟩
      | move m =>
          rw [tick]
          split
          · obtain ⟨p', hpiece, hkept'⟩ := hkept.move ‹_›
            have hnow : ∀ k ∈ (c.run.made m).map fun k => (c.now, k), k.1 = c.now := by
              simp
            exact ⟨p', hkept', hontime.move hpiece hnow,
              hends.append hkept.pieces hontime hpiece hnow⟩
          · exact ⟨p, hkept, hontime, hends⟩

/-! ### Calls while there is no pause -/

/-- The moment with more marks in front of its log. -/
def behind (c : Clocked) (l : List (Nat × Mark)) : Clocked :=
  { c with run := c.run.behind (l.map Prod.snd), log := l ++ c.log }

theorem tick_behind (c : Clocked) (l : List (Nat × Mark)) (t : Tick) :
    (c.behind l).tick t = (c.tick t).behind l := by
  cases t with
  | pass n =>
      rfl
  | move m =>
      have hmay : (c.behind l).mayMove m = c.mayMove m := rfl
      have hmove : (c.behind l).move m = (c.move m).behind l := by
        have hstep : step (c.behind l).run m = (step c.run m).behind (l.map Prod.snd) :=
          step_behind _ _ m
        have hmade : (c.behind l).run.made m = c.run.made m := rfl
        have htask : (c.behind l).run.task = c.run.task := rfl
        simp only [move, hstep, hmade, htask]
        simp [behind, State.behind]
      simp only [tick, hmay, hmove]
      split <;> rfl

theorem ticks_behind (c : Clocked) (l : List (Nat × Mark)) (ts : List Tick) :
    (c.behind l).ticks ts = (c.ticks ts).behind l := by
  induction ts generalizing c with
  | nil =>
      rfl
  | cons t ts ih =>
      rw [ticks, List.foldl_cons, tick_behind]
      exact ih (c.tick t)

/-- The moment with an empty log. -/
def fresh (c : Clocked) : Clocked :=
  { c with run := c.run.fresh, log := [] }

theorem eq_behind
    {c : Clocked}
    (h : c.log.map Prod.snd = c.run.trace) :
    c = c.fresh.behind c.log := by
  obtain ⟨run, now, due, log⟩ := c
  have hmarks : log.map Prod.snd = run.trace := h
  simp [fresh, behind, State.fresh, State.behind, hmarks]

theorem Kept.isPausing_eq
    {c : Clocked} {p : Phase}
    (h : c.Kept p) :
    c.run.isPausing = p.isCounted := by
  rw [State.isPausing, h.agrees.handle, Phase.isPausing_handle]

/-- Where the script has other things to do than to pause, there is no pause. -/
theorem Kept.eq_idle
    {c : Clocked} {p : Phase}
    (h : c.Kept p)
    (hoff : c.run.task.isOffPause = true) :
    p = .idle := by
  have htells := h.agrees.task
  cases p with
  | idle =>
      rfl
  | begun | counted | leaving =>
      rw [htells] at hoff
      cases hoff

/-- Whoever looks makes a mark and does nothing else. -/
theorem tick_look
    {c : Clocked} {p : Phase}
    (h : c.Kept p) :
    c.tick (.move .look) = c.fresh.behind (c.log ++ [(c.now, .interrupted p.isCounted)]) := by
  have hpausing := h.isPausing_eq
  have hmarks := h.marks
  obtain ⟨run, now, due, log⟩ := c
  have hmade : run.made .look = [.interrupted p.isCounted] :=
    congrArg (fun b => [Mark.interrupted b]) hpausing
  have hdue : (match run.task, Move.look with
      | .entering length, .entered => now + length.val.toNat
      | _, _ => due) = due := by
    cases run.task <;> rfl
  change Clocked.mk (run.mark (.interrupted run.isPausing)) now _ _ = _
  rw [hmade, hdue]
  simp only [fresh, behind, State.fresh, State.behind, State.mark, List.map_append,
    List.map_cons, List.map_nil, List.append_nil]
  rw [hmarks, hpausing]

/-- Whoever notifies while there is no pause makes a mark and does nothing else. -/
theorem tick_notify
    {c : Clocked}
    (h : c.Kept .idle) :
    c.tick (.move .notify) = c.fresh.behind (c.log ++ [(c.now, .notified)]) := by
  have hhandle := h.agrees.handle
  have hmarks := h.marks
  obtain ⟨run, now, due, log⟩ := c
  have hnotify : run.handle.notify = run.handle := by
    rw [hhandle]
    rfl
  have hdue : (match run.task, Move.notify with
      | .entering length, .entered => now + length.val.toNat
      | _, _ => due) = due := by
    cases run.task <;> rfl
  change Clocked.mk ({ run with handle := run.handle.notify }.mark .notified) now _ _ = _
  rw [hnotify, hdue]
  simp only [fresh, behind, State.fresh, State.behind, State.mark, List.map_append,
    List.map_cons, List.map_nil, List.append_nil]
  rw [hmarks]
  rfl

/-- A call that looks and notifies while there is no pause leaves its two marks, and nothing
else differs. -/
theorem Kept.ticks_between
    {c : Clocked} {between : List Tick}
    (h : c.Kept .idle)
    (h' : ((c.tick (.move .look)).ticks between).Kept .idle)
    (after : List Tick) :
    ∃ t t' mid later,
      ((((c.tick (.move .look)).ticks between).tick (.move .notify)).ticks after).log =
        c.log ++ (t, .interrupted false) :: (mid ++ (t', .notified) :: later) ∧
      ((c.ticks between).ticks after).log = c.log ++ (mid ++ later) ∧
      ((((c.tick (.move .look)).ticks between).tick (.move .notify)).ticks after).fresh =
        ((c.ticks between).ticks after).fresh := by
  let d := c.fresh.ticks between
  have hlook : (c.tick (.move .look)).ticks between =
      d.behind (c.log ++ [(c.now, .interrupted false)]) := by
    rw [tick_look h, ticks_behind]
    rfl
  rw [hlook] at h' ⊢
  have hmarks : d.log.map Prod.snd = d.run.trace := by
    have hbehind := h'.marks
    simp only [behind, State.behind, List.map_append] at hbehind
    exact List.append_cancel_left hbehind
  have hplain : c.ticks between = d.fresh.behind (c.log ++ d.log) := by
    calc c.ticks between
        = (c.fresh.behind c.log).ticks between := by rw [← eq_behind h.marks]
      _ = d.behind c.log := ticks_behind _ _ _
      _ = (d.fresh.behind d.log).behind c.log := by rw [← eq_behind hmarks]
      _ = d.fresh.behind (c.log ++ d.log) := by simp [behind, State.behind]
  rw [tick_notify h', hplain, ticks_behind, ticks_behind]
  refine ⟨c.now, d.now, d.log, (d.fresh.ticks after).log, ?_, ?_, rfl⟩
  · simp only [behind, List.append_assoc, List.cons_append, List.nil_append]
    rfl
  · simp only [behind, List.append_assoc]

end Clocked

/-! ### The laws -/

/-- A pause that ends and is left leaves the script ready for the next event. -/
theorem step_wake_left
    {s : State} {length : Millis} {cut : Bool}
    (h : s.task = .pausing length)
    (hcut : cut = true → s.handle.isWoken = true) :
    (step (step s (.wake cut)) .left).task = .ready ∧
      (step (step s (.wake cut)) .left).rest = s.rest := by
  have hwoken : step s (.wake cut) = s.woken cut := by
    simp only [step, h]
    refine if_neg fun hrefused => ?_
    rw [Bool.and_eq_true, Bool.not_eq_true'] at hrefused
    cases (hcut hrefused.1).symm.trans hrefused.2
  rw [hwoken]
  cases cut <;> exact ⟨rfl, rfl⟩

/-- What becomes of the pauses of a run, and of the calls by which somebody tries to cut
them short. -/
structure PauseLaws (batch : Batch) (c : Clocked) : Prop where
  /-- The log has the marks of the run, with times that do not go back. -/
  marks : c.log.map Prod.snd = c.run.trace
  times : c.log.Pairwise fun k k' => k.1 ≤ k'.1
  /-- Events are taken up in the order of the batch. -/
  order : taken c.run.trace ++ c.run.rest = batch
  /-- Counter and waits of the handle stay in step with the pause that the log tells. -/
  inStep : c.run.handle = (phaseAt c.log).handle ∧ c.run.isPausing = (phaseAt c.log).isCounted
  /-- A pause begins where there is none, and its time when it is counted. -/
  started : ∀ front t length back, c.log = front ++ (t, .pauseStarted length) :: back →
    phaseAt front = .idle
  entered : ∀ front t back, c.log = front ++ (t, .pauseEntered) :: back →
    ∃ length woken, phaseAt front = .begun length woken
  /-- Whoever looks is told whether a pause is counted, and whoever notifies leaves a mark. -/
  calls : (c.ticks [.move .look]).log = c.log ++
    [(c.now, .interrupted (phaseAt c.log).isCounted)] ∧
    (c.ticks [.move .notify]).log = c.log ++ [(c.now, .notified)]
  told : ∀ front t pausing back, c.log = front ++ (t, .interrupted pausing) :: back →
    pausing = (phaseAt front).isCounted
  /-- A pause is cut short only if somebody notified since it began, and else it ends when
  its time is over.  If it was cut short there is one entry, else there is none, and then
  comes the next event. -/
  ended : ∀ front t cut back, c.log = front ++ (t, .pauseEnded cut) :: back →
    ∃ before t₀ length since start woken next,
      front = before ++ (t₀, .pauseStarted length) :: since ∧ phaseAt before = .idle ∧
      phaseAt front = .counted start length woken ∧ (start, .pauseEntered) ∈ front ∧
      (cut = true → ∃ t', (t', .notified) ∈ since) ∧
      (cut = false → start + length.val.toNat ≤ t) ∧
      back = (cutEntries cut).map (fun k => (t, k)) ++ next ∧
      LeavesPause cut (cutEntries cut ++ scriptPart (next.map Prod.snd))
  /-- There are no other entries about pauses. -/
  entries : ∀ front t side e back, c.log = front ++ (t, .logged side e) :: back →
    e.kind = .pauseInterrupted →
      side = .script ∧ e = pauseCutEntry ∧ ∃ front', front = front' ++ [(t, .pauseEnded true)]
  /-- A pause whose wait was woken can end at once, and every pause when its time is over. -/
  ends : ∀ start length woken, phaseAt c.log = .counted start length woken →
    (woken ≠ none →
      (c.ticks [.move (.wake true), .move .left]).run.task = .ready ∧
      (c.ticks [.move (.wake true), .move .left]).run.rest = c.run.rest ∧
      (c.ticks [.move (.wake true), .move .left]).now = c.now) ∧
    (c.ticks [.pass (start + length.val.toNat - c.now), .move (.wake false),
      .move .left]).run.task = .ready ∧
    (c.ticks [.pass (start + length.val.toNat - c.now), .move (.wake false),
      .move .left]).run.rest = c.run.rest
  /-- When the run is over there is no pause in progress, and none is reported. -/
  finished : c.run.outcome?.isSome → c.run.isPausing = false ∧ c.run.handle = {} ∧
    phaseAt c.log = .idle

namespace Clocked.Kept

variable {c : Clocked} {p : Phase}

/-- A pause whose wait was woken can end at once. -/
theorem ends_cut
    {start t : Nat} {length : Millis}
    (h : c.Kept (.counted start length (some t))) :
    (c.ticks [.move (.wake true), .move .left]).run.task = .ready ∧
      (c.ticks [.move (.wake true), .move .left]).run.rest = c.run.rest ∧
      (c.ticks [.move (.wake true), .move .left]).now = c.now := by
  have hwoken : c.run.handle.isWoken = true := by
    rw [h.agrees.handle]
    rfl
  obtain ⟨hready, hrest⟩ := step_wake_left h.agrees.task fun _ => hwoken
  exact ⟨hready, hrest, rfl⟩

/-- Every pause can end when its time is over. -/
theorem ends_due
    {start : Nat} {length : Millis} {woken : Option Nat}
    (h : c.Kept (.counted start length woken)) :
    (c.ticks [.pass (start + length.val.toNat - c.now), .move (.wake false),
        .move .left]).run.task = .ready ∧
      (c.ticks [.pass (start + length.val.toNat - c.now), .move (.wake false),
        .move .left]).run.rest = c.run.rest := by
  rw [← h.agrees.due start length woken rfl]
  have hwake : (c.pass (c.due - c.now)).tick (.move (.wake false)) =
      (c.pass (c.due - c.now)).move (.wake false) :=
    if_pos (mayMove_pass c (.wake false))
  change
    (((c.pass (c.due - c.now)).tick (.move (.wake false))).tick (.move .left)).run.task = _ ∧
    (((c.pass (c.due - c.now)).tick (.move (.wake false))).tick (.move .left)).run.rest = _
  rw [hwake]
  have htask : (c.pass (c.due - c.now)).run.task = .pausing length := h.agrees.task
  exact step_wake_left htask (by simp)

/-- Behind the end of a pause and its entry comes the next event. -/
theorem leaves
    {batch : Batch} {front next : List (Nat × Mark)} {t : Nat} {cut : Bool}
    (h : c.Kept p)
    (haccounted : Accounted batch c.run)
    (hlog : c.log = front ++
      (t, .pauseEnded cut) :: ((cutEntries cut).map (fun k => (t, k)) ++ next)) :
    LeavesPause cut (cutEntries cut ++ scriptPart (next.map Prod.snd)) := by
  have htrace := h.marks.symm
  rw [hlog, List.map_append, List.map_cons] at htrace
  have hleaves := haccounted.leaves_of_pauseEnded htrace
  have hentries : scriptPart (((cutEntries cut).map fun k => (t, k)).map Prod.snd) =
      cutEntries cut := by
    cases cut <;> rfl
  rw [List.map_append, scriptPart_append, hentries] at hleaves
  exact hleaves

end Clocked.Kept

theorem pauseLaws_of_kept
    {batch : Batch} {c : Clocked} {p : Phase}
    (hkept : c.Kept p)
    (haccounted : Accounted batch c.run) :
    PauseLaws batch c where
  marks := hkept.marks
  times := hkept.times
  order := haccounted.taken_append_rest
  inStep := by
    rw [hkept.pieces.phaseAt_eq]
    exact ⟨hkept.agrees.handle, hkept.isPausing_eq⟩
  started := by
    intro front t length back hlog
    obtain ⟨before, p₁, a, b, p₂, after, rfl, -, hbefore, hpiece⟩ :=
      hkept.pieces.exists_piece hlog
    cases hpiece.stands rfl with
    | started =>
        rw [phaseAt_append, hbefore]
        rfl
  entered := by
    intro front t back hlog
    obtain ⟨before, p₁, a, b, p₂, after, rfl, -, hbefore, hpiece⟩ :=
      hkept.pieces.exists_piece hlog
    cases hpiece.stands rfl with
    | entered length woken =>
        exact ⟨length, woken, by rw [List.append_nil, hbefore]⟩
  calls := by
    refine ⟨?_, rfl⟩
    have hlook : (c.ticks [.move .look]).log = c.log ++
        [(c.now, .interrupted c.run.isPausing)] :=
      rfl
    rw [hlook, hkept.isPausing_eq, hkept.pieces.phaseAt_eq]
  told := by
    intro front t pausing back hlog
    obtain ⟨before, p₁, a, b, p₂, after, rfl, -, hbefore, hpiece⟩ :=
      hkept.pieces.exists_piece hlog
    cases hpiece.stands rfl with
    | looked =>
        rw [List.append_nil, hbefore]
  ended := by
    intro front t cut back hlog
    obtain ⟨before, p₁, a, b, p₂, after, rfl, rfl, hbefore, hpiece⟩ :=
      hkept.pieces.exists_piece hlog
    cases hpiece.stands rfl with
    | @ended start length woken _ hcut hdue =>
        rw [List.append_nil] at hlog ⊢
        obtain ⟨front, t₀, since, rfl, hidle, rfl⟩ :=
          exists_start_of_phaseAt (congrArg Phase.wait? hbefore)
        refine ⟨front, t₀, length, since, start, _, after, rfl, hidle, hbefore,
          start_mem_of_phaseAt hbefore, ?_, hdue, rfl, hkept.leaves haccounted hlog⟩
        intro hend
        obtain ⟨t', ht'⟩ := Option.ne_none_iff_exists'.1 (hcut hend)
        exact ⟨t', mem_of_notifiedAt? ht'⟩
  entries := by
    intro front t side e back hlog he
    obtain ⟨before, p₁, a, b, p₂, after, rfl, -, -, hpiece⟩ := hkept.pieces.exists_piece hlog
    cases hpiece.stands (by simp [Mark.isOffPause, he]) with
    | entry =>
        exact ⟨rfl, rfl, before, rfl⟩
  ends := by
    intro start length woken hphase
    rw [hkept.pieces.phaseAt_eq] at hphase
    subst hphase
    refine ⟨?_, hkept.ends_due⟩
    intro hwoken
    obtain ⟨t, rfl⟩ := Option.ne_none_iff_exists'.1 hwoken
    exact hkept.ends_cut
  finished := by
    intro hover
    obtain ⟨o, ho⟩ := Option.isSome_iff_exists.1 hover
    have hoff : c.run.task.isOffPause = true := by
      rw [task_of_outcome? ho]
      rfl
    obtain rfl := hkept.eq_idle hoff
    exact ⟨hkept.isPausing_eq, hkept.agrees.handle, hkept.pieces.phaseAt_eq⟩

/-- A pause whose wait was notified in time ends cut short before it is due. -/
theorem cut_of_notified
    {c : Clocked} {p : Phase} {front mid rest : List (Nat × Mark)} {t₂ t start : Nat}
    {cut : Bool} {length : Millis} {woken : Option Nat}
    (hkept : c.Kept p)
    (hends : Clocked.EndsCut c.log)
    (hlog : c.log = front ++ (t₂, .notified) :: (mid ++ (t, .pauseEnded cut) :: rest))
    (hphase : phaseAt front = .counted start length woken)
    (hearly : t₂ < start + length.val.toNat)
    (hmid : ∀ k ∈ mid, k.2.isPauseEnd = false) :
    cut = true ∧ t < start + length.val.toNat := by
  have hpast : ∀ k ∈ front, k.1 ≤ t₂ := by
    have htimes := hkept.times
    rw [hlog] at htimes
    exact fun k hk => (List.pairwise_append.1 htimes).2.2 k hk _ List.mem_cons_self
  have hstart : start ≤ t₂ := hpast _ (start_mem_of_phaseAt hphase)
  -- The wait was woken by this call, or by an earlier one.
  obtain ⟨first, hfirst, hle⟩ : ∃ first,
      phaseAt (front ++ (t₂, .notified) :: mid) = .counted start length (some first) ∧
        first ≤ t₂ := by
    rw [phaseAt_append, hphase, Phase.foldl_counted (List.forall_mem_cons.2 ⟨rfl, hmid⟩)]
    cases woken with
    | none =>
        exact ⟨t₂, rfl, Nat.le_refl _⟩
    | some first =>
        obtain ⟨before, t₀, since, rfl, -, hnotified⟩ :=
          exists_start_of_phaseAt (congrArg Phase.wait? hphase)
        refine ⟨first, rfl, hpast (first, .notified) ?_⟩
        have hmem := mem_of_notifiedAt? hnotified.symm
        exact List.mem_append_right _ (List.mem_cons_of_mem _ hmem)
  refine hends (front ++ (t₂, .notified) :: mid) t cut rest ?_ start length first hfirst
    (by omega) (by omega)
  rw [hlog, List.append_assoc, List.cons_append]

/-- What calls do to pauses, over all runs on all clocks. -/
structure InterruptionLaws (defaults : TypeSet) (batch : Batch) : Prop where
  /-- At every moment of every run. -/
  laws : ∀ ts, PauseLaws batch ((Clocked.start defaults batch).ticks ts)
  /-- A call while a pause is in progress that notifies before the pause is due is told so,
  and that pause ends cut short before it is due, if the script goes on in time. -/
  caught : ∀ ts, (Clocked.start defaults batch).isTimely ts = true →
    ∀ front t₁ pausing between t₂ back,
      ((Clocked.start defaults batch).ticks ts).log =
        front ++ (t₁, .interrupted pausing) :: (between ++ (t₂, .notified) :: back) →
      ∀ start length woken, phaseAt front = .counted start length woken →
        (∀ k ∈ between, k.2.isPauseEnd = false) → t₂ < start + length.val.toNat →
          pausing = true ∧
            ∀ mid t cut rest, back = mid ++ (t, .pauseEnded cut) :: rest →
              (∀ k ∈ mid, k.2.isPauseEnd = false) → cut = true ∧ t < start + length.val.toNat
  /-- A call while there is no pause is told so and leaves its own marks, and nothing else
  is different later. -/
  idle : ∀ before between after,
    ((Clocked.start defaults batch).ticks before).run.task.isOffPause = true →
    ((Clocked.start defaults batch).ticks
      (before ++ .move .look :: between)).run.task.isOffPause = true →
      ∃ t t' mid later,
        ((Clocked.start defaults batch).ticks
            (before ++ .move .look :: (between ++ .move .notify :: after))).log =
          ((Clocked.start defaults batch).ticks before).log ++
            (t, .interrupted false) :: (mid ++ (t', .notified) :: later) ∧
        ((Clocked.start defaults batch).ticks (before ++ (between ++ after))).log =
          ((Clocked.start defaults batch).ticks before).log ++ (mid ++ later) ∧
        ((Clocked.start defaults batch).ticks
            (before ++ .move .look :: (between ++ .move .notify :: after))).fresh =
          ((Clocked.start defaults batch).ticks (before ++ (between ++ after))).fresh
  /-- Each run can be had on a clock. -/
  runs : ∀ moves, ∃ ts,
    ((Clocked.start defaults batch).ticks ts).run = steps (.start defaults batch) moves

/-- The length of a pause of half a second. -/
def halfSecond : Millis :=
  ⟨500, by decide⟩

/-- Two pauses in a row. -/
def twoPauses : Batch :=
  [.pause second, .pause halfSecond]

/-- The first pause is in progress for 300 milliseconds. -/
def intoPause : List Tick :=
  [.move .proceed, .move .entered, .pass 300]

/-- Two calls fall into it; the first one takes a millisecond. -/
def twoCalls : List Tick :=
  [.move .look, .pass 1, .move .notify, .move .look, .move .notify, .move (.wake true),
    .move .left]

/-- Nothing happens to the second one. -/
def secondPause : List Tick :=
  [.move .proceed, .move .entered, .pass 500, .move (.wake false), .move .left]

/-- The marks up to the first call. -/
def marksBefore : List (Nat × Mark) :=
  [(0, .took (.pause second)), (0, .pauseStarted second), (0, .pauseEntered)]

/-- The marks after it has notified. -/
def marksAfter : List (Nat × Mark) :=
  [(301, .interrupted true), (301, .notified), (301, .pauseEnded true),
    (301, .logged .script pauseCutEntry), (301, .pauseLeft), (301, .took (.pause halfSecond)),
    (301, .pauseStarted halfSecond), (301, .pauseEntered), (801, .pauseEnded false),
    (801, .pauseLeft)]

/-- A call that looks before a pause and notifies in it is told that there is none, and cuts
it short. -/
example :
    ((Clocked.start .empty twoPauses).ticks
      [.move .look, .move .proceed, .move .notify, .move .entered, .move (.wake true)]).log =
      [(0, .interrupted false), (0, .took (.pause second)), (0, .pauseStarted second),
        (0, .notified), (0, .pauseEntered), (0, .pauseEnded true),
        (0, .logged .script pauseCutEntry)] := by
  decide +kernel

end Replay
end SmppReplay
