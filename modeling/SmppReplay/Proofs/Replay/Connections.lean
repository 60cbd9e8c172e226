import SmppReplay.Proofs.Replay.Moments

/-!
# Connections are opened and closed in turn

**Question.**  Do connections leak, or overlap?

They do not: the calls of a run are blocks one after the other, the last of which may be
unfinished while the run goes on.  A connection that the peer closes, or that breaks, is no
exception: it stays in its block until the script closes it.

Main fact:
* `orderly_steps`: all of this, at every moment of every run.
-/

namespace SmppReplay
namespace Replay

open AutoReply (TypeSet)
open Transport (ConnectionState Endpoint Result)

/-! ### Where connections are opened and closed -/

/-- Why a connection is closed: the script says so, a message was not sent, or the turns of
the whole batch are done. -/
inductive Ending (batch : Batch) : List Mark → Prop
  | disconnect (l : List Mark) : Ending batch (l ++ [.took .disconnect])
  | abort (l : List Mark) (m : Message) (cause : String) :
      Ending batch (l ++ [.logged .script (.sendFailed m cause)])
  | completed {l : List Mark} {st : Standing} (h : Turns {} batch l st) : Ending batch l

/-- The relation holds of each mark of the list and the marks in front of it. -/
def Throughout (R : List Mark → Mark → Prop) (l : List Mark) : Prop :=
  ∀ front k back, l = front ++ k :: back → R front k

namespace Throughout

variable {R : List Mark → Mark → Prop} {l l' : List Mark} {k : Mark}

@[simp] theorem nil_iff :
    Throughout R [] ↔ True := by
  simp [Throughout]

@[simp] theorem cons_iff :
    Throughout R (k :: l) ↔ R [] k ∧ Throughout (fun front => R (k :: front)) l := by
  constructor
  · intro h
    refine ⟨h [] k l rfl, ?_⟩
    rintro front k' back rfl
    exact h (k :: front) k' back rfl
  · rintro ⟨hk, hl⟩ front k' back hsplit
    cases front with
    | nil =>
        cases hsplit
        exact hk
    | cons k'' front =>
        rw [List.cons_append, List.cons.injEq] at hsplit
        obtain ⟨rfl, hsplit⟩ := hsplit
        exact hl front k' back hsplit

theorem append
    (h : Throughout R l)
    (h' : Throughout (fun front => R (l ++ front)) l') :
    Throughout R (l ++ l') := by
  induction l generalizing R with
  | nil =>
      exact h'
  | cons k l ih =>
      obtain ⟨hk, hl⟩ := cons_iff.1 h
      exact cons_iff.2 ⟨hk, ih hl h'⟩

end Throughout

/-- A connection is opened behind finished blocks only, and closed for a reason only. -/
def Regular (batch : Batch) (front : List Mark) : Mark → Prop
  | .openCalled _ => Blocks (calls front)
  | .closeCalled => Ending batch front
  | _ => True

section

variable {batch : Batch} {st st' : Standing} {ms l : List Mark}

theorem Turn.regular
    {e : Event}
    (h : Turn st e ms st')
    (hl : Settled st.session (calls l)) :
    Throughout (fun front => Regular batch (l ++ front)) (.took e :: ms) := by
  have hcalls : calls (l ++ [.took e]) = calls l := by
    rw [calls_append]
    exact List.append_nil _
  cases h with
  | connected peer hidle | unreachable peer e hidle =>
      rw [hidle] at hl
      simp [Regular, hcalls, hl.blocks]
  | disconnected result hopen =>
      simp [Regular, Ending.disconnect l]
  | refused | notConnected | sent | passedOver | waited | cut | switched | ignored =>
      simp [Regular]

theorem Turns.regular
    {events : Batch} {marks : List Mark}
    (h : Turns st events marks st')
    (hl : Settled st.session (calls l)) :
    Throughout (fun front => Regular batch (l ++ front)) marks := by
  induction h generalizing l with
  | nil st =>
      simp
  | @cons st st₁ _ e ms marks _ hturn _ ih =>
      have hnext : Settled st₁.session (calls (l ++ .took e :: ms)) := by
        rw [calls_append]
        exact hturn.settled hl
      have hrest := ih hnext
      simp only [List.append_assoc] at hrest
      exact (hturn.regular hl).append hrest

theorem Ends.ending
    {done rest current : Batch} {o : Outcome}
    (h : Ends st rest current ms o st')
    (hturns : Turns {} done l st)
    (hbatch : batch = done ++ current ++ rest) :
    Ending batch (l ++ ms) := by
  cases h with
  | completed hrest =>
      rw [hrest, List.append_nil, List.append_nil] at hbatch
      rw [hbatch, List.append_nil]
      exact Ending.completed hturns
  | @aborted m ms cause held hopen hfails =>
      have hending : Ending batch _ :=
        Ending.abort (l ++ .took (.send m) :: ms) (st.numbered m) cause
      rw [List.append_assoc] at hending
      exact hending

theorem Ends.regular
    {rest current : Batch} {o : Outcome}
    (h : Ends st rest current ms o st') :
    Throughout (fun front => Regular batch (l ++ front)) ms := by
  cases h with
  | completed hrest =>
      simp
  | aborted hopen hfails =>
      cases hfails <;> simp [Regular]

theorem Stage.regular
    {done rest current : Batch} {task : Task}
    (h : Stage st rest current ms task st')
    (hturns : Turns {} done l st)
    (hbatch : batch = done ++ current ++ rest) :
    Throughout (fun front => Regular batch (l ++ front)) ms := by
  have hl : Settled st.session (calls l) := hturns.settled (Settled.idle Blocks.nil)
  cases h with
  | ready | asking | sending | sent | entering | pausing =>
      simp [Regular]
  | failed hopen hfails =>
      cases hfails <;> simp [Regular]
  | leaving length cut =>
      cases cut <;> simp [Regular, cutEntries]
  | opening peer hidle =>
      have hcalls : calls (l ++ [.took (.connect peer)]) = calls l := by
        rw [calls_append]
        exact List.append_nil _
      rw [hidle] at hl
      simp [Regular, hcalls, hl.blocks]
  | closing hopen =>
      simp [Regular, Ending.disconnect l]
  | finishing hends hopen =>
      have hending := hends.ending hturns hbatch
      exact hends.regular.append (by simp [Regular, hending])
  | closed result hends hopen =>
      have hending := hends.ending hturns hbatch
      exact hends.regular.append (by simp [Regular, hending])
  | finished hends hidle =>
      exact hends.regular

end

theorem Accounted.regular
    {batch : Batch} {s : State}
    (h : Accounted batch s) :
    Throughout (Regular batch) (scriptPart s.trace) := by
  obtain ⟨done, marks, st, current, ms, hturns, hstage, hscript, hbatch, -⟩ := h
  have hstart : Settled none (calls []) := Settled.idle Blocks.nil
  have hdone : Throughout (Regular batch) marks := hturns.regular (l := []) hstart
  rw [hscript]
  exact hdone.append (hstage.regular hturns hbatch)

/-! ### Runs -/

/-- How connections are dealt with in a run of a batch up to a moment. -/
structure Orderly (batch : Batch) (s : State) : Prop where
  /-- The calls are finished blocks, and behind them at most one that is unfinished. -/
  blocks : Blocks (calls s.trace) ∨ Midway (calls s.trace)
  /-- When the run is over no block is unfinished, however it ended. -/
  finished : s.outcome?.isSome = true → Blocks (calls s.trace)
  /-- No connection is opened while a block is unfinished. -/
  openings : ∀ front peer back, s.trace = front ++ .openCalled peer :: back →
    Blocks (calls front)
  /-- To connect within a block leads to one entry, and the script goes on. -/
  refusals : ∀ front peer back, s.trace = front ++ .took (.connect peer) :: back →
    Midway (calls front) →
      ∃ next, scriptPart back = .logged .script (alreadyConnectedEntry peer) :: next ∧
        Resumes next
  /-- A connection is closed for a reason of the script. -/
  closings : ∀ front back, s.trace = front ++ .closeCalled :: back →
    Ending batch (scriptPart front)
  /-- A reply is handed over only within a block. -/
  replies : ∀ front m frame back, s.trace = front ++ .sendCalled .inbound m frame :: back →
    Midway (calls front)

theorem Accounted.refusal
    {batch : Batch} {s : State} {front back : List Mark} {peer : Endpoint}
    (h : Accounted batch s)
    (htrace : s.trace = front ++ .took (.connect peer) :: back)
    (hmidway : Midway (calls front)) :
    ∃ next, scriptPart back = .logged .script (alreadyConnectedEntry peer) :: next ∧
      Resumes next := by
  obtain ⟨done, st, -, hturns, hturn⟩ := h.turnAt_of_took htrace
  have hopen : st.session ≠ none := hturns.settled_start.ne_none hmidway
  generalize scriptPart back = l at hturn ⊢
  cases hturn with
  | made hturn hnext =>
      cases hturn with
      | connected peer hidle | unreachable peer e hidle =>
          exact absurd hidle hopen
      | refused peer hsession =>
          exact ⟨_, rfl, hnext⟩
  | underway hstage =>
      have hevent := hstage.event_cases
      simp [hopen] at hevent

theorem isCall_of_isAnswer {k : Mark} (h : k.isAnswer = true) : k.isCall = false := by
  cases k with
  | sendCalled side m frame =>
      cases side with
      | script =>
          exact absurd h Bool.false_ne_true
      | inbound =>
          rfl
  | unsent | logged =>
      rfl
  | _ =>
      exact absurd h Bool.false_ne_true

/-- A reply is handed over when a frame arrives, and then there is a connection. -/
theorem midway_of_reply
    {defaults : TypeSet} {batch : Batch} {moves : List Move} {front back : List Mark}
    {m : Message} {frame : List UInt8}
    (htrace : (steps (.start defaults batch) moves).trace =
      front ++ .sendCalled .inbound m frame :: back) :
    Midway (calls front) := by
  obtain ⟨before, l, r, -, rfl, hadded⟩ := exists_move_of_mark htrace
  have hlistens := listens_steps defaults batch before
  have hcases := (accounted_steps defaults batch before).calls_cases
  generalize steps (.start defaults batch) before = s at hadded hlistens hcases
  obtain ⟨enabled, frame', ks, henabled, hks, hsplit⟩ := hadded.exists_arrival rfl rfl
  have hlinked : linked s.task s.session = true := by
    rw [← hlistens, henabled]
    rfl
  have hquiet : ∀ k ∈ l, k.isCall = false := by
    intro k hk
    have hk' : k ∈ .delivered enabled frame' :: ks := hsplit ▸ List.mem_append_left _ hk
    rcases List.mem_cons.1 hk' with rfl | hk'
    · rfl
    · exact isCall_of_isAnswer (hks k hk')
  have hcalls : calls l = [] := by
    rw [calls, List.filter_eq_nil_iff]
    intro k hk
    simp [hquiet k hk]
  rw [calls_append, hcalls, List.append_nil]
  rcases hcases with ⟨-, hmidway⟩ | ⟨hfree, -⟩
  · exact hmidway
  · rw [hlinked] at hfree
    cases hfree

/-- **Connections are neither leaked nor overlapping.** -/
theorem orderly_steps (defaults : TypeSet) (batch : Batch) (moves : List Move) :
    Orderly batch (steps (.start defaults batch) moves) := by
  have haccount := accounted_steps defaults batch moves
  have hregular : ∀ front k back,
      (steps (.start defaults batch) moves).trace = front ++ k :: back → k.isScript = true →
        Regular batch (scriptPart front) k := by
    intro front k back htrace hk
    refine haccount.regular (scriptPart front) k (scriptPart back) ?_
    rw [htrace, scriptPart_append, scriptPart, scriptPart, List.filter_cons_of_pos hk]
    rfl
  exact {
    blocks := haccount.calls_cases.elim (fun h => .inr h.2) (fun h => .inl h.2)
    finished := by
      intro hover
      rcases haccount.calls_cases with ⟨hlinked, -⟩ | ⟨-, hblocks⟩
      · rw [linked_of_outcome hover] at hlinked
        cases hlinked
      · exact hblocks
    openings := by
      intro front peer back htrace
      have hblocks := hregular front _ back htrace rfl
      rw [Regular, calls_scriptPart] at hblocks
      exact hblocks
    refusals := fun _ _ _ htrace hmidway => haccount.refusal htrace hmidway
    closings := fun front back htrace => hregular front _ back htrace rfl
    replies := fun _ _ _ _ htrace => midway_of_reply htrace }

/-- In the eventful run two connections are used, one is not opened, and one is refused; the
reply to the first inquiry is handed over within a block. -/
theorem orderly_steps_eventful :
    eventfulRun.outcome?.isSome = true ∧ (calls eventfulRun.trace).length = 16 ∧
      Blocks (calls eventfulRun.trace) ∧
      ∃ m frame back,
        eventfulRun.trace = eventfulRun.trace.take 4 ++ .sendCalled .inbound m frame :: back ∧
        Midway (calls (eventfulRun.trace.take 4)) := by
  have horderly : Orderly eventful eventfulRun := orderly_steps _ eventful eventfulMoves
  have hover : eventfulRun.outcome?.isSome = true := by decide +kernel
  have hreply : eventfulRun.trace = eventfulRun.trace.take 4 ++
      .sendCalled .inbound (Message.build .enquireLinkResp [.sequence 9])
        [0, 0, 0, 16, 128, 0, 0, 21, 0, 0, 0, 0, 0, 0, 0, 9] :: eventfulRun.trace.drop 5 := by
    decide +kernel
  exact ⟨hover, by decide +kernel, horderly.finished hover, _, _, _, hreply,
    horderly.replies _ _ _ _ hreply⟩

end Replay
end SmppReplay
