import SmppReplay.Proofs.Batch.Automatic
import SmppReplay.Proofs.Replay.Account

/-!
# Messages that are numbered

Only the messages that the script takes up while a connection is open are numbered
(`State.offered`): each takes the greater of its own number and the counter, which is one at
the start and then one more than the number taken (`numberedFrom`).  Nothing else moves the
counter.

**Method.** A `Tally` compares the messages that are offered between two moments with those
that are attempted and with the counter.  Each turn of the script and each stage has one,
and they add up.

Main fact:
* `tally_steps`: what is attempted, and where the counter stands, at every moment of every
  run.
-/

namespace SmppReplay
namespace Replay

open AutoReply (TypeSet)
open Transport (ConnectionState Endpoint Result)

/-! ### Counting messages -/

/-- The message with the number that it takes from a counter. -/
def numberedBy (c : UInt32) (m : Message) : Message :=
  m.withSequence (if m.sequence < c then c else m.sequence)

/-- The messages with the numbers that they take from a counter, one after the other. -/
def numberedFrom : UInt32 → List Message → List Message
  | _, [] => []
  | c, m :: ms => numberedBy c m :: numberedFrom ((numberedBy c m).sequence + 1) ms

/-- The counter behind some messages. -/
def counterFrom : UInt32 → List Message → UInt32
  | c, [] => c
  | c, m :: ms => counterFrom ((numberedBy c m).sequence + 1) ms

theorem numberedFrom_append (c : UInt32) (ms ms' : List Message) :
    numberedFrom c (ms ++ ms') = numberedFrom c ms ++
      numberedFrom (counterFrom c ms) ms' := by
  induction ms generalizing c with
  | nil =>
      rfl
  | cons m ms ih =>
      rw [List.cons_append, numberedFrom, ih]
      rfl

theorem counterFrom_append (c : UInt32) (ms ms' : List Message) :
    counterFrom c (ms ++ ms') = counterFrom (counterFrom c ms) ms' := by
  induction ms generalizing c with
  | nil =>
      rfl
  | cons m ms ih =>
      exact ih _

/-- A numbered message is as it was but for its number. -/
theorem forall₂_numberedFrom (c : UInt32) (ms : List Message) :
    List.Forall₂ (fun m' m => m' = m.withSequence m'.sequence) (numberedFrom c ms) ms := by
  induction ms generalizing c with
  | nil =>
      exact List.Forall₂.nil
  | cons m ms ih =>
      exact List.Forall₂.cons rfl (ih _)

/-- Messages with consecutive numbers keep them, if the counter starts at the first one. -/
theorem numberedFrom_of_consecutive
    {c : UInt32} {ms : List Message}
    (h : ∀ k m, ms[k]? = some m → m.sequence = c + UInt32.ofNat k) :
    numberedFrom c ms = ms ∧ counterFrom c ms = c + UInt32.ofNat ms.length := by
  induction ms generalizing c with
  | nil =>
      exact ⟨rfl, (UInt32.add_zero c).symm⟩
  | cons m ms ih =>
      have hsequence : m.sequence = c := (h 0 m rfl).trans (UInt32.add_zero c)
      have hkeeps : numberedBy c m = m := by
        rw [numberedBy, hsequence, ite_self, ← hsequence]
        rfl
      have hrest : ∀ k m', ms[k]? = some m' → m'.sequence = c + 1 + UInt32.ofNat k := by
        intro k m' hm'
        rw [Batch.add_one_add_ofNat]
        exact h (k + 1) m' hm'
      obtain ⟨hnumbered, hcounter⟩ := ih hrest
      rw [numberedFrom, counterFrom, hkeeps, hsequence, hnumbered, hcounter,
        Batch.add_one_add_ofNat]
      exact ⟨rfl, rfl⟩

/-! ### Marks over an open connection -/

/-- A connection is open behind the mark, if `isOpen` tells whether one was open before it. -/
def Mark.opens (isOpen : Bool) : Mark → Bool
  | .openReturned _ .ok => true
  | .closeCalled => false
  | _ => isOpen

/-- A connection is open behind the marks. -/
def openAfter (isOpen : Bool) (l : List Mark) : Bool :=
  l.foldl Mark.opens isOpen

/-- The marks that were made while a connection was open. -/
def whileOpen : Bool → List Mark → List Mark
  | _, [] => []
  | isOpen, k :: l => (if isOpen then [k] else []) ++ whileOpen (k.opens isOpen) l

/-- The message that the script took up. -/
def Mark.offered? (k : Mark) : Option Message :=
  k.event?.bind Event.message?

/-- The message that the script handed over, or that has no wire form or no connection. -/
def Mark.attempted? : Mark → Option Message
  | .sendCalled .script m _ => some m
  | .unsent .script m => some m
  | _ => none

/-- The message that waits for the state of its connection. -/
def Task.asking? : Task → List Message
  | .asking m => [m]
  | _ => []

/-- The messages that are taken up while a connection is open. -/
def offeredFrom (isOpen : Bool) (l : List Mark) : List Message :=
  (whileOpen isOpen l).filterMap Mark.offered?

/-- The messages that are handed over, or are found to have no wire form, while a connection
is open. -/
def attemptedFrom (isOpen : Bool) (l : List Mark) : List Message :=
  (whileOpen isOpen l).filterMap Mark.attempted?

/-- The messages that the script took up while a connection was open. -/
def State.offered (s : State) : List Message :=
  offeredFrom false s.trace

/-- The messages that the script tried to send over an open connection, the last of which
may still wait. -/
def State.attempted (s : State) : List Message :=
  attemptedFrom false s.trace ++ s.task.asking?

theorem openAfter_append (isOpen : Bool) (l l' : List Mark) :
    openAfter isOpen (l ++ l') = openAfter (openAfter isOpen l) l' :=
  List.foldl_append

theorem whileOpen_append (isOpen : Bool) (l l' : List Mark) :
    whileOpen isOpen (l ++ l') = whileOpen isOpen l ++ whileOpen (openAfter isOpen l) l' := by
  induction l generalizing isOpen with
  | nil =>
      rfl
  | cons k l ih =>
      rw [List.cons_append, whileOpen, ih, ← List.append_assoc]
      rfl

theorem offeredFrom_append (isOpen : Bool) (l l' : List Mark) :
    offeredFrom isOpen (l ++ l') = offeredFrom isOpen l ++
      offeredFrom (openAfter isOpen l) l' := by
  rw [offeredFrom, whileOpen_append, List.filterMap_append]
  rfl

theorem attemptedFrom_append (isOpen : Bool) (l l' : List Mark) :
    attemptedFrom isOpen (l ++ l') =
      attemptedFrom isOpen l ++ attemptedFrom (openAfter isOpen l) l' := by
  rw [attemptedFrom, whileOpen_append, List.filterMap_append]
  rfl

/-- Marks of the inbound side do not count. -/
theorem filterMap_whileOpen_scriptPart
    {β : Type} {f : Mark → Option β}
    (hf : ∀ k : Mark, k.isScript = false → f k = none)
    (isOpen : Bool) (l : List Mark) :
    (whileOpen isOpen (scriptPart l)).filterMap f = (whileOpen isOpen l).filterMap f := by
  induction l generalizing isOpen with
  | nil =>
      rfl
  | cons k l ih =>
      cases hk : k.isScript with
      | true =>
          rw [scriptPart, List.filter_cons_of_pos hk, whileOpen, whileOpen,
            List.filterMap_append, List.filterMap_append]
          exact congrArg _ (ih _)
      | false =>
          have hopens : k.opens isOpen = isOpen := by
            cases k <;> first | rfl | cases hk
          have hnone : (if isOpen then [k] else []).filterMap f = [] := by
            cases isOpen <;> simp [hf k hk]
          rw [scriptPart, List.filter_cons_of_neg (by simp [hk]), whileOpen,
            List.filterMap_append, hnone, hopens]
          exact ih isOpen

/-! ### Tallies -/

/-- The messages that are offered between two moments are attempted with the numbers that
they take from the counter, up to those that wait, and move it from where it stands at the
first moment to where it stands at the second. -/
structure Tally (st : Standing) (l : List Mark) (waiting : List Message)
    (st' : Standing) : Prop where
  session : openAfter st.session.isSome l = st'.session.isSome
  attempted : attemptedFrom st.session.isSome l ++ waiting =
    numberedFrom st.nextSequence (offeredFrom st.session.isSome l)
  counter : st'.nextSequence = counterFrom st.nextSequence (offeredFrom st.session.isSome l)

namespace Tally

variable {st st₁ st' : Standing} {l l' : List Mark} {waiting : List Message}

theorem nil (st : Standing) :
    Tally st [] [] st :=
  ⟨rfl, rfl, rfl⟩

theorem append
    (h : Tally st l [] st₁)
    (h' : Tally st₁ l' waiting st') :
    Tally st (l ++ l') waiting st' := by
  have hattempted := h.attempted
  rw [List.append_nil] at hattempted
  refine ⟨?_, ?_, ?_⟩
  · rw [openAfter_append, h.session, h'.session]
  · rw [attemptedFrom_append, offeredFrom_append, numberedFrom_append, h.session, ← h.counter,
      hattempted, List.append_assoc, h'.attempted]
  · rw [offeredFrom_append, counterFrom_append, h.session, ← h.counter, h'.counter]

end Tally

/-- A message is numbered in its turn if a connection is open; all other turns leave the
counter alone. -/
theorem Turn.tally
    {st st' : Standing} {e : Event} {ms : List Mark}
    (h : Turn st e ms st') :
    Tally st (.took e :: ms) [] st' := by
  obtain ⟨session, c⟩ := st
  cases h with
  | sent m hopen hframe =>
      obtain rfl := hopen
      exact ⟨rfl, rfl, rfl⟩
  | connected peer hsession | unreachable peer e hsession | refused peer hsession
  | disconnected result hsession | notConnected hsession | passedOver m hsession
  | switched t enabled hsession | ignored t enabled hsession =>
      obtain rfl := hsession
      exact ⟨rfl, rfl, rfl⟩
  | waited length | cut length =>
      cases session <;> exact ⟨rfl, rfl, rfl⟩

theorem Turns.tally
    {st st' : Standing} {events : Batch} {marks : List Mark}
    (h : Turns st events marks st') :
    Tally st marks [] st' := by
  induction h with
  | nil st =>
      exact Tally.nil st
  | cons hturn _ ih =>
      exact hturn.tally.append ih

theorem Ends.tally
    {st st' : Standing} {rest current : Batch} {ms : List Mark} {o : Outcome}
    (h : Ends st rest current ms o st') :
    Tally st ms [] st' := by
  cases h with
  | completed =>
      exact Tally.nil st
  | aborted hopen hfails =>
      obtain ⟨session, c⟩ := st
      obtain rfl := hopen
      cases hfails <;> exact ⟨rfl, rfl, rfl⟩

theorem Stage.tally
    {st st' : Standing} {rest current : Batch} {ms : List Mark} {task : Task}
    (h : Stage st rest current ms task st') :
    Tally st ms task.asking? st' := by
  cases h with
  | ready =>
      exact Tally.nil st
  | opening peer hsession | asking m hsession | sending m hsession hframe
  | sent m hsession hframe | closing hsession =>
      obtain ⟨session, c⟩ := st
      obtain rfl := hsession
      exact ⟨rfl, rfl, rfl⟩
  | failed hsession hfails =>
      obtain ⟨session, c⟩ := st
      obtain rfl := hsession
      cases hfails <;> exact ⟨rfl, rfl, rfl⟩
  | entering length | pausing length =>
      obtain ⟨session, c⟩ := st
      cases session <;> exact ⟨rfl, rfl, rfl⟩
  | leaving length cut =>
      obtain ⟨session, c⟩ := st
      cases session <;> cases cut <;> exact ⟨rfl, rfl, rfl⟩
  | @finishing _ _ _ st₁ _ hends hopen =>
      refine hends.tally.append ?_
      obtain ⟨session, c⟩ := st₁
      obtain rfl := hopen
      exact ⟨rfl, rfl, rfl⟩
  | @closed _ _ _ st₁ _ result hends hopen =>
      refine hends.tally.append ?_
      obtain ⟨session, c⟩ := st₁
      obtain rfl := hopen
      exact ⟨rfl, rfl, rfl⟩
  | finished hends hidle =>
      exact hends.tally

/-- **The counter moves by the messages that are offered**, at every moment of every run. -/
theorem tally_steps (defaults : TypeSet) (batch : Batch) (moves : List Move) :
    (steps (.start defaults batch) moves).attempted =
        numberedFrom 1 (steps (.start defaults batch) moves).offered ∧
      (steps (.start defaults batch) moves).nextSequence =
        counterFrom 1 (steps (.start defaults batch) moves).offered := by
  have haccount := accounted_steps defaults batch moves
  generalize steps (.start defaults batch) moves = s at haccount ⊢
  obtain ⟨done, marks, st, current, ms, hturns, hstage, hscript, -, -⟩ := haccount
  have htally := hturns.tally.append hstage.tally
  rw [← hscript] at htally
  have hoffered : offeredFrom false (scriptPart s.trace) = s.offered := by
    refine filterMap_whileOpen_scriptPart (fun k hk => ?_) false s.trace
    cases k <;> first | rfl | cases hk
  have hattempted : attemptedFrom false (scriptPart s.trace) =
      attemptedFrom false s.trace := by
    refine filterMap_whileOpen_scriptPart (fun k hk => ?_) false s.trace
    cases k with
    | sendCalled side | unsent side =>
        cases side <;> first | rfl | cases hk
    | _ =>
        rfl
  have hnumbered := htally.attempted
  have hcounter := htally.counter
  change attemptedFrom false _ ++ _ = numberedFrom 1 (offeredFrom false _) at hnumbered
  change s.nextSequence = counterFrom 1 (offeredFrom false _) at hcounter
  rw [hattempted, hoffered] at hnumbered
  rw [hoffered] at hcounter
  exact ⟨hnumbered, hcounter⟩

end Replay
end SmppReplay
