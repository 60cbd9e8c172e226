import SmppReplay.Proofs.Replay.Runs

/-!
# Numbers of sent messages

A message is sent with the greater of its own number and the counter, which then is one
more.  So the numbers grow, and no two messages of a run have the same one, as long as the
counter does not leave its word: after the largest number it is zero again.

**Invariant.** The numbers handed over so far are counted from one on (`Counts`), and the
script's counter stands where they end; only a message that waits for the state of its
connection is counted already but not handed over (`Numbered`).

Main facts:
* `handed_lt`: a number is greater than all earlier ones unless the largest one is among them;
* `handed_nodup_iff`: when the numbers of a run differ.
-/

namespace SmppReplay
namespace Replay

open AutoReply (TypeSet)
open Transport (ConnectionState Endpoint Result)

/-! ### Counting within a word -/

/-- The largest number of a message. -/
def lastNumber : UInt32 := 0xFFFFFFFF

/-- The numbers are counted from `c` on up to `d`: each is at least the counter, which then
is one more. -/
inductive Counts : UInt32 → List UInt32 → UInt32 → Prop
  | nil (c : UInt32) :
      Counts c [] c
  | cons {c d n : UInt32} {ns : List UInt32} (h : c ≤ n) (hrest : Counts (n + 1) ns d) :
      Counts c (n :: ns) d

namespace Counts

theorem append_iff (c d : UInt32) (ns ks : List UInt32) :
    Counts c (ns ++ ks) d ↔ ∃ e, Counts c ns e ∧ Counts e ks d := by
  induction ns generalizing c with
  | nil =>
      constructor
      · intro h
        exact ⟨c, Counts.nil c, h⟩
      · rintro ⟨e, he, h⟩
        cases he
        exact h
  | cons n ns ih =>
      constructor
      · intro h
        cases h with
        | cons hn hrest =>
            obtain ⟨e, hns, hks⟩ := (ih _).1 hrest
            exact ⟨e, Counts.cons hn hns, hks⟩
      · rintro ⟨e, he, hks⟩
        cases he with
        | cons hn hns =>
            exact Counts.cons hn ((ih _).2 ⟨e, hns, hks⟩)

theorem snoc
    {c d n : UInt32} {ns : List UInt32}
    (h : Counts c ns d)
    (hn : d ≤ n) :
    Counts c (ns ++ [n]) (n + 1) :=
  (append_iff _ _ _ _).2 ⟨d, h, Counts.cons hn (Counts.nil _)⟩

/-- Below the largest number the next one is greater. -/
theorem lt_add_one
    {n : UInt32}
    (h : n ≠ lastNumber) :
    n < n + 1 := by
  have hn : n.toNat ≠ 4294967295 := fun heq => h (UInt32.toNat_inj.1 heq)
  have hlt : n.toNat < 4294967296 := n.toNat_lt
  rw [UInt32.lt_iff_toNat_lt, UInt32.toNat_add]
  change n.toNat < (n.toNat + 1) % 4294967296
  omega

/-- Counting without the largest number goes up. -/
theorem le
    {c d : UInt32} {ns : List UInt32}
    (h : Counts c ns d)
    (hlast : lastNumber ∉ ns) :
    c ≤ d ∧ ∀ n ∈ ns, n < d := by
  induction h with
  | nil c =>
      exact ⟨UInt32.le_refl c, by simp⟩
  | @cons c d n ns hn hrest ih =>
      rw [List.mem_cons, not_or] at hlast
      obtain ⟨hle, hlt⟩ := ih hlast.2
      have hnd : n < d := UInt32.lt_of_lt_of_le (lt_add_one (Ne.symm hlast.1)) hle
      refine ⟨UInt32.le_trans hn (UInt32.le_of_lt hnd), ?_⟩
      intro k hk
      rcases List.mem_cons.1 hk with rfl | hk
      · exact hnd
      · exact hlt k hk

end Counts

/-! ### The numbers of a run -/

/-- The number of a message of the script that is handed over. -/
def Mark.number? : Mark → Option UInt32
  | .sendCalled .script m _ => some m.sequence
  | _ => none

/-- The numbers of the messages that the script handed over for sending, in order. -/
def State.handed (s : State) : List UInt32 :=
  s.trace.filterMap Mark.number?

theorem handed_mark (s : State) (k : Mark) :
    (s.mark k).handed = s.handed ++ k.number?.toList := by
  rw [State.handed, State.mark, List.filterMap_append, State.handed]
  cases h : k.number? <;> simp [h]

theorem handed_mark_of_none
    (s : State) {k : Mark}
    (hk : k.number? = none) :
    (s.mark k).handed = s.handed := by
  rw [handed_mark, hk]
  exact List.append_nil s.handed

/-- No message waits with a number that is counted already, and the run goes on. -/
def Task.isSettled : Task → Bool
  | .asking _ => false
  | .reporting _ (some _) => false
  | .finishing _ => false
  | .finished _ => false
  | _ => true

/-- Where the counter stands when the numbers handed over end at `c`. -/
def CounterAt (c next : UInt32) : Task → Prop
  | .asking m => c ≤ m.sequence ∧ next = m.sequence + 1
  | .reporting _ (some _) => True
  | .finishing _ => True
  | .finished _ => True
  | _ => next = c

theorem counterAt_iff
    {c next : UInt32} {t : Task}
    (ht : t.isSettled) :
    CounterAt c next t ↔ next = c := by
  cases t with
  | asking | finishing | finished =>
      cases ht
  | reporting m cause =>
      cases cause with
      | none => rfl
      | some cause => cases ht
  | _ =>
      rfl

/-- The numbers handed over are counted from one on, and the counter stands where they end. -/
def Numbered (s : State) : Prop :=
  ∃ c, Counts 1 s.handed c ∧ CounterAt c s.nextSequence s.task

namespace Numbered

variable {s s' : State}

theorem start (defaults : TypeSet) (batch : Batch) :
    Numbered (.start defaults batch) :=
  ⟨1, Counts.nil 1, rfl⟩

/-- Of a state only the numbers, the counter and the task matter. -/
theorem congr
    (h : Numbered s)
    (hhanded : s'.handed = s.handed)
    (hnext : s'.nextSequence = s.nextSequence)
    (htask : s'.task = s.task) :
    Numbered s' := by
  unfold Numbered
  rw [hhanded, hnext, htask]
  exact h

/-- From one settled task to another the counter stays where it is. -/
theorem switch
    (h : Numbered s)
    (hhanded : s'.handed = s.handed)
    (hnext : s'.nextSequence = s.nextSequence)
    (hs : s.task.isSettled)
    (hs' : s'.task.isSettled) :
    Numbered s' := by
  obtain ⟨c, hc, hcounter⟩ := h
  rw [counterAt_iff hs] at hcounter
  refine ⟨c, hhanded ▸ hc, ?_⟩
  rw [counterAt_iff hs', hnext]
  exact hcounter

theorem mark {k : Mark}
    (h : Numbered s)
    (hk : k.number? = none) :
    Numbered (s.mark k) :=
  h.congr (handed_mark_of_none s hk) rfl rfl

theorem record
    (h : Numbered s)
    (side : Side) (e : Transcript.Entry) :
    Numbered (s.record side e) :=
  h.mark rfl

/-! ### The script -/

/-- After the last event nothing is counted any more. -/
theorem finish
    (h : Numbered s)
    (o : Outcome) :
    Numbered (s.finish o) := by
  obtain ⟨c, hc, -⟩ := h
  unfold State.finish
  cases s.session with
  | none =>
      exact ⟨c, hc, trivial⟩
  | some peer =>
      refine ⟨c, ?_, trivial⟩
      rw [handed_mark_of_none _ rfl]
      exact hc

theorem abort
    (h : Numbered s)
    (m : Message) (cause : String) :
    Numbered (s.abort m cause) :=
  (h.record .script _).finish _

theorem nextSequence_le_numbered (s : State) (m : Message) :
    s.nextSequence ≤ (s.numbered m).sequence := by
  simp only [State.numbered, Message.withSequence]
  split_ifs with h
  · exact UInt32.le_refl _
  · exact UInt32.not_lt.1 h

/-- A message takes its number when it is taken up, and the counter goes on behind it. -/
theorem take_send
    (h : Numbered s)
    (hready : s.task = .ready)
    (m : Message) :
    Numbered (s.take (.send m)) := by
  cases hsession : s.session with
  | none =>
      simp only [State.take, hsession]
      exact (h.mark rfl).record _ _
  | some peer =>
      simp only [State.take, hsession]
      obtain ⟨c, hc, hcounter⟩ := h
      rw [hready, counterAt_iff rfl] at hcounter
      exact ⟨c, hc, hcounter ▸ nextSequence_le_numbered s m, rfl⟩

theorem take
    (h : Numbered s)
    (hready : s.task = .ready)
    (e : Event) :
    Numbered (s.take e) := by
  have htask : s.task.isSettled := by
    rw [hready]
    rfl
  cases e with
  | send m =>
      exact h.take_send hready m
  | connect peer =>
      cases hsession : s.session with
      | none =>
          simp only [State.take, hsession]
          exact h.switch (handed_mark_of_none _ rfl) rfl htask rfl
      | some _ =>
          simp only [State.take, hsession]
          exact h.record _ _
  | disconnect =>
      cases hsession : s.session with
      | none =>
          simp only [State.take, hsession]
          exact h.record _ _
      | some _ =>
          simp only [State.take, hsession]
          exact h.switch (handed_mark_of_none _ rfl) rfl htask rfl
  | pause length =>
      exact h.switch (handed_mark_of_none _ rfl) rfl htask rfl
  | setAutoReply t enabled =>
      cases hsession : s.session with
      | none =>
          simp only [State.take, hsession]
          exact h.record _ _
      | some _ =>
          simp only [State.take, hsession]
          exact h.congr rfl rfl rfl

theorem proceed
    (h : Numbered s)
    (hready : s.task = .ready) :
    Numbered s.proceed := by
  unfold State.proceed
  split
  · exact h.finish .completed
  · rename_i e rest hrest
    have htaken : Numbered ({ s with rest := rest, processed := s.processed + 1 }.mark
        (.took e)) :=
      h.congr (handed_mark_of_none _ rfl) rfl rfl
    exact htaken.take hready e

theorem opened
    {peer : Endpoint}
    (h : Numbered s)
    (htask : s.task = .opening peer)
    (result : Result) :
    Numbered (s.opened peer result) := by
  have hready : Numbered ({ s with task := .ready }.mark (.openReturned peer result)) :=
    h.switch (handed_mark_of_none _ rfl) rfl (by rw [htask]; rfl) rfl
  cases result with
  | ok =>
      exact (hready.congr rfl rfl rfl).record _ _
  | failed e =>
      exact (hready.congr rfl rfl rfl).record _ _

/-- The number that was taken is the next one handed over. -/
theorem asked
    {m : Message}
    (h : Numbered s)
    (htask : s.task = .asking m)
    (state : ConnectionState) :
    Numbered (s.asked m state) := by
  have hmarked : Numbered (s.mark (.stateReturned state)) :=
    h.mark rfl
  have hunsent : ∀ cause, Numbered ((s.mark (.stateReturned state)).unsent m cause) := by
    intro cause
    obtain ⟨c, hc, -⟩ := hmarked
    refine ⟨c, ?_, trivial⟩
    rw [State.unsent, handed_mark_of_none _ rfl]
    exact hc
  unfold State.asked
  cases state with
  | connected =>
      cases Pdu.encode m with
      | error e =>
          exact hunsent e.message
      | ok frame =>
          obtain ⟨c, hc, hcounter⟩ := hmarked
          have hcounter : CounterAt c s.nextSequence (.asking m) := htask ▸ hcounter
          refine ⟨m.sequence + 1, ?_, hcounter.2⟩
          rw [handed_mark]
          exact hc.snoc hcounter.1
  | _ =>
      exact hunsent _

theorem sent
    {m : Message} {frame : List UInt8}
    (h : Numbered s)
    (htask : s.task = .sending m frame)
    (result : Result) :
    Numbered (s.sent m frame result) := by
  cases result with
  | ok =>
      exact h.switch (handed_mark_of_none _ rfl) rfl (by rw [htask]; rfl) rfl
  | failed e =>
      obtain ⟨c, hc, -⟩ := h
      refine ⟨c, ?_, trivial⟩
      rw [State.sent, handed_mark_of_none _ rfl]
      exact hc

theorem reported
    {m : Message} {cause : Option String}
    (h : Numbered s)
    (htask : s.task = .reporting m cause) :
    Numbered (s.reported m cause) := by
  cases cause with
  | none =>
      have hready : Numbered { s with task := .ready } :=
        h.switch rfl rfl (by rw [htask]; rfl) rfl
      exact hready.record _ _
  | some cause =>
      exact h.abort m cause

theorem closed
    (h : Numbered s)
    (htask : s.task = .closing)
    (result : Result) :
    Numbered (s.closed .ready disconnectedEntry result) := by
  have hready : Numbered ({ s with task := .ready, enabled := none }.mark
      (.closeReturned result)) :=
    h.switch (handed_mark_of_none _ rfl) rfl (by rw [htask]; rfl) rfl
  exact hready.record _ _

theorem finished
    (h : Numbered s)
    (o : Outcome) (e : Transcript.Entry) (result : Result) :
    Numbered (s.closed (.finished o) e result) := by
  obtain ⟨c, hc, -⟩ := h
  have hover : Numbered
      ({ s with task := .finished o, enabled := none }.mark (.closeReturned result)) := by
    refine ⟨c, ?_, trivial⟩
    rw [handed_mark_of_none _ rfl]
    exact hc
  exact hover.record _ _

theorem woken
    {length : Millis}
    (h : Numbered s)
    (htask : s.task = .pausing length)
    (cut : Bool) :
    Numbered (s.woken cut) := by
  have hended : Numbered ({ s with task := .leaving, handle := s.handle.unwait }.mark
      (.pauseEnded cut)) :=
    h.switch (handed_mark_of_none _ rfl) rfl (by rw [htask]; rfl) rfl
  cases cut with
  | false =>
      exact hended
  | true =>
      exact hended.record _ _

/-! ### The inbound side -/

/-- Replies are not numbered. -/
theorem deliver
    (h : Numbered s)
    (enabled : TypeSet) (frame : List UInt8) :
    Numbered (s.deliver enabled frame) := by
  have harrived : Numbered (s.arrived enabled frame) := by
    unfold State.arrived
    cases AutoReply.arrivalEntry frame with
    | none =>
        exact h.mark rfl
    | some e =>
        exact (h.mark rfl).record _ _
  have hanswers := answers_deliver s enabled frame
  generalize s.deliver enabled frame = s' at hanswers ⊢
  cases hanswers with
  | silent hreply =>
      exact harrived
  | handed hreply hbs =>
      exact harrived.congr (handed_mark_of_none _ rfl) rfl rfl
  | unsent hreply he =>
      exact (harrived.mark rfl).record _ _

/-- No move breaks the numbering. -/
theorem happens
    {move : Move}
    (hmove : Happens s move s')
    (h : Numbered s) :
    Numbered s' := by
  cases hmove with
  | nothing =>
      exact h
  | proceed htask =>
      exact h.proceed htask
  | opened result htask =>
      exact h.opened htask result
  | asked state htask =>
      exact h.asked htask state
  | sent result htask =>
      exact h.sent htask result
  | reported htask =>
      exact h.reported htask
  | closed result htask =>
      exact h.closed htask result
  | finished result htask =>
      exact h.finished _ _ result
  | entered htask =>
      exact h.switch (handed_mark_of_none _ rfl) rfl (by rw [htask]; rfl) rfl
  | woken htask =>
      exact h.woken htask _
  | left htask =>
      exact h.switch (handed_mark_of_none _ rfl) rfl (by rw [htask]; rfl) rfl
  | delivered frame henabled =>
      exact h.deliver _ frame
  | replied result hreplies hresult =>
      exact (h.congr rfl rfl rfl).mark rfl
  | noted hreplies hresult =>
      exact (h.congr rfl rfl rfl).record _ _
  | lost henabled =>
      exact (h.mark rfl).record _ _
  | looked =>
      exact h.mark rfl
  | notified =>
      exact (h.congr rfl rfl rfl).mark rfl

end Numbered

/-- Every moment of every run is numbered. -/
theorem numbered_steps (defaults : TypeSet) (batch : Batch) (moves : List Move) :
    Numbered (steps (.start defaults batch) moves) :=
  steps_preserves (fun _ _ _ hmove h => h.happens hmove) moves (Numbered.start defaults batch)

/-- A list is free of repetitions if no item stands among those before it. -/
theorem nodup_iff_forall_notMem {α : Type} (l : List α) :
    l.Nodup ↔ ∀ front a back, l = front ++ a :: back → a ∉ front := by
  constructor
  · rintro h front a back rfl
    have hdisjoint := (List.nodup_append.1 h).2.2
    intro ha
    exact hdisjoint a ha a (by simp) rfl
  · intro h
    rw [List.Nodup, List.pairwise_iff_forall_sublist]
    rintro a b hab rfl
    obtain ⟨l₁, l₂, rfl, ha₁, ha₂⟩ := List.cons_sublist_iff.1 hab
    obtain ⟨middle, back, rfl⟩ := List.append_of_mem (List.singleton_sublist.1 ha₂)
    exact h (l₁ ++ middle) a back (by simp) (List.mem_append_left middle ha₁)

/-- Until the largest number is handed over, every number is greater than all before it. -/
theorem handed_lt
    {defaults : TypeSet} {batch : Batch} {moves : List Move}
    {front back : List UInt32} {n k : UInt32}
    (h : (steps (.start defaults batch) moves).handed = front ++ n :: back)
    (hlast : lastNumber ∉ front)
    (hk : k ∈ front) :
    k < n := by
  obtain ⟨d, hcounts, -⟩ := numbered_steps defaults batch moves
  rw [h, Counts.append_iff] at hcounts
  obtain ⟨e, hfront, hback⟩ := hcounts
  -- The front was counted without starting again, so the counter behind it is above all of
  -- it.
  cases hback with
  | cons hn hrest =>
      exact UInt32.lt_of_lt_of_le ((hfront.le hlast).2 k hk) hn

/-- **When the numbers differ.** In a run of any batch against any peer the numbers grow
until the largest one is handed over.  So no two messages have one number, unless a number
comes again after the largest. -/
theorem handed_nodup_iff (defaults : TypeSet) (batch : Batch) (moves : List Move) :
    (∀ front n back, (steps (.start defaults batch) moves).handed = front ++ n :: back →
      lastNumber ∉ front → ∀ k ∈ front, k < n) ∧
    ((steps (.start defaults batch) moves).handed.Nodup ↔
      ∀ front n back, (steps (.start defaults batch) moves).handed = front ++ n :: back →
        lastNumber ∈ front → n ∉ front) := by
  refine ⟨fun front n back hsplit hlast k hk => handed_lt hsplit hlast hk, ?_⟩
  rw [nodup_iff_forall_notMem]
  constructor
  · intro h front n back hsplit _
    exact h front n back hsplit
  · intro h front n back hsplit hn
    by_cases hlast : lastNumber ∈ front
    · exact h front n back hsplit hlast hn
    · exact UInt32.lt_irrefl n (handed_lt hsplit hlast hn)

/-- Two messages that ask for the largest number both get it. -/
theorem handed_largest_twice :
    ¬(steps (.start .empty
        [.connect ⟨"h", 1⟩, .send ((Message.new .enquireLink).withSequence lastNumber),
          .send ((Message.new .enquireLink).withSequence lastNumber)])
      [.proceed, .opened .ok, .proceed, .state .connected, .sent .ok, .reported, .proceed,
        .state .connected]).handed.Nodup := by
  decide +kernel

end Replay
end SmppReplay
