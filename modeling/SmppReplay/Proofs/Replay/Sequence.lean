import SmppReplay.Proofs.Replay.Aborts
import SmppReplay.Proofs.Replay.Ledger
import SmppReplay.Proofs.Replay.Tally

/-!
# The numbers of a script's messages

**Question.** Which number is a message of the script sent with, and where does the counter
stand then?

While the numbers of a batch leave room for its messages (`HasRoom`), the counter does not
leave its word: the numbers are counted without bound (`numbers_of_room`), they grow, and
the counter stands behind the last one.

A run in which all messages are sent has done all turns of its batch
(`Accounted.turns_of_allSent`).  If its script gives no numbers, those of the compiler are
those of the counter (`numberedFrom_of_consecutive`), and the messages go out with the
numbers from one on, in the order of the document (`frames_of_script`).

Main fact:
* `sequenced_steps`: the numbers at every moment of every run.
-/

namespace SmppReplay
namespace Replay

open AutoReply (TypeSet)
open Batch (messages mem_messages_iff messages_append)
open Script (Element)
open Transport (ConnectionState Endpoint Result)

/-! ### Numbers without bound -/

/-- The number of a message. -/
def number (m : Message) : Nat :=
  m.sequence.toNat

/-- The numbers that are taken from a counter by messages with the given numbers. -/
def numbersFrom : Nat → List Nat → List Nat
  | _, [] => []
  | c, n :: ns => max n c :: numbersFrom (max n c + 1) ns

/-- The counter behind messages with the given numbers. -/
def nextFrom : Nat → List Nat → Nat
  | c, [] => c
  | c, n :: ns => nextFrom (max n c + 1) ns

theorem number_numberedBy (c : UInt32) (m : Message) :
    number (numberedBy c m) = max (number m) c.toNat := by
  unfold number numberedBy Message.withSequence
  split_ifs with h
  · exact (Nat.max_eq_right (UInt32.lt_iff_toNat_lt.1 h).le).symm
  · exact (Nat.max_eq_left (Nat.le_of_not_lt fun h' => h (UInt32.lt_iff_toNat_lt.2 h'))).symm

/-- While there is room in the word, counting is counting without bound. -/
theorem numbers_of_room
    {c : UInt32} {ms : List Message}
    (hc : c.toNat + ms.length < UInt32.size)
    (hms : ∀ m ∈ ms, number m + ms.length < UInt32.size) :
    (numberedFrom c ms).map number = numbersFrom c.toNat (ms.map number) ∧
      (counterFrom c ms).toNat = nextFrom c.toNat (ms.map number) := by
  induction ms generalizing c with
  | nil =>
      exact ⟨rfl, rfl⟩
  | cons m ms ih =>
      rw [List.length_cons] at hc hms
      have hm := hms m List.mem_cons_self
      have hnumber := number_numberedBy c m
      have hnext : ((numberedBy c m).sequence + 1).toNat = max (number m) c.toNat + 1 := by
        rw [← hnumber, UInt32.toNat_add]
        exact Nat.mod_eq_of_lt (by change number _ + 1 < UInt32.size; omega)
      have hroom : ((numberedBy c m).sequence + 1).toNat + ms.length < UInt32.size := by
        rw [hnext]
        omega
      have hrest : ∀ m' ∈ ms, number m' + ms.length < UInt32.size := by
        intro m' hm'
        have hroom' := hms m' (List.mem_cons_of_mem m hm')
        omega
      obtain ⟨hnumbers, hcounter⟩ := ih hroom hrest
      rw [hnext] at hnumbers hcounter
      refine ⟨?_, hcounter⟩
      rw [numberedFrom, List.map_cons, hnumber, hnumbers]
      rfl

/-- Numbers that are taken are not below the counter, and grow. -/
theorem numbersFrom_grow (c : Nat) (ns : List Nat) :
    (∀ n ∈ numbersFrom c ns, c ≤ n) ∧ (numbersFrom c ns).Pairwise (· < ·) := by
  induction ns generalizing c with
  | nil =>
      exact ⟨by simp [numbersFrom], List.Pairwise.nil⟩
  | cons n ns ih =>
      obtain ⟨hle, hgrow⟩ := ih (max n c + 1)
      refine ⟨?_, List.Pairwise.cons (fun k hk => hle k hk) hgrow⟩
      intro k hk
      rcases List.mem_cons.1 hk with rfl | hk
      · exact Nat.le_max_right n c
      · have hk := hle k hk
        omega

/-- The counter stands behind the last number that was taken. -/
theorem nextFrom_eq (c : Nat) (ns : List Nat) :
    nextFrom c ns = ((numbersFrom c ns).getLast?.map (· + 1)).getD c := by
  induction ns generalizing c with
  | nil =>
      rfl
  | cons n ns ih =>
      rw [nextFrom, ih, numbersFrom, List.getLast?_cons]
      cases (numbersFrom (max n c + 1) ns).getLast? <;> rfl

/-! ### Batches with room -/

theorem whileOpen_sublist (isOpen : Bool) (l : List Mark) :
    (whileOpen isOpen l).Sublist l := by
  induction l generalizing isOpen with
  | nil =>
      exact List.Sublist.refl []
  | cons k l ih =>
      cases isOpen with
      | false =>
          exact (ih _).cons k
      | true =>
          exact (ih _).cons_cons k

/-- The events that are taken up and those that are left make up the batch. -/
theorem Accounted.taken_append_rest
    {batch : Batch} {s : State}
    (h : Accounted batch s) :
    taken s.trace ++ s.rest = batch := by
  obtain ⟨done, marks, st, current, ms, hturns, hstage, hscript, hbatch, -⟩ := h
  have hcurrent : taken ms = current := by
    rcases hstage.took_cases with ⟨rfl, -, hnone⟩ | ⟨e, ms', rfl, rfl, hnone⟩
    · exact taken_eq_nil hnone
    · exact congrArg (e :: ·) (taken_eq_nil hnone)
  have hscripted : taken (scriptPart s.trace) = taken s.trace := by
    refine filterMap_scriptPart (fun k hk => ?_) s.trace
    cases k <;> first | rfl | cases hk
  rw [← hscripted, hscript, taken_append, hturns.taken_eq, hcurrent, hbatch]

/-- Offered messages are messages of the batch, in order. -/
theorem Accounted.offered_sublist
    {batch : Batch} {s : State}
    (h : Accounted batch s) :
    s.offered.Sublist (messages batch) := by
  have htaken : s.trace.filterMap Mark.offered? = messages (taken s.trace) :=
    List.filterMap_filterMap.symm
  have hoffered : s.offered.Sublist (messages (taken s.trace)) :=
    htaken ▸ (whileOpen_sublist false s.trace).filterMap Mark.offered?
  rw [← h.taken_append_rest, messages_append]
  exact hoffered.trans (List.sublist_append_left _ _)

/-- The numbers of the batch leave room in the word for as many more as there are messages. -/
def HasRoom (batch : Batch) : Prop :=
  ∀ m, Event.send m ∈ batch → number m + (messages batch).length < UInt32.size - 1

/-- In a batch with room the numbers of a run are counted without bound. -/
theorem numbers_of_hasRoom
    {batch : Batch}
    (h : HasRoom batch)
    (defaults : TypeSet) (moves : List Move) :
    (steps (.start defaults batch) moves).attempted.map number =
        numbersFrom 1 ((steps (.start defaults batch) moves).offered.map number) ∧
      (steps (.start defaults batch) moves).nextSequence.toNat =
        nextFrom 1 ((steps (.start defaults batch) moves).offered.map number) := by
  obtain ⟨hattempted, hcounter⟩ := tally_steps defaults batch moves
  have hoffered := (accounted_steps defaults batch moves).offered_sublist
  rw [hattempted, hcounter]
  generalize (steps (.start defaults batch) moves).offered = ms at hoffered ⊢
  have hlength := hoffered.length_le
  have hroom : ∀ m ∈ ms, number m + ms.length < UInt32.size - 1 := by
    intro m hm
    have hm := h m ((mem_messages_iff m batch).1 (hoffered.subset hm))
    omega
  have hsize : UInt32.size = 4294967296 := rfl
  refine numbers_of_room ?_ fun m hm => (hroom m hm).trans (by omega)
  cases ms with
  | nil =>
      decide
  | cons m ms =>
      have hm := hroom m List.mem_cons_self
      change 1 + (m :: ms).length < UInt32.size
      omega

/-! ### Scripts that give no numbers -/

/-- Without a message that is passed over, all messages are offered, and each has its frame. -/
theorem Turn.sends_all
    {st st' : Standing} {e : Event} {ms : List Mark}
    (h : Turn st e ms st')
    (hunsent : ∀ m, .unsent .script m ∉ ms) :
    offeredFrom st.session.isSome (.took e :: ms) = messages [e] ∧
      List.Forall₂ (fun m frame => Pdu.encode m = .ok frame)
        (attemptedFrom st.session.isSome (.took e :: ms)) (frames ms) := by
  obtain ⟨session, c⟩ := st
  cases h with
  | sent m hopen hframe =>
      obtain rfl := hopen
      exact ⟨rfl, List.Forall₂.cons hframe List.Forall₂.nil⟩
  | passedOver m hsession =>
      exact absurd List.mem_cons_self (hunsent m)
  | connected peer hsession | unreachable peer e hsession | refused peer hsession
  | disconnected result hsession | notConnected hsession | switched t enabled hsession
  | ignored t enabled hsession =>
      obtain rfl := hsession
      exact ⟨rfl, List.Forall₂.nil⟩
  | waited length | cut length =>
      cases session <;> exact ⟨rfl, List.Forall₂.nil⟩

theorem Turns.sends_all
    {st st' : Standing} {events : Batch} {marks : List Mark}
    (h : Turns st events marks st')
    (hunsent : ∀ m, .unsent .script m ∉ marks) :
    offeredFrom st.session.isSome marks = messages events ∧
      List.Forall₂ (fun m frame => Pdu.encode m = .ok frame)
        (attemptedFrom st.session.isSome marks) (frames marks) := by
  induction h with
  | nil st =>
      exact ⟨rfl, List.Forall₂.nil⟩
  | @cons st st₁ st' e ms marks events hturn hrest ih =>
      obtain ⟨hoffered, hframes⟩ := hturn.sends_all fun m hm =>
        hunsent m (List.mem_cons_of_mem _ (List.mem_append_left _ hm))
      obtain ⟨hoffered', hframes'⟩ := ih fun m hm =>
        hunsent m (List.mem_cons_of_mem _ (List.mem_append_right _ hm))
      have hsession := hturn.tally.session
      rw [← List.cons_append]
      refine ⟨?_, ?_⟩
      · rw [offeredFrom_append, hsession, hoffered, hoffered']
        exact (messages_append [e] events).symm
      · rw [attemptedFrom_append, hsession, frames_append]
        exact List.rel_append hframes hframes'

/-- All messages of the script were sent: there was a connection for each, and no sending
failed. -/
def AllSent (s : State) : Prop :=
  ∀ k ∈ scriptPart s.trace, k.isFailure = false

/-- A run that is over and has sent all messages has done all turns of its batch. -/
theorem Accounted.turns_of_allSent
    {batch : Batch} {s : State} {o : Outcome}
    (h : Accounted batch s)
    (ho : s.outcome? = some o)
    (hsent : AllSent s) :
    o = .completed ∧ ∃ marks st tail, Turns {} batch marks st ∧
      scriptPart s.trace = marks ++ tail ∧ frames tail = [] ∧
      s.nextSequence = st.nextSequence := by
  obtain ⟨done, marks, st, current, ms, hturns, hstage, hscript, hbatch, -⟩ := h
  rw [task_of_outcome? ho] at hstage
  obtain ⟨ms₀, tail, st₀, hends, rfl, htail, hnext⟩ := hstage.ends
  have hclean : ∀ k ∈ ms₀, k.isFailure = false := fun k hk =>
    hsent k (hscript ▸ List.mem_append_right _ (List.mem_append_left _ hk))
  cases hends with
  | completed hrest =>
      rw [hrest, List.append_nil, List.append_nil] at hbatch
      exact ⟨rfl, marks, st, tail, hbatch ▸ hturns, hscript, htail, hnext⟩
  | @aborted m ms cause held hopen hfails =>
      cases hfails with
      | notConnected hstate | unwritable hencode =>
          cases hclean (.unsent .script (st.numbered m)) (by simp)
      | @unsent frame e hframe =>
          cases hclean (.sendReturned .script (st.numbered m) frame (.failed e)) (by simp)

/-- A run that has sent all messages has sent each with its frame, in the order of the
batch, with the numbers that they take from one on. -/
theorem frames_of_allSent
    {defaults : TypeSet} {batch : Batch} {moves : List Move} {o : Outcome}
    (ho : (steps (.start defaults batch) moves).outcome? = some o)
    (hsent : AllSent (steps (.start defaults batch) moves)) :
    o = .completed ∧
      List.Forall₂ (fun m frame => Pdu.encode m = .ok frame) (numberedFrom 1 (messages batch))
        (frames (steps (.start defaults batch) moves).trace) ∧
      (steps (.start defaults batch) moves).nextSequence = counterFrom 1
      (messages batch) := by
  have haccount := accounted_steps defaults batch moves
  generalize steps (.start defaults batch) moves = s at haccount ho hsent ⊢
  obtain ⟨hcompleted, marks, st, tail, hturns, hscript, htail, hnext⟩ :=
    haccount.turns_of_allSent ho hsent
  have hunsent : ∀ m, .unsent .script m ∉ marks := by
    intro m hm
    cases hsent (.unsent .script m) (hscript ▸ List.mem_append_left tail hm)
  obtain ⟨hoffered, hframes⟩ := hturns.sends_all hunsent
  have hattempted := hturns.tally.attempted
  have hcounter := hturns.tally.counter
  rw [List.append_nil, hoffered] at hattempted
  rw [hoffered] at hcounter
  refine ⟨hcompleted, ?_, hnext.trans hcounter⟩
  rw [← frames_scriptPart, hscript, frames_append, htail, List.append_nil]
  exact hattempted ▸ hframes

/-- A frame has the number of its message. -/
theorem exists_header_of_encode
    {m : Message} {frame : List UInt8}
    (h : Pdu.encode m = .ok frame) :
    ∃ header, Pdu.Header.parse frame = .ok header ∧ header.sequence = m.sequence := by
  obtain ⟨body, -, rfl⟩ := Pdu.encode_eq_ok h
  refine ⟨Pdu.headerOf m body, ?_, rfl⟩
  rw [Pdu.Header.parse, (Pdu.Header.split_encode _ _).1]
  rfl

/-- **Numbers of a script that gives none.** If all its messages were sent, the frame of the
`k`-th message element is the `k`-th one and has the number `k`. -/
theorem frames_of_script
    {d : Batch.Defaults} {root : Element} {batch : Batch}
    (h : Batch.compile d root = .ok batch)
    (hauto : ∀ e ∈ root.children, e.isNamed "PDU" → e.child? Batch.sequenceName = none)
    {defaults : TypeSet} {moves : List Move} {o : Outcome}
    (ho : (steps (.start defaults batch) moves).outcome? = some o)
    (hsent : AllSent (steps (.start defaults batch) moves)) :
    (frames (steps (.start defaults batch) moves).trace).length =
        (Batch.messageElements root.children).length ∧
      (∀ k pdu, (Batch.messageElements root.children)[k]? = some pdu →
        ∃ m frame header, Batch.message d (UInt32.ofNat (k + 1)) pdu = .ok m ∧
          Pdu.encode m = .ok frame ∧
          (frames (steps (.start defaults batch) moves).trace)[k]? = some frame ∧
          Pdu.Header.parse frame = .ok header ∧ header.sequence = UInt32.ofNat (k + 1)) ∧
      (steps (.start defaults batch) moves).nextSequence =
        UInt32.ofNat ((Batch.messageElements root.children).length + 1) := by
  obtain ⟨hlength, hscript⟩ := Batch.exists_message_of_script h hauto
  obtain ⟨-, hframes, hnext⟩ := frames_of_allSent ho hsent
  -- The scripted numbers are those that the counter would give.
  have hconsecutive : ∀ k m, (messages batch)[k]? = some m →
      m.sequence = 1 + UInt32.ofNat k := by
    intro k m hm
    obtain ⟨hk, -⟩ := List.getElem?_eq_some_iff.1 hm
    rw [hlength] at hk
    obtain ⟨m', hm', -, hsequence⟩ := hscript k _ (List.getElem?_eq_getElem hk)
    obtain rfl : m = m' := Option.some.inj (hm.symm.trans hm')
    rw [hsequence, Batch.one_add_ofNat]
  obtain ⟨hkeep, hcounter⟩ := numberedFrom_of_consecutive hconsecutive
  rw [hkeep] at hframes
  refine ⟨hframes.length_eq.symm.trans hlength, ?_, ?_⟩
  · intro k pdu hpdu
    obtain ⟨m, hm, hmessage, hsequence⟩ := hscript k pdu hpdu
    obtain ⟨hk, hget⟩ := List.getElem?_eq_some_iff.1 hm
    have hframe := hframes.get hk (hframes.length_eq ▸ hk)
    rw [List.get_eq_getElem, List.get_eq_getElem, hget] at hframe
    obtain ⟨header, hheader, hnumber⟩ := exists_header_of_encode hframe
    exact ⟨m, _, header, hmessage, hframe, List.getElem?_eq_getElem _, hheader,
      hnumber.trans hsequence⟩
  · rw [hnext, hcounter, hlength, Batch.one_add_ofNat]

/-- How the messages of a batch are numbered up to a moment of a run. -/
structure Sequenced (batch : Batch) (s : State) : Prop where
  /-- The messages that are numbered are those taken up while a connection is open. -/
  offered : s.offered.Sublist (messages batch)
  /-- They are attempted as they are, but for the number. -/
  attempted : List.Forall₂ (fun m' m => m' = m.withSequence m'.sequence) s.attempted s.offered
  /-- Each takes the greater of its own number and the counter, which is one at first and
  then one more than the number taken; nothing else moves the counter. -/
  numbers : HasRoom batch →
    s.attempted.map number = numbersFrom 1 (s.offered.map number) ∧
      s.nextSequence.toNat = nextFrom 1 (s.offered.map number)
  /-- So the numbers grow. -/
  increasing : HasRoom batch → (s.attempted.map number).Pairwise (· < ·)
  /-- The report has the number behind the last one, or one without any. -/
  final : HasRoom batch → ∀ t report, s.report? t = some report →
    report.nextSequence.toNat = (s.attempted.map number).getLast?.getD 0 + 1
  /-- If the batch is that of a script that gives no numbers, and all messages were sent,
  then the frame of the `k`-th message element is the `k`-th one, and its number is `k`,
  reduced to its word. -/
  counted : ∀ d root, Batch.compile d root = .ok batch →
    (∀ e ∈ root.children, e.isNamed "PDU" → e.child? Batch.sequenceName = none) →
    ∀ t report, s.report? t = some report → AllSent s →
      (frames s.trace).length = (Batch.messageElements root.children).length ∧
      (∀ k pdu, (Batch.messageElements root.children)[k]? = some pdu →
        ∃ m frame header, Batch.message d (UInt32.ofNat (k + 1)) pdu = .ok m ∧
          Pdu.encode m = .ok frame ∧ (frames s.trace)[k]? = some frame ∧
          Pdu.Header.parse frame = .ok header ∧ header.sequence = UInt32.ofNat (k + 1)) ∧
      report.nextSequence = UInt32.ofNat ((Batch.messageElements root.children).length + 1)

/-- **The numbers of a script's messages**, at every moment of every run. -/
theorem sequenced_steps (defaults : TypeSet) (batch : Batch) (moves : List Move) :
    Sequenced batch (steps (.start defaults batch) moves) := by
  have hnumbers := fun h : HasRoom batch => numbers_of_hasRoom h defaults moves
  refine ⟨(accounted_steps defaults batch moves).offered_sublist, ?_, hnumbers, ?_, ?_, ?_⟩
  · rw [(tally_steps defaults batch moves).1]
    exact forall₂_numberedFrom 1 _
  · intro h
    rw [(hnumbers h).1]
    exact (numbersFrom_grow 1 _).2
  · intro h t report hreport
    rw [(report?_eq_some hreport).2.2, (hnumbers h).1, (hnumbers h).2, nextFrom_eq]
    cases (numbersFrom 1 _).getLast? <;> rfl
  · intro d root hcompile hauto t report hreport hsent
    obtain ⟨o, ho, rfl⟩ := Option.map_eq_some_iff.1 hreport
    exact frames_of_script hcompile hauto ho hsent

/-- Messages without a connection, with a number ahead of the counter, with one behind it,
and with the same one. -/
def staleBatch : Batch :=
  [.send ((Message.new .unbind).withSequence 9), .connect ⟨"h", 1⟩,
    .send ((Message.new .enquireLink).withSequence 3),
    .send ((Message.new .enquireLink).withSequence 1),
    .send ((Message.new .unbind).withSequence 5)]

/-- A script of two messages that give no numbers. -/
def plainScript : Element :=
  .mk "Batch" [] "" [.mk "Connect" [] "" [.mk "Server" [] "" []],
    .mk "PDU" [("type", "ENQUIRE_LINK")] "" [], .mk "Note" [] "" [],
    .mk "PDU" [("type", "UNBIND")] "" []]

/-- The moves with which a connection is opened, some messages are sent, and the run ends. -/
def smoothMoves (n : Nat) : List Move :=
  [.proceed, .opened .ok] ++
    (List.replicate n [.proceed, .state .connected, .sent .ok, .reported]).flatten ++
    [.proceed, .closed .ok]

/-- A message without a connection leaves the counter alone, and one behind the counter
takes its number; two messages without numbers are sent with one and two. -/
theorem sequenced_smoothly :
    (HasRoom staleBatch ∧
      (steps (.start .empty staleBatch) (.proceed :: smoothMoves 3)).attempted.map number =
        [3, 4, 5] ∧
      (steps (.start .empty staleBatch) (.proceed :: smoothMoves 3)).nextSequence.toNat = 6) ∧
    ∃ batch report, Batch.compile {} plainScript = .ok batch ∧
      AllSent (steps (.start .empty batch) (smoothMoves 2)) ∧
      (steps (.start .empty batch) (smoothMoves 2)).report? 0 = some report ∧
      (frames (steps (.start .empty batch) (smoothMoves 2)).trace).length = 2 ∧
      report.nextSequence = 3 := by
  constructor
  · have hroom : HasRoom staleBatch := by
      intro m hm
      rw [← mem_messages_iff] at hm
      revert m
      decide
    have hnumbers :=
      (sequenced_steps .empty staleBatch (.proceed :: smoothMoves 3)).numbers hroom
    exact ⟨hroom, hnumbers.1.trans (by decide +kernel), hnumbers.2.trans (by decide +kernel)⟩
  · have hcompile : Batch.compile {} plainScript = .ok [.connect ⟨"localhost", 2775⟩,
        .send ((Message.new .enquireLink).withSequence 1),
        .send ((Message.new .unbind).withSequence 2)] := by
      decide +kernel
    have hsent : AllSent (steps (.start .empty [.connect ⟨"localhost", 2775⟩,
        .send ((Message.new .enquireLink).withSequence 1),
        .send ((Message.new .unbind).withSequence 2)]) (smoothMoves 2)) := by
      unfold AllSent
      decide +kernel
    obtain ⟨hlength, -, hnext⟩ :=
      (sequenced_steps .empty _ (smoothMoves 2)).counted {} plainScript
      hcompile (by decide +kernel) 0 _ rfl hsent
    exact ⟨_, _, hcompile, hsent, rfl, hlength.trans (by decide +kernel),
      hnext.trans (by decide +kernel)⟩

end Replay
end SmppReplay
