import SmppReplay.Proofs.Replay.Account

/-!
# The calls of a run, block by block

The calls of the script on connections are taken out of the trace (`calls`).  A block is an
opening that fails, or one that succeeds, then the use of the connection, and then its
closing (`Block`).  Finished blocks and an unfinished one are told apart by counting what
begins and what ends.

Main facts:
* `Turns.settled`: between two turns the calls are finished blocks if there is no
  connection, and one is unfinished if there is one;
* `Accounted.calls_cases`: at every moment the calls are finished blocks, or there is a
  connection.
-/

namespace SmppReplay
namespace Replay

open Transport (ConnectionState Endpoint Result)

/-! ### Calls and blocks -/

/-- The mark is a call of the script on a connection, or the return of one. -/
def Mark.isCall : Mark → Bool
  | .openCalled _ => true
  | .openReturned _ _ => true
  | .stateReturned _ => true
  | .sendCalled side _ _ => side == .script
  | .sendReturned side _ _ _ => side == .script
  | .closeCalled => true
  | .closeReturned _ => true
  | _ => false

/-- The calls of the script on connections. -/
def calls (trace : List Mark) : List Mark :=
  trace.filter Mark.isCall

@[simp] theorem calls_append (l l' : List Mark) :
    calls (l ++ l') = calls l ++ calls l' :=
  List.filter_append l l'

@[simp] theorem calls_scriptPart (l : List Mark) :
    calls (scriptPart l) = calls l := by
  have hcall : ∀ k : Mark, (k.isCall && k.isScript) = k.isCall := by
    intro k
    cases k <;> simp [Mark.isCall, Mark.isScript]
  simp only [calls, scriptPart, List.filter_filter, hcall]

/-- The script asks for the state of the connection, or hands over a message. -/
inductive Mark.IsUse : Mark → Prop
  | state (state : ConnectionState) : IsUse (.stateReturned state)
  | handed (m : Message) (frame : List UInt8) : IsUse (.sendCalled .script m frame)
  | returned (m : Message) (frame : List UInt8) (result : Result) :
      IsUse (.sendReturned .script m frame result)

attribute [simp] Mark.IsUse.state Mark.IsUse.handed Mark.IsUse.returned

/-- An opening that fails, or a connection from its opening to its closing. -/
inductive Block : List Mark → Prop
  | failed (peer : Endpoint) (e : Transport.Error) :
      Block [.openCalled peer, .openReturned peer (.failed e)]
  | closed (peer : Endpoint) {uses : List Mark} (huses : ∀ u ∈ uses, u.IsUse)
      (result : Result) :
      Block (.openCalled peer :: .openReturned peer .ok ::
        (uses ++ [.closeCalled, .closeReturned result]))

/-- A block that is not finished. -/
inductive Unfinished : List Mark → Prop
  | opening (peer : Endpoint) : Unfinished [.openCalled peer]
  | opened (peer : Endpoint) {uses : List Mark} (huses : ∀ u ∈ uses, u.IsUse) :
      Unfinished (.openCalled peer :: .openReturned peer .ok :: uses)
  | closing (peer : Endpoint) {uses : List Mark} (huses : ∀ u ∈ uses, u.IsUse) :
      Unfinished (.openCalled peer :: .openReturned peer .ok :: (uses ++ [.closeCalled]))

/-- Blocks one after the other. -/
inductive Blocks : List Mark → Prop
  | nil : Blocks []
  | snoc {l b : List Mark} (h : Blocks l) (hblock : Block b) : Blocks (l ++ b)

/-- Blocks and an unfinished one behind them. -/
inductive Midway : List Mark → Prop
  | mk {l b : List Mark} (h : Blocks l) (hb : Unfinished b) : Midway (l ++ b)

/-! ### Blocks are told apart by counting -/

/-- A connection begins to be opened. -/
def Mark.isOpening : Mark → Bool
  | .openCalled _ => true
  | _ => false

/-- There is no connection any more. -/
def Mark.isRelease : Mark → Bool
  | .openReturned _ (.failed _) => true
  | .closeReturned _ => true
  | _ => false

theorem countP_uses
    {p : Mark → Bool} {uses : List Mark}
    (hp : ∀ u : Mark, u.IsUse → p u = false)
    (huses : ∀ u ∈ uses, u.IsUse) :
    uses.countP p = 0 := by
  rw [List.countP_eq_zero]
  intro u hu
  rw [hp u (huses u hu)]
  exact Bool.false_ne_true

theorem isOpening_of_isUse {u : Mark} (h : u.IsUse) : u.isOpening = false := by
  cases h <;> rfl

theorem isRelease_of_isUse {u : Mark} (h : u.IsUse) : u.isRelease = false := by
  cases h <;> rfl

theorem Block.countP_eq
    {b : List Mark}
    (h : Block b) :
    b.countP Mark.isOpening = b.countP Mark.isRelease := by
  cases h with
  | failed peer e =>
      rfl
  | closed peer huses result =>
      have hopen := countP_uses (fun _ => isOpening_of_isUse) huses
      have hrelease := countP_uses (fun _ => isRelease_of_isUse) huses
      simp [List.countP_cons, List.countP_append, hopen, hrelease, Mark.isOpening,
        Mark.isRelease]

theorem Unfinished.countP_eq
    {b : List Mark}
    (h : Unfinished b) :
    b.countP Mark.isOpening = b.countP Mark.isRelease + 1 := by
  cases h with
  | opening peer =>
      rfl
  | opened peer huses | closing peer huses =>
      have hopen := countP_uses (fun _ => isOpening_of_isUse) huses
      have hrelease := countP_uses (fun _ => isRelease_of_isUse) huses
      simp [List.countP_cons, List.countP_append, hopen, hrelease, Mark.isOpening,
        Mark.isRelease]

theorem Blocks.countP_eq
    {l : List Mark}
    (h : Blocks l) :
    l.countP Mark.isOpening = l.countP Mark.isRelease := by
  induction h with
  | nil =>
      rfl
  | snoc hl hblock ih =>
      rw [List.countP_append, List.countP_append, ih, hblock.countP_eq]

/-- Calls that are finished blocks do not have an unfinished one. -/
theorem Blocks.not_midway
    {l : List Mark}
    (h : Blocks l) :
    ¬ Midway l := by
  rintro ⟨hl, hb⟩
  have hcount := h.countP_eq
  rw [List.countP_append, List.countP_append, hl.countP_eq, hb.countP_eq] at hcount
  omega

/-! ### Turns and stages -/

/-- The calls between two turns: blocks, and behind them the use of the connection if there
is one. -/
inductive Settled : Option Endpoint → List Mark → Prop
  | idle {l : List Mark} (h : Blocks l) : Settled none l
  | held (peer : Endpoint) {l uses : List Mark} (h : Blocks l) (huses : ∀ u ∈ uses, u.IsUse) :
      Settled (some peer) (l ++ .openCalled peer :: .openReturned peer .ok :: uses)

namespace Settled

variable {peer : Endpoint} {l : List Mark}

theorem blocks
    (h : Settled none l) :
    Blocks l := by
  cases h with
  | idle hl =>
      exact hl

theorem midway
    (h : Settled (some peer) l) :
    Midway l := by
  cases h with
  | held _ hl huses =>
      exact ⟨hl, Unfinished.opened peer huses⟩

theorem eq_none
    {session : Option Endpoint}
    (h : Settled session l)
    (hl : Blocks l) :
    session = none := by
  cases session with
  | none =>
      rfl
  | some peer =>
      exact absurd h.midway hl.not_midway

theorem ne_none
    {session : Option Endpoint}
    (h : Settled session l)
    (hl : Midway l) :
    session ≠ none := by
  rintro rfl
  exact h.blocks.not_midway hl

theorem use
    {more : List Mark}
    (h : Settled (some peer) l)
    (hmore : ∀ u ∈ more, u.IsUse) :
    Settled (some peer) (l ++ more) := by
  cases h with
  | @held _ l uses hl huses =>
      have hall : ∀ u ∈ uses ++ more, u.IsUse := by
        intro u hu
        exact (List.mem_append.1 hu).elim (huses u) (hmore u)
      have hheld := Settled.held peer hl hall
      rw [List.append_assoc, List.cons_append, List.cons_append]
      exact hheld

theorem closing
    (h : Settled (some peer) l) :
    Midway (l ++ [.closeCalled]) := by
  cases h with
  | @held _ l uses hl huses =>
      have hmidway := Midway.mk hl (Unfinished.closing peer huses)
      rw [List.append_assoc, List.cons_append, List.cons_append]
      exact hmidway

theorem closed
    (h : Settled (some peer) l)
    (result : Result) :
    Blocks (l ++ [.closeCalled, .closeReturned result]) := by
  cases h with
  | @held _ l uses hl huses =>
      have hblocks := Blocks.snoc hl (Block.closed peer huses result)
      rw [List.append_assoc, List.cons_append, List.cons_append]
      exact hblocks

end Settled

theorem Turn.settled
    {st st' : Standing} {e : Event} {ms l : List Mark}
    (h : Turn st e ms st')
    (hl : Settled st.session l) :
    Settled st'.session (l ++ calls ms) := by
  cases h with
  | connected peer hidle =>
      rw [hidle] at hl
      exact Settled.held peer hl.blocks (List.forall_mem_nil Mark.IsUse)
  | unreachable peer e hidle =>
      rw [hidle] at hl ⊢
      exact Settled.idle (hl.blocks.snoc (Block.failed peer e))
  | disconnected result hopen =>
      rw [hopen] at hl
      exact Settled.idle (hl.closed result)
  | @sent m frame held hopen hframe =>
      have huses : ∀ u ∈ [Mark.stateReturned .connected,
        Mark.sendCalled .script (st.numbered m) frame,
          Mark.sendReturned .script (st.numbered m) frame .ok], u.IsUse := by
        simp
      change Settled st.session _
      rw [hopen] at hl ⊢
      exact hl.use huses
  | refused | notConnected | passedOver | waited | cut | switched | ignored =>
      exact (List.append_nil l).symm ▸ hl

theorem Turns.settled
    {st st' : Standing} {events : Batch} {marks l : List Mark}
    (h : Turns st events marks st')
    (hl : Settled st.session l) :
    Settled st'.session (l ++ calls marks) := by
  induction h generalizing l with
  | nil st =>
      exact (List.append_nil l).symm ▸ hl
  | @cons _ _ _ e ms marks _ hturn _ ih =>
      have hcalls : calls (.took e :: (ms ++ marks)) = calls ms ++ calls marks :=
        calls_append ms marks
      rw [hcalls, ← List.append_assoc]
      exact ih (hturn.settled hl)

theorem Turns.settled_start
    {st : Standing} {events : Batch} {front : List Mark}
    (h : Turns {} events (scriptPart front) st) :
    Settled st.session (calls front) := by
  have hsettled : Settled st.session ([] ++ calls (scriptPart front)) :=
    h.settled (Settled.idle Blocks.nil)
  rw [List.nil_append, calls_scriptPart] at hsettled
  exact hsettled

/-- The script waits for a connection to be opened or closed, or there is one. -/
def linked (task : Task) (session : Option Endpoint) : Bool :=
  match task with
  | .opening _ => true
  | .closing => true
  | .finishing _ => true
  | .finished _ => false
  | _ => session.isSome

/-- A message that fails uses the connection. -/
theorem Fails.calls_isUse
    {st : Standing} {m : Message} {ms : List Mark} {cause : String}
    (h : Fails st m ms cause) :
    ∀ u ∈ calls ms, u.IsUse := by
  cases h <;> simp [calls, Mark.isCall]

theorem Ends.settled
    {st st' : Standing} {rest current : Batch} {ms l : List Mark} {o : Outcome}
    (h : Ends st rest current ms o st')
    (hl : Settled st.session l) :
    Settled st'.session (l ++ calls ms) := by
  cases h with
  | completed =>
      exact (List.append_nil l).symm ▸ hl
  | @aborted m ms cause held hopen hfails =>
      have huses := hfails.calls_isUse
      have hcalls : calls (.took (.send m) :: (ms ++
          [.logged .script (.sendFailed (st.numbered m) cause)])) = calls ms := by
        rw [← List.cons_append, calls_append]
        exact List.append_nil _
      rw [hcalls]
      change Settled st.session _
      rw [hopen] at hl ⊢
      exact hl.use huses

theorem Settled.cases
    {session : Option Endpoint} {l : List Mark}
    (h : Settled session l) :
    (session.isSome = true ∧ Midway l) ∨ (session.isSome = false ∧ Blocks l) := by
  cases session with
  | none =>
      exact .inr ⟨rfl, h.blocks⟩
  | some peer =>
      exact .inl ⟨rfl, h.midway⟩

/-- A block is unfinished as long as there is a connection, from its opening to its closing. -/
theorem Stage.calls_cases
    {st st' : Standing} {rest current : Batch} {ms l : List Mark} {task : Task}
    (h : Stage st rest current ms task st')
    (hl : Settled st.session l) :
    (linked task st'.session = true ∧ Midway (l ++ calls ms)) ∨
      (linked task st'.session = false ∧ Blocks (l ++ calls ms)) := by
  cases h with
  | ready | entering | pausing =>
      have hcases := hl.cases
      rw [← List.append_nil l] at hcases
      exact hcases
  | leaving length cut =>
      have hcalls : calls (.took (.pause length) :: .pauseStarted length :: .pauseEntered ::
          .pauseEnded cut :: cutEntries cut) = [] := by
        cases cut <;> rfl
      rw [hcalls, List.append_nil]
      exact hl.cases
  | opening peer hidle =>
      rw [hidle] at hl
      exact .inl ⟨rfl, Midway.mk hl.blocks (Unfinished.opening peer)⟩
  | asking m hopen =>
      have hcases := hl.cases
      rw [← List.append_nil l] at hcases
      exact hcases
  | @sending m frame held hopen hframe =>
      have huses : ∀ u ∈ [Mark.stateReturned .connected,
          Mark.sendCalled .script (st.numbered m) frame], u.IsUse := by
        simp
      change (linked _ st.session = true ∧ _) ∨ _
      rw [hopen] at hl ⊢
      exact .inl ⟨rfl, (hl.use huses).midway⟩
  | @sent m frame held hopen hframe =>
      have huses : ∀ u ∈ [Mark.stateReturned .connected,
          Mark.sendCalled .script (st.numbered m) frame,
          Mark.sendReturned .script (st.numbered m) frame .ok], u.IsUse := by
        simp
      change (linked _ st.session = true ∧ _) ∨ _
      rw [hopen] at hl ⊢
      exact .inl ⟨rfl, (hl.use huses).midway⟩
  | @failed m ms cause held hopen hfails =>
      have huses := hfails.calls_isUse
      change (linked _ st.session = true ∧ Midway (l ++ calls ms)) ∨ _
      rw [hopen] at hl ⊢
      exact .inl ⟨rfl, (hl.use huses).midway⟩
  | closing hopen =>
      rw [hopen] at hl
      exact .inl ⟨rfl, hl.closing⟩
  | finishing hends hopen =>
      have hsettled := hends.settled hl
      rw [hopen] at hsettled
      rw [calls_append, ← List.append_assoc]
      exact .inl ⟨rfl, hsettled.closing⟩
  | closed result hends hopen =>
      have hsettled := hends.settled hl
      rw [hopen] at hsettled
      rw [calls_append, ← List.append_assoc]
      exact .inr ⟨rfl, hsettled.closed result⟩
  | finished hends hidle =>
      have hsettled := hends.settled hl
      rw [hidle] at hsettled ⊢
      exact .inr ⟨rfl, hsettled.blocks⟩

theorem Accounted.calls_cases
    {batch : Batch} {s : State}
    (h : Accounted batch s) :
    (linked s.task s.session = true ∧ Midway (calls s.trace)) ∨
      (linked s.task s.session = false ∧ Blocks (calls s.trace)) := by
  obtain ⟨done, marks, st, current, ms, hturns, hstage, hscript, -, -⟩ := h
  have hsettled : Settled st.session ([] ++ calls marks) :=
    hturns.settled (Settled.idle Blocks.nil)
  have hcases := hstage.calls_cases hsettled
  rw [List.nil_append, ← calls_append, ← hscript, calls_scriptPart] at hcases
  exact hcases

theorem linked_of_outcome
    {s : State}
    (h : s.outcome?.isSome = true) :
    linked s.task s.session = false := by
  obtain ⟨o, ho⟩ := Option.isSome_iff_exists.1 h
  rw [task_of_outcome? ho]
  rfl

/-- While a connection is opened or closed, there is none. -/
theorem Accounted.session_eq_none
    {batch : Batch} {s : State}
    (h : Accounted batch s)
    (hlinked : linked s.task none = true) :
    s.session = none := by
  obtain ⟨done, marks, st, current, ms, -, hstage, -, -, -⟩ := h
  change s.standing.session = none
  generalize s.standing = st' at hstage
  generalize s.task = task at hstage hlinked
  cases hstage with
  | opening peer hidle =>
      exact hidle
  | closing | finishing =>
      rfl
  | ready | asking | sending | sent | failed | entering | pausing | leaving | closed
  | finished =>
      exact absurd hlinked Bool.false_ne_true

end Replay
end SmppReplay
