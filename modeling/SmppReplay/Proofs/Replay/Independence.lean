import SmppReplay.Proofs.Replay.Account

/-!
# What arrives does not influence the script

**Question.** Two runs of one batch have the same answers to what the script asks of
connections: whether they could be opened, what they say about their state, whether a
message was sent, how they were closed.  Frames arrive at different times, replies fail or
not, connections break and pauses are cut short in different ways.  Can the script tell the
runs apart?

It cannot: it hands over the same frames in the same order and reports the same.

**Method.** The turns of the script are compared one by one: where the script stands and the
answers within a turn decide its frames and where it stands then (`Turn.same`).  Behind the
turns that both runs have done, the one that is behind is at a stage, and a stage has no
frame that its turn does not have.

Main fact:
* `consistent_of_sameAnswers`: the frames and the reports of two runs with the same answers.
-/

namespace SmppReplay
namespace Replay

open Transcript (Entry)
open Transport (ConnectionState Endpoint Result)

/-! ### Answers and frames -/

/-- What the script asks of connections. -/
inductive Operation where
  | opening
  | asking
  | sending
  | closing

/-- What it is told. -/
inductive Answer where
  | result (result : Result)
  | state (state : ConnectionState)
  deriving DecidableEq

/-- The answer to an operation of the script. -/
def Mark.answer? : Operation → Mark → Option Answer
  | .opening, .openReturned _ result => some (.result result)
  | .asking, .stateReturned state => some (.state state)
  | .sending, .sendReturned .script _ _ result => some (.result result)
  | .closing, .closeReturned result => some (.result result)
  | _, _ => none

/-- The answers to an operation, in order. -/
def answers (op : Operation) (trace : List Mark) : List Answer :=
  trace.filterMap fun k => k.answer? op

/-- The frame that the script hands over for sending. -/
def Mark.frame? : Mark → Option (List UInt8)
  | .sendCalled .script _ frame => some frame
  | _ => none

/-- The frames that the script handed over, in order. -/
def frames (trace : List Mark) : List (List UInt8) :=
  trace.filterMap Mark.frame?

/-- Where both traces have an answer to an operation, it is the same. -/
def SameAnswers (trace trace' : List Mark) : Prop :=
  ∀ (op : Operation) (j : Nat) (a b : Answer),
    (answers op trace)[j]? = some a → (answers op trace')[j]? = some b → a = b

/-- The traces have the same frames and the same answers. -/
def Alike (trace trace' : List Mark) : Prop :=
  frames trace = frames trace' ∧ ∀ op, answers op trace = answers op trace'

@[simp] theorem answers_append (op : Operation) (l l' : List Mark) :
    answers op (l ++ l') = answers op l ++ answers op l' :=
  List.filterMap_append

@[simp] theorem answers_took (op : Operation) (e : Event) (l : List Mark) :
    answers op (.took e :: l) = answers op l := by
  cases op <;> rfl

@[simp] theorem frames_append (l l' : List Mark) :
    frames (l ++ l') = frames l ++ frames l' :=
  List.filterMap_append

theorem filterMap_scriptPart
    {β : Type} {f : Mark → Option β}
    (hf : ∀ k : Mark, k.isScript = false → f k = none)
    (l : List Mark) :
    (scriptPart l).filterMap f = l.filterMap f := by
  have hfilter : ∀ k : Mark, (if k.isScript then f k else none) = f k := by
    intro k
    cases hk : k.isScript with
    | false =>
        rw [hf k hk]
        rfl
    | true =>
        rfl
  rw [scriptPart, List.filterMap_filter]
  simp only [hfilter]

theorem answers_scriptPart (op : Operation) (l : List Mark) :
    answers op (scriptPart l) = answers op l := by
  refine filterMap_scriptPart ?_ l
  intro k hk
  cases k with
  | openReturned | stateReturned | closeReturned =>
      cases hk
  | sendReturned side m frame result =>
      cases side with
      | script =>
          cases hk
      | inbound =>
          cases op <;> rfl
  | _ =>
      cases op <;> rfl

theorem frames_scriptPart (l : List Mark) :
    frames (scriptPart l) = frames l := by
  refine filterMap_scriptPart ?_ l
  intro k hk
  cases k with
  | sendCalled side m frame =>
      cases side with
      | script =>
          cases hk
      | inbound =>
          rfl
  | _ =>
      rfl

namespace SameAnswers

variable {l l' r r' : List Mark}

theorem symm
    (h : SameAnswers l l') :
    SameAnswers l' l := by
  intro op j a b ha hb
  exact (h op j b a hb ha).symm

theorem of_eq
    (h : ∀ op, answers op l = answers op l') :
    SameAnswers l l' := by
  intro op j a b ha hb
  rw [h op, hb] at ha
  exact (Option.some.inj ha).symm

theorem of_took
    {e e' : Event}
    (h : SameAnswers (.took e :: l) (.took e' :: l')) :
    SameAnswers l l' := by
  intro op j a b ha hb
  refine h op j a b ?_ ?_
  · rw [answers_took, ha]
  · rw [answers_took, hb]

theorem of_append
    (h : SameAnswers (l ++ r) (l' ++ r')) :
    SameAnswers l l' := by
  intro op j a b ha hb
  have hlt : j < (answers op l).length := (List.getElem?_eq_some_iff.1 ha).1
  have hlt' : j < (answers op l').length := (List.getElem?_eq_some_iff.1 hb).1
  refine h op j a b ?_ ?_
  · rw [answers_append, List.getElem?_append_left hlt, ha]
  · rw [answers_append, List.getElem?_append_left hlt', hb]

/-- Behind traces with the same answers, the same answers come next. -/
theorem of_append_alike
    (h : SameAnswers (l ++ r) (l' ++ r'))
    (hl : Alike l l') :
    SameAnswers r r' := by
  intro op j a b ha hb
  refine h op ((answers op l).length + j) a b ?_ ?_
  · rw [answers_append, List.getElem?_append_right (Nat.le_add_right _ _),
      Nat.add_sub_cancel_left, ha]
  · rw [answers_append, hl.2 op, List.getElem?_append_right (Nat.le_add_right _ _),
      Nat.add_sub_cancel_left, hb]

end SameAnswers

namespace Alike

variable {l l' r r' : List Mark}

theorem refl (l : List Mark) :
    Alike l l :=
  ⟨rfl, fun _ => rfl⟩

theorem append
    (h : Alike l l')
    (hr : Alike r r') :
    Alike (l ++ r) (l' ++ r') := by
  refine ⟨?_, fun op => ?_⟩
  · rw [frames_append, frames_append, h.1, hr.1]
  · rw [answers_append, answers_append, h.2 op, hr.2 op]

end Alike

/-! ### One turn -/

section

variable {st st₁ st₂ : Standing} {ms ms' : List Mark}

/-- The answers within a turn decide its frames and where the script stands behind it. -/
theorem Turn.same
    {e : Event}
    (h : Turn st e ms st₁)
    (h' : Turn st e ms' st₂)
    (hsame : SameAnswers ms ms') :
    st₁ = st₂ ∧ Alike ms ms' := by
  cases h with
  | connected peer hidle =>
      cases h' with
      | connected =>
          exact ⟨rfl, Alike.refl _⟩
      | unreachable =>
          exact absurd (hsame .opening 0 _ _ rfl rfl) (by simp)
      | refused _ hopen =>
          simp [hidle] at hopen
  | unreachable peer e hidle =>
      cases h' with
      | connected =>
          exact absurd (hsame .opening 0 _ _ rfl rfl) (by simp)
      | unreachable _ e' =>
          have he : Answer.result (.failed e) = .result (.failed e') :=
            hsame .opening 0 _ _ rfl rfl
          cases he
          exact ⟨rfl, Alike.refl _⟩
      | refused _ hopen =>
          simp [hidle] at hopen
  | refused peer hopen =>
      cases h' with
      | connected _ hidle | unreachable _ _ hidle =>
          simp [hidle] at hopen
      | refused =>
          exact ⟨rfl, Alike.refl _⟩
  | disconnected result hopen =>
      cases h' with
      | disconnected result' =>
          have hresult : Answer.result result = .result result' :=
            hsame .closing 0 _ _ rfl rfl
          cases hresult
          exact ⟨rfl, Alike.refl _⟩
      | notConnected hidle =>
          simp [hidle] at hopen
  | notConnected hidle =>
      cases h' with
      | disconnected _ hopen =>
          simp [hidle] at hopen
      | notConnected =>
          exact ⟨rfl, Alike.refl _⟩
  | sent m hopen hframe =>
      cases h' with
      | sent _ _ hframe' =>
          cases hframe.symm.trans hframe'
          exact ⟨rfl, Alike.refl _⟩
      | passedOver _ hidle =>
          simp [hidle] at hopen
  | passedOver m hidle =>
      cases h' with
      | sent _ hopen =>
          simp [hidle] at hopen
      | passedOver =>
          exact ⟨rfl, Alike.refl _⟩
  | waited length | cut length =>
      -- How a pause ends is no answer and no frame.
      cases h' <;> exact ⟨rfl, rfl, fun op => by cases op <;> rfl⟩
  | switched t enabled hopen =>
      cases h' with
      | switched =>
          exact ⟨rfl, Alike.refl _⟩
      | ignored _ _ hidle =>
          simp [hidle] at hopen
  | ignored t enabled hidle =>
      cases h' with
      | switched _ _ hopen =>
          simp [hidle] at hopen
      | ignored =>
          exact ⟨rfl, Alike.refl _⟩

theorem Turns.same
    {events : Batch} {marks marks' : List Mark}
    (h : Turns st events marks st₁)
    (h' : Turns st events marks' st₂)
    (hsame : SameAnswers marks marks') :
    st₁ = st₂ ∧ Alike marks marks' := by
  induction h generalizing marks' with
  | nil st =>
      cases h'
      exact ⟨rfl, Alike.refl _⟩
  | @cons _ _ _ e ms marks _ hturn _ ih =>
      cases h' with
      | @cons _ _ _ _ ms' marks' _ hturn' hrest' =>
          have htail : SameAnswers (ms ++ marks) (ms' ++ marks') := hsame.of_took
          obtain ⟨rfl, halike⟩ := hturn.same hturn' htail.of_append
          obtain ⟨rfl, halike'⟩ := ih hrest' (htail.of_append_alike halike)
          exact ⟨rfl, (Alike.refl [.took e]).append (halike.append halike')⟩

/-! ### Stages -/

/-- The frames are that of the message of an event, which is sent over an open connection,
or none. -/
inductive Sends (st : Standing) : Batch → List (List UInt8) → Prop
  | none (events : Batch) : Sends st events []
  | one {m : Message} {frame : List UInt8} (hopen : st.session ≠ Option.none)
      (hframe : Pdu.encode (st.numbered m) = .ok frame) : Sends st [.send m] [frame]

theorem Fails.sends
    {m : Message} {cause : String} {held : Endpoint}
    (h : Fails st m ms cause)
    (hopen : st.session = some held) :
    Sends st [.send m] (frames ms) := by
  cases h with
  | notConnected | unwritable =>
      exact Sends.none _
  | unsent hframe =>
      exact Sends.one (by simp [hopen]) hframe

theorem Ends.sends
    {rest current : Batch} {o : Outcome}
    (h : Ends st rest current ms o st₁) :
    Sends st current (frames ms) := by
  cases h with
  | completed =>
      exact Sends.none _
  | @aborted m ms cause held hopen hfails =>
      have hframes : frames (.took (.send m) :: (ms ++
          [.logged .script (.sendFailed (st.numbered m) cause)])) = frames ms := by
        change frames (ms ++ _) = _
        rw [frames_append]
        exact List.append_nil _
      rw [hframes]
      exact hfails.sends hopen

theorem Stage.sends
    {rest current : Batch} {task : Task}
    (h : Stage st rest current ms task st₁) :
    Sends st current (frames ms) := by
  cases h with
  | ready | opening | asking | closing | entering | pausing =>
      exact Sends.none _
  | sending m hopen hframe | sent m hopen hframe =>
      exact Sends.one (by simp [hopen]) hframe
  | failed hopen hfails =>
      exact hfails.sends hopen
  | leaving length cut =>
      cases cut <;> exact Sends.none _
  | finishing hends hopen =>
      rw [frames_append]
      exact (List.append_nil _).symm ▸ hends.sends
  | closed result hends hopen =>
      rw [frames_append]
      exact (List.append_nil _).symm ▸ hends.sends
  | finished hends hidle =>
      exact hends.sends

/-- Frames of one message are its frames in each run that has some. -/
theorem Sends.comparable
    {current current' rest rest' : Batch} {fs fs' : List (List UInt8)}
    (h : Sends st current fs)
    (h' : Sends st current' fs')
    (hbatch : current ++ rest = current' ++ rest') :
    fs <+: fs' ∨ fs' <+: fs := by
  cases h with
  | none =>
      exact .inl List.nil_prefix
  | one hopen hframe =>
      cases h' with
      | none =>
          exact .inr List.nil_prefix
      | one hopen' hframe' =>
          cases hbatch
          cases hframe.symm.trans hframe'
          exact .inl (List.prefix_refl _)

/-- What a stage sends its whole turn sends. -/
theorem Sends.prefix_turn
    {current rest events : Batch} {e : Event} {fs : List (List UInt8)}
    (h : Sends st current fs)
    (hturn : Turn st e ms st₁)
    (hbatch : current ++ rest = e :: events) :
    fs <+: frames ms := by
  cases h with
  | none =>
      exact List.nil_prefix
  | one hopen hframe =>
      cases hbatch
      cases hturn with
      | sent _ _ hframe' =>
          cases hframe.symm.trans hframe'
          exact List.prefix_refl _
      | passedOver _ hidle =>
          exact absurd hidle hopen

/-! ### Ends -/

/-- The answers decide why a message is not sent. -/
theorem Fails.same
    {m : Message} {cause cause' : String}
    (h : Fails st m ms cause)
    (h' : Fails st m ms' cause')
    (hsame : SameAnswers ms ms') :
    cause = cause' ∧ frames ms = frames ms' := by
  cases h with
  | notConnected hstate =>
      cases h' with
      | notConnected =>
          cases hsame .asking 0 _ _ rfl rfl
          exact ⟨rfl, rfl⟩
      | unwritable | unsent =>
          cases hsame .asking 0 _ _ rfl rfl
          exact absurd rfl hstate
  | unwritable he =>
      cases h' with
      | notConnected hstate =>
          cases hsame .asking 0 _ _ rfl rfl
          exact absurd rfl hstate
      | unwritable he' =>
          cases he.symm.trans he'
          exact ⟨rfl, rfl⟩
      | unsent hframe =>
          cases he.symm.trans hframe
  | unsent hframe =>
      cases h' with
      | notConnected hstate =>
          cases hsame .asking 0 _ _ rfl rfl
          exact absurd rfl hstate
      | unwritable he =>
          cases he.symm.trans hframe
      | unsent hframe' =>
          cases hframe.symm.trans hframe'
          cases hsame .sending 0 _ _ rfl rfl
          exact ⟨rfl, rfl⟩

/-- A message that was sent in one run did not fail in the other. -/
theorem Fails.not_sent
    {m : Message} {cause : String}
    (h : Fails st m ms cause)
    (hopen : st.session ≠ none)
    (hturn : Turn st (.send m) ms' st₁) :
    ¬ SameAnswers ms ms' := by
  intro hsame
  cases hturn with
  | passedOver _ hidle =>
      exact hopen hidle
  | sent _ _ hframe' =>
      cases h with
      | notConnected hstate =>
          cases hsame .asking 0 _ _ rfl rfl
          exact hstate rfl
      | unwritable he =>
          cases he.symm.trans hframe'
      | unsent hframe =>
          cases hsame .sending 0 _ _ rfl rfl

theorem Ends.same
    {rest rest' current current' : Batch} {o o' : Outcome}
    (h : Ends st rest current ms o st₁)
    (h' : Ends st rest' current' ms' o' st₂)
    (hbatch : current ++ rest = current' ++ rest')
    (hsame : SameAnswers ms ms') :
    o = o' ∧ current = current' ∧ st₁ = st₂ ∧ frames ms = frames ms' := by
  cases h with
  | completed hrest =>
      cases h' with
      | completed =>
          exact ⟨rfl, rfl, rfl, rfl⟩
      | aborted =>
          cases hrest.symm.trans hbatch
  | @aborted m ms cause held hopen hfails =>
      cases h' with
      | completed hrest' =>
          cases hrest'.symm.trans hbatch.symm
      | @aborted m' ms' cause' held' hopen' hfails' =>
          obtain rfl : m = m' := Event.send.inj (List.cons.inj hbatch).1
          obtain ⟨rfl, hframes⟩ := hfails.same hfails' hsame.of_took.of_append
          refine ⟨rfl, rfl, rfl, ?_⟩
          change frames (ms ++ _) = frames (ms' ++ _)
          rw [frames_append, frames_append, hframes]

/-- A run whose script is at its end cannot be behind. -/
theorem Ends.not_turn
    {rest current events : Batch} {e : Event} {o : Outcome}
    (h : Ends st rest current ms o st₁)
    (hturn : Turn st e ms' st₂)
    (hbatch : current ++ rest = e :: events) :
    ¬ SameAnswers ms (.took e :: ms') := by
  intro hsame
  cases h with
  | completed hrest =>
      cases hrest.symm.trans hbatch
  | @aborted m ms cause held hopen hfails =>
      cases hbatch
      have htail := hsame.of_took
      rw [← List.append_nil ms'] at htail
      exact hfails.not_sent (by simp [hopen]) hturn htail.of_append

theorem Stage.ends
    {rest current : Batch} {o : Outcome}
    (h : Stage st rest current ms (.finished o) st₁) :
    ∃ ms₀ tail st₀, Ends st rest current ms₀ o st₀ ∧ ms = ms₀ ++ tail ∧ frames tail = [] ∧
      st₁.nextSequence = st₀.nextSequence := by
  cases h with
  | closed result hends hopen =>
      exact ⟨_, _, _, hends, rfl, rfl, rfl⟩
  | finished hends hidle =>
      exact ⟨_, [], _, hends, (List.append_nil _).symm, rfl, rfl⟩

end

/-! ### Two runs -/

/-- The scripts of two runs of a batch agree. -/
structure Consistent (s s' : State) : Prop where
  /-- The frames of one run are the first frames of the other. -/
  frames : frames s.trace <+: frames s'.trace ∨ frames s'.trace <+: frames s.trace
  /-- When both runs are over, the frames and the reports are the same but for the time. -/
  reports : ∀ t t' r r', s.report? t = some r → s'.report? t' = some r' →
    Replay.frames s.trace = Replay.frames s'.trace ∧ r.events = r'.events ∧
      r.nextSequence = r'.nextSequence ∧ r.outcome = r'.outcome

theorem Consistent.symm
    {s s' : State}
    (h : Consistent s s') :
    Consistent s' s := by
  refine ⟨h.frames.symm, ?_⟩
  intro t t' r r' hr hr'
  obtain ⟨hframes, hevents, hnext, houtcome⟩ := h.reports t' t r' r hr' hr
  exact ⟨hframes.symm, hevents.symm, hnext.symm, houtcome.symm⟩

/-- A report tells how the script ended. -/
theorem report?_eq_some
    {s : State} {t : UInt64} {r : Report}
    (h : s.report? t = some r) :
    s.task = .finished r.outcome ∧ r.events = UInt64.ofNat s.processed ∧
      r.nextSequence = s.nextSequence := by
  obtain ⟨o, ho, rfl⟩ := Option.map_eq_some_iff.1 h
  refine ⟨?_, rfl, rfl⟩
  exact task_of_outcome? ho

section

variable {batch done current current' : Batch} {marks marks' ms ms' : List Mark}
  {st st' : Standing}
  {s s' : State}

/-- Two runs that have done the same turns. -/
theorem consistent_of_level
    (hstage : Stage st s.rest current ms s.task s.standing)
    (hstage' : Stage st s'.rest current' ms' s'.task s'.standing)
    (hbatch : current ++ s.rest = current' ++ s'.rest)
    (hsame : SameAnswers ms ms')
    (hframes : frames s.trace = frames marks ++ frames ms)
    (hframes' : frames s'.trace = frames marks ++ frames ms')
    (hprocessed : s.processed = (done ++ current).length)
    (hprocessed' : s'.processed = (done ++ current').length) :
    Consistent s s' := by
  refine ⟨?_, ?_⟩
  · rw [hframes, hframes', List.prefix_append_right_inj, List.prefix_append_right_inj]
    exact hstage.sends.comparable hstage'.sends hbatch
  · intro t t' r r' hr hr'
    obtain ⟨htask, hevents, hnext⟩ := report?_eq_some hr
    obtain ⟨htask', hevents', hnext'⟩ := report?_eq_some hr'
    rw [htask] at hstage
    rw [htask'] at hstage'
    obtain ⟨ms₀, tail, st₀, hends, rfl, htail, hst⟩ := hstage.ends
    obtain ⟨ms₀', tail', st₀', hends', rfl, htail', hst'⟩ := hstage'.ends
    obtain ⟨ho, rfl, rfl, hms⟩ := hends.same hends' hbatch hsame.of_append
    refine ⟨?_, ?_, ?_, ho⟩
    · rw [hframes, hframes', frames_append, frames_append, hms, htail, htail']
    · rw [hevents, hevents', hprocessed, hprocessed']
    · rw [hnext, hnext']
      exact hst.trans hst'.symm

/-- A run that is behind another one is not over, and what it sent the other one sent. -/
theorem consistent_of_behind
    {e : Event} {more : Batch} {r : List Mark}
    (hstage : Stage st s.rest current ms s.task s.standing)
    (hturns : Turns st (e :: more) r st')
    (hbatch : current ++ s.rest = e :: (more ++ current' ++ s'.rest))
    (hsame : SameAnswers ms (r ++ ms'))
    (hframes : frames s.trace = frames marks ++ frames ms)
    (hframes' : frames s'.trace = frames marks ++ (frames r ++ frames ms')) :
    Consistent s s' := by
  cases hturns with
  | @cons _ _ _ _ turn marks' _ hturn hrest =>
      refine ⟨.inl ?_, ?_⟩
      · have hturnFrames :
            frames (.took e :: (turn ++ marks')) = frames turn ++ frames marks' :=
          frames_append turn marks'
        rw [hframes, hframes', hturnFrames, List.prefix_append_right_inj, List.append_assoc]
        exact (hstage.sends.prefix_turn hturn hbatch).trans (List.prefix_append _ _)
      · intro t t' r r' hr hr'
        obtain ⟨htask, -, -⟩ := report?_eq_some hr
        rw [htask] at hstage
        obtain ⟨ms₀, tail, st₀, hends, rfl, -, -⟩ := hstage.ends
        rw [List.cons_append, List.append_assoc, ← List.cons_append] at hsame
        exact absurd hsame.of_append (hends.not_turn hturn hbatch)

/-- The first run has done no more turns than the second one. -/
theorem consistent_of_fewer
    {more : Batch}
    (hturns : Turns {} done marks st)
    (hturns' : Turns {} (done ++ more) marks' st')
    (hstage : Stage st s.rest current ms s.task s.standing)
    (hstage' : Stage st' s'.rest current' ms' s'.task s'.standing)
    (hscript : scriptPart s.trace = marks ++ ms)
    (hscript' : scriptPart s'.trace = marks' ++ ms')
    (hbatch : batch = done ++ current ++ s.rest)
    (hbatch' : batch = done ++ more ++ current' ++ s'.rest)
    (hprocessed : s.processed = (done ++ current).length)
    (hprocessed' : s'.processed = (done ++ more ++ current').length)
    (hsame : SameAnswers s.trace s'.trace) :
    Consistent s s' := by
  obtain ⟨l, r, st₁, rfl, hl, hr⟩ := hturns'.exists_of_append
  have hscripts : SameAnswers (marks ++ ms) (l ++ (r ++ ms')) := by
    rw [← List.append_assoc, ← hscript, ← hscript']
    intro op j a b ha hb
    rw [answers_scriptPart] at ha hb
    exact hsame op j a b ha hb
  obtain ⟨rfl, halike⟩ := hturns.same hl hscripts.of_append
  have hnext : SameAnswers ms (r ++ ms') := hscripts.of_append_alike halike
  have hrest : current ++ s.rest = more ++ current' ++ s'.rest := by
    have heq := hbatch.symm.trans hbatch'
    simp only [List.append_assoc, List.append_cancel_left_eq] at heq
    rw [heq, List.append_assoc]
  have hframes : frames s.trace = frames marks ++ frames ms := by
    rw [← frames_scriptPart, hscript, frames_append]
  have hframes' : frames s'.trace = frames marks ++ (frames r ++ frames ms') := by
    rw [← frames_scriptPart, hscript', List.append_assoc, frames_append,
      frames_append, halike.1]
  cases more with
  | nil =>
      cases hr
      rw [List.append_nil] at hprocessed'
      exact consistent_of_level hstage hstage' hrest hnext hframes hframes'
        hprocessed hprocessed'
  | cons e more =>
      exact consistent_of_behind hstage hr hrest hnext hframes hframes'

end

/-- **Inbound traffic does not influence the script.** Two runs of a batch whose operations
have the same answers hand over the same frames and report the same. -/
theorem consistent_of_sameAnswers
    {defaults defaults' : AutoReply.TypeSet} {batch : Batch} {moves moves' : List Move}
    (h : SameAnswers (steps (.start defaults batch) moves).trace
      (steps (.start defaults' batch) moves').trace) :
    Consistent (steps (.start defaults batch) moves)
      (steps (.start defaults' batch) moves') := by
  have haccount := accounted_steps defaults batch moves
  have haccount' := accounted_steps defaults' batch moves'
  generalize steps (.start defaults batch) moves = s at h haccount ⊢
  generalize steps (.start defaults' batch) moves' = s' at h haccount' ⊢
  obtain ⟨done, marks, st, current, ms, hturns, hstage, hscript, hbatch, hprocessed⟩ :=
    haccount
  obtain ⟨done', marks', st', current', ms',
    hturns', hstage', hscript', hbatch', hprocessed'⟩ := haccount'
  have hdone : done <+: batch := ⟨current ++ s.rest, by rw [hbatch, List.append_assoc]⟩
  have hdone' : done' <+: batch := ⟨current' ++ s'.rest, by rw [hbatch', List.append_assoc]⟩
  rcases List.prefix_or_prefix_of_prefix hdone hdone' with ⟨more, rfl⟩ | ⟨more, rfl⟩
  · exact consistent_of_fewer hturns hturns' hstage hstage' hscript hscript' hbatch hbatch'
      hprocessed hprocessed' h
  · exact (consistent_of_fewer hturns' hturns hstage' hstage hscript' hscript hbatch' hbatch
      hprocessed' hprocessed h.symm).symm

/-- A frame that is answered, a broken connection and a pause that is cut short are nothing
to the script. -/
theorem consistent_of_noise :
    Consistent
      (steps (.start .empty
          [.connect ⟨"h", 1⟩, .pause ⟨5, by decide⟩, .send (Message.new .enquireLink)])
        [.proceed, .opened .ok, .proceed, .entered, .wake false, .left, .proceed,
          .state .connected, .sent .ok, .reported, .proceed, .closed .ok])
      (steps (.start (.ofList [.enquireLink])
          [.connect ⟨"h", 1⟩, .pause ⟨5, by decide⟩, .send (Message.new .enquireLink)])
        [.proceed, .opened .ok, .proceed, .entered,
          .deliver [0, 0, 0, 16, 0, 0, 0, 21, 0, 0, 0, 0, 0, 0, 0, 7], .look, .notify,
          .wake true, .left, .proceed, .replied (.failed .disconnected), .state .connected,
          .lose, .sent .ok, .noted, .reported, .proceed, .closed .ok]) := by
  refine consistent_of_sameAnswers (SameAnswers.of_eq fun op => ?_)
  cases op <;> decide +kernel

end Replay
end SmppReplay
