import SmppReplay.Proofs.Replay.Runs

/-!
# What the script does, event by event

**Turns.** What an event leads to depends on where the script stands (`Standing`): on the
connection that is open and on the counter.  `Turn` lists, for each event, the marks that
the script makes until it is ready for the next event, and where it stands then; `Turns`
puts them one after the other.

**Ends.** The script ends after the last event, or in the middle of a turn when a message is
not sent over the open connection (`Fails`).  A connection that is open then is closed.

**Stages.** In between the script waits for something: `Stage` gives the marks since its
last turn.
-/

namespace SmppReplay
namespace Replay

open Transcript (Entry)
open Transport (ConnectionState Endpoint Result)

/-! ### Marks of the script -/

/-- The mark is the script's and not the inbound side's. -/
def Mark.isScript : Mark → Bool
  | .sendCalled side _ _ => side == .script
  | .sendReturned side _ _ _ => side == .script
  | .unsent side _ => side == .script
  | .logged side _ => side == .script
  | .delivered _ _ => false
  | .lost => false
  | .interrupted _ => false
  | .notified => false
  | _ => true

/-- The script's part of a trace. -/
def scriptPart (trace : List Mark) : List Mark :=
  trace.filter Mark.isScript

@[simp] theorem scriptPart_append (l l' : List Mark) :
    scriptPart (l ++ l') = scriptPart l ++ scriptPart l' :=
  List.filter_append l l'

/-- The event that the mark is about, if it was taken up. -/
def Mark.event? : Mark → Option Event
  | .took e => some e
  | _ => none

/-- The events that were taken up. -/
def taken (trace : List Mark) : Batch :=
  trace.filterMap Mark.event?

@[simp] theorem taken_append (l l' : List Mark) :
    taken (l ++ l') = taken l ++ taken l' :=
  List.filterMap_append

/-- Of two lists put together an item lies in the first one or in the second one. -/
theorem split_cases
    {α : Type} {l l' front back : List α} {k : α}
    (h : l ++ l' = front ++ k :: back) :
    (∃ front', front = l ++ front' ∧ l' = front' ++ k :: back) ∨
      ∃ back', l = front ++ k :: back' ∧ back = back' ++ l' := by
  rcases List.append_eq_append_iff.1 h with ⟨front', hfront, hl'⟩ | ⟨back', hl, hback⟩
  · exact .inl ⟨front', hfront, hl'⟩
  · cases back' with
    | nil =>
        exact .inl ⟨[], by rw [hl, List.append_nil, List.append_nil], hback.symm⟩
    | cons k' back' =>
        rw [List.cons_append, List.cons.injEq] at hback
        obtain ⟨rfl, hback⟩ := hback
        exact .inr ⟨back', hl, hback⟩

/-- The only item of a kind is at one place. -/
theorem eq_of_only
    {α : Type} {p : α → Bool} {l l' r r' : List α} {k k' : α}
    (h : l ++ k :: r = l' ++ k' :: r')
    (hk' : p k' = true)
    (hl : ∀ x ∈ l, p x = false)
    (hr : ∀ x ∈ r, p x = false) :
    l = l' ∧ k = k' ∧ r = r' := by
  rcases split_cases h with ⟨front, rfl, htail⟩ | ⟨back, rfl, -⟩
  · cases front with
    | nil =>
        rw [List.nil_append, List.cons.injEq] at htail
        exact ⟨(List.append_nil l).symm, htail⟩
    | cons x front =>
        rw [List.cons_append, List.cons.injEq] at htail
        have hnone := hr k' (htail.2 ▸ List.mem_append_right front List.mem_cons_self)
        cases hnone.symm.trans hk'
  · cases (hl k' (List.mem_append_right l' List.mem_cons_self)).symm.trans hk'

/-- Without a mark in the first of two lists, it lies in the second one. -/
theorem exists_append_of_notMem
    {l l' front back : List Mark} {k : Mark}
    (h : l ++ l' = front ++ k :: back)
    (hk : k ∉ l) :
    ∃ front', front = l ++ front' ∧ l' = front' ++ k :: back := by
  rcases split_cases h with hl' | ⟨back', rfl, -⟩
  · exact hl'
  · exact absurd (List.mem_append_right front List.mem_cons_self) hk

/-! ### Turns -/

/-- Where the script stands between two events: the peer of the open connection, and the
counter. -/
structure Standing where
  session : Option Endpoint := none
  nextSequence : UInt32 := 1
  deriving DecidableEq

/-- Where the script stands at a moment. -/
def State.standing (s : State) : Standing :=
  ⟨s.session, s.nextSequence⟩

namespace Standing

/-- The message with the number that it is sent with. -/
def numbered (st : Standing) (m : Message) : Message :=
  m.withSequence (if m.sequence < st.nextSequence then st.nextSequence else m.sequence)

/-- The counter stands behind the number of a message. -/
def after (st : Standing) (m : Message) : Standing :=
  { st with nextSequence := (st.numbered m).sequence + 1 }

/-- There is no connection any more. -/
def closed (st : Standing) : Standing :=
  { st with session := none }

end Standing

/-- The entry about a pause. -/
def cutEntries (cut : Bool) : List Mark :=
  if cut then [.logged .script pauseCutEntry] else []

/-- The marks of the script between an event and the next one, and where it stands before
and after. -/
inductive Turn (st : Standing) : Event → List Mark → Standing → Prop
  | connected (peer : Endpoint) (h : st.session = none) :
      Turn st (.connect peer)
        [.openCalled peer, .openReturned peer .ok, .logged .script (connectedEntry peer)]
        { st with session := some peer }
  | unreachable (peer : Endpoint) (e : Transport.Error) (h : st.session = none) :
      Turn st (.connect peer)
        [.openCalled peer, .openReturned peer (.failed e),
          .logged .script (connectFailedEntry peer e)]
        st
  | refused (peer : Endpoint) {held : Endpoint} (h : st.session = some held) :
      Turn st (.connect peer) [.logged .script (alreadyConnectedEntry peer)] st
  | disconnected (result : Result) {held : Endpoint} (h : st.session = some held) :
      Turn st .disconnect
        [.closeCalled, .closeReturned result, .logged .script disconnectedEntry] st.closed
  | notConnected (h : st.session = none) :
      Turn st .disconnect [.logged .script notConnectedEntry] st
  | sent (m : Message) {frame : List UInt8} {held : Endpoint} (h : st.session = some held)
      (hframe : Pdu.encode (st.numbered m) = .ok frame) :
      Turn st (.send m)
        [.stateReturned .connected, .sendCalled .script (st.numbered m) frame,
          .sendReturned .script (st.numbered m) frame .ok,
          .logged .script (.sent (st.numbered m))]
        (st.after m)
  | passedOver (m : Message) (h : st.session = none) :
      Turn st (.send m) [.unsent .script m, .logged .script (passedOverEntry m)] st
  | waited (length : Millis) :
      Turn st (.pause length)
        [.pauseStarted length, .pauseEntered, .pauseEnded false, .pauseLeft] st
  | cut (length : Millis) :
      Turn st (.pause length)
        [.pauseStarted length, .pauseEntered, .pauseEnded true, .logged .script pauseCutEntry,
          .pauseLeft] st
  | switched (t : MessageType) (enabled : Bool) {held : Endpoint}
      (h : st.session = some held) :
      Turn st (.setAutoReply t enabled) [] st
  | ignored (t : MessageType) (enabled : Bool) (h : st.session = none) :
      Turn st (.setAutoReply t enabled) [.logged .script (settingIgnoredEntry t enabled)] st

/-- The marks begin with the next event, or with the end of the run, if there are any. -/
inductive Resumes : List Mark → Prop
  | nil : Resumes []
  | took (e : Event) (l : List Mark) : Resumes (.took e :: l)
  | closeCalled (l : List Mark) : Resumes (.closeCalled :: l)

/-- The turns of some events, one after the other. -/
inductive Turns : Standing → Batch → List Mark → Standing → Prop
  | nil (st : Standing) : Turns st [] [] st
  | cons {st st₁ st' : Standing} {e : Event} {ms marks : List Mark} {events : Batch}
      (hturn : Turn st e ms st₁) (hrest : Turns st₁ events marks st') :
      Turns st (e :: events) (.took e :: (ms ++ marks)) st'

theorem Turn.took_notMem
    {st st' : Standing} {e : Event} {ms : List Mark}
    (h : Turn st e ms st') (e' : Event) :
    .took e' ∉ ms := by
  cases h <;> simp

namespace Turns

variable {st st₁ st' : Standing} {events events' : Batch} {marks marks' : List Mark}

theorem append
    (h : Turns st events marks st₁)
    (h' : Turns st₁ events' marks' st') :
    Turns st (events ++ events') (marks ++ marks') st' := by
  induction h with
  | nil st =>
      exact h'
  | @cons _ _ _ e ms marks _ hturn _ ih =>
      have hcons := Turns.cons hturn (ih h')
      rw [← List.append_assoc] at hcons
      exact hcons

theorem snoc
    {e : Event} {ms : List Mark}
    (h : Turns st events marks st₁)
    (hturn : Turn st₁ e ms st') :
    Turns st (events ++ [e]) (marks ++ .took e :: ms) st' := by
  have hlast := Turns.cons hturn (Turns.nil st')
  rw [List.append_nil] at hlast
  exact h.append hlast

/-- The turns of more events are those of the first ones and, from where they lead, those of
the others. -/
theorem exists_of_append
    (h : Turns st (events ++ events') marks st') :
    ∃ l r st₁, marks = l ++ r ∧ Turns st events l st₁ ∧ Turns st₁ events' r st' := by
  induction events generalizing st marks with
  | nil =>
      exact ⟨[], marks, st, rfl, Turns.nil st, h⟩
  | cons e events ih =>
      cases h with
      | cons hturn hrest =>
          obtain ⟨l, r, st₂, rfl, hl, hr⟩ := ih hrest
          refine ⟨_, r, st₂, ?_, Turns.cons hturn hl, hr⟩
          rw [List.cons_append, List.append_assoc]

/-- Where an event is taken up its turn begins. -/
theorem exists_of_took
    {l r : List Mark} {e : Event}
    (h : Turns st events marks st')
    (hmarks : marks = l ++ .took e :: r) :
    ∃ done rest st₁ st₂ ms r', events = done ++ e :: rest ∧ r = ms ++ r' ∧
      Turns st done l st₁ ∧ Turn st₁ e ms st₂ ∧ Turns st₂ rest r' st' := by
  induction h generalizing l with
  | nil st =>
      cases l <;> cases hmarks
  | @cons st st₁ st' e₀ ms marks events hturn hrest ih =>
      cases l with
      | nil =>
          cases hmarks
          exact ⟨[], events, st, st₁, ms, marks, rfl, rfl, Turns.nil st, hturn, hrest⟩
      | cons k l =>
          rw [List.cons_append, List.cons.injEq] at hmarks
          obtain ⟨rfl, hmarks⟩ := hmarks
          -- A turn takes up no other event, so the split lies behind it.
          obtain ⟨l, rfl, htail⟩ := exists_append_of_notMem hmarks (hturn.took_notMem e)
          obtain ⟨done, rest, st₂, st₃, ms', r', rfl, rfl, hdone, hturn', hrest'⟩ := ih htail
          exact ⟨e₀ :: done, rest, st₂, st₃, ms', r', rfl, rfl,
            Turns.cons hturn hdone, hturn',
            hrest'⟩

/-- Behind a turn come the next ones. -/
theorem resumes
    {ms : List Mark}
    (h : Turns st events marks st')
    (hms : Resumes ms) :
    Resumes (marks ++ ms) := by
  cases h with
  | nil =>
      exact hms
  | cons =>
      exact Resumes.took _ _

end Turns

/-! ### Ends and stages -/

/-- Why a message is not sent over the open connection, and the marks up to there. -/
inductive Fails (st : Standing) (m : Message) : List Mark → String → Prop
  | notConnected {state : ConnectionState} (h : state ≠ .connected) :
      Fails st m [.stateReturned state, .unsent .script (st.numbered m)]
        ("connection " ++ state.render)
  | unwritable {e : Pdu.Error} (h : Pdu.encode (st.numbered m) = .error e) :
      Fails st m [.stateReturned .connected, .unsent .script (st.numbered m)] e.message
  | unsent {frame : List UInt8} {e : Transport.Error}
      (h : Pdu.encode (st.numbered m) = .ok frame) :
      Fails st m
        [.stateReturned .connected, .sendCalled .script (st.numbered m) frame,
          .sendReturned .script (st.numbered m) frame (.failed e)]
        e.message

/-- How the script ends: after the last event, or with a message that is not sent. -/
inductive Ends (st : Standing) (rest : Batch) : Batch → List Mark → Outcome → Standing → Prop
  | completed (h : rest = []) :
      Ends st rest [] [] .completed st
  | aborted {m : Message} {ms : List Mark} {cause : String} {held : Endpoint}
      (h : st.session = some held) (hfails : Fails st m ms cause) :
      Ends st rest [.send m]
        (.took (.send m) :: (ms ++ [.logged .script (.sendFailed (st.numbered m) cause)]))
        (.aborted (Entry.failureText (st.numbered m) cause)) (st.after m)

/-- What the script did since its last turn: the event that it took up, its marks, its task
and where it stands now. -/
inductive Stage (st : Standing) (rest : Batch) : Batch → List Mark → Task → Standing → Prop
  | ready :
      Stage st rest [] [] .ready st
  | opening (peer : Endpoint) (h : st.session = none) :
      Stage st rest [.connect peer] [.took (.connect peer), .openCalled peer]
        (.opening peer) st
  | asking (m : Message) {held : Endpoint} (h : st.session = some held) :
      Stage st rest [.send m] [.took (.send m)] (.asking (st.numbered m)) (st.after m)
  | sending (m : Message) {frame : List UInt8} {held : Endpoint} (h : st.session = some held)
      (hframe : Pdu.encode (st.numbered m) = .ok frame) :
      Stage st rest [.send m]
        [.took (.send m), .stateReturned .connected,
          .sendCalled .script (st.numbered m) frame]
        (.sending (st.numbered m) frame) (st.after m)
  | sent (m : Message) {frame : List UInt8} {held : Endpoint} (h : st.session = some held)
      (hframe : Pdu.encode (st.numbered m) = .ok frame) :
      Stage st rest [.send m]
        [.took (.send m), .stateReturned .connected,
          .sendCalled .script (st.numbered m) frame,
          .sendReturned .script (st.numbered m) frame .ok]
        (.reporting (st.numbered m) none) (st.after m)
  | failed {m : Message} {ms : List Mark} {cause : String} {held : Endpoint}
      (h : st.session = some held) (hfails : Fails st m ms cause) :
      Stage st rest [.send m] (.took (.send m) :: ms)
        (.reporting (st.numbered m) (some cause))
        (st.after m)
  | closing {held : Endpoint} (h : st.session = some held) :
      Stage st rest [.disconnect] [.took .disconnect, .closeCalled] .closing st.closed
  | entering (length : Millis) :
      Stage st rest [.pause length] [.took (.pause length), .pauseStarted length]
        (.entering length) st
  | pausing (length : Millis) :
      Stage st rest [.pause length] [.took (.pause length), .pauseStarted length,
        .pauseEntered]
        (.pausing length) st
  | leaving (length : Millis) (cut : Bool) :
      Stage st rest [.pause length]
        (.took (.pause length) :: .pauseStarted length :: .pauseEntered :: .pauseEnded cut ::
          cutEntries cut)
        .leaving st
  | finishing {current : Batch} {ms : List Mark} {o : Outcome} {st' : Standing}
      {held : Endpoint}
      (h : Ends st rest current ms o st') (hopen : st'.session = some held) :
      Stage st rest current (ms ++ [.closeCalled]) (.finishing o) st'.closed
  | closed {current : Batch} {ms : List Mark} {o : Outcome} {st' : Standing} {held : Endpoint}
      (result : Result) (h : Ends st rest current ms o st')
      (hopen : st'.session = some held) :
      Stage st rest current
        (ms ++ [.closeCalled, .closeReturned result,
          .logged .script (finalCloseEntry result)])
        (.finished o) st'.closed
  | finished {current : Batch} {ms : List Mark} {o : Outcome} {st' : Standing}
      (h : Ends st rest current ms o st') (hidle : st'.session = none) :
      Stage st rest current ms (.finished o) st'

/-- No event is taken up while a message fails. -/
theorem Fails.took_notMem
    {st : Standing} {m : Message} {ms : List Mark} {cause : String}
    (h : Fails st m ms cause) (e : Event) :
    .took e ∉ ms := by
  cases h <;> simp

/-- The script ends behind its last turn, or within the turn of a message. -/
theorem Ends.took_cases
    {st st' : Standing} {rest current : Batch} {ms : List Mark} {o : Outcome}
    (h : Ends st rest current ms o st') :
    (current = [] ∧ ms = []) ∨
      ∃ m ms', current = [.send m] ∧ ms = .took (.send m) :: ms' ∧ ∀ e, .took e ∉ ms' := by
  cases h with
  | completed =>
      exact .inl ⟨rfl, rfl⟩
  | aborted hopen hfails =>
      exact .inr ⟨_, _, rfl, rfl, by simp [hfails.took_notMem]⟩

/-- A stage is behind the last turn, or within the turn of the one event that it took up. -/
theorem Stage.took_cases
    {st st' : Standing} {rest current : Batch} {ms : List Mark} {task : Task}
    (h : Stage st rest current ms task st') :
    (current = [] ∧ Resumes ms ∧ ∀ e, .took e ∉ ms) ∨
      ∃ e ms', current = [e] ∧ ms = .took e :: ms' ∧ ∀ e', .took e' ∉ ms' := by
  cases h with
  | ready =>
      exact .inl ⟨rfl, Resumes.nil, by simp⟩
  | opening | asking | sending | sent | closing | entering | pausing =>
      exact .inr ⟨_, _, rfl, rfl, by simp⟩
  | failed hopen hfails =>
      exact .inr ⟨_, _, rfl, rfl, hfails.took_notMem⟩
  | leaving length cut =>
      refine .inr ⟨_, _, rfl, rfl, ?_⟩
      cases cut <;> simp [cutEntries]
  | finishing hends hopen =>
      rcases hends.took_cases with ⟨rfl, rfl⟩ | ⟨m, ms', rfl, rfl, hms⟩
      · exact .inl ⟨rfl, Resumes.closeCalled [], by simp⟩
      · exact .inr ⟨_, _, rfl, rfl, by simp [hms]⟩
  | closed result hends hopen =>
      rcases hends.took_cases with ⟨rfl, rfl⟩ | ⟨m, ms', rfl, rfl, hms⟩
      · exact .inl ⟨rfl, Resumes.closeCalled _, by simp⟩
      · exact .inr ⟨_, _, rfl, rfl, by simp [hms]⟩
  | finished hends hidle =>
      rcases hends.took_cases with ⟨rfl, rfl⟩ | ⟨m, ms', rfl, rfl, hms⟩
      · exact .inl ⟨rfl, Resumes.nil, by simp⟩
      · exact .inr ⟨_, _, rfl, rfl, by simp [hms]⟩

/-- The event that a stage takes up is its own. -/
theorem Stage.eq_of_took
    {st st' : Standing} {rest current : Batch} {ms l r : List Mark} {task : Task} {e : Event}
    (h : Stage st rest current ms task st')
    (hms : ms = l ++ .took e :: r) :
    l = [] ∧ current = [e] := by
  rcases h.took_cases with ⟨-, -, hnone⟩ | ⟨e', ms', rfl, rfl, hnone⟩
  · exact absurd (hms ▸ List.mem_append_right l List.mem_cons_self) (hnone e)
  · cases l with
    | nil =>
        cases hms
        exact ⟨rfl, rfl⟩
    | cons k l =>
        rw [List.cons_append, List.cons.injEq] at hms
        exact absurd (hms.2 ▸ List.mem_append_right l List.mem_cons_self) (hnone e)

/-- The script waits only where it opens or closes a connection, sends a message over one,
or pauses. -/
theorem Stage.event_cases
    {st st' : Standing} {rest : Batch} {ms : List Mark} {task : Task} {e : Event}
    (h : Stage st rest [e] ms task st') :
    (∃ peer, e = .connect peer ∧ st.session = none) ∨
      (e = .disconnect ∧ st.session ≠ none) ∨
      (∃ m, e = .send m ∧ st.session ≠ none) ∨
      ∃ length, e = .pause length := by
  have hends : ∀ {ms o st'}, Ends st rest [e] ms o st' →
      ∃ m, e = .send m ∧ st.session ≠ none := by
    intro ms o st' hends
    cases hends with
    | @aborted m _ _ _ hopen _ =>
        exact ⟨m, rfl, by simp [hopen]⟩
  cases h with
  | opening peer hidle =>
      exact .inl ⟨peer, rfl, hidle⟩
  | closing hopen =>
      exact .inr (.inl ⟨rfl, by simp [hopen]⟩)
  | asking m hopen | sending m hopen | sent m hopen =>
      exact .inr (.inr (.inl ⟨m, rfl, by simp [hopen]⟩))
  | @failed m _ _ _ hopen =>
      exact .inr (.inr (.inl ⟨m, rfl, by simp [hopen]⟩))
  | entering length | pausing length | leaving length =>
      exact .inr (.inr (.inr ⟨length, rfl⟩))
  | finishing h | closed _ h | finished h =>
      exact .inr (.inr (.inl (hends h)))

/-- A stage begins with an event, or the end, if it did anything. -/
theorem Stage.resumes
    {st st' : Standing} {rest current : Batch} {ms : List Mark} {task : Task}
    (h : Stage st rest current ms task st') :
    Resumes ms := by
  rcases h.took_cases with ⟨-, hms, -⟩ | ⟨e, ms', -, rfl, -⟩
  · exact hms
  · exact Resumes.took e ms'

end Replay
end SmppReplay
