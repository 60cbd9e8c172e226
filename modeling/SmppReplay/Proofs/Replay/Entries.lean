import SmppReplay.Proofs.Replay.Ledger

/-!
# The transcript of the script

**Question.** The script puts entries into the transcript while it does one event after the
other, and the inbound side puts its own in between.  Which entries are the script's, and
what do they tell of its events?

**Events.** What an event leaves depends on whether a session is open (`Leaves`): one entry,
or for a pause and a setting perhaps none.  The entries of a run are those of its events, in
their order, and one more for the session that is still open behind the last one
(`Transcribed`).

**Sessions.** An entry that a session begins with and one that it ends with follow each
other by turns, from a beginning to an end (`transcribed_steps`).
-/

namespace SmppReplay

namespace Replay

open Transcript (Entry EntryKind)
open Transport (Endpoint Result)

/-! ### What events leave -/

/-- The entries of the script about an event, with a session open or not before and after
it. -/
inductive Leaves : Bool → Event → List Entry → Bool → Prop
  | connected (peer : Endpoint) :
      Leaves false (.connect peer) [connectedEntry peer] true
  | unreachable (peer : Endpoint) (e : Transport.Error) :
      Leaves false (.connect peer) [connectFailedEntry peer e] false
  | refused (peer : Endpoint) :
      Leaves true (.connect peer) [alreadyConnectedEntry peer] true
  | disconnected :
      Leaves true .disconnect [disconnectedEntry] false
  | notConnected :
      Leaves false .disconnect [notConnectedEntry] false
  | sent (m : Message) (sequence : UInt32) :
      Leaves true (.send m) [.sent (m.withSequence sequence)] true
  | sendFailed (m : Message) (sequence : UInt32) (cause : String) :
      Leaves true (.send m) [.sendFailed (m.withSequence sequence) cause] true
  | passedOver (m : Message) :
      Leaves false (.send m) [passedOverEntry m] false
  | waited (isOpen : Bool) (length : Millis) :
      Leaves isOpen (.pause length) [] isOpen
  | cut (isOpen : Bool) (length : Millis) :
      Leaves isOpen (.pause length) [pauseCutEntry] isOpen
  | switched (t : MessageType) (enabled : Bool) :
      Leaves true (.setAutoReply t enabled) [] true
  | ignored (t : MessageType) (enabled : Bool) :
      Leaves false (.setAutoReply t enabled) [settingIgnoredEntry t enabled] false

/-- The entries of the script about some events, one after the other. -/
inductive LeavesAll : Bool → Batch → List Entry → Bool → Prop
  | nil (isOpen : Bool) : LeavesAll isOpen [] [] isOpen
  | cons {isOpen isOpen₁ isOpen' : Bool} {e : Event} {es rest : List Entry} {events : Batch}
      (h : Leaves isOpen e es isOpen₁) (hrest : LeavesAll isOpen₁ events rest isOpen') :
      LeavesAll isOpen (e :: events) (es ++ rest) isOpen'

theorem LeavesAll.append
    {isOpen isOpen₁ isOpen' : Bool} {events events' : Batch} {es es' : List Entry}
    (h : LeavesAll isOpen events es isOpen₁)
    (h' : LeavesAll isOpen₁ events' es' isOpen') :
    LeavesAll isOpen (events ++ events') (es ++ es') isOpen' := by
  induction h with
  | nil =>
      exact h'
  | cons hleaves hrest ih =>
      rw [List.append_assoc]
      exact .cons hleaves (ih h')

/-! ### Sessions -/

/-- A session begins or ends with the entry: it is opened, or it is closed and was there. -/
def boundsSession (e : Entry) : Bool :=
  e.kind == .connectOk || (e.kind == .disconnect && e != notConnectedEntry)

/-- The kinds of the entries that sessions begin and end with. -/
def sessionKinds (es : List Entry) : List EntryKind :=
  (es.filter boundsSession).map Entry.kind

/-- A beginning and an end by turns. -/
def sessions (n : Nat) : List EntryKind :=
  (List.replicate n [EntryKind.connectOk, .disconnect]).flatten

/-- The beginning of a session that is open. -/
def openSession (isOpen : Bool) : List EntryKind :=
  if isOpen then [.connectOk] else []

theorem sessions_add (n n' : Nat) :
    sessions (n + n') = sessions n ++ sessions n' := by
  rw [sessions, List.replicate_add, List.flatten_append]
  rfl

@[simp] theorem sessionKinds_append (es es' : List Entry) :
    sessionKinds (es ++ es') = sessionKinds es ++ sessionKinds es' := by
  simp [sessionKinds]

/-- The entry for a session that is closed at the end is not the one for a session that was
not there. -/
theorem finalCloseEntry_ne_notConnectedEntry (result : Result) :
    finalCloseEntry result ≠ notConnectedEntry := by
  intro h
  cases result with
  | ok =>
      exact absurd h (by decide)
  | failed e =>
      have htext := congrArg (fun entry : Entry => entry.text.toList.take 18) h
      simp only [finalCloseEntry, notConnectedEntry, String.toList_append] at htext
      rw [List.take_append_of_le_length (by decide)] at htext
      exact absurd htext (by decide)

theorem sessionKinds_finalCloseEntry (result : Result) :
    sessionKinds [finalCloseEntry result] = [.disconnect] := by
  have hkind : (finalCloseEntry result).kind = .disconnect := by
    cases result <;> rfl
  have hbounds : boundsSession (finalCloseEntry result) := by
    simp [boundsSession, hkind, finalCloseEntry_ne_notConnectedEntry]
  simp [sessionKinds, hbounds, hkind]

/-- An event ends the session that is open, or begins one, or leaves it as it is. -/
theorem Leaves.sessionKinds_eq
    {isOpen isOpen' : Bool} {e : Event} {es : List Entry}
    (h : Leaves isOpen e es isOpen') :
    ∃ n, openSession isOpen ++ sessionKinds es = sessions n ++ openSession isOpen' := by
  cases h with
  | disconnected =>
      exact ⟨1, by decide⟩
  | notConnected =>
      exact ⟨0, by decide⟩
  | _ =>
      exact ⟨0, by simp [openSession, sessionKinds, sessions, boundsSession, connectedEntry,
        connectFailedEntry, alreadyConnectedEntry, Entry.sent, Entry.sendFailed,
        passedOverEntry, pauseCutEntry, settingIgnoredEntry]⟩

/-- Events begin and end sessions by turns. -/
theorem LeavesAll.sessionKinds_eq
    {isOpen isOpen' : Bool} {events : Batch} {es : List Entry}
    (h : LeavesAll isOpen events es isOpen') :
    ∃ n, openSession isOpen ++ sessionKinds es = sessions n ++ openSession isOpen' := by
  induction h with
  | nil isOpen =>
      exact ⟨0, List.append_nil _⟩
  | cons hleaves hrest ih =>
      obtain ⟨n, hn⟩ := hleaves.sessionKinds_eq
      obtain ⟨n', hn'⟩ := ih
      refine ⟨n + n', ?_⟩
      rw [sessionKinds_append, ← List.append_assoc, hn, List.append_assoc, hn', sessions_add,
        List.append_assoc]

/-! ### Turns and stages -/

/-- Each turn leaves what its event leaves. -/
theorem Turn.leaves
    {st st' : Standing} {e : Event} {ms : List Mark}
    (h : Turn st e ms st') :
    Leaves st.session.isSome e (entries ms) st'.session.isSome := by
  cases h with
  | connected peer hidle =>
      rw [hidle]
      exact .connected peer
  | unreachable peer e hidle =>
      rw [hidle]
      exact .unreachable peer e
  | refused peer hopen =>
      rw [hopen]
      exact .refused peer
  | disconnected result hopen =>
      rw [hopen]
      exact .disconnected
  | notConnected hidle =>
      rw [hidle]
      exact .notConnected
  | sent m hopen hframe =>
      rw [Standing.after, hopen]
      exact .sent m _
  | passedOver m hidle =>
      rw [hidle]
      exact .passedOver m
  | waited length =>
      exact .waited _ length
  | cut length =>
      exact .cut _ length
  | switched t enabled hopen =>
      rw [hopen]
      exact .switched t enabled
  | ignored t enabled hidle =>
      rw [hidle]
      exact .ignored t enabled

theorem Turns.leavesAll
    {st st' : Standing} {events : Batch} {marks : List Mark}
    (h : Turns st events marks st') :
    LeavesAll st.session.isSome events (entries marks) st'.session.isSome := by
  induction h with
  | nil st =>
      exact .nil _
  | @cons st st₁ st' e ms marks events hturn hrest ih =>
      have hentries : entries (.took e :: (ms ++ marks)) = entries ms ++ entries marks :=
        entries_append ms marks
      rw [hentries]
      exact .cons hturn.leaves ih

/-- The script ends with nothing more, or with an entry for the message that was not sent. -/
theorem Ends.leavesAll
    {st st' : Standing} {rest current : Batch} {ms : List Mark} {o : Outcome}
    (h : Ends st rest current ms o st') :
    LeavesAll st.session.isSome current (entries ms) st'.session.isSome := by
  cases h with
  | completed hrest =>
      exact .nil _
  | @aborted m ms cause held hopen hfails =>
      have hentries : entries (.took (.send m) ::
          (ms ++ [.logged .script (.sendFailed (st.numbered m) cause)])) =
          [.sendFailed (st.numbered m) cause] ++ [] := by
        cases hfails <;> rfl
      rw [hentries, Standing.after, hopen]
      exact .cons (.sendFailed m _ cause) (.nil true)

/-! ### Runs -/

/-- The entries of the script at a moment: those of the events that it took up, of which the
last one may still be under way.  When the run is over they are complete, and where a
session was open behind the last event there is one more for its end. -/
inductive Transcribed (batch : Batch) (s : State) : Prop
  | running {done current : Batch} {isOpen : Bool}
      (hrunning : s.outcome? = none)
      (htaken : batch.take s.processed = done ++ current)
      (hcurrent : current.length ≤ 1)
      (h : LeavesAll false done (entries (scriptPart s.trace)) isOpen)
  | closed {o : Outcome} {es : List Entry} (result : Result)
      (hended : s.outcome? = some o)
      (h : LeavesAll false (batch.take s.processed) es true)
      (hentries : entries (scriptPart s.trace) = es ++ [finalCloseEntry result])
  | complete {o : Outcome}
      (hended : s.outcome? = some o)
      (h : LeavesAll false (batch.take s.processed) (entries (scriptPart s.trace)) false)

theorem Accounted.transcribed
    {batch : Batch} {s : State}
    (h : Accounted batch s) :
    Transcribed batch s := by
  obtain ⟨done, marks, st, current, ms, hturns, hstage, hscript, hbatch, hprocessed⟩ := h
  have hdone := hturns.leavesAll
  have htaken : batch.take s.processed = done ++ current := by
    rw [hbatch, hprocessed, List.take_left]
  have hentries : entries (scriptPart s.trace) = entries marks ++ entries ms := by
    rw [hscript, entries_append]
  generalize htask : s.task = task at hstage
  generalize s.standing = now at hstage
  cases hstage with
  | ready | opening | asking | sending | sent | closing | entering | pausing =>
      -- A stage that is under way has left nothing yet.
      have hall : LeavesAll false done (entries (scriptPart s.trace)) st.session.isSome := by
        rw [hentries]
        exact (List.append_nil (entries marks)).symm ▸ hdone
      exact .running (by rw [State.outcome?, htask]) htaken (by simp) hall
  | @failed m ms cause held hopen hfails =>
      have hall : LeavesAll false done (entries (scriptPart s.trace)) st.session.isSome := by
        have hnone : entries (.took (.send m) :: ms) = [] := by
          cases hfails <;> rfl
        rw [hentries, hnone, List.append_nil]
        exact hdone
      exact .running (by rw [State.outcome?, htask]) htaken (by simp) hall
  | leaving length cut =>
      -- Of a pause that is over nothing more is left.
      have hpause : LeavesAll st.session.isSome [.pause length] (entries (cutEntries cut))
          st.session.isSome := by
        cases cut with
        | false => exact .cons (.waited _ length) (.nil _)
        | true => exact .cons (.cut _ length) (.nil _)
      have hall := hdone.append hpause
      rw [← List.append_nil (done ++ _)] at htaken
      exact .running (by rw [State.outcome?, htask]) htaken (by simp) (hentries ▸ hall)
  | @finishing _ ms' o st' held hends hopen =>
      have hall : LeavesAll false (done ++ current) (entries (scriptPart s.trace))
          st'.session.isSome := by
        have hnone : entries [Mark.closeCalled] = [] := rfl
        rw [hentries, entries_append ms', hnone, List.append_nil]
        exact hdone.append hends.leavesAll
      rw [← List.append_nil (done ++ current)] at htaken
      exact .running (by rw [State.outcome?, htask]) htaken (by simp) hall
  | @closed _ ms' o st' held result hends hopen =>
      have hlast := hends.leavesAll
      rw [hopen] at hlast
      refine .closed result (by rw [State.outcome?, htask]) (htaken ▸ hdone.append hlast) ?_
      rw [hentries, entries_append ms', ← List.append_assoc]
      rfl
  | finished hends hidle =>
      have hlast := hends.leavesAll
      rw [hidle] at hlast
      refine .complete (by rw [State.outcome?, htask]) ?_
      rw [htaken, hentries]
      exact hdone.append hlast

/-- A run is in the middle of a session at most, and not any more when it is over. -/
theorem Transcribed.sessionKinds_eq
    {batch : Batch} {s : State}
    (h : Transcribed batch s) :
    ∃ n isOpen,
      sessionKinds (entries (scriptPart s.trace)) = sessions n ++ openSession isOpen ∧
      (s.outcome?.isSome → isOpen = false) := by
  cases h with
  | @running _ _ isOpen hrunning _ _ hleaves =>
      obtain ⟨n, hn⟩ := hleaves.sessionKinds_eq
      refine ⟨n, isOpen, hn, ?_⟩
      simp [hrunning]
  | closed result _ hleaves hentries =>
      obtain ⟨n, hn⟩ := hleaves.sessionKinds_eq
      have hn : sessionKinds _ = sessions n ++ [.connectOk] := hn
      refine ⟨n + 1, false, ?_, fun _ => rfl⟩
      rw [hentries, sessionKinds_append, hn, sessionKinds_finalCloseEntry, sessions_add,
        List.append_assoc, List.append_assoc]
      rfl
  | complete _ hleaves =>
      obtain ⟨n, hn⟩ := hleaves.sessionKinds_eq
      exact ⟨n, false, hn, fun _ => rfl⟩

/-- **The script's entries tell its events.** At every moment of every run they are the
entries of the events that were taken up, in their order, and behind the last one an entry
for a session that is still open then; and what sessions begin and end with follow each
other by turns, up to an end when the run is over. -/
theorem transcribed_steps (defaults : AutoReply.TypeSet) (batch : Batch) (moves : List Move) :
    Transcribed batch (steps (.start defaults batch) moves) ∧
    ∃ n isOpen,
      sessionKinds (entries (scriptPart (steps (.start defaults batch) moves).trace)) =
        sessions n ++ openSession isOpen ∧
      ((steps (.start defaults batch) moves).outcome?.isSome → isOpen = false) :=
  have h := (accounted_steps defaults batch moves).transcribed
  ⟨h, h.sessionKinds_eq⟩

/-- In the eventful run the script makes ten entries, about two sessions that both end. -/
theorem transcribed_steps_eventful :
    Transcribed eventful eventfulRun ∧ (entries (scriptPart eventfulRun.trace)).length = 10 ∧
      ∃ n, sessionKinds (entries (scriptPart eventfulRun.trace)) = sessions n := by
  obtain ⟨htranscribed, n, isOpen, hkinds, hclosed⟩ :
      Transcribed eventful eventfulRun ∧ ∃ n isOpen,
        sessionKinds (entries (scriptPart eventfulRun.trace)) = sessions n ++
          openSession isOpen ∧
        (eventfulRun.outcome?.isSome → isOpen = false) :=
    transcribed_steps _ eventful eventfulMoves
  obtain rfl := hclosed (by decide +kernel)
  exact ⟨htranscribed, by decide +kernel, n, hkinds.trans (List.append_nil _)⟩

end Replay
end SmppReplay
