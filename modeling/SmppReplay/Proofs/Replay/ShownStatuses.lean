import SmppReplay.Proofs.AutoReply.Receipts
import SmppReplay.Proofs.Batch.Statuses
import SmppReplay.Proofs.Replay.Course
import SmppReplay.Proofs.Replay.Entries
import Mathlib.Data.List.DropRight

/-!
# Statuses in transcripts

**Question.** Which statuses does the transcript of a run show, and does a script that gives
what is shown make messages with these statuses?

**Entries.** An entry about a message that was sent or has arrived tells its status at the
end of its line (`exists_tellsStatus_of_mem_log`).  The lines of the message show its status
once more, and those of its failed destinations (`mem_fieldLines_iff`).

**Answer.** What is shown is the label of the status, and every spelling of it is read as
that status.

Main fact:
* `statusLaws`: the table of codes, what gives a status, messages and scripts with it, and
  transcripts.
-/

namespace SmppReplay

open Text (Respells)
open Text.Numeral (Literal Trims)
open Transcript (Entry)

/-! ### Lines about messages -/

/-- What stands behind the last equals sign of a line. -/
def Transcript.lastValue (line : String) : String :=
  String.ofList (line.toList.rtakeWhile (· != '='))

theorem Transcript.lastValue_append
    {word : String}
    (h : ∀ c ∈ word.toList, c ≠ '=')
    (front : String) :
    lastValue (front ++ "=" ++ word) = word := by
  have hword : ∀ c ∈ word.toList.reverse, (c != '=') = true := by
    intro c hc
    exact bne_iff_ne.2 (h c (List.mem_reverse.1 hc))
  have hline : (front ++ "=" ++ word).toList.reverse =
      word.toList.reverse ++ '=' :: front.toList.reverse := by
    simp
  rw [lastValue, List.rtakeWhile, hline, List.takeWhile_append_of_pos hword,
    List.takeWhile_cons_of_neg (by decide), List.append_nil, List.reverse_reverse,
      String.ofList_toList]

namespace Replay

/-- The entry is about a message, or a frame that is none, with the status. -/
inductive TellsStatus : Entry → UInt32 → Prop
  | sent (m : Message) : TellsStatus (.sent m) m.status
  | received (m : Message) : TellsStatus (.received m) m.status
  | header (h : Pdu.Header) : TellsStatus (AutoReply.headerEntry h) h.status
  | passedOver (m : Message) : TellsStatus (passedOverEntry m) m.status

namespace TellsStatus

variable {e : Entry} {n : UInt32}

/-- The line of the entry ends with the status. -/
theorem exists_text
    (h : TellsStatus e n) :
    ∃ front, e.text = front ++ "=" ++ StatusCode.label n := by
  have hstatus : "status=" = "status" ++ "=" := rfl
  have hcomma : ", status=" = ", status" ++ "=" := rfl
  have hsummary : ∀ (words : String) (m : Message),
      ∃ front, words ++ m.summary = front ++ "=" ++ StatusCode.label m.status := by
    intro words m
    refine ⟨words ++ "seq=" ++ m.sequence.toNat.repr ++ ", type=" ++ m.type.name ++
      ", status", ?_⟩
    change words ++ ("seq=" ++ m.sequence.toNat.repr ++ ", type=" ++ m.type.name ++
      ", status=" ++ StatusCode.label m.status) = _
    rw [hcomma]
    simp only [String.append_assoc]
  cases h with
  | sent m | received m | passedOver m =>
      exact hsummary _ m
  | header h =>
      refine ⟨"Received PDU, seq=" ++ h.sequence.toNat.repr ++ ", type=" ++
        MessageType.label h.commandId ++ ", " ++ "status", ?_⟩
      change "Received PDU, seq=" ++ h.sequence.toNat.repr ++ ", type=" ++
        MessageType.label h.commandId ++ ", " ++ ("status=" ++ StatusCode.label h.status) = _
      rw [hstatus]
      simp only [String.append_assoc]

/-- **What an entry shows is the label of the status.** -/
theorem lastValue_text
    (h : TellsStatus e n) :
    Transcript.lastValue e.text = StatusCode.label n := by
  obtain ⟨front, hfront⟩ := h.exists_text
  rw [hfront]
  exact Transcript.lastValue_append (fun c hc => (Batch.plain_of_mem_label hc).2) front

theorem status_of_message
    {m : Message}
    (h : TellsStatus e n)
    (hm : e.message = some m) :
    m.status = n := by
  cases h with
  | sent m' | received m' =>
      obtain rfl : m' = m := Option.some.inj hm
      rfl
  | header h | passedOver m' =>
      cases hm

end TellsStatus

/-- The entry that a frame makes tells the status in the frame's header. -/
theorem tellsStatus_of_arrivalEntry
    {frame : List UInt8} {e : Entry}
    (h : AutoReply.arrivalEntry frame = some e) :
    TellsStatus e (UInt32.ofNat (Pdu.wordAt frame 8)) := by
  unfold AutoReply.arrivalEntry at h
  split at h
  · rename_i m hdecode
    obtain rfl := Option.some.inj h
    obtain ⟨header, hparse, -, hstatus, -⟩ := Pdu.header_of_decode hdecode
    obtain ⟨-, hword, -⟩ := Pdu.parse_eq_words hparse
    rw [← hword, ← hstatus]
    exact .received m
  · split at h
    · rename_i header hparse
      obtain rfl := Option.some.inj h
      obtain ⟨-, hword, -⟩ := Pdu.parse_eq_words hparse
      rw [← hword]
      exact .header header
    · cases h

/-! ### Fields of messages -/

/-- The keys of the lines that show statuses: that of the message, and those of its failed
destinations. -/
def statusKeys : List String :=
  [Batch.statusName, "ErrorStatusCode"]

theorem mem_statusKeys_iff (key : String) :
    key ∈ statusKeys ↔ key = "CommandStatus" ∨ key = "ErrorStatusCode" := by
  simp [statusKeys, Batch.statusName]

/-- No field has one of these keys for its label. -/
theorem label_notMem_statusKeys (t : MessageType) :
    (∀ f ∈ t.layout.mandatory, f.label ∉ statusKeys) ∧
      ∀ s ∈ t.layout.optional, s.label ∉ statusKeys := by
  cases t <;> decide +kernel

/-- Of the lines of a mandatory field those of failed destinations show statuses. -/
theorem mem_mandatoryLines_iff
    {f : FieldSpec} {key : String}
    (hf : f.label ∉ statusKeys)
    (hkey : key ∈ statusKeys)
    (v : FieldValue) (value : String) :
    (key, value) ∈ Message.mandatoryLines f v ↔
      key = "ErrorStatusCode" ∧ ∃ ds, v = .unsuccessful ds ∧
        ∃ d ∈ ds, value = StatusCode.label d.status := by
  have hlabel : key ≠ f.label := ne_of_mem_of_not_mem hkey hf
  have hkeys := (mem_statusKeys_iff key).1 hkey
  cases v with
  | destinations ds =>
      refine iff_of_false (fun hmem => ?_) (by rintro ⟨-, ds, ⟨⟩, -⟩)
      obtain ⟨d, -, hd⟩ := List.mem_flatMap.1 hmem
      rcases hkeys with rfl | rfl <;> cases d <;>
        simp [Message.destinationLines, hlabel] at hd
  | unsuccessful ds =>
      have hline : ∀ d, (key, value) ∈ Message.failedDestinationLines f.label d ↔
          key = "ErrorStatusCode" ∧ value = StatusCode.label d.status := by
        intro d
        rcases hkeys with rfl | rfl <;> simp [Message.failedDestinationLines, hlabel]
      refine List.mem_flatMap.trans ?_
      simp only [hline]
      constructor
      · rintro ⟨d, hd, hfailed, hvalue⟩
        exact ⟨hfailed, ds, rfl, d, hd, hvalue⟩
      · rintro ⟨hfailed, ds', hds, d, hd, hvalue⟩
        obtain rfl := FieldValue.unsuccessful.inj hds
        exact ⟨d, hd, hfailed, hvalue⟩
  | _ =>
      refine iff_of_false ?_ (by rintro ⟨-, ds, ⟨⟩, -⟩)
      simp [Message.mandatoryLines, hlabel]

/-- **The lines that show statuses** are one for the message and one for each of its failed
destinations. -/
theorem mem_fieldLines_iff
    {key : String}
    (hkey : key ∈ statusKeys)
    (m : Message) (value : String) :
    (key, value) ∈ m.fieldLines ↔
      key = Batch.statusName ∧ value = StatusCode.label m.status ∨
        key = "ErrorStatusCode" ∧ ∃ f ds, (f, .unsuccessful ds) ∈ m.mandatoryFields ∧
          ∃ d ∈ ds, value = StatusCode.label d.status := by
  obtain ⟨hmandatory, hoptional⟩ := label_notMem_statusKeys m.type
  have hlines : ∀ f v, (f, v) ∈ m.mandatoryFields →
    ((key, value) ∈ Message.mandatoryLines f v ↔
      key = "ErrorStatusCode" ∧ ∃ ds, v = .unsuccessful ds ∧
        ∃ d ∈ ds, value = StatusCode.label d.status) :=
    fun f v hfield =>
      mem_mandatoryLines_iff (hmandatory f ((Pdu.mem_mandatoryFields_iff m f v).1 hfield).1)
        hkey v value
  have hkeys := (mem_statusKeys_iff key).1 hkey
  constructor
  · intro h
    rcases List.mem_append.1 h with h | h
    rcases List.mem_append.1 h with h | h
    rcases List.mem_append.1 h with h | h
    · rcases hkeys with rfl | rfl
      · exact .inl (by simpa [Batch.statusName] using h)
      · simp at h
    · obtain ⟨⟨f, v⟩, hfield, hline⟩ := List.mem_flatMap.1 h
      obtain ⟨hfailed, ds, rfl, hds⟩ := (hlines f v hfield).1 hline
      exact .inr ⟨hfailed, f, ds, hfield, hds⟩
    · obtain ⟨⟨spec, v⟩, hfield, hline⟩ := List.mem_map.1 h
      have hspec := ((Pdu.mem_optionalFields_iff m spec v).1 hfield).1
      have hlabel : spec.label = key := congrArg Prod.fst hline
      exact absurd (hlabel ▸ hkey) (hoptional spec hspec)
    · -- The keys of raw fields begin with another letter.
      obtain ⟨t, -, hline⟩ := List.mem_map.1 h
      have hfirst := congrArg (fun x : String × String => x.1.toList.head?) hline
      rcases hkeys with rfl | rfl <;> simp at hfirst
  · rintro (⟨rfl, rfl⟩ | ⟨hfailed, f, ds, hfield, hds⟩)
    · simp [Message.fieldLines, Batch.statusName]
    · have hline := (hlines f _ hfield).2 ⟨hfailed, ds, rfl, hds⟩
      refine List.mem_append_left _ (List.mem_append_left _ (List.mem_append_right _ ?_))
      exact List.mem_flatMap.2 ⟨_, hfield, hline⟩

/-! ### Runs -/

/-- If the entry says that a message was sent or has arrived, it tells its status. -/
def Told (e : Entry) : Prop :=
  e.kind = .sent ∨ e.kind = .received → ∃ n, TellsStatus e n

theorem told_of_kind
    {e : Entry}
    (hsent : e.kind ≠ .sent)
    (hreceived : e.kind ≠ .received) :
    Told e := by
  rintro (h | h)
  · exact absurd h hsent
  · exact absurd h hreceived

theorem Leaves.told
    {isOpen isOpen' : Bool} {event : Event} {es : List Entry}
    (h : Leaves isOpen event es isOpen') :
    ∀ e ∈ es, Told e := by
  cases h with
  | sent m sequence =>
      exact List.forall_mem_singleton.2 fun _ => ⟨_, .sent _⟩
  | waited | switched =>
      exact List.forall_mem_nil _
  | _ =>
      exact List.forall_mem_singleton.2 (told_of_kind (by rintro ⟨⟩) (by rintro ⟨⟩))

theorem LeavesAll.told
    {isOpen isOpen' : Bool} {events : Batch} {es : List Entry}
    (h : LeavesAll isOpen events es isOpen') :
    ∀ e ∈ es, Told e := by
  induction h with
  | nil =>
      exact List.forall_mem_nil _
  | cons hleaves _ ih =>
      exact List.forall_mem_append.2 ⟨hleaves.told, ih⟩

/-- The entries of the script are those of its events, and one for a session that is still
open at the end. -/
theorem Transcribed.told
    {batch : Batch} {s : State}
    (h : Transcribed batch s) :
    ∀ e ∈ entries (scriptPart s.trace), Told e := by
  cases h with
  | running _ _ _ hleaves | complete _ hleaves =>
      exact hleaves.told
  | closed result _ hleaves hentries =>
      rw [hentries]
      refine List.forall_mem_append.2 ⟨hleaves.told, List.forall_mem_singleton.2 ?_⟩
      cases result <;> exact told_of_kind (by rintro ⟨⟩) (by rintro ⟨⟩)

/-- The entries of the inbound side are about frames that have arrived, about replies, and
about the connection. -/
theorem Stretch.told
    {u u' : Underway} {ks : List Mark}
    (h : Stretch u ks u') :
    ∀ e, .logged .inbound e ∈ ks → Told e := by
  intro e he
  cases h with
  | script hks =>
      exact absurd (isScript_of_isPlain (hks _ he)) Bool.false_ne_true
  | handed | sent | failed | reported | replied | interrupted | notified =>
      simp at he
  | arrived hdue =>
      cases hdue with
      | nothing =>
          simp [arrival] at he
      | @header header =>
          obtain rfl : e = AutoReply.headerEntry header := by
            simpa [arrival] using he
          exact fun _ => ⟨_, .header _⟩
      | @entry m | @reply m =>
          obtain rfl : e = .received m := by
            simpa [arrival] using he
          exact fun _ => ⟨_, .received _⟩
  | @noted _ _ r result =>
      obtain rfl : e = AutoReply.outcomeEntry r.message result.cause? := by
        simpa using he
      cases result with
      | ok =>
          exact fun _ => ⟨_, .sent _⟩
      | failed cause =>
          exact told_of_kind (by rintro ⟨⟩) (by rintro ⟨⟩)
  | lost =>
      obtain rfl : e = AutoReply.lostEntry := by
        simpa using he
      exact told_of_kind (by rintro ⟨⟩) (by rintro ⟨⟩)

theorem Course.told
    {u u' : Underway} {l : List Mark}
    (h : Course u l u') :
    ∀ e, .logged .inbound e ∈ l → Told e := by
  induction h with
  | nil =>
      exact fun _ he => absurd he List.not_mem_nil
  | snoc _ hks ih =>
      intro e he
      exact (List.mem_append.1 he).elim (ih e) (hks.told e)

/-- **The entries about messages that were sent or have arrived** tell their statuses, in
every run. -/
theorem exists_tellsStatus_of_mem_log
    {defaults : AutoReply.TypeSet} {batch : Batch} {moves : List Move} {e : Entry}
    (he : e ∈ (steps (.start defaults batch) moves).log)
    (hkind : e.kind = .sent ∨ e.kind = .received) :
    ∃ n, TellsStatus e n := by
  have hscript := (accounted_steps defaults batch moves).transcribed.told
  have hinbound := (course_steps defaults batch moves).told
  obtain ⟨k, hk, hlogged⟩ := List.mem_filterMap.1 he
  cases k with
  | logged side e' =>
      obtain rfl : e' = e := Option.some.inj hlogged
      cases side with
      | script =>
          exact hscript e' (List.mem_filterMap.2 ⟨_, List.mem_filter.2 ⟨hk, rfl⟩, rfl⟩) hkind
      | inbound =>
          exact hinbound e' hk hkind
  | _ =>
      cases hlogged

/-! ### The laws -/

/-- Statuses in scripts and in transcripts. -/
structure StatusLaws : Prop where
  /-- A number finds the code that has it, -/
  coded : ∀ n c, StatusCode.ofCode? n = some c ↔ c.code = n
  /-- and a text the code of whose name it is a spelling; -/
  named : ∀ s c, StatusCode.ofName? s = some c ↔ Respells s c.name
  /-- then it is no literal of a number. -/
  apart : ∀ s c, StatusCode.ofName? s = some c → Text.Numeral.integer? s = none
  /-- A status is given by the literals of its number and by the spellings of its name, -/
  given : ∀ raw n, Batch.readStatus raw = .ok n ↔
    (∃ core, Trims raw.toList core ∧ Literal core n.toNat) ∨
      ∃ c : StatusCode, Respells raw c.name ∧ c.code = n
  /-- and so by all spellings of its label. -/
  label : ∀ n raw, Respells raw (StatusCode.label n) → Batch.readStatus raw = .ok n
  /-- So every message whose element holds a spelling of the label of a status is compiled
  to one with this status. -/
  carried : ∀ (d : Batch.Defaults) (n : UInt32) (root pdu child : Script.Element)
      (before after : List Script.Element) (batch : Batch),
    root.children = before ++ pdu :: after → pdu.isNamed "PDU" →
    pdu.child? Batch.statusName = some child → Respells child.text (StatusCode.label n) →
    Batch.compile d root = .ok batch →
      ∃ m, (Batch.messages batch)[(Batch.messageElements before).length]? = some m ∧
        m.status = n
  /-- Nothing else depends on it: the element makes the message that it makes without one,
  but for the status, -/
  message : ∀ (d : Batch.Defaults) (next n : UInt32) (pdu child : Script.Element),
    pdu.child? Batch.statusName = some child → Respells child.text (StatusCode.label n) →
      Batch.message d next pdu = (·.withStatus n) <$>
        Batch.message d next (Batch.withoutStatus pdu)
  /-- and the script compiles to the same events or fails with the same fault, but for the
  status of this message. -/
  script : ∀ (d : Batch.Defaults) (n : UInt32) (root pdu child : Script.Element)
      (before after : List Script.Element),
    root.children = before ++ pdu :: after → pdu.isNamed "PDU" →
    pdu.child? Batch.statusName = some child → Respells child.text (StatusCode.label n) →
      Batch.compile d root = Batch.withStatusAt n (Batch.messageElements before).length <$>
        Batch.compile d (Batch.holding root (before ++ Batch.withoutStatus pdu :: after))
  /-- The entries of a run about messages that were sent or have arrived tell their
  statuses, -/
  told : ∀ defaults batch moves, ∀ e ∈ (steps (.start defaults batch) moves).log,
    e.kind = .sent ∨ e.kind = .received → ∃ n, TellsStatus e n
  /-- for a frame the one in its header. -/
  arrived : ∀ frame e, AutoReply.arrivalEntry frame = some e →
    TellsStatus e (UInt32.ofNat (Pdu.wordAt frame 8))
  /-- What they show is the label of the status, at the end of their line -/
  shown : ∀ e n, TellsStatus e n → Transcript.lastValue e.text = StatusCode.label n ∧
    ∀ m, e.message = some m → m.status = n
  /-- and in the line of their message with the key of the status; the lines of failed
  destinations show theirs. -/
  fields : ∀ key ∈ statusKeys, ∀ (m : Message) value, (key, value) ∈ m.fieldLines ↔
    key = Batch.statusName ∧ value = StatusCode.label m.status ∨
      key = "ErrorStatusCode" ∧ ∃ f ds, (f, .unsuccessful ds) ∈ m.mandatoryFields ∧
        ∃ d ∈ ds, value = StatusCode.label d.status

/-- **Statuses that are shown can be given.** -/
theorem statusLaws : StatusLaws where
  coded := StatusCode.ofCode?_eq_some_iff
  named := StatusCode.ofName?_eq_some_iff
  apart := fun _ _ h => StatusCode.integer?_of_respells
    ((StatusCode.ofName?_eq_some_iff ..).1 h)
  given := Batch.readStatus_eq_ok_iff
  label := fun _ _ => Batch.readStatus_of_respells
  carried := fun _ _ _ _ _ _ _ _ hroot hpdu hchild h hcompile =>
    Batch.exists_message_of_givenStatus hcompile hroot hpdu
      (Batch.givenStatus_of_respells hchild h)
  message := fun d next _ _ _ hchild h =>
    Batch.message_of_givenStatus (Batch.givenStatus_of_respells hchild h) d next
  script := fun d _ _ _ _ _ _ hroot hpdu hchild h =>
    Batch.compile_of_givenStatus hroot hpdu (Batch.givenStatus_of_respells hchild h) d
  told := fun _ _ _ _ => exists_tellsStatus_of_mem_log
  arrived := fun _ _ => tellsStatus_of_arrivalEntry
  shown := fun _ _ h => ⟨h.lastValue_text, fun _ => h.status_of_message⟩
  fields := fun _ => mem_fieldLines_iff

end Replay
end SmppReplay
