import SmppReplay.Proofs.Batch.Origins
import SmppReplay.Proofs.Text.Lines
import SmppReplay.Transcript.Entry

/-!
# The lines of a transcript

**Question.** An entry about a message is meant to take one line for what happened and one
for each field.  Can the content of a message, which its sender chooses, make other lines of
it?

**Method.** A text has one more line than it has line feeds, and the number of line feeds is
additive (`feeds_append`).  So it is enough to count them in everything that is shown:
numerals, names and labels have none, octets are shown without any (`feeds_showOctets`), and
texts are shown as they are (`sum_feeds_fieldLines`).

**Answer.** Octets cannot.  Texts can: each line feed in a text of the message is a further
line.

Main fact:
* `lines_of_shown`: the lines of an entry, their number, and when they are one for each field.
-/

namespace SmppReplay

open Text (feeds lines)

/-! ### What is shown without a line feed -/

@[simp] theorem feeds_typeName (t : MessageType) :
    feeds t.name = 0 := by
  cases t <;> exact Text.feeds_literal rfl

theorem feeds_statusName (s : StatusCode) :
    feeds s.name = 0 := by
  cases s <;> exact Text.feeds_literal rfl

@[simp] theorem feeds_statusLabel (n : UInt32) :
    feeds (StatusCode.label n) = 0 := by
  unfold StatusCode.label
  split
  · exact feeds_statusName _
  · exact Text.feeds_repr _

/-- The labels of the fields of a type are on one line. -/
theorem feeds_labels (t : MessageType) :
    (∀ f ∈ t.layout.mandatory, feeds f.label = 0) ∧
      ∀ s ∈ t.layout.optional, feeds s.label = 0 := by
  cases t <;> constructor <;>
    repeat' first
      | exact List.forall_mem_nil _
      | refine List.forall_mem_cons.2 ⟨Text.feeds_literal rfl, ?_⟩

/-- The number of lines of a destination. -/
def Destination.lineCount : Destination → Nat
  | .address _ _ _ => 3
  | .distributionList _ => 1

namespace FieldValue

@[simp] theorem feeds_hexOctets (bs : List UInt8) :
    feeds (hexOctets bs) = 0 := by
  rw [hexOctets, Text.feeds_append, Text.feeds_upper]
  rfl

theorem feed_notMem_onOneLine (c : Char) :
    '\n' ∉ onOneLine c := by
  unfold onOneLine
  split_ifs with hfeed
  · decide
  · decide
  · decide
  · exact fun h => hfeed (List.mem_singleton.1 h).symm

/-- Octets are shown on one line, whatever they are. -/
@[simp] theorem feeds_showOctets (bs : List UInt8) :
    feeds (showOctets bs) = 0 := by
  unfold showOctets
  split
  · split_ifs
    · exact feeds_hexOctets bs
    · refine Text.feeds_ofList_eq_zero ?_
      rintro c hc rfl
      obtain ⟨c', -, hc⟩ := List.mem_flatMap.1 hc
      exact feed_notMem_onOneLine c' hc
  · exact feeds_hexOctets bs

/-- The number of lines of a mandatory field with the value: one, but for lists some for
each item. -/
def lineCount : FieldValue → Nat
  | .destinations ds => (ds.map Destination.lineCount).sum
  | .unsuccessful fs => 4 * fs.length
  | _ => 1

/-- A value that is no list is shown with the line feeds of its texts. -/
theorem feeds_render
    {v : FieldValue}
    (hdestinations : ∀ ds, v ≠ .destinations ds)
    (hunsuccessful : ∀ fs, v ≠ .unsuccessful fs) :
    feeds v.render = (v.texts.map feeds).sum := by
  cases v with
  | u8 n | u16 n | u32 n =>
      exact Text.feeds_repr _
  | text s =>
      exact (Nat.add_zero _).symm
  | octets bs =>
      exact feeds_showOctets bs
  | flag =>
      rfl
  | networkError networkType errorCode =>
      change feeds ("type=" ++ networkType.toNat.repr ++ ", code=" ++
        errorCode.toNat.repr) = 0
      rw [Text.feeds_append, Text.feeds_append, Text.feeds_append, Text.feeds_repr,
        Text.feeds_repr]
      rfl
  | destinations ds =>
      exact absurd rfl (hdestinations ds)
  | unsuccessful fs =>
      exact absurd rfl (hunsuccessful fs)

end FieldValue

/-! ### The fields of a message -/

theorem sum_map_flatMap {α β : Type} (f : β → Nat) (g : α → List β) (as : List α) :
    ((as.flatMap g).map f).sum = (as.map fun a => ((g a).map f).sum).sum := by
  rw [List.map_flatMap, List.flatMap_def, List.sum_flatten, List.map_map]
  rfl

/-- The line feeds in keys and values. -/
def fieldFeeds (f : String × String) : Nat :=
  feeds f.1 + feeds f.2

namespace Message

theorem sum_feeds_destinationLines
    {label : String}
    (hlabel : feeds label = 0)
    (d : Destination) :
    ((destinationLines label d).map fieldFeeds).sum = feeds d.text := by
  cases d with
  | address ton npi s =>
      have hton : feeds "DestAddrTON" = 0 := rfl
      have hnpi : feeds "DestAddrNPI" = 0 := rfl
      simp [destinationLines, fieldFeeds, hlabel, hton, hnpi, Destination.text]
  | distributionList s =>
      have hlist : feeds "DistributionList" = 0 := rfl
      simp [destinationLines, fieldFeeds, hlist, Destination.text]

theorem sum_feeds_failedDestinationLines
    {label : String}
    (hlabel : feeds label = 0)
    (d : FailedDestination) :
    ((failedDestinationLines label d).map fieldFeeds).sum = feeds d.address := by
  have hton : feeds "UnsuccessAddrTON" = 0 := rfl
  have hnpi : feeds "UnsuccessAddrNPI" = 0 := rfl
  have hstatus : feeds "ErrorStatusCode" = 0 := rfl
  simp [failedDestinationLines, fieldFeeds, hlabel, hton, hnpi, hstatus]

theorem length_mandatoryLines (f : FieldSpec) (v : FieldValue) :
    (mandatoryLines f v).length = v.lineCount := by
  cases v with
  | destinations ds =>
      rw [mandatoryLines, List.length_flatMap, FieldValue.lineCount]
      refine congrArg List.sum (List.map_congr_left fun d _ => ?_)
      cases d <;> rfl
  | unsuccessful fs =>
      have hfour : fs.map (fun d => (failedDestinationLines f.label d).length) =
          fs.map fun _ => 4 := rfl
      rw [mandatoryLines, List.length_flatMap, FieldValue.lineCount, hfour, List.map_const',
        List.sum_replicate, smul_eq_mul, Nat.mul_comm]
  | _ =>
      rfl

/-- The lines of a mandatory field have the line feeds of the texts in its value. -/
theorem sum_feeds_mandatoryLines
    {f : FieldSpec}
    (hlabel : feeds f.label = 0)
    (v : FieldValue) :
    ((mandatoryLines f v).map fieldFeeds).sum = (v.texts.map feeds).sum := by
  cases v with
  | destinations ds =>
      rw [mandatoryLines, sum_map_flatMap, FieldValue.texts, List.map_map]
      exact congrArg List.sum (List.map_congr_left fun d _ =>
        sum_feeds_destinationLines hlabel d)
  | unsuccessful fs =>
      rw [mandatoryLines, sum_map_flatMap, FieldValue.texts, List.map_map]
      exact congrArg List.sum
        (List.map_congr_left fun d _ => sum_feeds_failedDestinationLines hlabel d)
  | _ =>
      simp only [mandatoryLines, List.map_cons, List.map_nil, List.sum_cons, List.sum_nil,
        Nat.add_zero, fieldFeeds, hlabel, Nat.zero_add]
      exact FieldValue.feeds_render nofun nofun

/-- The line of an optional field has the line feeds of the text in its value. -/
theorem fieldFeeds_optional
    {spec : TlvSpec} {v : FieldValue}
    (hlabel : feeds spec.label = 0)
    (hform : v.fitsTlv spec.kind) :
    fieldFeeds (spec.label, v.render) = (v.texts.map feeds).sum := by
  rw [fieldFeeds, hlabel, Nat.zero_add]
  refine FieldValue.feeds_render ?_ ?_
  · rintro ds rfl
    cases hkind : spec.kind <;> rw [hkind] at hform <;> cases hform
  · rintro fs rfl
    cases hkind : spec.kind <;> rw [hkind] at hform <;> cases hform

/-- The texts in a message: those of its sender. -/
def texts (m : Message) : List String :=
  m.mandatoryFields.flatMap (fun x => x.2.texts) ++
    m.optionalFields.flatMap fun x => x.2.texts

/-- The number of the lines of a message: two, and those of its fields. -/
theorem length_fieldLines (m : Message) :
    m.fieldLines.length =
      2 + (m.mandatoryFields.map fun x => x.2.lineCount).sum + m.optionalFields.length +
        m.unknown.length := by
  simp only [fieldLines, List.length_append, List.length_flatMap, List.length_map,
    length_mandatoryLines, List.length_cons, List.length_nil]

/-- **All line feeds in the fields of a message are in its texts.** -/
theorem sum_feeds_fieldLines
    {m : Message}
    (hm : m.WellFormed) :
    (m.fieldLines.map fieldFeeds).sum = (m.texts.map feeds).sum := by
  obtain ⟨hmandatory, hoptional⟩ := feeds_labels m.type
  have hfields : ((m.mandatoryFields.flatMap fun x =>
    mandatoryLines x.1 x.2).map fieldFeeds).sum =
      ((m.mandatoryFields.flatMap fun x => x.2.texts).map feeds).sum := by
    rw [sum_map_flatMap, sum_map_flatMap]
    refine congrArg List.sum (List.map_congr_left fun x hx => ?_)
    exact sum_feeds_mandatoryLines
      (hmandatory _ ((Pdu.mem_mandatoryFields_iff m _ _).1 hx).1) _
  have htlvs : ((m.optionalFields.map fun x => (x.1.label, x.2.render)).map fieldFeeds).sum =
      ((m.optionalFields.flatMap fun x => x.2.texts).map feeds).sum := by
    rw [sum_map_flatMap, List.map_map]
    refine congrArg List.sum (List.map_congr_left fun x hx => ?_)
    obtain ⟨hspec, hget⟩ := (Pdu.mem_optionalFields_iff m _ _).1 hx
    exact fieldFeeds_optional (hoptional _ hspec) (Pdu.fitsTlv_of_get? hm hspec hget)
  have hraw : ((m.unknown.map fun t => ("Tlv0x" ++ Text.Numeral.hexPadded 4 t.tag.toNat,
      FieldValue.hexOctets t.value)).map fieldFeeds).sum = 0 := by
    refine List.sum_eq_zero_iff.2 ?_
    rw [List.map_map, List.forall_mem_map]
    intro t _
    have hprefix : feeds "Tlv0x" = 0 := rfl
    simp [fieldFeeds, hprefix]
  have hhead : ([("Sequence", toString m.sequence.toNat),
      ("CommandStatus", StatusCode.label m.status)].map fieldFeeds).sum = 0 := by
    have hsequence : feeds "Sequence" = 0 := rfl
    have hstatus : feeds "CommandStatus" = 0 := rfl
    simp [fieldFeeds, hsequence, hstatus]
  rw [fieldLines, texts, List.map_append, List.map_append, List.map_append, List.sum_append,
    List.sum_append, List.sum_append, hhead, hfields, htlvs, hraw, List.map_append,
      List.sum_append,
    Nat.zero_add, Nat.add_zero]

theorem feeds_summary (m : Message) :
    feeds m.summary = 0 := by
  have hsequence : feeds "seq=" = 0 := rfl
  have htype : feeds ", type=" = 0 := rfl
  have hstatus : feeds ", status=" = 0 := rfl
  change feeds ("seq=" ++ m.sequence.toNat.repr ++ ", type=" ++ m.type.name ++ ", status=" ++
    StatusCode.label m.status) = 0
  simp [hsequence, htype, hstatus]

end Message

/-! ### Entries -/

namespace Transcript

theorem ClockTime.feeds_render (t : ClockTime) :
    feeds t.render = 0 := by
  have hcolon : feeds ":" = 0 := rfl
  have hpoint : feeds "." = 0 := rfl
  simp [ClockTime.render, hcolon, hpoint]

namespace Entry

/-- A field of a message as it is shown, without the line feed in front. -/
def shownField (f : String × String) : String :=
  "    " ++ f.1 ++ "=" ++ f.2

/-- Each field begins a line. -/
theorem lines_join (s : String) (fs : List (String × String)) :
    lines (s ++ String.join (fs.map fieldLine)) = lines s ++ fs.flatMap fun f =>
      lines (shownField f) := by
  induction fs generalizing s with
  | nil =>
      simp
  | cons f fs ih =>
      have hfield : fieldLine f = "\n" ++ shownField f := by
        rw [shownField, ← String.append_assoc, ← String.append_assoc, ← String.append_assoc]
        rfl
      rw [List.map_cons, String.join_cons, hfield, String.append_assoc,
        Text.lines_append_feed, ih, List.flatMap_cons]

/-- The first line of an entry. -/
def head (t : ClockTime) (e : Entry) : String :=
  t.render ++ " " ++ e.text

/-- The entry is about the message, and says so on one line. -/
structure Presents (e : Entry) (m : Message) : Prop where
  message : e.message = some m
  text : feeds e.text = 0

theorem presents_sent (m : Message) :
    Presents (sent m) m := by
  refine ⟨rfl, ?_⟩
  rw [sent, Text.feeds_append, m.feeds_summary]
  rfl

theorem presents_received (m : Message) :
    Presents (received m) m := by
  refine ⟨rfl, ?_⟩
  rw [received, Text.feeds_append, m.feeds_summary]
  rfl

namespace Presents

variable {e : Entry} {m : Message}

/-- The lines of an entry: the first one, and for each field its own. -/
theorem lines_render
    (h : Presents e m)
    (t : ClockTime) :
    lines (e.render t) = head t e :: m.fieldLines.flatMap fun f => lines (shownField f) := by
  have hblank : feeds " " = 0 := rfl
  have hhead : feeds (head t e) = 0 := by
    simp [head, t.feeds_render, hblank, h.text]
  have hrender : e.render t = head t e ++ String.join (m.fieldLines.map fieldLine) := by
    rw [render, h.message]
    rfl
  rw [hrender, lines_join, Text.lines_of_feeds_eq_zero hhead]
  rfl

theorem feeds_shownField (f : String × String) :
    feeds (shownField f) = fieldFeeds f := by
  have hindent : feeds "    " = 0 := rfl
  have hequals : feeds "=" = 0 := rfl
  simp [shownField, fieldFeeds, hindent, hequals]

/-- There is one line more for each line feed in a text of the message. -/
theorem length_lines_render
    (h : Presents e m)
    (hm : m.WellFormed)
    (t : ClockTime) :
    (lines (e.render t)).length = 1 + m.fieldLines.length + (m.texts.map feeds).sum := by
  have hfields : (m.fieldLines.map fun f => (lines (shownField f)).length).sum =
      m.fieldLines.length + (m.fieldLines.map fieldFeeds).sum := by
    simp only [Text.length_lines, feeds_shownField, List.sum_map_add, List.map_const',
      List.sum_replicate, smul_eq_mul, Nat.mul_one]
    exact Nat.add_comm _ _
  rw [h.lines_render, List.length_cons, List.length_flatMap, hfields,
    Message.sum_feeds_fieldLines hm]
  omega

end Presents

end Entry

/-- The messages of a transcript: those that were read, and those of scripts, which get
their numbers last. -/
inductive Shown : Message → Prop
  | received {frame : List UInt8} {m : Message} (h : Pdu.decode frame = .ok m) :
      Shown m
  | compiled {d : Batch.Defaults} {root : Script.Element} {batch : Batch} {m : Message}
      (h : Batch.compile d root = .ok batch) (hm : Event.send m ∈ batch) :
      Shown m
  | numbered {m : Message} (h : Shown m) (n : UInt32) :
      Shown (m.withSequence n)

theorem Shown.wellFormed
    {m : Message}
    (h : Shown m) :
    m.WellFormed := by
  induction h with
  | received h =>
      exact (Message.Origin.decoded h).wellFormed
  | compiled h hm =>
      obtain ⟨pdu, -, next, hmessage⟩ := Batch.exists_message_of_mem_elements h hm
      exact (Message.Origin.compiled hmessage).wellFormed
  | numbered _ n ih =>
      exact ih.withSequence n

/-- The lines of an entry about a message. -/
structure LineStructure (t : ClockTime) (e : Entry) (m : Message) : Prop where
  /-- Number and status, each mandatory field with its lines, and one line for each other
  field. -/
  fields : m.fieldLines.length =
    2 + (m.mandatoryFields.map fun x => x.2.lineCount).sum + m.optionalFields.length +
      m.unknown.length
  lines_eq : lines (e.render t) =
    e.head t :: m.fieldLines.flatMap fun f => lines (Entry.shownField f)
  /-- There is one more line for each line feed in a text. -/
  length_eq : (lines (e.render t)).length = 1 + m.fieldLines.length + (m.texts.map feeds).sum
  /-- Each field is on one line if and only if no text has a line feed. -/
  regular_iff : lines (e.render t) = e.head t :: m.fieldLines.map Entry.shownField ↔
    ∀ s ∈ m.texts, '\n' ∉ s.toList

theorem Entry.Presents.lineStructure
    {e : Entry} {m : Message}
    (h : e.Presents m)
    (hm : m.WellFormed)
    (t : ClockTime) :
    LineStructure t e m := by
  refine ⟨m.length_fieldLines, h.lines_render t, h.length_lines_render hm t, ?_⟩
  have hzero : (m.texts.map feeds).sum = 0 ↔ ∀ s ∈ m.texts, '\n' ∉ s.toList := by
    simp only [List.sum_eq_zero_iff, List.forall_mem_map, Text.feeds_eq_zero_iff]
  rw [← hzero]
  constructor
  · intro hlines
    have hlength := h.length_lines_render hm t
    rw [hlines, List.length_cons, List.length_map] at hlength
    omega
  · intro hsum
    rw [← Message.sum_feeds_fieldLines hm, List.sum_eq_zero_iff, List.forall_mem_map] at hsum
    rw [h.lines_render, List.map_eq_flatMap]
    refine congrArg _ (List.flatMap_congr fun f hf => ?_)
    exact Text.lines_of_feeds_eq_zero ((Entry.Presents.feeds_shownField f).trans (hsum f hf))

/-- **The lines of a transcript.** -/
theorem lines_of_shown
    (m : Message) (t : ClockTime)
    (h : Shown m) :
    LineStructure t (.received m) m ∧ LineStructure t (.sent m) m :=
  ⟨(Entry.presents_received m).lineStructure h.wellFormed t,
    (Entry.presents_sent m).lineStructure h.wellFormed t⟩

/-- A response whose identifier is the given text, of at most 14 octets. -/
def identified (s : String) : List UInt8 :=
  [0, 0, 0, UInt8.ofNat (17 + s.length), 128, 0, 0, 4, 0, 0, 0, 0, 0, 0, 0, 1] ++
    Text.Utf8.encode s ++ [0]

/-- The message of such a response. -/
def identifiedMessage (s : String) : Message :=
  Message.build .submitSmResp [.sequence 1, .setMandatory .messageId (.text s)]

/-- Noon. -/
def noon : ClockTime := ⟨12, 0, 0, 0⟩

/-- An identifier that only looks like a field of its own. -/
theorem lines_of_identified :
    lines ((Entry.received (identifiedMessage "1    A=2")).render noon) =
      ["12:00:00.000 Received PDU, seq=1, type=SUBMIT_SM_RESP, status=ESME_ROK",
        "    Sequence=1", "    CommandStatus=ESME_ROK", "    MessageID=1    A=2"] := by
  have hread : Pdu.decode (identified "1    A=2") = .ok (identifiedMessage "1    A=2") := by
    decide +kernel
  have h := (lines_of_shown _ noon (.received hread)).1
  rw [h.regular_iff.2]
  · decide +kernel
  · intro s hs
    obtain rfl := List.mem_singleton.1 hs
    decide

/-- With a line feed in it, it is one. -/
theorem forged_line :
    Pdu.decode (identified "1\n    A=2") = .ok (identifiedMessage "1\n    A=2") ∧
      (identifiedMessage "1\n    A=2").fieldLines.length = 3 ∧
      lines ((Entry.received (identifiedMessage "1\n    A=2")).render noon) =
        ["12:00:00.000 Received PDU, seq=1, type=SUBMIT_SM_RESP, status=ESME_ROK",
          "    Sequence=1", "    CommandStatus=ESME_ROK", "    MessageID=1", "    A=2"] := by
  refine ⟨?_, ?_, ?_⟩ <;> decide +kernel

end Transcript

end SmppReplay
