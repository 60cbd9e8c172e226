import SmppReplay.Proofs.Batch.Composition
import SmppReplay.Proofs.Pdu.Changes
import SmppReplay.Proofs.Pdu.Rereading

/-!
# Where messages come from

**Question.** A message is made new, read from a frame, made as an answer, or compiled from
a script, and then it is changed.  Can it come to have a field that its type has not, to
lack one that it needs, or to hold a value of another kind?

**Answer.** No: each origin makes a well-formed message, and what the setters refuse changes
nothing (`representation_kept`).  The setters on the way to a message refuse nothing.  For
frames the reader goes by the layout; for scripts each reader of a child yields a value of
the kind of its field (`fits_of_mandatoryValue`, `fits_of_optionalValue`), and the fields of
an account are texts in every layout (`ofScript_setIfPresent`).  So a fault of a script is
one of its text (`OfScript`), until the finished message is written (`message_eq_draft`).
-/

namespace SmppReplay
namespace Batch

open Script (Element)

/-! ### Values of children -/

/-- A child for a mandatory field yields a value of its kind. -/
theorem fits_of_mandatoryValue
    {f : FieldSpec} {pdu child : Element} {v : FieldValue}
    (h : mandatoryValue f pdu child = .ok v) :
    v.fits f.kind := by
  unfold mandatoryValue at h
  generalize f.kind = kind at h ⊢
  cases kind with
  | text max =>
      obtain rfl := Except.ok.inj h
      rfl
  | unsuccessful =>
      cases h
  | _ =>
      obtain ⟨a, -, rfl⟩ := map_eq_ok h
      rfl

/-- A child for an optional field yields a value of its kind, or keeps the field away. -/
theorem fits_of_optionalValue
    {t : TlvSpec} {child : Element} {v : FieldValue}
    (h : optionalValue t child = .ok (some v)) :
    v.fitsTlv t.kind := by
  cases yields_of_optionalValue h with
  | u8 hkind | u16 hkind | u32 hkind | text hkind | octets hkind | flag hkind
  | networkError hkind =>
      rw [hkind]
      rfl

/-! ### Faults of the text of a script -/

/-- If there is no result, the fault is not one of a message. -/
def OfScript {α : Type} (r : Except CompileError α) : Prop :=
  ∀ e, r ≠ .error (.pdu e)

namespace OfScript

variable {α β : Type}

theorem ok (a : α) :
    OfScript (.ok a) := by
  rintro e ⟨⟩

theorem bind
    {r : Except CompileError α} {f : α → Except CompileError β}
    (hr : OfScript r)
    (hf : ∀ a, r = .ok a → OfScript (f a)) :
    OfScript (r >>= f) := by
  intro e h
  rcases bind_eq_error h with h | ⟨a, ha, h⟩
  · exact hr e h
  · exact hf a ha e h

theorem map
    {r : Except CompileError α}
    (hr : OfScript r)
    (g : α → β) :
    OfScript (r.map g) :=
  fun e h => hr e (map_eq_error h)

theorem mapM
    {f : α → Except CompileError β}
    (hf : ∀ a, OfScript (f a))
    (as : List α) :
    OfScript (as.mapM f) := by
  intro e h
  obtain ⟨a, -, ha⟩ := exists_of_mapM_eq_error h
  exact hf a e ha

theorem foldlM
    {f : β → α → Except CompileError β}
    (hf : ∀ b a, OfScript (f b a))
    (as : List α) (b : β) :
    OfScript (as.foldlM f b) := by
  induction as generalizing b with
  | nil =>
      exact ok b
  | cons a as ih =>
      rw [List.foldlM_cons]
      exact (hf b a).bind fun b' _ => ih b'

theorem numberOr (field raw : String) (n : Option α) :
    OfScript (numberOr field raw n) := by
  cases n <;> rintro e ⟨⟩

end OfScript

theorem ofScript_segmentHeader (e : Element) :
    OfScript (segmentHeader e) := by
  have hnumber : ∀ header key, OfScript (segmentNumber header key) := by
    intro header key
    unfold segmentNumber
    split
    · exact (OfScript.numberOr _ _ _).map some
    · exact OfScript.ok none
  unfold segmentHeader
  split
  · exact OfScript.ok []
  · refine (hnumber _ _).bind fun ref _ => (hnumber _ _).bind fun index _ =>
      (hnumber _ _).bind fun total _ => ?_
    split <;> exact OfScript.ok _

theorem ofScript_inheritedNumber (message : Element) (names : List String) :
    OfScript (inheritedNumber message names) := by
  induction names with
  | nil =>
      exact OfScript.ok 0
  | cons n names ih =>
      unfold inheritedNumber
      split
      · exact OfScript.numberOr _ _ _
      · exact ih

theorem ofScript_destination (ton npi : UInt8) (e : Element) :
    OfScript (destination ton npi e) := by
  have hnumber : ∀ name default, OfScript (numberIn e name default) := by
    intro name default
    unfold numberIn
    split
    · exact OfScript.numberOr _ _ _
    · exact OfScript.ok default
  unfold destination
  split
  · rintro e ⟨⟩
  · exact (hnumber _ _).bind fun ton _ => (hnumber _ _).bind fun npi _ => OfScript.ok _

theorem ofScript_destinations (message list : Element) :
    OfScript (destinations message list) := by
  unfold destinations
  refine (ofScript_inheritedNumber _ _).bind fun ton _ =>
    (ofScript_inheritedNumber _ _).bind fun npi _ =>
      (OfScript.mapM (ofScript_destination ton npi) _).bind fun ds _ => ?_
  split
  · rintro e ⟨⟩
  · exact OfScript.ok ds

theorem ofScript_mandatoryValue (f : FieldSpec) (pdu child : Element) :
    OfScript (mandatoryValue f pdu child) := by
  unfold mandatoryValue
  cases f.kind with
  | text max =>
      exact OfScript.ok _
  | integer =>
      exact (OfScript.numberOr _ _ _).map _
  | shortMessage =>
      exact ((ofScript_segmentHeader child).map _).map _
  | destinations =>
      exact (ofScript_destinations pdu child).map _
  | unsuccessful =>
      rintro e ⟨⟩

theorem ofScript_optionalValue (t : TlvSpec) (child : Element) :
    OfScript (optionalValue t child) := by
  unfold optionalValue
  generalize t.kind = kind
  cases kind with
  | u8 | u16 | u32 =>
      exact (OfScript.numberOr _ _ _).map _
  | text | octets | flag =>
      exact OfScript.ok _
  | networkError =>
      have hcode : ∀ networkType : UInt8, OfScript (do
          let code ← readUInt16 t.element child.trimmedText
          return some (FieldValue.networkError networkType code)) :=
        fun networkType => (OfScript.numberOr _ _ _).bind fun code _ => OfScript.ok _
      simp only
      split
      · exact (OfScript.numberOr _ _ _).bind fun networkType _ => hcode networkType
      · rw [pure_bind]
        exact hcode 0

/-! ### Setters on the way -/

/-- A value of the kind of its field is accepted. -/
theorem ofScript_setMandatory
    {m : Message} {f : FieldSpec} {v : FieldValue}
    (hf : f ∈ m.layout.mandatory)
    (hfits : v.fits f.kind) :
    OfScript (ofPdu (m.setMandatory f.id v)) := by
  have hfield := (m.type.mandatoryField?_eq_some_iff f.id f).2 ⟨hf, rfl⟩
  rw [(m.setMandatory_eq_ok_iff _ f.id v).2 ⟨f, hfield, hfits, rfl⟩]
  exact OfScript.ok _

theorem ofScript_setOptional
    {m : Message} {t : TlvSpec} {v : FieldValue}
    (ht : t ∈ m.layout.optional)
    (hfits : v.fitsTlv t.kind) :
    OfScript (ofPdu (m.setOptional t.id v)) := by
  have hfield := (m.type.optionalField?_eq_some_iff t.id t).2 ⟨ht, rfl⟩
  rw [(m.setOptional_eq_ok_iff _ t.id v).2 ⟨t, hfield, hfits, rfl⟩]
  exact OfScript.ok _

/-- The fields of an account are texts, whatever message has them. -/
theorem fits_text_of_account
    {t : MessageType} {f : FieldSpec}
    (hf : f ∈ t.layout.mandatory)
    (hid : f.id ∈ [FieldId.systemId, .password, .systemType])
    (s : String) :
    (FieldValue.text s).fits f.kind := by
  have hkind : ∀ t : MessageType, ∀ f ∈ t.layout.mandatory,
      f.id ∈ [FieldId.systemId, .password, .systemType] →
        (FieldValue.text "").fits f.kind := by
    intro t
    cases t <;> decide
  have hempty := hkind t f hf hid
  generalize f.kind = kind at hempty ⊢
  cases kind with
  | text max =>
      rfl
  | _ =>
      cases hempty

theorem ofScript_setIfPresent
    {id : FieldId}
    (hid : id ∈ [FieldId.systemId, .password, .systemType])
    (m : Message) (s : String) :
    OfScript (setIfPresent m id s) := by
  unfold setIfPresent
  split_ifs with hsome
  · obtain ⟨f, hfield⟩ := Option.isSome_iff_exists.1 hsome
    obtain ⟨hf, rfl⟩ := (m.type.mandatoryField?_eq_some_iff id f).1 hfield
    exact ofScript_setMandatory hf (fits_text_of_account hf hid s)
  · exact OfScript.ok m

theorem ofScript_withAccountOf (d : Defaults) (type : MessageType) (m : Message) :
    OfScript (withAccountOf d type m) := by
  unfold withAccountOf
  split
  · exact (ofScript_setIfPresent (by decide) m _).bind fun m₁ _ =>
      (ofScript_setIfPresent (by decide) m₁ _).bind fun m₂ _ =>
        ofScript_setIfPresent (by decide) m₂ _
  · exact OfScript.ok m

/-- A child sets the field that it is found for, with a value of its kind. -/
theorem ofScript_applyChild (pdu : Element) (m : Message) (child : Element) :
    OfScript (applyChild pdu m child) := by
  unfold applyChild
  split
  · exact OfScript.ok m
  split
  · rename_i f hfind
    refine (ofScript_mandatoryValue f pdu child).bind fun v hv => ?_
    exact ofScript_setMandatory (List.mem_of_find?_eq_some hfind) (fits_of_mandatoryValue hv)
  split
  · rename_i t hfind
    split
    · refine (ofScript_optionalValue t child).bind fun v? hv => ?_
      cases v? with
      | none =>
          exact OfScript.ok m
      | some v =>
          exact ofScript_setOptional (List.mem_of_find?_eq_some hfind)
            (fits_of_optionalValue hv)
    · rintro e ⟨⟩
  · rintro e ⟨⟩

theorem ofScript_header (pdu : Element) :
    OfScript (header pdu) := by
  have htype : OfScript (messageType pdu) := by
    unfold messageType
    split
    · rintro e ⟨⟩
    split
    · rintro e ⟨⟩
    split
    · rintro e ⟨⟩
    · exact OfScript.ok _
  have hsequence : OfScript (explicitSequence pdu) := by
    unfold explicitSequence
    split
    · exact (OfScript.numberOr _ _ _).map some
    · exact OfScript.ok none
  have hstatus : OfScript (givenStatus pdu) := by
    unfold givenStatus
    split
    · unfold readStatus
      split
      · exact OfScript.ok _
      · exact OfScript.numberOr _ _ _
    · exact OfScript.ok _
  exact htype.bind fun type _ => hsequence.bind fun sequence _ => hstatus.bind fun status _ =>
    OfScript.ok _

/-! ### A message before it is written -/

/-- The message of an element before it is written: its header, the account, and the
children. -/
def draft (d : Defaults) (next : UInt32) (pdu : Element) : Except CompileError Message := do
  let h ← header pdu
  let m ← withAccountOf d h.1
    (((Message.new h.1).withStatus h.2.2).withSequence (h.2.1.getD next))
  let m ← pdu.children.foldlM (applyChild pdu) m
  checkRequired h.1 pdu
  return m

/-- Writing the message is the last step of compiling it. -/
theorem message_eq_draft (d : Defaults) (next : UInt32) (pdu : Element) :
    message d next pdu = draft d next pdu >>= fun m =>
      (fun _ => m) <$> ofPdu (Pdu.encode m) := by
  rw [message_eq_completed]
  unfold completed draft
  simp only [bind_assoc, pure_bind]

/-- No setter refuses anything on the way to the draft. -/
theorem ofScript_draft (d : Defaults) (next : UInt32) (pdu : Element) :
    OfScript (draft d next pdu) := by
  refine (ofScript_header pdu).bind fun h _ =>
    (ofScript_withAccountOf d h.1 _).bind fun m₁ _ =>
    (OfScript.foldlM (ofScript_applyChild pdu) _ m₁).bind fun m₂ _ => ?_
  refine OfScript.bind ?_ fun _ _ => OfScript.ok m₂
  unfold checkRequired
  split
  · rintro e ⟨⟩
  · exact OfScript.ok ()

/-- The draft is made of values that the setters accepted. -/
theorem wellFormed_of_draft
    {d : Defaults} {next : UInt32} {pdu : Element} {m : Message}
    (h : draft d next pdu = .ok m) :
    m.WellFormed := by
  obtain ⟨⟨type, sequence, status⟩, -, h⟩ := bind_eq_ok h
  obtain ⟨m₁, haccount, h⟩ := bind_eq_ok h
  obtain ⟨m₂, hchildren, h⟩ := bind_eq_ok h
  obtain ⟨_, -, h⟩ := bind_eq_ok h
  obtain rfl := Except.ok.inj h
  have hnew : Drafted pdu (((Message.new type).withStatus status).withSequence
      (sequence.getD next)) :=
    Drafted.new pdu type _ _
  have hopened : Drafted pdu m₁ := by
    unfold withAccountOf at haccount
    split_ifs at haccount
    · exact hnew.withAccount haccount
    · exact Except.ok.inj haccount ▸ hnew
  exact (foldlM_preserves (fun child hchild _ _ hset hm => hm.applyChild hchild hset)
    hchildren hopened).wellFormed

/-- A fault of a message in a script is why the finished message cannot be written. -/
theorem message_fault
    {d : Defaults} {next : UInt32} {pdu : Element} {e : Pdu.Error}
    (h : message d next pdu = .error (.pdu e)) :
    ∃ m, draft d next pdu = .ok m ∧ m.WellFormed ∧ Pdu.encode m = .error e := by
  rw [message_eq_draft] at h
  rcases bind_eq_error h with h | ⟨m, hm, h⟩
  · exact absurd h (ofScript_draft d next pdu e)
  · refine ⟨m, hm, wellFormed_of_draft hm, ?_⟩
    cases hencode : Pdu.encode m with
    | error e' =>
        rw [hencode] at h
        exact congrArg Except.error (CompileError.pdu.inj (Except.error.inj h))
    | ok frame =>
        rw [hencode] at h
        cases h

end Batch

namespace Message

/-- The ways to a message. -/
inductive Origin : Message → Prop
  | new (type : MessageType) :
      Origin (new type)
  | decoded {frame : List UInt8} {m : Message}
      (h : Pdu.decode frame = .ok m) :
      Origin m
  | response {request m : Message}
      (h : request.response? = some m) :
      Origin m
  | compiled {d : Batch.Defaults} {next : UInt32} {pdu : Script.Element} {m : Message}
      (h : Batch.message d next pdu = .ok m) :
      Origin m

theorem Origin.wellFormed
    {m : Message}
    (h : Origin m) :
    m.WellFormed := by
  cases h with
  | new type =>
      exact wellFormed_new type
  | decoded h =>
      exact (Pdu.fromWire_of_decode h).wellFormed
  | response h =>
      obtain ⟨type, -, rfl⟩ := Option.map_eq_some_iff.1 h
      exact (wellFormed_new type).withSequence _
  | compiled h =>
      exact (Batch.made_of_message h).drafted.wellFormed

/-- What holds of a message at any time: it has the type that it had first, it is well
formed, each change does what it should and nothing else, and it can be written as far as
its fields are concerned. -/
structure Kept (first m : Message) : Prop where
  type_eq : m.type = first.type
  wellFormed : m.WellFormed
  changes : ∀ edit, m.Changes edit (m.edit edit)
  written : ∀ e, Pdu.encode m = .error e → ¬ e.IsRefusal

/-- **Messages stay messages.** Wherever a message comes from, and whatever is set or
refused from then on, it has the fields of its type with values of their kinds.  The setters
on the way to a message refuse nothing: no frame is refused by one, and of a script no
message is, except that the finished one cannot be written. -/
theorem representation_kept
    (first : Message)
    (h : Origin first) :
    (∀ edits, Kept first (first.edited edits)) ∧
    (∀ frame e, Pdu.decode frame = .error e → ¬ e.IsRefusal) ∧
    ∀ d next pdu,
      Batch.message d next pdu =
          (Batch.draft d next pdu >>= fun m => (fun _ => m) <$> Batch.ofPdu (Pdu.encode m)) ∧
        (∀ e, Batch.draft d next pdu ≠ .error (.pdu e)) ∧
        ∀ e, Batch.message d next pdu = .error (.pdu e) → ¬ e.IsRefusal := by
  refine ⟨fun edits => ?_, fun frame e => Pdu.not_isRefusal_of_decode, fun d next pdu =>
    ⟨Batch.message_eq_draft d next pdu, Batch.ofScript_draft d next pdu, fun e he => ?_⟩⟩
  · have hm := h.wellFormed.edited edits
    exact ⟨type_edited first edits, hm, changes_edit _, fun e =>
      Pdu.not_isRefusal_of_encode hm⟩
  · obtain ⟨m, -, hm, hencode⟩ := Batch.message_fault he
    exact Pdu.not_isRefusal_of_encode hm hencode

/-- A response that was read: a number for its text and a field of another type are refused,
and the other changes are made. -/
theorem representation_kept_lenient :
    ∃ m, Pdu.decode Pdu.lenientFrame = .ok m ∧
      Kept m (m.edited [.setMandatory .messageId (.u8 3),
        .setMandatory .messageId (.text "b"), .setOptional .sarTotalSegments (.u8 2),
        .clearOptional .deliveryFailureReason]) ∧
      m.edited [.setMandatory .messageId (.u8 3), .setMandatory .messageId (.text "b"),
        .setOptional .sarTotalSegments (.u8 2), .clearOptional .deliveryFailureReason] =
      build .dataSmResp [.sequence 7, .setMandatory .messageId (.text "b"),
        .setOptional .additionalStatusInfoText (.text "a"), .pushUnknown 0x0420 [1, 2]] := by
  have hread : Pdu.decode Pdu.lenientFrame = .ok (build .dataSmResp
      [.sequence 7, .setMandatory .messageId (.text "\uFFFD"),
        .setOptional .additionalStatusInfoText (.text "a"),
        .setOptional .deliveryFailureReason (.u8 3), .pushUnknown 0x0420 [1, 2]]) := by
    decide +kernel
  exact ⟨_, hread, (representation_kept _ (.decoded hread)).1 _, by decide +kernel⟩

end Message
end SmppReplay
