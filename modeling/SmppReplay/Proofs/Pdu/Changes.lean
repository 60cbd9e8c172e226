import SmppReplay.Proofs.Pdu.Frame
import SmppReplay.Proofs.Pdu.Unwritable

/-!
# What a change does

**Question.** A setter checks a field against the layout and its value against the kind of
the field.  What has changed when it accepts, and what when it refuses?

**Answer.** An accepted value is that of the field from then on, and nothing else of the
message has changed; after a refusal the message is as it was (`changes_edit`).  Which of
the two it is depends on the layout of the type only, and no change touches the type
(`type_edited`), so that a field that can be set at all can be set at any time.

Refusals are faults of setters alone (`IsRefusal`).  Decoding sets only what it has read by
the layout (`not_isRefusal_of_decode`), and the encoder goes by the layout too
(`not_isRefusal_of_encode`).
-/

namespace SmppReplay
namespace Pdu

/-- The faults of setters: no such field, and a value of another kind. -/
inductive Error.IsRefusal : Error → Prop
  | field (type : MessageType) (id : FieldId) :
      Error.IsRefusal (.fieldNotInLayout type id)
  | value (label : String) :
      Error.IsRefusal (.valueMismatch label)

/-- No frame is refused by a setter. -/
theorem not_isRefusal_of_decode
    {frame : List UInt8} {e : Error}
    (h : decode frame = .error e) :
    ¬ e.IsRefusal := by
  rcases decode_fault h with ⟨id, rfl⟩ | ⟨why, rfl⟩ <;>
    · intro hrefusal
      cases hrefusal

/-- Writing a well-formed message meets no field that it does not have and no value of
another kind. -/
theorem not_isRefusal_of_encode
    {m : Message} {e : Error}
    (hm : m.WellFormed)
    (h : encode m = .error e) :
    ¬ e.IsRefusal := by
  intro hrefusal
  cases encode_fault hm h with
  | type =>
      cases hrefusal
  | body _ hbody =>
      cases hbody with
      | mandatory _ _ hunfit =>
          cases hunfit <;> cases hrefusal
      | optional _ _ hunfit =>
          cases hunfit <;> cases hrefusal
      | raw =>
          cases hrefusal

end Pdu

namespace Message

/-- What the changes of a message do.  A field that is set has the value and the others keep
theirs; a refusal leaves the message as it was. -/
inductive Changes (m : Message) : Edit → Message → Prop
  | sequence (n : UInt32) :
      Changes m (.sequence n) { m with sequence := n }
  | status (n : UInt32) :
      Changes m (.status n) { m with status := n }
  | mandatory {id : FieldId} {v : FieldValue} {f : FieldSpec} {fields : FieldMap}
      (hf : f ∈ m.layout.mandatory)
      (hid : f.id = id)
      (hfits : v.fits f.kind)
      (haccepted : m.setMandatory id v = .ok { m with mandatory := fields })
      (hfields : ∀ k, fields.get? k = if k = id then some v else m.mandatory.get? k) :
      Changes m (.setMandatory id v) { m with mandatory := fields }
  | mandatoryRefused {id : FieldId} {v : FieldValue} {e : Pdu.Error}
      (hunfit : ∀ f ∈ m.layout.mandatory, f.id = id → v.fits f.kind = false)
      (hrefused : m.setMandatory id v = .error e)
      (hrefusal : e.IsRefusal) :
      Changes m (.setMandatory id v) m
  | optional {id : FieldId} {v : FieldValue} {spec : TlvSpec} {fields : FieldMap}
      (hspec : spec ∈ m.layout.optional)
      (hid : spec.id = id)
      (hfits : v.fitsTlv spec.kind)
      (haccepted : m.setOptional id v = .ok { m with optional := fields })
      (hfields : ∀ k, fields.get? k = if k = id then some v else m.optional.get? k) :
      Changes m (.setOptional id v) { m with optional := fields }
  | optionalRefused {id : FieldId} {v : FieldValue} {e : Pdu.Error}
      (hunfit : ∀ spec ∈ m.layout.optional, spec.id = id → v.fitsTlv spec.kind = false)
      (hrefused : m.setOptional id v = .error e)
      (hrefusal : e.IsRefusal) :
      Changes m (.setOptional id v) m
  | cleared {id : FieldId} {fields : FieldMap}
      (hfields : ∀ k, fields.get? k = if k = id then none else m.optional.get? k) :
      Changes m (.clearOptional id) { m with optional := fields }
  | pushed (tag : UInt16) (value : List UInt8) :
      Changes m (.pushUnknown tag value) { m with unknown := m.unknown ++ [⟨tag, value⟩] }

/-- Why a mandatory field is not set. -/
theorem setMandatory_fault
    {m : Message} {id : FieldId} {v : FieldValue} {e : Pdu.Error}
    (h : m.setMandatory id v = .error e) :
    (∀ f ∈ m.layout.mandatory, f.id = id → v.fits f.kind = false) ∧ e.IsRefusal := by
  constructor
  · intro f hf hid
    by_contra hfits
    have hfield := (m.type.mandatoryField?_eq_some_iff id f).2 ⟨hf, hid⟩
    have haccepted := (setMandatory_eq_ok_iff m _ id v).2
      ⟨f, hfield, Bool.eq_true_of_not_eq_false hfits, rfl⟩
    cases h.symm.trans haccepted
  · cases hfield : m.layout.mandatoryField? id with
    | none =>
        cases h.symm.trans (setMandatory_of_none hfield v).1
        exact .field _ _
    | some f =>
        rcases setMandatory_of_some hfield v with ⟨-, hset, -⟩ | ⟨-, hset, -⟩
        · cases h.symm.trans hset
        · cases h.symm.trans hset
          exact .value _

/-- Why an optional field is not set. -/
theorem setOptional_fault
    {m : Message} {id : FieldId} {v : FieldValue} {e : Pdu.Error}
    (h : m.setOptional id v = .error e) :
    (∀ spec ∈ m.layout.optional, spec.id = id → v.fitsTlv spec.kind = false) ∧
      e.IsRefusal := by
  constructor
  · intro spec hspec hid
    by_contra hfits
    have hfield := (m.type.optionalField?_eq_some_iff id spec).2 ⟨hspec, hid⟩
    have haccepted := (setOptional_eq_ok_iff m _ id v).2
      ⟨spec, hfield, Bool.eq_true_of_not_eq_false hfits, rfl⟩
    cases h.symm.trans haccepted
  · cases hfield : m.layout.optionalField? id with
    | none =>
        cases h.symm.trans (setOptional_of_none hfield v).1
        exact .field _ _
    | some f =>
        rcases setOptional_of_some hfield v with ⟨-, hset, -⟩ | ⟨-, hset, -⟩
        · cases h.symm.trans hset
        · cases h.symm.trans hset
          exact .value _

/-- Every change does what it should, and nothing else. -/
theorem changes_edit (m : Message) (e : Edit) :
    Changes m e (m.edit e) := by
  cases e with
  | sequence n =>
      exact Changes.sequence n
  | status n =>
      exact Changes.status n
  | setMandatory id v =>
      rw [edit, state_putMandatory]
      cases hset : m.setMandatory id v with
      | error e =>
          obtain ⟨hunfit, hrefusal⟩ := setMandatory_fault hset
          exact Changes.mandatoryRefused hunfit hset hrefusal
      | ok m' =>
          obtain ⟨f, hfield, hfits, rfl⟩ := (setMandatory_eq_ok_iff m m' id v).1 hset
          obtain ⟨hf, hid⟩ := (m.type.mandatoryField?_eq_some_iff id f).1 hfield
          exact Changes.mandatory hf hid hfits hset fun k => FieldMap.get?_insert _ _ _ _
  | setOptional id v =>
      rw [edit, state_putOptional]
      cases hset : m.setOptional id v with
      | error e =>
          obtain ⟨hunfit, hrefusal⟩ := setOptional_fault hset
          exact Changes.optionalRefused hunfit hset hrefusal
      | ok m' =>
          obtain ⟨spec, hfield, hfits, rfl⟩ := (setOptional_eq_ok_iff m m' id v).1 hset
          obtain ⟨hspec, hid⟩ := (m.type.optionalField?_eq_some_iff id spec).1 hfield
          exact Changes.optional hspec hid hfits hset fun k => FieldMap.get?_insert _ _ _ _
  | clearOptional id =>
      exact Changes.cleared fun k => FieldMap.get?_erase _ _ _
  | pushUnknown tag value =>
      exact Changes.pushed tag value

theorem Changes.type_eq
    {m m' : Message} {e : Edit}
    (h : Changes m e m') :
    m'.type = m.type := by
  cases h <;> rfl

/-- The type stays whatever is set. -/
theorem type_edited (m : Message) (edits : List Edit) :
    (m.edited edits).type = m.type := by
  induction edits using List.reverseRecOn with
  | nil =>
      rfl
  | append_singleton edits e ih =>
      rw [edited_snoc]
      exact (changes_edit _ e).type_eq.trans ih

end Message
end SmppReplay
