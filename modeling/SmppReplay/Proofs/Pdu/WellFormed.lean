import SmppReplay.Pdu.Message
import SmppReplay.Proofs.Pdu.FieldMap
import Mathlib.Tactic

/-!
# Well-formed messages

A message is well formed if it has a value for each mandatory field of its type and for no
other one, if its optional fields are fields of its type, and if every value has the form
that its field needs.

New messages are well formed, and every change keeps that: the setters refuse what would
break it.  So it holds of every message that is built from a new one by any changes
(`build_wellFormed`).

The proofs use that within a layout no field, and no tag, stands twice.
-/

namespace SmppReplay

section UniqueKeys

variable {α κ : Type} [DecidableEq κ] (key : α → κ)

/-- Among items with different keys, the look-up of a key finds the item that has it. -/
theorem find?_key_eq_some_iff
    {l : List α} (hl : (l.map key).Nodup) (k : κ) (a : α) :
    l.find? (fun b => key b == k) = some a ↔ a ∈ l ∧ key a = k := by
  induction l with
  | nil =>
      simp
  | cons b l ih =>
      obtain ⟨hb, hl⟩ := List.nodup_cons.1 hl
      by_cases h : key b = k
      · rw [List.find?_cons_of_pos (by simpa using h)]
        constructor
        · intro hba
          have hba := Option.some.inj hba
          exact ⟨by simp [hba], hba ▸ h⟩
        · rintro ⟨hmem, hk⟩
          rcases List.mem_cons.1 hmem with rfl | hmem
          · rfl
          · exact absurd (List.mem_map.2 ⟨a, hmem, hk.trans h.symm⟩) hb
      · rw [List.find?_cons_of_neg (by simpa using h), ih hl]
        constructor
        · rintro ⟨hmem, hk⟩
          exact ⟨List.mem_cons_of_mem _ hmem, hk⟩
        · rintro ⟨hmem, hk⟩
          rcases List.mem_cons.1 hmem with rfl | hmem
          · exact absurd hk h
          · exact ⟨hmem, hk⟩

end UniqueKeys

/-- Looking up a field among the entries that some items make. -/
theorem lookup_map_entry
    {α : Type} (key : α → FieldId) (g : α → FieldValue) (l : List α) (id : FieldId) :
    (l.map fun a => (key a, g a)).lookup id = (l.find? fun a => key a == id).map g := by
  induction l with
  | nil =>
      rfl
  | cons a l ih =>
      rw [List.map_cons]
      by_cases h : key a = id
      · rw [List.find?_cons_of_pos (by simpa using h), h, List.lookup_cons_self]
        rfl
      · rw [List.find?_cons_of_neg (by simpa using h),
          FieldMap.lookup_cons_of_ne _ _ (Ne.symm h), ih]

namespace MessageType

theorem nodup_mandatory (t : MessageType) :
    (t.layout.mandatory.map FieldSpec.id).Nodup := by
  cases t <;> decide

theorem nodup_optional (t : MessageType) :
    (t.layout.optional.map TlvSpec.id).Nodup := by
  cases t <;> decide

theorem nodup_tags (t : MessageType) :
    (t.layout.optional.map TlvSpec.tag).Nodup := by
  cases t <;> decide

theorem mandatoryField?_eq_some_iff (t : MessageType) (id : FieldId) (f : FieldSpec) :
    t.layout.mandatoryField? id = some f ↔ f ∈ t.layout.mandatory ∧ f.id = id :=
  find?_key_eq_some_iff FieldSpec.id t.nodup_mandatory id f

theorem optionalField?_eq_some_iff (t : MessageType) (id : FieldId) (spec : TlvSpec) :
    t.layout.optionalField? id = some spec ↔ spec ∈ t.layout.optional ∧ spec.id = id :=
  find?_key_eq_some_iff TlvSpec.id t.nodup_optional id spec

theorem byTag?_eq_some_iff (t : MessageType) (tag : UInt16) (spec : TlvSpec) :
    t.layout.byTag? tag = some spec ↔ spec ∈ t.layout.optional ∧ spec.tag = tag :=
  find?_key_eq_some_iff TlvSpec.tag t.nodup_tags tag spec

end MessageType

theorem FieldValue.fits_default (k : FieldKind) :
    (FieldValue.default k).fits k := by
  cases k <;> rfl

namespace Message

/-- The message has exactly the mandatory fields of its type, only optional fields of its
type, and every value has the form that its field needs. -/
structure WellFormed (m : Message) : Prop where
  complete : ∀ f ∈ m.layout.mandatory, (m.mandatory.get? f.id).isSome
  mandatory : ∀ id v, m.mandatory.get? id = some v →
    ∃ f ∈ m.layout.mandatory, f.id = id ∧ v.fits f.kind
  optional : ∀ id v, m.optional.get? id = some v →
    ∃ spec ∈ m.layout.optional, spec.id = id ∧ v.fitsTlv spec.kind

/-- A change of a message. -/
inductive Edit where
  | sequence (n : UInt32)
  | status (n : UInt32)
  | setMandatory (id : FieldId) (v : FieldValue)
  | setOptional (id : FieldId) (v : FieldValue)
  | clearOptional (id : FieldId)
  | pushUnknown (tag : UInt16) (value : List UInt8)
  deriving DecidableEq, Repr

/-- The message after a change; a setter leaves one behind also where it refuses. -/
def edit (m : Message) : Edit → Message
  | .sequence n => m.withSequence n
  | .status n => m.withStatus n
  | .setMandatory id v => (putMandatory id v).state m
  | .setOptional id v => (putOptional id v).state m
  | .clearOptional id => m.clearOptional id
  | .pushUnknown tag value => m.pushUnknown tag value

/-- The message that some changes make of a new one. -/
def build (type : MessageType) (edits : List Edit) : Message :=
  edits.foldl edit (new type)

/-- The message after some changes, refused ones among them. -/
def edited (m : Message) (edits : List Edit) : Message :=
  edits.foldl edit m

theorem edited_snoc (m : Message) (edits : List Edit) (e : Edit) :
    m.edited (edits ++ [e]) = (m.edited edits).edit e :=
  List.foldl_append ..

theorem setMandatory_of_none
    {m : Message} {id : FieldId}
    (h : m.layout.mandatoryField? id = none)
    (v : FieldValue) :
    m.setMandatory id v = .error (.fieldNotInLayout m.type id) ∧
      (putMandatory id v).state m = m := by
  have hrun : (putMandatory id v).run m = .error (.fieldNotInLayout m.type id) m := by
    simp only [putMandatory, EStateM.run_bind, EStateM.run_get, h]
    rfl
  simp [setMandatory, InPlace.result, InPlace.verdict, InPlace.state, hrun, Except.map]

theorem setMandatory_of_some
    {m : Message} {id : FieldId} {f : FieldSpec}
    (h : m.layout.mandatoryField? id = some f)
    (v : FieldValue) :
    (v.fits f.kind = true ∧
      m.setMandatory id v = .ok { m with mandatory := m.mandatory.insert id v } ∧
      (putMandatory id v).state m = { m with mandatory := m.mandatory.insert id v }) ∨
    (v.fits f.kind = false ∧ m.setMandatory id v = .error (.valueMismatch f.label) ∧
      (putMandatory id v).state m = m) := by
  cases hfits : v.fits f.kind with
  | true =>
      have hrun : (putMandatory id v).run m =
          .ok () { m with mandatory := m.mandatory.insert id v } := by
        simp only [putMandatory, EStateM.run_bind, EStateM.run_get, h, hfits, if_true]
        rfl
      simp [setMandatory, InPlace.result, InPlace.verdict, InPlace.state, hrun, Except.map]
  | false =>
      have hrun : (putMandatory id v).run m = .error (.valueMismatch f.label) m := by
        simp only [putMandatory, EStateM.run_bind, EStateM.run_get, h, hfits]
        rfl
      simp [setMandatory, InPlace.result, InPlace.verdict, InPlace.state, hrun, Except.map]

/-- What setting a mandatory field needs and does. -/
theorem setMandatory_eq_ok_iff (m m' : Message) (id : FieldId) (v : FieldValue) :
    m.setMandatory id v = .ok m' ↔
      ∃ f, m.layout.mandatoryField? id = some f ∧ v.fits f.kind ∧
        m' = { m with mandatory := m.mandatory.insert id v } := by
  cases hfield : m.layout.mandatoryField? id with
  | none =>
      simp [(setMandatory_of_none hfield v).1]
  | some f =>
      rcases setMandatory_of_some hfield v with ⟨hfits, hset, -⟩ | ⟨hfits, hset, -⟩
      · simp only [hset, hfits, Except.ok.injEq, Option.some.injEq, exists_eq_left', true_and]
        exact eq_comm
      · simp [hset, hfits]

/-- What is left behind is the new message, and where it was refused the old one. -/
theorem state_putMandatory (m : Message) (id : FieldId) (v : FieldValue) :
    (putMandatory id v).state m = (m.setMandatory id v).toOption.getD m := by
  cases hfield : m.layout.mandatoryField? id with
  | none =>
      obtain ⟨hset, hstate⟩ := setMandatory_of_none hfield v
      rw [hset, hstate]
      rfl
  | some f =>
      rcases setMandatory_of_some hfield v with ⟨-, hset, hstate⟩ | ⟨-, hset, hstate⟩ <;>
        · rw [hset, hstate]
          rfl

theorem setOptional_of_none
    {m : Message} {id : FieldId}
    (h : m.layout.optionalField? id = none)
    (v : FieldValue) :
    m.setOptional id v = .error (.fieldNotInLayout m.type id) ∧
      (putOptional id v).state m = m := by
  have hrun : (putOptional id v).run m = .error (.fieldNotInLayout m.type id) m := by
    simp only [putOptional, EStateM.run_bind, EStateM.run_get, h]
    rfl
  simp [setOptional, InPlace.result, InPlace.verdict, InPlace.state, hrun, Except.map]

theorem setOptional_of_some
    {m : Message} {id : FieldId} {spec : TlvSpec}
    (h : m.layout.optionalField? id = some spec)
    (v : FieldValue) :
    (v.fitsTlv spec.kind = true ∧
      m.setOptional id v = .ok { m with optional := m.optional.insert id v } ∧
      (putOptional id v).state m = { m with optional := m.optional.insert id v }) ∨
    (v.fitsTlv spec.kind = false ∧ m.setOptional id v = .error (.valueMismatch spec.label) ∧
      (putOptional id v).state m = m) := by
  cases hfits : v.fitsTlv spec.kind with
  | true =>
      have hrun : (putOptional id v).run m =
          .ok () { m with optional := m.optional.insert id v } := by
        simp only [putOptional, EStateM.run_bind, EStateM.run_get, h, hfits, if_true]
        rfl
      simp [setOptional, InPlace.result, InPlace.verdict, InPlace.state, hrun, Except.map]
  | false =>
      have hrun : (putOptional id v).run m = .error (.valueMismatch spec.label) m := by
        simp only [putOptional, EStateM.run_bind, EStateM.run_get, h, hfits]
        rfl
      simp [setOptional, InPlace.result, InPlace.verdict, InPlace.state, hrun, Except.map]

/-- What setting an optional field needs and does. -/
theorem setOptional_eq_ok_iff (m m' : Message) (id : FieldId) (v : FieldValue) :
    m.setOptional id v = .ok m' ↔
      ∃ spec, m.layout.optionalField? id = some spec ∧ v.fitsTlv spec.kind ∧
        m' = { m with optional := m.optional.insert id v } := by
  cases hfield : m.layout.optionalField? id with
  | none =>
      simp [(setOptional_of_none hfield v).1]
  | some spec =>
      rcases setOptional_of_some hfield v with ⟨hfits, hset, -⟩ | ⟨hfits, hset, -⟩
      · simp only [hset, hfits, Except.ok.injEq, Option.some.injEq, exists_eq_left', true_and]
        exact eq_comm
      · simp [hset, hfits]

/-- What is left behind is the new message, and where it was refused the old one. -/
theorem state_putOptional (m : Message) (id : FieldId) (v : FieldValue) :
    (putOptional id v).state m = (m.setOptional id v).toOption.getD m := by
  cases hfield : m.layout.optionalField? id with
  | none =>
      obtain ⟨hset, hstate⟩ := setOptional_of_none hfield v
      rw [hset, hstate]
      rfl
  | some spec =>
      rcases setOptional_of_some hfield v with ⟨-, hset, hstate⟩ | ⟨-, hset, hstate⟩ <;>
        · rw [hset, hstate]
          rfl

/-- The value of a mandatory field in a new message. -/
theorem get?_mandatory_new (t : MessageType) (id : FieldId) :
    (new t).mandatory.get? id =
      (t.layout.mandatoryField? id).map fun f => FieldValue.default f.kind := by
  have hids : ((t.layout.mandatory.map fun f => (f.id, FieldValue.default f.kind)).map
      Prod.fst).Nodup := by
    simpa [Function.comp_def] using t.nodup_mandatory
  rw [new, FieldMap.ofList_eq_insertAll, FieldMap.get?_insertAll _ _ hids, lookup_map_entry]
  simp [Layout.mandatoryField?]

theorem wellFormed_new (t : MessageType) :
    (new t).WellFormed where
  complete := by
    intro f hf
    have hfield := (t.mandatoryField?_eq_some_iff f.id f).2 ⟨hf, rfl⟩
    simp [get?_mandatory_new, hfield]
  mandatory := by
    intro id v h
    rw [get?_mandatory_new, Option.map_eq_some_iff] at h
    obtain ⟨f, hfield, rfl⟩ := h
    obtain ⟨hf, hid⟩ := (t.mandatoryField?_eq_some_iff id f).1 hfield
    exact ⟨f, hf, hid, FieldValue.fits_default f.kind⟩
  optional := by
    intro id v h
    simp [new] at h

namespace WellFormed

variable {m : Message}

theorem withSequence (h : m.WellFormed) (n : UInt32) : (m.withSequence n).WellFormed :=
  ⟨h.complete, h.mandatory, h.optional⟩

theorem withStatus (h : m.WellFormed) (n : UInt32) : (m.withStatus n).WellFormed :=
  ⟨h.complete, h.mandatory, h.optional⟩

theorem pushUnknown (h : m.WellFormed) (tag : UInt16) (value : List UInt8) :
    (m.pushUnknown tag value).WellFormed :=
  ⟨h.complete, h.mandatory, h.optional⟩

theorem setMandatory {m' : Message} {id : FieldId} {v : FieldValue}
    (h : m.WellFormed)
    (hset : m.setMandatory id v = .ok m') :
    m'.WellFormed := by
  obtain ⟨f, hfield, hfits, rfl⟩ := (setMandatory_eq_ok_iff m m' id v).1 hset
  obtain ⟨hf, hid⟩ := (m.type.mandatoryField?_eq_some_iff id f).1 hfield
  refine ⟨?_, ?_, h.optional⟩
  · intro g hg
    by_cases hgid : g.id = id
    · simp [hgid]
    · simpa [hgid] using h.complete g hg
  · intro k w hk
    rw [FieldMap.get?_insert] at hk
    split_ifs at hk with hkid
    · exact ⟨f, hf, hid.trans hkid.symm, Option.some.inj hk ▸ hfits⟩
    · exact h.mandatory k w hk

theorem setOptional {m' : Message} {id : FieldId} {v : FieldValue}
    (h : m.WellFormed)
    (hset : m.setOptional id v = .ok m') :
    m'.WellFormed := by
  obtain ⟨spec, hfield, hfits, rfl⟩ := (setOptional_eq_ok_iff m m' id v).1 hset
  obtain ⟨hspec, hid⟩ := (m.type.optionalField?_eq_some_iff id spec).1 hfield
  refine ⟨h.complete, h.mandatory, ?_⟩
  intro k w hk
  rw [FieldMap.get?_insert] at hk
  split_ifs at hk with hkid
  · exact ⟨spec, hspec, hid.trans hkid.symm, Option.some.inj hk ▸ hfits⟩
  · exact h.optional k w hk

theorem clearOptional (h : m.WellFormed)
    (id : FieldId) : (m.clearOptional id).WellFormed := by
  refine ⟨h.complete, h.mandatory, ?_⟩
  intro k w hk
  rw [Message.clearOptional, FieldMap.get?_erase] at hk
  split_ifs at hk
  exact h.optional k w hk

/-- No change breaks a well-formed message. -/
theorem edit (h : m.WellFormed) (e : Edit) : (m.edit e).WellFormed := by
  cases e with
  | sequence n =>
      exact h.withSequence n
  | status n =>
      exact h.withStatus n
  | setMandatory id v =>
      rw [Message.edit, state_putMandatory]
      cases hset : m.setMandatory id v with
      | error e =>
          exact h
      | ok m' =>
          exact h.setMandatory hset
  | setOptional id v =>
      rw [Message.edit, state_putOptional]
      cases hset : m.setOptional id v with
      | error e =>
          exact h
      | ok m' =>
          exact h.setOptional hset
  | clearOptional id =>
      exact h.clearOptional id
  | pushUnknown tag value =>
      exact h.pushUnknown tag value

/-- No changes break a well-formed message. -/
theorem edited (h : m.WellFormed) (edits : List Edit) : (m.edited edits).WellFormed := by
  induction edits using List.reverseRecOn with
  | nil =>
      exact h
  | append_singleton edits e ih =>
      rw [edited_snoc]
      exact ih.edit e

end WellFormed

/-- **Every message that is built is well formed.** -/
theorem build_wellFormed (type : MessageType) (edits : List Edit) :
    (build type edits).WellFormed :=
  (wellFormed_new type).edited edits

end Message
end SmppReplay
