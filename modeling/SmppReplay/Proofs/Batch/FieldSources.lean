import SmppReplay.Proofs.Batch.Messages

/-!
# Where the fields of a message come from

**Question.** Which parts of its element, of the account and of the layout does a message
show?

Number and status come from the first children for them.  A mandatory field has the value of
the last child under any of its names, else the account's, else that of the layout.  An
optional field has the value of the last child that yields one.  No child is without use.

**Method.** Within a layout no name stands for two fields, so that a child concerns one
field at most; `Applies` lists what it does to the message.  What the children so far have
set (`Sourced`) is carried over the fold of all children.

Main fact:
* `message_sources`: the parts of a message, each with its source.
-/

namespace SmppReplay
namespace Batch

open Script (Element)

/-! ### Names of fields -/

/-- The names of the children that set no field. -/
def asideNames (t : MessageType) : List String :=
  [sequenceName, statusName] ++
    if t = .submitMulti then ["DestAddrTON", "DestAddrNPI"] else []

theorem isAside_iff (t : MessageType) (n : String) :
    isAside t n ↔ n ∈ asideNames t := by
  by_cases ht : t = .submitMulti <;> simp [isAside, asideNames, ht, or_assoc]

theorem statusName_mem_asideNames (t : MessageType) :
    statusName ∈ asideNames t :=
  List.mem_append_left _ (List.mem_cons_of_mem _ List.mem_cons_self)

section Names

variable {t : MessageType}

/-- Within a layout no name stands twice. -/
theorem nodup_names (t : MessageType) :
    (asideNames t ++ (t.layout.mandatory.flatMap FieldSpec.elements ++
      t.layout.optional.map TlvSpec.element)).Nodup := by
  cases t <;> decide +kernel

theorem notMem_asideNames_of_accepts
    {f : FieldSpec} {n : String}
    (hf : f ∈ t.layout.mandatory)
    (hn : f.accepts n) :
    n ∉ asideNames t := by
  have hdisjoint := List.disjoint_of_nodup_append (nodup_names t)
  intro haside
  exact hdisjoint haside
    (List.mem_append_left _ (List.mem_flatMap.2 ⟨f, hf, List.contains_iff_mem.1 hn⟩))

theorem element_notMem_asideNames
    {s : TlvSpec}
    (hs : s ∈ t.layout.optional) :
    s.element ∉ asideNames t := by
  have hdisjoint := List.disjoint_of_nodup_append (nodup_names t)
  intro haside
  exact hdisjoint haside (List.mem_append_right _ (List.mem_map_of_mem hs))

/-- A name is that of one mandatory field. -/
theorem eq_of_accepts
    {f g : FieldSpec} {n : String}
    (hf : f ∈ t.layout.mandatory)
    (hg : g ∈ t.layout.mandatory)
    (hfn : f.accepts n)
    (hgn : g.accepts n) :
    f = g := by
  have hnodup := (List.nodup_append.1 (List.nodup_append.1 (nodup_names t)).2.1).1
  by_contra hne
  have hpairs := (List.nodup_flatMap.1 hnodup).2
  have : Std.Symm (Function.onFun List.Disjoint FieldSpec.elements) := ⟨fun _ _ h => h.symm⟩
  have hdisjoint := hpairs.forall hf hg hne
  exact hdisjoint (List.contains_iff_mem.1 hfn) (List.contains_iff_mem.1 hgn)

/-- A name is that of one optional field. -/
theorem eq_of_element_eq
    {s s' : TlvSpec}
    (hs : s ∈ t.layout.optional)
    (hs' : s' ∈ t.layout.optional)
    (h : s.element = s'.element) :
    s = s' := by
  have hnodup := (List.nodup_append.1 (List.nodup_append.1 (nodup_names t)).2.1).2.1
  exact List.inj_on_of_nodup_map hnodup hs hs' h

/-- No name is that of a mandatory field and of an optional one. -/
theorem accepts_element_eq_false
    {f : FieldSpec} {s : TlvSpec}
    (hf : f ∈ t.layout.mandatory)
    (hs : s ∈ t.layout.optional) :
    f.accepts s.element = false := by
  have hdisjoint := List.disjoint_of_nodup_append (List.nodup_append.1 (nodup_names t)).2.1
  rw [Bool.eq_false_iff]
  intro hn
  exact hdisjoint (List.mem_flatMap.2 ⟨f, hf, List.contains_iff_mem.1 hn⟩)
    (List.mem_map_of_mem hs)

end Names

/-! ### What one child does -/

/-- What a child does to the message: nothing, or it sets the one field that bears its name. -/
inductive Applies (pdu : Element) (m : Message) (child : Element) : Message → Prop
  | aside (hname : child.name ∈ asideNames m.type) :
      Applies pdu m child m
  | mandatory {f : FieldSpec} {v : FieldValue}
      (hf : f ∈ m.layout.mandatory) (hname : f.accepts child.name)
      (hv : mandatoryValue f pdu child = .ok v) :
      Applies pdu m child { m with mandatory := m.mandatory.insert f.id v }
  | optional {t : TlvSpec} {v : FieldValue}
      (ht : t ∈ m.layout.optional) (hname : child.name = t.element) (himpl : t.implemented)
      (hv : optionalValue t child = .ok (some v)) :
      Applies pdu m child { m with optional := m.optional.insert t.id v }
  | absent {t : TlvSpec}
      (ht : t ∈ m.layout.optional) (hname : child.name = t.element) (himpl : t.implemented)
      (hv : optionalValue t child = .ok none) :
      Applies pdu m child m

theorem applies_of_applyChild
    {pdu child : Element} {m m' : Message}
    (h : applyChild pdu m child = .ok m') :
    Applies pdu m child m' := by
  unfold applyChild at h
  split at h
  · rename_i haside
    obtain rfl := Except.ok.inj h
    exact Applies.aside ((isAside_iff _ _).1 haside)
  split at h
  · rename_i f hfind
    obtain ⟨v, hv, h⟩ := bind_eq_ok h
    obtain ⟨-, -, -, rfl⟩ := (Message.setMandatory_eq_ok_iff _ _ _ _).1 (ofPdu_eq_ok h)
    have hname : f.accepts child.name := by
      simpa using List.find?_some hfind
    exact Applies.mandatory (List.mem_of_find?_eq_some hfind) hname hv
  split at h
  · rename_i t hfind
    have hname : t.element = child.name := by
      simpa using List.find?_some hfind
    have ht := List.mem_of_find?_eq_some hfind
    split_ifs at h with himpl
    obtain ⟨v?, hv, h⟩ := bind_eq_ok h
    cases v? with
    | none =>
        obtain rfl := Except.ok.inj h
        exact Applies.absent ht hname.symm himpl hv
    | some v =>
        obtain ⟨-, -, -, rfl⟩ := (Message.setOptional_eq_ok_iff _ _ _ _).1 (ofPdu_eq_ok h)
        exact Applies.optional ht hname.symm himpl hv
  · cases h

/-! ### What some children do -/

/-- The children under any name of a mandatory field. -/
def childrenOf (f : FieldSpec) (children : List Element) : List Element :=
  children.filter fun c => f.accepts c.name

/-- The value that a child yields for an optional field. -/
def yielded? (t : TlvSpec) (child : Element) : Option FieldValue :=
  if child.name = t.element then (optionalValue t child).toOption.join else none

/-- The values that children yield for an optional field. -/
def yielded (t : TlvSpec) (children : List Element) : List FieldValue :=
  children.filterMap (yielded? t)

/-- A child that is of use: it is known, or it gives a field its value, or it keeps one
away. -/
inductive Used (pdu : Element) (type : MessageType) (child : Element) : Prop
  | aside (hname : child.name ∈ asideNames type)
  | mandatory {f : FieldSpec} {v : FieldValue}
      (hf : f ∈ type.layout.mandatory) (hname : f.accepts child.name)
      (hv : mandatoryValue f pdu child = .ok v)
  | optional {t : TlvSpec} {v? : Option FieldValue}
      (ht : t ∈ type.layout.optional) (hname : child.name = t.element) (himpl : t.implemented)
      (hv : optionalValue t child = .ok v?)

/-- The message that some children make of a first one: its fields have the values of the
last children for them, and the others are as they were. -/
structure Sourced (pdu : Element) (first : Message) (children : List Element)
    (m : Message) : Prop where
  rest : m.type = first.type ∧ m.sequence = first.sequence ∧ m.status = first.status
  mandatory : ∀ f ∈ m.layout.mandatory,
    ((childrenOf f children).getLast? = none ∧
        m.mandatory.get? f.id = first.mandatory.get? f.id) ∨
      ∃ child v, (childrenOf f children).getLast? = some child ∧
        mandatoryValue f pdu child = .ok v ∧ m.mandatory.get? f.id = some v
  optional : ∀ t ∈ m.layout.optional,
    m.optional.get? t.id = ((yielded t children).getLast?).or (first.optional.get? t.id)
  used : ∀ child ∈ children, Used pdu m.type child

/-- The children for a field with one name are those with the name. -/
theorem childrenOf_eq_childrenNamed
    {f : FieldSpec}
    (h : f.aliases = [])
    (pdu : Element) :
    childrenOf f pdu.children = pdu.childrenNamed f.element := by
  refine List.filter_congr fun c _ => ?_
  rw [FieldSpec.accepts, FieldSpec.elements, h]
  exact Bool.or_false _

theorem childrenOf_snoc_of_accepts
    {f : FieldSpec} {child : Element}
    (h : f.accepts child.name)
    (children : List Element) :
    (childrenOf f (children ++ [child])).getLast? = some child := by
  simp [childrenOf, h]

theorem childrenOf_snoc_of_not
    {f : FieldSpec} {child : Element}
    (h : f.accepts child.name = false)
    (children : List Element) :
    childrenOf f (children ++ [child]) = childrenOf f children := by
  simp [childrenOf, h]

theorem yielded_snoc (t : TlvSpec) (children : List Element) (child : Element) :
    yielded t (children ++ [child]) = yielded t children ++ (yielded? t child).toList := by
  rw [yielded, List.filterMap_append, yielded]
  cases h : yielded? t child <;> simp [h]

theorem yielded?_of_ne
    {t : TlvSpec} {child : Element}
    (h : child.name ≠ t.element) :
    yielded? t child = none :=
  if_neg h

theorem yielded?_of_eq
    {t : TlvSpec} {child : Element} {v? : Option FieldValue}
    (h : child.name = t.element)
    (hv : optionalValue t child = .ok v?) :
    yielded? t child = v? := by
  rw [yielded?, if_pos h, hv]
  rfl

namespace Sourced

variable {pdu : Element} {first m m' : Message} {children : List Element} {child : Element}

theorem start (pdu : Element) (first : Message) :
    Sourced pdu first [] first where
  rest := ⟨rfl, rfl, rfl⟩
  mandatory := fun _ _ => .inl ⟨rfl, rfl⟩
  optional := fun _ _ => rfl
  used := by simp

/-- A child that is none of a field's leaves the field as it was. -/
theorem mandatory_of_not
    {f : FieldSpec}
    (h : Sourced pdu first children m)
    (hf : f ∈ m.layout.mandatory)
    (hname : f.accepts child.name = false)
    (hget : m'.mandatory.get? f.id = m.mandatory.get? f.id) :
    ((childrenOf f (children ++ [child])).getLast? = none ∧
        m'.mandatory.get? f.id = first.mandatory.get? f.id) ∨
      ∃ c v, (childrenOf f (children ++ [child])).getLast? = some c ∧
        mandatoryValue f pdu c = .ok v ∧ m'.mandatory.get? f.id = some v := by
  rw [childrenOf_snoc_of_not hname, hget]
  exact h.mandatory f hf

theorem optional_of_none
    {t : TlvSpec}
    (h : Sourced pdu first children m)
    (ht : t ∈ m.layout.optional)
    (hnone : yielded? t child = none)
    (hget : m'.optional.get? t.id = m.optional.get? t.id) :
    m'.optional.get? t.id =
      ((yielded t (children ++ [child])).getLast?).or (first.optional.get? t.id) := by
  rw [yielded_snoc, hnone, Option.toList_none, List.append_nil, hget]
  exact h.optional t ht

theorem used_snoc
    (h : Sourced pdu first children m)
    (hchild : Used pdu m.type child) :
    ∀ c ∈ children ++ [child], Used pdu m.type c := by
  intro c hc
  rcases List.mem_append.1 hc with hc | hc
  · exact h.used c hc
  · obtain rfl := List.mem_singleton.1 hc
    exact hchild

/-- **One more child.** -/
theorem snoc
    (h : Sourced pdu first children m)
    (happlies : Applies pdu m child m') :
    Sourced pdu first (children ++ [child]) m' := by
  cases happlies with
  | aside hname =>
      refine ⟨h.rest, fun f hf => ?_, fun t ht => ?_, h.used_snoc (.aside hname)⟩
      · refine h.mandatory_of_not hf ?_ rfl
        rw [Bool.eq_false_iff]
        exact fun hn => notMem_asideNames_of_accepts hf hn hname
      · refine h.optional_of_none ht (yielded?_of_ne ?_) rfl
        intro hn
        exact element_notMem_asideNames ht (hn ▸ hname)
  | @mandatory g v hg hname hv =>
      refine ⟨h.rest, fun f hf => ?_, fun t ht => ?_, h.used_snoc (.mandatory hg hname hv)⟩
      · by_cases hfg : f = g
        · subst hfg
          refine .inr ⟨child, v, childrenOf_snoc_of_accepts hname children, hv, ?_⟩
          rw [FieldMap.get?_insert, if_pos rfl]
        · refine h.mandatory_of_not hf ?_ ?_
          · rw [Bool.eq_false_iff]
            exact fun hn => hfg (eq_of_accepts hf hg hn hname)
          · rw [FieldMap.get?_insert, if_neg]
            exact fun hid => hfg (List.inj_on_of_nodup_map m.type.nodup_mandatory hf hg hid)
      · refine h.optional_of_none ht (yielded?_of_ne ?_) rfl
        intro hn
        rw [hn, accepts_element_eq_false hg ht] at hname
        cases hname
  | @optional s v hs hname himpl hv =>
      refine ⟨h.rest, fun f hf => ?_, fun t ht => ?_,
        h.used_snoc (.optional hs hname himpl hv)⟩
      · refine h.mandatory_of_not hf ?_ rfl
        rw [hname]
        exact accepts_element_eq_false hf hs
      · by_cases hts : t = s
        · subst hts
          rw [yielded_snoc, yielded?_of_eq hname hv, FieldMap.get?_insert, if_pos rfl]
          simp
        · refine h.optional_of_none ht (yielded?_of_ne ?_) ?_
          · exact fun hn => hts (eq_of_element_eq ht hs (hn.symm.trans hname))
          · rw [FieldMap.get?_insert, if_neg]
            exact fun hid => hts (List.inj_on_of_nodup_map m.type.nodup_optional ht hs hid)
  | @absent s hs hname himpl hv =>
      refine ⟨h.rest, fun f hf => ?_, fun t ht => ?_,
        h.used_snoc (.optional hs hname himpl hv)⟩
      · refine h.mandatory_of_not hf ?_ rfl
        rw [hname]
        exact accepts_element_eq_false hf hs
      · refine h.optional_of_none ht ?_ rfl
        by_cases hts : t = s
        · subst hts
          exact yielded?_of_eq hname hv
        · exact yielded?_of_ne fun hn => hts (eq_of_element_eq ht hs (hn.symm.trans hname))

/-- **All children of an element**, one after the other. -/
theorem of_foldlM
    (h : children.foldlM (applyChild pdu) first = .ok m) :
    Sourced pdu first children m := by
  induction children using List.reverseRecOn generalizing m with
  | nil =>
      obtain rfl := Except.ok.inj h
      exact Sourced.start pdu _
  | append_singleton children child ih =>
      rw [List.foldlM_append] at h
      obtain ⟨m₁, hm₁, h⟩ := bind_eq_ok h
      rw [List.foldlM_cons] at h
      obtain ⟨m₂, hm₂, h⟩ := bind_eq_ok h
      obtain rfl := Except.ok.inj h
      exact (ih hm₁).snoc (applies_of_applyChild hm₂)

end Sourced

/-! ### The account -/

/-- What the defaults give for a field of the account. -/
def account? (d : Defaults) : FieldId → Option String
  | .systemId => some d.systemId
  | .password => some d.password
  | .systemType => some d.systemType
  | _ => none

/-- The messages that carry an account. -/
def accountTypes : List MessageType :=
  [.bindReceiver, .bindTransmitter, .bindTransceiver, .outbind]

theorem isLogin_iff (type : MessageType) :
    isLogin type = true ↔ type ∈ accountTypes := by
  cases type <;> decide

/-- The value of a mandatory field that no child gives: for a message that carries an
account that of the defaults, else that of the layout. -/
def defaultValue (d : Defaults) (type : MessageType) (f : FieldSpec) : FieldValue :=
  if type ∈ accountTypes then ((account? d f.id).map .text).getD (.default f.kind)
  else .default f.kind

/-- A field of the account is set if the layout has it, and nothing else is. -/
theorem setIfPresent_eq_ok
    {m m' : Message} {id : FieldId} {s : String}
    (h : setIfPresent m id s = .ok m') :
    ∃ fields, m' = { m with mandatory := fields } ∧ ∀ f ∈ m.layout.mandatory,
      fields.get? f.id = if f.id = id then some (.text s) else m.mandatory.get? f.id := by
  unfold setIfPresent at h
  split_ifs at h with hfield
  · obtain ⟨-, -, -, rfl⟩ := (Message.setMandatory_eq_ok_iff _ _ _ _).1 (ofPdu_eq_ok h)
    exact ⟨_, rfl, fun f _ => FieldMap.get?_insert _ _ _ _⟩
  · obtain rfl := Except.ok.inj h
    refine ⟨_, rfl, fun f hf => (if_neg ?_).symm⟩
    rintro rfl
    refine hfield ?_
    rw [Message.layout, (m.type.mandatoryField?_eq_some_iff f.id f).2 ⟨hf, rfl⟩]
    rfl

theorem withAccount_eq_ok
    {d : Defaults} {m m' : Message}
    (h : withAccount d m = .ok m') :
    ∃ fields, m' = { m with mandatory := fields } ∧ ∀ f ∈ m.layout.mandatory,
      fields.get? f.id = ((account? d f.id).map .text).or (m.mandatory.get? f.id) := by
  obtain ⟨m₁, h₁, h⟩ := bind_eq_ok h
  obtain ⟨m₂, h₂, h₃⟩ := bind_eq_ok h
  obtain ⟨fields₁, rfl, hfields₁⟩ := setIfPresent_eq_ok h₁
  obtain ⟨fields₂, rfl, hfields₂⟩ := setIfPresent_eq_ok h₂
  obtain ⟨fields₃, rfl, hfields₃⟩ := setIfPresent_eq_ok h₃
  refine ⟨fields₃, rfl, fun f hf => ?_⟩
  rw [hfields₃ f hf, hfields₂ f hf, hfields₁ f hf]
  cases f.id <;> rfl

/-- Before the children a mandatory field has its default. -/
theorem get?_opened
    {d : Defaults} {type : MessageType} {m₀ m₁ : Message}
    (h : (if isLogin type then withAccount d m₀ else .ok m₀) = .ok m₁)
    (htype : m₀.type = type)
    (hnew : m₀.mandatory = (Message.new type).mandatory) :
    (∃ fields, m₁ = { m₀ with mandatory := fields }) ∧
      ∀ f ∈ type.layout.mandatory, m₁.mandatory.get? f.id = some (defaultValue d type f) := by
  have hdefault : ∀ f ∈ type.layout.mandatory,
      m₀.mandatory.get? f.id = some (.default f.kind) := by
    intro f hf
    rw [hnew, Message.get?_mandatory_new,
      (type.mandatoryField?_eq_some_iff f.id f).2 ⟨hf, rfl⟩]
    rfl
  split_ifs at h with hlogin
  · obtain ⟨fields, rfl, hfields⟩ := withAccount_eq_ok h
    refine ⟨⟨fields, rfl⟩, fun f hf => ?_⟩
    rw [hfields f (by rwa [Message.layout, htype]), hdefault f hf, defaultValue,
      if_pos ((isLogin_iff type).1 hlogin)]
    cases account? d f.id <;> rfl
  · obtain rfl := Except.ok.inj h
    refine ⟨⟨_, rfl⟩, fun f hf => ?_⟩
    rw [hdefault f hf, defaultValue, if_neg (mt (isLogin_iff type).2 hlogin)]

/-! ### The parts of a message -/

/-- The text begins with the letter y in either case. -/
def BeginsWithY (s : String) : Prop :=
  ∃ c rest, s.toList = c :: rest ∧ (c = 'Y' ∨ c = 'y')

theorem saysYes_iff (s : String) :
    saysYes s ↔ BeginsWithY s := by
  unfold saysYes BeginsWithY
  cases s.toList with
  | nil =>
      simp
  | cons c rest =>
      simp

/-- Only a flag can be kept away by its child: by a text that does not begin with the letter
y. -/
theorem eq_none_iff_of_optionalValue
    {t : TlvSpec} {child : Element} {v? : Option FieldValue}
    (h : optionalValue t child = .ok v?) :
    v? = none ↔ t.kind = .flag ∧ ¬ BeginsWithY child.trimmedText := by
  rw [← saysYes_iff]
  cases yields_of_optionalValue h with
  | flag hkind hyes =>
      simp [hkind, hyes]
  | absent hkind hno =>
      simp [hkind, hno]
  | u8 hkind | u16 hkind | u32 hkind | text hkind | octets hkind | networkError hkind =>
      simp [hkind]

/-- The parts of the message of an element, each with its source. -/
structure Sources (d : Defaults) (next : UInt32) (pdu : Element) (m : Message) : Prop where
  type : messageType pdu = .ok m.type
  /-- The number is that of the first child for it, else that of the counter. -/
  sequence :
    (∃ c, pdu.child? "SequenceNumber" = some c ∧
        readUInt32 "SequenceNumber" c.trimmedText = .ok m.sequence) ∨
      pdu.child? "SequenceNumber" = none ∧ m.sequence = next
  /-- The status is that of the first child for it, else zero. -/
  status :
    (∃ c, pdu.child? "CommandStatus" = some c ∧ readStatus c.trimmedText = .ok m.status) ∨
      pdu.child? "CommandStatus" = none ∧ m.status = 0
  /-- A mandatory field has the value of the last child under one of its names, else its
  default. -/
  mandatory : ∀ f ∈ m.layout.mandatory,
    (∃ child v, (childrenOf f pdu.children).getLast? = some child ∧
        mandatoryValue f pdu child = .ok v ∧ m.mandatory.get? f.id = some v) ∨
      childrenOf f pdu.children = [] ∧
        m.mandatory.get? f.id = some (defaultValue d m.type f)
  /-- An optional field has the value of the last child that yields one, and is there only
  then. -/
  optional : ∀ t ∈ m.layout.optional, m.optional.get? t.id = (yielded t pdu.children).getLast?
  /-- Every child under its name yields a value, but for a flag that is not said yes to. -/
  yields : ∀ t ∈ m.layout.optional, ∀ child ∈ pdu.children, child.name = t.element →
    ∃ v?, optionalValue t child = .ok v? ∧
      (v? = none ↔ t.kind = .flag ∧ ¬ BeginsWithY child.trimmedText)
  /-- There are no other fields. -/
  fields : m.WellFormed ∧ m.unknown = []
  /-- Every child is one of those. -/
  children : ∀ child ∈ pdu.children,
    child.name = "SequenceNumber" ∨ child.name = "CommandStatus" ∨
      (m.type = .submitMulti ∧ (child.name = "DestAddrTON" ∨ child.name = "DestAddrNPI")) ∨
      (∃ f ∈ m.layout.mandatory, f.accepts child.name) ∨
      ∃ t ∈ m.layout.optional, t.implemented ∧ child.name = t.element

theorem sequence_cases
    {pdu : Element} {sequence : Option UInt32}
    (h : explicitSequence pdu = .ok sequence)
    (next : UInt32) :
    (∃ c, pdu.child? sequenceName = some c ∧
        readUInt32 sequenceName c.trimmedText = .ok (sequence.getD next)) ∨
      pdu.child? sequenceName = none ∧ sequence.getD next = next := by
  unfold explicitSequence at h
  split at h
  · rename_i c hc
    obtain ⟨n, hn, rfl⟩ := map_eq_ok h
    exact .inl ⟨c, hc, hn⟩
  · rename_i hc
    obtain rfl := Except.ok.inj h
    exact .inr ⟨hc, rfl⟩

theorem status_cases
    {pdu : Element} {status : UInt32}
    (h : givenStatus pdu = .ok status) :
    (∃ c, pdu.child? statusName = some c ∧ readStatus c.trimmedText = .ok status) ∨
      pdu.child? statusName = none ∧ status = 0 := by
  unfold givenStatus at h
  split at h
  · rename_i c hc
    exact .inl ⟨c, hc, h⟩
  · rename_i hc
    exact .inr ⟨hc, (Except.ok.inj h).symm⟩

/-- What a child is used for tells its name. -/
theorem Used.name_cases
    {pdu child : Element} {type : MessageType}
    (h : Used pdu type child) :
    child.name = sequenceName ∨ child.name = statusName ∨
      (type = .submitMulti ∧ (child.name = "DestAddrTON" ∨ child.name = "DestAddrNPI")) ∨
      (∃ f ∈ type.layout.mandatory, f.accepts child.name) ∨
      ∃ t ∈ type.layout.optional, t.implemented ∧ child.name = t.element := by
  cases h with
  | aside hname =>
      rw [← isAside_iff] at hname
      simp only [isAside, Bool.or_eq_true, Bool.and_eq_true, beq_iff_eq, or_assoc] at hname
      rcases hname with hname | hname | hname
      · exact .inl hname
      · exact .inr (.inl hname)
      · exact .inr (.inr (.inl hname))
  | mandatory hf hname hv =>
      exact .inr (.inr (.inr (.inl ⟨_, hf, hname⟩)))
  | optional ht hname himpl hv =>
      exact .inr (.inr (.inr (.inr ⟨_, ht, himpl, hname⟩)))

/-- A child under the name of an optional field was read as one. -/
theorem Used.exists_optionalValue
    {pdu child : Element} {type : MessageType} {t : TlvSpec}
    (h : Used pdu type child)
    (ht : t ∈ type.layout.optional)
    (hname : child.name = t.element) :
    ∃ v?, optionalValue t child = .ok v? := by
  cases h with
  | aside haside =>
      exact absurd (hname ▸ haside) (element_notMem_asideNames ht)
  | mandatory hf hf' hv =>
      rw [hname, accepts_element_eq_false hf ht] at hf'
      cases hf'
  | optional hs hname' himpl hv =>
      obtain rfl := eq_of_element_eq ht hs (hname.symm.trans hname')
      exact ⟨_, hv⟩

/-- **Where the parts of a message come from.** -/
theorem message_sources
    (d : Defaults) (next : UInt32) (pdu : Element) (m : Message)
    (h : message d next pdu = .ok m) :
    Sources d next pdu m := by
  have hmade := made_of_message h
  have hdrafted := hmade.drafted
  obtain ⟨htype, hsequence, hstatus, rfl, haccount, hchildren, hrequired, hframe⟩ := hmade
  obtain ⟨⟨fields, rfl⟩, hdefaults⟩ := get?_opened haccount rfl rfl
  have hsourced := Sourced.of_foldlM hchildren
  obtain ⟨htype', hsequence', hstatus'⟩ := hsourced.rest
  have hlayout : m.layout = MessageType.layout _ := congrArg MessageType.layout htype'
  exact {
    type := htype.trans (congrArg Except.ok htype'.symm)
    sequence := by
      rw [hsequence']
      exact sequence_cases hsequence next
    status := by
      rw [hstatus']
      exact status_cases hstatus
    mandatory := by
      intro f hf
      rcases hsourced.mandatory f hf with ⟨hnone, hget⟩ | hchild
      · refine .inr ⟨List.getLast?_eq_none_iff.1 hnone, hget.trans ?_⟩
        rw [htype']
        exact hdefaults f (hlayout ▸ hf)
      · exact .inl hchild
    optional := by
      intro t ht
      rw [hsourced.optional t ht]
      exact Option.or_none
    yields := by
      intro t ht child hchild hname
      obtain ⟨v?, hv⟩ := (hsourced.used child hchild).exists_optionalValue ht hname
      exact ⟨v?, hv, eq_none_iff_of_optionalValue hv⟩
    fields := ⟨hdrafted.wellFormed, hdrafted.noRaw⟩
    children := fun child hchild => (hsourced.used child hchild).name_cases }

/-- A message element that gives the same things several times. -/
def repetitive : Element :=
  .mk "PDU" [("type", "SUBMIT_SM")] "" [
    .mk "SourceAddrTON" [] "5" [], .mk "SequenceNumber" [] "7" [],
    .mk "AddrTON" [] " 0x02 " [], .mk "AlertOnMsgDelivery" [] "yes" [],
    .mk "SequenceNumber" [] "no number" [], .mk "CommandStatus" [] "ESME_RSYSERR" [],
    .mk "SourcePort" [] "1" [], .mk "AlertOnMsgDelivery" [] "no" [],
    .mk "SourcePort" [] "16" []]

/-- Of several children the first one counts for the number and the last one for a field,
also under another of its names; a flag stays set where a later child does not say yes. -/
theorem message_sources_repetitive :
    message {} 1 repetitive =
      .ok (Message.build .submitSm [.sequence 7, .status 8,
        .setMandatory .sourceAddrTon (.u8 2), .setOptional .alertOnMsgDelivery .flag,
        .setOptional .sourcePort (.u16 16)]) ∧
    Sources {} 1 repetitive
      (Message.build .submitSm [.sequence 7, .status 8, .setMandatory .sourceAddrTon (.u8 2),
        .setOptional .alertOnMsgDelivery .flag, .setOptional .sourcePort (.u16 16)]) := by
  have hmessage : message {} 1 repetitive =
      .ok (Message.build .submitSm [.sequence 7, .status 8,
        .setMandatory .sourceAddrTon (.u8 2), .setOptional .alertOnMsgDelivery .flag,
        .setOptional .sourcePort (.u16 16)]) := by
    decide +kernel
  exact ⟨hmessage, message_sources {} 1 repetitive _ hmessage⟩

end Batch
end SmppReplay
