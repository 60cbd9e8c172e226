import SmppReplay.Proofs.Pdu.RoundTrip

/-!
# The optional fields of a frame

**Question.** Behind the mandatory fields a frame has any number of raw fields, each a tag,
a length and as many octets.  Tags may come several times, with a length that does not fit,
or from no field of the type.  What does the message have of them?

**Answer.** A field of the type has the value of the last raw field that fits it: one with
its tag, and with as many octets as it can have, if the field is implemented.  Everything
else stays raw, in its order (`TakesOver`).

Each raw field is for one field or for none, so a field depends on the raw fields with its
own tag only (`offers`), and the raw ones depend on each other only.  Therefore an order
that keeps those in line gives the same message (`decode_takesOver`).
-/

namespace SmppReplay

/-- Whether a kind admits a number of octets is computed by comparison. -/
instance (kind : TlvKind) (n : Nat) : Decidable (kind.Admits n) :=
  match kind with
  | .u8 => inferInstanceAs (Decidable (n = 1))
  | .u16 => inferInstanceAs (Decidable (n = 2))
  | .u32 => inferInstanceAs (Decidable (n = 4))
  | .text => inferInstanceAs (Decidable (0 < n))
  | .octets => inferInstanceAs (Decidable True)
  | .flag => inferInstanceAs (Decidable (n = 0))
  | .networkError => inferInstanceAs (Decidable (n = 3))

namespace RawTlv

/-- The raw field on the wire. -/
def octets (t : RawTlv) : List UInt8 :=
  Pdu.octets16 t.tag ++ (Pdu.octets16 (UInt16.ofNat t.value.length) ++ t.value)

/-- The raw field has the tag of the field, which is implemented, and has as many octets as
it can have. -/
def Fits (t : RawTlv) (spec : TlvSpec) : Prop :=
  t.tag = spec.tag ∧ spec.implemented ∧ spec.kind.Admits t.value.length

instance (t : RawTlv) (spec : TlvSpec) : Decidable (t.Fits spec) :=
  inferInstanceAs (Decidable (_ ∧ _ ∧ _))

/-- The tag is that of no field. -/
def IsForeign (t : RawTlv) (l : Layout) : Prop :=
  ∀ spec ∈ l.optional, spec.tag ≠ t.tag

instance (t : RawTlv) (l : Layout) : Decidable (t.IsForeign l) :=
  inferInstanceAs (Decidable (∀ _ ∈ _, _))

/-- The tag is that of no field, or of one that is not implemented or can not have as many
octets. -/
def StaysRaw (t : RawTlv) (l : Layout) : Prop :=
  t.IsForeign l ∨ ∃ spec ∈ l.optional, spec.tag = t.tag ∧
    (spec.implemented = false ∨ ¬spec.kind.Admits t.value.length)

instance (t : RawTlv) (l : Layout) : Decidable (t.StaysRaw l) :=
  inferInstanceAs (Decidable (_ ∨ ∃ _ ∈ _, _))

end RawTlv

namespace Pdu

/-! ### Raw fields on the wire -/

/-- The octets of a word are the two that write it. -/
theorem octets16_word16 (a b : UInt8) :
    octets16 (word16 a b) = [a, b] := by
  have hb : b.toNat < 256 := b.toNat_lt
  have ha : a.toNat < 256 := a.toNat_lt
  have hword := bigEndian_octets16 (word16 a b)
  rw [toNat_word16] at hword
  have hhigh := (word16 a b >>> 8).toUInt8.toNat_lt
  have hlow := (word16 a b).toUInt8.toNat_lt
  simp only [octets16, bigEndian, List.foldl_cons, List.foldl_nil, UInt8.size] at hword ⊢
  congr 1
  · exact UInt8.toNat_inj.1 (by omega)
  · congr 1
    exact UInt8.toNat_inj.1 (by omega)

/-- A raw field is written with its own octets and with no others. -/
theorem writesTlv_iff (bs : List UInt8) (t : RawTlv) :
    WritesTlv bs t ↔ bs = t.octets ∧ t.value.length ≤ maxTlvValue := by
  constructor
  · rintro ⟨t₀, t₁, l₀, l₁, hlen⟩
    rename_i value
    have hsize : value.length < UInt16.size := by
      rw [hlen, ← toNat_word16]
      exact UInt16.toNat_lt _
    have hword : UInt16.ofNat value.length = word16 l₀ l₁ := by
      apply UInt16.toNat_inj.1
      rw [UInt16.toNat_ofNat_of_lt' hsize, toNat_word16, hlen]
    refine ⟨?_, Nat.le_of_lt_succ hsize⟩
    rw [RawTlv.octets, octets16_word16, hword, octets16_word16]
    rfl
  · rintro ⟨rfl, hlen⟩
    exact writesTlv_of_length_le t.tag hlen

theorem writesAll_tlv_iff (bs : List UInt8) (ts : List RawTlv) :
    WritesAll WritesTlv bs ts ↔
      bs = ts.flatMap RawTlv.octets ∧ ∀ t ∈ ts, t.value.length ≤ maxTlvValue := by
  constructor
  · intro h
    induction h with
    | nil =>
        simp
    | cons ht hrest ih =>
        obtain ⟨rfl, hlen⟩ := (writesTlv_iff _ _).1 ht
        obtain ⟨rfl, hlens⟩ := ih
        exact ⟨rfl, List.forall_mem_cons.2 ⟨hlen, hlens⟩⟩
  · rintro ⟨rfl, hlens⟩
    induction ts with
    | nil =>
        exact WritesAll.nil
    | cons t ts ih =>
        obtain ⟨hlen, hlens⟩ := List.forall_mem_cons.1 hlens
        exact WritesAll.cons ((writesTlv_iff _ _).2 ⟨rfl, hlen⟩) (ih hlens)

/-! ### What raw fields offer to a field -/

section Offers

variable {type : MessageType} {spec : TlvSpec}

/-- The value that a raw field has for a field. -/
def offer? (spec : TlvSpec) (t : RawTlv) : Option FieldValue :=
  if t.tag = spec.tag then tlvValue? spec t.value else none

/-- The values that raw fields have for a field, in their order. -/
def offers (spec : TlvSpec) (ts : List RawTlv) : List FieldValue :=
  ts.filterMap (offer? spec)

theorem offer?_eq_some_iff (spec : TlvSpec) (t : RawTlv) (v : FieldValue) :
    offer? spec t = some v ↔ Carries t spec v := by
  unfold offer?
  constructor
  · intro h
    split_ifs at h with htag
    obtain ⟨himpl, hvalue⟩ := (tlvValue?_eq_some_iff _ _ _).1 h
    exact ⟨htag, himpl, hvalue⟩
  · rintro ⟨htag, himpl, hvalue⟩
    rw [if_pos htag]
    exact (tlvValue?_eq_some_iff _ _ _).2 ⟨himpl, hvalue⟩

/-- Whether there is a value is a matter of tag and length. -/
theorem fits_iff_exists_carries (t : RawTlv) (spec : TlvSpec) :
    t.Fits spec ↔ ∃ v, Carries t spec v := by
  constructor
  · rintro ⟨htag, himpl, hlen⟩
    obtain ⟨v, hv⟩ := (exists_writesValue_iff _ _).2 hlen
    exact ⟨v, htag, himpl, hv⟩
  · rintro ⟨v, htag, himpl, hvalue⟩
    exact ⟨htag, himpl, (exists_writesValue_iff _ _).1 ⟨v, hvalue⟩⟩

theorem offer?_eq_none_iff (spec : TlvSpec) (t : RawTlv) :
    offer? spec t = none ↔ ¬t.Fits spec := by
  rw [Option.eq_none_iff_forall_ne_some, fits_iff_exists_carries, not_exists]
  simp only [ne_eq, offer?_eq_some_iff]

/-- Raw fields with other tags offer nothing. -/
theorem offers_filter_tag (spec : TlvSpec) (ts : List RawTlv) :
    offers spec (ts.filter fun t => t.tag = spec.tag) = offers spec ts := by
  unfold offers
  rw [List.filterMap_filter]
  congr 1
  funext t
  by_cases htag : t.tag = spec.tag <;> simp [offer?, htag]

/-- The last value that is offered: behind the raw field with it there is none that fits. -/
theorem getLast?_offers_eq_some_iff (spec : TlvSpec) (ts : List RawTlv) (v : FieldValue) :
    (offers spec ts).getLast? = some v ↔
      ∃ before t after, ts = before ++ t :: after ∧ Carries t spec v ∧
        ∀ t' ∈ after, ¬t'.Fits spec := by
  rw [offers, List.getLast?_filterMap, List.findSome?_eq_some_iff]
  simp only [offer?_eq_some_iff, offer?_eq_none_iff]
  constructor
  · rintro ⟨after, t, before, hsplit, hcarries, hafter⟩
    refine ⟨before.reverse, t, after.reverse, ?_, hcarries, ?_⟩
    · rw [List.reverse_eq_iff] at hsplit
      simpa using hsplit
    · simpa using hafter
  · rintro ⟨before, t, after, rfl, hcarries, hafter⟩
    exact ⟨after.reverse, t, before.reverse, by simp, hcarries, by simpa using hafter⟩

theorem offers_eq_nil_iff (spec : TlvSpec) (ts : List RawTlv) :
    offers spec ts = [] ↔ ∀ t ∈ ts, ¬t.Fits spec := by
  simp only [offers, List.filterMap_eq_nil_iff, offer?_eq_none_iff]

/-- A raw field is known as a field of the type if it offers it a value. -/
theorem recognise?_eq_some_iff (t : RawTlv) (v : FieldValue) :
    recognise? type.layout t = some (spec, v) ↔
      spec ∈ type.layout.optional ∧ Carries t spec v := by
  constructor
  · intro h
    obtain ⟨⟨hspec, htag⟩, himpl, hvalue⟩ := recognise?_eq_some h
    exact ⟨hspec, htag.symm, himpl, hvalue⟩
  · rintro ⟨hspec, htag, himpl, hvalue⟩
    have hfield := (type.byTag?_eq_some_iff t.tag spec).2 ⟨hspec, htag.symm⟩
    have hread := (tlvValue?_eq_some_iff _ _ _).2 ⟨himpl, hvalue⟩
    simp [recognise?, hfield, hread]

/-- What stays raw is what the reader does not know. -/
theorem recognise?_eq_none_iff (type : MessageType) (t : RawTlv) :
    recognise? type.layout t = none ↔ t.StaysRaw type.layout := by
  have hknown : (recognise? type.layout t).isSome ↔
      ∃ spec ∈ type.layout.optional, t.Fits spec := by
    simp only [Option.isSome_iff_exists, Prod.exists, recognise?_eq_some_iff,
      fits_iff_exists_carries, exists_and_left]
  rw [← Option.not_isSome_iff_eq_none, hknown]
  constructor
  · intro h
    by_cases hforeign : t.IsForeign type.layout
    · exact .inl hforeign
    · simp only [RawTlv.IsForeign, not_forall, not_not] at hforeign
      obtain ⟨spec, hspec, htag⟩ := hforeign
      refine .inr ⟨spec, hspec, htag, ?_⟩
      by_contra hfits
      simp only [not_or, Bool.not_eq_false, not_not] at hfits
      exact h ⟨spec, hspec, htag.symm, hfits⟩
  · rintro (hforeign | ⟨spec, hspec, htag, hunfit⟩) ⟨spec', hspec', hfits⟩
    · exact hforeign spec' hspec' hfits.1.symm
    · -- No tag stands twice in a layout, so the two fields are one.
      obtain rfl := List.inj_on_of_nodup_map type.nodup_tags hspec hspec' (htag.trans hfits.1)
      rcases hunfit with himpl | hlen
      · rw [hfits.2.1] at himpl
        cases himpl
      · exact hlen hfits.2.2

end Offers

/-! ### What a message takes over of raw fields -/

/-- What a message has of the raw fields of its frame.  An optional field is there if one of
them fits it, with the value of the last one that does; the others are kept, and among them
all with a foreign tag. -/
structure TakesOver (m : Message) (ts : List RawTlv) : Prop where
  present : ∀ id, (m.optional.get? id).isSome ↔
    ∃ spec ∈ m.layout.optional, spec.id = id ∧ ∃ t ∈ ts, t.Fits spec
  value : ∀ id v, m.optional.get? id = some v ↔
    ∃ spec ∈ m.layout.optional, spec.id = id ∧
      ∃ before t after, ts = before ++ t :: after ∧ Carries t spec v ∧
        ∀ t' ∈ after, ¬t'.Fits spec
  raw : m.unknown = ts.filter fun t => t.StaysRaw m.layout
  foreign : (m.unknown.filter fun t => t.IsForeign m.layout) =
    ts.filter fun t => t.IsForeign m.layout

/-- Raw fields in another order, but with equal tags in line, and so those that stay raw. -/
structure Reorders (l : Layout) (ts ts' : List RawTlv) : Prop where
  perm : ts.Perm ts'
  tags : ∀ tag, ts.filter (fun t => t.tag = tag) = ts'.filter fun t => t.tag = tag
  raw : ts.filter (fun t => t.StaysRaw l) = ts'.filter fun t => t.StaysRaw l

/-- Only tags that are there need to be compared. -/
theorem Reorders.of_forall_mem
    {l : Layout} {ts ts' : List RawTlv}
    (hperm : ts.Perm ts')
    (htags : ∀ t ∈ ts, ts.filter (fun u => u.tag = t.tag) = ts'.filter fun u => u.tag = t.tag)
    (hraw : ts.filter (fun t => t.StaysRaw l) = ts'.filter fun t => t.StaysRaw l) :
    Reorders l ts ts' := by
  refine ⟨hperm, ?_, hraw⟩
  intro tag
  by_cases htag : ∃ t ∈ ts, t.tag = tag
  · obtain ⟨t, ht, rfl⟩ := htag
    exact htags t ht
  · simp only [not_exists, not_and] at htag
    rw [List.filter_eq_nil_iff.2 (by simpa using htag),
      List.filter_eq_nil_iff.2 (by simpa using fun t ht => htag t (hperm.mem_iff.2 ht))]

section Folding

variable {m : Message}

/-- One more raw field is a value for the field that it fits. -/
theorem get?_withTlv
    {spec : TlvSpec}
    (hspec : spec ∈ m.layout.optional)
    (t : RawTlv) :
    (withTlv m t).optional.get? spec.id = (offer? spec t).or (m.optional.get? spec.id) := by
  cases hoffer : offer? spec t with
  | some v =>
      rw [withTlv_of_carries hspec ((offer?_eq_some_iff _ _ _).1 hoffer),
        FieldMap.get?_insert, if_pos rfl]
      rfl
  | none =>
      unfold withTlv
      cases hrec : recognise? m.layout t with
      | none =>
          rfl
      | some p =>
          obtain ⟨spec', v⟩ := p
          obtain ⟨hspec', hcarries⟩ := (recognise?_eq_some_iff t v).1 hrec
          have hne : spec.id ≠ spec'.id := by
            intro hid
            obtain rfl := List.inj_on_of_nodup_map m.type.nodup_optional hspec hspec' hid
            rw [(offer?_eq_some_iff _ _ _).2 hcarries] at hoffer
            cases hoffer
          rw [FieldMap.get?_insert, if_neg hne]
          rfl

/-- Of all values that are offered to a field the last one stays. -/
theorem get?_foldl_withTlv
    {spec : TlvSpec}
    (hspec : spec ∈ m.layout.optional)
    (ts : List RawTlv) :
    (ts.foldl withTlv m).optional.get? spec.id =
      (offers spec ts).getLast?.or (m.optional.get? spec.id) := by
  induction ts generalizing m with
  | nil =>
      rfl
  | cons t ts ih =>
      have hspec' : spec ∈ (withTlv m t).layout.optional := by
        rwa [layout_withTlv]
      rw [List.foldl_cons, ih hspec', get?_withTlv hspec, offers, offers, List.filterMap_cons]
      cases offer? spec t with
      | none =>
          rfl
      | some v =>
          simp only [List.getLast?_cons]
          cases (ts.filterMap (offer? spec)).getLast? <;> rfl

/-- A field that the type does not have is not set. -/
theorem get?_foldl_withTlv_of_notMem
    {id : FieldId}
    (hid : id ∉ m.layout.optional.map TlvSpec.id)
    (ts : List RawTlv) :
    (ts.foldl withTlv m).optional.get? id = m.optional.get? id := by
  induction ts generalizing m with
  | nil =>
      rfl
  | cons t ts ih =>
      rw [List.foldl_cons, ih (by rwa [layout_withTlv])]
      unfold withTlv
      cases hrec : recognise? m.layout t with
      | none =>
          rfl
      | some p =>
          obtain ⟨spec, v⟩ := p
          obtain ⟨hspec, -⟩ := (recognise?_eq_some_iff t v).1 hrec
          have hne : id ≠ spec.id := by
            rintro rfl
            exact hid (List.mem_map_of_mem hspec)
          rw [FieldMap.get?_insert, if_neg hne]

theorem layout_foldl_withTlv (m : Message) (ts : List RawTlv) :
    (ts.foldl withTlv m).layout = m.layout := by
  rw [foldl_withTlv_eq]
  rfl

theorem unknown_foldl_withTlv_eq (m : Message) (ts : List RawTlv) :
    (ts.foldl withTlv m).unknown = m.unknown ++ ts.filter fun t => t.StaysRaw m.layout := by
  rw [unknown_foldl_withTlv]
  congr 2
  funext t
  rw [Bool.eq_iff_iff, Option.isNone_iff_eq_none, decide_eq_true_iff]
  exact recognise?_eq_none_iff m.type t

/-- What a message without optional and raw fields has after some raw fields. -/
theorem takesOver_foldl_withTlv
    (hoptional : m.optional = .empty)
    (hunknown : m.unknown = [])
    (ts : List RawTlv) :
    TakesOver (ts.foldl withTlv m) ts := by
  have hlayout := layout_foldl_withTlv m ts
  have hraw : (ts.foldl withTlv m).unknown = ts.filter fun t => t.StaysRaw m.layout := by
    rw [unknown_foldl_withTlv_eq, hunknown, List.nil_append]
  have hlast : ∀ spec ∈ m.layout.optional,
      (ts.foldl withTlv m).optional.get? spec.id = (offers spec ts).getLast? := by
    intro spec hspec
    rw [get?_foldl_withTlv hspec, hoptional, FieldMap.get?_empty, Option.or_none]
  have hfield : ∀ id v, (ts.foldl withTlv m).optional.get? id = some v →
      ∃ spec ∈ m.layout.optional, spec.id = id := by
    intro id v hget
    by_contra hnone
    have hid : id ∉ m.layout.optional.map TlvSpec.id := by
      rintro hmem
      obtain ⟨spec, hspec, hspecId⟩ := List.mem_map.1 hmem
      exact hnone ⟨spec, hspec, hspecId⟩
    rw [get?_foldl_withTlv_of_notMem hid, hoptional] at hget
    cases hget
  constructor
  · intro id
    rw [hlayout]
    constructor
    · intro hsome
      obtain ⟨v, hget⟩ := Option.isSome_iff_exists.1 hsome
      obtain ⟨spec, hspec, rfl⟩ := hfield id v hget
      rw [hlast spec hspec, getLast?_offers_eq_some_iff] at hget
      obtain ⟨before, t, after, rfl, hcarries, -⟩ := hget
      exact ⟨spec, hspec, rfl, t, by simp, (fits_iff_exists_carries _ _).2 ⟨v, hcarries⟩⟩
    · rintro ⟨spec, hspec, rfl, t, ht, hfits⟩
      rw [hlast spec hspec, List.getLast?_isSome, ne_eq, offers_eq_nil_iff]
      exact fun hnone => hnone t ht hfits
  · intro id v
    rw [hlayout]
    constructor
    · intro hget
      obtain ⟨spec, hspec, rfl⟩ := hfield id v hget
      rw [hlast spec hspec] at hget
      exact ⟨spec, hspec, rfl, (getLast?_offers_eq_some_iff _ _ _).1 hget⟩
    · rintro ⟨spec, hspec, rfl, hv⟩
      rw [hlast spec hspec]
      exact (getLast?_offers_eq_some_iff _ _ _).2 hv
  · rw [hlayout]
    exact hraw
  · rw [hlayout, hraw, List.filter_filter]
    apply List.filter_congr
    intro t _
    rw [Bool.eq_iff_iff, Bool.and_eq_true, decide_eq_true_iff, decide_eq_true_iff]
    exact ⟨fun h => h.1, fun h => ⟨h, .inl h⟩⟩

/-- Fields depend on raw fields of one tag only, so their order among other ones does not
matter. -/
theorem foldl_withTlv_of_reorders
    {ts ts' : List RawTlv}
    (h : Reorders m.layout ts ts') :
    ts'.foldl withTlv m = ts.foldl withTlv m := by
  have hoptional : (ts'.foldl withTlv m).optional = (ts.foldl withTlv m).optional := by
    apply FieldMap.eq_of_get?_eq
    intro id
    by_cases hid : id ∈ m.layout.optional.map TlvSpec.id
    · obtain ⟨spec, hspec, rfl⟩ := List.mem_map.1 hid
      have hoffers : offers spec ts' = offers spec ts := by
        rw [← offers_filter_tag spec ts', ← h.tags spec.tag, offers_filter_tag]
      rw [get?_foldl_withTlv hspec, get?_foldl_withTlv hspec, hoffers]
    · rw [get?_foldl_withTlv_of_notMem hid, get?_foldl_withTlv_of_notMem hid]
  have hunknown : (ts'.foldl withTlv m).unknown = (ts.foldl withTlv m).unknown := by
    rw [unknown_foldl_withTlv_eq, unknown_foldl_withTlv_eq, h.raw]
  rw [foldl_withTlv_eq m ts', foldl_withTlv_eq m ts, hoptional, hunknown]

end Folding

/-! ### Frames -/

/-- A frame of the type in two sections: a header with the mandatory fields, and raw fields
behind them.  A response may end with its header. -/
structure Sections (type : MessageType) (front : List UInt8) (ts : List RawTlv) : Prop where
  header : headerSize ≤ front.length
  mandatory : (∃ vs, WritesFields type.layout.mandatory (front.drop headerSize) vs) ∨
    type.isResponse ∧ front.length = headerSize ∧ ts = []
  lengths : ∀ t ∈ ts, t.value.length ≤ maxTlvValue

/-- The header is read without looking at what follows it. -/
theorem Header.split_append
    {front : List UInt8}
    (h : headerSize ≤ front.length) :
    ∃ header, ∀ back,
      Header.split (front ++ back) = .ok (header, (front ++ back).drop headerSize) := by
  match front, h with
  | a₀ :: a₁ :: a₂ :: a₃ :: b₀ :: b₁ :: b₂ :: b₃ :: c₀ :: c₁ :: c₂ :: c₃ ::
      d₀ :: d₁ :: d₂ :: d₃ :: front, _ =>
      exact ⟨_, fun back => rfl⟩

theorem type_of_readTyped
    {type : MessageType} {header : Header} {body : List UInt8} {m : Message}
    (h : readTyped type header body = .ok m) :
    m.type = type := by
  unfold readTyped at h
  split_ifs at h
  · exact Except.ok.inj h ▸ rfl
  · obtain ⟨vs, ts, -, rfl⟩ := (readBody_eq_ok_iff _ _ _).1 h
    rw [withBody, foldl_withTlv_eq]
    rfl

/-- What has another end of the same length is read with the same header. -/
theorem decode_append
    {front back : List UInt8} {m : Message}
    (hsize : headerSize ≤ front.length)
    (h : decode (front ++ back) = .ok m) :
    ∃ header, ∀ back', back'.length = back.length →
      decode (front ++ back') = readTyped m.type header (front.drop headerSize ++ back') := by
  obtain ⟨header, hsplit⟩ := Header.split_append hsize
  have hdecodes := decodes_decode (front ++ back)
  rw [h] at hdecodes
  generalize hresult : Except.ok m = result at hdecodes
  cases hdecodes with
  | malformed | unknown =>
      cases hresult
  | @typed type _ hframe hlen hid =>
      obtain rfl := type_of_readTyped hresult.symm
      obtain ⟨_, hheader, hlength, hcommand, -, -⟩ := Header.split_eq_ok hframe
      obtain ⟨rfl, -⟩ := Prod.mk.inj (Except.ok.inj ((hsplit back).symm.trans hheader))
      refine ⟨header, fun back' hback => ?_⟩
      have hsame : header.length.toNat = (front ++ back').length := by
        rw [hlength, hlen, List.length_append, List.length_append, hback]
      have htype : m.type.id = header.commandId := by
        exact UInt32.toNat_inj.1 (hid.trans hcommand.symm)
      rw [decode_of_header (hsplit back') hsame htype, List.drop_append_of_le_length hsize]

/-- Reading takes over the raw fields of a section, in whatever order they are. -/
theorem readTyped_of_sections
    {type : MessageType} {front : List UInt8} {ts : List RawTlv}
    (header : Header)
    (h : Sections type front ts) :
    ∃ m : Message, m.layout = type.layout ∧ m.optional = .empty ∧ m.unknown = [] ∧
      ∀ ts', ts.Perm ts' →
        readTyped type header (front.drop headerSize ++ ts'.flatMap RawTlv.octets) =
          .ok (ts'.foldl withTlv m) := by
  rcases h.mandatory with ⟨vs, hvs⟩ | ⟨hresponse, hend, rfl⟩
  · refine ⟨{ opening type header with
      mandatory := (opening type header).mandatory.insertAll vs }, rfl, rfl, rfl, ?_⟩
    intro ts' hperm
    have hlengths : ∀ t ∈ ts', t.value.length ≤ maxTlvValue :=
      fun t ht => h.lengths t (hperm.mem_iff.2 ht)
    exact readTyped_of_writesBody header
      ⟨_, _, rfl, hvs, (writesAll_tlv_iff _ _).2 ⟨rfl, hlengths⟩⟩
  · refine ⟨opening type header, rfl, rfl, rfl, ?_⟩
    intro ts' hperm
    obtain rfl := hperm.nil_eq
    rw [List.drop_eq_nil_of_le hend.le]
    simp [readTyped, hresponse]

/-- A frame that is accepted has the two sections. -/
theorem exists_sections
    {frame : List UInt8} {m : Message}
    (h : decode frame = .ok m) :
    ∃ front ts, Sections m.type front ts ∧ frame = front ++ ts.flatMap RawTlv.octets := by
  have hdecodes := decodes_decode frame
  rw [h] at hdecodes
  generalize hresult : Except.ok m = result at hdecodes
  cases hdecodes with
  | malformed | unknown =>
      cases hresult
  | @typed type header hframe =>
      obtain rfl := type_of_readTyped hresult.symm
      unfold readTyped at hresult
      split_ifs at hresult with hempty
      · obtain ⟨hbody, hresponse⟩ := Bool.and_eq_true_iff.1 hempty
        have hend : frame.length = headerSize := by
          have hshort := List.drop_eq_nil_iff.1 (List.isEmpty_iff.1 hbody)
          omega
        exact ⟨frame, [], ⟨hframe, .inr ⟨hresponse, hend, rfl⟩, by simp⟩, by simp⟩
      · obtain ⟨vs, ts, ⟨fields, back, hbody, hvs, hts⟩, -⟩ :=
          (readBody_eq_ok_iff _ _ _).1 hresult.symm
        obtain ⟨rfl, hlengths⟩ := (writesAll_tlv_iff _ _).1 hts
        have hlength : (frame.take headerSize).length = headerSize :=
          List.length_take_of_le hframe
        refine ⟨frame.take headerSize ++ fields, ts, ⟨?_, .inl ⟨vs, ?_⟩, hlengths⟩, ?_⟩
        · rw [List.length_append, hlength]
          exact Nat.le_add_right _ _
        · rwa [List.drop_left' hlength]
        · rw [List.append_assoc, ← hbody, List.take_append_drop]

/-- **What becomes of the optional fields of a frame.** A frame that is accepted consists of
a front with the mandatory fields, and of raw fields.  The message has of them what
`TakesOver` says, and any other order that keeps equal tags in line, and so those that stay
raw, is read as the same message. -/
theorem decode_takesOver
    (frame : List UInt8) (m : Message)
    (h : decode frame = .ok m) :
    (∃ front ts, Sections m.type front ts ∧ frame = front ++ ts.flatMap RawTlv.octets) ∧
    ∀ front ts, Sections m.type front ts → frame = front ++ ts.flatMap RawTlv.octets →
      TakesOver m ts ∧
      ∀ ts', Reorders m.layout ts ts' →
        decode (front ++ ts'.flatMap RawTlv.octets) = .ok m := by
  refine ⟨exists_sections h, ?_⟩
  rintro front ts hsections rfl
  obtain ⟨header, hread⟩ := decode_append hsections.header h
  obtain ⟨m₀, hlayout, hoptional, hunknown, htyped⟩ := readTyped_of_sections header hsections
  have hm : m = ts.foldl withTlv m₀ := by
    have hown := (hread _ rfl).symm.trans h
    rw [htyped ts (List.Perm.refl ts)] at hown
    exact (Except.ok.inj hown).symm
  constructor
  · rw [hm]
    exact takesOver_foldl_withTlv hoptional hunknown ts
  · intro ts' hreorders
    have hlength : (ts'.flatMap RawTlv.octets).length = (ts.flatMap RawTlv.octets).length :=
      (hreorders.perm.flatMap_right RawTlv.octets).length_eq.symm
    rw [hread _ hlength, htyped ts' hreorders.perm, hm]
    exact congrArg _ (foldl_withTlv_of_reorders (hlayout ▸ hreorders))

/-- A text twice, an octet field with two octets between them, another octet field, and a
foreign tag. -/
def duplicateTlvs : List RawTlv :=
  [⟨0x001D, [111, 107]⟩, ⟨0x0420, [1, 2]⟩, ⟨0x001D, [97, 0]⟩, ⟨0x0425, [3]⟩, ⟨0x1400, [9]⟩]

/-- The same in an order that keeps the texts in line, and the two that stay raw. -/
def duplicateTlvsMoved : List RawTlv :=
  [⟨0x0425, [3]⟩, ⟨0x0420, [1, 2]⟩, ⟨0x001D, [111, 107]⟩, ⟨0x1400, [9]⟩, ⟨0x001D, [97, 0]⟩]

/-- What a response has of them. -/
def duplicateMessage : Message :=
  Message.build .dataSmResp
    [.sequence 7, .setOptional .additionalStatusInfoText (.text "a"),
      .setOptional .deliveryFailureReason (.u8 3), .pushUnknown 0x0420 [1, 2],
        .pushUnknown 0x1400 [9]]

/-- The second text counts in both orders. -/
theorem takesOver_duplicateTlvs :
    TakesOver duplicateMessage duplicateTlvs ∧
      decode ([0, 0, 0, 45, 128, 0, 1, 3, 0, 0, 0, 0, 0, 0, 0, 7, 0] ++
        duplicateTlvsMoved.flatMap RawTlv.octets) = .ok duplicateMessage := by
  have htext : WritesField (.text 65) [0] (.text "") :=
    .text (.text List.not_mem_nil)
  have hfields : WritesFields MessageType.dataSmResp.layout.mandatory ([0] ++ [])
      [(.messageId, .text "")] :=
    .cons htext .nil
  have hsections : Sections duplicateMessage.type
      [0, 0, 0, 45, 128, 0, 1, 3, 0, 0, 0, 0, 0, 0, 0, 7, 0] duplicateTlvs :=
    ⟨by decide, .inl ⟨_, hfields⟩, by decide⟩
  have hreorders : Reorders duplicateMessage.layout duplicateTlvs duplicateTlvsMoved :=
    Reorders.of_forall_mem (by decide) (by decide) (by decide)
  obtain ⟨htakes, hmoved⟩ :=
    (decode_takesOver _ duplicateMessage (by decide +kernel)).2 _ _ hsections rfl
  exact ⟨htakes, hmoved _ hreorders⟩

end Pdu
end SmppReplay
