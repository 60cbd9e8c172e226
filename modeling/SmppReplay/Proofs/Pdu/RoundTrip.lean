import SmppReplay.Proofs.Pdu.Frame
import SmppReplay.Proofs.Pdu.Written

/-!
# Round trips

**Question.**  Is a message that is encoded and decoded the same message again?

**Answer.** Not always.  What comes back is the message with its optional texts cut and with
its raw fields taken in anew (`decode_encode`).  So two things must not be: an optional text
with a NUL, and a raw field that the reader knows as a field of the type.  If neither is,
the message comes back (`roundTrip_iff`).

The raw fields decide by number: each one that the reader knows leaves the list of raw
fields, and none enters it again.
-/

namespace SmppReplay

/-- The numbers of octets that a value of the kind can have. -/
def TlvKind.Admits : TlvKind → Nat → Prop
  | .u8, n => n = 1
  | .u16, n => n = 2
  | .u32, n => n = 4
  | .text, n => 0 < n
  | .octets, _ => True
  | .flag, n => n = 0
  | .networkError, n => n = 3

/-- The raw octets are those of an implemented field of the layout, and are as many as it
can have. -/
def RawTlv.IsField (t : RawTlv) (l : Layout) : Prop :=
  ∃ spec, l.byTag? t.tag = some spec ∧ spec.implemented ∧ spec.kind.Admits t.value.length

namespace Pdu

/-! ### Fields that the reader knows -/

/-- As many octets as a kind admits have a value, and no others do. -/
theorem exists_writesValue_iff (kind : TlvKind) (bs : List UInt8) :
    (∃ v, WritesValue kind bs v) ↔ kind.Admits bs.length := by
  constructor
  · rintro ⟨v, h⟩
    cases h with
    | text h =>
        exact List.length_pos_iff.2 h
    | octets bs =>
        trivial
    | _ =>
        rfl
  · intro h
    cases kind with
    | u8 =>
        obtain ⟨a, rfl⟩ := List.length_eq_one_iff.1 h
        exact ⟨_, WritesValue.u8 a⟩
    | u16 =>
        obtain ⟨a, b, rfl⟩ := List.length_eq_two.1 h
        exact ⟨_, WritesValue.u16 a b⟩
    | u32 =>
        match bs, h with
        | [a, b, c, d], _ =>
            exact ⟨_, WritesValue.u32 a b c d⟩
    | text =>
        exact ⟨_, WritesValue.text (List.length_pos_iff.1 h)⟩
    | octets =>
        exact ⟨_, WritesValue.octets bs⟩
    | flag =>
        obtain rfl := List.length_eq_zero_iff.1 h
        exact ⟨_, WritesValue.flag⟩
    | networkError =>
        obtain ⟨n, a, b, rfl⟩ := List.length_eq_three.1 h
        exact ⟨_, WritesValue.networkError n a b⟩

theorem tlvValue?_isSome_iff (spec : TlvSpec) (bs : List UInt8) :
    (tlvValue? spec bs).isSome ↔ spec.implemented ∧ spec.kind.Admits bs.length := by
  simp only [Option.isSome_iff_exists, tlvValue?_eq_some_iff, ← exists_writesValue_iff,
    exists_and_left]

theorem recognise?_isSome_iff (l : Layout) (t : RawTlv) :
    (recognise? l t).isSome ↔ t.IsField l := by
  unfold recognise? RawTlv.IsField
  cases htag : l.byTag? t.tag with
  | none =>
      simp
  | some spec =>
      simp [tlvValue?_isSome_iff]

/-! ### Taking fields over -/

@[simp] theorem type_withTlv (m : Message) (t : RawTlv) :
    (withTlv m t).type = m.type := by
  unfold withTlv
  split <;> rfl

@[simp] theorem layout_withTlv (m : Message) (t : RawTlv) :
    (withTlv m t).layout = m.layout := by
  rw [Message.layout, type_withTlv, Message.layout]

/-- A raw field that carries a value for a field becomes that field. -/
theorem withTlv_of_carries
    {m : Message} {t : RawTlv} {spec : TlvSpec} {v : FieldValue}
    (hspec : spec ∈ m.layout.optional)
    (h : Carries t spec v) :
    withTlv m t = { m with optional := m.optional.insert spec.id v } := by
  have htag : m.layout.byTag? t.tag = some spec :=
    (m.type.byTag?_eq_some_iff _ _).2 ⟨hspec, h.tag.symm⟩
  have hvalue : tlvValue? spec t.value = some v :=
    (tlvValue?_eq_some_iff _ _ _).2 ⟨h.implemented, h.value⟩
  have hrec : recognise? m.layout t = some (spec, v) := by
    simp [recognise?, htag, hvalue]
  unfold withTlv
  rw [hrec]

theorem foldl_withTlv_of_carries
    (m : Message) {ts : List RawTlv} {es : List (TlvSpec × FieldValue)}
    {g : FieldValue → FieldValue}
    (h : List.Forall₂ (fun t e => Carries t e.1 (g e.2)) ts es)
    (hes : ∀ e ∈ es, e.1 ∈ m.layout.optional) :
    ts.foldl withTlv m =
      { m with optional := m.optional.insertAll (es.map fun e => (e.1.id, g e.2)) } := by
  induction h generalizing m with
  | nil =>
      rfl
  | @cons t e ts es ht hrest ih =>
      rw [List.foldl_cons, withTlv_of_carries (hes e (by simp)) ht]
      exact ih _ fun e' he' => hes e' (List.mem_cons_of_mem e he')

/-- Nothing but optional fields and raw ones changes. -/
theorem foldl_withTlv_eq (m : Message) (ts : List RawTlv) :
    ts.foldl withTlv m =
      { m with
        optional := (ts.foldl withTlv m).optional
        unknown := (ts.foldl withTlv m).unknown } := by
  induction ts generalizing m with
  | nil =>
      rfl
  | cons t ts ih =>
      rw [List.foldl_cons, ih (withTlv m t)]
      unfold withTlv
      split <;> rfl

/-- Of the raw fields those stay raw that the reader does not know. -/
theorem unknown_foldl_withTlv (m : Message) (ts : List RawTlv) :
    (ts.foldl withTlv m).unknown =
      m.unknown ++ ts.filter fun t => (recognise? m.layout t).isNone := by
  induction ts generalizing m with
  | nil =>
      simp
  | cons t ts ih =>
      rw [List.foldl_cons, ih, layout_withTlv]
      unfold withTlv
      cases h : recognise? m.layout t with
      | none =>
          rw [List.filter_cons_of_pos (by simp [h])]
          simp [Message.pushUnknown]
      | some p =>
          rw [List.filter_cons_of_neg (by simp [h])]

/-- Raw fields that the reader does not know are only added. -/
theorem foldl_withTlv_of_unknown
    (m : Message) {ts : List RawTlv}
    (h : ∀ t ∈ ts, recognise? m.layout t = none) :
    ts.foldl withTlv m = { m with unknown := m.unknown ++ ts } := by
  induction ts generalizing m with
  | nil =>
      simp
  | cons t ts ih =>
      have hhead : withTlv m t = m.pushUnknown t.tag t.value := by
        unfold withTlv
        rw [h t (by simp)]
      have hrest : ∀ t' ∈ ts, recognise? (m.pushUnknown t.tag t.value).layout t' = none :=
        fun t' ht' => h t' (List.mem_cons_of_mem t ht')
      rw [List.foldl_cons, hhead, ih _ hrest]
      simp [Message.pushUnknown]

/-! ### What comes back -/

theorem WritesFields.map_fst
    {fs : List FieldSpec} {bs : List UInt8} {vs : List (FieldId × FieldValue)}
    (h : WritesFields fs bs vs) :
    vs.map Prod.fst = fs.map FieldSpec.id := by
  induction h with
  | nil =>
      rfl
  | cons hv hrest ih =>
      rw [List.map_cons, List.map_cons, ih]

theorem WritesField.ne_nil
    {kind : FieldKind} {bs : List UInt8} {v : FieldValue}
    (h : WritesField kind bs v) :
    bs ≠ [] := by
  cases h with
  | text h =>
      cases h
      simp
  | _ =>
      simp

/-- A body without octets has no fields. -/
theorem WritesBody.eq_nil
    {fs : List FieldSpec} {vs : List (FieldId × FieldValue)} {ts : List RawTlv}
    (h : WritesBody fs [] vs ts) :
    vs = [] ∧ ts = [] := by
  obtain ⟨front, back, hbody, hfront, hback⟩ := h
  obtain ⟨rfl, rfl⟩ := List.append_eq_nil_iff.1 hbody.symm
  constructor
  · generalize hnil : ([] : List UInt8) = bs at hfront
    cases hfront with
    | nil =>
        rfl
    | cons hv hrest =>
        exact absurd (List.append_eq_nil_iff.1 hnil.symm).1 hv.ne_nil
  · generalize hnil : ([] : List UInt8) = bs at hback
    cases hback with
    | nil =>
        rfl
    | cons ht hrest =>
        cases ht
        cases hnil

/-- Reading a body takes over what it writes, also where a response may be without one. -/
theorem readTyped_of_writesBody
    {type : MessageType} {body : List UInt8} {vs : List (FieldId × FieldValue)}
    {ts : List RawTlv}
    (header : Header)
    (h : WritesBody type.layout.mandatory body vs ts) :
    readTyped type header body = .ok (withBody (opening type header) vs ts) := by
  unfold readTyped
  split_ifs with hempty
  · obtain ⟨hbody, -⟩ := Bool.and_eq_true_iff.1 hempty
    obtain rfl := List.isEmpty_iff.1 hbody
    obtain ⟨rfl, rfl⟩ := h.eq_nil
    rfl
  · exact (readBody_eq_ok_iff _ _ _).2 ⟨vs, ts, h, rfl⟩

/-- A message has no other mandatory fields than those of its type. -/
theorem get?_mandatory_eq_none
    {m : Message} {id : FieldId}
    (hm : m.WellFormed)
    (hid : id ∉ m.layout.mandatory.map FieldSpec.id) :
    m.mandatory.get? id = none := by
  cases hget : m.mandatory.get? id with
  | none =>
      rfl
  | some v =>
      obtain ⟨f, hf, hfid, -⟩ := hm.mandatory id v hget
      exact absurd (List.mem_map.2 ⟨f, hf, hfid⟩) hid

theorem mem_mandatoryFields_iff (m : Message) (f : FieldSpec) (v : FieldValue) :
    (f, v) ∈ m.mandatoryFields ↔ f ∈ m.layout.mandatory ∧ m.mandatory.get? f.id = some v := by
  simp only [Message.mandatoryFields, List.mem_filterMap, Option.map_eq_some_iff,
    Prod.mk.injEq]
  constructor
  · rintro ⟨f', hf', v', hget, rfl, rfl⟩
    exact ⟨hf', hget⟩
  · rintro ⟨hf, hget⟩
    exact ⟨f, hf, v, hget, rfl, rfl⟩

theorem mem_optionalFields_iff
    (m : Message) (spec : TlvSpec) (v : FieldValue) :
    (spec, v) ∈ m.optionalFields ↔
      spec ∈ m.layout.optional ∧ m.optional.get? spec.id = some v := by
  simp only [Message.optionalFields, List.mem_filterMap, Option.map_eq_some_iff,
    Prod.mk.injEq]
  constructor
  · rintro ⟨spec', hspec, v', hget, rfl, rfl⟩
    exact ⟨hspec, hget⟩
  · rintro ⟨hspec, hget⟩
    exact ⟨spec, hspec, v, hget, rfl, rfl⟩

/-- The optional fields of a message, one after the other, make up all of them. -/
theorem insertAll_optionalFields
    {m : Message} (g : FieldValue → FieldValue)
    (hm : m.WellFormed) :
    FieldMap.empty.insertAll (m.optionalFields.map fun e => (e.1.id, g e.2)) =
      m.optional.mapValues g := by
  apply FieldMap.insertAll_eq
  · intro e he
    obtain ⟨⟨spec, v⟩, hmem, rfl⟩ := List.mem_map.1 he
    obtain ⟨-, hget⟩ := (mem_optionalFields_iff m spec v).1 hmem
    simp [hget]
  · intro id hid
    rw [FieldMap.get?_empty, FieldMap.get?_mapValues]
    cases hget : m.optional.get? id with
    | none =>
        rfl
    | some v =>
        obtain ⟨spec, hspec, rfl, -⟩ := hm.optional id v hget
        have hmem := (mem_optionalFields_iff m spec v).2 ⟨hspec, hget⟩
        exact absurd (List.mem_map.2 ⟨_, List.mem_map.2 ⟨_, hmem, rfl⟩, rfl⟩) hid

/-- The octets of a header and a body are split there. -/
theorem Header.split_encode (header : Header) (body : List UInt8) :
    Header.split (header.encode ++ body) = .ok (header, body) ∧
      (header.encode ++ body).drop headerSize = body ∧
      (header.encode ++ body).length = headerSize + body.length := by
  refine ⟨?_, rfl, ?_⟩
  · simp [Header.encode, Header.split, octets32, word32_octets32]
  · simp [Header.encode, octets32, headerSize]
    omega

/-- The message with its optional texts cut and without its raw fields. -/
def bare (m : Message) : Message :=
  { m with optional := m.optional.mapValues FieldValue.cut, unknown := [] }

@[simp] theorem layout_bare (m : Message) :
    (bare m).layout = m.layout := by
  rfl

@[simp] theorem unknown_bare (m : Message) :
    (bare m).unknown = [] := by
  rfl

/-- **What comes back of a message**: its optional texts are cut, and its raw fields are
taken in anew. -/
theorem decode_encode
    {m : Message} {frame : List UInt8}
    (hm : m.WellFormed)
    (h : encode m = .ok frame)
    (hlen : frame.length < UInt32.size) :
    decode frame = .ok (m.unknown.foldl withTlv (bare m)) := by
  obtain ⟨body, hbody, rfl⟩ := encode_eq_ok h
  obtain ⟨hsplit, hdrop, hsize⟩ := Header.split_encode (headerOf m body) body
  obtain ⟨vs, ts, hwrites, hvalues, hcarries⟩ := writesBody_of_encodeBody hbody
  have hword : (headerOf m body).length.toNat =
      ((headerOf m body).encode ++ body).length := by
    rw [hsize] at hlen ⊢
    exact UInt32.toNat_ofNat_of_lt hlen
  have hdecode : decode ((headerOf m body).encode ++ body) =
      .ok (withBody (opening m.type (headerOf m body)) vs (ts ++ m.unknown)) := by
    rw [decode_of_header (hdrop.symm ▸ hsplit) hword rfl, hdrop]
    exact readTyped_of_writesBody _ hwrites
  have hmandatory : (Message.new m.type).mandatory.insertAll vs = m.mandatory := by
    obtain ⟨front, back, -, hfront, -⟩ := hwrites
    apply FieldMap.insertAll_eq hvalues
    intro id hid
    rw [hfront.map_fst] at hid
    rw [get?_mandatory_eq_none hm hid,
      get?_mandatory_eq_none (Message.wellFormed_new m.type) hid]
  have hoptional := insertAll_optionalFields FieldValue.cut hm
  rw [hdecode, withBody, List.foldl_append, foldl_withTlv_of_carries _ hcarries ?_]
  · simp only [opening, Message.withStatus, Message.withSequence, Message.new] at hmandatory ⊢
    rw [hmandatory, hoptional]
    rfl
  · rintro ⟨spec, v⟩ hmem
    exact ((mem_optionalFields_iff m spec v).1 hmem).1

/-- A message comes back unless a text is cut or a raw field is known. -/
theorem decode_encode_eq_self_iff
    {m : Message} {frame : List UInt8}
    (hm : m.WellFormed)
    (h : encode m = .ok frame)
    (hlen : frame.length < UInt32.size) :
    decode frame = .ok m ↔
      m.optional.mapValues FieldValue.cut = m.optional ∧
        ∀ t ∈ m.unknown, ¬t.IsField m.layout := by
  have hknown : ∀ t : RawTlv, ¬t.IsField m.layout ↔ recognise? m.layout t = none := by
    intro t
    rw [← recognise?_isSome_iff, Option.not_isSome_iff_eq_none]
  simp only [hknown]
  rw [decode_encode hm h hlen, Except.ok.injEq]
  constructor
  · intro hback
    -- No raw field may have left the list, since none can enter it.
    have hraw : ∀ t ∈ m.unknown, recognise? m.layout t = none := by
      have hunknown := congrArg Message.unknown hback
      rw [unknown_foldl_withTlv, unknown_bare, List.nil_append, layout_bare] at hunknown
      intro t ht
      simpa using List.filter_eq_self.1 hunknown t ht
    refine ⟨?_, hraw⟩
    rw [foldl_withTlv_of_unknown (bare m) hraw] at hback
    exact congrArg Message.optional hback
  · rintro ⟨hcut, hraw⟩
    rw [foldl_withTlv_of_unknown (bare m) hraw, bare, hcut]
    rfl

/-- No optional text of the message holds a NUL. -/
def NulFree (m : Message) : Prop :=
  ∀ spec ∈ m.layout.optional, spec.kind = .text →
    ∀ s, m.optional.get? spec.id = some (.text s) → '\x00' ∉ s.toList

theorem kind_of_fitsTlv_text
    {kind : TlvKind} {s : String}
    (h : (FieldValue.text s).fitsTlv kind) :
    kind = .text := by
  cases kind with
  | text =>
      rfl
  | _ =>
      cases h

theorem mapValues_cut_eq_self_iff
    {m : Message}
    (hm : m.WellFormed) :
    m.optional.mapValues FieldValue.cut = m.optional ↔ NulFree m := by
  constructor
  · intro h spec _ _ s hget
    have hcut := congrArg (FieldMap.get? · spec.id) h
    simp only [FieldMap.get?_mapValues, hget, Option.map_some, Option.some.injEq] at hcut
    exact (FieldValue.cut_eq_self_iff _).1 hcut s rfl
  · intro h
    apply FieldMap.eq_of_get?_eq
    intro id
    rw [FieldMap.get?_mapValues]
    cases hget : m.optional.get? id with
    | none =>
        rfl
    | some v =>
        obtain ⟨spec, hspec, rfl, hfits⟩ := hm.optional id v hget
        have hcut : v.cut = v := by
          rw [FieldValue.cut_eq_self_iff]
          rintro s rfl
          exact h spec hspec (kind_of_fitsTlv_text hfits) s hget
        rw [Option.map_some, hcut]

/-- **Exact round trip.** A message that is built by any changes and encoded comes back if
and only if no optional text holds a NUL and no raw field is one that the reader knows. -/
theorem roundTrip_iff
    (type : MessageType) (edits : List Message.Edit) (frame : List UInt8)
    (h : encode (Message.build type edits) = .ok frame)
    (hlen : frame.length < UInt32.size) :
    decode frame = .ok (Message.build type edits) ↔
      NulFree (Message.build type edits) ∧
        ∀ t ∈ (Message.build type edits).unknown,
          ¬t.IsField (Message.build type edits).layout := by
  have hm := Message.build_wellFormed type edits
  rw [decode_encode_eq_self_iff hm h hlen, mapValues_cut_eq_self_iff hm]

/-- A text beyond ASCII comes back, and so does a raw field that has a known tag but two
octets for one. -/
theorem roundTrip_dataSmResp :
    decode [0, 0, 0, 32, 128, 0, 1, 3, 0, 0, 0, 0, 0, 0, 0, 7, 195, 169, 0,
        0, 29, 0, 3, 111, 107, 0, 4, 32, 0, 2, 1, 2] =
      .ok (Message.build .dataSmResp
        [.sequence 7, .setMandatory .messageId (.text "é"),
          .setOptional .additionalStatusInfoText (.text "ok"),
          .pushUnknown 0x0420 [1, 2]]) := by
  refine (roundTrip_iff .dataSmResp
    [.sequence 7, .setMandatory .messageId (.text "é"),
      .setOptional .additionalStatusInfoText (.text "ok"), .pushUnknown 0x0420 [1, 2]] _
    (by decide +kernel) (by decide)).2 ⟨?_, ?_⟩
  · intro spec hspec hkind s hget
    have hspec : spec ∈ FieldTable.dataSmRespTlvs := hspec
    simp only [FieldTable.dataSmRespTlvs, List.mem_cons, List.not_mem_nil, or_false] at hspec
    rcases hspec with rfl | rfl | rfl | rfl
    · cases hkind
    · cases hkind
    · obtain rfl := FieldValue.text.inj (Option.some.inj hget)
      decide
    · cases hkind
  · rintro t ht ⟨spec, htag, -, hfits⟩
    obtain rfl := List.mem_singleton.1 ht
    obtain rfl := Option.some.inj htag
    cases hfits

end Pdu
end SmppReplay
