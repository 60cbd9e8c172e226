import SmppReplay.Proofs.Pdu.Rereading
import SmppReplay.Proofs.Pdu.WireFields

/-!
# Which messages can be written, and as what

**Question.** Which messages can be written, what is the fault of the others, and what are
the octets?

**Method.** A message is a header and a row of fields in wire order (`wireFields`).  The row
is written if every field of it can be, else it has the fault of the first one that cannot
(`mapM_eq_ok_iff`, `mapM_eq_error_iff`); the limits of a whole message (`Writable`) are
those of its fields.

Main fact:
* `encoding_of_wellFormed`: success, fault, octets and header of a message.
-/

namespace SmppReplay
namespace Pdu

/-! ### Fields in wire order -/

/-- The fields of a message in wire order: the mandatory and the optional ones in the order
of the layout, then the raw ones in the order in which they were added. -/
def wireFields (m : Message) : List WireField :=
  m.mandatoryFields.map (fun x => .mandatory x.1 x.2) ++
    m.optionalFields.map (fun x => .optional x.1 x.2) ++ m.unknown.map .raw

/-- What holds of all fields of a message. -/
theorem forall_mem_wireFields_iff (m : Message) (P : WireField → Prop) :
    (∀ x ∈ wireFields m, P x) ↔
      (∀ f ∈ m.layout.mandatory, ∀ v, m.mandatory.get? f.id = some v → P (.mandatory f v)) ∧
        (∀ t ∈ m.layout.optional, ∀ v, m.optional.get? t.id = some v → P (.optional t v)) ∧
          ∀ t ∈ m.unknown, P (.raw t) := by
  simp only [wireFields, List.forall_mem_append, List.forall_mem_map, Prod.forall,
    mem_mandatoryFields_iff, mem_optionalFields_iff, and_imp, and_assoc]
  constructor
  · rintro ⟨hmandatory, hoptional, hraw⟩
    exact ⟨fun f hf v => hmandatory f v hf, fun t ht v => hoptional t v ht, hraw⟩
  · rintro ⟨hmandatory, hoptional, hraw⟩
    exact ⟨fun f v hf => hmandatory f hf v, fun t v ht => hoptional t ht v, hraw⟩

theorem fits_of_get?
    {m : Message} {f : FieldSpec} {v : FieldValue}
    (hm : m.WellFormed)
    (hf : f ∈ m.layout.mandatory)
    (hv : m.mandatory.get? f.id = some v) :
    v.fits f.kind := by
  obtain ⟨w, hw, hfits⟩ := exists_fits_of_mem hm hf
  obtain rfl := Option.some.inj (hv.symm.trans hw)
  exact hfits

/-- The fields of a well-formed message have the forms that they need. -/
theorem hasForm_of_mem_wireFields
    {m : Message}
    (hm : m.WellFormed) :
    ∀ x ∈ wireFields m, x.HasForm := by
  exact (forall_mem_wireFields_iff m _).2 ⟨fun f hf v hv => fits_of_get? hm hf hv,
    fun t ht v hv => fitsTlv_of_get? hm ht hv, fun _ _ => trivial⟩

/-- The body of a well-formed message is its fields, encoded one by one. -/
theorem encodeBody_eq_mapM
    {m : Message}
    (hm : m.WellFormed) :
    encodeBody m = List.flatten <$> (wireFields m).mapM WireField.encode := by
  unfold encodeBody
  rw [mapM_filterMap (g := fun f => (m.mandatory.get? f.id).map fun v => (f, v))
    (h := fun x => encodeMandatory x.1 x.2) m.layout.mandatory]
  · simp only [wireFields, List.mapM_append, List.mapM_map, bind_assoc, pure_bind,
      map_bind, map_pure, List.flatten_append]
    rfl
  · -- Every mandatory field has a value, so that none is left out.
    intro f hf
    obtain ⟨v, hv, -⟩ := exists_fits_of_mem hm hf
    rw [hv]
    exact ⟨(f, v), rfl, rfl⟩

/-! ### Limits of a message -/

/-- The message can be written. -/
structure Writable (m : Message) : Prop where
  supported : m.layout.unsupported = none
  /-- A mandatory text has fewer octets than its field, and no NUL. -/
  texts : ∀ f ∈ m.layout.mandatory, ∀ max, f.kind = .text max →
    ∀ s, m.mandatory.get? f.id = some (.text s) →
      (Text.Utf8.encode s).length < max ∧ '\x00' ∉ s.toList
  shortMessages : ∀ f ∈ m.layout.mandatory, f.kind = .shortMessage →
    ∀ bs, m.mandatory.get? f.id = some (.octets bs) → bs.length ≤ 254
  destinations : ∀ f ∈ m.layout.mandatory, ∀ ds, m.mandatory.get? f.id =
    some (.destinations ds) →
    ds.length ≤ 254 ∧
      ∀ d ∈ ds, (Text.Utf8.encode d.text).length ≤ 20 ∧ '\x00' ∉ d.text.toList
  implemented : ∀ t ∈ m.layout.optional, (m.optional.get? t.id).isSome → t.implemented
  optionalTexts : ∀ t ∈ m.layout.optional, ∀ s, m.optional.get? t.id = some (.text s) →
    (Text.Utf8.encode s).length ≤ 65534
  optionalOctets : ∀ t ∈ m.layout.optional, ∀ bs, m.optional.get? t.id = some (.octets bs) →
    bs.length ≤ 65535
  raw : ∀ t ∈ m.unknown, t.value.length ≤ 65535

/-- The fault of a message that cannot be written: that of its type, or else that of the
first field in wire order that cannot be written. -/
inductive FirstFault (m : Message) : Error → Prop
  | type {reason : String} (h : m.layout.unsupported = some reason) :
      FirstFault m (.unsupported (.messageType reason))
  | field {front back : List WireField} {x : WireField} {e : Error}
      (hsupported : m.layout.unsupported = none)
      (hsplit : wireFields m = front ++ x :: back)
      (hfront : ∀ y ∈ front, y.Fits)
      (hx : x.Fault e) :
      FirstFault m e

/-- The frame of a message: four words, of which the first is the length, and the fields. -/
structure FrameOf (m : Message) (frame : List UInt8) : Prop where
  length : wordAt frame 0 = frame.length % UInt32.size
  commandId : wordAt frame 4 = m.type.id.toNat
  status : wordAt frame 8 = m.status.toNat
  sequence : wordAt frame 12 = m.sequence.toNat
  fields : ∃ header, header.length = 16 ∧
    frame = header ++ ((wireFields m).map WireField.octets).flatten

/-- The frame with another status and another sequence number in its header. -/
def restamp (status sequence : UInt32) (frame : List UInt8) : List UInt8 :=
  frame.take 8 ++ (octets32 status ++ octets32 sequence) ++ frame.drop 16

/-- The limits of a single mandatory field, for every form of its value. -/
theorem fieldFits_iff
    {m : Message} {f : FieldSpec} {v : FieldValue}
    (hsupported : m.layout.unsupported = none)
    (hf : f ∈ m.layout.mandatory)
    (hform : v.fits f.kind) :
    FieldFits f.kind v ↔
      (∀ max, f.kind = .text max → ∀ s, v = .text s →
          (Text.Utf8.encode s).length < max ∧ '\x00' ∉ s.toList) ∧
        (f.kind = .shortMessage → ∀ bs, v = .octets bs → bs.length ≤ 254) ∧
          ∀ ds, v = .destinations ds → ds.length ≤ 254 ∧
            ∀ d ∈ ds, (Text.Utf8.encode d.text).length ≤ 20 ∧ '\x00' ∉ d.text.toList := by
  -- The types with a list of failed destinations cannot be written at all.
  have hnone : f.kind ≠ .unsuccessful := fun hkind =>
    unsupported_of_unsuccessful hf hkind hsupported
  generalize f.kind = kind at hform hnone ⊢
  constructor
  · intro h
    cases h with
    | text h =>
        refine ⟨?_, nofun, nofun⟩
        rintro _ ⟨⟩ _ ⟨⟩
        exact ⟨h.size, h.nulFree⟩
    | integer =>
        exact ⟨nofun, nofun, nofun⟩
    | shortMessage h =>
        refine ⟨nofun, ?_, nofun⟩
        rintro - _ ⟨⟩
        exact h
    | destinations hcount htexts =>
        refine ⟨nofun, nofun, ?_⟩
        rintro _ ⟨⟩
        exact ⟨hcount, fun d hd =>
          ⟨Nat.le_of_lt_succ (htexts d hd).size, (htexts d hd).nulFree⟩⟩
  · rintro ⟨htext, hmessage, hdestinations⟩
    match kind, v, hform with
    | .text max, .text s, _ =>
        obtain ⟨hsize, hnul⟩ := htext max rfl s rfl
        exact .text ⟨hsize, hnul⟩
    | .integer default, .u8 n, _ =>
        exact .integer default n
    | .shortMessage, .octets bs, _ =>
        exact .shortMessage (hmessage rfl bs rfl)
    | .destinations, .destinations ds, _ =>
        obtain ⟨hcount, htexts⟩ := hdestinations ds rfl
        exact .destinations hcount fun d hd =>
          ⟨Nat.lt_succ_of_le (htexts d hd).1, (htexts d hd).2⟩
    | .unsuccessful, .unsuccessful fs, _ =>
        exact absurd rfl hnone

/-- The limits of a single optional field. -/
theorem tlvOctets_length_le_iff (v : FieldValue) :
    v.tlvOctets.length ≤ maxTlvValue ↔
      (∀ s, v = .text s → (Text.Utf8.encode s).length ≤ 65534) ∧
        ∀ bs, v = .octets bs → bs.length ≤ 65535 := by
  have hmax : maxTlvValue = 65535 := rfl
  rw [hmax]
  cases v with
  | text s =>
      have hlength : (FieldValue.text s).tlvOctets.length =
          (Text.Utf8.encode s).length + 1 := by
        simp [FieldValue.tlvOctets, textOctets]
      rw [hlength]
      constructor
      · intro h
        constructor
        · rintro _ ⟨⟩
          omega
        · rintro bs ⟨⟩
      · rintro ⟨h, -⟩
        have hs := h s rfl
        omega
  | octets bs =>
      constructor
      · intro h
        constructor
        · rintro s ⟨⟩
        · rintro _ ⟨⟩
          exact h
      · rintro ⟨-, h⟩
        exact h bs rfl
  | _ =>
      constructor
      · intro h
        constructor
        · rintro s ⟨⟩
        · rintro bs ⟨⟩
      · intro h
        simp [FieldValue.tlvOctets, octets16, octets32]

/-- A message can be written if its type can be, and each of its fields. -/
theorem writable_iff
    {m : Message}
    (hm : m.WellFormed) :
    Writable m ↔ m.layout.unsupported = none ∧ ∀ x ∈ wireFields m, x.Fits := by
  rw [forall_mem_wireFields_iff]
  constructor
  · intro h
    refine ⟨h.supported, fun f hf v hv => ?_, fun t ht v hv => ?_, h.raw⟩
    · refine (fieldFits_iff h.supported hf (fits_of_get? hm hf hv)).2 ⟨?_, ?_, ?_⟩
      · rintro max hkind s rfl
        exact h.texts f hf max hkind s hv
      · rintro hkind bs rfl
        exact h.shortMessages f hf hkind bs hv
      · rintro ds rfl
        exact h.destinations f hf ds hv
    · refine ⟨h.implemented t ht (by rw [hv]; rfl), (tlvOctets_length_le_iff v).2 ⟨?_, ?_⟩⟩
      · rintro s rfl
        exact h.optionalTexts t ht s hv
      · rintro bs rfl
        exact h.optionalOctets t ht bs hv
  · rintro ⟨hsupported, hmandatory, hoptional, hraw⟩
    have hfields := fun f hf v hv =>
      (fieldFits_iff hsupported hf (fits_of_get? hm hf hv)).1 (hmandatory f hf v hv)
    have htlvs := fun t ht v hv => (tlvOctets_length_le_iff v).1 (hoptional t ht v hv).2
    refine
      { supported := hsupported
        texts := fun f hf max hkind s hv => (hfields f hf _ hv).1 max hkind s rfl
        shortMessages := fun f hf hkind bs hv => (hfields f hf _ hv).2.1 hkind bs rfl
        destinations := fun f hf ds hv => (hfields f hf _ hv).2.2 ds rfl
        implemented := fun t ht hv => ?_
        optionalTexts := fun t ht s hv => (htlvs t ht _ hv).1 s rfl
        optionalOctets := fun t ht bs hv => (htlvs t ht _ hv).2 bs rfl
        raw := hraw }
    obtain ⟨v, hv⟩ := Option.isSome_iff_exists.1 hv
    exact (hoptional t ht v hv).1

/-- Another value of a mandatory field matters for this field only. -/
theorem writable_insert_mandatory_iff
    {m : Message} {f : FieldSpec} {v : FieldValue}
    (hm : m.WellFormed)
    (hwritable : Writable m)
    (hf : f ∈ m.layout.mandatory)
    (hform : v.fits f.kind) :
    Writable { m with mandatory := m.mandatory.insert f.id v } ↔ FieldFits f.kind v := by
  have hfield := (m.type.mandatoryField?_eq_some_iff f.id f).2 ⟨hf, rfl⟩
  have hm' : Message.WellFormed { m with mandatory := m.mandatory.insert f.id v } :=
    hm.setMandatory ((Message.setMandatory_eq_ok_iff _ _ _ _).2 ⟨f, hfield, hform, rfl⟩)
  obtain ⟨hsupported, hfits⟩ := (writable_iff hm).1 hwritable
  obtain ⟨hmandatory, hoptional, hraw⟩ := (forall_mem_wireFields_iff m _).1 hfits
  rw [writable_iff hm', forall_mem_wireFields_iff]
  constructor
  · rintro ⟨-, hmandatory', -⟩
    exact hmandatory' f hf v ((FieldMap.get?_insert ..).trans (if_pos rfl))
  · intro hv
    refine ⟨hsupported, ?_, hoptional, hraw⟩
    intro g hg w hw
    rw [FieldMap.get?_insert] at hw
    split_ifs at hw with hid
    · obtain rfl := List.inj_on_of_nodup_map m.type.nodup_mandatory hg hf hid
      obtain rfl := Option.some.inj hw
      exact hv
    · exact hmandatory g hg w hw

/-! ### Frames -/

theorem encode_eq_map
    {m : Message}
    (hsupported : m.layout.unsupported = none) :
    encode m = (encodeBody m).map fun body => (headerOf m body).encode ++ body := by
  unfold encode
  rw [hsupported]
  rfl

theorem encode_of_unsupported
    {m : Message} {reason : String}
    (h : m.layout.unsupported = some reason) :
    encode m = .error (.unsupported (.messageType reason)) := by
  unfold encode
  rw [h]

/-- **Success and fault**: the frame of a message is its header and the octets of its
fields, and a message without a frame has the fault of its type or of its first field that
cannot be written. -/
theorem encode_eq_ok_iff
    {m : Message}
    (hm : m.WellFormed)
    (frame : List UInt8) :
    encode m = .ok frame ↔
      Writable m ∧ frame =
        (headerOf m ((wireFields m).map WireField.octets).flatten).encode ++
          ((wireFields m).map WireField.octets).flatten := by
  have hbody := mapM_eq_ok_iff fun x hx =>
    WireField.encode_eq_ok_iff (hasForm_of_mem_wireFields hm x hx)
  rw [writable_iff hm]
  constructor
  · intro h
    have hsupported : m.layout.unsupported = none := by
      refine Option.eq_none_iff_forall_ne_some.2 fun reason hreason => ?_
      cases (encode_of_unsupported hreason).symm.trans h
    rw [encode_eq_map hsupported, encodeBody_eq_mapM hm] at h
    obtain ⟨body, hmap, rfl⟩ := map_eq_ok h
    obtain ⟨parts, hparts, rfl⟩ := map_eq_ok hmap
    obtain ⟨hfits, rfl⟩ := (hbody parts).1 hparts
    exact ⟨⟨hsupported, hfits⟩, rfl⟩
  · rintro ⟨⟨hsupported, hfits⟩, rfl⟩
    rw [encode_eq_map hsupported, encodeBody_eq_mapM hm, (hbody _).2 ⟨hfits, rfl⟩]
    rfl

theorem encode_eq_error_iff
    {m : Message}
    (hm : m.WellFormed)
    (e : Error) :
    encode m = .error e ↔ FirstFault m e := by
  have hform := hasForm_of_mem_wireFields hm
  cases hunsupported : m.layout.unsupported with
  | some reason =>
      rw [encode_of_unsupported hunsupported]
      constructor
      · intro h
        obtain rfl := Except.error.inj h
        exact .type hunsupported
      · intro h
        cases h with
        | type h =>
            obtain rfl := Option.some.inj (hunsupported.symm.trans h)
            rfl
        | field h =>
            cases hunsupported.symm.trans h
  | none =>
      have hiff : encode m = .error e ↔ (wireFields m).mapM WireField.encode = .error e := by
        rw [encode_eq_map hunsupported, encodeBody_eq_mapM hm, map_eq_error_iff]
        exact map_eq_error_iff _ _ _
      rw [hiff, mapM_eq_error_iff]
      constructor
      · rintro ⟨front, x, back, hsplit, hfront, hx⟩
        refine .field hunsupported hsplit (fun y hy => ?_)
          ((WireField.encode_eq_error_iff (hform x (by simp [hsplit])) e).1 hx)
        obtain ⟨bs, hbs⟩ := hfront y hy
        exact ((WireField.encode_eq_ok_iff (hform y (by simp [hsplit, hy])) bs).1 hbs).1
      · intro h
        cases h with
        | type h =>
            cases hunsupported.symm.trans h
        | @field front back x _ _ hsplit hfront hx =>
            refine ⟨front, x, back, hsplit, fun y hy => ⟨y.octets, ?_⟩,
              (WireField.encode_eq_error_iff (hform x (by simp [hsplit])) e).2 hx⟩
            exact (WireField.encode_eq_ok_iff (hform y (by simp [hsplit, hy])) _).2
              ⟨hfront y hy, rfl⟩

/-- A frame opens with its length, the number of its type, its status and its sequence
number. -/
theorem frameOf_encode (m : Message) :
    FrameOf m ((headerOf m ((wireFields m).map WireField.octets).flatten).encode ++
      ((wireFields m).map WireField.octets).flatten) := by
  generalize hbody : ((wireFields m).map WireField.octets).flatten = body
  obtain ⟨hsplit, -, hlength⟩ := Header.split_encode (headerOf m body) body
  obtain ⟨header, hheader, hlen, hid, hstatus, hsequence⟩ :=
    Header.split_eq_ok (hlength ▸ Nat.le_add_right headerSize body.length :
      headerSize ≤ ((headerOf m body).encode ++ body).length)
  obtain ⟨rfl, -⟩ := Prod.mk.inj (Except.ok.inj (hsplit.symm.trans hheader))
  refine ⟨hlen.symm.trans ?_, hid.symm, hstatus.symm, hsequence.symm, _, rfl, by rw [hbody]⟩
  rw [hlength]
  exact UInt32.toNat_ofNat'

/-- The fields are written in the same way whatever the header is. -/
theorem encode_withStatus_withSequence (m : Message) (status sequence : UInt32) :
    encode ((m.withStatus status).withSequence sequence) =
      restamp status sequence <$> encode m := by
  have hlayout : ((m.withStatus status).withSequence sequence).layout = m.layout := rfl
  have hbody : encodeBody ((m.withStatus status).withSequence sequence) = encodeBody m := rfl
  unfold encode
  rw [hlayout, hbody]
  cases m.layout.unsupported with
  | some reason =>
      rfl
  | none =>
      cases encodeBody m with
      | error e =>
          rfl
      | ok body =>
          rfl

/-- What encoding makes of a message. -/
structure Encoding (m : Message) : Prop where
  /-- Success depends on the limits of the wire only. -/
  success : (∃ frame, encode m = .ok frame) ↔ Writable m
  /-- The fault is that of the type, or that of the first field that cannot be written. -/
  fault : ∀ e, encode m = .error e ↔ FirstFault m e
  frame : ∀ frame, encode m = .ok frame → FrameOf m frame
  /-- Another status and another number replace the octets from the eighth to the sixteenth,
  and nothing else. -/
  header : ∀ status sequence,
    encode ((m.withStatus status).withSequence sequence) =
      restamp status sequence <$> encode m

/-- **Which messages can be written, and as what.** -/
theorem encoding_of_wellFormed
    {m : Message}
    (hm : m.WellFormed) :
    Encoding m := by
  refine ⟨⟨?_, ?_⟩, encode_eq_error_iff hm, ?_, encode_withStatus_withSequence m⟩
  · rintro ⟨frame, hframe⟩
    exact ((encode_eq_ok_iff hm frame).1 hframe).1
  · intro h
    exact ⟨_, (encode_eq_ok_iff hm _).2 ⟨h, rfl⟩⟩
  · intro frame hframe
    obtain ⟨-, rfl⟩ := (encode_eq_ok_iff hm frame).1 hframe
    exact frameOf_encode m

/-- A login whose password is too long and whose name holds a NUL; the password was set
first. -/
def twoFaults : Message :=
  Message.build .bindTransmitter
    [.setMandatory .password (.text "123456789"),
      .setMandatory .systemId (.text "a\x00"), .status 1]

/-- The name is written first, and so it is the one that cannot be. -/
theorem encoding_twoFaults :
    FirstFault twoFaults (.malformed (.embeddedNul "SystemID")) ∧ ¬Writable twoFaults ∧
      ∀ status sequence e,
        encode ((twoFaults.withStatus status).withSequence sequence) = .error e →
        e = .malformed (.embeddedNul "SystemID") := by
  have h := encoding_of_wellFormed (Message.build_wellFormed .bindTransmitter
    [.setMandatory .password (.text "123456789"),
      .setMandatory .systemId (.text "a\x00"), .status 1])
  have hencode : encode twoFaults = .error (.malformed (.embeddedNul "SystemID")) := by
    decide +kernel
  refine ⟨(h.fault _).1 hencode, fun hwritable => ?_, fun status sequence e he => ?_⟩
  · obtain ⟨frame, hframe⟩ := h.success.2 hwritable
    cases hencode.symm.trans hframe
  · have hheader := h.header status sequence
    change encode ((twoFaults.withStatus status).withSequence sequence) = _ <$>
      encode twoFaults at hheader
    rw [hencode] at hheader
    exact (Except.error.inj (hheader.symm.trans he)).symm

end Pdu
end SmppReplay
