import SmppReplay.Proofs.Pdu.RoundTrip

/-!
# Messages without a wire form

**Question.**  For what cause can a message not be written?

The values of a well-formed message have the forms that their fields need, so that no field
is missing and no value is of the wrong form.  What is left (`Unfit`, `UnfitTlv`) is a text,
a payload or a list that is too long, a text with a NUL, and what the library does not write
at all.

Main fact:
* `encode_fault`: the causes, for the whole message.
-/

namespace SmppReplay

/-- The text of a destination: its address, or the name of a distribution list. -/
def Destination.text : Destination → String
  | .address _ _ s => s
  | .distributionList s => s

/-- The texts in a value. -/
def FieldValue.texts : FieldValue → List String
  | .text s => [s]
  | .destinations ds => ds.map Destination.text
  | .unsuccessful fs => fs.map FailedDestination.address
  | _ => []

namespace Pdu

section Defs

/-- Why a mandatory field cannot be written with a value that has the right form. -/
inductive Unfit (f : FieldSpec) : FieldValue → Error → Prop
  | text {max : Nat} {s : String} (hkind : f.kind = .text max)
      (h : max < (Text.Utf8.encode s).length + 1) :
      Unfit f (.text s) (.fieldTooLong f.label (Text.Utf8.encode s).length (max - 1))
  | shortMessage {bs : List UInt8} (h : maxShortMessage < bs.length) :
      Unfit f (.octets bs) (.fieldTooLong f.label bs.length maxShortMessage)
  | destinations {ds : List Destination} (h : maxDestinations < ds.length) :
      Unfit f (.destinations ds) (.fieldTooLong f.label ds.length maxDestinations)
  | destination {ds : List Destination} {d : Destination} (label : String) (hd : d ∈ ds)
      (h : maxDestinationText < (Text.Utf8.encode d.text).length + 1) :
      Unfit f (.destinations ds)
        (.fieldTooLong label (Text.Utf8.encode d.text).length (maxDestinationText - 1))
  | nul {v : FieldValue} {s : String} (label : String) (hs : s ∈ v.texts)
      (h : '\x00' ∈ s.toList) :
      Unfit f v (.malformed (.embeddedNul label))
  | unsuccessful (fs : List FailedDestination) :
      Unfit f (.unsuccessful fs) (.unsupported .unsuccessfulList)

/-- Why an optional field cannot be written with a value that has the right form. -/
inductive UnfitTlv (spec : TlvSpec) : FieldValue → Error → Prop
  | notImplemented {v : FieldValue} (h : spec.implemented = false) :
      UnfitTlv spec v (.unsupported (.optionalField spec.label))
  | text {s : String} (h : maxTlvValue < (Text.Utf8.encode s).length + 1) :
      UnfitTlv spec (.text s)
        (.fieldTooLong spec.label ((Text.Utf8.encode s).length + 1) maxTlvValue)
  | octets {bs : List UInt8} (h : maxTlvValue < bs.length) :
      UnfitTlv spec (.octets bs) (.fieldTooLong spec.label bs.length maxTlvValue)

/-- Why the fields of a message cannot be written: one of them cannot. -/
inductive UnwritableBody (m : Message) : Error → Prop
  | mandatory {f : FieldSpec} {v : FieldValue} {e : Error} (hf : f ∈ m.layout.mandatory)
      (hv : m.mandatory.get? f.id = some v) (h : Unfit f v e) :
      UnwritableBody m e
  | optional {spec : TlvSpec} {v : FieldValue} {e : Error} (hspec : spec ∈ m.layout.optional)
      (hv : m.optional.get? spec.id = some v) (h : UnfitTlv spec v e) :
      UnwritableBody m e
  | raw {t : RawTlv} (ht : t ∈ m.unknown) (h : maxTlvValue < t.value.length) :
      UnwritableBody m (.fieldTooLong "Tlv" t.value.length maxTlvValue)

/-- Why a message cannot be written: its type is not written at all, or its fields cannot
be. -/
inductive Unwritable (m : Message) : Error → Prop
  | type {reason : String} (h : m.layout.unsupported = some reason) :
      Unwritable m (.unsupported (.messageType reason))
  | body {e : Error} (h : m.layout.unsupported = none) (hbody : UnwritableBody m e) :
      Unwritable m e

end Defs

/-! ### Mandatory fields -/

theorem encodeText_fault
    {label : String} {s : String} {max : Nat} {e : Error}
    (h : encodeText label s max = .error e) :
    (max < (Text.Utf8.encode s).length + 1 ∧
        e = .fieldTooLong label (Text.Utf8.encode s).length (max - 1)) ∨
      '\x00' ∈ s.toList ∧ e = .malformed (.embeddedNul label) := by
  simp only [encodeText] at h
  split_ifs at h with hlong hzero
  · exact .inl ⟨hlong, (Except.error.inj h).symm⟩
  · refine .inr ⟨?_, (Except.error.inj h).symm⟩
    rw [← Text.Utf8.zero_mem_encode_iff]
    simpa using hzero

theorem encodeDestination_fault
    {label : String} {d : Destination} {e : Error}
    (h : encodeDestination label d = .error e) :
    ∃ label', (maxDestinationText < (Text.Utf8.encode d.text).length + 1 ∧
        e = .fieldTooLong label' (Text.Utf8.encode d.text).length (maxDestinationText - 1)) ∨
      '\x00' ∈ d.text.toList ∧ e = .malformed (.embeddedNul label') := by
  cases d with
  | address ton npi address =>
      have htext : encodeText label address maxDestinationText = .error e := map_eq_error h
      exact ⟨label, encodeText_fault htext⟩
  | distributionList name =>
      have htext : encodeText "DistributionList" name maxDestinationText = .error e :=
        map_eq_error h
      exact ⟨"DistributionList", encodeText_fault htext⟩

/-- The faults of a mandatory field whose value has the right form. -/
theorem encodeMandatory_fault
    {f : FieldSpec} {v : FieldValue} {e : Error}
    (hfits : v.fits f.kind)
    (h : encodeMandatory f v = .error e) :
    Unfit f v e := by
  unfold encodeMandatory at h
  generalize hkind : f.kind = kind at h hfits
  match kind, v, hfits, h with
  | .text max, .text s, _, h =>
      rcases encodeText_fault h with ⟨hlong, rfl⟩ | ⟨hnul, rfl⟩
      · exact Unfit.text hkind hlong
      · exact Unfit.nul f.label (List.mem_singleton_self s) hnul
  | .integer default, .u8 n, _, h =>
      cases h
  | .shortMessage, .octets bs, _, h =>
      dsimp only at h
      split_ifs at h with hlong
      obtain rfl := Except.error.inj h
      exact Unfit.shortMessage hlong
  | .destinations, .destinations ds, _, h =>
      dsimp only at h
      split_ifs at h with hlong
      · obtain rfl := Except.error.inj h
        exact Unfit.destinations hlong
      · obtain ⟨d, hd, hfault⟩ := exists_of_mapM_eq_error (map_eq_error h)
        obtain ⟨label, ⟨hlong, rfl⟩ | ⟨hnul, rfl⟩⟩ := encodeDestination_fault hfault
        · exact Unfit.destination label hd hlong
        · exact Unfit.nul label (List.mem_map_of_mem hd) hnul
  | .unsuccessful, .unsuccessful fs, _, h =>
      obtain rfl := Except.error.inj h
      exact Unfit.unsuccessful fs

/-! ### Optional fields -/

theorem encodeTlvLength_fault
    {label : String} {size : Nat} {e : Error}
    (h : encodeTlvLength label size = .error e) :
    maxTlvValue < size ∧ e = .fieldTooLong label size maxTlvValue := by
  unfold encodeTlvLength at h
  split_ifs at h with hlong
  exact ⟨hlong, (Except.error.inj h).symm⟩

/-- The faults of an optional field whose value has the right form. -/
theorem encodeOptional_fault
    {spec : TlvSpec} {v : FieldValue} {e : Error}
    (hfits : v.fitsTlv spec.kind)
    (h : encodeOptional spec v = .error e) :
    UnfitTlv spec v e := by
  unfold encodeOptional at h
  split_ifs at h with himpl
  · replace h := map_eq_error h
    unfold encodeTlvValue at h
    generalize spec.kind = kind at h hfits
    match kind, v, hfits, h with
    | .u8, .u8 n, _, h | .u16, .u16 n, _, h | .u32, .u32 n, _, h | .flag, .flag, _, h
    | .networkError, .networkError n c, _, h =>
        cases h
    | .text, .text s, _, h =>
        obtain ⟨hlong, rfl⟩ := encodeTlvLength_fault (map_eq_error h)
        exact UnfitTlv.text hlong
    | .octets, .octets bs, _, h =>
        obtain ⟨hlong, rfl⟩ := encodeTlvLength_fault (map_eq_error h)
        exact UnfitTlv.octets hlong
  · obtain rfl := Except.error.inj h
    exact UnfitTlv.notImplemented (Bool.eq_false_iff.2 himpl)

/-! ### Messages -/

/-- A field of a well-formed message has a value of the right form. -/
theorem exists_fits_of_mem
    {m : Message} {f : FieldSpec}
    (hm : m.WellFormed)
    (hf : f ∈ m.layout.mandatory) :
    ∃ v, m.mandatory.get? f.id = some v ∧ v.fits f.kind := by
  obtain ⟨v, hv⟩ := Option.isSome_iff_exists.1 (hm.complete f hf)
  obtain ⟨g, hg, hid, hfits⟩ := hm.mandatory f.id v hv
  obtain rfl := List.inj_on_of_nodup_map m.type.nodup_mandatory hg hf hid
  exact ⟨v, hv, hfits⟩

theorem fitsTlv_of_get?
    {m : Message} {spec : TlvSpec} {v : FieldValue}
    (hm : m.WellFormed)
    (hspec : spec ∈ m.layout.optional)
    (hv : m.optional.get? spec.id = some v) :
    v.fitsTlv spec.kind := by
  obtain ⟨spec', hspec', hid, hfits⟩ := hm.optional spec.id v hv
  obtain rfl := List.inj_on_of_nodup_map m.type.nodup_optional hspec' hspec hid
  exact hfits

theorem encodeBody_fault
    {m : Message} {e : Error}
    (hm : m.WellFormed)
    (h : encodeBody m = .error e) :
    UnwritableBody m e := by
  rcases bind_eq_error h with h | ⟨mandatory, -, h⟩
  · obtain ⟨f, hf, hfault⟩ := exists_of_mapM_eq_error h
    obtain ⟨v, hv, hfits⟩ := exists_fits_of_mem hm hf
    rw [hv] at hfault
    exact UnwritableBody.mandatory hf hv (encodeMandatory_fault hfits hfault)
  rcases bind_eq_error h with h | ⟨optional, -, h⟩
  · obtain ⟨⟨spec, v⟩, hmem, hfault⟩ := exists_of_mapM_eq_error h
    obtain ⟨hspec, hv⟩ := (mem_optionalFields_iff m spec v).1 hmem
    exact UnwritableBody.optional hspec hv
      (encodeOptional_fault (fitsTlv_of_get? hm hspec hv) hfault)
  rcases bind_eq_error h with h | ⟨unknown, -, h⟩
  · obtain ⟨t, ht, hfault⟩ := exists_of_mapM_eq_error h
    obtain ⟨hlong, rfl⟩ := encodeTlvLength_fault (map_eq_error hfault)
    exact UnwritableBody.raw ht hlong
  · cases h

/-- **Why a well-formed message cannot be written.** -/
theorem encode_fault
    {m : Message} {e : Error}
    (hm : m.WellFormed)
    (h : encode m = .error e) :
    Unwritable m e := by
  unfold encode at h
  split at h
  · rename_i reason hreason
    obtain rfl := Except.error.inj h
    exact Unwritable.type hreason
  · rename_i hsupported
    exact Unwritable.body hsupported (encodeBody_fault hm (map_eq_error h))

end Pdu
end SmppReplay
