import SmppReplay.Pdu.Encode
import SmppReplay.Proofs.Faults
import SmppReplay.Proofs.Pdu.Grammar
import SmppReplay.Proofs.Text.Utf8

/-!
# What encoding writes

Whatever `encode` accepts it writes within the grammar of bodies, so that a reader can take
it up.

**Mandatory fields** are written with the very values that the message has.

**Optional fields** are written behind a length that is the right one, since longer values
are refused. Their texts may hold zeros, and what stands from the first zero on is lost to
the reader: a field is read as its value *cut* (`FieldValue.cut`).

Main fact:
* `writesBody_of_encodeBody`: the octets of a body.
-/

namespace SmppReplay

/-- The value with its text, if it is one, ending before the first NUL. -/
def FieldValue.cut : FieldValue → FieldValue
  | .text s => .text (String.ofList (s.toList.takeWhile (· != '\x00')))
  | v => v

/-- A value without a NUL in its text is not cut, and no other one is left as it is. -/
theorem FieldValue.cut_eq_self_iff (v : FieldValue) :
    v.cut = v ↔ ∀ s, v = .text s → '\x00' ∉ s.toList := by
  cases v with
  | text s =>
      have hstop : s.toList.takeWhile (· != '\x00') = s.toList ↔ '\x00' ∉ s.toList := by
        rw [List.takeWhile_eq_self_iff]
        constructor
        · intro h hmem
          simpa using h _ hmem
        · intro h c hc
          rw [bne_iff_ne]
          rintro rfl
          exact h hc
      constructor
      · intro h s' hs'
        obtain rfl := FieldValue.text.inj hs'
        rw [← hstop]
        conv_rhs => rw [← FieldValue.text.inj h]
        rw [String.toList_ofList]
      · intro h
        rw [FieldValue.cut, hstop.2 (h s rfl), String.ofList_toList]
  | _ =>
      simp [FieldValue.cut]

namespace Pdu

/-- Items that are each written within a relation are so one behind the other. -/
theorem writesAll_of_mapM
    {α : Type} {f : α → Except Error (List UInt8)} {W : List UInt8 → α → Prop}
    (hf : ∀ a bs, f a = .ok bs → W bs a)
    {as : List α} {parts : List (List UInt8)}
    (h : as.mapM f = .ok parts) :
    WritesAll W parts.flatten as := by
  induction as generalizing parts with
  | nil =>
      obtain rfl := Except.ok.inj h
      exact WritesAll.nil
  | cons a as ih =>
      obtain ⟨bs, parts', hbs, hparts, rfl⟩ := mapM_cons_eq_ok h
      exact WritesAll.cons (hf a bs hbs) (ih hparts)

/-! ### Mandatory fields -/

theorem writesText_of_encodeText
    {label : String} {s : String} {max : Nat} {bs : List UInt8}
    (h : encodeText label s max = .ok bs) :
    WritesText bs s := by
  simp only [encodeText] at h
  split_ifs at h with hlong hzero
  obtain rfl := Except.ok.inj h
  have hfree : 0 ∉ Text.Utf8.encode s := by
    simpa using hzero
  have htext := WritesText.text hfree
  rwa [Text.Utf8.decodeLossy_encode] at htext

theorem writesDestination_of_encode
    {label : String} (d : Destination) (bs : List UInt8)
    (h : encodeDestination label d = .ok bs) :
    WritesDestination bs d := by
  cases d with
  | address ton npi address =>
      obtain ⟨text, htext, rfl⟩ := map_eq_ok h
      exact WritesDestination.address ton npi (writesText_of_encodeText htext)
  | distributionList name =>
      obtain ⟨text, htext, rfl⟩ := map_eq_ok h
      exact WritesDestination.distributionList (writesText_of_encodeText htext)

/-- A count that fits into an octet is read back. -/
theorem toNat_count {n : Nat} (h : n ≤ 254) :
    (UInt8.ofNat n).toNat = n := by
  rw [UInt8.toNat_ofNat']
  omega

theorem writesField_of_encodeMandatory
    {f : FieldSpec} {v : FieldValue} {bs : List UInt8}
    (h : encodeMandatory f v = .ok bs) :
    WritesField f.kind bs v := by
  unfold encodeMandatory at h
  split at h
  · rename_i max s hkind
    rw [hkind]
    exact WritesField.text (writesText_of_encodeText h)
  · rename_i default n hkind
    rw [hkind]
    obtain rfl := Except.ok.inj h
    exact WritesField.integer n
  · rename_i octets hkind
    rw [hkind]
    split_ifs at h with hlong
    obtain rfl := Except.ok.inj h
    exact WritesField.shortMessage (toNat_count (Nat.le_of_not_lt hlong)).symm
  · rename_i ds hkind
    rw [hkind]
    split_ifs at h with hlong
    obtain ⟨parts, hparts, rfl⟩ := map_eq_ok h
    exact WritesField.destinations (writesAll_of_mapM writesDestination_of_encode hparts)
      (toNat_count (Nat.le_of_not_lt hlong)).symm
  · cases h
  · cases h

/-- The mandatory fields are written with the values that the message has. -/
theorem writesFields_of_mapM
    {m : Message} {fs : List FieldSpec} {parts : List (List UInt8)}
    (h : (fs.mapM fun f =>
      match m.mandatory.get? f.id with
      | some v => encodeMandatory f v
      | none => .error (.valueMismatch f.label)) = .ok parts) :
    ∃ vs, WritesFields fs parts.flatten vs ∧ ∀ e ∈ vs, m.mandatory.get? e.1 = some e.2 := by
  induction fs generalizing parts with
  | nil =>
      obtain rfl := Except.ok.inj h
      exact ⟨[], WritesFields.nil, by simp⟩
  | cons f fs ih =>
      obtain ⟨bs, parts', hbs, hparts, rfl⟩ := mapM_cons_eq_ok h
      obtain ⟨vs, hvs, hvalues⟩ := ih hparts
      cases hget : m.mandatory.get? f.id with
      | none =>
          rw [hget] at hbs
          cases hbs
      | some v =>
          rw [hget] at hbs
          refine ⟨(f.id, v) :: vs, WritesFields.cons
            (writesField_of_encodeMandatory hbs) hvs, ?_⟩
          intro e he
          rcases List.mem_cons.1 he with rfl | he
          · exact hget
          · exact hvalues e he

/-! ### Optional fields -/

/-- The raw octets are those of the field, and are read as the value. -/
structure Carries (t : RawTlv) (spec : TlvSpec) (v : FieldValue) : Prop where
  tag : t.tag = spec.tag
  implemented : spec.implemented
  value : WritesValue spec.kind t.value v

theorem writesTlv_of_length_le
    (tag : UInt16) {value : List UInt8}
    (h : value.length ≤ maxTlvValue) :
    WritesTlv (octets16 tag ++ (octets16 (UInt16.ofNat value.length) ++ value))
      ⟨tag, value⟩ := by
  have hlen : value.length = bigEndian (octets16 (UInt16.ofNat value.length)) := by
    rw [bigEndian_octets16, UInt16.toNat_ofNat', Nat.mod_eq_of_lt]
    exact Nat.lt_succ_of_le h
  have htlv := WritesTlv.tlv (tag >>> 8).toUInt8 tag.toUInt8 _ _ hlen
  rwa [word16_octets16] at htlv

theorem encodeTlvLength_eq_ok
    {label : String} {size : Nat} {bs : List UInt8}
    (h : encodeTlvLength label size = .ok bs) :
    size ≤ maxTlvValue ∧ bs = octets16 (UInt16.ofNat size) := by
  unfold encodeTlvLength at h
  split_ifs at h with hlong
  exact ⟨Nat.le_of_not_lt hlong, (Except.ok.inj h).symm⟩

/-- A text and its zero are read as the text up to its first NUL. -/
theorem writesValue_text (s : String) :
    WritesValue .text (Text.Utf8.encode s ++ [0]) (FieldValue.text s).cut := by
  have hstop : ∀ bs : List UInt8, (bs ++ [0]).takeWhile (· != 0) = bs.takeWhile (· != 0) := by
    intro bs
    induction bs with
    | nil =>
        rfl
    | cons b bs ih =>
        simp only [List.cons_append, List.takeWhile_cons, ih]
  have htext : WritesValue .text (Text.Utf8.encode s ++ [0]) _ :=
    WritesValue.text (by simp)
  rwa [hstop, Text.Utf8.takeWhile_encode, Text.Utf8.decodeLossy_encode] at htext

theorem writesValue_u16 (n : UInt16) :
    WritesValue .u16 (octets16 n) (.u16 n) := by
  have h := WritesValue.u16 (n >>> 8).toUInt8 n.toUInt8
  rwa [word16_octets16] at h

theorem writesValue_u32 (n : UInt32) :
    WritesValue .u32 (octets32 n) (.u32 n) := by
  have h := WritesValue.u32 (n >>> 24).toUInt8 (n >>> 16).toUInt8 (n >>> 8).toUInt8 n.toUInt8
  rwa [word32_octets32] at h

theorem writesValue_networkError (n : UInt8) (c : UInt16) :
    WritesValue .networkError (n :: octets16 c) (.networkError n c) := by
  have h := WritesValue.networkError n (c >>> 8).toUInt8 c.toUInt8
  rwa [word16_octets16] at h

/-- The value of an optional field stands behind its length. -/
theorem encodeTlvValue_eq_ok
    {spec : TlvSpec} {v : FieldValue} {bs : List UInt8}
    (h : encodeTlvValue spec v = .ok bs) :
    ∃ value, bs = octets16 (UInt16.ofNat value.length) ++ value ∧
      value.length ≤ maxTlvValue ∧ WritesValue spec.kind value v.cut := by
  unfold encodeTlvValue at h
  generalize spec.kind = kind at h ⊢
  match kind, v, h with
  | .u8, .u8 n, h =>
      obtain rfl := Except.ok.inj h
      exact ⟨[n], rfl, by simp [maxTlvValue], WritesValue.u8 n⟩
  | .u16, .u16 n, h =>
      obtain rfl := Except.ok.inj h
      exact ⟨octets16 n, rfl, by simp [octets16, maxTlvValue], writesValue_u16 n⟩
  | .u32, .u32 n, h =>
      obtain rfl := Except.ok.inj h
      exact ⟨octets32 n, rfl, by simp [octets32, maxTlvValue], writesValue_u32 n⟩
  | .text, .text s, h =>
      obtain ⟨len, hlen, rfl⟩ := map_eq_ok h
      obtain ⟨hfit, rfl⟩ := encodeTlvLength_eq_ok hlen
      refine ⟨Text.Utf8.encode s ++ [0], ?_, ?_, writesValue_text s⟩
      · rw [List.length_append, List.append_assoc]
        rfl
      · rw [List.length_append]
        exact hfit
  | .octets, .octets octets, h =>
      obtain ⟨len, hlen, rfl⟩ := map_eq_ok h
      obtain ⟨hfit, rfl⟩ := encodeTlvLength_eq_ok hlen
      exact ⟨octets, rfl, hfit, WritesValue.octets octets⟩
  | .flag, .flag, h =>
      obtain rfl := Except.ok.inj h
      exact ⟨[], rfl, by simp, WritesValue.flag⟩
  | .networkError, .networkError n c, h =>
      obtain rfl := Except.ok.inj h
      exact ⟨n :: octets16 c, rfl, by simp [octets16,
        maxTlvValue], writesValue_networkError n c⟩

theorem writesTlv_of_encodeOptional
    {spec : TlvSpec} {v : FieldValue} {bs : List UInt8}
    (h : encodeOptional spec v = .ok bs) :
    ∃ t, WritesTlv bs t ∧ Carries t spec v.cut := by
  unfold encodeOptional at h
  split_ifs at h with himpl
  obtain ⟨value', hvalue', rfl⟩ := map_eq_ok h
  obtain ⟨value, rfl, hfit, hvalue⟩ := encodeTlvValue_eq_ok hvalue'
  exact ⟨⟨spec.tag, value⟩, writesTlv_of_length_le spec.tag hfit, rfl, himpl, hvalue⟩

/-- The optional fields are written so that each is read as its value cut. -/
theorem writesTlvs_of_mapM
    {es : List (TlvSpec × FieldValue)} {parts : List (List UInt8)}
    (h : (es.mapM fun e => encodeOptional e.1 e.2) = .ok parts) :
    ∃ ts, WritesAll WritesTlv parts.flatten ts ∧
      List.Forall₂ (fun t e => Carries t e.1 e.2.cut) ts es := by
  induction es generalizing parts with
  | nil =>
      obtain rfl := Except.ok.inj h
      exact ⟨[], WritesAll.nil, List.Forall₂.nil⟩
  | cons e es ih =>
      obtain ⟨bs, parts', hbs, hparts, rfl⟩ := mapM_cons_eq_ok h
      obtain ⟨t, ht, hcarries⟩ := writesTlv_of_encodeOptional hbs
      obtain ⟨ts, hts, hall⟩ := ih hparts
      exact ⟨t :: ts, WritesAll.cons ht hts, List.Forall₂.cons hcarries hall⟩

/-- A raw field is written as it is. -/
theorem writesTlv_of_encodeUnknown
    (t : RawTlv) (bs : List UInt8)
    (h : encodeUnknown t = .ok bs) :
    WritesTlv bs t := by
  obtain ⟨len, hlen, rfl⟩ := map_eq_ok h
  obtain ⟨hfit, rfl⟩ := encodeTlvLength_eq_ok hlen
  rw [List.append_assoc]
  exact writesTlv_of_length_le t.tag hfit

/-! ### Bodies -/

theorem WritesAll.append
    {α : Type} {W : List UInt8 → α → Prop} {bs cs : List UInt8} {as as' : List α}
    (h : WritesAll W bs as)
    (h' : WritesAll W cs as') :
    WritesAll W (bs ++ cs) (as ++ as') := by
  induction h with
  | nil =>
      exact h'
  | cons ha hrest ih =>
      rw [List.append_assoc, List.cons_append]
      exact WritesAll.cons ha ih

/-- **What encoding writes.** The mandatory fields have the values of the message, the
optional fields are read as theirs cut, and the raw ones stand behind them. -/
theorem writesBody_of_encodeBody
    {m : Message} {body : List UInt8}
    (h : encodeBody m = .ok body) :
    ∃ vs ts, WritesBody m.layout.mandatory body vs (ts ++ m.unknown) ∧
      (∀ e ∈ vs, m.mandatory.get? e.1 = some e.2) ∧
      List.Forall₂ (fun t e => Carries t e.1 e.2.cut) ts m.optionalFields := by
  obtain ⟨mandatory, hmandatory, h⟩ := bind_eq_ok h
  obtain ⟨optional, hoptional, h⟩ := bind_eq_ok h
  obtain ⟨unknown, hunknown, h⟩ := bind_eq_ok h
  obtain rfl := Except.ok.inj h
  obtain ⟨vs, hvs, hvalues⟩ := writesFields_of_mapM hmandatory
  obtain ⟨ts, hts, hcarries⟩ := writesTlvs_of_mapM hoptional
  have hraw := writesAll_of_mapM writesTlv_of_encodeUnknown hunknown
  refine ⟨vs, ts, ⟨mandatory.flatten, optional.flatten ++ unknown.flatten, ?_, hvs, ?_⟩,
    hvalues, hcarries⟩
  · rw [List.append_assoc]
  · exact hts.append hraw

/-- The header that stands in front of a body. -/
def headerOf (m : Message) (body : List UInt8) : Header :=
  ⟨UInt32.ofNat (headerSize + body.length), m.type.id, m.status, m.sequence⟩

theorem encode_eq_ok
    {m : Message} {frame : List UInt8}
    (h : encode m = .ok frame) :
    ∃ body, encodeBody m = .ok body ∧ frame = (headerOf m body).encode ++ body := by
  unfold encode at h
  split at h
  · cases h
  · obtain ⟨body, hbody, rfl⟩ := map_eq_ok h
    exact ⟨body, hbody, rfl⟩

end Pdu
end SmppReplay
