import SmppReplay.Proofs.Pdu.RoundTrip

/-!
# How long frames are

Every field is written in a bounded number of octets, and a type has few fields, so that the
length of a frame without raw fields fits into its word.  Only the texts and payloads of
optional fields are of free length (`Message.freeOctets`); the rest of a frame is short
(`MessageType.boundedOctets`).

Main facts:
* `length_encode_lt`: the length of a message without raw fields is not reduced;
* `length_encode_le`: a frame is not longer than its type says, but for texts and payloads.
-/

namespace SmppReplay

/-- The most octets in which a mandatory field of the kind is written. -/
def FieldKind.maxOctets : FieldKind → Nat
  | .text max => max
  | .integer _ => 1
  | .shortMessage => 1 + Pdu.maxShortMessage
  | .destinations => 1 + Pdu.maxDestinations * (3 + Pdu.maxDestinationText)
  | .unsuccessful => 0

/-- The octets of an optional field of the kind: tag, length and value, but for a text or a
payload. -/
def TlvKind.boundedOctets : TlvKind → Nat
  | .u8 => 5
  | .u16 => 6
  | .u32 => 8
  | .text => 5
  | .octets => 4
  | .flag => 4
  | .networkError => 7

/-- The octets of a text or a payload. -/
def FieldValue.freeOctets : FieldValue → Nat
  | .text s => (Text.Utf8.encode s).length
  | .octets bs => bs.length
  | _ => 0

/-- The most octets in which a message of the type is written, but for its optional texts
and payloads. -/
def MessageType.boundedOctets (t : MessageType) : Nat :=
  Pdu.headerSize + (t.layout.mandatory.map fun f => f.kind.maxOctets).sum +
    (t.layout.optional.map fun spec => spec.kind.boundedOctets).sum

/-- The octets of the optional texts and payloads of a message. -/
def Message.freeOctets (m : Message) : Nat :=
  (m.optionalFields.map fun e => e.2.freeOctets).sum

namespace Pdu

/-- The most octets in which an optional field is written. -/
def maxOptional : Nat := 4 + maxTlvValue

/-- Items that are each written in so many octets are written in the sum of them. -/
theorem length_flatten_mapM_le
    {ε α : Type} {f : α → Except ε (List UInt8)} {bound : α → Nat}
    (hf : ∀ a bs, f a = .ok bs → bs.length ≤ bound a)
    {as : List α} {parts : List (List UInt8)}
    (h : as.mapM f = .ok parts) :
    parts.flatten.length ≤ (as.map bound).sum := by
  induction as generalizing parts with
  | nil =>
      obtain rfl := Except.ok.inj h
      simp
  | cons a as ih =>
      obtain ⟨bs, parts', hbs, hparts, rfl⟩ := mapM_cons_eq_ok h
      have hhead := hf a bs hbs
      have htail := ih hparts
      simp only [List.flatten_cons, List.length_append, List.map_cons, List.sum_cons]
      omega

theorem length_encodeText_le
    {label : String} {s : String} {max : Nat} {bs : List UInt8}
    (h : encodeText label s max = .ok bs) :
    bs.length ≤ max := by
  simp only [encodeText] at h
  split_ifs at h with hlong hzero
  obtain rfl := Except.ok.inj h
  rw [List.length_append, List.length_singleton]
  omega

theorem length_encodeDestination_le
    {label : String} (d : Destination) (bs : List UInt8)
    (h : encodeDestination label d = .ok bs) :
    bs.length ≤ 3 + maxDestinationText := by
  cases d with
  | address ton npi address =>
      obtain ⟨text, htext, rfl⟩ := map_eq_ok h
      have hlen := length_encodeText_le htext
      simp only [List.length_cons]
      omega
  | distributionList name =>
      obtain ⟨text, htext, rfl⟩ := map_eq_ok h
      have hlen := length_encodeText_le htext
      simp only [List.length_cons]
      omega

theorem length_encodeMandatory_le
    {f : FieldSpec} {v : FieldValue} {bs : List UInt8}
    (h : encodeMandatory f v = .ok bs) :
    bs.length ≤ f.kind.maxOctets := by
  unfold encodeMandatory at h
  split at h
  · rename_i max s hkind
    rw [hkind]
    exact length_encodeText_le h
  · rename_i default n hkind
    rw [hkind]
    obtain rfl := Except.ok.inj h
    exact Nat.le_refl 1
  · rename_i octets hkind
    rw [hkind]
    split_ifs at h with hlong
    obtain rfl := Except.ok.inj h
    simp only [List.length_cons, FieldKind.maxOctets]
    omega
  · rename_i ds hkind
    rw [hkind]
    split_ifs at h with hlong
    obtain ⟨parts, hparts, rfl⟩ := map_eq_ok h
    have hsum := length_flatten_mapM_le length_encodeDestination_le hparts
    rw [List.map_const', List.sum_replicate, smul_eq_mul] at hsum
    have hcount := Nat.mul_le_mul_right (3 + maxDestinationText) (Nat.le_of_not_lt hlong)
    simp only [List.length_cons, FieldKind.maxOctets]
    omega
  · cases h
  · cases h

theorem length_encodeOptional_le
    {spec : TlvSpec} {v : FieldValue} {bs : List UInt8}
    (h : encodeOptional spec v = .ok bs) :
    bs.length ≤ maxOptional := by
  unfold encodeOptional at h
  split_ifs at h with himpl
  obtain ⟨value', hvalue', rfl⟩ := map_eq_ok h
  obtain ⟨value, rfl, hfit, -⟩ := encodeTlvValue_eq_ok hvalue'
  simp only [List.length_append, octets16, List.length_cons, List.length_nil, maxOptional]
  omega

/-- Apart from a text or a payload the kind tells in how many octets an optional field is
written. -/
theorem length_encodeOptional
    {spec : TlvSpec} {v : FieldValue} {bs : List UInt8}
    (h : encodeOptional spec v = .ok bs) :
    bs.length = spec.kind.boundedOctets + v.freeOctets := by
  unfold encodeOptional at h
  split_ifs at h with himpl
  obtain ⟨value, hvalue, rfl⟩ := map_eq_ok h
  unfold encodeTlvValue at hvalue
  generalize spec.kind = kind at hvalue ⊢
  match kind, v, hvalue with
  | .u8, .u8 n, hvalue | .u16, .u16 n, hvalue | .u32, .u32 n, hvalue | .flag, .flag, hvalue
  | .networkError, .networkError n c, hvalue =>
      obtain rfl := Except.ok.inj hvalue
      rfl
  | .text, .text s, hvalue =>
      obtain ⟨len, hlen, rfl⟩ := map_eq_ok hvalue
      obtain ⟨-, rfl⟩ := encodeTlvLength_eq_ok hlen
      simp only [octets16, List.length_append, List.length_cons, List.length_nil,
        TlvKind.boundedOctets, FieldValue.freeOctets]
      omega
  | .octets, .octets bs, hvalue =>
      obtain ⟨len, hlen, rfl⟩ := map_eq_ok hvalue
      obtain ⟨-, rfl⟩ := encodeTlvLength_eq_ok hlen
      simp only [octets16, List.length_append, List.length_cons, List.length_nil,
        TlvKind.boundedOctets, FieldValue.freeOctets]
      omega

/-- The fields that have a value are not more than those of the layout. -/
theorem sum_optionalFields_le (m : Message) (bound : TlvSpec → Nat) :
    (m.optionalFields.map fun e => bound e.1).sum ≤ (m.layout.optional.map bound).sum := by
  unfold Message.optionalFields
  generalize m.layout.optional = specs
  induction specs with
  | nil =>
      exact Nat.le_refl 0
  | cons spec specs ih =>
      cases hget : m.optional.get? spec.id with
      | none =>
          simp only [List.filterMap_cons, hget, Option.map_none, List.map_cons, List.sum_cons]
          omega
      | some v =>
          simp only [List.filterMap_cons, hget, Option.map_some, List.map_cons, List.sum_cons]
          omega

/-- The body of a message is as long as its optional fields and the bounds of the others
allow. -/
theorem length_encodeBody_le
    {m : Message} {body : List UInt8} {bound : TlvSpec × FieldValue → Nat}
    (hbound : ∀ e bs, encodeOptional e.1 e.2 = .ok bs → bs.length ≤ bound e)
    (h : encodeBody m = .ok body)
    (hraw : m.unknown = []) :
    body.length ≤ (m.layout.mandatory.map fun f => f.kind.maxOctets).sum +
      (m.optionalFields.map bound).sum := by
  obtain ⟨mandatory, hmandatory, h⟩ := bind_eq_ok h
  obtain ⟨optional, hoptional, h⟩ := bind_eq_ok h
  obtain ⟨unknown, hunknown, h⟩ := bind_eq_ok h
  obtain rfl := Except.ok.inj h
  have hfields : mandatory.flatten.length ≤
      (m.layout.mandatory.map fun f => f.kind.maxOctets).sum := by
    refine length_flatten_mapM_le ?_ hmandatory
    intro f bs hbs
    cases hget : m.mandatory.get? f.id with
    | none =>
        rw [hget] at hbs
        cases hbs
    | some v =>
        rw [hget] at hbs
        exact length_encodeMandatory_le hbs
  have hoptions := length_flatten_mapM_le hbound hoptional
  have hnone : unknown = [] := by
    rw [hraw] at hunknown
    exact (Except.ok.inj hunknown).symm
  rw [hnone, List.flatten_nil, List.append_nil, List.length_append]
  omega

/-- The fields of a type leave room in the word for the length of a frame. -/
theorem frame_lt_size (t : MessageType) :
    headerSize + ((t.layout.mandatory.map fun f => f.kind.maxOctets).sum +
      (t.layout.optional.map fun _ => maxOptional).sum) < UInt32.size := by
  cases t <;> decide

/-- **The length of a frame fits into its word**, if there are no raw fields. -/
theorem length_encode_lt
    {m : Message} {frame : List UInt8}
    (h : encode m = .ok frame)
    (hraw : m.unknown = []) :
    frame.length < UInt32.size := by
  obtain ⟨body, hbody, rfl⟩ := encode_eq_ok h
  have hle := length_encodeBody_le (fun _ _ => length_encodeOptional_le) hbody hraw
  have hoptions := sum_optionalFields_le m fun _ => maxOptional
  have hlt := frame_lt_size m.type
  rw [(Header.split_encode (headerOf m body) body).2.2]
  unfold Message.layout at hle hoptions
  omega

/-- **The length of a frame** is bounded by its type, but for its optional texts and
payloads. -/
theorem length_encode_le
    {m : Message} {frame : List UInt8}
    (h : encode m = .ok frame)
    (hraw : m.unknown = []) :
    frame.length ≤ m.type.boundedOctets + m.freeOctets := by
  obtain ⟨body, hbody, rfl⟩ := encode_eq_ok h
  have hle := length_encodeBody_le (fun e bs hbs => (length_encodeOptional hbs).le) hbody hraw
  have hoptions := sum_optionalFields_le m fun spec => spec.kind.boundedOctets
  rw [List.sum_map_add] at hle
  rw [(Header.split_encode (headerOf m body) body).2.2]
  unfold Message.layout at hle hoptions
  unfold MessageType.boundedOctets Message.freeOctets
  omega

/-- The type with the longest list of destinations has the longest frames. -/
theorem boundedOctets_le (t : MessageType) :
    t.boundedOctets ≤ 6547 := by
  cases t <;> decide

end Pdu
end SmppReplay
