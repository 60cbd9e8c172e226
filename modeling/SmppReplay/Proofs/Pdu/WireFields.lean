import SmppReplay.Proofs.Pdu.Unwritable

/-!
# Single fields on the wire

**Question.** The limits of the wire are checked in several places: in the texts of
mandatory fields, in the short message, in the list of destinations, in optional fields and
in raw ones, with and without a zero that is counted.  When can a field be written, what is
its fault otherwise, and what are its octets?

**Method.** For every part of a message three things are said without regard to the encoder:
whether it can be written (`TextFits`, `FieldFits`, `WireField.Fits`), the fault if it
cannot (`TextFault`, `FieldFault`, `TlvFault`), and its octets (`textOctets`,
`FieldValue.fieldOctets`, `taggedOctets`).

Main facts:
* `WireField.encode_eq_ok_iff`: the encoder succeeds on what can be written, with these
  octets;
* `WireField.encode_eq_error_iff`: it fails on the rest, with these faults.
-/

namespace SmppReplay

/-- A text and its NUL. -/
def textOctets (s : String) : List UInt8 :=
  Text.Utf8.encode s ++ [0]

/-- The octets of a destination. -/
def Destination.octets : Destination → List UInt8
  | .address ton npi s => 1 :: ton :: npi :: textOctets s
  | .distributionList s => 2 :: textOctets s

/-- The key under which a fault names a destination of a field. -/
def Destination.faultKey (label : String) : Destination → String
  | .address _ _ _ => label
  | .distributionList _ => "DistributionList"

/-- The octets of a value in a mandatory field. -/
def FieldValue.fieldOctets : FieldValue → List UInt8
  | .text s => textOctets s
  | .u8 n => [n]
  | .octets bs => UInt8.ofNat bs.length :: bs
  | .destinations ds => UInt8.ofNat ds.length :: (ds.map Destination.octets).flatten
  | _ => []

/-- The octets of a value in an optional field, behind tag and length. -/
def FieldValue.tlvOctets : FieldValue → List UInt8
  | .u8 n => [n]
  | .u16 n => Pdu.octets16 n
  | .u32 n => Pdu.octets32 n
  | .text s => textOctets s
  | .octets bs => bs
  | .networkError n c => n :: Pdu.octets16 c
  | _ => []

namespace Pdu

/-! ### Texts -/

/-- A field of `max` octets can hold the text: there is room for its NUL, and it holds no
other one. -/
structure TextFits (max : Nat) (s : String) : Prop where
  size : (Text.Utf8.encode s).length < max
  nulFree : '\x00' ∉ s.toList

/-- Why a field of `max` octets cannot hold a text.  The length is looked at first. -/
inductive TextFault (label : String) (max : Nat) (s : String) : Error → Prop
  | tooLong (h : max ≤ (Text.Utf8.encode s).length) :
      TextFault label max s (.fieldTooLong label (Text.Utf8.encode s).length (max - 1))
  | nul (hsize : (Text.Utf8.encode s).length < max) (h : '\x00' ∈ s.toList) :
      TextFault label max s (.malformed (.embeddedNul label))

section Texts

variable (label : String) (max : Nat) (s : String)

theorem contains_zero_iff :
    (Text.Utf8.encode s).contains 0 ↔ '\x00' ∈ s.toList := by
  rw [← Text.Utf8.zero_mem_encode_iff]
  exact List.contains_iff_mem

theorem encodeText_eq_ok_iff (bs : List UInt8) :
    encodeText label s max = .ok bs ↔ TextFits max s ∧ bs = textOctets s := by
  simp only [encodeText, contains_zero_iff]
  split_ifs with hlong hnul
  · constructor
    · intro h
      cases h
    · rintro ⟨h, -⟩
      have hsize := h.size
      omega
  · constructor
    · intro h
      cases h
    · rintro ⟨h, -⟩
      exact absurd hnul h.nulFree
  · constructor
    · intro h
      exact ⟨⟨by omega, hnul⟩, (Except.ok.inj h).symm⟩
    · rintro ⟨-, rfl⟩
      rfl

theorem encodeText_eq_error_iff (e : Error) :
    encodeText label s max = .error e ↔ TextFault label max s e := by
  simp only [encodeText, contains_zero_iff]
  split_ifs with hlong hnul
  · constructor
    · intro h
      obtain rfl := Except.error.inj h
      exact .tooLong (by omega)
    · intro h
      cases h with
      | tooLong =>
          rfl
      | nul hsize =>
          omega
  · constructor
    · intro h
      obtain rfl := Except.error.inj h
      exact .nul (by omega) hnul
    · intro h
      cases h with
      | tooLong h =>
          omega
      | nul =>
          rfl
  · constructor
    · intro h
      cases h
    · intro h
      cases h with
      | tooLong h =>
          omega
      | nul _ h =>
          exact absurd h hnul

end Texts

/-! ### Destinations -/

section Destinations

variable (label : String) (d : Destination)

theorem encodeDestination_eq_ok_iff (bs : List UInt8) :
    encodeDestination label d = .ok bs ↔ TextFits maxDestinationText d.text ∧
      bs = d.octets := by
  cases d with
  | address ton npi s =>
      constructor
      · intro h
        obtain ⟨text, htext, rfl⟩ := map_eq_ok h
        obtain ⟨hfits, rfl⟩ := (encodeText_eq_ok_iff label _ s text).1 htext
        exact ⟨hfits, rfl⟩
      · rintro ⟨hfits, rfl⟩
        rw [encodeDestination, (encodeText_eq_ok_iff label _ s _).2 ⟨hfits, rfl⟩]
        rfl
  | distributionList s =>
      constructor
      · intro h
        obtain ⟨text, htext, rfl⟩ := map_eq_ok h
        obtain ⟨hfits, rfl⟩ := (encodeText_eq_ok_iff _ _ s text).1 htext
        exact ⟨hfits, rfl⟩
      · rintro ⟨hfits, rfl⟩
        rw [encodeDestination, (encodeText_eq_ok_iff _ _ s _).2 ⟨hfits, rfl⟩]
        rfl

theorem encodeDestination_eq_error_iff (e : Error) :
    encodeDestination label d = .error e ↔
      TextFault (d.faultKey label) maxDestinationText d.text e := by
  cases d with
  | address ton npi s =>
      rw [encodeDestination, map_eq_error_iff]
      exact encodeText_eq_error_iff label _ s e
  | distributionList s =>
      rw [encodeDestination, map_eq_error_iff]
      exact encodeText_eq_error_iff _ _ s e

end Destinations

/-! ### Mandatory fields -/

/-- A mandatory field of the kind can be written with the value. -/
inductive FieldFits : FieldKind → FieldValue → Prop
  | text {max : Nat} {s : String} (h : TextFits max s) :
      FieldFits (.text max) (.text s)
  | integer (default n : UInt8) :
      FieldFits (.integer default) (.u8 n)
  | shortMessage {bs : List UInt8} (h : bs.length ≤ maxShortMessage) :
      FieldFits .shortMessage (.octets bs)
  | destinations {ds : List Destination} (hcount : ds.length ≤ maxDestinations)
      (htexts : ∀ d ∈ ds, TextFits maxDestinationText d.text) :
      FieldFits .destinations (.destinations ds)

/-- Why a mandatory field cannot be written with a value.  Of several destinations the first
one that cannot be written counts. -/
inductive FieldFault (label : String) : FieldKind → FieldValue → Error → Prop
  | text {max : Nat} {s : String} {e : Error} (h : TextFault label max s e) :
      FieldFault label (.text max) (.text s) e
  | shortMessage {bs : List UInt8} (h : maxShortMessage < bs.length) :
      FieldFault label .shortMessage (.octets bs)
        (.fieldTooLong label bs.length maxShortMessage)
  | destinations {ds : List Destination} (h : maxDestinations < ds.length) :
      FieldFault label .destinations (.destinations ds)
        (.fieldTooLong label ds.length maxDestinations)
  | destination {ds front back : List Destination} {d : Destination} {e : Error}
      (hcount : ds.length ≤ maxDestinations) (hsplit : ds = front ++ d :: back)
      (hfront : ∀ d' ∈ front, TextFits maxDestinationText d'.text)
      (h : TextFault (d.faultKey label) maxDestinationText d.text e) :
      FieldFault label .destinations (.destinations ds) e
  | unsuccessful (fs : List FailedDestination) :
      FieldFault label .unsuccessful (.unsuccessful fs) (.unsupported .unsuccessfulList)

section Fields

variable {f : FieldSpec} {v : FieldValue}

theorem encodeMandatory_eq_ok_iff
    (hform : v.fits f.kind)
    (bs : List UInt8) :
    encodeMandatory f v = .ok bs ↔ FieldFits f.kind v ∧ bs = v.fieldOctets := by
  unfold encodeMandatory
  generalize f.kind = kind at hform ⊢
  match kind, v, hform with
  | .text max, .text s, _ =>
      refine (encodeText_eq_ok_iff f.label max s bs).trans (and_congr_left fun _ => ?_)
      exact ⟨.text, fun h => by cases h; assumption⟩
  | .integer default, .u8 n, _ =>
      constructor
      · intro h
        exact ⟨.integer default n, (Except.ok.inj h).symm⟩
      · rintro ⟨-, rfl⟩
        rfl
  | .shortMessage, .octets octets, _ =>
      dsimp only
      split_ifs with hlong
      · constructor
        · intro h
          cases h
        · rintro ⟨⟨h⟩, -⟩
          omega
      · constructor
        · intro h
          exact ⟨.shortMessage (by omega), (Except.ok.inj h).symm⟩
        · rintro ⟨-, rfl⟩
          rfl
  | .destinations, .destinations ds, _ =>
      dsimp only
      split_ifs with hlong
      · constructor
        · intro h
          cases h
        · rintro ⟨⟨hcount, -⟩, -⟩
          omega
      · have hall := mapM_eq_ok_iff fun d (_ : d ∈ ds) bs =>
          encodeDestination_eq_ok_iff f.label d bs
        constructor
        · intro h
          obtain ⟨parts, hparts, rfl⟩ := map_eq_ok h
          obtain ⟨htexts, rfl⟩ := (hall parts).1 hparts
          exact ⟨.destinations (by omega) htexts, rfl⟩
        · rintro ⟨h, rfl⟩
          cases h with
          | destinations _ htexts =>
              rw [(hall _).2 ⟨htexts, rfl⟩]
              rfl
  | .unsuccessful, .unsuccessful fs, _ =>
      constructor
      · intro h
        cases h
      · rintro ⟨h, -⟩
        cases h

theorem encodeMandatory_eq_error_iff
    (hform : v.fits f.kind)
    (e : Error) :
    encodeMandatory f v = .error e ↔ FieldFault f.label f.kind v e := by
  unfold encodeMandatory
  generalize f.kind = kind at hform ⊢
  match kind, v, hform with
  | .text max, .text s, _ =>
      refine (encodeText_eq_error_iff f.label max s e).trans ?_
      exact ⟨.text, fun h => by cases h; assumption⟩
  | .integer default, .u8 n, _ =>
      constructor
      · intro h
        cases h
      · intro h
        cases h
  | .shortMessage, .octets octets, _ =>
      dsimp only
      split_ifs with hlong
      · constructor
        · intro h
          obtain rfl := Except.error.inj h
          exact .shortMessage hlong
        · intro h
          cases h
          rfl
      · constructor
        · intro h
          cases h
        · intro h
          cases h
          contradiction
  | .destinations, .destinations ds, _ =>
      dsimp only
      split_ifs with hlong
      · constructor
        · intro h
          obtain rfl := Except.error.inj h
          exact .destinations hlong
        · intro h
          cases h with
          | destinations =>
              rfl
          | destination hcount =>
              omega
      · rw [map_eq_error_iff, mapM_eq_error_iff]
        constructor
        · rintro ⟨front, d, back, rfl, hfront, hd⟩
          refine .destination (by omega) rfl (fun d' hd' => ?_)
            ((encodeDestination_eq_error_iff f.label d e).1 hd)
          obtain ⟨bs, hbs⟩ := hfront d' hd'
          exact ((encodeDestination_eq_ok_iff f.label d' bs).1 hbs).1
        · intro h
          cases h with
          | destinations h =>
              contradiction
          | destination _ hsplit hfront h =>
              refine ⟨_, _, _, hsplit, fun d' hd' => ⟨d'.octets, ?_⟩,
                (encodeDestination_eq_error_iff f.label _ e).2 h⟩
              exact (encodeDestination_eq_ok_iff f.label d' _).2 ⟨hfront d' hd', rfl⟩
  | .unsuccessful, .unsuccessful fs, _ =>
      constructor
      · intro h
        obtain rfl := Except.error.inj h
        exact .unsuccessful fs
      · intro h
        cases h
        rfl

end Fields

/-! ### Optional and raw fields -/

/-- A value behind its tag and its length. -/
def taggedOctets (tag : UInt16) (value : List UInt8) : List UInt8 :=
  octets16 tag ++ octets16 (UInt16.ofNat value.length) ++ value

/-- Why an optional field cannot be written with a value. -/
inductive TlvFault (t : TlvSpec) (v : FieldValue) : Error → Prop
  | notImplemented (h : t.implemented = false) :
      TlvFault t v (.unsupported (.optionalField t.label))
  | tooLong (himpl : t.implemented) (h : maxTlvValue < v.tlvOctets.length) :
      TlvFault t v (.fieldTooLong t.label v.tlvOctets.length maxTlvValue)

section Tlvs

variable {t : TlvSpec} {v : FieldValue}

/-- Whatever its kind, a value is written behind its length. -/
theorem encodeTlvValue_eq
    (hform : v.fitsTlv t.kind) :
    encodeTlvValue t v =
      (encodeTlvLength t.label v.tlvOctets.length).map fun len => len ++ v.tlvOctets := by
  unfold encodeTlvValue
  generalize t.kind = kind at hform ⊢
  match kind, v, hform with
  | .u8, .u8 n, _ | .u16, .u16 n, _ | .u32, .u32 n, _ | .flag, .flag, _
  | .networkError, .networkError n c, _ =>
      rfl
  | .text, .text s, _ =>
      simp only [FieldValue.tlvOctets, textOctets, List.length_append, List.length_singleton,
        List.append_assoc]
  | .octets, .octets bs, _ =>
      rfl

theorem encodeTlvLength_eq_ok_iff (label : String) (size : Nat) (bs : List UInt8) :
    encodeTlvLength label size = .ok bs ↔
      size ≤ maxTlvValue ∧ bs = octets16 (UInt16.ofNat size) := by
  constructor
  · exact encodeTlvLength_eq_ok
  · rintro ⟨hsize, rfl⟩
    exact if_neg (by omega)

theorem encodeTlvLength_eq_error_iff (label : String) (size : Nat) (e : Error) :
    encodeTlvLength label size = .error e ↔
      maxTlvValue < size ∧ e = .fieldTooLong label size maxTlvValue := by
  constructor
  · exact encodeTlvLength_fault
  · rintro ⟨hsize, rfl⟩
    exact if_pos hsize

theorem encodeOptional_eq_ok_iff
    (hform : v.fitsTlv t.kind)
    (bs : List UInt8) :
    encodeOptional t v = .ok bs ↔
      (t.implemented ∧ v.tlvOctets.length ≤ maxTlvValue) ∧
        bs = taggedOctets t.tag v.tlvOctets := by
  rw [encodeOptional, encodeTlvValue_eq hform]
  split_ifs with himpl
  · constructor
    · intro h
      obtain ⟨value, hvalue, rfl⟩ := map_eq_ok h
      obtain ⟨len, hlen, rfl⟩ := map_eq_ok hvalue
      obtain ⟨hsize, rfl⟩ := (encodeTlvLength_eq_ok_iff _ _ len).1 hlen
      exact ⟨⟨himpl, hsize⟩, (List.append_assoc _ _ _).symm⟩
    · rintro ⟨⟨-, hsize⟩, rfl⟩
      rw [(encodeTlvLength_eq_ok_iff _ _ _).2 ⟨hsize, rfl⟩, taggedOctets, List.append_assoc]
      rfl
  · constructor
    · intro h
      cases h
    · rintro ⟨⟨h, -⟩, -⟩
      exact absurd h himpl

theorem encodeOptional_eq_error_iff
    (hform : v.fitsTlv t.kind)
    (e : Error) :
    encodeOptional t v = .error e ↔ TlvFault t v e := by
  rw [encodeOptional, encodeTlvValue_eq hform]
  split_ifs with himpl
  · rw [map_eq_error_iff, map_eq_error_iff, encodeTlvLength_eq_error_iff]
    constructor
    · rintro ⟨hsize, rfl⟩
      exact .tooLong himpl hsize
    · intro h
      cases h with
      | notImplemented h =>
          rw [h] at himpl
          cases himpl
      | tooLong _ hsize =>
          exact ⟨hsize, rfl⟩
  · constructor
    · intro h
      obtain rfl := Except.error.inj h
      exact .notImplemented (Bool.eq_false_iff.2 himpl)
    · intro h
      cases h with
      | notImplemented =>
          rfl
      | tooLong h =>
          exact absurd h himpl

end Tlvs

theorem encodeUnknown_eq_ok_iff (t : RawTlv) (bs : List UInt8) :
    encodeUnknown t = .ok bs ↔
      t.value.length ≤ maxTlvValue ∧ bs = taggedOctets t.tag t.value := by
  constructor
  · intro h
    obtain ⟨len, hlen, rfl⟩ := map_eq_ok h
    obtain ⟨hsize, rfl⟩ := encodeTlvLength_eq_ok hlen
    exact ⟨hsize, rfl⟩
  · rintro ⟨hsize, rfl⟩
    rw [encodeUnknown, (encodeTlvLength_eq_ok_iff _ _ _).2 ⟨hsize, rfl⟩]
    rfl

theorem encodeUnknown_eq_error_iff (t : RawTlv) (e : Error) :
    encodeUnknown t = .error e ↔
      maxTlvValue < t.value.length ∧ e = .fieldTooLong "Tlv" t.value.length maxTlvValue := by
  rw [encodeUnknown, map_eq_error_iff]
  exact encodeTlvLength_eq_error_iff _ _ _

/-! ### Fields of any kind -/

/-- A field of a message as it is written. -/
inductive WireField where
  | mandatory (f : FieldSpec) (v : FieldValue)
  | optional (t : TlvSpec) (v : FieldValue)
  | raw (t : RawTlv)

namespace WireField

/-- The octets of a field. -/
def octets : WireField → List UInt8
  | mandatory _ v => v.fieldOctets
  | optional t v => taggedOctets t.tag v.tlvOctets
  | raw t => taggedOctets t.tag t.value

/-- The value has the form that the field needs. -/
def HasForm : WireField → Prop
  | mandatory f v => v.fits f.kind
  | optional t v => v.fitsTlv t.kind
  | raw _ => True

/-- The field can be written. -/
def Fits : WireField → Prop
  | mandatory f v => FieldFits f.kind v
  | optional t v => t.implemented ∧ v.tlvOctets.length ≤ maxTlvValue
  | raw t => t.value.length ≤ maxTlvValue

/-- Why the field cannot be written. -/
def Fault : WireField → Error → Prop
  | mandatory f v, e => FieldFault f.label f.kind v e
  | optional t v, e => TlvFault t v e
  | raw t, e => maxTlvValue < t.value.length ∧
      e = .fieldTooLong "Tlv" t.value.length maxTlvValue

/-- Encodes a field on its own. -/
def encode : WireField → Except Error (List UInt8)
  | mandatory f v => encodeMandatory f v
  | optional t v => encodeOptional t v
  | raw t => encodeUnknown t

theorem encode_eq_ok_iff
    {x : WireField}
    (hform : x.HasForm)
    (bs : List UInt8) :
    x.encode = .ok bs ↔ x.Fits ∧ bs = x.octets := by
  cases x with
  | mandatory f v =>
      exact encodeMandatory_eq_ok_iff hform bs
  | optional t v =>
      exact encodeOptional_eq_ok_iff hform bs
  | raw t =>
      exact encodeUnknown_eq_ok_iff t bs

theorem encode_eq_error_iff
    {x : WireField}
    (hform : x.HasForm)
    (e : Error) :
    x.encode = .error e ↔ x.Fault e := by
  cases x with
  | mandatory f v =>
      exact encodeMandatory_eq_error_iff hform e
  | optional t v =>
      exact encodeOptional_eq_error_iff hform e
  | raw t =>
      exact encodeUnknown_eq_error_iff t e

end WireField

end Pdu
end SmppReplay
