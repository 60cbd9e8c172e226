import SmppReplay.Proofs.Pdu.Unwritable

/-!
# Writing again what was read

**Question.** Decoding is lenient: optional fields may come in any order, several times,
with octets that fit no field or under tags that are not implemented; texts may be no UTF-8,
and texts of optional fields may have no zero or many; a response may have no body.  What
becomes of all this when the message is written and read again?

**Answer.** Nothing of it is left in the message (`FromWire`): its texts have no NUL, its
optional fields are implemented ones, and its raw fields are none that the reader knows.  On
such messages decoding undoes encoding, so that the second frame is read as the first one
was, and from then on the frames are the same.

A message that was read may have no wire form, since the reader has no limits of length.
Then a part of it is too long, or its type is one that the library does not write
(`reread`).
-/

namespace SmppReplay
namespace Pdu

/-- What decoding leaves of a frame: texts without a NUL, optional fields that are
implemented, and raw fields that are no fields of the type. -/
structure FromWire (m : Message) : Prop where
  wellFormed : m.WellFormed
  mandatory : ∀ id v, m.mandatory.get? id = some v → ∀ s ∈ v.texts, '\x00' ∉ s.toList
  optional : ∀ id v, m.optional.get? id = some v →
    (∃ spec ∈ m.layout.optional, spec.id = id ∧ spec.implemented) ∧
      ∀ s ∈ v.texts, '\x00' ∉ s.toList
  raw : ∀ t ∈ m.unknown, recognise? m.layout t = none

/-! ### What octets write has no NUL -/

theorem WritesText.nul_notMem
    {bs : List UInt8} {s : String}
    (h : WritesText bs s) :
    '\x00' ∉ s.toList := by
  obtain ⟨hfree⟩ := h
  exact Text.Utf8.nul_notMem_decodeLossy hfree

theorem WritesAll.forall_mem
    {α : Type} {W : List UInt8 → α → Prop} {P : α → Prop} {bs : List UInt8} {as : List α}
    (hP : ∀ bs a, W bs a → P a)
    (h : WritesAll W bs as) :
    ∀ a ∈ as, P a := by
  induction h with
  | nil =>
      simp
  | cons ha hrest ih =>
      exact List.forall_mem_cons.2 ⟨hP _ _ ha, ih⟩

theorem WritesDestination.nul_notMem
    {bs : List UInt8} {d : Destination}
    (h : WritesDestination bs d) :
    '\x00' ∉ d.text.toList := by
  cases h with
  | address ton npi h =>
      exact h.nul_notMem
  | distributionList h =>
      exact h.nul_notMem

theorem WritesFailedDestination.nul_notMem
    {bs : List UInt8} {d : FailedDestination}
    (h : WritesFailedDestination bs d) :
    '\x00' ∉ d.address.toList := by
  cases h with
  | failed ton npi h =>
      exact h.nul_notMem

theorem WritesField.nul_notMem
    {kind : FieldKind} {bs : List UInt8} {v : FieldValue}
    (h : WritesField kind bs v) :
    ∀ s ∈ v.texts, '\x00' ∉ s.toList := by
  cases h with
  | text h =>
      exact List.forall_mem_singleton.2 h.nul_notMem
  | destinations h hn =>
      exact List.forall_mem_map.2 (h.forall_mem fun _ _ => WritesDestination.nul_notMem)
  | unsuccessful h hn =>
      exact List.forall_mem_map.2 (h.forall_mem fun _ _ => WritesFailedDestination.nul_notMem)
  | integer | shortMessage =>
      exact List.forall_mem_nil _

theorem WritesFields.nul_notMem
    {fs : List FieldSpec} {bs : List UInt8} {vs : List (FieldId × FieldValue)}
    (h : WritesFields fs bs vs) :
    ∀ e ∈ vs, ∀ s ∈ e.2.texts, '\x00' ∉ s.toList := by
  induction h with
  | nil =>
      simp
  | cons hv hrest ih =>
      exact List.forall_mem_cons.2 ⟨hv.nul_notMem, ih⟩

/-- The text of an optional field ends where its octets have a zero, or else with them. -/
theorem WritesValue.nul_notMem
    {kind : TlvKind} {bs : List UInt8} {v : FieldValue}
    (h : WritesValue kind bs v) :
    ∀ s ∈ v.texts, '\x00' ∉ s.toList := by
  cases h with
  | text h =>
      have hfree : 0 ∉ bs.takeWhile (· != 0) := by
        intro hmem
        simpa using List.mem_takeWhile_imp hmem
      exact List.forall_mem_singleton.2 (Text.Utf8.nul_notMem_decodeLossy hfree)
  | _ =>
      exact List.forall_mem_nil _

/-! ### What decoding leaves -/

theorem nul_notMem_default (kind : FieldKind) :
    ∀ s ∈ (FieldValue.default kind).texts, '\x00' ∉ s.toList := by
  cases kind with
  | text max =>
      exact List.forall_mem_singleton.2 (by decide)
  | _ =>
      exact List.forall_mem_nil _

namespace FromWire

variable {m m' : Message}

theorem opening (type : MessageType) (header : Header) :
    FromWire (opening type header) where
  wellFormed := ((Message.wellFormed_new type).withSequence _).withStatus _
  mandatory := by
    intro id v h
    have hnew : (Message.new type).mandatory.get? id = some v := h
    rw [Message.get?_mandatory_new, Option.map_eq_some_iff] at hnew
    obtain ⟨f, -, rfl⟩ := hnew
    exact nul_notMem_default f.kind
  optional := by
    intro id v h
    cases h
  raw := List.forall_mem_nil _

theorem setMandatory
    {id : FieldId} {v : FieldValue}
    (h : FromWire m)
    (hv : ∀ s ∈ v.texts, '\x00' ∉ s.toList)
    (hset : m.setMandatory id v = .ok m') :
    FromWire m' := by
  have hm' := h.wellFormed.setMandatory hset
  obtain ⟨-, -, -, rfl⟩ := (Message.setMandatory_eq_ok_iff m m' id v).1 hset
  refine ⟨hm', ?_, h.optional, h.raw⟩
  intro k w hk
  rw [FieldMap.get?_insert] at hk
  split_ifs at hk
  · exact Option.some.inj hk ▸ hv
  · exact h.mandatory k w hk

/-- One more optional field is a field of the type with a value, or is kept raw as none. -/
theorem addTlv
    {t : RawTlv}
    (h : FromWire m)
    (hadd : addTlv m t = .ok m') :
    FromWire m' := by
  obtain rfl := Except.ok.inj ((addTlv_eq_ok m t).symm.trans hadd)
  unfold withTlv
  cases hrec : recognise? m.layout t with
  | none =>
      refine ⟨h.wellFormed.pushUnknown _ _, h.mandatory, h.optional, ?_⟩
      intro t' ht'
      rcases List.mem_append.1 ht' with ht' | ht'
      · exact h.raw t' ht'
      · obtain rfl := List.mem_singleton.1 ht'
        exact hrec
  | some p =>
      obtain ⟨spec, v⟩ := p
      obtain ⟨⟨hspec, -⟩, himpl, hvalue⟩ := recognise?_eq_some hrec
      have hfield := (m.type.optionalField?_eq_some_iff spec.id spec).2 ⟨hspec, rfl⟩
      have hset := (m.setOptional_eq_ok_iff _ _ _).2 ⟨spec, hfield, hvalue.fitsTlv, rfl⟩
      refine ⟨h.wellFormed.setOptional hset, h.mandatory, ?_, h.raw⟩
      intro k w hk
      rw [FieldMap.get?_insert] at hk
      split_ifs at hk with hid
      · exact ⟨⟨spec, hspec, hid.symm, himpl⟩, Option.some.inj hk ▸ hvalue.nul_notMem⟩
      · exact h.optional k w hk

theorem readBody
    {body : List UInt8}
    (h : FromWire m)
    (hread : readBody m body = .ok m') :
    FromWire m' := by
  obtain ⟨⟨vs, rest⟩, hfields, hread⟩ := bind_eq_ok hread
  obtain ⟨m₁, hset, hread⟩ := bind_eq_ok hread
  obtain ⟨ts, -, hadd⟩ := bind_eq_ok hread
  obtain ⟨used, -, hused⟩ := ((reads_fields _).ok_iff _ _ _).1 hfields
  have h₁ : FromWire m₁ :=
    foldlM_preserves (fun e he _ _ hset hm =>
      hm.setMandatory (hused.nul_notMem e he) hset) hset h
  exact foldlM_preserves (fun _ _ _ _ hadd hm => hm.addTlv hadd) hadd h₁

end FromWire

/-- **What every frame that is accepted leaves.** -/
theorem fromWire_of_decode
    {frame : List UInt8} {m : Message}
    (h : decode frame = .ok m) :
    FromWire m := by
  have hdecodes := decodes_decode frame
  rw [h] at hdecodes
  generalize hresult : Except.ok m = result at hdecodes
  cases hdecodes with
  | malformed | unknown =>
      cases hresult
  | @typed type header =>
      unfold readTyped at hresult
      split_ifs at hresult
      · exact Except.ok.inj hresult ▸ FromWire.opening type header
      · exact (FromWire.opening type header).readBody hresult.symm

/-! ### Writing it -/

namespace FromWire

variable {m : Message}

/-- The message is one that comes back. -/
theorem decode_encode_eq_self
    {frame : List UInt8}
    (h : FromWire m)
    (hencode : encode m = .ok frame)
    (hlen : frame.length < UInt32.size) :
    decode frame = .ok m := by
  refine (decode_encode_eq_self_iff h.wellFormed hencode hlen).2 ⟨?_, ?_⟩
  · rw [mapValues_cut_eq_self_iff h.wellFormed]
    intro spec _ _ s hget
    exact (h.optional spec.id _ hget).2 s (List.mem_singleton_self s)
  · intro t ht hfield
    rw [← recognise?_isSome_iff, h.raw t ht] at hfield
    cases hfield

end FromWire

/-- The types that are not written. -/
theorem type_of_unsupported
    {t : MessageType} {reason : String}
    (h : t.layout.unsupported = some reason) :
    t = .submitMultiResp ∨ t = .alertNotification := by
  cases t with
  | submitMultiResp =>
      exact .inl rfl
  | alertNotification =>
      exact .inr rfl
  | _ =>
      cases h

/-- Lists of failed destinations are fields of a type that is not written. -/
theorem unsupported_of_unsuccessful
    {t : MessageType} {f : FieldSpec}
    (hf : f ∈ t.layout.mandatory)
    (hkind : f.kind = .unsuccessful) :
    t.layout.unsupported ≠ none := by
  have hall : ∀ t : MessageType, (∃ f ∈ t.layout.mandatory, f.kind = .unsuccessful) →
      t.layout.unsupported ≠ none := by
    intro t
    cases t <;> decide
  exact hall t ⟨f, hf, hkind⟩

theorem kind_of_fits_unsuccessful
    {kind : FieldKind} {fs : List FailedDestination}
    (h : (FieldValue.unsuccessful fs).fits kind) :
    kind = .unsuccessful := by
  cases kind with
  | unsuccessful =>
      rfl
  | _ =>
      cases h

/-- A message that was read is not written because of its type, or because a part of it is
too long. -/
theorem FromWire.encode_fault
    {m : Message} {e : Error}
    (h : FromWire m)
    (hencode : encode m = .error e) :
    (∃ reason, m.layout.unsupported = some reason ∧ e = .unsupported (.messageType reason)) ∨
      UnwritableBody m e ∧ ∃ label size max, e = .fieldTooLong label size max := by
  cases Pdu.encode_fault h.wellFormed hencode with
  | type hreason =>
      exact .inl ⟨_, hreason, rfl⟩
  | body hsupported hbody =>
      refine .inr ⟨hbody, ?_⟩
      cases hbody with
      | @mandatory f v e hf hv hunfit =>
          cases hunfit with
          | text | shortMessage | destinations | destination =>
              exact ⟨_, _, _, rfl⟩
          | nul label hs hnul =>
              exact absurd hnul (h.mandatory f.id v hv _ hs)
          | unsuccessful fs =>
              obtain ⟨w, hw, hfits⟩ := exists_fits_of_mem h.wellFormed hf
              obtain rfl := Option.some.inj (hv.symm.trans hw)
              exact absurd hsupported
                (unsupported_of_unsuccessful hf (kind_of_fits_unsuccessful hfits))
      | @optional spec v e hspec hv hunfit =>
          cases hunfit with
          | notImplemented himpl =>
              obtain ⟨⟨spec', hspec', hid, himpl'⟩, -⟩ := h.optional spec.id v hv
              obtain rfl := List.inj_on_of_nodup_map m.type.nodup_optional hspec' hspec hid
              rw [himpl] at himpl'
              cases himpl'
          | text | octets =>
              exact ⟨_, _, _, rfl⟩
      | raw =>
          exact ⟨_, _, _, rfl⟩

/-- **Writing again what was read.** The frame that is written is read as the same message,
and so it is written as the same frame from then on; a message that cannot be written is of
a type that is not, or has a part that is too long. -/
theorem reread
    (frame : List UInt8) (m : Message)
    (h : decode frame = .ok m) :
    (∀ frame', encode m = .ok frame' → frame'.length < UInt32.size →
      decode frame' = .ok m ∧ (decode frame' >>= encode) = .ok frame') ∧
    ∀ e, encode m = .error e →
      ((m.type = .submitMultiResp ∨ m.type = .alertNotification) ∧
          ∃ reason, m.layout.unsupported = some reason ∧
            e = .unsupported (.messageType reason)) ∨
        UnwritableBody m e ∧ ∃ label size max, e = .fieldTooLong label size max := by
  have hm := fromWire_of_decode h
  constructor
  · intro frame' hencode hlen
    have hback := hm.decode_encode_eq_self hencode hlen
    refine ⟨hback, ?_⟩
    rw [hback]
    exact hencode
  · intro e hencode
    rcases hm.encode_fault hencode with ⟨reason, hreason, he⟩ | hlong
    · exact .inl ⟨type_of_unsupported hreason, reason, hreason, he⟩
    · exact .inr hlong

/-- A response with a text that is no UTF-8, and behind it a text without a zero, an octet
field with two octets, the text again with two zeros, and a field out of its place. -/
def lenientFrame : List UInt8 :=
  [0, 0, 0, 43, 128, 0, 1, 3, 0, 0, 0, 0, 0, 0, 0, 7, 255, 0, 0, 29, 0, 2, 111, 107, 4,
    32, 0, 2, 1, 2, 0, 29, 0, 4, 97, 0, 98, 0, 4, 37, 0, 1, 3]

/-- An invitation with a password of nine characters, one too many. -/
def longPasswordFrame : List UInt8 :=
  [0, 0, 0, 27, 0, 0, 0, 11, 0, 0, 0, 0, 0, 0, 0, 7, 0, 49, 50, 51, 52, 53, 54, 55, 56, 57, 0]

/-- The first frame is written in its regular form, which is read as the same message; the
message of the second one is too long to be written. -/
theorem reread_lenient :
    decode [0, 0, 0, 37, 128, 0, 1, 3, 0, 0, 0, 0, 0, 0, 0, 7, 239, 191, 189, 0,
        4, 37, 0, 1, 3, 0, 29, 0, 2, 97, 0, 4, 32, 0, 2, 1, 2] = decode lenientFrame ∧
    UnwritableBody (Message.build .outbind [.sequence 7,
      .setMandatory .password (.text "123456789")])
      (.fieldTooLong "Password" 9 8) := by
  have hlenient : decode lenientFrame = .ok (Message.build .dataSmResp
      [.sequence 7, .setMandatory .messageId (.text "\uFFFD"),
        .setOptional .additionalStatusInfoText (.text "a"),
        .setOptional .deliveryFailureReason (.u8 3), .pushUnknown 0x0420 [1, 2]]) := by
    decide +kernel
  have hlong : decode longPasswordFrame = .ok (Message.build .outbind
      [.sequence 7, .setMandatory .password (.text "123456789")]) := by
    decide +kernel
  constructor
  · rw [hlenient]
    exact ((reread _ _ hlenient).1 _ (by decide +kernel) (by decide)).1
  · rcases (reread _ _ hlong).2 (.fieldTooLong "Password" 9 8) (by decide +kernel) with
      ⟨-, reason, -, he⟩ | ⟨hbody, -⟩
    · cases he
    · exact hbody

end Pdu
end SmppReplay
