import SmppReplay.Proofs.Pdu.Grammar
import SmppReplay.Proofs.Pdu.WellFormed

/-!
# Frames

**Question.**  Which octets does `decode` accept, and what does it say of the others?

**Parts.** A header is four big-endian words.  A body is the mandatory fields of a layout
and behind them optional fields up to the end.  What a body has read cannot fail any more
when it goes into the message: mandatory fields come out of the layout with a value that
fits, and an optional field that does not fit is kept as raw octets (`addTlv_eq_ok`).

Main facts:
* `readBody_eq_ok_iff`: the bodies of a type, and what a message takes over of one;
* `decode_accepts_exactly_frames`: the frames, and the fault of everything else.
-/

namespace SmppReplay

namespace MessageType

theorem mem_all (t : MessageType) :
    t ∈ all := by
  cases t <;> decide

theorem nodup_ids :
    (all.map MessageType.id).Nodup := by
  decide

/-- A command number names the type that has it. -/
theorem ofId?_eq_some_iff (n : UInt32) (t : MessageType) :
    ofId? n = some t ↔ t.id = n := by
  rw [ofId?, find?_key_eq_some_iff MessageType.id nodup_ids]
  exact and_iff_right t.mem_all

theorem ofId?_eq_none_iff (n : UInt32) :
    ofId? n = none ↔ ∀ t : MessageType, t.id ≠ n := by
  constructor
  · intro h t ht
    rw [(ofId?_eq_some_iff n t).2 ht] at h
    cases h
  · intro h
    cases hn : ofId? n with
    | none =>
        rfl
    | some t =>
        exact absurd ((ofId?_eq_some_iff n t).1 hn) (h t)

end MessageType

namespace Pdu

/-! ### Headers -/

/-- The number in the four octets from the given place on. -/
def wordAt (bs : List UInt8) (i : Nat) : Nat :=
  bigEndian ((bs.drop i).take 4)

/-- The header of a frame is its first four words, and the body is the rest. -/
theorem Header.split_eq_ok
    {frame : List UInt8}
    (h : headerSize ≤ frame.length) :
    ∃ header, Header.split frame = .ok (header, frame.drop headerSize) ∧
      header.length.toNat = wordAt frame 0 ∧ header.commandId.toNat = wordAt frame 4 ∧
      header.status.toNat = wordAt frame 8 ∧ header.sequence.toNat = wordAt frame 12 := by
  match frame, h with
  | a₀ :: a₁ :: a₂ :: a₃ :: b₀ :: b₁ :: b₂ :: b₃ :: c₀ :: c₁ :: c₂ :: c₃ ::
      d₀ :: d₁ :: d₂ :: d₃ :: body, _ =>
      exact ⟨_, rfl, toNat_word32 _ _ _ _, toNat_word32 _ _ _ _, toNat_word32 _ _ _ _,
        toNat_word32 _ _ _ _⟩

theorem Header.split_eq_error
    {frame : List UInt8}
    (h : frame.length < headerSize) :
    Header.split frame = .error (.malformed (.shortFrame frame.length)) := by
  unfold Header.split
  split
  · simp only [List.length_cons, headerSize] at h
    omega
  · rfl

/-! ### What a message takes over -/

/-- The field of a layout that raw octets are, with its value. -/
def recognise? (l : Layout) (t : RawTlv) : Option (TlvSpec × FieldValue) :=
  (l.byTag? t.tag).bind fun spec => (tlvValue? spec t.value).map fun v => (spec, v)

/-- The message with one more optional field. -/
def withTlv (m : Message) (t : RawTlv) : Message :=
  match recognise? m.layout t with
  | some (spec, v) => { m with optional := m.optional.insert spec.id v }
  | none => m.pushUnknown t.tag t.value

/-- The message with the values of a body. -/
def withBody (m : Message) (vs : List (FieldId × FieldValue)) (ts : List RawTlv) : Message :=
  ts.foldl withTlv { m with mandatory := m.mandatory.insertAll vs }

theorem WritesValue.fitsTlv
    {kind : TlvKind} {bs : List UInt8} {v : FieldValue}
    (h : WritesValue kind bs v) :
    v.fitsTlv kind := by
  cases h <;> rfl

theorem recognise?_eq_some
    {t : MessageType} {raw : RawTlv} {spec : TlvSpec} {v : FieldValue}
    (h : recognise? t.layout raw = some (spec, v)) :
    (spec ∈ t.layout.optional ∧ spec.tag = raw.tag) ∧
      spec.implemented ∧ WritesValue spec.kind raw.value v := by
  obtain ⟨spec', htag, h⟩ := Option.bind_eq_some_iff.1 h
  obtain ⟨v', hv, h⟩ := Option.map_eq_some_iff.1 h
  obtain ⟨rfl, rfl⟩ := Prod.mk.inj h
  exact ⟨(t.byTag?_eq_some_iff _ _).1 htag, (tlvValue?_eq_some_iff _ _ _).1 hv⟩

/-- An optional field is always taken over. -/
theorem addTlv_eq_ok (m : Message) (t : RawTlv) :
    addTlv m t = .ok (withTlv m t) := by
  change (match recognise? m.layout t with
    | some (spec, v) => m.setOptional spec.id v
    | none => .ok (m.pushUnknown t.tag t.value)) = _
  unfold withTlv
  cases h : recognise? m.layout t with
  | none =>
      rfl
  | some p =>
      obtain ⟨spec, v⟩ := p
      obtain ⟨⟨hspec, -⟩, -, hv⟩ := recognise?_eq_some h
      have hfield := (m.type.optionalField?_eq_some_iff spec.id spec).2 ⟨hspec, rfl⟩
      exact (m.setOptional_eq_ok_iff _ _ _).2 ⟨spec, hfield, hv.fitsTlv, rfl⟩

theorem foldlM_addTlv (m : Message) (ts : List RawTlv) :
    ts.foldlM addTlv m = .ok (ts.foldl withTlv m) := by
  induction ts generalizing m with
  | nil =>
      rfl
  | cons t ts ih =>
      rw [List.foldlM_cons, addTlv_eq_ok, List.foldl_cons]
      exact ih (withTlv m t)

theorem WritesField.fits
    {kind : FieldKind} {bs : List UInt8} {v : FieldValue}
    (h : WritesField kind bs v) :
    v.fits kind := by
  cases h <;> rfl

theorem WritesFields.mem
    {fs : List FieldSpec} {bs : List UInt8} {vs : List (FieldId × FieldValue)}
    (h : WritesFields fs bs vs) :
    ∀ e ∈ vs, ∃ f ∈ fs, f.id = e.1 ∧ e.2.fits f.kind := by
  induction h with
  | nil =>
      simp
  | @cons f fs bs rest v vs hv hrest ih =>
      intro e he
      rcases List.mem_cons.1 he with rfl | he
      · exact ⟨f, by simp, rfl, hv.fits⟩
      · obtain ⟨g, hg, hge⟩ := ih e he
        exact ⟨g, List.mem_cons_of_mem f hg, hge⟩

/-- Values for mandatory fields of the type are always taken over. -/
theorem foldlM_setMandatory
    (m : Message) {vs : List (FieldId × FieldValue)}
    (h : ∀ e ∈ vs, ∃ f ∈ m.layout.mandatory, f.id = e.1 ∧ e.2.fits f.kind) :
    vs.foldlM (fun m e => m.setMandatory e.1 e.2) m =
      .ok { m with mandatory := m.mandatory.insertAll vs } := by
  induction vs generalizing m with
  | nil =>
      rfl
  | cons e vs ih =>
      obtain ⟨f, hf, hid, hfits⟩ := h e (by simp)
      have hfield := (m.type.mandatoryField?_eq_some_iff e.1 f).2 ⟨hf, hid⟩
      have hset := (m.setMandatory_eq_ok_iff _ e.1 e.2).2 ⟨f, hfield, hfits, rfl⟩
      rw [List.foldlM_cons, hset]
      exact ih _ fun e' he' => h e' (List.mem_cons_of_mem e he')

/-! ### Bodies -/

/-- What a body has read goes into the message. -/
theorem readBody_of_readFields
    {m : Message} {body rest : List UInt8} {vs : List (FieldId × FieldValue)}
    (h : readFields m.layout.mandatory body = .ok (vs, rest)) :
    readBody m body = (splitTlvs rest).map (withBody m vs) := by
  obtain ⟨used, -, hused⟩ := ((reads_fields _).ok_iff _ _ _).1 h
  have hread : readBody m body =
      (vs.foldlM (fun m e => m.setMandatory e.1 e.2) m >>= fun m =>
        splitTlvs rest >>= fun ts => ts.foldlM addTlv m) := by
    rw [readBody, StateT.run, h]
    rfl
  rw [hread, foldlM_setMandatory m hused.mem]
  cases splitTlvs rest with
  | error e =>
      rfl
  | ok ts =>
      exact foldlM_addTlv _ ts

/-- Reading a body: the message takes over what the body writes. -/
theorem readBody_eq_ok_iff (m m' : Message) (body : List UInt8) :
    readBody m body = .ok m' ↔
      ∃ vs ts, WritesBody m.layout.mandatory body vs ts ∧ m' = withBody m vs ts := by
  constructor
  · intro h
    cases hfields : readFields m.layout.mandatory body with
    | error e =>
        rw [readBody, StateT.run, hfields] at h
        cases h
    | ok p =>
        obtain ⟨vs, rest⟩ := p
        obtain ⟨front, rfl, hfront⟩ := ((reads_fields _).ok_iff _ _ _).1 hfields
        rw [readBody_of_readFields hfields] at h
        cases htlvs : splitTlvs rest with
        | error e =>
            rw [htlvs] at h
            cases h
        | ok ts =>
            rw [htlvs] at h
            have hrest := (splitTlvs_eq_ok_iff _ _).1 htlvs
            exact ⟨vs, ts, ⟨front, rest, rfl, hfront, hrest⟩, (Except.ok.inj h).symm⟩
  · rintro ⟨vs, ts, ⟨front, rest, rfl, hfront, hrest⟩, rfl⟩
    have hfields : readFields m.layout.mandatory (front ++ rest) = .ok (vs, rest) :=
      ((reads_fields _).ok_iff _ _ _).2 ⟨front, rfl, hfront⟩
    rw [readBody_of_readFields hfields, (splitTlvs_eq_ok_iff _ _).2 hrest]
    rfl

theorem readBody_malformed
    {m : Message} {body : List UInt8} {e : Error}
    (h : readBody m body = .error e) :
    ∃ why, e = .malformed why ∧ why.OfBody := by
  cases hfields : readFields m.layout.mandatory body with
  | error e' =>
      rw [readBody, StateT.run, hfields] at h
      exact (reads_fields _).malformed _ e (hfields.trans (congrArg _ (Except.error.inj h)))
  | ok p =>
      obtain ⟨vs, rest⟩ := p
      rw [readBody_of_readFields hfields] at h
      cases htlvs : splitTlvs rest with
      | error e' =>
          rw [htlvs] at h
          exact splitTlvs_malformed (htlvs.trans (congrArg _ (Except.error.inj h)))
      | ok ts =>
          rw [htlvs] at h
          cases h

/-! ### Whole frames -/

/-- The body of a message of the type: none at all in a response, or the fields of its
layout. -/
def IsBody (type : MessageType) (body : List UInt8) : Prop :=
  (body = [] ∧ type.isResponse) ∨ ∃ vs ts, WritesBody type.layout.mandatory body vs ts

/-- A frame opens with its own length and a command number, and its body is one of that
type. -/
def IsFrame (frame : List UInt8) : Prop :=
  headerSize ≤ frame.length ∧ wordAt frame 0 = frame.length ∧
    ∃ type : MessageType, type.id.toNat = wordAt frame 4 ∧ IsBody type (frame.drop headerSize)

/-- The message of a type before its body is read. -/
def opening (type : MessageType) (header : Header) : Message :=
  ((Message.new type).withSequence header.sequence).withStatus header.status

/-- The message of a type that a body writes. -/
def readTyped (type : MessageType) (header : Header)
    (body : List UInt8) : Except Error Message :=
  if body.isEmpty && type.isResponse then .ok (opening type header)
  else readBody (opening type header) body

theorem readTyped_isOk_iff (type : MessageType) (header : Header) (body : List UInt8) :
    (∃ m, readTyped type header body = .ok m) ↔ IsBody type body := by
  unfold readTyped IsBody
  by_cases hempty : body = [] ∧ type.isResponse
  · obtain ⟨rfl, hresp⟩ := hempty
    simp [hresp]
  · have hif : (body.isEmpty && type.isResponse) = false := by
      simpa using hempty
    simp only [hif, Bool.false_eq_true, if_false, hempty, false_or]
    constructor
    · rintro ⟨m, hm⟩
      obtain ⟨vs, ts, hbody, -⟩ := (readBody_eq_ok_iff _ _ _).1 hm
      exact ⟨vs, ts, hbody⟩
    · rintro ⟨vs, ts, hbody⟩
      exact ⟨_, (readBody_eq_ok_iff _ _ _).2 ⟨vs, ts, hbody, rfl⟩⟩

theorem readTyped_malformed
    {type : MessageType} {header : Header} {body : List UInt8} {e : Error}
    (h : readTyped type header body = .error e) :
    ∃ why, e = .malformed why ∧ why.OfBody := by
  unfold readTyped at h
  split_ifs at h
  exact readBody_malformed h

/-- Decoding a frame that is as long as it says and that names a type. -/
theorem decode_of_header
    {frame : List UInt8} {header : Header} {type : MessageType}
    (hsplit : Header.split frame = .ok (header, frame.drop headerSize))
    (hlen : header.length.toNat = frame.length)
    (htype : type.id = header.commandId) :
    decode frame = readTyped type header (frame.drop headerSize) := by
  have hof := (MessageType.ofId?_eq_some_iff header.commandId type).2 htype
  unfold decode readTyped opening
  rw [hsplit]
  simp only [bind, Except.bind, hlen, ne_eq, not_true_eq_false, if_false, hof]
  rfl

/-- What decoding can come to: without a header of the frame's own length a fault, and else
what the type with the command number makes of the body, if there is one. -/
inductive Decodes (frame : List UInt8) : Except Error Message → Prop
  | malformed (why : Malformed)
      (h : ¬(headerSize ≤ frame.length ∧ wordAt frame 0 = frame.length)) :
      Decodes frame (.error (.malformed why))
  | unknown {id : UInt32}
      (hsize : headerSize ≤ frame.length) (hlen : wordAt frame 0 = frame.length)
      (hid : id.toNat = wordAt frame 4) (hnone : ∀ type : MessageType, type.id ≠ id) :
      Decodes frame (.error (.unknownCommandId id))
  | typed {type : MessageType} (header : Header)
      (hsize : headerSize ≤ frame.length) (hlen : wordAt frame 0 = frame.length)
      (hid : type.id.toNat = wordAt frame 4) :
      Decodes frame (readTyped type header (frame.drop headerSize))

theorem decodes_decode (frame : List UInt8) :
    Decodes frame (decode frame) := by
  by_cases hsize : headerSize ≤ frame.length
  · obtain ⟨header, hsplit, hlen, hid, -, -⟩ := Header.split_eq_ok hsize
    by_cases hmatch : header.length.toNat = frame.length
    · have hlen := hlen.symm.trans hmatch
      by_cases htype : ∃ type : MessageType, type.id = header.commandId
      · obtain ⟨type, htype⟩ := htype
        rw [decode_of_header hsplit hmatch htype]
        exact Decodes.typed header hsize hlen (htype ▸ hid)
      · have hnone : ∀ type : MessageType, type.id ≠ header.commandId :=
          fun type ht => htype ⟨type, ht⟩
        have hdecode : decode frame = .error (.unknownCommandId header.commandId) := by
          rw [decode, hsplit]
          simp only [bind, Except.bind, hmatch, ne_eq, not_true_eq_false, if_false,
            (MessageType.ofId?_eq_none_iff _).2 hnone]
          rfl
        rw [hdecode]
        exact Decodes.unknown hsize hlen hid hnone
    · have hdecode : decode frame =
          .error (.malformed (.lengthMismatch header.length frame.length)) := by
        rw [decode, hsplit]
        simp only [bind, Except.bind, hmatch, ne_eq, not_false_eq_true, if_true]
        rfl
      rw [hdecode]
      exact Decodes.malformed _ fun h => hmatch (hlen.trans h.2)
  · have hdecode : decode frame = .error (.malformed (.shortFrame frame.length)) := by
      rw [decode, Header.split_eq_error (Nat.lt_of_not_le hsize)]
      rfl
    rw [hdecode]
    exact Decodes.malformed _ fun h => hsize h.1

/-- One command number names one type. -/
theorem type_eq_of_toNat_id_eq
    {t u : MessageType} {n : Nat}
    (ht : t.id.toNat = n)
    (hu : u.id.toNat = n) :
    t = u := by
  have hid : t.id = u.id := UInt32.toNat_inj.1 (ht.trans hu.symm)
  have htype := (MessageType.ofId?_eq_some_iff u.id t).2 hid
  rw [(MessageType.ofId?_eq_some_iff u.id u).2 rfl] at htype
  exact (Option.some.inj htype).symm

/-- What is accepted. -/
theorem decode_isOk_iff (frame : List UInt8) :
    (∃ m, decode frame = .ok m) ↔ IsFrame frame := by
  have hdecodes := decodes_decode frame
  generalize decode frame = result at hdecodes ⊢
  unfold IsFrame
  cases hdecodes with
  | malformed why h =>
      simp only [reduceCtorEq, exists_false, false_iff]
      rintro ⟨hsize, hlen, -⟩
      exact h ⟨hsize, hlen⟩
  | unknown hsize hlen hid hnone =>
      simp only [reduceCtorEq, exists_false, false_iff]
      rintro ⟨-, -, type, htype, -⟩
      exact hnone type (UInt32.toNat_inj.1 (htype.trans hid.symm))
  | @typed type header hsize hlen hid =>
      rw [readTyped_isOk_iff]
      constructor
      · intro hbody
        exact ⟨hsize, hlen, type, hid, hbody⟩
      · rintro ⟨-, -, type', hid', hbody⟩
        rwa [type_eq_of_toNat_id_eq hid hid']

/-- What is refused for its command number. -/
theorem decode_eq_unknownCommandId_iff (frame : List UInt8) (id : UInt32) :
    decode frame = .error (.unknownCommandId id) ↔
      headerSize ≤ frame.length ∧ wordAt frame 0 = frame.length ∧ id.toNat = wordAt frame 4 ∧
        ∀ type : MessageType, type.id ≠ id := by
  have hdecodes := decodes_decode frame
  generalize decode frame = result at hdecodes ⊢
  cases hdecodes with
  | malformed why h =>
      simp only [Except.error.injEq, reduceCtorEq, false_iff]
      rintro ⟨hsize, hlen, -⟩
      exact h ⟨hsize, hlen⟩
  | unknown hsize hlen hid hnone =>
      constructor
      · intro h
        obtain rfl := Error.unknownCommandId.inj (Except.error.inj h)
        exact ⟨hsize, hlen, hid, hnone⟩
      · rintro ⟨-, -, hid', -⟩
        rw [UInt32.toNat_inj.1 (hid.trans hid'.symm)]
  | @typed type header hsize hlen hid =>
      constructor
      · intro h
        obtain ⟨why, hwhy, -⟩ := readTyped_malformed h
        cases hwhy
      · rintro ⟨-, -, hid', hnone⟩
        exact absurd (UInt32.toNat_inj.1 (hid.trans hid'.symm)) (hnone type)

/-- What can be said of octets that are not accepted. -/
theorem decode_fault
    {frame : List UInt8} {e : Error}
    (h : decode frame = .error e) :
    (∃ id, e = .unknownCommandId id) ∨ ∃ why, e = .malformed why := by
  have hdecodes := decodes_decode frame
  generalize decode frame = result at hdecodes h
  cases hdecodes with
  | malformed why =>
      exact Or.inr ⟨why, (Except.error.inj h).symm⟩
  | @unknown id =>
      exact Or.inl ⟨id, (Except.error.inj h).symm⟩
  | typed header =>
      obtain ⟨why, hwhy, -⟩ := readTyped_malformed h
      exact Or.inr ⟨why, hwhy⟩

/-- **Exactly the frames are accepted.** What is as long as it says but names no type is
refused for its command number, and everything else as malformed. -/
theorem decode_accepts_exactly_frames (frame : List UInt8) :
    ((∃ m, decode frame = .ok m) ↔ IsFrame frame) ∧
    (∀ id, decode frame = .error (.unknownCommandId id) ↔
      headerSize ≤ frame.length ∧ wordAt frame 0 = frame.length ∧ id.toNat = wordAt frame 4 ∧
        ∀ type : MessageType, type.id ≠ id) ∧
    ∀ e, decode frame = .error e →
      (∃ id, e = .unknownCommandId id) ∨ ∃ why, e = .malformed why :=
  ⟨decode_isOk_iff frame, decode_eq_unknownCommandId_iff frame, fun _ => decode_fault⟩

end Pdu
end SmppReplay
