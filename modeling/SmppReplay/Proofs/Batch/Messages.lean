import SmppReplay.Proofs.Batch.Settings
import SmppReplay.Proofs.Pdu.FrameSize

/-!
# Messages of compiled scripts

**Question.**  Is the message that a script describes the one that a peer reads?

**What a message is made of.** The fields come from the children of its element (`Drafted`):
every value fits its field, there are no raw fields, and every optional text is the text of
a child without the blanks at its ends.  Setting one more field keeps that, so it holds of
the whole message (`Made.drafted`).

**Answer.** A compiled message has a frame, whose length fits into its word.  Mandatory
texts with a NUL are refused, but optional ones are not, and are read up to their first NUL.
So a message comes back if and only if no optional text holds a NUL
(`compiled_comes_back_iff`).
-/

namespace SmppReplay

/-- Trimming adds no character. -/
theorem Text.mem_of_mem_trim
    {c : Char} {s : String}
    (h : c ∈ (Text.trim s).toList) :
    c ∈ s.toList := by
  rw [Text.trim, String.toList_ofList, Text.trimRight, List.mem_reverse] at h
  have hleft : c ∈ Text.trimLeft s.toList :=
    List.mem_reverse.1 ((List.dropWhile_sublist _).subset h)
  exact (List.dropWhile_sublist _).subset hleft

namespace Batch

open Script (Element)

/-! ### The fields of a message -/

/-- The message has the values that its fields need and no raw fields, and its optional
texts are those of children of the element. -/
structure Drafted (pdu : Element) (m : Message) : Prop where
  wellFormed : m.WellFormed
  noRaw : m.unknown = []
  texts : ∀ id s, m.optional.get? id = some (.text s) →
    ∃ child ∈ pdu.children, s = child.trimmedText

/-- What a child yields for an optional field: a value of the field's kind, or nothing for a
flag that stays away. -/
inductive Yields (t : TlvSpec) (child : Element) : Option FieldValue → Prop
  | u8 (hkind : t.kind = .u8) (n : UInt8) : Yields t child (some (.u8 n))
  | u16 (hkind : t.kind = .u16) (n : UInt16) : Yields t child (some (.u16 n))
  | u32 (hkind : t.kind = .u32) (n : UInt32) : Yields t child (some (.u32 n))
  | text (hkind : t.kind = .text) : Yields t child (some (.text child.trimmedText))
  | octets (hkind : t.kind = .octets) (bs : List UInt8) : Yields t child (some (.octets bs))
  | flag (hkind : t.kind = .flag) (hyes : saysYes child.trimmedText) :
      Yields t child (some .flag)
  | absent (hkind : t.kind = .flag) (hno : ¬ saysYes child.trimmedText) : Yields t child none
  | networkError (hkind : t.kind = .networkError) (networkType : UInt8) (code : UInt16) :
      Yields t child (some (.networkError networkType code))

theorem yields_of_optionalValue
    {t : TlvSpec} {child : Element} {v? : Option FieldValue}
    (h : optionalValue t child = .ok v?) :
    Yields t child v? := by
  unfold optionalValue at h
  cases hkind : t.kind with
  | u8 =>
      simp only [hkind] at h
      obtain ⟨n, -, rfl⟩ := map_eq_ok h
      exact Yields.u8 hkind n
  | u16 =>
      simp only [hkind] at h
      obtain ⟨n, -, rfl⟩ := map_eq_ok h
      exact Yields.u16 hkind n
  | u32 =>
      simp only [hkind] at h
      obtain ⟨n, -, rfl⟩ := map_eq_ok h
      exact Yields.u32 hkind n
  | text =>
      simp only [hkind] at h
      obtain rfl := Except.ok.inj h
      exact Yields.text hkind
  | octets =>
      simp only [hkind] at h
      obtain rfl := Except.ok.inj h
      exact Yields.octets hkind _
  | flag =>
      simp only [hkind] at h
      obtain rfl := Except.ok.inj h
      split_ifs with hyes
      · exact Yields.flag hkind hyes
      · exact Yields.absent hkind hyes
  | networkError =>
      simp only [hkind] at h
      split at h <;>
        · obtain ⟨networkType, -, h⟩ := bind_eq_ok h
          obtain ⟨code, -, h⟩ := bind_eq_ok h
          obtain rfl := Except.ok.inj h
          exact Yields.networkError hkind networkType code

/-- An optional text is the text of its element. -/
theorem text_of_optionalValue
    {t : TlvSpec} {child : Element} {s : String}
    (h : optionalValue t child = .ok (some (.text s))) :
    s = child.trimmedText := by
  cases yields_of_optionalValue h with
  | text =>
      rfl

theorem ofPdu_eq_ok
    {α : Type} {r : Except Pdu.Error α} {a : α}
    (h : ofPdu r = .ok a) :
    r = .ok a :=
  mapError_eq_ok h

namespace Drafted

variable {pdu : Element} {m m' : Message}

theorem new (pdu : Element) (type : MessageType) (sequence status : UInt32) :
    Drafted pdu (((Message.new type).withSequence sequence).withStatus status) := by
  refine ⟨((Message.wellFormed_new type).withSequence sequence).withStatus status, rfl, ?_⟩
  intro id s h
  cases h

theorem setMandatory
    {id : FieldId} {v : FieldValue}
    (h : Drafted pdu m)
    (hset : m.setMandatory id v = .ok m') :
    Drafted pdu m' := by
  have hm' := h.wellFormed.setMandatory hset
  obtain ⟨f, -, -, rfl⟩ := (Message.setMandatory_eq_ok_iff m m' id v).1 hset
  exact ⟨hm', h.noRaw, h.texts⟩

/-- An optional field is set to a text only if a child has it. -/
theorem setOptional
    {id : FieldId} {v : FieldValue}
    (h : Drafted pdu m)
    (hset : m.setOptional id v = .ok m')
    (hv : ∀ s, v = .text s → ∃ child ∈ pdu.children, s = child.trimmedText) :
    Drafted pdu m' := by
  have hm' := h.wellFormed.setOptional hset
  obtain ⟨spec, -, -, rfl⟩ := (Message.setOptional_eq_ok_iff m m' id v).1 hset
  refine ⟨hm', h.noRaw, ?_⟩
  intro k s hget
  rw [FieldMap.get?_insert] at hget
  split_ifs at hget with hk
  · exact hv s (Option.some.inj hget)
  · exact h.texts k s hget

theorem setIfPresent
    {id : FieldId} {s : String}
    (h : Drafted pdu m)
    (hset : setIfPresent m id s = .ok m') :
    Drafted pdu m' := by
  unfold Batch.setIfPresent at hset
  split_ifs at hset with hfield
  · exact h.setMandatory (ofPdu_eq_ok hset)
  · exact Except.ok.inj hset ▸ h

theorem withAccount
    {d : Defaults}
    (h : Drafted pdu m)
    (hset : withAccount d m = .ok m') :
    Drafted pdu m' := by
  obtain ⟨m₁, h₁, hset⟩ := bind_eq_ok hset
  obtain ⟨m₂, h₂, hset⟩ := bind_eq_ok hset
  exact ((h.setIfPresent h₁).setIfPresent h₂).setIfPresent hset

/-- One more child sets at most one field. -/
theorem applyChild
    {child : Element}
    (h : Drafted pdu m)
    (hchild : child ∈ pdu.children)
    (hset : applyChild pdu m child = .ok m') :
    Drafted pdu m' := by
  unfold Batch.applyChild at hset
  split_ifs at hset with haside
  · exact Except.ok.inj hset ▸ h
  split at hset
  · obtain ⟨v, -, hset⟩ := bind_eq_ok hset
    exact h.setMandatory (ofPdu_eq_ok hset)
  split at hset
  · rename_i t _
    split_ifs at hset with himplemented
    obtain ⟨v?, hvalue, hset⟩ := bind_eq_ok hset
    cases v? with
    | none =>
        exact Except.ok.inj hset ▸ h
    | some v =>
        refine h.setOptional (ofPdu_eq_ok hset) ?_
        rintro s rfl
        exact ⟨child, hchild, text_of_optionalValue hvalue⟩
  · cases hset

end Drafted

/-- The steps in which the message of an element is made: its header, the account of the
defaults, its children in order, and the checks at the end. -/
inductive Made (d : Defaults) (next : UInt32) (pdu : Element) : Message → Prop
  | made {type : MessageType} {sequence : Option UInt32} {status : UInt32} {m₀ m₁ m : Message}
      {frame : List UInt8}
      (htype : messageType pdu = .ok type)
      (hsequence : explicitSequence pdu = .ok sequence)
      (hstatus : givenStatus pdu = .ok status)
      (hm₀ : m₀ = ((Message.new type).withSequence (sequence.getD next)).withStatus status)
      (haccount : (if isLogin type then withAccount d m₀ else .ok m₀) = .ok m₁)
      (hchildren : pdu.children.foldlM (applyChild pdu) m₁ = .ok m)
      (hrequired : checkRequired type pdu = .ok ())
      (hframe : Pdu.encode m = .ok frame) :
      Made d next pdu m

theorem made_of_message
    {d : Defaults} {next : UInt32} {pdu : Element} {m : Message}
    (h : message d next pdu = .ok m) :
    Made d next pdu m := by
  obtain ⟨type, htype, h⟩ := bind_eq_ok h
  obtain ⟨sequence, hsequence, h⟩ := bind_eq_ok h
  obtain ⟨status, hstatus, h⟩ := bind_eq_ok h
  -- Both ways to the account lead on to the children.
  have hrest : ∃ m₁, (if isLogin type
        then withAccount d
          (((Message.new type).withSequence (sequence.getD next)).withStatus status)
        else .ok (((Message.new type).withSequence (sequence.getD next)).withStatus status)) =
          .ok m₁ ∧
      (pdu.children.foldlM (applyChild pdu) m₁ >>= fun m =>
        checkRequired type pdu >>= fun _ => ofPdu (Pdu.encode m) >>= fun _ => .ok m) =
          .ok m := by
    simp only at h
    split_ifs at h ⊢ with hlogin
    · exact bind_eq_ok h
    · exact ⟨_, rfl, h⟩
  obtain ⟨m₁, haccount, h⟩ := hrest
  obtain ⟨m₂, hchildren, h⟩ := bind_eq_ok h
  obtain ⟨_, hrequired, h⟩ := bind_eq_ok h
  obtain ⟨frame, hframe, h⟩ := bind_eq_ok h
  obtain rfl := Except.ok.inj h
  exact Made.made htype hsequence hstatus rfl haccount hchildren hrequired
    (ofPdu_eq_ok hframe)

theorem Made.exists_frame
    {d : Defaults} {next : UInt32} {pdu : Element} {m : Message}
    (h : Made d next pdu m) :
    ∃ frame, Pdu.encode m = .ok frame := by
  obtain ⟨-, -, -, -, -, -, -, hframe⟩ := h
  exact ⟨_, hframe⟩

/-- The message of an element is drafted from its children. -/
theorem Made.drafted
    {d : Defaults} {next : UInt32} {pdu : Element} {m : Message}
    (h : Made d next pdu m) :
    Drafted pdu m := by
  obtain ⟨-, -, -, rfl, haccount, hchildren, -, -⟩ := h
  have hstep : ∀ child ∈ pdu.children, ∀ m m',
      applyChild pdu m child = .ok m' → Drafted pdu m → Drafted pdu m' :=
    fun child hchild m m' hset hm => hm.applyChild hchild hset
  refine foldlM_preserves hstep hchildren ?_
  split_ifs at haccount with hlogin
  · exact (Drafted.new pdu _ _ _).withAccount haccount
  · exact Except.ok.inj haccount ▸ Drafted.new pdu _ _ _

/-! ### The messages of a script -/

/-- Settings are no messages. -/
theorem send_notMem_switches
    {e : Element} {key : String} {enabled : Bool} {events : Batch} {m : Message}
    (h : switches e key enabled = .ok events) :
    Event.send m ∉ events := by
  rw [mem_switches_iff h]
  rintro ⟨t, ht, -⟩
  cases ht

/-- Only a message element makes a message. -/
theorem message_of_mem_element
    {d : Defaults} {next : UInt32} {e : Element} {events : Batch} {m : Message}
    (h : element d next e = .ok events)
    (hm : Event.send m ∈ events) :
    e.isNamed "PDU" ∧ message d next e = .ok m := by
  unfold element at h
  split_ifs at h with hpdu
  · obtain ⟨m', hm', rfl⟩ := map_eq_ok h
    obtain rfl := Event.send.inj (List.mem_singleton.1 hm)
    exact ⟨hpdu, hm'⟩
  · obtain ⟨p, -, rfl⟩ := map_eq_ok h
    cases List.mem_singleton.1 hm
  · obtain rfl := Except.ok.inj h
    cases List.mem_singleton.1 hm
  · obtain ⟨n, -, rfl⟩ := map_eq_ok h
    cases List.mem_singleton.1 hm
  · obtain ⟨on, hon, h⟩ := bind_eq_ok h
    obtain ⟨off, hoff, h⟩ := bind_eq_ok h
    obtain rfl := Except.ok.inj h
    rcases List.mem_append.1 hm with hm | hm
    · exact absurd hm (send_notMem_switches hon)
    · exact absurd hm (send_notMem_switches hoff)
  · obtain rfl := Except.ok.inj h
    cases hm

/-- Every message of a script is that of one of its elements. -/
theorem exists_message_of_mem_elements
    {d : Defaults} {next : UInt32} {es : List Element} {batch : Batch} {m : Message}
    (h : elements d next es = .ok batch)
    (hm : Event.send m ∈ batch) :
    ∃ e ∈ es, ∃ n, message d n e = .ok m := by
  induction es generalizing next batch with
  | nil =>
      obtain rfl := Except.ok.inj h
      cases hm
  | cons e es ih =>
      obtain ⟨events, hevents, h⟩ := bind_eq_ok h
      obtain ⟨rest, hrest, h⟩ := bind_eq_ok h
      obtain rfl := Except.ok.inj h
      rcases List.mem_append.1 hm with hm | hm
      · exact ⟨e, by simp, next, (message_of_mem_element hevents hm).2⟩
      · obtain ⟨e', he', hmessage⟩ := ih hrest hm
        exact ⟨e', List.mem_cons_of_mem e he', hmessage⟩

/-- Texts without a NUL make optional texts without one. -/
theorem Drafted.nulFree
    {pdu : Element} {m : Message}
    (h : Drafted pdu m)
    (htexts : ∀ field ∈ pdu.children, '\x00' ∉ field.text.toList) :
    Pdu.NulFree m := by
  intro spec _ _ s hget hnul
  obtain ⟨child, hchild, rfl⟩ := h.texts spec.id s hget
  exact htexts child hchild (Text.mem_of_mem_trim hnul)

/-- **What a peer reads of a script.** Every message of a compiled script has a frame, which
is read as the message with its optional texts cut before their first NUL.  So the message
comes back if and only if none of its optional texts holds a NUL; in particular if no field
of the script does. -/
theorem compiled_comes_back_iff
    (d : Defaults) (root : Element) (batch : Batch) (m : Message)
    (h : compile d root = .ok batch)
    (hm : Event.send m ∈ batch) :
    ∃ frame, Pdu.encode m = .ok frame ∧
      Pdu.decode frame = .ok { m with optional := m.optional.mapValues FieldValue.cut } ∧
      (Pdu.decode frame = .ok m ↔ Pdu.NulFree m) ∧
      ((∀ pdu ∈ root.children, ∀ field ∈ pdu.children, '\x00' ∉ field.text.toList) →
        Pdu.decode frame = .ok m) := by
  obtain ⟨pdu, hpdu, next, hmessage⟩ := exists_message_of_mem_elements h hm
  have hmade := made_of_message hmessage
  have hdrafted := hmade.drafted
  obtain ⟨frame, hframe⟩ := hmade.exists_frame
  have hlen := Pdu.length_encode_lt hframe hdrafted.noRaw
  have hread := Pdu.decode_encode hdrafted.wellFormed hframe hlen
  have hiff : Pdu.decode frame = .ok m ↔ Pdu.NulFree m := by
    rw [Pdu.decode_encode_eq_self_iff hdrafted.wellFormed hframe hlen,
      Pdu.mapValues_cut_eq_self_iff hdrafted.wellFormed, hdrafted.noRaw]
    simp
  refine ⟨frame, hframe, ?_, hiff, ?_⟩
  · rw [hread, hdrafted.noRaw, Pdu.bare, List.foldl_nil, ← hdrafted.noRaw]
  · intro htexts
    exact hiff.2 (hdrafted.nulFree (htexts pdu hpdu))

/-- Blanks around a text are no part of the message, and letters beyond ASCII are; what is
left comes back. -/
theorem compiled_dataSmResp_comes_back :
    compile {} (.mk "Batch" [] "" [.mk "PDU" [("type", "DATA_SM_RESP")] ""
        [.mk "MessageId" [] " é " [], .mk "AdditionalStatusInfoText" [] "ok" []]]) =
      .ok [.send (Message.build .dataSmResp [.sequence 1,
        .setMandatory .messageId (.text "é"),
        .setOptional .additionalStatusInfoText (.text "ok")])] ∧
    ∃ frame, Pdu.decode frame =
      .ok (Message.build .dataSmResp [.sequence 1, .setMandatory .messageId (.text "é"),
        .setOptional .additionalStatusInfoText (.text "ok")]) := by
  have hcompile : compile {} (.mk "Batch" [] "" [.mk "PDU" [("type", "DATA_SM_RESP")] ""
        [.mk "MessageId" [] " é " [], .mk "AdditionalStatusInfoText" [] "ok" []]]) =
      .ok [.send (Message.build .dataSmResp [.sequence 1,
        .setMandatory .messageId (.text "é"),
        .setOptional .additionalStatusInfoText (.text "ok")])] := by
    decide +kernel
  obtain ⟨frame, -, -, -, hback⟩ :=
    compiled_comes_back_iff _ _ _ _ hcompile (List.mem_singleton_self _)
  exact ⟨hcompile, frame, hback (by decide)⟩

/-- An optional text with a NUL compiles and is written, and the peer reads another message. -/
theorem compiled_nul_cut :
    ∃ m frame, compile {} (.mk "Batch" [] "" [.mk "PDU" [("type", "DATA_SM_RESP")] ""
        [.mk "AdditionalStatusInfoText" [] "a\x00b" []]]) = .ok [.send m] ∧
      Pdu.encode m = .ok frame ∧ Pdu.decode frame ≠ .ok m := by
  refine ⟨Message.build .dataSmResp [.sequence 1,
      .setOptional .additionalStatusInfoText (.text "a\x00b")],
    [0, 0, 0, 25, 128, 0, 1, 3, 0, 0, 0, 0, 0, 0, 0, 1, 0, 0, 29, 0, 4, 97, 0, 98, 0],
    ?_, ?_, ?_⟩
  · decide +kernel
  · decide +kernel
  · decide +kernel

end Batch
end SmppReplay
