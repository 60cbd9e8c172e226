import SmppReplay.Proofs.Batch.Automatic
import SmppReplay.Proofs.Batch.Malformed
import SmppReplay.Proofs.Text.Respelling

/-!
# Statuses of scripts

**Question.** A script gives the status of a message by its number or by its name.  Are the
names and the numbers ever at odds, and does the label of every status, known or not, give
this status?

**Names.** A name consists of letters in upper case and underscores (`mem_name`), and has an
underscore, so that no literal of a number is one (`integer?_of_respells`).  No two codes
have one number or one name, so that the look-ups are inverse to both tables
(`ofCode?_eq_some_iff`, `ofName?_eq_some_iff`).

**Messages.** Nothing else in a message depends on its status: it is what it is without one,
with the status of its element (`message_of_givenStatus`), and so is its event among those
of a script (`compile_of_givenStatus`).

Main facts:
* `readStatus_eq_ok_iff`: which texts give a status;
* `readStatus_of_respells`: every spelling of its label does.
-/

namespace SmppReplay

open Text (Respells isBlank)
open Text.Numeral (Literal Trims)

namespace StatusCode

/-! ### The table -/

theorem mem_all (c : StatusCode) :
    c ∈ all := by
  cases c <;> decide

theorem nodup_codes :
    (all.map code).Nodup := by
  decide +kernel

theorem nodup_names :
    (all.map name).Nodup := by
  decide +kernel

/-- A number finds the code that has it. -/
theorem ofCode?_eq_some_iff (n : UInt32) (c : StatusCode) :
    ofCode? n = some c ↔ c.code = n := by
  rw [ofCode?, find?_key_eq_some_iff code nodup_codes]
  exact and_iff_right c.mem_all

/-- The characters of a literal can be looked at one by one. -/
theorem mem_literal
    {cs : List Char}
    (hall : cs.all (fun x => x.isUpper || x == '_') = true)
    (hcs : cs.contains '_' = true) :
    '_' ∈ (String.ofList cs).toList ∧
      ∀ x ∈ (String.ofList cs).toList, x.isUpper ∨ x = '_' := by
  rw [String.toList_ofList]
  refine ⟨List.contains_iff_mem.1 hcs, fun x hx => ?_⟩
  simpa using List.all_eq_true.1 hall x hx

/-- A name consists of letters in upper case and underscores. -/
theorem mem_name (c : StatusCode) :
    '_' ∈ c.name.toList ∧ ∀ x ∈ c.name.toList, x.isUpper ∨ x = '_' := by
  cases c <;> exact mem_literal rfl rfl

theorem isBlank_of_mem_name
    {c : StatusCode} {x : Char}
    (hx : x ∈ c.name.toList) :
    isBlank x = false := by
  rcases c.mem_name.2 x hx with hupper | rfl
  · exact Text.isBlank_of_isAlpha ((Text.isAlpha_iff x).2 (.inl ((Text.isUpper_iff x).1 hupper)))
  · decide

theorem upperAscii_name (c : StatusCode) :
    Text.upperAscii c.name = c.name := by
  have hkept : ∀ x ∈ c.name.toList, x.toUpper = x := by
    intro x hx
    rcases c.mem_name.2 x hx with hupper | rfl
    · exact Text.toUpper_of_isUpper hupper
    · decide
  rw [Text.upperAscii, List.map_congr_left hkept, List.map_id', String.ofList_toList]

/-- **A text finds the code of whose name it is a spelling.** -/
theorem ofName?_eq_some_iff (s : String) (c : StatusCode) :
    ofName? s = some c ↔ Respells s c.name := by
  rw [ofName?, find?_key_eq_some_iff name nodup_names, and_iff_right c.mem_all, eq_comm]
  exact Text.upperAscii_trim_eq_iff c.upperAscii_name (fun x => isBlank_of_mem_name) s

/-- **No name is a literal** of a number. -/
theorem integer?_of_respells
    {s : String} {c : StatusCode}
    (h : Respells s c.name) :
    Text.Numeral.integer? s = none := by
  obtain ⟨core, htrims, hcase⟩ := h.exists_trims fun x => isBlank_of_mem_name
  -- The underscore is the same in both cases.
  obtain ⟨x, hx, heq⟩ := Text.exists_toLower_eq hcase c.mem_name.1
  obtain rfl := Text.eq_of_toLower_eq heq (by decide)
  refine Text.Numeral.integer?_eq_none fun core' n htrims' hliteral => ?_
  rw [← (Text.Numeral.trims_iff ..).1 htrims',
    (Text.Numeral.trims_iff ..).1 htrims] at hliteral
  rcases hliteral.mem_cases hx with ⟨radix, d, hd⟩ | hx
  · have hdigit : Text.Numeral.digit? '_' = some d :=
      (Text.Numeral.digit?_eq_some_iff ..).2 hd.2
    cases hdigit
  · exact absurd hx (by decide)

/-! ### Labels -/

theorem label_code (c : StatusCode) :
    label c.code = c.name := by
  rw [label, (ofCode?_eq_some_iff ..).2 rfl]

/-- The label of a status is the name of the code that has its number, or the number. -/
theorem label_cases (n : UInt32) :
    (∃ c : StatusCode, c.code = n ∧ label n = c.name) ∨ label n = toString n.toNat := by
  cases hcode : ofCode? n with
  | some c =>
      obtain rfl := (ofCode?_eq_some_iff n c).1 hcode
      exact .inl ⟨c, rfl, c.label_code⟩
  | none =>
      refine .inr ?_
      rw [label, hcode]

end StatusCode

namespace Batch

open Script (Element)

/-! ### Reading a status -/

/-- **A text gives a status** as a literal of its number, or as a spelling of the name of
its code. -/
theorem readStatus_eq_ok_iff (raw : String) (n : UInt32) :
    readStatus raw = .ok n ↔
      (∃ core, Trims raw.toList core ∧ Literal core n.toNat) ∨
        ∃ c : StatusCode, Respells raw c.name ∧ c.code = n := by
  rw [← Text.Numeral.uint32?_eq_some_iff]
  unfold readStatus
  cases hnumber : Text.Numeral.uint32? raw with
  | some k =>
      constructor
      · intro h
        exact .inl (congrArg some (Except.ok.inj h))
      · rintro (h | ⟨c, hc, -⟩)
        · exact congrArg Except.ok (Option.some.inj h)
        · rw [Text.Numeral.uint32?, Text.Numeral.integerBelow?,
            StatusCode.integer?_of_respells hc] at hnumber
          cases hnumber
  | none =>
      simp only [← StatusCode.ofName?_eq_some_iff]
      cases StatusCode.ofName? raw with
      | some c =>
          simp [numberOr]
      | none =>
          simp [numberOr]

/-- **Every spelling of its label gives a status**, whether the status is known or not. -/
theorem readStatus_of_respells
    {raw : String} {n : UInt32}
    (h : Respells raw (StatusCode.label n)) :
    readStatus raw = .ok n := by
  rw [readStatus_eq_ok_iff]
  rcases StatusCode.label_cases n with ⟨c, hc, hlabel⟩ | hlabel
  · exact .inr ⟨c, hlabel ▸ h, hc⟩
  · exact .inl (Text.literal_of_respells (hlabel ▸ h))

/-- A label has no blank and no equals sign. -/
theorem plain_of_mem_label
    {n : UInt32} {c : Char}
    (h : c ∈ (StatusCode.label n).toList) :
    isBlank c = false ∧ c ≠ '=' := by
  rcases StatusCode.label_cases n with ⟨code, -, hlabel⟩ | hlabel
  · rw [hlabel] at h
    refine ⟨StatusCode.isBlank_of_mem_name h, ?_⟩
    rintro rfl
    exact absurd (code.mem_name.2 _ h) (by decide)
  · rw [hlabel, Nat.toString_eq_repr, Nat.toList_repr] at h
    have hdigit := Nat.isDigit_of_mem_toDigits (by decide) (by decide) h
    refine ⟨(Text.Numeral.isDigit_ne hdigit).1, ?_⟩
    rintro rfl
    exact absurd hdigit (by decide)

theorem givenStatus_of_respells
    {pdu child : Element} {n : UInt32}
    (hchild : pdu.child? statusName = some child)
    (h : Respells child.text (StatusCode.label n)) :
    givenStatus pdu = .ok n := by
  rw [givenStatus, hchild]
  exact readStatus_of_respells (h.trim fun c hc => (plain_of_mem_label hc).1)

/-! ### Messages -/

/-- The element without the children that give its status. -/
def withoutStatus (pdu : Element) : Element :=
  holding pdu (pdu.children.filter fun c => c.name != statusName)

theorem child?_withoutStatus
    (pdu : Element) {name : String}
    (h : name ≠ statusName) :
    (withoutStatus pdu).child? name = pdu.child? name := by
  change (pdu.children.filter _).find? _ = pdu.children.find? _
  rw [List.find?_filter]
  congr 1
  funext c
  by_cases hc : c.name = name
  · simp [hc, h]
  · simp [hc]

theorem child?_statusName_withoutStatus (pdu : Element) :
    (withoutStatus pdu).child? statusName = none := by
  refine List.find?_eq_none.2 fun c hc => ?_
  have hne := (List.mem_filter.1 hc).2
  simpa using hne

/-- A child that gives the status sets no field. -/
theorem applyChild_of_statusName
    {c : Element}
    (h : c.name = statusName)
    (pdu : Element) (m : Message) :
    applyChild pdu m c = .ok m := by
  refine if_pos ((isAside_iff _ _).2 ?_)
  rw [h]
  exact statusName_mem_asideNames m.type

theorem foldlM_applyChild_withoutStatus (pdu : Element) (m : Message) :
    (withoutStatus pdu).children.foldlM (applyChild (withoutStatus pdu)) m =
      pdu.children.foldlM (applyChild pdu) m := by
  have hskip : applyChild pdu = fun m c =>
      if (c.name != statusName) = true then applyChild pdu m c else pure m := by
    funext m c
    by_cases hc : c.name = statusName
    · rw [applyChild_of_statusName hc, hc]
      rfl
    · rw [if_pos (bne_iff_ne.2 hc)]
  rw [applyChild_congr fun name hname => child?_withoutStatus pdu hname]
  conv => rhs; rw [hskip]
  exact List.foldlM_filter ..

theorem checkRequired_withoutStatus (type : MessageType) (pdu : Element) :
    checkRequired type (withoutStatus pdu) = checkRequired type pdu := by
  refine checkRequired_congr fun f hf => ?_
  refine (List.any_filter ..).trans ?_
  congr 1
  funext c
  by_cases hc : c.name = statusName
  · have hnot : f.accepts statusName = false :=
      Bool.eq_false_iff.2 fun haccepts =>
        notMem_asideNames_of_accepts hf haccepts (statusName_mem_asideNames type)
    simp [hc, hnot]
  · simp [hc]

/-- The header of an element with a status is that of the element without it, with the
status. -/
theorem header_of_givenStatus
    {pdu : Element} {n : UInt32}
    (h : givenStatus pdu = .ok n) :
    header pdu = (fun x => (x.1, x.2.1, n)) <$> header (withoutStatus pdu) := by
  have htype : messageType (withoutStatus pdu) = messageType pdu := rfl
  have hsequence : explicitSequence (withoutStatus pdu) = explicitSequence pdu := by
    rw [explicitSequence, child?_withoutStatus pdu (by decide), explicitSequence]
  have hstatus : givenStatus (withoutStatus pdu) = .ok StatusCode.ok.code := by
    rw [givenStatus, child?_statusName_withoutStatus]
  unfold header
  rw [htype, hsequence, hstatus, h, map_bind]
  refine bind_congr fun type => ?_
  rw [map_bind]
  rfl

/-- **A message with a status** is the one without it, with the status: whether there is
one, and all else in it, does not depend on the status. -/
theorem message_of_givenStatus
    {pdu : Element} {n : UInt32}
    (h : givenStatus pdu = .ok n)
    (d : Defaults) (next : UInt32) :
    message d next pdu = (·.withStatus n) <$> message d next (withoutStatus pdu) := by
  rw [message_eq_completed, message_eq_completed, header_of_givenStatus h,
    bind_map_left, map_bind]
  refine bind_congr fun x => ?_
  obtain ⟨type, sequence, status⟩ := x
  rw [completed_congr (fun m _ => foldlM_applyChild_withoutStatus pdu m)
    (checkRequired_withoutStatus type pdu)]
  exact completed_mapHeader id (fun _ => n) d pdu type
    (((Message.new type).withStatus status).withSequence (sequence.getD next))

/-! ### Scripts -/

/-- The events with the status of the message behind `k` other ones changed. -/
def withStatusAt (n : UInt32) : Nat → Batch → Batch
  | _, [] => []
  | k, .send m :: events =>
      if k = 0 then .send (m.withStatus n) :: events
      else .send m :: withStatusAt n (k - 1) events
  | k, e :: events => e :: withStatusAt n k events

/-- The message behind some events is the one behind their messages. -/
theorem withStatusAt_append (n : UInt32) (front : Batch) (m : Message) (back : Batch) :
    withStatusAt n (messages front).length (front ++ .send m :: back) =
      front ++ .send (m.withStatus n) :: back := by
  induction front with
  | nil =>
      rfl
  | cons e front ih =>
      cases e with
      | send m' =>
          exact congrArg (Event.send m' :: ·) ih
      | _ =>
          exact congrArg (_ :: ·) ih

/-- **The message of a compiled script** has the status that its element gives. -/
theorem exists_message_of_givenStatus
    {d : Defaults} {root pdu : Element} {before after : List Element} {n : UInt32}
    {batch : Batch}
    (hcompile : compile d root = .ok batch)
    (hroot : root.children = before ++ pdu :: after)
    (hpdu : pdu.isNamed "PDU")
    (h : givenStatus pdu = .ok n) :
    ∃ m, (messages batch)[(messageElements before).length]? = some m ∧ m.status = n := by
  rw [compile, hroot] at hcompile
  obtain ⟨m, hm, hmessage⟩ := exists_message_at hcompile hpdu
  rw [message_of_givenStatus h] at hmessage
  obtain ⟨plain, -, rfl⟩ := map_eq_ok hmessage
  exact ⟨_, hm, rfl⟩

/-- **The status of one message of a script** has an effect on this message only. -/
theorem compile_of_givenStatus
    {root pdu : Element} {before after : List Element} {n : UInt32}
    (hroot : root.children = before ++ pdu :: after)
    (hpdu : pdu.isNamed "PDU")
    (h : givenStatus pdu = .ok n)
    (d : Defaults) :
    compile d root = withStatusAt n (messageElements before).length <$>
      compile d (holding root (before ++ withoutStatus pdu :: after)) := by
  have hnext : ∀ k, nextAfter k (withoutStatus pdu) = nextAfter k pdu := by
    intro k
    rw [nextAfter, child?_withoutStatus pdu (by decide)]
    rfl
  have hplain : compile d (holding root (before ++ withoutStatus pdu :: after)) =
      elements d 1 (before ++ withoutStatus pdu :: after) := rfl
  rw [hplain, compile, hroot, elements_append, elements_append, elements_cons,
    elements_cons, hnext, element_of_isNamed hpdu,
    element_of_isNamed (show (withoutStatus pdu).isNamed "PDU" from hpdu),
    message_of_givenStatus h]
  cases hbefore : elements d 1 before with
  | error fault =>
      rfl
  | ok front =>
      cases message d (counterAfter 1 before) (withoutStatus pdu) with
      | error fault =>
          rfl
      | ok m =>
          cases elements d (nextAfter (counterAfter 1 before) pdu) after with
          | error fault =>
              rfl
          | ok back =>
              rw [← length_messages_of_elements hbefore]
              exact congrArg Except.ok (withStatusAt_append n front m back).symm

/-- A name in another spelling, and the label of a status that has no name. -/
example :
    compile {} (.mk "Batch" [] "" [.mk "PDU" [("type", "UNBIND_RESP")] "" [
        .mk "CommandStatus" [] "\n  esme_rThrottled\t" []],
      .mk "PDU" [("type", "UNBIND_RESP")] "" [.mk "CommandStatus" [] " 1024 " []]]) =
      .ok [.send (((Message.new .unbindResp).withSequence 1).withStatus 0x58),
        .send (((Message.new .unbindResp).withSequence 2).withStatus 1024)] := by
  decide +kernel

end Batch
end SmppReplay
