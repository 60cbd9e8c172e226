import SmppReplay.Proofs.Batch.Malformed
import SmppReplay.Proofs.Pdu.WireForm
import SmppReplay.Proofs.Text.Numeral
import SmppReplay.Proofs.Text.Utf8

/-!
# Short messages of scripts

**Question.** Which octets does the element of a short message have, and when can they be
sent?

**Octets.** The lines of the element, each with a line feed behind it, or else its own text
(`spoken`).  If the element says which segment of a longer text it is, six octets stand in
front that tell so, and else nothing does (`Heads`).  A number that is there for this and is
none of one octet is a fault (`Spoiled`), also if another one is missing.

**Limit.** A short message alone makes a message if and only if it has at most 254 octets,
those in front included (`Submits.compile_eq_ok_iff`).

Main facts:
* `shortMessage_eq_ok_iff`: the octets, or a fault;
* `decode_submitting`: what is written up to the limit is read again.
-/

namespace SmppReplay
namespace Batch

open Script (Element)
open Text.Numeral (NoneBelow)

/-! ### The octets of a short message -/

/-- The attribute is there and writes the number. -/
def HasNumber (e : Element) (key : String) (n : UInt8) : Prop :=
  ∃ raw, e.attribute? key = some raw ∧
    ∃ k, Text.Numeral.integer? raw = some k ∧ k.toNat = n.toNat

/-- The attribute is there and writes no number of one octet. -/
def HasNoNumber (e : Element) (key : String) : Prop :=
  ∃ raw, e.attribute? key = some raw ∧ NoneBelow UInt8.size raw

/-- The element is a segment with a reference number, at a place among all segments. -/
structure IsSegment (e : Element) (ref total index : UInt8) : Prop where
  header : ∃ header, e.child? "UserDataHeader" = some header ∧
    HasNumber header "ref" ref ∧ HasNumber header "index" index ∧
    HasNumber header "total" total
  first : 1 ≤ index
  last : index ≤ total

/-- One of the numbers of the segment is there and is none of one octet. -/
def Spoiled (e : Element) : Prop :=
  ∃ header, e.child? "UserDataHeader" = some header ∧
    ∃ key ∈ ["ref", "index", "total"], HasNoNumber header key

theorem spoiled_iff
    {e header : Element}
    (h : e.child? "UserDataHeader" = some header) :
    Spoiled e ↔
      HasNoNumber header "ref" ∨ HasNoNumber header "index" ∨
        HasNoNumber header "total" := by
  simp [Spoiled, h]

/-- What stands in front of the text: six octets if the element is a segment, and nothing
else. -/
inductive Heads (e : Element) : List UInt8 → Prop
  | segment {ref total index : UInt8} (h : IsSegment e ref total index) :
      Heads e [5, 0, 3, ref, total, index]
  | whole (h : ∀ ref total index, ¬IsSegment e ref total index) :
      Heads e []

/-- The octets of the lines, each with a line feed behind it, or of the own text if there
are no lines. -/
def spoken (e : Element) : List UInt8 :=
  match e.childrenNamed "line" with
  | [] => Text.Utf8.encode e.trimmedText
  | lines => lines.flatMap fun line => Text.Utf8.encode line.text ++ [10]

theorem encode_linesOrText (e : Element) :
    Text.Utf8.encode (linesOrText e) = spoken e := by
  unfold linesOrText spoken
  cases e.childrenNamed "line" with
  | nil =>
      rfl
  | cons line lines =>
      have h := Text.Utf8.encode_lines ((line :: lines).map Element.text)
      rw [List.map_map, List.flatMap_map] at h
      exact h

section Numbers

variable {e : Element} {key : String}

theorem HasNumber.unique
    {n n' : UInt8}
    (h : HasNumber e key n)
    (h' : HasNumber e key n') :
    n = n' := by
  obtain ⟨raw, hraw, k, hk, hn⟩ := h
  obtain ⟨raw', hraw', k', hk', hn'⟩ := h'
  obtain rfl := Option.some.inj (hraw.symm.trans hraw')
  obtain rfl := Option.some.inj (hk.symm.trans hk')
  exact UInt8.toNat_inj.1 (hn.symm.trans hn')

theorem HasNumber.not_hasNoNumber
    {n : UInt8}
    (h : HasNumber e key n) :
    ¬HasNoNumber e key := by
  obtain ⟨raw, hraw, k, hk, hn⟩ := h
  rintro ⟨raw', hraw', hnone⟩
  obtain rfl := Option.some.inj (hraw.symm.trans hraw')
  have hbound := hnone k hk
  rw [hn] at hbound
  exact absurd n.toNat_lt (Nat.not_lt.2 hbound)

/-- A number of the segment is read if it is there, and it is a fault if it is none of one
octet. -/
theorem segmentNumber_cases (header : Element) (key : String) :
    (∃ n?, segmentNumber header key = .ok n? ∧ (∀ n, HasNumber header key n ↔ n? = some n) ∧
      ¬HasNoNumber header key) ∨
    ((∃ fault, segmentNumber header key = .error fault) ∧ HasNoNumber header key) := by
  unfold segmentNumber
  cases hraw : header.attribute? key with
  | none =>
      refine .inl ⟨none, rfl, ?_, ?_⟩
      · intro n
        simp [HasNumber, hraw]
      · simp [HasNoNumber, hraw]
  | some raw =>
      have hnumber : ∀ n, HasNumber header key n ↔ Text.Numeral.uint8? raw = some n := by
        intro n
        simp [HasNumber, hraw, Text.Numeral.uint8?_eq_some_iff]
      cases hread : Text.Numeral.uint8? raw with
      | some n =>
          have hn := (hnumber n).2 hread
          refine .inl ⟨some n, by simp [readUInt8, hread, numberOr, Except.map], ?_,
            hn.not_hasNoNumber⟩
          intro n'
          rw [hnumber, hread]
      | none =>
          refine .inr ⟨⟨_, by simp [readUInt8, hread, numberOr, Except.map]; rfl⟩,
            raw, hraw, ?_⟩
          intro k hk
          by_contra hsmall
          have hn : HasNumber header key (UInt8.ofNat k.toNat) :=
            ⟨raw, hraw, k, hk, (UInt8.toNat_ofNat_of_lt' (Nat.lt_of_not_le hsmall)).symm⟩
          rw [hnumber, hread] at hn
          cases hn

end Numbers

theorem IsSegment.not_spoiled
    {e : Element} {ref total index : UInt8}
    (h : IsSegment e ref total index) :
    ¬Spoiled e := by
  obtain ⟨header, hheader, href, hindex, htotal⟩ := h.header
  rw [spoiled_iff hheader]
  rintro (hnone | hnone | hnone)
  · exact href.not_hasNoNumber hnone
  · exact hindex.not_hasNoNumber hnone
  · exact htotal.not_hasNoNumber hnone

theorem Heads.unique
    {e : Element} {front front' : List UInt8}
    (h : Heads e front)
    (h' : Heads e front') :
    front = front' := by
  cases h with
  | segment h =>
      cases h' with
      | whole hnone =>
          exact absurd h (hnone _ _ _)
      | segment h' =>
          obtain ⟨header, hheader, href, hindex, htotal⟩ := h.header
          obtain ⟨header', hheader', href', hindex', htotal'⟩ := h'.header
          obtain rfl := Option.some.inj (hheader.symm.trans hheader')
          rw [href.unique href', hindex.unique hindex', htotal.unique htotal']
  | whole hnone =>
      cases h' with
      | whole _ =>
          rfl
      | segment h' =>
          exact absurd h' (hnone _ _ _)

/-- What stands in front of the text, from the numbers that are there. -/
def headOf (ref? index? total? : Option UInt8) : List UInt8 :=
  match ref?, index?, total? with
  | some ref, some index, some total =>
      if 1 ≤ index ∧ index ≤ total then [5, 0, 3, ref, total, index] else []
  | _, _, _ => []

theorem segmentHeader_of_child?
    {e header : Element}
    (h : e.child? "UserDataHeader" = some header) :
    segmentHeader e = (do
      let ref? ← segmentNumber header "ref"
      let index? ← segmentNumber header "index"
      let total? ← segmentNumber header "total"
      return headOf ref? index? total?) := by
  unfold segmentHeader segmentHeaderName
  rw [h]
  refine bind_congr fun ref? => bind_congr fun index? => bind_congr fun total? => ?_
  rcases ref? with _ | ref <;> rcases index? with _ | index <;>
    rcases total? with _ | total <;> rfl

theorem heads_headOf
    {e header : Element} {ref? index? total? : Option UInt8}
    (hheader : e.child? "UserDataHeader" = some header)
    (href : ∀ n, HasNumber header "ref" n ↔ ref? = some n)
    (hindex : ∀ n, HasNumber header "index" n ↔ index? = some n)
    (htotal : ∀ n, HasNumber header "total" n ↔ total? = some n) :
    Heads e (headOf ref? index? total?) := by
  have hsegment : ∀ ref total index, IsSegment e ref total index →
      (ref? = some ref ∧ index? = some index ∧ total? = some total) ∧
        1 ≤ index ∧ index ≤ total := by
    rintro ref total index ⟨⟨header', hsome, hnumbers⟩, hfirst, hlast⟩
    obtain rfl := Option.some.inj (hheader.symm.trans hsome)
    rw [href, hindex, htotal] at hnumbers
    exact ⟨hnumbers, hfirst, hlast⟩
  unfold headOf
  split
  · rename_i ref index total
    split_ifs with hplace
    · exact .segment ⟨⟨header, hheader, (href _).2 rfl, (hindex _).2 rfl, (htotal _).2 rfl⟩,
        hplace.1, hplace.2⟩
    · refine .whole fun ref' total' index' h => hplace ?_
      obtain ⟨⟨-, hindex', htotal'⟩, hbounds⟩ := hsegment _ _ _ h
      obtain rfl := Option.some.inj hindex'
      obtain rfl := Option.some.inj htotal'
      exact hbounds
  · rename_i hmissing
    refine .whole fun ref total index h => ?_
    obtain ⟨⟨href', hindex', htotal'⟩, -⟩ := hsegment _ _ _ h
    exact hmissing _ _ _ href' hindex' htotal'

/-- What stands in front of the text is read, or a number of the segment is a fault. -/
theorem segmentHeader_cases (e : Element) :
    (∃ front, segmentHeader e = .ok front ∧ Heads e front ∧ ¬Spoiled e) ∨
    ((∃ fault, segmentHeader e = .error fault) ∧ Spoiled e) := by
  cases hheader : e.child? "UserDataHeader" with
  | none =>
      refine .inl ⟨[], ?_, .whole ?_, ?_⟩
      · rw [segmentHeader, segmentHeaderName, hheader]
      · rintro ref total index ⟨⟨header, hsome, -⟩, -, -⟩
        cases hheader.symm.trans hsome
      · rintro ⟨header, hsome, -⟩
        cases hheader.symm.trans hsome
  | some header =>
      rw [segmentHeader_of_child? hheader, spoiled_iff hheader]
      -- The numbers are read in this order, and the first fault is that of the element.
      rcases segmentNumber_cases header "ref" with
        ⟨ref?, href, hrefs, hrefOk⟩ | ⟨⟨fault, href⟩, hnone⟩
      · rcases segmentNumber_cases header "index" with
          ⟨index?, hindex, hindexes, hindexOk⟩ | ⟨⟨fault, hindex⟩, hnone⟩
        · rcases segmentNumber_cases header "total" with
            ⟨total?, htotal, htotals, htotalOk⟩ | ⟨⟨fault, htotal⟩, hnone⟩
          · refine .inl ⟨headOf ref? index? total?, by rw [href, hindex, htotal]; rfl,
              heads_headOf hheader hrefs hindexes htotals, ?_⟩
            rintro (hnone | hnone | hnone)
            · exact hrefOk hnone
            · exact hindexOk hnone
            · exact htotalOk hnone
          · exact .inr ⟨⟨fault, by rw [href, hindex, htotal]; rfl⟩, .inr (.inr hnone)⟩
        · exact .inr ⟨⟨fault, by rw [href, hindex]; rfl⟩, .inr (.inl hnone)⟩
      · exact .inr ⟨⟨fault, by rw [href]; rfl⟩, .inl hnone⟩

/-- **The octets of a short message.** -/
theorem shortMessage_eq_ok_iff (e : Element) (bs : List UInt8) :
    shortMessage e = .ok bs ↔
      ¬Spoiled e ∧ ∃ front, Heads e front ∧ bs = front ++ spoken e := by
  unfold shortMessage
  rw [encode_linesOrText]
  rcases segmentHeader_cases e with
    ⟨front, hfront, hheads, hsound⟩ | ⟨⟨fault, hfault⟩, hspoiled⟩
  · rw [hfront]
    constructor
    · intro h
      exact ⟨hsound, front, hheads, (Except.ok.inj h).symm⟩
    · rintro ⟨-, front', hheads', rfl⟩
      rw [hheads.unique hheads']
      rfl
  · rw [hfault]
    constructor
    · intro h
      cases h
    · rintro ⟨hsound, -⟩
      exact absurd hspoiled hsound

/-! ### Its place in a message -/

/-- The name is that of one field only, whatever the type is. -/
theorem shortMessage_names (type : MessageType) :
    (∀ f ∈ type.layout.mandatory, f.accepts "ShortMessage" → f = FieldTable.shortMessage) ∧
      (∀ t ∈ type.layout.optional, t.element ≠ "ShortMessage") ∧
      "ShortMessage" ∉ asideNames type := by
  cases type <;> decide +kernel

section Message

variable {d : Defaults} {next : UInt32} {pdu e : Element} {m : Message}

/-- A child under this name was read as a short message. -/
theorem Used.shortMessage
    {type : MessageType}
    (h : Used pdu type e)
    (hname : e.name = "ShortMessage") :
    FieldTable.shortMessage ∈ type.layout.mandatory ∧ ∃ bs, shortMessage e = .ok bs := by
  obtain ⟨hmandatory, hoptional, haside⟩ := shortMessage_names type
  cases h with
  | aside h =>
      exact absurd (hname ▸ h) haside
  | mandatory hf haccepts hv =>
      obtain rfl := hmandatory _ hf (hname ▸ haccepts)
      obtain ⟨bs, hbs, -⟩ := map_eq_ok hv
      exact ⟨hf, bs, hbs⟩
  | optional ht hname' =>
      exact absurd (hname'.symm.trans hname) (hoptional _ ht)

/-- A message has the octets of the last child under this name. -/
theorem shortMessage_of_message
    (h : message d next pdu = .ok m)
    (hlast : (pdu.childrenNamed "ShortMessage").getLast? = some e) :
    ∃ front, Heads e front ∧
      m.mandatory.get? .shortMessage = some (.octets (front ++ spoken e)) := by
  have hmade := made_of_message h
  have hchildren : childrenOf FieldTable.shortMessage pdu.children =
      pdu.childrenNamed "ShortMessage" :=
    childrenOf_eq_childrenNamed rfl pdu
  obtain ⟨he, hname⟩ := List.mem_filter.1 (List.mem_of_getLast? hlast)
  obtain ⟨hfield, -⟩ := (hmade.used hmade.sourced.1 he).2.shortMessage (beq_iff_eq.1 hname)
  rcases hmade.mandatory hfield with ⟨child, v, hchild, hv, hget⟩ | ⟨hnone, -⟩
  · rw [hchildren, hlast] at hchild
    obtain rfl := Option.some.inj hchild
    obtain ⟨bs, hbs, rfl⟩ := map_eq_ok hv
    obtain ⟨-, front, hheads, rfl⟩ := (shortMessage_eq_ok_iff e bs).1 hbs
    exact ⟨front, hheads, hget⟩
  · rw [hchildren, hlast] at hnone
    cases hnone

/-- A number of a segment that is none keeps a script from being compiled. -/
theorem compile_of_spoiled
    {root : Element}
    (hpdu : pdu ∈ root.children)
    (hnamed : pdu.isNamed "PDU")
    (he : e ∈ pdu.children)
    (hname : e.name = "ShortMessage")
    (hspoiled : Spoiled e) :
    ∃ fault, compile d root = .error fault := by
  cases hcompile : compile d root with
  | error fault =>
      exact ⟨fault, rfl⟩
  | ok batch =>
      obtain ⟨m, hm⟩ := exists_message_of_compile hcompile hpdu hnamed
      have hmade := made_of_message hm
      obtain ⟨-, bs, hbs⟩ := (hmade.used hmade.sourced.1 he).2.shortMessage hname
      exact absurd hspoiled ((shortMessage_eq_ok_iff e bs).1 hbs).1

end Message

/-! ### A short message alone -/

/-- The element of a message that has a short message and nothing else. -/
structure Submits (pdu e : Element) : Prop where
  named : pdu.isNamed "PDU"
  type : messageType pdu = .ok .submitSm
  children : pdu.children = [e]
  name : e.name = "ShortMessage"

/-- The message with a short message and nothing else of its own. -/
def submitting (n : UInt32) (bs : List UInt8) : Message :=
  { (Message.new .submitSm).withSequence n with
    mandatory := (Message.new .submitSm).mandatory.insert .shortMessage (.octets bs) }

theorem wellFormed_submitting (n : UInt32) (bs : List UInt8) :
    (submitting n bs).WellFormed :=
  ((Message.wellFormed_new .submitSm).withSequence n).setMandatory
    ((Message.setMandatory_eq_ok_iff _ _ .shortMessage (.octets bs)).2
      ⟨FieldTable.shortMessage, rfl, rfl, rfl⟩)

theorem writable_submitting_iff (n : UInt32) (bs : List UInt8) :
    Pdu.Writable (submitting n bs) ↔ bs.length ≤ 254 := by
  have hnew := (Message.wellFormed_new .submitSm).withSequence n
  have hencode :
      ∃ frame, Pdu.encode ((Message.new .submitSm).withSequence n) = .ok frame := by
    rw [Pdu.encode_withSequence]
    exact ⟨_, rfl⟩
  obtain ⟨frame, hframe⟩ := hencode
  have hwritable := ((Pdu.encode_eq_ok_iff hnew frame).1 hframe).1
  have hinsert := Pdu.writable_insert_mandatory_iff hnew hwritable
    (show FieldTable.shortMessage ∈ MessageType.submitSm.layout.mandatory by decide)
    (show (FieldValue.octets bs).fits .shortMessage from rfl)
  refine hinsert.trans ⟨fun h => ?_, fun h => .shortMessage h⟩
  cases h with
  | shortMessage h =>
      exact h

/-- **The limit**: at most 254 octets are written, and they are read again. -/
theorem decode_submitting
    {bs : List UInt8}
    (h : bs.length ≤ 254)
    (n : UInt32) :
    ∃ frame, Pdu.encode (submitting n bs) = .ok frame ∧
      Pdu.decode frame = .ok (submitting n bs) := by
  have hm := wellFormed_submitting n bs
  have hframe := (Pdu.encode_eq_ok_iff hm _).2 ⟨(writable_submitting_iff n bs).2 h, rfl⟩
  refine ⟨_, hframe, (Pdu.decode_encode_eq_self_iff hm hframe
    (Pdu.length_encode_lt hframe rfl)).2
    ⟨rfl, ?_⟩⟩
  intro t ht
  cases ht

section Submits

variable {pdu e : Element}

theorem Submits.child?_eq_none
    {name : String}
    (h : Submits pdu e)
    (hname : name ≠ "ShortMessage") :
    pdu.child? name = none := by
  rw [Element.child?, h.children, List.find?_singleton, h.name, if_neg]
  rw [beq_iff_eq]
  exact hname.symm

/-- The child sets its field, which is found by its name. -/
theorem Submits.applyChild_eq
    (h : Submits pdu e)
    (n : UInt32) :
    applyChild pdu ((Message.new .submitSm).withSequence n) e =
      submitting n <$> shortMessage e := by
  have haside : ¬isAside .submitSm "ShortMessage" = true := by decide
  have hfind :
      (MessageType.submitSm.layout.mandatory.find? fun f => f.accepts "ShortMessage") =
        some FieldTable.shortMessage := by
    decide +kernel
  have hlayout : ((Message.new .submitSm).withSequence n).layout =
      MessageType.submitSm.layout := rfl
  have htype : ((Message.new .submitSm).withSequence n).type = .submitSm := rfl
  unfold applyChild
  rw [h.name, hlayout, htype, if_neg haside, hfind]
  change (shortMessage e).map FieldValue.octets >>= (fun v =>
    ofPdu (((Message.new .submitSm).withSequence n).setMandatory .shortMessage v)) = _
  cases shortMessage e <;> rfl

/-- Apart from its octets and its number the message of the element is settled. -/
theorem Submits.message_eq
    (h : Submits pdu e)
    (d : Defaults) (n : UInt32) :
    message d n pdu = shortMessage e >>= fun bs =>
      (fun _ => submitting n bs) <$> ofPdu (Pdu.encode (submitting n bs)) := by
  have hheader : header pdu = .ok (.submitSm, none, 0) := by
    unfold header explicitSequence givenStatus sequenceName statusName
    rw [h.type, h.child?_eq_none (by decide), h.child?_eq_none (by decide)]
    rfl
  rw [message_eq_completed, hheader]
  change
    pdu.children.foldlM (applyChild pdu) ((Message.new .submitSm).withSequence n) >>= _ = _
  rw [h.children, List.foldlM_cons, h.applyChild_eq]
  cases shortMessage e <;> rfl

theorem Submits.message_eq_ok_iff
    (h : Submits pdu e)
    (d : Defaults) (n : UInt32) (m : Message) :
    message d n pdu = .ok m ↔
      ∃ bs, shortMessage e = .ok bs ∧ bs.length ≤ 254 ∧ m = submitting n bs := by
  rw [h.message_eq]
  constructor
  · intro hm
    obtain ⟨bs, hbs, hm⟩ := bind_eq_ok hm
    obtain ⟨frame, hframe, rfl⟩ := map_eq_ok hm
    have hencode := (Pdu.encode_eq_ok_iff (wellFormed_submitting n bs) frame).1
      (ofPdu_eq_ok hframe)
    exact ⟨bs, hbs, (writable_submitting_iff n bs).1 hencode.1, rfl⟩
  · rintro ⟨bs, hbs, hlength, rfl⟩
    obtain ⟨frame, hframe, -⟩ := decode_submitting hlength n
    rw [hbs]
    change (fun _ => submitting n bs) <$> ofPdu (Pdu.encode (submitting n bs)) = _
    rw [hframe]
    rfl

/-- **A script with a short message alone** is compiled if and only if the octets are within
the limit. -/
theorem Submits.compile_eq_ok_iff
    {root : Element} {front : List UInt8}
    (h : Submits pdu e)
    (hroot : root.children = [pdu])
    (hheads : Heads e front)
    (d : Defaults) (batch : Batch) :
    compile d root = .ok batch ↔
      ¬Spoiled e ∧ front.length + (spoken e).length ≤ 254 ∧
        batch = [.send (submitting 1 (front ++ spoken e))] := by
  rw [compile, hroot, elements_singleton, element_of_isNamed h.named, ← List.length_append]
  constructor
  · intro hbatch
    obtain ⟨m, hm, rfl⟩ := map_eq_ok hbatch
    obtain ⟨bs, hbs, hlength, rfl⟩ := (h.message_eq_ok_iff d 1 m).1 hm
    obtain ⟨hsound, front', hheads', rfl⟩ := (shortMessage_eq_ok_iff e bs).1 hbs
    obtain rfl := hheads.unique hheads'
    exact ⟨hsound, hlength, rfl⟩
  · rintro ⟨hsound, hlength, rfl⟩
    have hbs := (shortMessage_eq_ok_iff e _).2 ⟨hsound, front, hheads, rfl⟩
    rw [(h.message_eq_ok_iff d 1 _).2 ⟨_, hbs, hlength, rfl⟩]
    rfl

end Submits

end Batch
end SmppReplay
