import SmppReplay.Proofs.Batch.ShortMessages

/-!
# Segments of a text

**Question.** A text that is too long for one short message is sent in segments.  Does the
peer get it back?

**Method.** A segment has six octets in front, so that there is room for a line of 247
octets and its line feed.  Each element in front of others adds its own octets in front of
theirs (`SubmitsSegment.delivers_cons`), and the induction is on the segments.

**Answer.**  Yes, if there are at most 255 of them, which is what their numbers can count.

Main fact:
* `segmentLaws`: short messages of scripts, their limit, and segments.
-/

namespace SmppReplay
namespace Batch

open Script (Element)

/-! ### Segments -/

/-- The message element has one segment, with one line, of a text in so many segments. -/
def SubmitsSegment (pdu : Element) (total index : Nat) (s : String) : Prop :=
  ∃ e line : Element, ∃ ref t i : UInt8, Submits pdu e ∧ IsSegment e ref t i ∧
    t.toNat = total ∧ i.toNat = index ∧ e.childrenNamed "line" = [line] ∧ line.text = s

/-- The elements have the segments of a text, one line each, from a place on. -/
inductive Segments (total : Nat) : Nat → List Element → List String → Prop
  | nil (index : Nat) :
      Segments total index [] []
  | cons {index : Nat} {pdu : Element} {pdus : List Element} {s : String}
      {lines : List String}
      (h : SubmitsSegment pdu total index s) (hrest : Segments total (index + 1) pdus lines) :
      Segments total index (pdu :: pdus) (s :: lines)

/-- The message element of one segment, with its numbers in decimal. -/
def segmentElement (ref : UInt8) (total index : Nat) (s : String) : Element :=
  .mk "PDU" [("type", "SUBMIT_SM")] "" [.mk "ShortMessage" [] "" [
    .mk "UserDataHeader" [("ref", toString ref.toNat), ("index", toString index),
      ("total", toString total)] "" [],
    .mk "line" [] s []]]

/-- The message elements of the segments from a place on. -/
def segmentElements (ref : UInt8) (total : Nat) : Nat → List String → List Element
  | _, [] => []
  | index, s :: lines =>
      segmentElement ref total index s :: segmentElements ref total (index + 1) lines

/-- The script is compiled to messages, the peer reads them from their frames, and behind
six octets in front of each their short messages are the text. -/
def Delivers (compiled : Except CompileError Batch) (text : List UInt8) : Prop :=
  ∃ messages frames parts, compiled = .ok (messages.map .send) ∧
    messages.mapM Pdu.encode = .ok frames ∧ frames.mapM Pdu.decode = .ok messages ∧
    List.Forall₂ (fun m bs => m.mandatory.get? .shortMessage = some (.octets bs))
      messages parts ∧
    parts.flatMap (List.drop 6) = text

/-- The number that is written for a number of one octet is that number. -/
theorem hasNumber_toString
    {header : Element} {key : String} {n : UInt8}
    (h : header.attribute? key = some (toString n.toNat)) :
    HasNumber header key n :=
  ⟨_, h, (Text.Numeral.uint8?_eq_some_iff _ n).1 (Text.Numeral.uint8?_toString n)⟩

theorem submitsSegment_segmentElement
    {total index : Nat}
    (ref : UInt8) (s : String)
    (hfirst : 1 ≤ index)
    (hlast : index ≤ total)
    (htotal : total ≤ 255) :
    SubmitsSegment (segmentElement ref total index s) total index s := by
  have htotalNat : (UInt8.ofNat total).toNat = total :=
    UInt8.toNat_ofNat_of_lt' (Nat.lt_succ_of_le htotal)
  have hindexNat : (UInt8.ofNat index).toNat = index :=
    UInt8.toNat_ofNat_of_lt' (Nat.lt_succ_of_le (hlast.trans htotal))
  refine ⟨_, _, ref, UInt8.ofNat total, UInt8.ofNat index,
    ⟨beq_self_eq_true _, rfl, rfl, rfl⟩,
    ⟨⟨_, rfl, hasNumber_toString rfl, hasNumber_toString ?_, hasNumber_toString ?_⟩, ?_, ?_⟩,
    htotalNat, hindexNat, rfl, rfl⟩
  · rw [hindexNat]
    rfl
  · rw [htotalNat]
    rfl
  · rw [UInt8.le_iff_toNat_le, hindexNat]
    exact hfirst
  · rw [UInt8.le_iff_toNat_le, hindexNat, htotalNat]
    exact hlast

/-- **At most 255 segments can be written.** -/
theorem segments_segmentElements
    {total : Nat}
    (ref : UInt8)
    (htotal : total ≤ 255)
    (lines : List String) (index : Nat)
    (hfirst : 1 ≤ index)
    (hlast : index + lines.length = total + 1) :
    Segments total index (segmentElements ref total index lines) lines := by
  induction lines generalizing index with
  | nil =>
      exact .nil index
  | cons s lines ih =>
      rw [List.length_cons] at hlast
      exact .cons (submitsSegment_segmentElement ref s hfirst (by omega) htotal)
        (ih (index + 1) (by omega) (by omega))

/-- The octets of a segment. -/
theorem SubmitsSegment.exists_shortMessage
    {pdu : Element} {total index : Nat} {s : String}
    (h : SubmitsSegment pdu total index s) :
    ∃ e front, Submits pdu e ∧ front.length = 6 ∧
      shortMessage e = .ok (front ++ (Text.Utf8.encode s ++ [10])) := by
  obtain ⟨e, line, ref, t, i, hsubmits, hsegment, -, -, hlines, rfl⟩ := h
  have hspoken : spoken e = Text.Utf8.encode line.text ++ [10] := by
    rw [spoken, hlines]
    exact List.append_nil _
  refine ⟨e, [5, 0, 3, ref, t, i], hsubmits, rfl, ?_⟩
  exact (shortMessage_eq_ok_iff e _).2
    ⟨hsegment.not_spoiled, _, .segment hsegment, by rw [hspoken]⟩

/-- One more element in front adds its octets in front. -/
theorem SubmitsSegment.delivers_cons
    {d : Defaults} {n : UInt32} {pdu : Element} {pdus : List Element} {total index : Nat}
    {s : String}
    {text : List UInt8}
    (h : SubmitsSegment pdu total index s)
    (hsize : (Text.Utf8.encode s).length + 1 + 6 ≤ 254)
    (hrest : Delivers (elements d (n + 1) pdus) text) :
    Delivers (elements d n (pdu :: pdus)) (Text.Utf8.encode s ++ [10] ++ text) := by
  obtain ⟨e, front, hsubmits, hfront, hbs⟩ := h.exists_shortMessage
  obtain ⟨messages, frames, parts, hcompiled, hencode, hdecode, hparts, rfl⟩ := hrest
  generalize htail : Text.Utf8.encode s ++ [10] = tail at hbs ⊢
  have hlength : (front ++ tail).length ≤ 254 := by
    rw [← htail, List.length_append, List.length_append, List.length_singleton]
    omega
  obtain ⟨frame, hframe, hread⟩ := decode_submitting hlength n
  have hmessage := (hsubmits.message_eq_ok_iff d n _).2 ⟨_, hbs, hlength, rfl⟩
  have hnext : nextAfter n pdu = n + 1 := by
    rw [nextAfter, hsubmits.named, hsubmits.child?_eq_none (by decide)]
    rfl
  refine ⟨submitting n (front ++ tail) :: messages, frame :: frames,
    (front ++ tail) :: parts, ?_,
    mapM_cons_ok hframe hencode, mapM_cons_ok hread hdecode, .cons ?_ hparts, ?_⟩
  · rw [elements_cons, element_of_isNamed hsubmits.named, hmessage, hnext, hcompiled]
    rfl
  · rw [submitting, FieldMap.get?_insert, if_pos rfl]
  · rw [List.flatMap_cons, ← hfront, List.drop_left]

/-- **Segments are joined by leaving out what stands in front of them.** -/
theorem Segments.delivers
    {total index : Nat} {pdus : List Element} {lines : List String}
    (h : Segments total index pdus lines)
    (hsize : ∀ s ∈ lines, (Text.Utf8.encode s).length + 1 + 6 ≤ 254)
    (d : Defaults) (n : UInt32) :
    Delivers (elements d n pdus) (lines.flatMap fun s => Text.Utf8.encode s ++ [10]) := by
  induction h generalizing n with
  | nil index =>
      exact ⟨[], [], [], rfl, rfl, rfl, .nil, rfl⟩
  | cons h hrest ih =>
      obtain ⟨hs, hlines⟩ := List.forall_mem_cons.1 hsize
      exact h.delivers_cons hs (ih hlines (n + 1))

/-! ### The laws -/

/-- What becomes of short messages and of their segments. -/
structure SegmentLaws (d : Defaults) : Prop where
  /-- The octets of an element: what stands in front, and the text. -/
  octets : ∀ e bs, shortMessage e = .ok bs ↔
    ¬Spoiled e ∧ ∃ front, Heads e front ∧ bs = front ++ spoken e
  /-- They are those of its message, if no later child has its name. -/
  field : ∀ next pdu m e, message d next pdu = .ok m →
    (pdu.childrenNamed "ShortMessage").getLast? = some e →
      ∃ front, Heads e front ∧
        m.mandatory.get? .shortMessage = some (.octets (front ++ spoken e))
  /-- A number that is none of one octet is a fault, whatever else is there. -/
  spoiled : ∀ root pdu e, pdu ∈ root.children → pdu.isNamed "PDU" → e ∈ pdu.children →
    e.name = "ShortMessage" → Spoiled e → ∃ fault, compile d root = .error fault
  /-- Alone a short message is compiled if it has at most 254 octets. -/
  limit : ∀ root pdu e front, root.children = [pdu] → Submits pdu e → Heads e front → ∀ batch,
    compile d root = .ok batch ↔
      ¬Spoiled e ∧ front.length + (spoken e).length ≤ 254 ∧
        batch = [.send (submitting 1 (front ++ spoken e))]
  /-- Up to 255 lines can be written as segments. -/
  written : ∀ ref : UInt8, ∀ lines : List String, lines.length ≤ 255 →
    Segments lines.length 1 (segmentElements ref lines.length 1 lines) lines
  /-- In whatever way the segments are written, the peer gets their lines back, each with
  its line feed, if no line has more than 247 octets. -/
  joined : ∀ root lines, Segments lines.length 1 root.children lines →
    (∀ s ∈ lines, (Text.Utf8.encode s).length + 1 + 6 ≤ 254) →
      Delivers (compile d root) (Text.Utf8.encode (String.join (lines.map (· ++ "\n"))))

/-- **Short messages and segments.** -/
theorem segmentLaws (d : Defaults) :
    SegmentLaws d where
  octets := shortMessage_eq_ok_iff
  field := fun next pdu m e => shortMessage_of_message
  spoiled := fun root pdu e => compile_of_spoiled
  limit := fun root pdu e front hroot hsubmits hheads =>
    hsubmits.compile_eq_ok_iff hroot hheads d
  written := fun ref lines hcount =>
    segments_segmentElements ref hcount lines 1 (Nat.le_refl 1) (Nat.add_comm 1 _)
  joined := by
    intro root lines h hsize
    rw [Text.Utf8.encode_lines]
    exact h.delivers hsize d 1

/-- A position behind the last segment makes no segment, and it is no fault. -/
example :
    shortMessage (.mk "ShortMessage" [] "" [
        .mk "UserDataHeader" [("ref", "7"), ("index", "2"), ("total", "2")] "" [],
        .mk "line" [] "part" []]) = .ok ([5, 0, 3, 7, 2, 2] ++ Text.Utf8.encode "part\n") ∧
      shortMessage (.mk "ShortMessage" [] "" [
        .mk "UserDataHeader" [("ref", "7"), ("index", "3"), ("total", "2")] "" [],
        .mk "line" [] "part" []]) = .ok (Text.Utf8.encode "part\n") := by
  decide +kernel

end Batch
end SmppReplay
