import SmppReplay.Proofs.Batch.FieldSources

/-!
# What destinations take over

**Question.** A destination without a type of number, or without a numbering plan, of its
own takes that of its message.  Is it the one that the message shows in its source address?

**Method.** Both are read from the same children, which have two names, but not in the same
way.  The field has the number of the last child under either name (`carried?`), as every
field has; the destinations get that of the first child under the first name, and only
without one that of the first child under the second (`handed?`).

**Answer.** If the two numbers are the same, in particular if there is at most one such
child; otherwise only if no destination depends on it.

Main fact:
* `inheritance_of_message`: the number of the message, those of the destinations, and when
  they agree.
-/

namespace SmppReplay
namespace Batch

open Script (Element)

/-- The two numbers that stand with an address. -/
inductive AddressPart where
  | ton
  | npi
  deriving DecidableEq, Repr

namespace AddressPart

/-- The name of the element with the number of a destination, and with that of all
destinations. -/
def own : AddressPart → String
  | ton => "DestAddrTON"
  | npi => "DestAddrNPI"

/-- The field of the source address. -/
def source : AddressPart → FieldSpec
  | ton => FieldTable.sourceAddrTon
  | npi => FieldTable.sourceAddrNpi

/-- The number of a destination. -/
def of? : AddressPart → Destination → Option UInt8
  | ton, .address n _ _ => some n
  | npi, .address _ n _ => some n
  | _, .distributionList _ => none

end AddressPart

/-- The number in an element if there is one, else the default; nothing if the element holds
no number. -/
def numberOf? (default : UInt8) : Option Element → Option UInt8
  | some c => Text.Numeral.uint8? c.trimmedText
  | none => some default

/-- The number that the message has in its source address. -/
def carried? (part : AddressPart) (pdu : Element) : Option UInt8 :=
  numberOf? 0 (childrenOf part.source pdu.children).getLast?

/-- The number that destinations get by default. -/
def handed? (part : AddressPart) (pdu : Element) : Option UInt8 :=
  numberOf? 0 (part.source.elements.findSome? pdu.child?)

/-- The element whose destinations a message has: the last list. -/
def listOf? (pdu : Element) : Option Element :=
  (pdu.childrenNamed "DestinationAddresses").getLast?

/-- Every destination without a number of its own has the one of the message's source
address. -/
def Inherits (part : AddressPart) (pdu : Element) (m : Message) : Prop :=
  ∃ n list ds, m.mandatory.get? part.source.id = some (.u8 n) ∧ listOf? pdu = some list ∧
    m.mandatory.get? .destAddresses = some (.destinations ds) ∧
    List.Forall₂ (fun e dest => e.child? part.own = none → part.of? dest = some n)
      (list.childrenNamed "Destination") ds

/-! ### Numbers -/

theorem numberOr_eq_ok
    {α : Type} {field raw : String} {n? : Option α} {n : α}
    (h : numberOr field raw n? = .ok n) :
    n? = some n := by
  cases n? with
  | none =>
      cases h
  | some k =>
      exact congrArg some (Except.ok.inj h)

theorem numberIn_eq_ok
    {e : Element} {name : String} {default n : UInt8}
    (h : numberIn e name default = .ok n) :
    numberOf? default (e.child? name) = some n := by
  unfold numberIn at h
  cases hchild : e.child? name with
  | none =>
      rw [hchild] at h
      exact congrArg some (Except.ok.inj h)
  | some c =>
      rw [hchild] at h
      exact numberOr_eq_ok h

/-- A name that no child has is passed over. -/
theorem inheritedNumber_of_none
    {pdu : Element} {name : String}
    (h : pdu.child? name = none)
    (names : List String) :
    inheritedNumber pdu (name :: names) = inheritedNumber pdu names := by
  rw [inheritedNumber, h]

/-- The names are tried in their order. -/
theorem inheritedNumber_eq_ok
    {pdu : Element} {names : List String} {n : UInt8}
    (h : inheritedNumber pdu names = .ok n) :
    numberOf? 0 (names.findSome? pdu.child?) = some n := by
  induction names with
  | nil =>
      exact congrArg some (Except.ok.inj h)
  | cons name names ih =>
      unfold inheritedNumber at h
      rw [List.findSome?_cons]
      cases hchild : pdu.child? name with
      | none =>
          rw [hchild] at h
          exact ih h
      | some c =>
          rw [hchild] at h
          exact numberOr_eq_ok h

/-! ### Destinations -/

/-- A destination has its own numbers, or else the default ones. -/
theorem destination_eq_ok
    {ton npi : UInt8} {e : Element} {dest : Destination}
    (h : destination ton npi e = .ok dest) :
    ∃ t n s, dest = .address t n s ∧ numberOf? ton (e.child? "DestAddrTON") = some t ∧
      numberOf? npi (e.child? "DestAddrNPI") = some n := by
  unfold destination at h
  split at h
  · cases h
  · obtain ⟨t, ht, h⟩ := bind_eq_ok h
    obtain ⟨n, hn, h⟩ := bind_eq_ok h
    obtain rfl := Except.ok.inj h
    exact ⟨t, n, _, rfl, numberIn_eq_ok ht, numberIn_eq_ok hn⟩

/-- The destinations of a list when the message has no number for them. -/
theorem destinations_eq_ok
    {pdu list : Element} {ds : List Destination} {part : AddressPart}
    (h : destinations pdu list = .ok ds)
    (hown : pdu.child? part.own = none) :
    ∃ n, handed? part pdu = some n ∧
      List.Forall₂ (fun e dest => ∃ k, part.of? dest = some k ∧
        numberOf? n (e.child? part.own) = some k) (list.childrenNamed "Destination") ds := by
  obtain ⟨ton, hton, h⟩ := bind_eq_ok h
  obtain ⟨npi, hnpi, h⟩ := bind_eq_ok h
  obtain ⟨ds', hds, h⟩ := bind_eq_ok h
  have hds' : ds' = ds := by
    split at h
    · cases h
    · exact Except.ok.inj h
  subst hds'
  have hall := forall₂_of_mapM hds
  cases part with
  | ton =>
      refine ⟨ton, inheritedNumber_eq_ok ((inheritedNumber_of_none hown _).symm.trans hton),
        hall.imp fun e dest hdest => ?_⟩
      obtain ⟨t, n, s, rfl, ht, -⟩ := destination_eq_ok hdest
      exact ⟨t, rfl, ht⟩
  | npi =>
      refine ⟨npi, inheritedNumber_eq_ok ((inheritedNumber_of_none hown _).symm.trans hnpi),
        hall.imp fun e dest hdest => ?_⟩
      obtain ⟨t, n, s, rfl, -, hn⟩ := destination_eq_ok hdest
      exact ⟨n, rfl, hn⟩

/-! ### The message -/

/-- A message is made by its children from one with the defaults of its type, and it has
what is required. -/
theorem Made.sourced
    {d : Defaults} {next : UInt32} {pdu : Element} {m : Message}
    (h : Made d next pdu m) :
    messageType pdu = .ok m.type ∧ checkRequired m.type pdu = .ok () ∧
      ∃ first, Sourced pdu first pdu.children m ∧
        ∀ f ∈ m.layout.mandatory, first.mandatory.get? f.id =
          some (defaultValue d m.type f) := by
  obtain ⟨htype, -, -, rfl, haccount, hchildren, hrequired, -⟩ := h
  obtain ⟨⟨fields, rfl⟩, hdefaults⟩ := get?_opened haccount rfl rfl
  have hsourced := Sourced.of_foldlM hchildren
  obtain ⟨hm, -, -⟩ := hsourced.rest
  rw [Message.layout, hm]
  exact ⟨htype, hrequired, _, hsourced, hdefaults⟩

/-- A mandatory field has the value of its last child, else its default. -/
theorem Made.mandatory
    {d : Defaults} {next : UInt32} {pdu : Element} {m : Message} {f : FieldSpec}
    (h : Made d next pdu m)
    (hf : f ∈ m.layout.mandatory) :
    (∃ child v, (childrenOf f pdu.children).getLast? = some child ∧
        mandatoryValue f pdu child = .ok v ∧ m.mandatory.get? f.id = some v) ∨
      (childrenOf f pdu.children).getLast? = none ∧
        m.mandatory.get? f.id = some (defaultValue d m.type f) := by
  obtain ⟨-, -, first, hsourced, hdefaults⟩ := h.sourced
  rcases hsourced.mandatory f hf with ⟨hnone, hget⟩ | hchild
  · exact .inr ⟨hnone, hget.trans (hdefaults f hf)⟩
  · exact .inl hchild

/-- A field that a script must give has a child. -/
theorem exists_of_checkRequired
    {type : MessageType} {pdu : Element} {f : FieldSpec}
    (h : checkRequired type pdu = .ok ())
    (hf : f ∈ type.layout.mandatory)
    (hrequired : f.required) :
    childrenOf f pdu.children ≠ [] := by
  unfold checkRequired at h
  split at h
  · cases h
  · rename_i hfind
    have hall := List.find?_eq_none.1 hfind f hf
    rw [hrequired, Bool.true_and, Bool.not_eq_true', Bool.not_eq_false] at hall
    obtain ⟨c, hc, haccepts⟩ := List.any_eq_true.1 hall
    exact List.ne_nil_of_mem (List.mem_filter.2 ⟨hc, haccepts⟩)

theorem Made.required
    {d : Defaults} {next : UInt32} {pdu : Element} {m : Message} {f : FieldSpec}
    (h : Made d next pdu m)
    (hf : f ∈ m.layout.mandatory)
    (hrequired : f.required) :
    childrenOf f pdu.children ≠ [] :=
  exists_of_checkRequired h.sourced.2.1 hf hrequired

theorem mem_layout_of_type
    {m : Message} (part : AddressPart)
    (htype : m.type = .submitMulti) :
    part.source ∈ m.layout.mandatory ∧ FieldTable.destAddresses ∈ m.layout.mandatory := by
  rw [Message.layout, htype]
  cases part <;> decide

/-- The field of the source address has the number of the last child for it, or zero. -/
theorem Made.carried
    {d : Defaults} {next : UInt32} {pdu : Element} {m : Message}
    (h : Made d next pdu m)
    (htype : m.type = .submitMulti)
    (part : AddressPart) :
    ∃ n, carried? part pdu = some n ∧ m.mandatory.get? part.source.id = some (.u8 n) := by
  unfold carried?
  rcases h.mandatory (mem_layout_of_type part htype).1 with
    ⟨child, v, hlast, hv, hget⟩ | ⟨hnone, hget⟩
  · rw [hlast]
    have hkind : part.source.kind = .integer 0 := by
      cases part <;> rfl
    unfold mandatoryValue at hv
    rw [hkind] at hv
    obtain ⟨n, hn, rfl⟩ := map_eq_ok hv
    exact ⟨n, numberOr_eq_ok hn, hget⟩
  · rw [hnone]
    refine ⟨0, rfl, hget.trans ?_⟩
    rw [defaultValue, htype]
    cases part <;> rfl

/-- A message has the destinations of its last list, and it has one. -/
theorem Made.listed
    {d : Defaults} {next : UInt32} {pdu : Element} {m : Message}
    (h : Made d next pdu m)
    (htype : m.type = .submitMulti) :
    ∃ list ds, listOf? pdu = some list ∧ destinations pdu list = .ok ds ∧
      m.mandatory.get? .destAddresses = some (.destinations ds) := by
  have hmem := (mem_layout_of_type .ton htype).2
  have hchildren : childrenOf FieldTable.destAddresses pdu.children =
      pdu.childrenNamed "DestinationAddresses" :=
    childrenOf_eq_childrenNamed rfl pdu
  unfold listOf?
  rw [← hchildren]
  rcases h.mandatory hmem with ⟨child, v, hlast, hv, hget⟩ | ⟨hnone, -⟩
  · obtain ⟨ds, hds, rfl⟩ := map_eq_ok hv
    exact ⟨child, ds, hlast, hds, hget⟩
  · exact absurd (List.getLast?_eq_none_iff.1 hnone) (h.required hmem rfl)

/-! ### Agreement -/

section Agreement

variable {part : AddressPart} {pdu : Element}

/-- Both ways lead to a child under one of the names, or to none. -/
theorem exists_of_findSome?
    {c : Element}
    (h : part.source.elements.findSome? pdu.child? = some c) :
    c ∈ childrenOf part.source pdu.children := by
  obtain ⟨name, hname, hchild⟩ := List.exists_of_findSome?_eq_some h
  have hc : c.name = name := by
    simpa using List.find?_some hchild
  exact List.mem_filter.2 ⟨List.mem_of_find?_eq_some hchild,
    List.contains_iff_mem.2 (hc ▸ hname)⟩

theorem childrenOf_eq_nil_of_findSome?
    (h : part.source.elements.findSome? pdu.child? = none) :
    childrenOf part.source pdu.children = [] := by
  refine List.filter_eq_nil_iff.2 fun c hc haccepts => ?_
  have hnone := List.findSome?_eq_none_iff.1 h c.name (List.contains_iff_mem.1 haccepts)
  exact List.find?_eq_none.1 hnone c hc (beq_self_eq_true c.name)

/-- With at most one child for it, a number can be read in one way only. -/
theorem carried?_eq_handed?
    (h : (childrenOf part.source pdu.children).length ≤ 1) :
    carried? part pdu = handed? part pdu := by
  unfold carried? handed?
  cases hfind : part.source.elements.findSome? pdu.child? with
  | none =>
      rw [childrenOf_eq_nil_of_findSome? hfind]
      rfl
  | some c =>
      have hc := exists_of_findSome? hfind
      obtain ⟨c', hc'⟩ := List.length_eq_one_iff.1
        (Nat.le_antisymm h (List.length_pos_of_mem hc))
      rw [hc'] at hc ⊢
      obtain rfl := List.mem_singleton.1 hc
      rfl

/-- Where destinations have their own numbers or else one number by default, those without
their own have a given number if it is that one, or if there are none of them. -/
theorem forall₂_inherits_iff
    {es : List Element} {ds : List Destination} {n k : UInt8}
    (h : List.Forall₂ (fun e dest => ∃ j, part.of? dest = some j ∧
      numberOf? k (e.child? part.own) = some j) es ds) :
    List.Forall₂ (fun e dest => e.child? part.own = none → part.of? dest = some n) es ds ↔
      n = k ∨ ∀ e ∈ es, e.child? part.own ≠ none := by
  induction h with
  | nil =>
      simp
  | @cons e dest es ds hdest _ ih =>
      obtain ⟨j, hj, hnumber⟩ := hdest
      have hhead : (e.child? part.own = none → part.of? dest = some n) ↔
          n = k ∨ e.child? part.own ≠ none := by
        rw [hj]
        cases hchild : e.child? part.own with
        | none =>
            rw [hchild] at hnumber
            obtain rfl := Option.some.inj hnumber
            simp [eq_comm]
        | some c =>
            simp
      rw [List.forall₂_cons, ih, hhead, List.forall_mem_cons, or_and_left]

end Agreement

/-- What the message of an element and its destinations have of the source address. -/
structure Inheritance (part : AddressPart) (pdu : Element) (m : Message) : Prop where
  /-- The message has the number of the last child for it, or zero. -/
  message : ∃ n, carried? part pdu = some n ∧ m.mandatory.get? part.source.id = some (.u8 n)
  /-- Each destination has a number of its own, or else that of the first child in the order
  of the names, or zero. -/
  destinations : ∃ n list ds, handed? part pdu = some n ∧ listOf? pdu = some list ∧
    m.mandatory.get? .destAddresses = some (.destinations ds) ∧
    List.Forall₂ (fun e dest => ∃ k, part.of? dest = some k ∧
      numberOf? n (e.child? part.own) = some k) (list.childrenNamed "Destination") ds
  /-- These are the same for every destination if they are the same number, or if no
  destination needs one. -/
  agreement : Inherits part pdu m ↔ carried? part pdu = handed? part pdu ∨
    ∀ list, listOf? pdu = some list →
      ∀ e ∈ list.childrenNamed "Destination", e.child? part.own ≠ none
  single : (childrenOf part.source pdu.children).length ≤ 1 → Inherits part pdu m

/-- **What destinations take over.** -/
theorem inheritance_of_message
    (part : AddressPart) (d : Defaults) (next : UInt32) (pdu : Element) (m : Message)
    (h : message d next pdu = .ok m)
    (htype : m.type = .submitMulti)
    (hown : pdu.child? part.own = none) :
    Inheritance part pdu m := by
  have hmade := made_of_message h
  obtain ⟨n, hn, hfield⟩ := hmade.carried htype part
  obtain ⟨list, ds, hlist, hds, hget⟩ := hmade.listed htype
  obtain ⟨k, hk, hall⟩ := destinations_eq_ok hds hown
  have hagreement : Inherits part pdu m ↔ carried? part pdu = handed? part pdu ∨
      ∀ list, listOf? pdu = some list →
        ∀ e ∈ list.childrenNamed "Destination", e.child? part.own ≠ none := by
    have hsame : carried? part pdu = handed? part pdu ↔ n = k := by
      rw [hn, hk, Option.some.injEq]
    rw [hsame, hlist]
    constructor
    · rintro ⟨n', list', ds', hfield', hlist', hget', hinherits⟩
      obtain rfl := Option.some.inj (hlist.symm.trans hlist')
      obtain rfl := FieldValue.destinations.inj (Option.some.inj (hget.symm.trans hget'))
      obtain rfl := FieldValue.u8.inj (Option.some.inj (hfield.symm.trans hfield'))
      rcases (forall₂_inherits_iff hall).1 hinherits with hnk | hown
      · exact .inl hnk
      · refine .inr ?_
        rintro _ ⟨⟩
        exact hown
    · intro hcases
      exact ⟨n, list, ds, hfield, hlist, hget,
        (forall₂_inherits_iff hall).2 (hcases.imp_right fun hown => hown list rfl)⟩
  exact ⟨⟨n, hn, hfield⟩, ⟨k, list, ds, hk, hlist, hget, hall⟩, hagreement,
    fun hsingle => hagreement.2 (.inl (carried?_eq_handed? hsingle))⟩

/-- A message to one destination without a type of number, which gives some of its own. -/
def toOne (fields : List Element) : Element :=
  .mk "PDU" [("type", "SUBMIT_MULTI")] "" (fields ++ [
    .mk "DestinationAddresses" [] "" [.mk "Destination" [] "" [.mk "DestAddr" [] "111" []]]])

/-- What becomes of such a message: its own type of number, and that of the destination. -/
def fromOne (carried handed : UInt8) : Message :=
  Message.build .submitMulti [.sequence 1, .setMandatory .sourceAddrTon (.u8 carried),
    .setMandatory .destAddresses (.destinations [.address handed 0 "111"])]

/-- The later child counts for both, as it has the name that is tried first. -/
theorem inherits_of_later_first_name :
    message {} 1 (toOne [.mk "AddrTON" [] "2" [], .mk "SourceAddrTON" [] "5" []]) =
      .ok (fromOne 5 5) ∧
      Inherits .ton (toOne [.mk "AddrTON" [] "2" [], .mk "SourceAddrTON" [] "5" []])
        (fromOne 5 5) := by
  have hmessage : message {} 1 (toOne [.mk "AddrTON" [] "2" [],
    .mk "SourceAddrTON" [] "5" []]) =
      .ok (fromOne 5 5) := by
    decide +kernel
  have h := inheritance_of_message .ton {} 1 _ _ hmessage rfl rfl
  exact ⟨hmessage, h.agreement.2 (.inl (by decide))⟩

/-- The same children the other way round: the message has the number of the one, its
destination that of the other. -/
theorem divided_source :
    message {} 1 (toOne [.mk "SourceAddrTON" [] "5" [], .mk "AddrTON" [] "2" []]) =
      .ok (fromOne 2 5) ∧
      (fromOne 2 5).type = .submitMulti ∧
      (toOne [.mk "SourceAddrTON" [] "5" [], .mk "AddrTON" [] "2" []]).child? "DestAddrTON" =
        none ∧
      ¬ Inherits .ton (toOne [.mk "SourceAddrTON" [] "5" [], .mk "AddrTON" [] "2" []])
        (fromOne 2 5) := by
  refine ⟨by decide +kernel, rfl, rfl, ?_⟩
  rintro ⟨n, list, ds, hfield, hlist, hds, hall⟩
  obtain rfl : n = 2 := (FieldValue.u8.inj (Option.some.inj hfield)).symm
  obtain rfl : ds = [.address 5 0 "111"] :=
    (FieldValue.destinations.inj (Option.some.inj hds)).symm
  obtain rfl := Option.some.inj hlist
  cases hall with
  | cons hdest _ =>
      cases hdest rfl

end Batch
end SmppReplay
