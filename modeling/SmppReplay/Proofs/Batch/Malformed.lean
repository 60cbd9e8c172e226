import SmppReplay.Proofs.Batch.Composition
import SmppReplay.Proofs.Batch.Inheritance

/-!
# Numbers that cannot be read

**Question.** A child of a message is to hold a number: its sequence number, its status, an
integer field, the default number of its destinations.  Does a text that is no such number
always keep the script from being compiled?

**Method.** `HoldsNumber` lists those children with their bounds.  Fields are read from
every child, so that none escapes (`Used`).  The others are looked up by name, which finds
the first child of that name; what stands behind it under the same name is not read at all,
and the message is the same without it (`message_eq_without`).

**Answer.**  Yes, unless the child repeats the name of an earlier one and is not of a field.

Main fact:
* `malformed_fatal_unless_repeated`: fatal, or without any effect.
-/

namespace SmppReplay

/-! ### Numbers -/

namespace Text.Numeral

/-- The text is no number below the bound. -/
def NoneBelow (bound : Nat) (s : String) : Prop :=
  ∀ n, integer? s = some n → bound ≤ n.toNat

theorem integerBelow?_eq_none
    {bound : Nat} {s : String}
    (h : NoneBelow bound s) :
    integerBelow? bound s = none := by
  unfold integerBelow?
  rw [Option.filter_eq_none_iff]
  intro k hk
  obtain ⟨n, hn, rfl⟩ := Option.map_eq_some_iff.1 hk
  have hbound := h n hn
  simpa using hbound

end Text.Numeral

namespace Batch

open Script (Element)
open Text.Numeral (NoneBelow integerBelow?_eq_none)

/-- A number with a bound is not read from a text that holds none below it. -/
theorem numberOr_ne_ok
    {α : Type} {bound : Nat} {field s : String}
    (h : NoneBelow bound s)
    (ofNat : Nat → α) (a : α) :
    numberOr field s ((Text.Numeral.integerBelow? bound s).map ofNat) ≠ .ok a := by
  rw [integerBelow?_eq_none h]
  intro hok
  cases hok

theorem readStatus_ne_ok
    {s : String}
    (h : NoneBelow UInt32.size s)
    (hname : StatusCode.ofName? s = none)
    (n : UInt32) :
    readStatus s ≠ .ok n := by
  rw [readStatus, Text.Numeral.uint32?, integerBelow?_eq_none h, hname]
  intro hok
  cases hok

/-! ### Children with numbers -/

/-- The bound of the numbers of an optional field, if it holds one. -/
def bound? : TlvKind → Option Nat
  | .u8 => some UInt8.size
  | .u16 | .networkError => some UInt16.size
  | .u32 => some UInt32.size
  | .text | .octets | .flag => none

/-- Under this name a child of the message holds a number below the bound. -/
inductive HoldsNumber (pdu : Element) : String → Nat → Prop
  | sequence :
      HoldsNumber pdu "SequenceNumber" UInt32.size
  | status :
      HoldsNumber pdu "CommandStatus" UInt32.size
  | mandatory {type : MessageType} {f : FieldSpec} {default : UInt8} {name : String}
      (htype : messageType pdu = .ok type) (hf : f ∈ type.layout.mandatory)
      (hkind : f.kind = .integer default) (hname : f.accepts name) :
      HoldsNumber pdu name UInt8.size
  | optional {type : MessageType} {t : TlvSpec} {bound : Nat}
      (htype : messageType pdu = .ok type) (ht : t ∈ type.layout.optional)
      (hbound : bound? t.kind = some bound) :
      HoldsNumber pdu t.element bound
  | destinations (htype : messageType pdu = .ok .submitMulti) (part : AddressPart) :
      HoldsNumber pdu part.own UInt8.size

/-- The child is to hold a number and does not, nor the name of a status in its place. -/
def Malformed (pdu c : Element) : Prop :=
  ∃ bound, HoldsNumber pdu c.name bound ∧ NoneBelow bound c.trimmedText ∧
    (c.name = "CommandStatus" → StatusCode.ofName? c.trimmedText = none)

/-- The child is not of a field, and an earlier one has its name. -/
def Repeats (pdu : Element) (front : List Element) (c : Element) : Prop :=
  (∃ earlier ∈ front, earlier.name = c.name) ∧
    (c.name = "SequenceNumber" ∨ c.name = "CommandStatus" ∨
      messageType pdu = .ok .submitMulti ∧ ∃ part : AddressPart, c.name = part.own)

/-! ### What is read -/

section Read

variable {pdu c : Element} {front back : List Element}

/-- A child is found by its name unless an earlier one has the same. -/
theorem child?_cases
    (hchildren : pdu.children = front ++ c :: back) :
    pdu.child? c.name = some c ∨ ∃ earlier ∈ front, earlier.name = c.name := by
  unfold Element.child?
  rw [hchildren, List.find?_append]
  cases hfind : front.find? fun e => e.name == c.name with
  | none =>
      left
      simp
  | some earlier =>
      right
      exact ⟨earlier, List.mem_of_find?_eq_some hfind, by simpa using List.find?_some hfind⟩

/-- The child of an integer field was read as a number. -/
theorem Used.not_mandatory
    {type : MessageType} {f : FieldSpec} {default : UInt8}
    (h : Used pdu type c)
    (hf : f ∈ type.layout.mandatory)
    (hkind : f.kind = .integer default)
    (hname : f.accepts c.name) :
    ¬ NoneBelow UInt8.size c.trimmedText := by
  intro hnone
  cases h with
  | aside haside =>
      exact notMem_asideNames_of_accepts hf hname haside
  | @mandatory g v hg hname' hv =>
      obtain rfl := eq_of_accepts hf hg hname hname'
      unfold mandatoryValue at hv
      rw [hkind] at hv
      obtain ⟨n, hn, -⟩ := map_eq_ok hv
      exact numberOr_ne_ok hnone _ n hn
  | optional ht hname' =>
      rw [hname', accepts_element_eq_false hf ht] at hname
      cases hname

/-- The child of an optional field with a number was read as a number. -/
theorem Used.not_optional
    {type : MessageType} {t : TlvSpec} {bound : Nat}
    (h : Used pdu type c)
    (ht : t ∈ type.layout.optional)
    (hbound : bound? t.kind = some bound)
    (hname : c.name = t.element) :
    ¬ NoneBelow bound c.trimmedText := by
  intro hnone
  obtain ⟨v?, hv⟩ := h.exists_optionalValue ht hname
  unfold optionalValue at hv
  generalize t.kind = kind at hbound hv
  cases kind with
  | u8 =>
      obtain rfl := Option.some.inj hbound
      obtain ⟨n, hn, -⟩ := map_eq_ok hv
      exact numberOr_ne_ok hnone _ n hn
  | u16 =>
      obtain rfl := Option.some.inj hbound
      obtain ⟨n, hn, -⟩ := map_eq_ok hv
      exact numberOr_ne_ok hnone _ n hn
  | u32 =>
      obtain rfl := Option.some.inj hbound
      obtain ⟨n, hn, -⟩ := map_eq_ok hv
      exact numberOr_ne_ok hnone _ n hn
  | networkError =>
      obtain rfl := Option.some.inj hbound
      simp only at hv
      split at hv <;>
        · obtain ⟨networkType, -, hv⟩ := bind_eq_ok hv
          obtain ⟨n, hn, -⟩ := bind_eq_ok hv
          exact numberOr_ne_ok hnone _ n hn
  | text | octets | flag =>
      cases hbound

/-- Every child of a message was of use. -/
theorem Made.used
    {d : Defaults} {next : UInt32} {m : Message} {type : MessageType}
    (h : Made d next pdu m)
    (htype : messageType pdu = .ok type)
    (hc : c ∈ pdu.children) :
    m.type = type ∧ Used pdu type c := by
  obtain ⟨htype', -, first, hsourced, -⟩ := h.sourced
  obtain rfl := Except.ok.inj (htype.symm.trans htype')
  exact ⟨rfl, hsourced.used c hc⟩

/-- The default number of all destinations was read as a number. -/
theorem destinations_ne_ok
    {list : Element} {part : AddressPart} {ds : List Destination}
    (hchild : pdu.child? part.own = some c)
    (hnone : NoneBelow UInt8.size c.trimmedText) :
    destinations pdu list ≠ .ok ds := by
  intro h
  obtain ⟨ton, hton, h⟩ := bind_eq_ok h
  obtain ⟨npi, hnpi, -⟩ := bind_eq_ok h
  cases part with
  | ton =>
      rw [inheritedNumber, show pdu.child? "DestAddrTON" = some c from hchild] at hton
      exact numberOr_ne_ok hnone _ ton hton
  | npi =>
      rw [inheritedNumber, show pdu.child? "DestAddrNPI" = some c from hchild] at hnpi
      exact numberOr_ne_ok hnone _ npi hnpi

/-- A message with a number that cannot be read has it in a child that repeats the name of
an earlier one. -/
theorem repeats_of_message
    {d : Defaults} {next : UInt32} {m : Message}
    (h : message d next pdu = .ok m)
    (hchildren : pdu.children = front ++ c :: back)
    (hbad : Malformed pdu c) :
    Repeats pdu front c := by
  have hmade := made_of_message h
  have hfirst := child?_cases hchildren
  have hc : c ∈ pdu.children := by
    rw [hchildren]
    simp
  obtain ⟨bound, hholds, hnone, hstatus⟩ := hbad
  generalize hname : c.name = name at hholds
  cases hholds with
  | sequence =>
      refine ⟨hfirst.resolve_left fun hchild => ?_, .inl hname⟩
      obtain ⟨-, hsequence, -⟩ := hmade
      rw [hname] at hchild
      rw [explicitSequence, sequenceName, hchild] at hsequence
      obtain ⟨n, hn, -⟩ := map_eq_ok hsequence
      exact numberOr_ne_ok hnone _ n hn
  | status =>
      refine ⟨hfirst.resolve_left fun hchild => ?_, .inr (.inl hname)⟩
      obtain ⟨-, -, hgiven, -⟩ := hmade
      rw [hname] at hchild
      rw [givenStatus, statusName, hchild] at hgiven
      exact readStatus_ne_ok hnone (hstatus hname) _ hgiven
  | mandatory htype hf hkind haccepts =>
      -- Fields are read from each of their children, so that repetition does not matter here.
      exact absurd hnone ((hmade.used htype hc).2.not_mandatory hf hkind (hname ▸ haccepts))
  | optional htype ht hbound =>
      exact absurd hnone ((hmade.used htype hc).2.not_optional ht hbound hname)
  | destinations htype part =>
      refine ⟨hfirst.resolve_left fun hchild => ?_, .inr (.inr ⟨htype, part, hname⟩)⟩
      -- The numbers for all destinations are read with the list, which every such message
      -- has.
      obtain ⟨list, ds, -, hds, -⟩ := hmade.listed (hmade.used htype hc).1
      rw [hname] at hchild
      exact destinations_ne_ok hchild hnone hds

end Read

/-! ### What is not read -/

section Unread

variable {pdu pdu' c : Element} {front back : List Element}

/-- What repeats a name is not found by it. -/
theorem child?_holding
    (hchildren : pdu.children = front ++ c :: back)
    (hearlier : ∃ earlier ∈ front, earlier.name = c.name)
    (name : String) :
    (holding pdu (front ++ back)).child? name = pdu.child? name := by
  change (front ++ back).find? _ = pdu.children.find? _
  rw [hchildren, List.find?_append, List.find?_append]
  cases hfind : front.find? fun e => e.name == name with
  | some earlier =>
      rfl
  | none =>
      have hne : ¬ (c.name == name) = true := by
        intro hc
        obtain ⟨earlier, hmem, hname⟩ := hearlier
        exact List.find?_eq_none.1 hfind earlier hmem (hname ▸ hc)
      have hskip : (c :: back).find? (fun e => e.name == name) =
          back.find? fun e => e.name == name :=
        List.find?_cons_of_neg hne
      rw [hskip]

theorem inheritedNumber_congr
    {names : List String}
    (h : ∀ name ∈ names, pdu.child? name = pdu'.child? name) :
    inheritedNumber pdu names = inheritedNumber pdu' names := by
  induction names with
  | nil =>
      rfl
  | cons name names ih =>
      obtain ⟨hname, hnames⟩ := List.forall_mem_cons.1 h
      rw [inheritedNumber, inheritedNumber, hname, ih hnames]

/-- Of the whole element a field reads only what is found by name, and not by that of the
status. -/
theorem applyChild_congr
    (h : ∀ name ≠ statusName, pdu.child? name = pdu'.child? name) :
    applyChild pdu = applyChild pdu' := by
  have hinherited : ∀ names : List String, statusName ∉ names →
      inheritedNumber pdu names = inheritedNumber pdu' names :=
    fun names hnames => inheritedNumber_congr fun name hname =>
      h name (ne_of_mem_of_not_mem hname hnames)
  have hton := hinherited ["DestAddrTON", "SourceAddrTON", "AddrTON"] (by decide)
  have hnpi := hinherited ["DestAddrNPI", "SourceAddrNPI", "AddrNPI"] (by decide)
  have hvalue : ∀ f child, mandatoryValue f pdu child = mandatoryValue f pdu' child := by
    intro f child
    simp only [mandatoryValue, destinations, hton, hnpi]
  funext m child
  simp only [applyChild, hvalue]

/-- Whether a required field is missing depends on the children of the mandatory fields. -/
theorem checkRequired_congr
    {type : MessageType}
    (h : ∀ f ∈ type.layout.mandatory,
      pdu.children.any (fun e => f.accepts e.name) =
        pdu'.children.any fun e => f.accepts e.name) :
    checkRequired type pdu = checkRequired type pdu' := by
  have hmissing : type.layout.mandatory.filter (fun f =>
        f.required && !pdu.children.any fun e => f.accepts e.name) =
      type.layout.mandatory.filter fun f =>
        f.required && !pdu'.children.any fun e => f.accepts e.name :=
    List.filter_congr fun f hf => by rw [h f hf]
  rw [checkRequired, checkRequired, ← List.head?_filter, ← List.head?_filter, hmissing]

/-- A required field has another child if one is left out that repeats a name. -/
theorem checkRequired_holding
    (hchildren : pdu.children = front ++ c :: back)
    (hearlier : ∃ earlier ∈ front, earlier.name = c.name)
    (type : MessageType) :
    checkRequired type (holding pdu (front ++ back)) = checkRequired type pdu := by
  refine checkRequired_congr fun f _ => ?_
  change (front ++ back).any _ = pdu.children.any _
  rw [hchildren, List.any_append, List.any_append, List.any_cons]
  cases hc : f.accepts c.name with
  | false =>
      rw [Bool.false_or]
  | true =>
      obtain ⟨earlier, hmem, hname⟩ := hearlier
      have hfront : front.any (fun e => f.accepts e.name) = true :=
        List.any_eq_true.2 ⟨earlier, hmem, hname ▸ hc⟩
      rw [hfront]
      rfl

/-- Without what repeats a name that is not of a field, the children set the same fields. -/
theorem foldlM_applyChild_holding
    {m : Message}
    (hchildren : pdu.children = front ++ c :: back)
    (hearlier : ∃ earlier ∈ front, earlier.name = c.name)
    (haside : c.name ∈ asideNames m.type) :
    (front ++ back).foldlM (applyChild (holding pdu (front ++ back))) m =
      pdu.children.foldlM (applyChild pdu) m := by
  rw [applyChild_congr fun name _ =>
    child?_holding hchildren hearlier name, hchildren, List.foldlM_append, List.foldlM_append]
  cases hfront : front.foldlM (applyChild pdu) m with
  | error fault =>
      rfl
  | ok m₁ =>
      have htype := (Sourced.of_foldlM hfront).rest.1
      have hskip : applyChild pdu m₁ c = .ok m₁ :=
        if_pos ((isAside_iff _ _).2 (htype ▸ haside))
      exact (congrArg (· >>= fun m => back.foldlM (applyChild pdu) m) hskip).symm

theorem type_of_withAccountOf
    {d : Defaults} {type : MessageType} {m m₁ : Message}
    (h : withAccountOf d type m = .ok m₁) :
    m₁.type = m.type := by
  unfold withAccountOf at h
  split_ifs at h
  · obtain ⟨fields, rfl, -⟩ := withAccount_eq_ok h
    rfl
  · obtain rfl := Except.ok.inj h
    rfl

/-- Elements whose children set the same fields complete a header to the same message. -/
theorem completed_congr
    {type : MessageType} {m : Message}
    (hfields : ∀ m₁ : Message, m₁.type = m.type →
      pdu.children.foldlM (applyChild pdu) m₁ = pdu'.children.foldlM (applyChild pdu') m₁)
    (hrequired : checkRequired type pdu = checkRequired type pdu')
    (d : Defaults) :
    completed d pdu type m = completed d pdu' type m := by
  unfold completed
  rw [hrequired]
  cases haccount : withAccountOf d type m with
  | error fault =>
      rfl
  | ok m₁ =>
      change (pdu.children.foldlM (applyChild pdu) m₁ >>= fun m =>
        checkRequired type pdu' >>= fun _ => (fun _ => m) <$> ofPdu (Pdu.encode m)) = _
      rw [hfields m₁ (type_of_withAccountOf haccount)]
      rfl

theorem header_holding
    (hchildren : pdu.children = front ++ c :: back)
    (hearlier : ∃ earlier ∈ front, earlier.name = c.name) :
    header (holding pdu (front ++ back)) = header pdu := by
  have htype : messageType (holding pdu (front ++ back)) = messageType pdu := rfl
  simp only [header, explicitSequence, givenStatus, child?_holding hchildren hearlier, htype]

theorem Repeats.mem_asideNames
    {type : MessageType}
    (h : Repeats pdu front c)
    (htype : messageType pdu = .ok type) :
    c.name ∈ asideNames type := by
  obtain ⟨-, hname | hname | ⟨hmulti, part, hname⟩⟩ := h
  · rw [hname]
    exact List.mem_append_left _ List.mem_cons_self
  · rw [hname]
    exact statusName_mem_asideNames type
  · obtain rfl := Except.ok.inj (htype.symm.trans hmulti)
    rw [hname]
    cases part <;> decide

/-- **A child that repeats a name and is not of a field has no effect.** -/
theorem message_eq_without
    (h : Repeats pdu front c)
    (hchildren : pdu.children = front ++ c :: back)
    (d : Defaults) (next : UInt32) :
    message d next (holding pdu (front ++ back)) = message d next pdu := by
  rw [message_eq_completed, message_eq_completed, header_holding hchildren h.1]
  cases hheader : header pdu with
  | error fault =>
      rfl
  | ok x =>
      obtain ⟨type, htype, hheader⟩ := bind_eq_ok hheader
      obtain ⟨sequence, -, hheader⟩ := bind_eq_ok hheader
      obtain ⟨status, -, hheader⟩ := bind_eq_ok hheader
      obtain rfl := Except.ok.inj hheader
      have haside := h.mem_asideNames htype
      exact completed_congr (fun _ hm =>
        foldlM_applyChild_holding hchildren h.1 (hm ▸ haside))
        (checkRequired_holding hchildren h.1 type) d

end Unread

/-! ### Scripts -/

/-- Elements with the same messages can stand for each other in a script. -/
theorem elements_congr
    {pdu pdu' : Element} {d : Defaults}
    (hmessage : ∀ next, message d next pdu' = message d next pdu)
    (hname : pdu'.name = pdu.name)
    (hsequence : pdu'.child? sequenceName = pdu.child? sequenceName)
    (hpdu : pdu.isNamed "PDU")
    (before after : List Element) (n : UInt32) :
    elements d n (before ++ pdu' :: after) = elements d n (before ++ pdu :: after) := by
  have hpdu' : pdu'.isNamed "PDU" := by
    rw [Element.isNamed, hname]
    exact hpdu
  have hnext : ∀ next, nextAfter next pdu' = nextAfter next pdu := by
    intro next
    rw [nextAfter, nextAfter, hsequence, hpdu', hpdu]
  rw [elements_append, elements_append]
  refine bind_congr fun front => ?_
  rw [elements_cons, elements_cons, element_of_isNamed hpdu', element_of_isNamed hpdu,
    hmessage, hnext]

/-- **A number that cannot be read** keeps a script from being compiled.  The exception is a
child that repeats the name of an earlier one and is not of a field: the script is compiled
as if it were not there. -/
theorem malformed_fatal_unless_repeated
    (d : Defaults) (root pdu c : Element) (before after front back : List Element)
    (hroot : root.children = before ++ pdu :: after)
    (hpdu : pdu.isNamed "PDU")
    (hchildren : pdu.children = front ++ c :: back)
    (hbad : Malformed pdu c) :
    (¬ Repeats pdu front c → ∃ fault, compile d root = .error fault) ∧
      (Repeats pdu front c →
        compile d (holding root (before ++ holding pdu (front ++ back) :: after)) =
          compile d root) := by
  constructor
  · intro hfirst
    cases hcompile : compile d root with
    | error fault =>
        exact ⟨fault, rfl⟩
    | ok batch =>
        obtain ⟨m, hm⟩ := exists_message_of_compile hcompile (by rw [hroot]; simp) hpdu
        exact absurd (repeats_of_message hm hchildren hbad) hfirst
  · intro hrepeats
    unfold compile
    rw [hroot]
    exact elements_congr (message_eq_without hrepeats hchildren d) rfl
      (child?_holding hchildren hrepeats.1 _) hpdu before after 1

/-- A request whose number is given twice. -/
def numberedTwice (first second : String) : Element :=
  .mk "PDU" [("type", "ENQUIRE_LINK")] ""
    [.mk "SequenceNumber" [] first [], .mk "SequenceNumber" [] second []]

/-- A script with one element. -/
def scriptOf (e : Element) : Element :=
  .mk "Batch" [] "" [e]

theorem malformed_sequence
    {pdu : Element} {s : String}
    (h : Text.Numeral.integer? (Text.trim s) = none) :
    Malformed pdu (.mk "SequenceNumber" [] s []) := by
  refine ⟨_, .sequence, fun n hn => ?_, fun hname => ?_⟩
  · cases h.symm.trans hn
  · exact absurd (show "SequenceNumber" = "CommandStatus" from hname) (by decide)

/-- The first number is read, and the second one is not. -/
theorem malformed_first_and_second :
    (∃ fault, compile {} (scriptOf (numberedTwice "x" "1")) = .error fault) ∧
      compile {} (scriptOf (.mk "PDU" [("type", "ENQUIRE_LINK")] ""
        [.mk "SequenceNumber" [] "7" []])) =
          compile {} (scriptOf (numberedTwice "7" "x")) := by
  have hbad : Malformed (numberedTwice "x" "1") (.mk "SequenceNumber" [] "x" []) :=
    malformed_sequence (by decide)
  have hbad' : Malformed (numberedTwice "7" "x") (.mk "SequenceNumber" [] "x" []) :=
    malformed_sequence (by decide)
  constructor
  · refine (malformed_fatal_unless_repeated {}
      (scriptOf (numberedTwice "x" "1")) _ _ [] [] [] _
      rfl rfl rfl hbad).1 ?_
    rintro ⟨⟨earlier, hmem, -⟩, -⟩
    cases hmem
  · refine (malformed_fatal_unless_repeated {}
      (scriptOf (numberedTwice "7" "x")) _ _ [] [] [_] []
      rfl rfl rfl hbad').2 ⟨⟨_, List.mem_singleton_self _, rfl⟩, .inl rfl⟩

/-- A number that is given again is not read: the script is compiled although it holds none. -/
theorem repeated_number_unread :
    Malformed (numberedTwice "1" "x") (.mk "SequenceNumber" [] "x" []) ∧
      .mk "SequenceNumber" [] "x" [] ∈ (numberedTwice "1" "x").children ∧
      compile {} (scriptOf (numberedTwice "1" "x")) =
        .ok [.send ((Message.new .enquireLink).withSequence 1)] :=
  ⟨malformed_sequence (by decide), by simp [numberedTwice, Element.children],
    by decide +kernel⟩

end Batch
end SmppReplay
