import SmppReplay.Pdu.Decode
import SmppReplay.Proofs.Pdu.Word
import Mathlib.Data.List.TakeWhile
import Mathlib.Tactic

/-!
# The grammar of message bodies

**Grammar.** Which octets write which values: texts, destinations, mandatory fields,
optional fields.  Every counted part says how long it is, and nothing else bounds it; in
particular a text has no limit of length.

**Readers.** A reader is held against the grammar as a whole (`Reads`): it takes octets off
the front exactly if they write the value that it gives, it leaves what stands behind them,
and if it gives no value its fault is that the octets of the body are malformed.  Readers
that follow each other read one relation behind the other (`Reads.bind`), so that each
reader is held against its part of the grammar once.

Main facts:
* `reads_fields`: the mandatory fields of a layout;
* `splitTlvs_eq_ok_iff`: the optional fields up to the end;
* `tlvValue?_eq_some_iff`: the value of an optional field.
-/

namespace SmppReplay
namespace Pdu

section Grammar

/-- A text ends in a zero and holds no other one. -/
inductive WritesText : List UInt8 → String → Prop
  | text {bs : List UInt8} (h : 0 ∉ bs) :
      WritesText (bs ++ [0]) (Text.Utf8.decodeLossy bs)

/-- A destination opens with a one for an address, or a two for a distribution list. -/
inductive WritesDestination : List UInt8 → Destination → Prop
  | address (ton npi : UInt8) {bs : List UInt8} {s : String} (h : WritesText bs s) :
      WritesDestination (1 :: ton :: npi :: bs) (.address ton npi s)
  | distributionList {bs : List UInt8} {s : String} (h : WritesText bs s) :
      WritesDestination (2 :: bs) (.distributionList s)

/-- A failed destination closes with a status of four octets. -/
inductive WritesFailedDestination : List UInt8 → FailedDestination → Prop
  | failed (ton npi : UInt8) {bs : List UInt8} {s : String} (h : WritesText bs s)
      (a b c d : UInt8) :
      WritesFailedDestination (ton :: npi :: (bs ++ [a, b, c, d]))
        ⟨ton, npi, s, word32 a b c d⟩

/-- Items one behind the other, each as the relation says. -/
inductive WritesAll {α : Type} (W : List UInt8 → α → Prop) : List UInt8 → List α → Prop
  | nil : WritesAll W [] []
  | cons {bs rest : List UInt8} {a : α} {as : List α}
      (h : W bs a) (hrest : WritesAll W rest as) :
      WritesAll W (bs ++ rest) (a :: as)

/-- A mandatory field: a text, an octet, a short message behind its length, or a list behind
its count. -/
inductive WritesField : FieldKind → List UInt8 → FieldValue → Prop
  | text {max : Nat} {bs : List UInt8} {s : String} (h : WritesText bs s) :
      WritesField (.text max) bs (.text s)
  | integer {default : UInt8} (b : UInt8) :
      WritesField (.integer default) [b] (.u8 b)
  | shortMessage {n : UInt8} {bs : List UInt8} (h : bs.length = n.toNat) :
      WritesField .shortMessage (n :: bs) (.octets bs)
  | destinations {n : UInt8} {bs : List UInt8} {ds : List Destination}
      (h : WritesAll WritesDestination bs ds) (hn : ds.length = n.toNat) :
      WritesField .destinations (n :: bs) (.destinations ds)
  | unsuccessful {n : UInt8} {bs : List UInt8} {ds : List FailedDestination}
      (h : WritesAll WritesFailedDestination bs ds) (hn : ds.length = n.toNat) :
      WritesField .unsuccessful (n :: bs) (.unsuccessful ds)

/-- The mandatory fields of a layout, in its order. -/
inductive WritesFields : List FieldSpec → List UInt8 → List (FieldId × FieldValue) → Prop
  | nil : WritesFields [] [] []
  | cons {f : FieldSpec} {fs : List FieldSpec} {bs rest : List UInt8} {v : FieldValue}
      {vs : List (FieldId × FieldValue)}
      (h : WritesField f.kind bs v) (hrest : WritesFields fs rest vs) :
      WritesFields (f :: fs) (bs ++ rest) ((f.id, v) :: vs)

/-- An optional field: a tag and a length of two octets each, and as many octets. -/
inductive WritesTlv : List UInt8 → RawTlv → Prop
  | tlv (t₀ t₁ l₀ l₁ : UInt8) {value : List UInt8} (h : value.length = bigEndian [l₀, l₁]) :
      WritesTlv (t₀ :: t₁ :: l₀ :: l₁ :: value) ⟨word16 t₀ t₁, value⟩

/-- The value of an optional field: as many octets as its kind takes, or a text up to its
first zero. -/
inductive WritesValue : TlvKind → List UInt8 → FieldValue → Prop
  | u8 (a : UInt8) :
      WritesValue .u8 [a] (.u8 a)
  | u16 (a b : UInt8) :
      WritesValue .u16 [a, b] (.u16 (word16 a b))
  | u32 (a b c d : UInt8) :
      WritesValue .u32 [a, b, c, d] (.u32 (word32 a b c d))
  | text {bs : List UInt8} (h : bs ≠ []) :
      WritesValue .text bs (.text (Text.Utf8.decodeLossy (bs.takeWhile (· != 0))))
  | octets (bs : List UInt8) :
      WritesValue .octets bs (.octets bs)
  | flag :
      WritesValue .flag [] .flag
  | networkError (n a b : UInt8) :
      WritesValue .networkError [n, a, b] (.networkError n (word16 a b))

/-- The octets of a body: mandatory fields, and behind them optional ones up to the end. -/
def WritesBody (fs : List FieldSpec) (body : List UInt8)
    (vs : List (FieldId × FieldValue)) (ts : List RawTlv) : Prop :=
  ∃ front back, body = front ++ back ∧ WritesFields fs front vs ∧ WritesAll WritesTlv back ts

end Grammar

/-! ### Readers against relations -/

/-- A cause that readers can give: all but those that concern the whole frame or a text to
be written. -/
def Malformed.OfBody : Malformed → Prop
  | .shortFrame _ | .lengthMismatch _ _ | .embeddedNul _ => False
  | _ => True

/-- The reader takes off the front what writes the value that it gives, and nothing more;
without a value the octets are malformed. -/
structure Reads {α : Type} (r : Reader α) (W : List UInt8 → α → Prop) : Prop where
  ok_iff : ∀ bs a rest, r bs = .ok (a, rest) ↔ ∃ used, bs = used ++ rest ∧ W used a
  malformed : ∀ bs e, r bs = .error e → ∃ why, e = .malformed why ∧ why.OfBody

namespace Reads

variable {α β : Type} {r : Reader α} {W V : List UInt8 → α → Prop}

theorem congr
    (h : Reads r W)
    (hWV : ∀ used a, W used a ↔ V used a) :
    Reads r V := by
  refine ⟨?_, h.malformed⟩
  intro bs a rest
  rw [h.ok_iff]
  simp only [hWV]

theorem pure (a : α) :
    Reads (Pure.pure a : Reader α) fun used b => used = [] ∧ b = a := by
  constructor
  · intro bs b rest
    constructor
    · intro h
      obtain ⟨rfl, rfl⟩ := Prod.mk.inj (Except.ok.inj h)
      exact ⟨[], rfl, rfl, rfl⟩
    · rintro ⟨_, rfl, rfl, rfl⟩
      rfl
  · intro bs e h
    cases h

theorem throw
    (why : Malformed)
    (hwhy : why.OfBody) :
    Reads (throw (.malformed why) : Reader α) fun _ _ => False := by
  constructor
  · intro bs b rest
    constructor
    · intro h
      cases h
    · rintro ⟨_, _, h⟩
      exact h.elim
  · intro bs e h
    exact ⟨why, (Except.error.inj h).symm, hwhy⟩

/-- A reader behind another one reads its relation behind the other's. -/
theorem bind
    {k : α → Reader β} {U : α → List UInt8 → β → Prop}
    (hr : Reads r W)
    (hk : ∀ a, Reads (k a) (U a)) :
    Reads (r >>= k) fun used b =>
      ∃ a front back, used = front ++ back ∧ W front a ∧ U a back b := by
  have hrun : ∀ bs, (r >>= k) bs = r bs >>= fun p => k p.1 p.2 := fun bs => rfl
  constructor
  · intro bs b rest
    rw [hrun]
    constructor
    · intro h
      cases hfirst : r bs with
      | error e =>
          rw [hfirst] at h
          cases h
      | ok p =>
          obtain ⟨a, middle⟩ := p
          rw [hfirst] at h
          obtain ⟨front, rfl, hfront⟩ := (hr.ok_iff _ _ _).1 hfirst
          obtain ⟨back, rfl, hback⟩ := ((hk a).ok_iff _ _ _).1 h
          exact ⟨front ++ back, by simp, a, front, back, rfl, hfront, hback⟩
    · rintro ⟨_, rfl, a, front, back, rfl, hfront, hback⟩
      have hfirst : r (front ++ back ++ rest) = .ok (a, back ++ rest) :=
        (hr.ok_iff _ _ _).2 ⟨front, by simp, hfront⟩
      rw [hfirst]
      exact ((hk a).ok_iff _ _ _).2 ⟨back, rfl, hback⟩
  · intro bs e h
    rw [hrun] at h
    cases hfirst : r bs with
    | error e' =>
        rw [hfirst] at h
        exact hr.malformed bs e (hfirst.trans (congrArg _ (Except.error.inj h)))
    | ok p =>
        rw [hfirst] at h
        exact (hk p.1).malformed p.2 e h

theorem map {g : α → β} (hr : Reads r W) :
    Reads (g <$> r) fun used b => ∃ a, W used a ∧ b = g a := by
  rw [map_eq_pure_bind]
  refine (hr.bind fun a => Reads.pure (g a)).congr ?_
  intro used b
  constructor
  · rintro ⟨a, front, _, rfl, hfront, rfl, rfl⟩
    exact ⟨a, by simpa using hfront, rfl⟩
  · rintro ⟨a, hused, rfl⟩
    exact ⟨a, used, [], by simp, hused, rfl, rfl⟩

end Reads

/-! ### The parts -/

theorem reads_octet (label : String) :
    Reads (readOctet label) fun used b => used = [b] := by
  constructor
  · intro bs b rest
    cases bs with
    | nil =>
        simp [readOctet]
    | cons c bs =>
        simp [readOctet, eq_comm, and_comm]
  · intro bs e h
    cases bs with
    | nil =>
        exact ⟨_, (Except.error.inj h).symm, trivial⟩
    | cons c bs =>
        cases h

theorem reads_text (label : String) :
    Reads (readText label) WritesText := by
  have hsplit : ∀ bs : List UInt8, bs.takeWhile (· != 0) ++ bs.dropWhile (· != 0) = bs :=
    fun bs => List.takeWhile_append_dropWhile
  have hclean : ∀ bs : List UInt8, 0 ∉ bs.takeWhile (· != 0) := by
    intro bs hmem
    simpa using List.mem_takeWhile_imp hmem
  constructor
  · intro bs s rest
    rw [readText, List.span_eq_takeWhile_dropWhile]
    constructor
    · intro h
      cases hback : bs.dropWhile (· != 0) with
      | nil =>
          rw [hback] at h
          cases h
      | cons b back =>
          rw [hback] at h
          obtain ⟨rfl, rfl⟩ := Prod.mk.inj (Except.ok.inj h)
          have hb : b = 0 := by
            have hne : bs.dropWhile (· != 0) ≠ [] := by
              simp [hback]
            have hhead := List.head_dropWhile_not (· != 0) hne
            simpa [hback] using hhead
          refine ⟨bs.takeWhile (· != 0) ++ [0], ?_, WritesText.text (hclean bs)⟩
          conv_lhs => rw [← hsplit bs, hback, hb]
          simp
    · rintro ⟨_, rfl, ⟨hfree⟩⟩
      rename_i front
      have hall : ∀ b ∈ front, (b != 0) = true := by
        intro b hb
        rw [bne_iff_ne]
        rintro rfl
        exact hfree hb
      have htake : (front ++ [0] ++ rest).takeWhile (· != 0) = front := by
        rw [List.append_assoc, List.takeWhile_append_of_pos hall]
        simp
      have hdrop : (front ++ [0] ++ rest).dropWhile (· != 0) = 0 :: rest := by
        rw [List.append_assoc, List.dropWhile_append_of_pos hall]
        simp
      rw [htake, hdrop]
  · intro bs e h
    rw [readText, List.span_eq_takeWhile_dropWhile] at h
    cases hback : bs.dropWhile (· != 0) with
    | nil =>
        rw [hback] at h
        exact ⟨_, (Except.error.inj h).symm, trivial⟩
    | cons b back =>
        rw [hback] at h
        cases h

theorem reads_status :
    Reads readStatus fun used n => ∃ a b c d, used = [a, b, c, d] ∧ n = word32 a b c d := by
  constructor
  · intro bs n rest
    constructor
    · intro h
      match bs, h with
      | a :: b :: c :: d :: bs, h =>
          obtain ⟨rfl, rfl⟩ := Prod.mk.inj (Except.ok.inj h)
          exact ⟨[a, b, c, d], rfl, a, b, c, d, rfl, rfl⟩
    · rintro ⟨_, rfl, a, b, c, d, rfl, rfl⟩
      rfl
  · intro bs e h
    unfold readStatus at h
    split at h
    · cases h
    · exact ⟨_, (Except.error.inj h).symm, trivial⟩

theorem splitOctets?_eq_some_iff (n : Nat) (bs front rest : List UInt8) :
    splitOctets? n bs = some (front, rest) ↔ bs = front ++ rest ∧ front.length = n := by
  simp only [splitOctets?]
  constructor
  · intro h
    split_ifs at h with hlen
    obtain ⟨rfl, rfl⟩ := Prod.mk.inj (Option.some.inj h)
    exact ⟨(List.take_append_drop n bs).symm, hlen⟩
  · rintro ⟨rfl, rfl⟩
    simp

theorem reads_shortMessage (label : String) :
    Reads (readShortMessage label) fun used bs =>
      ∃ n : UInt8, used = n :: bs ∧ bs.length = n.toNat := by
  refine ((reads_octet label).bind (U := fun n used bs => used = bs ∧ bs.length = n.toNat)
    fun n => ⟨?_, ?_⟩).congr ?_
  · intro bs front rest
    constructor
    · intro h
      cases hsplit : splitOctets? n.toNat bs with
      | none =>
          rw [hsplit] at h
          cases h
      | some p =>
          rw [hsplit] at h
          obtain rfl := Except.ok.inj h
          obtain ⟨hbs, hlen⟩ := (splitOctets?_eq_some_iff _ _ _ _).1 hsplit
          exact ⟨front, hbs, rfl, hlen⟩
    · rintro ⟨_, hbs, rfl, hlen⟩
      rw [(splitOctets?_eq_some_iff _ _ _ _).2 ⟨hbs, hlen⟩]
  · intro bs e h
    cases hsplit : splitOctets? n.toNat bs with
    | none =>
        rw [hsplit] at h
        exact ⟨_, (Except.error.inj h).symm, trivial⟩
    | some p =>
        rw [hsplit] at h
        cases h
  · intro used bs
    constructor
    · rintro ⟨n, _, _, rfl, rfl, rfl, hlen⟩
      exact ⟨n, rfl, hlen⟩
    · rintro ⟨n, rfl, hlen⟩
      exact ⟨n, [n], bs, rfl, rfl, rfl, hlen⟩

theorem reads_destination (label : String) :
    Reads (readDestination label) WritesDestination := by
  have hrest : ∀ flag : UInt8, Reads
      (if flag = 1 then do
          let ton ← readOctet "dest_addr_ton"
          let npi ← readOctet "dest_addr_npi"
          let address ← readText label
          return Destination.address ton npi address
        else if flag = 2 then do
          let name ← readText "dl_name"
          return Destination.distributionList name
        else throw (.malformed (.unknownDestinationFlag flag)))
      (fun used d => WritesDestination (flag :: used) d) := by
    intro flag
    by_cases h1 : flag = 1
    · rw [if_pos h1]
      refine ((reads_octet _).bind fun ton => (reads_octet _).bind fun npi =>
        (reads_text label).bind fun address => Reads.pure _).congr ?_
      intro used d
      constructor
      · rintro ⟨ton, _, _, rfl, rfl, npi, _, _, rfl, rfl, s, bs, _, rfl, hs, rfl, rfl⟩
        rw [h1]
        simpa using WritesDestination.address ton npi hs
      · rw [h1]
        rintro (⟨ton, npi, hs⟩ | _)
        exact ⟨ton, [ton], _, rfl, rfl, npi, [npi], _, rfl, rfl, _, _,
          [], by simp, hs, rfl, rfl⟩
    · rw [if_neg h1]
      by_cases h2 : flag = 2
      · rw [if_pos h2]
        refine ((reads_text "dl_name").bind fun name => Reads.pure _).congr ?_
        intro used d
        constructor
        · rintro ⟨s, bs, _, rfl, hs, rfl, rfl⟩
          rw [h2]
          simpa using WritesDestination.distributionList hs
        · rw [h2]
          rintro (_ | hs)
          exact ⟨_, _, [], by simp, hs, rfl, rfl⟩
      · rw [if_neg h2]
        refine (Reads.throw (.unknownDestinationFlag flag) trivial).congr ?_
        intro used d
        simp only [false_iff]
        rintro (_ | _)
        · exact h1 rfl
        · exact h2 rfl
  refine ((reads_octet "dest_flag").bind hrest).congr ?_
  intro used d
  constructor
  · rintro ⟨flag, _, bs, rfl, rfl, h⟩
    exact h
  · intro h
    cases h with
    | address ton npi hs =>
        exact ⟨1, [1], _, rfl, rfl, WritesDestination.address ton npi hs⟩
    | distributionList hs =>
        exact ⟨2, [2], _, rfl, rfl, WritesDestination.distributionList hs⟩

theorem reads_failedDestination (label : String) :
    Reads (readFailedDestination label) WritesFailedDestination := by
  refine ((reads_octet "dest_addr_ton").bind fun ton =>
    (reads_octet "dest_addr_npi").bind fun npi =>
    (reads_text label).bind fun address => reads_status.bind fun status =>
      Reads.pure _).congr ?_
  intro used d
  constructor
  · rintro ⟨ton, _, _, rfl, rfl, npi, _, _, rfl, rfl, s, bs, _, rfl, hs, n, _, _, rfl,
      ⟨a, b, c, d, rfl, rfl⟩, rfl, rfl⟩
    simpa using WritesFailedDestination.failed ton npi hs a b c d
  · rintro ⟨ton, npi, hs, a, b, c, d⟩
    exact ⟨ton, [ton], _, rfl, rfl, npi, [npi], _, rfl, rfl, _, _, [a, b, c, d], rfl, hs, _,
      [a, b, c, d], [], rfl, ⟨a, b, c, d, rfl, rfl⟩, rfl, rfl⟩

/-- A counted list reads as many items as its count says. -/
theorem reads_items {α : Type} {item : Reader α} {W : List UInt8 → α → Prop}
    (hitem : Reads item W)
    (n : Nat) :
    Reads (readItems item n) fun used as => WritesAll W used as ∧ as.length = n := by
  induction n with
  | zero =>
      refine (Reads.pure []).congr ?_
      intro used as
      constructor
      · rintro ⟨rfl, rfl⟩
        exact ⟨WritesAll.nil, rfl⟩
      · rintro ⟨h, hlen⟩
        cases h with
        | nil =>
            exact ⟨rfl, rfl⟩
        | cons h hrest =>
            cases hlen
  | succ n ih =>
      refine (hitem.bind fun a => ih.bind fun as => Reads.pure (a :: as)).congr ?_
      intro used as
      constructor
      · rintro ⟨a, bs, _, rfl, ha, as, rest, _, rfl, ⟨has, hlen⟩, rfl, rfl⟩
        rw [List.append_nil]
        exact ⟨WritesAll.cons ha has, by simp [hlen]⟩
      · rintro ⟨h, hlen⟩
        cases h with
        | nil =>
            cases hlen
        | cons h hrest =>
            exact ⟨_, _, _, rfl, h, _, _, [], by simp, ⟨hrest, by simpa using hlen⟩, rfl, rfl⟩

theorem reads_field (f : FieldSpec) :
    Reads (readMandatory f) (WritesField f.kind) := by
  unfold readMandatory
  generalize f.kind = kind
  cases kind with
  | text max =>
      refine (reads_text f.label).map.congr ?_
      intro used v
      constructor
      · rintro ⟨s, hs, rfl⟩
        exact WritesField.text hs
      · rintro ⟨hs⟩
        exact ⟨_, hs, rfl⟩
  | integer default =>
      refine (reads_octet f.label).map.congr ?_
      intro used v
      constructor
      · rintro ⟨b, rfl, rfl⟩
        exact WritesField.integer b
      · rintro ⟨b⟩
        exact ⟨_, rfl, rfl⟩
  | shortMessage =>
      refine (reads_shortMessage f.label).map.congr ?_
      intro used v
      constructor
      · rintro ⟨bs, ⟨n, rfl, hlen⟩, rfl⟩
        exact WritesField.shortMessage hlen
      · intro h
        cases h with
        | shortMessage hlen =>
            exact ⟨_, ⟨_, rfl, hlen⟩, rfl⟩
  | destinations =>
      refine ((reads_octet f.label).bind fun n =>
        (reads_items (reads_destination f.label) n.toNat).map).congr ?_
      intro used v
      constructor
      · rintro ⟨n, _, bs, rfl, rfl, ds, ⟨hds, hlen⟩, rfl⟩
        exact WritesField.destinations hds hlen
      · intro h
        cases h with
        | destinations hds hlen =>
            exact ⟨_, [_], _, rfl, rfl, _, ⟨hds, hlen⟩, rfl⟩
  | unsuccessful =>
      refine ((reads_octet f.label).bind fun n =>
        (reads_items (reads_failedDestination f.label) n.toNat).map).congr ?_
      intro used v
      constructor
      · rintro ⟨n, _, bs, rfl, rfl, ds, ⟨hds, hlen⟩, rfl⟩
        exact WritesField.unsuccessful hds hlen
      · intro h
        cases h with
        | unsuccessful hds hlen =>
            exact ⟨_, [_], _, rfl, rfl, _, ⟨hds, hlen⟩, rfl⟩

/-- The mandatory fields of a layout. -/
theorem reads_fields (fs : List FieldSpec) :
    Reads (readFields fs) (WritesFields fs) := by
  induction fs with
  | nil =>
      refine (Reads.pure []).congr ?_
      intro used vs
      constructor
      · rintro ⟨rfl, rfl⟩
        exact WritesFields.nil
      · rintro ⟨⟩
        exact ⟨rfl, rfl⟩
  | cons f fs ih =>
      have hhead : Reads (do let v ← readMandatory f; return (f.id, v))
          (fun used e => WritesField f.kind used e.2 ∧ e.1 = f.id) := by
        refine ((reads_field f).bind fun v => Reads.pure (f.id, v)).congr ?_
        rintro used ⟨id, v⟩
        constructor
        · rintro ⟨w, bs, _, rfl, hw, rfl, hv⟩
          obtain ⟨rfl, rfl⟩ := Prod.mk.inj hv
          exact ⟨by simpa using hw, rfl⟩
        · rintro ⟨hw, rfl⟩
          exact ⟨v, used, [], by simp, hw, rfl, rfl⟩
      have hcons : readFields (f :: fs) = (do
          let e ← (do let v ← readMandatory f; return (f.id, v))
          let es ← readFields fs
          return e :: es) := by
        rw [readFields, List.mapM_cons]
        rfl
      rw [hcons]
      refine (hhead.bind fun e => ih.bind fun es => Reads.pure (e :: es)).congr ?_
      intro used vs
      constructor
      · rintro ⟨⟨id, v⟩, bs, _, rfl, ⟨hv, rfl⟩, es, rest, _, rfl, hes, rfl, rfl⟩
        rw [List.append_nil]
        exact WritesFields.cons hv hes
      · rintro (_ | ⟨h, hrest⟩)
        exact ⟨_, _, _, rfl, ⟨h, rfl⟩, _, _, [], by simp, hrest, rfl, rfl⟩

/-! ### Optional fields -/

/-- One optional field. -/
theorem reads_tlv : Reads splitTlv WritesTlv := by
  constructor
  · intro bs t rest
    constructor
    · intro h
      match bs, h with
      | t₀ :: t₁ :: l₀ :: l₁ :: bs, h =>
          cases hsplit : splitOctets? (word16 l₀ l₁).toNat bs with
          | none =>
              simp [splitTlv, hsplit] at h
          | some p =>
              obtain ⟨value, rest'⟩ := p
              simp only [splitTlv, hsplit, Except.ok.injEq, Prod.mk.injEq] at h
              obtain ⟨rfl, rfl⟩ := h
              obtain ⟨rfl, hlen⟩ := (splitOctets?_eq_some_iff _ _ _ _).1 hsplit
              rw [toNat_word16] at hlen
              exact ⟨t₀ :: t₁ :: l₀ :: l₁ :: value, rfl, WritesTlv.tlv t₀ t₁ l₀ l₁ hlen⟩
    · rintro ⟨_, rfl, ⟨t₀, t₁, l₀, l₁, hlen⟩⟩
      rename_i value
      have hsplit : splitOctets? (word16 l₀ l₁).toNat (value ++ rest) = some (value, rest) :=
        (splitOctets?_eq_some_iff _ _ _ _).2 ⟨rfl, by rw [toNat_word16, hlen]⟩
      simp [splitTlv, hsplit]
  · intro bs e h
    unfold splitTlv at h
    split at h
    · simp only at h
      split at h
      · cases h
      · exact ⟨_, (Except.error.inj h).symm, trivial⟩
    · exact ⟨_, (Except.error.inj h).symm, trivial⟩

/-- The optional fields up to the end of the octets. -/
theorem splitTlvs_eq_ok_iff (bs : List UInt8) (ts : List RawTlv) :
    splitTlvs bs = .ok ts ↔ WritesAll WritesTlv bs ts := by
  constructor
  · intro h
    fun_induction splitTlvs bs generalizing ts with
    | case1 bs hbs =>
        obtain rfl := Except.ok.inj h
        obtain rfl := List.isEmpty_iff.1 hbs
        exact WritesAll.nil
    | case2 bs hbs e he =>
        cases h
    | case3 bs hbs t rest ht ih =>
        cases hrest : splitTlvs rest with
        | error e =>
            rw [hrest] at h
            cases h
        | ok ts' =>
            rw [hrest] at h
            obtain rfl := Except.ok.inj h
            obtain ⟨used, rfl, hused⟩ := (reads_tlv.ok_iff _ _ _).1 ht
            exact WritesAll.cons hused (ih ts' hrest)
  · intro h
    induction h with
    | nil =>
        rw [splitTlvs]
        rfl
    | @cons used rest t ts ht hrest ih =>
        -- A field says how long it is, so the reader stops where the field does.
        have hsplit : splitTlv (used ++ rest) = .ok (t, rest) :=
          (reads_tlv.ok_iff _ _ _).2 ⟨used, rfl, ht⟩
        have hne : (used ++ rest).isEmpty = false := by
          cases ht
          rfl
        rw [splitTlvs, hne]
        simp only [Bool.false_eq_true, if_false]
        split
        · rename_i e he
          rw [hsplit] at he
          cases he
        · rename_i t' rest' he
          rw [hsplit] at he
          obtain ⟨rfl, rfl⟩ := Prod.mk.inj (Except.ok.inj he)
          rw [ih]
          rfl

theorem splitTlvs_malformed
    {bs : List UInt8} {e : Error}
    (h : splitTlvs bs = .error e) :
    ∃ why, e = .malformed why ∧ why.OfBody := by
  fun_induction splitTlvs bs with
  | case1 bs hbs =>
      cases h
  | case2 bs hbs e' he =>
      exact reads_tlv.malformed bs e (he.trans (congrArg _ (Except.error.inj h)))
  | case3 bs hbs t rest ht ih =>
      cases hrest : splitTlvs rest with
      | error e' =>
          rw [hrest] at h
          exact ih (hrest.trans (congrArg _ (Except.error.inj h)))
      | ok ts =>
          rw [hrest] at h
          cases h

/-- The value of an optional field: implemented fields are read as their kind says. -/
theorem tlvValue?_eq_some_iff (spec : TlvSpec) (bs : List UInt8) (v : FieldValue) :
    tlvValue? spec bs = some v ↔ spec.implemented ∧ WritesValue spec.kind bs v := by
  unfold tlvValue?
  by_cases himpl : spec.implemented = true
  · rw [if_pos himpl]
    generalize spec.kind = kind
    constructor
    · intro h
      refine ⟨himpl, ?_⟩
      cases kind with
      | u8 =>
          match bs, h with
          | [a], h =>
              obtain rfl := Option.some.inj h
              exact WritesValue.u8 a
      | u16 =>
          match bs, h with
          | [a, b], h =>
              obtain rfl := Option.some.inj h
              exact WritesValue.u16 a b
      | u32 =>
          match bs, h with
          | [a, b, c, d], h =>
              obtain rfl := Option.some.inj h
              exact WritesValue.u32 a b c d
      | text =>
          match bs, h with
          | a :: r, h =>
              obtain rfl := Option.some.inj h
              exact WritesValue.text (List.cons_ne_nil a r)
      | octets =>
          obtain rfl := Option.some.inj h
          exact WritesValue.octets bs
      | flag =>
          match bs, h with
          | [], h =>
              obtain rfl := Option.some.inj h
              exact WritesValue.flag
      | networkError =>
          match bs, h with
          | [n, a, b], h =>
              obtain rfl := Option.some.inj h
              exact WritesValue.networkError n a b
    · rintro ⟨-, h⟩
      cases h with
      | text hne =>
          cases bs with
          | nil =>
              exact absurd rfl hne
          | cons a r =>
              rfl
      | _ =>
          rfl
  · rw [if_neg himpl]
    simp [himpl]

end Pdu
end SmppReplay
