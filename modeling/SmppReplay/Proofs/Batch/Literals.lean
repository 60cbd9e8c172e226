import SmppReplay.Batch.FieldContent
import SmppReplay.Proofs.Text.Literal

/-!
# Numbers in scripts

**Question.**  Which texts does a field take that holds a number?

**Readers.** A reader for numbers of one, two or four octets takes the integer literals of
its numbers, and gives the number that is written; it takes no other text (`Takes`).  All of
them are one reader with a bound (`takes_numberOr`).

Main fact:
* `literalLaws`: which texts are literals, which are none, and what the readers take.
-/

namespace SmppReplay
namespace Batch

open Text (isBlank)
open Text.Numeral

/-! ### Readers of numbers -/

/-- The reader takes the literals of the numbers below a bound, as what they write; of any
other text it says that it is the wrong value of the field. -/
structure Takes {α : Type} (read : String → String → Except CompileError α) (value : α → Nat)
    (bound : Nat) : Prop where
  ok : ∀ field raw a, read field raw = .ok a ↔
    ∃ core, Trims raw.toList core ∧ Literal core (value a)
  fault : ∀ field raw, (¬∃ core n, Trims raw.toList core ∧ Literal core n ∧ n < bound) →
    read field raw = .error (.invalidValue field raw)

theorem takes_numberOr
    {α : Type} {ofNat : Nat → α} {value : α → Nat} {bound : Nat}
    (hmax : bound ≤ UInt64.size)
    (hvalue : ∀ n < bound, value (ofNat n) = n)
    (hbound : ∀ a, value a < bound)
    (hback : ∀ a, ofNat (value a) = a) :
    Takes (fun field raw => numberOr field raw ((integerBelow? bound raw).map ofNat))
      value bound where
  ok := by
    intro field raw a
    cases hread : integerBelow? bound raw with
    | none =>
        refine iff_of_false (by rintro ⟨⟩) ?_
        rintro ⟨core, htrims, h⟩
        have hsome := (integerBelow?_eq_some_iff hmax raw _).2 ⟨hbound a, core, htrims, h⟩
        rw [hread] at hsome
        cases hsome
    | some n =>
        have hliteral := (integerBelow?_eq_some_iff hmax raw n).1 hread
        constructor
        · intro hok
          obtain rfl : ofNat n = a := Except.ok.inj hok
          rw [hvalue n hliteral.1]
          exact hliteral.2
        · rintro ⟨core, htrims, h⟩
          have hsome := (integerBelow?_eq_some_iff hmax raw _).2 ⟨hbound a, core, htrims, h⟩
          obtain rfl := Option.some.inj (hread.symm.trans hsome)
          exact congrArg Except.ok (hback a)
  fault := by
    intro field raw hnone
    cases hread : integerBelow? bound raw with
    | none =>
        rfl
    | some n =>
        obtain ⟨hn, core, htrims, h⟩ := (integerBelow?_eq_some_iff hmax raw n).1 hread
        exact absurd ⟨core, n, htrims, h, hn⟩ hnone

/-! ### The laws -/

/-- Which texts are integer literals, and which fields take them. -/
structure LiteralLaws : Prop where
  /-- A text is read as the number of which it is a literal. -/
  read : ∀ s v, integer? s = some v ↔ ∃ core, Trims s.toList core ∧ Literal core v.toNat
  /-- Every number has literals in both radices. -/
  written : ∀ v : UInt64, Writes 10 (Nat.toDigits 10 v.toNat) v.toNat ∧
    Writes 16 (Nat.toDigits 16 v.toNat) v.toNat
  /-- All of them are read, with zeros in front of the digits and blanks around the literal. -/
  spelled : ∀ (v : UInt64) (s : String) (front mark sign digits back : List Char)
    (radix zeros : Nat),
    s.toList = front ++ ((mark ++ (sign ++ (List.replicate zeros '0' ++ digits))) ++ back) →
    (∀ c ∈ front, isBlank c) → (∀ c ∈ back, isBlank c) →
    Marks mark radix → IsSign sign → Writes radix digits v.toNat → integer? s = some v
  /-- A larger number is not read. -/
  tooLarge : ∀ s core n, Trims s.toList core → Literal core n → UInt64.size ≤ n →
    integer? s = none
  /-- Nothing is read without digits, -/
  noDigits : ∀ s mark sign radix, Trims s.toList (mark ++ sign) →
    Marks mark radix → IsSign sign → integer? s = none
  /-- with a minus sign, -/
  minus : ∀ s : String, '-' ∈ s.toList → integer? s = none
  /-- with a blank inside, -/
  innerBlank : ∀ s core c, Trims s.toList core → c ∈ core → isBlank c → integer? s = none
  /-- or with a second plus sign. -/
  secondPlus : ∀ s : String, 2 ≤ s.toList.count '+' → integer? s = none
  octet : Takes readUInt8 UInt8.toNat UInt8.size
  word16 : Takes readUInt16 UInt16.toNat UInt16.size
  word32 : Takes readUInt32 UInt32.toNat UInt32.size

/-- **Integer literals.** -/
theorem literalLaws : LiteralLaws where
  read := integer?_eq_some_iff
  written := fun v =>
    ⟨writes_toDigits (by decide) (by decide) _, writes_toDigits (by decide) (by decide) _⟩
  spelled := by
    intro v s front mark sign digits back radix zeros hs hfront hback hmark hsign hdigits
    have hradix : 0 < radix := by
      cases hmark <;> decide
    have hliteral :
        Literal (mark ++ (sign ++ (List.replicate zeros '0' ++ digits))) v.toNat :=
      .intro hmark hsign (hdigits.zeros hradix zeros)
    refine (integer?_eq_some_iff s v).2 ⟨_, ?_, hliteral⟩
    rw [hs]
    exact hliteral.trims hfront hback
  tooLarge := by
    intro s core n htrims h hlarge
    rw [integer?_of_literal htrims h, if_neg (Nat.not_lt.2 hlarge)]
  noDigits := fun s mark sign radix => integer?_of_noDigits
  minus := by
    intro s hmem
    refine integer?_eq_none fun core n htrims h => ?_
    rw [← List.count_pos_iff, htrims.count_eq (by decide), List.count_pos_iff] at hmem
    exact (h.ne_of_mem hmem).2 rfl
  innerBlank := by
    intro s core c htrims hc hblank
    refine integer?_eq_none fun core' n htrims' h => ?_
    obtain rfl := ((trims_iff ..).1 htrims).symm.trans ((trims_iff ..).1 htrims')
    rw [(h.ne_of_mem hc).1] at hblank
    cases hblank
  secondPlus := by
    intro s htwo
    refine integer?_eq_none fun core n htrims h => ?_
    rw [htrims.count_eq (by decide)] at htwo
    exact absurd (h.count_plus_le) (by omega)
  octet := takes_numberOr (by decide) (fun n hn => UInt8.toNat_ofNat_of_lt' hn) UInt8.toNat_lt
    fun _ => UInt8.ofNat_toNat
  word16 := takes_numberOr (by decide) (fun n hn => UInt16.toNat_ofNat_of_lt' hn)
    UInt16.toNat_lt fun _ => UInt16.ofNat_toNat
  word32 := takes_numberOr (by decide) (fun n hn => UInt32.toNat_ofNat_of_lt' hn)
    UInt32.toNat_lt fun _ => UInt32.ofNat_toNat

/-- The largest number of a literal, and the next one. -/
example :
    integer? " 0xFFFFffffFFFFffff
" = some 18446744073709551615 ∧
      integer? "18446744073709551616" = none := by
  decide +kernel

end Batch
end SmppReplay
