import SmppReplay.Text.Numeral
import Mathlib.Data.List.TakeWhile
import Mathlib.Tactic

/-!
# Numerals that are written and read

The decimal digits of a number have no blanks, no sign and no prefix, so that they are the
integer literal of the number, unless it is too large for one (`integer?_toString`).  A
number of one octet is an integer literal below 256 (`uint8?_eq_some_iff`).
-/

namespace SmppReplay
namespace Text
namespace Numeral

/-! ### Digits -/

theorem isDigit_iff (c : Char) :
    c.isDigit ↔ 48 ≤ c.toNat ∧ c.toNat ≤ 57 := by
  rw [Char.isDigit, Bool.and_eq_true, decide_eq_true_iff, decide_eq_true_iff]
  rfl

theorem digitIn?_of_isDigit
    {c : Char}
    (h : c.isDigit) :
    digitIn? 10 c = some (c.toNat - '0'.toNat) := by
  have hrange : '0' ≤ c ∧ c ≤ '9' := (isDigit_iff c).1 h
  have hbound : c.toNat - '0'.toNat < 10 := by
    have hmax := ((isDigit_iff c).1 h).2
    have hzero : '0'.toNat = 48 := rfl
    omega
  rw [digitIn?, digit?, if_pos hrange, Option.filter_some, if_pos (decide_eq_true hbound)]

/-- Digits are read from the front, each as the next lower place. -/
theorem continue?_of_isDigit
    {cs : List Char}
    (h : ∀ c ∈ cs, c.isDigit)
    (acc : Nat) :
    continue? 10 acc cs = some (Nat.ofDigitChars 10 cs acc) := by
  induction cs generalizing acc with
  | nil =>
      rfl
  | cons c cs ih =>
      obtain ⟨hc, hcs⟩ := List.forall_mem_cons.1 h
      rw [continue?, digitIn?_of_isDigit hc, Option.bind_some, ih hcs, Nat.ofDigitChars_cons,
        Nat.mul_comm]

/-- A digit is no blank, no sign, and no letter of a prefix. -/
theorem isDigit_ne
    {c : Char}
    (h : c.isDigit) :
    isBlank c = false ∧ c ≠ '+' ∧ c ≠ 'x' ∧ c ≠ 'X' := by
  rw [isDigit_iff] at h
  refine ⟨?_, ?_, ?_, ?_⟩
  · simp only [isBlank, Bool.or_eq_false_iff, Bool.and_eq_false_iff, decide_eq_false_iff_not,
      beq_eq_false_iff_ne, ne_eq]
    omega
  · rintro rfl
    exact absurd h (by decide)
  · rintro rfl
    exact absurd h (by decide)
  · rintro rfl
    exact absurd h (by decide)

/-! ### Literals -/

section Digits

variable {cs : List Char}

/-- Nothing is trimmed off digits. -/
theorem trim_of_isDigit
    (h : ∀ c ∈ cs, c.isDigit) :
    trimRight (trimLeft cs) = cs := by
  have hkept : ∀ ds : List Char, (∀ c ∈ ds, c.isDigit) → ds.dropWhile isBlank = ds := by
    intro ds hds
    rw [List.dropWhile_eq_self_iff]
    intro hlen
    rw [(isDigit_ne (hds _ (List.getElem_mem hlen))).1]
    exact Bool.false_ne_true
  rw [trimLeft, hkept cs h, trimRight, hkept cs.reverse (by simpa using h),
    List.reverse_reverse]

theorem unsigned?_of_isDigit
    {bound : Nat}
    (h : ∀ c ∈ cs, c.isDigit)
    (hne : cs ≠ [])
    (hbound : Nat.ofDigitChars 10 cs 0 < bound) :
    unsigned? 10 bound cs = some (Nat.ofDigitChars 10 cs 0) := by
  have hread : ofDigits? 10 cs = some (Nat.ofDigitChars 10 cs 0) := by
    cases cs with
    | nil =>
        exact absurd rfl hne
    | cons c cs =>
        exact continue?_of_isDigit h 0
  unfold unsigned?
  split
  · rename_i ds
    exact absurd rfl (isDigit_ne (h '+' List.mem_cons_self)).2.1
  · simp only [hread, Option.filter_some, hbound, decide_true, if_true]

end Digits

/-- **A number that is written in decimal is read.** -/
theorem integer?_toString
    {n : Nat}
    (h : n < UInt64.size) :
    integer? (toString n) = some (UInt64.ofNat n) := by
  have hdigits : ∀ c ∈ Nat.toDigits 10 n, c.isDigit :=
    fun c hc => Nat.isDigit_of_mem_toDigits (by decide) (by decide) hc
  have hvalue : Nat.ofDigitChars 10 (Nat.toDigits 10 n) 0 = n :=
    Nat.ofDigitChars_toDigits (by decide) (by decide)
  have hread := unsigned?_of_isDigit hdigits Nat.toDigits_ne_nil (hvalue.symm ▸ h)
  rw [hvalue] at hread
  rw [integer?, Nat.toString_eq_repr, Nat.toList_repr, trim_of_isDigit hdigits]
  split
  · rename_i ds hds
    rw [hds] at hdigits
    exact absurd rfl (isDigit_ne (hdigits 'x' (by simp))).2.2.1
  · rename_i ds hds
    rw [hds] at hdigits
    exact absurd rfl (isDigit_ne (hdigits 'X' (by simp))).2.2.2
  · rw [hread]
    rfl

/-! ### Octets -/

/-- A number of one octet is an integer literal below 256. -/
theorem uint8?_eq_some_iff (s : String) (n : UInt8) :
    uint8? s = some n ↔ ∃ k, integer? s = some k ∧ k.toNat = n.toNat := by
  unfold uint8? integerBelow?
  constructor
  · intro h
    obtain ⟨v, hv, rfl⟩ := Option.map_eq_some_iff.1 h
    obtain ⟨hk, hbound⟩ := Option.filter_eq_some_iff.1 hv
    obtain ⟨k, hliteral, rfl⟩ := Option.map_eq_some_iff.1 hk
    refine ⟨k, hliteral, (UInt8.toNat_ofNat_of_lt' ?_).symm⟩
    simpa using hbound
  · rintro ⟨k, hk, hn⟩
    have hbound : n.toNat < UInt8.size := n.toNat_lt
    rw [hk, Option.map_some, hn, Option.filter_some, if_pos (decide_eq_true hbound),
      Option.map_some, UInt8.ofNat_toNat]

theorem uint8?_toString (n : UInt8) :
    uint8? (toString n.toNat) = some n := by
  have hsmall : n.toNat < UInt64.size :=
    Nat.lt_trans n.toNat_lt (by decide)
  exact (uint8?_eq_some_iff _ n).2
    ⟨_, integer?_toString hsmall, UInt64.toNat_ofNat_of_lt' hsmall⟩

end Numeral
end Text
end SmppReplay
