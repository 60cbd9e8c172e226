import SmppReplay.Proofs.Text.Literal
import SmppReplay.Text.AsciiCase

/-!
# Words in other spellings

**Question.** A word in a script may be written with its letters in either case and with
blanks around it.  Which texts are such spellings of a word, and what is left of them when
they are trimmed and folded to one case?

**Method.** Case makes no blank of another character and changes letters only
(`isBlank_toLower`, `eq_of_toLower_eq`).  So a spelling of a word without blanks is, when it
is trimmed, the word up to case (`Respells.exists_trims`).

Main facts:
* `upperAscii_trim_eq_iff`: a text is trimmed and folded to a word in upper case exactly if
  it is a spelling of it;
* `Respells.trims`: a spelling of a word without letters is that word with blanks around it;
* `literal_of_respells`: so a spelling of a number in decimal is a literal of it.
-/

namespace SmppReplay
namespace Text

open Numeral (Literal Trims isDigit_iff isDigit_ne trims_iff trims_of_noBlank writes_toDigits)

/-! ### Letter case -/

/-- The number of a character in lower case. -/
theorem toNat_toLower (c : Char) :
    c.toLower.toNat = if 65 ≤ c.toNat ∧ c.toNat ≤ 90 then c.toNat + 32 else c.toNat := by
  delta Char.toLower
  by_cases h : 'A'.val ≤ c.val ∧ c.val ≤ 'Z'.val
  · have hupper : 65 ≤ c.toNat ∧ c.toNat ≤ 90 := h
    have hshift : ('a'.val - 'A'.val).toNat = 32 := by decide
    rw [dif_pos h, if_pos hupper, Char.toNat, UInt32.toNat_add, hshift]
    change (c.toNat + 32) % 2 ^ 32 = c.toNat + 32
    omega
  · have hother : ¬(65 ≤ c.toNat ∧ c.toNat ≤ 90) := h
    rw [dif_neg h, if_neg hother]

/-- The number of a character in upper case. -/
theorem toNat_toUpper (c : Char) :
    c.toUpper.toNat = if 97 ≤ c.toNat ∧ c.toNat ≤ 122 then c.toNat - 32 else c.toNat := by
  delta Char.toUpper
  by_cases h : 'a'.val ≤ c.val ∧ c.val ≤ 'z'.val
  · have hlower : 97 ≤ c.toNat ∧ c.toNat ≤ 122 := h
    -- The shift to upper case is a subtraction, made by an addition that overflows.
    have hshift : ('A'.val - 'a'.val).toNat = 2 ^ 32 - 32 := by decide
    rw [dif_pos h, if_pos hlower, Char.toNat, UInt32.toNat_add, hshift]
    change (c.toNat + (2 ^ 32 - 32)) % 2 ^ 32 = c.toNat - 32
    omega
  · have hother : ¬(97 ≤ c.toNat ∧ c.toNat ≤ 122) := h
    rw [dif_neg h, if_neg hother]

theorem isUpper_iff (c : Char) :
    c.isUpper ↔ 65 ≤ c.toNat ∧ c.toNat ≤ 90 := by
  change decide ('A'.val ≤ c.val ∧ c.val ≤ 'Z'.val) = true ↔ _
  exact decide_eq_true_iff

theorem isLower_iff (c : Char) :
    c.isLower ↔ 97 ≤ c.toNat ∧ c.toNat ≤ 122 := by
  change (decide ('a'.val ≤ c.val) && decide (c.val ≤ 'z'.val)) = true ↔ _
  rw [Bool.and_eq_true, decide_eq_true_eq, decide_eq_true_eq]
  exact Iff.rfl

theorem isAlpha_iff (c : Char) :
    c.isAlpha ↔ (65 ≤ c.toNat ∧ c.toNat ≤ 90) ∨ (97 ≤ c.toNat ∧ c.toNat ≤ 122) := by
  change (c.isUpper || c.isLower) = true ↔ _
  rw [Bool.or_eq_true, isUpper_iff, isLower_iff]

/-- What is in upper case stays as it is. -/
theorem toUpper_of_isUpper
    {c : Char}
    (h : c.isUpper) :
    c.toUpper = c := by
  have hupper := (isUpper_iff c).1 h
  rw [← Char.toNat_inj, toNat_toUpper, if_neg (by omega)]

theorem isBlank_of_isAlpha
    {c : Char}
    (h : c.isAlpha) :
    isBlank c = false := by
  rw [isAlpha_iff] at h
  simp only [isBlank, Bool.or_eq_false_iff, Bool.and_eq_false_iff, decide_eq_false_iff_not,
    beq_eq_false_iff_ne, ne_eq]
  omega

/-- Only letters change. -/
theorem isAlpha_of_toLower_ne
    {c : Char}
    (h : c.toLower ≠ c) :
    c.isAlpha ∧ c.toLower.isAlpha := by
  rw [Ne, ← Char.toNat_inj] at h
  rw [isAlpha_iff, isAlpha_iff]
  rw [toNat_toLower] at h ⊢
  split_ifs at h ⊢ <;> omega

theorem isBlank_toLower (c : Char) :
    isBlank c.toLower = isBlank c := by
  by_cases h : c.toLower = c
  · rw [h]
  · obtain ⟨hc, hlower⟩ := isAlpha_of_toLower_ne h
    rw [isBlank_of_isAlpha hc, isBlank_of_isAlpha hlower]

/-- What is no letter is equal up to case to itself only. -/
theorem eq_of_toLower_eq
    {c d : Char}
    (h : c.toLower = d.toLower)
    (hd : d.isAlpha = false) :
    c = d := by
  rw [Bool.eq_false_iff, Ne, isAlpha_iff] at hd
  rw [← Char.toNat_inj, toNat_toLower, toNat_toLower] at h
  rw [← Char.toNat_inj]
  split_ifs at h <;> omega

/-- Characters are equal in lower case exactly if they are in upper case. -/
theorem toLower_eq_iff (c d : Char) :
    c.toLower = d.toLower ↔ c.toUpper = d.toUpper := by
  simp only [← Char.toNat_inj, toNat_toLower, toNat_toUpper]
  split_ifs <;> omega

/-- Texts are equal in lower case exactly if they are in upper case. -/
theorem eqIgnoringCase_iff (s t : String) :
    eqIgnoringCase s t ↔ upperAscii s = upperAscii t := by
  rw [eqIgnoringCase, beq_iff_eq, upperAscii, upperAscii, String.ofList_inj]
  generalize s.toList = cs
  generalize t.toList = ds
  induction cs generalizing ds with
  | nil =>
      rw [List.map_nil, List.map_nil, List.nil_eq, List.nil_eq, List.map_eq_nil_iff,
        List.map_eq_nil_iff]
  | cons c cs ih =>
      cases ds with
      | nil =>
          exact iff_of_false (List.cons_ne_nil _ _) (List.cons_ne_nil _ _)
      | cons d ds =>
          simp only [List.map_cons, List.cons.injEq, toLower_eq_iff, ih]

/-- Of texts that are equal up to case, each character of one is one of the other up to
case. -/
theorem exists_toLower_eq
    {s t : String} {c : Char}
    (h : eqIgnoringCase s t)
    (hc : c ∈ t.toList) :
    ∃ d ∈ s.toList, d.toLower = c.toLower := by
  have hmem : c.toLower ∈ s.toList.map Char.toLower := by
    rw [beq_iff_eq.1 h]
    exact List.mem_map_of_mem hc
  exact List.mem_map.1 hmem

theorem eqIgnoringCase_symm
    {s t : String}
    (h : eqIgnoringCase s t) :
    eqIgnoringCase t s := by
  rw [eqIgnoringCase_iff] at h ⊢
  exact h.symm

/-! ### Spellings -/

/-- The text is the word up to the case of ASCII letters, with blanks around it. -/
def Respells (s word : String) : Prop :=
  ∃ (front back : List Char) (core : String), s.toList = front ++ (core.toList ++ back) ∧
    (∀ c ∈ front, isBlank c) ∧ (∀ c ∈ back, isBlank c) ∧ eqIgnoringCase core word

namespace Respells

variable {s word : String}

/-- Without its blanks a spelling is the word up to case. -/
theorem exists_trims
    (h : Respells s word)
    (hword : ∀ c ∈ word.toList, isBlank c = false) :
    ∃ core : String, Trims s.toList core.toList ∧ eqIgnoringCase core word := by
  obtain ⟨front, back, core, hparts, hfront, hback, hcase⟩ := h
  have hcore : ∀ c ∈ core.toList, isBlank c = false := by
    intro c hc
    obtain ⟨d, hd, heq⟩ := exists_toLower_eq (eqIgnoringCase_symm hcase) hc
    rw [← isBlank_toLower, ← heq, isBlank_toLower]
    exact hword d hd
  refine ⟨core, ?_, hcase⟩
  rw [hparts]
  exact trims_of_noBlank hfront hback hcore

/-- A spelling without its blanks is a spelling. -/
theorem trim
    (h : Respells s word)
    (hword : ∀ c ∈ word.toList, isBlank c = false) :
    Respells (Text.trim s) word := by
  obtain ⟨core, htrims, hcase⟩ := h.exists_trims hword
  have htrim : Text.trim s = core := by
    rw [Text.trim, (trims_iff ..).1 htrims, String.ofList_toList]
  exact ⟨[], [], core, by simp [htrim], by simp, by simp, hcase⟩

/-- **A word without letters has one spelling**, but for the blanks. -/
theorem trims
    (h : Respells s word)
    (hword : ∀ c ∈ word.toList, isBlank c = false ∧ c.isAlpha = false) :
    Trims s.toList word.toList := by
  obtain ⟨core, htrims, hcase⟩ := h.exists_trims fun c hc => (hword c hc).1
  have hsame : core.toList = word.toList := by
    have hmap := beq_iff_eq.1 hcase
    have hlength : core.toList.length = word.toList.length := by
      simpa using congrArg List.length hmap
    refine List.ext_getElem hlength fun i hi hi' => ?_
    have hi_eq := List.getElem_of_eq hmap (by simpa using hi)
    rw [List.getElem_map, List.getElem_map] at hi_eq
    exact eq_of_toLower_eq hi_eq (hword _ (List.getElem_mem hi')).2
  exact hsame ▸ htrims

end Respells

/-- **What is trimmed and folded to a word** in upper case is a spelling of it. -/
theorem upperAscii_trim_eq_iff
    {word : String}
    (hupper : upperAscii word = word)
    (hword : ∀ c ∈ word.toList, isBlank c = false)
    (s : String) :
    upperAscii (trim s) = word ↔ Respells s word := by
  constructor
  · intro h
    obtain ⟨front, back, hparts, hfront, hback⟩ := ((trims_iff s.toList _).2 rfl).parts
    refine ⟨front, back, trim s, ?_, hfront, hback, ?_⟩
    · rw [trim, String.toList_ofList]
      exact hparts
    · rw [eqIgnoringCase_iff, hupper]
      exact h
  · intro h
    obtain ⟨core, htrims, hcase⟩ := h.exists_trims hword
    rw [trim, (trims_iff ..).1 htrims, String.ofList_toList,
      (eqIgnoringCase_iff ..).1 hcase, hupper]

/-- A spelling of a number in decimal is a literal of it. -/
theorem literal_of_respells
    {s : String} {n : Nat}
    (h : Respells s (toString n)) :
    ∃ core, Trims s.toList core ∧ Literal core n := by
  have hdigits : (toString n).toList = Nat.toDigits 10 n := by
    rw [Nat.toString_eq_repr, Nat.toList_repr]
  have hplain : ∀ c ∈ (toString n).toList, isBlank c = false ∧ c.isAlpha = false := by
    intro c hc
    rw [hdigits] at hc
    have hdigit := Nat.isDigit_of_mem_toDigits (by decide) (by decide) hc
    refine ⟨(isDigit_ne hdigit).1, Bool.eq_false_iff.2 fun halpha => ?_⟩
    rw [isDigit_iff] at hdigit
    rw [isAlpha_iff] at halpha
    omega
  refine ⟨_, h.trims hplain, ?_⟩
  rw [hdigits]
  exact .intro .decimal .none (writes_toDigits (by decide) (by decide) n)

/-- Case and blanks of any kind. -/
example : Respells "\t Esme_rOk\u00a0\n" "ESME_ROK" :=
  (upperAscii_trim_eq_iff (by decide) (by simp [isBlank]) _).1 (by decide +kernel)

end Text
end SmppReplay
