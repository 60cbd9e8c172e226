import SmppReplay.Text.Hex
import Mathlib.Tactic

/-!
# Lines of a text

The lines of a text are what stands between its line feeds, so that there is one more of
them than there are line feeds.  Numerals have none.

Main facts:
* `lines_append_feed`: the lines of two texts with a line feed between them;
* `length_lines`: the number of lines.
-/

namespace SmppReplay
namespace Text

/-- The lines of a text. -/
def lines (s : String) : List String :=
  (s.toList.splitOn '\n').map String.ofList

/-- The number of line feeds in a text. -/
def feeds (s : String) : Nat :=
  s.toList.count '\n'

theorem feeds_eq_zero_iff (s : String) :
    feeds s = 0 ↔ '\n' ∉ s.toList :=
  List.count_eq_zero

@[simp] theorem feeds_append (s t : String) :
    feeds (s ++ t) = feeds s + feeds t := by
  rw [feeds, String.toList_append, List.count_append]
  rfl

theorem length_splitOn (c : Char) (cs : List Char) :
    (cs.splitOn c).length = cs.count c + 1 := by
  induction cs with
  | nil =>
      rfl
  | cons d cs ih =>
      rw [List.splitOn_cons_eq_if_modifyHead, List.count_cons]
      by_cases h : d == c
      · rw [if_pos h, if_pos h, List.length_cons, ih]
      · rw [if_neg h, if_neg h, List.length_modifyHead, ih]

theorem length_lines (s : String) :
    (lines s).length = feeds s + 1 := by
  rw [lines, List.length_map, length_splitOn]
  rfl

theorem lines_of_feeds_eq_zero
    {s : String}
    (h : feeds s = 0) :
    lines s = [s] := by
  rw [lines, List.splitOn_eq_singleton ((feeds_eq_zero_iff s).1 h), List.map_singleton,
    String.ofList_toList]

theorem lines_append_feed (s t : String) :
    lines (s ++ ("\n" ++ t)) = lines s ++ lines t := by
  have hchars : (s ++ ("\n" ++ t)).toList = s.toList ++ '\n' :: t.toList := by
    rw [String.toList_append, String.toList_append]
    rfl
  rw [lines, hchars, List.splitOn_append_cons_self, List.map_append]
  rfl

/-! ### Numerals -/

/-- What is no digit is shown by a star. -/
theorem digitChar_of_le
    {d : Nat}
    (h : 16 ≤ d) :
    Nat.digitChar d = '*' := by
  unfold Nat.digitChar
  repeat rw [if_neg (by omega)]

/-- A digit is no line feed, and neither is its upper case. -/
theorem digitChar_ne_feed (d : Nat) :
    Nat.digitChar d ≠ '\n' ∧ (Nat.digitChar d).toUpper ≠ '\n' := by
  by_cases h : d < 16
  · have hall : ∀ d < 16, Nat.digitChar d ≠ '\n' ∧ (Nat.digitChar d).toUpper ≠ '\n' := by
      decide
    exact hall d h
  · rw [digitChar_of_le (Nat.not_lt.1 h)]
    decide

theorem exists_digitChar_of_mem_toDigits
    {base : Nat} {c : Char}
    (hbase : 1 < base)
    (n : Nat)
    (h : c ∈ Nat.toDigits base n) :
    ∃ d, c = Nat.digitChar d := by
  induction n using Nat.strongRecOn with
  | ind n ih =>
      rw [Nat.toDigits_eq_if hbase] at h
      split_ifs at h with hsmall
      · exact ⟨n, List.mem_singleton.1 h⟩
      · rcases List.mem_append.1 h with h | h
        · exact ih _ (Nat.div_lt_self (by omega) hbase) h
        · exact ⟨_, List.mem_singleton.1 h⟩

theorem feeds_ofList_eq_zero
    {cs : List Char}
    (h : ∀ c ∈ cs, c ≠ '\n') :
    feeds (String.ofList cs) = 0 := by
  rw [feeds_eq_zero_iff, String.toList_ofList]
  exact fun hmem => h _ hmem rfl

/-- The characters of a literal can be looked at one by one. -/
theorem feeds_literal
    {cs : List Char}
    (h : cs.all (· != '\n') = true) :
    feeds (String.ofList cs) = 0 :=
  feeds_ofList_eq_zero fun c hc => bne_iff_ne.1 (List.all_eq_true.1 h c hc)

@[simp] theorem feeds_repr (n : Nat) :
    feeds n.repr = 0 := by
  refine feeds_ofList_eq_zero fun c hc => ?_
  obtain ⟨d, rfl⟩ := exists_digitChar_of_mem_toDigits (by decide) n hc
  exact (digitChar_ne_feed d).1

@[simp] theorem feeds_decPadded (width n : Nat) :
    feeds (Numeral.decPadded width n) = 0 := by
  refine feeds_ofList_eq_zero fun c hc => ?_
  rcases List.mem_append.1 hc with hc | hc
  · obtain rfl := List.eq_of_mem_replicate hc
    decide
  · obtain ⟨d, rfl⟩ := exists_digitChar_of_mem_toDigits (by decide) n hc
    exact (digitChar_ne_feed d).1

@[simp] theorem feeds_hexPadded (width n : Nat) :
    feeds (Numeral.hexPadded width n) = 0 := by
  refine feeds_ofList_eq_zero fun c hc => ?_
  rcases List.mem_append.1 hc with hc | hc
  · obtain rfl := List.eq_of_mem_replicate hc
    decide
  · obtain ⟨c', hc', rfl⟩ := List.mem_map.1 hc
    obtain ⟨d, rfl⟩ := exists_digitChar_of_mem_toDigits (by decide) n hc'
    exact (digitChar_ne_feed d).2

@[simp] theorem feeds_upper (bs : List UInt8) :
    feeds (Hex.upper bs) = 0 := by
  refine feeds_ofList_eq_zero fun c hc => ?_
  obtain ⟨b, -, hc⟩ := List.mem_flatMap.1 hc
  rcases List.mem_cons.1 hc with rfl | hc
  · exact (digitChar_ne_feed _).2
  · obtain rfl := List.mem_singleton.1 hc
    exact (digitChar_ne_feed _).2

end Text
end SmppReplay
