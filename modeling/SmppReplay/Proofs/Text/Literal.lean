import SmppReplay.Proofs.Text.Numeral
import Mathlib.Data.Nat.Digits.Lemmas

/-!
# Integer literals

**Question.**  Which texts are integer literals, and which numbers do they write?

**Grammar.** Without the blanks at both ends (`Trims`) a literal is a mark for its radix, at
most one plus sign, and digits (`Literal`).  Digits write a number with the highest place
first (`Writes`).

Main facts:
* `integer?_eq_some_iff`: a text is a literal of the number that is read;
* `integer?_of_literal`: a literal is read, unless its number is too large;
* `integerBelow?_eq_some_iff`: a bound lets the literals of the numbers below it through.
-/

namespace SmppReplay
namespace Text
namespace Numeral

/-! ### Digits -/

/-- The digits in the order of their values. -/
def lowerDigits : List Char :=
  ['0', '1', '2', '3', '4', '5', '6', '7', '8', '9', 'a', 'b', 'c', 'd', 'e', 'f']

/-- The digits in the order of their values, the letters in upper case. -/
def upperDigits : List Char :=
  ['0', '1', '2', '3', '4', '5', '6', '7', '8', '9', 'A', 'B', 'C', 'D', 'E', 'F']

/-- The character is the digit of a value in the radix. -/
def IsDigit (radix d : Nat) (c : Char) : Prop :=
  d < radix ∧ (lowerDigits[d]? = some c ∨ upperDigits[d]? = some c)

/-- The characters are digits that write the number, the highest place first. -/
def Writes (radix : Nat) (cs : List Char) (n : Nat) : Prop :=
  cs ≠ [] ∧ ∃ ds, List.Forall₂ (IsDigit radix) ds cs ∧ Nat.ofDigits radix ds.reverse = n

theorem digit?_eq_some_iff (c : Char) (d : Nat) :
    digit? c = some d ↔ lowerDigits[d]? = some c ∨ upperDigits[d]? = some c := by
  constructor
  · intro h
    have hsmall : c.toNat < 103 := by
      by_contra hlarge
      have hnone : digit? c = none := by
        have hbeyond : ∀ d : Char, d.toNat < 103 → ¬ c ≤ d := by
          intro d hd hle
          have hle : c.toNat ≤ d.toNat := hle
          omega
        simp [digit?, hbeyond]
      simp [hnone] at h
    have hall : ∀ n < 103, ∀ d ∈ digit? (Char.ofNat n),
        lowerDigits[d]? = some (Char.ofNat n) ∨ upperDigits[d]? = some (Char.ofNat n) := by
      decide +kernel
    rw [← Char.ofNat_toNat c] at h ⊢
    exact hall _ hsmall d h
  · have hlower : ∀ d < 16, lowerDigits[d]?.bind digit? = some d := by
      decide
    have hupper : ∀ d < 16, upperDigits[d]?.bind digit? = some d := by
      decide
    rintro (h | h)
    · have hd : d < lowerDigits.length := (List.getElem?_eq_some_iff.1 h).1
      exact (congrArg (Option.bind · digit?) h).symm.trans (hlower d hd)
    · have hd : d < upperDigits.length := (List.getElem?_eq_some_iff.1 h).1
      exact (congrArg (Option.bind · digit?) h).symm.trans (hupper d hd)

theorem digitIn?_eq_some_iff (radix d : Nat) (c : Char) :
    digitIn? radix c = some d ↔ IsDigit radix d c := by
  rw [digitIn?, Option.filter_eq_some_iff, digit?_eq_some_iff, decide_eq_true_iff,
    IsDigit, and_comm]

/-- A digit is no blank, no sign, and no letter of a mark. -/
theorem IsDigit.ne
    {radix d : Nat} {c : Char}
    (h : IsDigit radix d c) :
    isBlank c = false ∧ c ≠ '+' ∧ c ≠ '-' ∧ c ≠ 'x' ∧ c ≠ 'X' := by
  have hmem : c ∈ lowerDigits ++ upperDigits := by
    rcases h.2 with h | h
    · exact List.mem_append_left _ (List.mem_of_getElem? h)
    · exact List.mem_append_right _ (List.mem_of_getElem? h)
  have hall : (lowerDigits ++ upperDigits).all fun c =>
      !isBlank c && c != '+' && c != '-' && c != 'x' && c != 'X' := by
    decide
  simpa [and_assoc] using List.all_eq_true.1 hall c hmem

/-! ### Numbers that digits write -/

/-- Digits are read from the front, each as the next lower place. -/
theorem continue?_eq_some_iff (radix acc n : Nat) (cs : List Char) :
    continue? radix acc cs = some n ↔
      ∃ ds, List.Forall₂ (IsDigit radix) ds cs ∧
        acc * radix ^ cs.length + Nat.ofDigits radix ds.reverse = n := by
  induction cs generalizing acc with
  | nil =>
      simp [continue?]
  | cons c cs ih =>
      -- The first digit moves up by as many places as there are digits behind it.
      have hplaces : ∀ d ds, List.Forall₂ (IsDigit radix) ds cs →
          acc * radix ^ (c :: cs).length + Nat.ofDigits radix (d :: ds).reverse =
            (acc * radix + d) * radix ^ cs.length + Nat.ofDigits radix ds.reverse := by
        intro d ds hds
        rw [List.reverse_cons, Nat.ofDigits_append, Nat.ofDigits_singleton,
          List.length_reverse, hds.length_eq, List.length_cons]
        ring
      rw [continue?, Option.bind_eq_some_iff]
      constructor
      · rintro ⟨d, hd, hrest⟩
        obtain ⟨ds, hds, rfl⟩ := (ih _).1 hrest
        exact ⟨d :: ds, .cons ((digitIn?_eq_some_iff ..).1 hd) hds, hplaces d ds hds⟩
      · rintro ⟨ds, hds, rfl⟩
        cases hds with
        | @cons d _ ds _ hd hds =>
            exact ⟨d, (digitIn?_eq_some_iff ..).2 hd,
              (ih _).2 ⟨ds, hds, (hplaces d ds hds).symm⟩⟩

theorem ofDigits?_eq_some_iff (radix n : Nat) (cs : List Char) :
    ofDigits? radix cs = some n ↔ Writes radix cs n := by
  cases cs with
  | nil =>
      simp [ofDigits?, Writes]
  | cons c cs =>
      rw [ofDigits?, continue?_eq_some_iff]
      simp [Writes]

namespace Writes

variable {radix n : Nat} {cs : List Char}

theorem exists_isDigit
    {c : Char}
    (h : Writes radix cs n)
    (hc : c ∈ cs) :
    ∃ d, IsDigit radix d c := by
  obtain ⟨-, ds, hds, -⟩ := h
  induction hds with
  | nil =>
      cases hc
  | cons hd _ ih =>
      rcases List.mem_cons.1 hc with rfl | hc
      · exact ⟨_, hd⟩
      · exact ih hc

/-- Zeros in front do not count. -/
theorem zeros
    (h : Writes radix cs n)
    (hradix : 0 < radix)
    (k : Nat) :
    Writes radix (List.replicate k '0' ++ cs) n := by
  obtain ⟨hne, ds, hds, rfl⟩ := h
  have hzero : IsDigit radix 0 '0' := ⟨hradix, .inl rfl⟩
  refine ⟨by simp [hne], List.replicate k 0 ++ ds, ?_, ?_⟩
  · induction k with
    | zero =>
        exact hds
    | succ k ih =>
        exact .cons hzero ih
  · rw [List.reverse_append, List.reverse_replicate, Nat.ofDigits_append_replicate_zero]

/-- One more digit is the lowest place. -/
theorem snoc
    {d : Nat} {c : Char}
    (h : Writes radix cs n)
    (hc : IsDigit radix d c) :
    Writes radix (cs ++ [c]) (n * radix + d) := by
  obtain ⟨hne, ds, hds, rfl⟩ := h
  refine ⟨by simp, ds ++ [d], List.rel_append hds (.cons hc .nil), ?_⟩
  rw [List.reverse_append, List.reverse_singleton, List.singleton_append, Nat.ofDigits_cons]
  ring

end Writes

theorem isDigit_digitChar
    {radix d : Nat}
    (hradix : radix ≤ 16)
    (hd : d < radix) :
    IsDigit radix d (Nat.digitChar d) := by
  have hall : ∀ d < 16, lowerDigits[d]? = some (Nat.digitChar d) := by
    decide
  exact ⟨hd, .inl (hall d (Nat.lt_of_lt_of_le hd hradix))⟩

/-- Each number has digits that write it. -/
theorem writes_toDigits
    {radix : Nat}
    (hradix : 1 < radix)
    (hmax : radix ≤ 16)
    (n : Nat) :
    Writes radix (Nat.toDigits radix n) n := by
  induction n using Nat.strongRecOn with
  | ind n ih =>
      rw [Nat.toDigits_eq_if hradix]
      split_ifs with hsmall
      · exact ⟨by simp, [n], .cons (isDigit_digitChar hmax hsmall) .nil, Nat.ofDigits_singleton⟩
      · have hlast : n % radix < radix := Nat.mod_lt n (by omega)
        have hmore := (ih (n / radix) (Nat.div_lt_self (by omega) hradix)).snoc
          (isDigit_digitChar hmax hlast)
        rw [Nat.mul_comm, Nat.div_add_mod] at hmore
        exact hmore

/-! ### Literals -/

/-- What may stand in front of digits: one plus sign at most. -/
inductive IsSign : List Char → Prop
  | none : IsSign []
  | plus : IsSign ['+']

/-- The mark of a radix. -/
inductive Marks : List Char → Nat → Prop
  | decimal : Marks [] 10
  | lower : Marks ['0', 'x'] 16
  | upper : Marks ['0', 'X'] 16

/-- The characters are an integer literal of the number, of whatever size. -/
inductive Literal : List Char → Nat → Prop
  | intro {mark sign digits : List Char} {radix n : Nat} (hmark : Marks mark radix)
      (hsign : IsSign sign)
      (hdigits : Writes radix digits n) : Literal (mark ++ (sign ++ digits)) n

/-- The second text is the first one without the blanks at both ends. -/
structure Trims (cs core : List Char) : Prop where
  parts : ∃ front back, cs = front ++ (core ++ back) ∧ (∀ c ∈ front, isBlank c) ∧
    ∀ c ∈ back, isBlank c
  first : ∀ c ∈ core.head?, isBlank c = false
  last : ∀ c ∈ core.getLast?, isBlank c = false

/-- Blanks go away, and nothing that does not open with one. -/
theorem dropWhile_isBlank
    {front cs : List Char}
    (hfront : ∀ c ∈ front, isBlank c)
    (hcs : ∀ c ∈ cs.head?, isBlank c = false) :
    (front ++ cs).dropWhile isBlank = cs := by
  rw [List.dropWhile_append_of_pos hfront, List.dropWhile_eq_self_iff]
  intro hlen
  rw [hcs _ (by rw [List.head?_eq_getElem?, List.getElem?_eq_getElem hlen]; rfl)]
  exact Bool.false_ne_true

theorem trims_iff (cs core : List Char) :
    Trims cs core ↔ trimRight (trimLeft cs) = core := by
  constructor
  · rintro ⟨⟨front, back, rfl, hfront, hback⟩, hfirst, hlast⟩
    have hback' : ∀ c ∈ back.reverse, isBlank c := by
      simpa using hback
    have hlast' : ∀ c ∈ core.reverse.head?, isBlank c = false := by
      simpa using hlast
    cases core with
    | nil =>
        have hall : ∀ c ∈ front ++ back, isBlank c := List.forall_mem_append.2 ⟨hfront, hback⟩
        have hnone : (front ++ back ++ []).dropWhile isBlank = [] :=
          dropWhile_isBlank hall (by simp)
        rw [List.append_nil] at hnone
        rw [List.nil_append, trimLeft, hnone]
        rfl
    | cons c core =>
        rw [trimLeft, dropWhile_isBlank hfront (by simpa using hfirst), trimRight,
          List.reverse_append, dropWhile_isBlank hback' hlast', List.reverse_reverse]
  · rintro rfl
    have hkept : ∀ ds : List Char, ∀ c ∈ (ds.dropWhile isBlank).head?, isBlank c = false := by
      intro ds c hc
      have hhead := List.head?_dropWhile_not isBlank ds
      rw [Option.mem_def.1 hc] at hhead
      exact hhead
    have htaken : ∀ ds : List Char, ∀ c ∈ ds.takeWhile isBlank, isBlank c :=
      fun ds c hc => List.mem_takeWhile_imp hc
    have hright : trimLeft cs =
        trimRight (trimLeft cs) ++ ((trimLeft cs).reverse.takeWhile isBlank).reverse := by
      rw [trimRight, ← List.reverse_append, List.takeWhile_append_dropWhile,
        List.reverse_reverse]
    refine ⟨⟨cs.takeWhile isBlank, ((trimLeft cs).reverse.takeWhile isBlank).reverse,
      ?_, htaken cs, ?_⟩, ?_, ?_⟩
    · rw [← hright]
      exact List.takeWhile_append_dropWhile.symm
    · intro c hc
      exact htaken _ c (List.mem_reverse.1 hc)
    · intro c hc
      refine hkept cs c ?_
      rw [← trimLeft, hright, List.head?_append, Option.mem_def.1 hc]
      rfl
    · intro c hc
      rw [trimRight, List.getLast?_reverse] at hc
      exact hkept _ c hc

/-- What has no blank is left without those around it. -/
theorem trims_of_noBlank
    {front core back : List Char}
    (hfront : ∀ c ∈ front, isBlank c)
    (hback : ∀ c ∈ back, isBlank c)
    (hcore : ∀ c ∈ core, isBlank c = false) :
    Trims (front ++ (core ++ back)) core where
  parts := ⟨front, back, rfl, hfront, hback⟩
  first := fun c hc => hcore c (List.mem_of_head? hc)
  last := fun c hc => hcore c (List.mem_of_getLast? hc)

/-- Without the blanks a text has each other character as often as with them. -/
theorem Trims.count_eq
    {cs core : List Char} {c : Char}
    (h : Trims cs core)
    (hc : isBlank c = false) :
    cs.count c = core.count c := by
  obtain ⟨⟨front, back, rfl, hfront, hback⟩, -, -⟩ := h
  have hnone : ∀ ds : List Char, (∀ d ∈ ds, isBlank d) → ds.count c = 0 := by
    intro ds hds
    refine List.count_eq_zero.2 fun hmem => ?_
    rw [hds c hmem] at hc
    cases hc
  rw [List.count_append, List.count_append, hnone front hfront, hnone back hback,
    Nat.zero_add, Nat.add_zero]

/-! ### Reading literals -/

/-- Digits with a sign in front are read, unless their number is too large. -/
theorem unsigned?_of_writes
    {radix n : Nat} {sign digits : List Char}
    (hsign : IsSign sign)
    (h : Writes radix digits n)
    (bound : Nat) :
    unsigned? radix bound (sign ++ digits) = if n < bound then some n else none := by
  have hread := (ofDigits?_eq_some_iff ..).2 h
  unfold unsigned?
  cases hsign with
  | plus =>
      simp [hread, Option.filter_some]
  | none =>
      rw [List.nil_append]
      split
      · rename_i ds
        obtain ⟨d, hd⟩ := h.exists_isDigit List.mem_cons_self
        exact absurd rfl hd.ne.2.1
      · simp [hread, Option.filter_some]

theorem unsigned?_eq_some
    {radix bound n : Nat} {cs : List Char}
    (h : unsigned? radix bound cs = some n) :
    n < bound ∧ ∃ sign digits, cs = sign ++ digits ∧ IsSign sign ∧ Writes radix digits n := by
  unfold unsigned? at h
  obtain ⟨hread, hbound⟩ := Option.filter_eq_some_iff.1 h
  refine ⟨of_decide_eq_true hbound, ?_⟩
  rw [ofDigits?_eq_some_iff] at hread
  split at hread
  · exact ⟨['+'], _, rfl, .plus, hread⟩
  · exact ⟨[], _, rfl, .none, hread⟩

/-- **A literal is read, unless its number is too large.** -/
theorem integer?_of_literal
    {s : String} {core : List Char} {n : Nat}
    (htrims : Trims s.toList core)
    (h : Literal core n) :
    integer? s = if n < UInt64.size then some (UInt64.ofNat n) else none := by
  rw [integer?, (trims_iff ..).1 htrims]
  cases h with
  | @intro mark sign digits radix n hmark hsign hdigits =>
      have hread := unsigned?_of_writes hsign hdigits UInt64.size
      have hmap : (unsigned? radix UInt64.size (sign ++ digits)).map UInt64.ofNat =
          if n < UInt64.size then some (UInt64.ofNat n) else none := by
        rw [hread]
        split <;> rfl
      cases hmark with
      | lower | upper =>
          exact hmap
      | decimal =>
          -- Digits have no second mark in them.
          have hletter : ∀ c ∈ sign ++ digits, c ≠ 'x' ∧ c ≠ 'X' := by
            intro c hc
            rcases List.mem_append.1 hc with hc | hc
            · cases hsign with
              | none => cases hc
              | plus =>
                  obtain rfl := List.mem_singleton.1 hc
                  decide
            · obtain ⟨d, hd⟩ := hdigits.exists_isDigit hc
              exact ⟨hd.ne.2.2.2.1, hd.ne.2.2.2.2⟩
          rw [List.nil_append]
          split
          · rename_i ds hds
            exact absurd rfl (hletter 'x' (by simp [hds])).1
          · rename_i ds hds
            exact absurd rfl (hletter 'X' (by simp [hds])).2
          · exact hmap

/-- **What is read is a literal.** -/
theorem exists_literal
    {s : String} {v : UInt64}
    (h : integer? s = some v) :
    ∃ core, Trims s.toList core ∧ Literal core v.toNat := by
  refine ⟨_, (trims_iff ..).2 rfl, ?_⟩
  obtain ⟨n, hn, rfl⟩ := Option.map_eq_some_iff.1 h
  split at hn
  · rename_i ds hds
    obtain ⟨hbound, sign, digits, rfl, hsign, hdigits⟩ := unsigned?_eq_some hn
    rw [hds, UInt64.toNat_ofNat_of_lt' hbound]
    exact .intro .lower hsign hdigits
  · rename_i ds hds
    obtain ⟨hbound, sign, digits, rfl, hsign, hdigits⟩ := unsigned?_eq_some hn
    rw [hds, UInt64.toNat_ofNat_of_lt' hbound]
    exact .intro .upper hsign hdigits
  · obtain ⟨hbound, sign, digits, hparts, hsign, hdigits⟩ := unsigned?_eq_some hn
    rw [hparts, UInt64.toNat_ofNat_of_lt' hbound]
    exact .intro .decimal hsign hdigits

theorem integer?_eq_some_iff (s : String) (v : UInt64) :
    integer? s = some v ↔ ∃ core, Trims s.toList core ∧ Literal core v.toNat := by
  constructor
  · exact exists_literal
  · rintro ⟨core, htrims, h⟩
    rw [integer?_of_literal htrims h, if_pos v.toNat_lt, UInt64.ofNat_toNat]

/-- Of the literals those below a bound are read. -/
theorem integerBelow?_eq_some_iff
    {bound : Nat}
    (hmax : bound ≤ UInt64.size)
    (s : String) (n : Nat) :
    integerBelow? bound s = some n ↔ n < bound ∧ ∃ core, Trims s.toList core ∧
      Literal core n := by
  rw [integerBelow?, Option.filter_eq_some_iff, decide_eq_true_iff, and_comm,
    Option.map_eq_some_iff]
  refine and_congr_right fun hn => ?_
  constructor
  · rintro ⟨v, hv, rfl⟩
    exact exists_literal hv
  · rintro ⟨core, htrims, h⟩
    have hsmall : n < UInt64.size := Nat.lt_of_lt_of_le hn hmax
    refine ⟨UInt64.ofNat n, ?_, UInt64.toNat_ofNat_of_lt' hsmall⟩
    rw [integer?_of_literal htrims h, if_pos hsmall]

/-- A number of four octets is read from its literals. -/
theorem uint32?_eq_some_iff (s : String) (n : UInt32) :
    uint32? s = some n ↔ ∃ core, Trims s.toList core ∧ Literal core n.toNat := by
  have hmax : UInt32.size ≤ UInt64.size := by
    decide
  rw [uint32?, Option.map_eq_some_iff]
  constructor
  · rintro ⟨k, hk, rfl⟩
    obtain ⟨hbound, core, htrims, h⟩ := (integerBelow?_eq_some_iff hmax s k).1 hk
    exact ⟨core, htrims, by rwa [UInt32.toNat_ofNat_of_lt' hbound]⟩
  · rintro ⟨core, htrims, h⟩
    exact ⟨n.toNat, (integerBelow?_eq_some_iff hmax s _).2 ⟨n.toNat_lt, core, htrims, h⟩,
      UInt32.ofNat_toNat⟩

/-! ### What is no literal -/

/-- Without digits nothing is read. -/
theorem integer?_of_noDigits
    {s : String} {mark sign : List Char} {radix : Nat}
    (htrims : Trims s.toList (mark ++ sign))
    (hmark : Marks mark radix)
    (hsign : IsSign sign) :
    integer? s = none := by
  rw [integer?, (trims_iff ..).1 htrims]
  cases hmark <;> cases hsign <;> rfl

namespace Literal

variable {core : List Char} {n : Nat}

/-- A literal is made up of digits, a letter of its mark, and a sign. -/
theorem mem_cases
    {c : Char}
    (h : Literal core n)
    (hc : c ∈ core) :
    (∃ radix d, IsDigit radix d c) ∨ c ∈ ['x', 'X', '+'] := by
  obtain ⟨hmark, hsign, hdigits⟩ := h
  have hzero : IsDigit 16 0 '0' := ⟨by decide, .inl rfl⟩
  rcases List.mem_append.1 hc with hc | hc
  · cases hmark with
    | decimal =>
        cases hc
    | lower | upper =>
        rcases List.mem_cons.1 hc with rfl | hc
        · exact .inl ⟨16, 0, hzero⟩
        · obtain rfl := List.mem_singleton.1 hc
          exact .inr (by decide)
  rcases List.mem_append.1 hc with hc | hc
  · cases hsign with
    | none =>
        cases hc
    | plus =>
        obtain rfl := List.mem_singleton.1 hc
        exact .inr (by decide)
  · obtain ⟨d, hd⟩ := hdigits.exists_isDigit hc
    exact .inl ⟨_, d, hd⟩

/-- There is no blank in a literal, and no minus sign. -/
theorem ne_of_mem
    {c : Char}
    (h : Literal core n)
    (hc : c ∈ core) :
    isBlank c = false ∧ c ≠ '-' := by
  rcases h.mem_cases hc with ⟨radix, d, hd⟩ | hc
  · exact ⟨hd.ne.1, hd.ne.2.2.1⟩
  · have hall : ['x', 'X', '+'].all fun c => !isBlank c && c != '-' := by
      decide
    simpa using List.all_eq_true.1 hall c hc

/-- A literal with blanks around it is what is left without them. -/
theorem trims
    {front back : List Char}
    (h : Literal core n)
    (hfront : ∀ c ∈ front, isBlank c)
    (hback : ∀ c ∈ back, isBlank c) :
    Trims (front ++ (core ++ back)) core :=
  trims_of_noBlank hfront hback fun _ hc => (h.ne_of_mem hc).1

/-- There is one plus sign in a literal at most. -/
theorem count_plus_le
    (h : Literal core n) :
    core.count '+' ≤ 1 := by
  obtain ⟨hmark, hsign, hdigits⟩ := h
  rename_i mark sign digits radix
  have hmarks : mark.count '+' = 0 := by
    cases hmark <;> rfl
  have hsigns : sign.count '+' ≤ 1 := by
    cases hsign <;> decide
  have hnone : digits.count '+' = 0 := by
    refine List.count_eq_zero.2 fun hmem => ?_
    obtain ⟨d, hd⟩ := hdigits.exists_isDigit hmem
    exact hd.ne.2.1 rfl
  rw [List.count_append, List.count_append, hmarks, hnone]
  omega

end Literal

/-- A text that is no literal of any number is not read. -/
theorem integer?_eq_none
    {s : String}
    (h : ∀ core n, Trims s.toList core → ¬Literal core n) :
    integer? s = none := by
  refine Option.eq_none_iff_forall_ne_some.2 fun v hv => ?_
  obtain ⟨core, htrims, hliteral⟩ := exists_literal hv
  exact h core _ htrims hliteral

end Numeral
end Text

end SmppReplay
