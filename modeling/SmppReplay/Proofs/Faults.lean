import Mathlib.Tactic

/-!
# Results with faults

What a result without a fault tells about the steps that led to it, and what every step of a
fold preserves or commutes with.
-/

namespace SmppReplay

section Faults

variable {ε α β : Type}

theorem map_eq_ok
    {x : Except ε α} {f : α → β} {b : β}
    (h : x.map f = .ok b) :
    ∃ a, x = .ok a ∧ f a = b := by
  cases x with
  | error e =>
      cases h
  | ok a =>
      exact ⟨a, rfl, Except.ok.inj h⟩

theorem bind_eq_ok
    {x : Except ε α} {f : α → Except ε β} {b : β}
    (h : (x >>= f) = .ok b) :
    ∃ a, x = .ok a ∧ f a = .ok b := by
  cases x with
  | error e =>
      cases h
  | ok a =>
      exact ⟨a, rfl, h⟩

theorem map_eq_error
    {x : Except ε α} {f : α → β} {e : ε}
    (h : x.map f = .error e) :
    x = .error e := by
  cases x with
  | error e' =>
      exact congrArg Except.error (Except.error.inj h)
  | ok a =>
      cases h

theorem map_eq_error_iff (x : Except ε α) (f : α → β) (e : ε) :
    x.map f = .error e ↔ x = .error e := by
  refine ⟨map_eq_error, ?_⟩
  rintro rfl
  rfl

theorem mapError_eq_ok
    {ε' : Type} {x : Except ε α} {f : ε → ε'} {a : α}
    (h : x.mapError f = .ok a) :
    x = .ok a := by
  cases x with
  | error e =>
      cases h
  | ok b =>
      exact congrArg Except.ok (Except.ok.inj h)

/-- The fault of two steps is that of the first, or that of the second after the first. -/
theorem bind_eq_error
    {x : Except ε α} {f : α → Except ε β} {e : ε}
    (h : (x >>= f) = .error e) :
    x = .error e ∨ ∃ a, x = .ok a ∧ f a = .error e := by
  cases x with
  | error e' =>
      exact .inl (congrArg Except.error (Except.error.inj h))
  | ok a =>
      exact .inr ⟨a, rfl, h⟩

theorem mapM_cons_eq_ok
    {f : α → Except ε β} {a : α} {as : List α} {bs : List β}
    (h : (a :: as).mapM f = .ok bs) :
    ∃ b bs', f a = .ok b ∧ as.mapM f = .ok bs' ∧ bs = b :: bs' := by
  rw [List.mapM_cons] at h
  obtain ⟨b, hb, h⟩ := bind_eq_ok h
  obtain ⟨bs', hbs', h⟩ := bind_eq_ok h
  exact ⟨b, bs', hb, hbs', (Except.ok.inj h).symm⟩

theorem mapM_cons_ok
    {f : α → Except ε β} {a : α} {as : List α} {b : β} {bs : List β}
    (ha : f a = .ok b)
    (has : as.mapM f = .ok bs) :
    (a :: as).mapM f = .ok (b :: bs) := by
  rw [List.mapM_cons, ha, has]
  rfl

/-- The fault of a list is the fault of an item. -/
theorem exists_of_mapM_eq_error
    {f : α → Except ε β} {as : List α} {e : ε}
    (h : as.mapM f = .error e) :
    ∃ a ∈ as, f a = .error e := by
  induction as with
  | nil =>
      cases h
  | cons a as ih =>
      rw [List.mapM_cons] at h
      rcases bind_eq_error h with h | ⟨b, -, h⟩
      · exact ⟨a, by simp, h⟩
      · rcases bind_eq_error h with h | ⟨bs, -, h⟩
        · obtain ⟨a', ha', he⟩ := ih h
          exact ⟨a', List.mem_cons_of_mem a ha', he⟩
        · cases h

/-- Each result of a list is the result of an item. -/
theorem exists_of_mem_mapM
    {f : α → Except ε β} {as : List α} {bs : List β} {b : β}
    (h : as.mapM f = .ok bs)
    (hb : b ∈ bs) :
    ∃ a ∈ as, f a = .ok b := by
  induction as generalizing bs with
  | nil =>
      obtain rfl := Except.ok.inj h
      cases hb
  | cons a as ih =>
      obtain ⟨b', bs', hb', hbs', rfl⟩ := mapM_cons_eq_ok h
      rcases List.mem_cons.1 hb with rfl | hb
      · exact ⟨a, by simp, hb'⟩
      · obtain ⟨a', ha', hf⟩ := ih hbs' hb
        exact ⟨a', List.mem_cons_of_mem a ha', hf⟩

/-- Each item of a list has its result. -/
theorem exists_mem_of_mapM
    {f : α → Except ε β} {as : List α} {bs : List β} {a : α}
    (h : as.mapM f = .ok bs)
    (ha : a ∈ as) :
    ∃ b ∈ bs, f a = .ok b := by
  induction as generalizing bs with
  | nil =>
      cases ha
  | cons a' as ih =>
      obtain ⟨b', bs', hb', hbs', rfl⟩ := mapM_cons_eq_ok h
      rcases List.mem_cons.1 ha with rfl | ha
      · exact ⟨b', by simp, hb'⟩
      · obtain ⟨b, hb, hf⟩ := ih hbs' ha
        exact ⟨b, List.mem_cons_of_mem b' hb, hf⟩

/-- Each item of a list corresponds to its result. -/
theorem forall₂_of_mapM
    {f : α → Except ε β} {as : List α} {bs : List β}
    (h : as.mapM f = .ok bs) :
    List.Forall₂ (fun a b => f a = .ok b) as bs := by
  induction as generalizing bs with
  | nil =>
      obtain rfl := Except.ok.inj h
      exact .nil
  | cons a as ih =>
      obtain ⟨b, bs, hb, hbs, rfl⟩ := mapM_cons_eq_ok h
      exact .cons hb (ih hbs)

/-- Where a partial function has a result for every item, a list can be mapped in two steps. -/
theorem mapM_filterMap
    {γ : Type} {f : α → Except ε β} {g : α → Option γ} {h : γ → Except ε β}
    (as : List α)
    (hf : ∀ a ∈ as, ∃ c, g a = some c ∧ f a = h c) :
    as.mapM f = (as.filterMap g).mapM h := by
  induction as with
  | nil =>
      rfl
  | cons a as ih =>
      obtain ⟨c, hc, hfa⟩ := hf a List.mem_cons_self
      rw [List.filterMap_cons_some hc, List.mapM_cons, List.mapM_cons, hfa,
        ih fun a' ha' => hf a' (List.mem_cons_of_mem a ha')]

/-- Items with known successes make a list with known successes. -/
theorem mapM_eq_ok_iff
    {f : α → Except ε β} {g : α → β} {P : α → Prop} {as : List α}
    (hf : ∀ a ∈ as, ∀ b, f a = .ok b ↔ P a ∧ b = g a)
    (bs : List β) :
    as.mapM f = .ok bs ↔ (∀ a ∈ as, P a) ∧ bs = as.map g := by
  induction as generalizing bs with
  | nil =>
      constructor
      · intro h
        obtain rfl := Except.ok.inj h
        exact ⟨by simp, rfl⟩
      · rintro ⟨-, rfl⟩
        rfl
  | cons a as ih =>
      have ih := ih fun a' ha' => hf a' (List.mem_cons_of_mem a ha')
      constructor
      · intro h
        obtain ⟨b, bs', hb, hbs', rfl⟩ := mapM_cons_eq_ok h
        obtain ⟨ha, rfl⟩ := (hf a List.mem_cons_self b).1 hb
        obtain ⟨has, rfl⟩ := (ih bs').1 hbs'
        exact ⟨List.forall_mem_cons.2 ⟨ha, has⟩, rfl⟩
      · rintro ⟨hall, rfl⟩
        obtain ⟨ha, has⟩ := List.forall_mem_cons.1 hall
        rw [List.mapM_cons, (hf a List.mem_cons_self _).2 ⟨ha, rfl⟩, (ih _).2 ⟨has, rfl⟩]
        rfl

/-- The fault of a list is that of its first item that has one. -/
theorem mapM_eq_error_iff (f : α → Except ε β) (as : List α) (e : ε) :
    as.mapM f = .error e ↔
      ∃ front a back, as = front ++ a :: back ∧ (∀ a' ∈ front, ∃ b, f a' = .ok b) ∧
        f a = .error e := by
  induction as with
  | nil =>
      constructor
      · intro h
        cases h
      · rintro ⟨front, a, back, h, -⟩
        simp at h
  | cons a as ih =>
      constructor
      · intro h
        rw [List.mapM_cons] at h
        rcases bind_eq_error h with h | ⟨b, hb, h⟩
        · exact ⟨[], a, as, rfl, by simp, h⟩
        · rcases bind_eq_error h with h | ⟨bs, -, h⟩
          · obtain ⟨front, a', back, rfl, hfront, ha'⟩ := ih.1 h
            exact ⟨a :: front, a', back, rfl, List.forall_mem_cons.2 ⟨⟨b, hb⟩, hfront⟩, ha'⟩
          · cases h
      · rintro ⟨front, a', back, h, hfront, ha'⟩
        rw [List.mapM_cons]
        cases front with
        | nil =>
            obtain ⟨rfl, rfl⟩ := List.cons.inj h
            rw [ha']
            rfl
        | cons x front =>
            obtain ⟨rfl, rfl⟩ := List.cons.inj h
            obtain ⟨⟨b, hb⟩, hfront⟩ := List.forall_mem_cons.1 hfront
            rw [hb, ih.2 ⟨front, a', back, rfl, hfront, ha'⟩]
            rfl

/-- What every step of a fold preserves holds of its result. -/
theorem foldlM_preserves
    {P : β → Prop} {f : β → α → Except ε β} {as : List α}
    (hf : ∀ a ∈ as, ∀ b b', f b a = .ok b' → P b → P b')
    {b b' : β}
    (h : as.foldlM f b = .ok b')
    (hb : P b) :
    P b' := by
  induction as generalizing b with
  | nil =>
      obtain rfl := Except.ok.inj h
      exact hb
  | cons a as ih =>
      rw [List.foldlM_cons] at h
      obtain ⟨c, hc, h⟩ := bind_eq_ok h
      exact ih (fun a' ha' => hf a' (List.mem_cons_of_mem a ha')) h (hf a (by simp) b c hc hb)

/-- A fold whose steps commute with a change commutes with it. -/
theorem foldlM_map_comm
    {g : β → β} {f : β → α → Except ε β}
    (hf : ∀ b a, f (g b) a = g <$> f b a)
    (as : List α) (b : β) :
    as.foldlM f (g b) = g <$> as.foldlM f b := by
  induction as generalizing b with
  | nil =>
      rfl
  | cons a as ih =>
      rw [List.foldlM_cons, List.foldlM_cons, hf, bind_map_left, map_bind]
      exact bind_congr ih

end Faults

end SmppReplay
