import SmppReplay.AutoReply.Handles
import SmppReplay.Proofs.AutoReply.Switching

/-!
# Handles that share a set

**Question.** Handles are made anew or as copies, and types are switched through them in any
order.  What does each handle show?

**Histories.** A `History` is what was done with handles so far, the last thing outermost;
it names only handles that there are.  Every handle descends by copying from one that was
made anew, its `founder`, and the handles of one founder are a family.

**Method.** A handle has a place among the sets.  Two handles have the same place if and
only if they have the same founder, and the set at that place holds what the history of the
family says (`Kept`).  Each thing that is done keeps this up (`Kept.fresh`, `Kept.share`,
`Kept.switch`).

Main fact:
* `sharingLaws`: what is changed through one handle shows through its family and through no
  other handle; the last change of a type counts; a snapshot lists the types of the handle
  in the order of their numbers.
-/

namespace SmppReplay
namespace AutoReply

/-! ### One set -/

namespace TypeSet

theorem mem_types_iff (s : TypeSet) (t : MessageType) :
    t ∈ s.types ↔ s.contains t = true :=
  List.contains_iff_mem.symm

/-- A number is smaller than no number of itself, so that no type stands twice. -/
theorem nodup_of_idSorted
    {l : List MessageType}
    (h : IdSorted l) :
    l.Nodup := by
  refine List.Pairwise.imp ?_ h
  rintro t _ hlt rfl
  exact UInt32.lt_irrefl _ hlt

/-- Sets with the same types are equal, as their lists are in the same order. -/
theorem types_eq_of_contains
    {s s' : TypeSet}
    (h : ∀ t, s.contains t = s'.contains t) :
    s.types = s'.types := by
  have hmem : ∀ t, t ∈ s.types ↔ t ∈ s'.types := by
    intro t
    rw [mem_types_iff, mem_types_iff, h]
  have hperm : s.types.Perm s'.types :=
    (List.perm_ext_iff_of_nodup (nodup_of_idSorted s.sorted)
      (nodup_of_idSorted s'.sorted)).2 hmem
  refine hperm.eq_of_pairwise ?_ s.sorted s'.sorted
  intro t u _ _ htu hut
  exact absurd (UInt32.lt_trans htu hut) (UInt32.lt_irrefl _)

theorem contains_ofList (l : List MessageType) (t : MessageType) :
    (ofList l).contains t = true ↔ t ∈ l := by
  induction l using List.reverseRecOn with
  | nil =>
      simp [ofList, empty, contains]
  | append_singleton l u ih =>
      have hlast : ofList (l ++ [u]) = (ofList l).switch u true := by
        rw [ofList, List.foldl_append]
        rfl
      rw [hlast, contains_switch]
      by_cases hut : u = t
      · simp [hut]
      · rw [if_neg hut, ih]
        simp [Ne.symm hut]

end TypeSet

/-! ### Single steps -/

namespace Handles

variable {hs : Handles} {h k : Nat}

/-- A handle made later leaves the handles before it alone. -/
theorem get?_fresh_of_lt
    (types : List MessageType)
    (hk : k < hs.family.length)
    (hplaces : ∀ f ∈ hs.family, f < hs.sets.length) :
    (hs.fresh types).get? k = hs.get? k := by
  have hplace := hplaces _ (List.getElem_mem hk)
  simp only [get?, fresh, List.getElem?_append_left hk, List.getElem?_eq_getElem hk,
    Option.bind_some, List.getElem?_append_left hplace]

theorem get?_fresh_length (hs : Handles) (types : List MessageType) :
    (hs.fresh types).get? hs.family.length = some (TypeSet.ofList types) := by
  simp [get?, fresh]

theorem family_share
    (hh : h < hs.family.length) :
    (hs.share h).family = hs.family ++ [hs.family[h]] := by
  simp [share, List.getElem?_eq_getElem hh]

theorem get?_share_of_lt
    (hh : h < hs.family.length)
    (hk : k < hs.family.length) :
    (hs.share h).get? k = hs.get? k := by
  simp only [get?, family_share hh, List.getElem?_append_left hk]
  rfl

/-- A copy shows what its original shows. -/
theorem get?_share_length
    (hh : h < hs.family.length) :
    (hs.share h).get? hs.family.length = hs.get? h := by
  simp only [get?, family_share hh, List.getElem?_concat_length, List.getElem?_eq_getElem hh]
  rfl

@[simp] theorem family_switch (t : MessageType) (enabled : Bool) :
    (hs.switch h t enabled).family = hs.family := by
  unfold switch
  split <;> rfl

/-- Switching through a handle changes the set of the handles at its place, and no other
set. -/
theorem get?_switch
    (hh : h < hs.family.length)
    (k : Nat) (t : MessageType) (enabled : Bool) :
    (hs.switch h t enabled).get? k =
      if hs.family[k]? = hs.family[h]? then (hs.get? k).map (·.switch t enabled)
      else hs.get? k := by
  unfold switch get?
  rw [List.getElem?_eq_getElem hh]
  simp only
  cases hk : hs.family[k]? with
  | none =>
      simp
  | some f =>
      simp only [Option.bind_some, List.getElem?_modify, Option.some.injEq]
      by_cases hf : hs.family[h] = f
      · simp [hf]
      · simp [hf, Ne.symm hf]

/-- A snapshot lists the types of the set that the handle shows. -/
theorem snapshots_of_get?
    {s : TypeSet}
    (hs' : hs.get? h = some s) :
    hs.snapshots[h]? = some s.types := by
  obtain ⟨f, hf, hset⟩ := Option.bind_eq_some_iff.1 hs'
  rw [snapshots, List.getElem?_map, hf, Option.map_some, hset]
  rfl

end Handles

/-! ### Histories -/

/-- What was done with handles, up to a moment at which there are `n` of them.  They are
numbered from zero on in the order in which they were made. -/
inductive History : Nat → Type
  | start : History 0
  /-- A handle is made anew, with a set of its own. -/
  | fresh {n : Nat} (past : History n) (types : List MessageType) : History (n + 1)
  /-- A handle is copied. -/
  | share {n : Nat} (past : History n) (h : Fin n) : History (n + 1)
  /-- A type is switched on or off through a handle. -/
  | switch {n : Nat} (past : History n) (h : Fin n) (t : MessageType)
      (enabled : Bool) : History n

namespace History

/-- The handles and their sets after a history. -/
def handles : {n : Nat} → History n → Handles
  | _, start => {}
  | _, fresh past types => past.handles.fresh types
  | _, share past h => past.handles.share h
  | _, switch past h t enabled => past.handles.switch h t enabled

/-- The handle that was made anew and from which a handle descends by copying. -/
def founder : {n : Nat} → History n → Nat → Nat
  | _, start, k => k
  | _, @fresh n past _, k => if k = n then n else past.founder k
  | _, @share n past h, k => if k = n then past.founder h else past.founder k
  | _, switch past _ _ _, k => past.founder k

/-- The types with which a handle was made anew. -/
def defaults (g : Nat) : {n : Nat} → History n → List MessageType
  | _, start => []
  | _, @fresh n past types => if g = n then types else past.defaults g
  | _, share past _ => past.defaults g
  | _, switch past _ _ _ => past.defaults g

/-- How the type was last switched through a handle of the founder's family. -/
def last? (g : Nat) (t : MessageType) : {n : Nat} → History n → Option Bool
  | _, start => none
  | _, fresh past _ => past.last? g t
  | _, share past _ => past.last? g t
  | _, switch past h u enabled =>
      if past.founder h = g ∧ u = t then some enabled else past.last? g t

/-- The snapshot of a handle. -/
def snapshot? {n : Nat} (past : History n) (h : Fin n) : Option (List MessageType) :=
  past.handles.snapshots[h.val]?

variable {n : Nat}

@[simp] theorem founder_fresh_last (past : History n) (types : List MessageType) :
    (past.fresh types).founder (Fin.last n) = n :=
  if_pos rfl

@[simp] theorem founder_fresh_castSucc (past : History n) (types : List MessageType)
    (h : Fin n) :
    (past.fresh types).founder h.castSucc = past.founder h :=
  if_neg (Nat.ne_of_lt h.isLt)

@[simp] theorem founder_share_last (past : History n) (h : Fin n) :
    (past.share h).founder (Fin.last n) = past.founder h :=
  if_pos rfl

@[simp] theorem founder_share_castSucc (past : History n) (h k : Fin n) :
    (past.share h).founder k.castSucc = past.founder k :=
  if_neg (Nat.ne_of_lt k.isLt)

theorem founder_lt (past : History n) (h : Fin n) :
    past.founder h < n := by
  induction past with
  | start =>
      exact h.elim0
  | @fresh n past types ih =>
      cases h using Fin.lastCases with
      | last =>
          rw [founder_fresh_last]
          exact Nat.lt_succ_self n
      | cast h =>
          rw [founder_fresh_castSucc]
          exact Nat.lt_succ_of_lt (ih h)
  | @share n past h' ih =>
      cases h using Fin.lastCases with
      | last =>
          rw [founder_share_last]
          exact Nat.lt_succ_of_lt (ih h')
      | cast h =>
          rw [founder_share_castSucc]
          exact Nat.lt_succ_of_lt (ih h)
  | switch past h' t enabled ih =>
      exact ih h

/-- Nothing was switched in a family that there is not yet. -/
theorem last?_eq_none
    {g : Nat}
    (past : History n)
    (hg : n ≤ g)
    (t : MessageType) :
    past.last? g t = none := by
  induction past with
  | start =>
      rfl
  | fresh past types ih =>
      exact ih (Nat.le_of_succ_le hg)
  | share past h ih =>
      exact ih (Nat.le_of_succ_le hg)
  | switch past h u enabled ih =>
      have hne : past.founder h ≠ g :=
        Nat.ne_of_lt (Nat.lt_of_lt_of_le (past.founder_lt h) hg)
      rw [last?, if_neg fun hsame => hne hsame.1]
      exact ih hg

/-! ### What handles show -/

/-- A type is on for a handle: it was last switched on in the handle's family, or it was not
switched there and is one of those with which the founder was made. -/
def isOn (past : History n) (k : Nat) (t : MessageType) : Bool :=
  (past.last? (past.founder k) t).getD ((past.defaults (past.founder k)).contains t)

theorem isOn_fresh_last (past : History n) (types : List MessageType) (t : MessageType) :
    (past.fresh types).isOn (Fin.last n) t = types.contains t := by
  have hnone : (past.fresh types).last? n t = none := past.last?_eq_none (Nat.le_refl n) t
  have hdefaults : (past.fresh types).defaults n = types := if_pos rfl
  rw [isOn, founder_fresh_last, hnone, hdefaults, Option.getD_none]

theorem isOn_fresh_castSucc (past : History n) (types : List MessageType) (h : Fin n)
    (t : MessageType) :
    (past.fresh types).isOn h.castSucc t = past.isOn h t := by
  have hdefaults : (past.fresh types).defaults (past.founder h) =
      past.defaults (past.founder h) :=
    if_neg (Nat.ne_of_lt (past.founder_lt h))
  rw [isOn, founder_fresh_castSucc, hdefaults]
  rfl

theorem isOn_share_last (past : History n) (h : Fin n) (t : MessageType) :
    (past.share h).isOn (Fin.last n) t = past.isOn h t := by
  rw [isOn, founder_share_last]
  rfl

theorem isOn_share_castSucc (past : History n) (h k : Fin n) (t : MessageType) :
    (past.share h).isOn k.castSucc t = past.isOn k t := by
  rw [isOn, founder_share_castSucc]
  rfl

theorem isOn_switch (past : History n) (h : Fin n) (t : MessageType) (enabled : Bool)
    (k : Nat) (u : MessageType) :
    (past.switch h t enabled).isOn k u =
      if past.founder h = past.founder k ∧ t = u then enabled else past.isOn k u := by
  change ((past.switch h t enabled).last? (past.founder k) u).getD _ = _
  rw [last?]
  split <;> rfl

/-- The handles agree with the history. -/
structure Kept (past : History n) (hs : Handles) : Prop where
  count : hs.family.length = n
  places : ∀ f ∈ hs.family, f < hs.sets.length
  /-- The handles of one place are a family. -/
  families : ∀ h k : Fin n, hs.family[h.val]? = hs.family[k.val]? ↔
    past.founder h = past.founder k
  /-- A handle shows the types that are on for it. -/
  shows : ∀ h : Fin n, ∃ s, hs.get? h = some s ∧ ∀ t, s.contains t = past.isOn h t

namespace Kept

variable {past : History n} {hs : Handles}

theorem lt_length
    (hkept : Kept past hs)
    (h : Fin n) :
    h.val < hs.family.length :=
  hkept.count.symm ▸ h.isLt

/-- The number of the next handle is how many there are. -/
theorem val_last
    (hkept : Kept past hs) :
    (Fin.last n).val = hs.family.length :=
  hkept.count.symm

/-- With one more handle the handles of one place are still a family, if those at its place
are of its family. -/
theorem families_snoc
    {past' : History (n + 1)} {f g : Nat}
    (hkept : Kept past hs)
    (hlast : past'.founder (Fin.last n) = g)
    (hcast : ∀ h : Fin n, past'.founder h.castSucc = past.founder h)
    (hplace : ∀ h : Fin n, hs.family[h.val]? = some f ↔ past.founder h = g)
    (h k : Fin (n + 1)) :
    (hs.family ++ [f])[h.val]? = (hs.family ++ [f])[k.val]? ↔
      past'.founder h = past'.founder k := by
  have hold : ∀ h : Fin n, (hs.family ++ [f])[h.castSucc.val]? = hs.family[h.val]? :=
    fun h => List.getElem?_append_left (hkept.lt_length h)
  have hnew : (hs.family ++ [f])[(Fin.last n).val]? = some f := by
    rw [hkept.val_last]
    exact List.getElem?_concat_length
  cases h using Fin.lastCases with
  | last =>
      cases k using Fin.lastCases with
      | last =>
          simp
      | cast k =>
          rw [hnew, hold, hlast, hcast, eq_comm, hplace, eq_comm]
  | cast h =>
      cases k using Fin.lastCases with
      | last =>
          rw [hnew, hold, hlast, hcast, hplace]
      | cast k =>
          rw [hold, hold, hcast, hcast]
          exact hkept.families h k

/-- A new handle gets a place of its own. -/
theorem fresh
    (hkept : Kept past hs)
    (types : List MessageType) :
    Kept (past.fresh types) (hs.fresh types) where
  count := by
    simp [Handles.fresh, hkept.count]
  places := by
    intro f hf
    simp only [Handles.fresh, List.mem_append, List.mem_singleton, List.length_append,
      List.length_singleton] at hf ⊢
    rcases hf with hf | rfl
    · exact Nat.lt_succ_of_lt (hkept.places f hf)
    · exact Nat.lt_succ_self _
  families := by
    refine hkept.families_snoc (past.founder_fresh_last types)
      (past.founder_fresh_castSucc types) fun h => ?_
    refine iff_of_false (fun hsame => ?_) (Nat.ne_of_lt (past.founder_lt h))
    exact Nat.lt_irrefl _ (hkept.places _ (List.mem_of_getElem? hsame))
  shows := by
    intro h
    cases h using Fin.lastCases with
    | last =>
        refine ⟨TypeSet.ofList types, ?_, fun t => ?_⟩
        · rw [hkept.val_last]
          exact hs.get?_fresh_length types
        · rw [isOn_fresh_last, Bool.eq_iff_iff, TypeSet.contains_ofList,
            List.contains_iff_mem]
    | cast h =>
        obtain ⟨s, hs', hcontains⟩ := hkept.shows h
        refine ⟨s, ?_, fun t => ?_⟩
        · exact (Handles.get?_fresh_of_lt types (hkept.lt_length h) hkept.places).trans hs'
        · rw [isOn_fresh_castSucc]
          exact hcontains t

/-- A copy gets the place of its original. -/
theorem share
    (hkept : Kept past hs)
    (h : Fin n) :
    Kept (past.share h) (hs.share h) where
  count := by
    rw [Handles.family_share (hkept.lt_length h), List.length_append, hkept.count]
    rfl
  places := by
    intro f hf
    rw [Handles.family_share (hkept.lt_length h), List.mem_append, List.mem_singleton] at hf
    rcases hf with hf | rfl
    · exact hkept.places f hf
    · exact hkept.places _ (List.getElem_mem _)
  families := by
    rw [Handles.family_share (hkept.lt_length h)]
    refine hkept.families_snoc (past.founder_share_last h)
      (past.founder_share_castSucc h) fun k => ?_
    rw [← List.getElem?_eq_getElem (hkept.lt_length h)]
    exact hkept.families k h
  shows := by
    intro k
    cases k using Fin.lastCases with
    | last =>
        obtain ⟨s, hs', hcontains⟩ := hkept.shows h
        refine ⟨s, ?_, fun t => ?_⟩
        · rw [hkept.val_last, Handles.get?_share_length (hkept.lt_length h)]
          exact hs'
        · rw [isOn_share_last]
          exact hcontains t
    | cast k =>
        obtain ⟨s, hs', hcontains⟩ := hkept.shows k
        refine ⟨s, ?_, fun t => ?_⟩
        · exact (Handles.get?_share_of_lt (hkept.lt_length h) (hkept.lt_length k)).trans hs'
        · rw [isOn_share_castSucc]
          exact hcontains t

/-- What is switched through a handle is switched for the handles at its place. -/
theorem switch
    (hkept : Kept past hs)
    (h : Fin n) (t : MessageType) (enabled : Bool) :
    Kept (past.switch h t enabled) (hs.switch h t enabled) where
  count := by
    rw [Handles.family_switch]
    exact hkept.count
  places := by
    have hlength : (hs.switch h t enabled).sets.length = hs.sets.length := by
      unfold Handles.switch
      split
      · exact List.length_modify ..
      · rfl
    rw [Handles.family_switch, hlength]
    exact hkept.places
  families := by
    rw [Handles.family_switch]
    exact hkept.families
  shows := by
    intro k
    obtain ⟨s, hs', hcontains⟩ := hkept.shows k
    have hget := Handles.get?_switch (hkept.lt_length h) k t enabled
    by_cases hsame : past.founder h = past.founder k
    · rw [if_pos ((hkept.families k h).2 hsame.symm), hs'] at hget
      refine ⟨s.switch t enabled, hget, fun u => ?_⟩
      rw [TypeSet.contains_switch, hcontains, isOn_switch]
      simp only [hsame, true_and]
    · rw [if_neg fun hplace => hsame ((hkept.families k h).1 hplace).symm, hs'] at hget
      refine ⟨s, hget, fun u => ?_⟩
      rw [isOn_switch, if_neg fun hboth => hsame hboth.1]
      exact hcontains u

end Kept

theorem kept (past : History n) :
    Kept past past.handles := by
  induction past with
  | start =>
      exact ⟨rfl, by rintro f ⟨⟩, fun h => h.elim0, fun h => h.elim0⟩
  | fresh past types ih =>
      exact ih.fresh types
  | share past h ih =>
      exact ih.share h
  | switch past h t enabled ih =>
      exact ih.switch h t enabled

/-- Every handle shows a set, which holds the types that are on for it. -/
theorem exists_set (past : History n) (h : Fin n) :
    ∃ s, past.handles.get? h = some s ∧ past.snapshot? h = some s.types ∧
      ∀ t, s.contains t = past.isOn h t := by
  obtain ⟨s, hs, hcontains⟩ := past.kept.shows h
  exact ⟨s, hs, Handles.snapshots_of_get? hs, hcontains⟩

theorem contains_eq_isOn (past : History n) (h : Fin n) (t : MessageType) :
    past.handles.contains h t = past.isOn h t := by
  obtain ⟨s, hs, -, hcontains⟩ := past.exists_set h
  rw [Handles.contains, hs, Option.any_some, hcontains]

/-- Snapshots differ exactly if some type is on for one of the handles and off for the
other. -/
theorem snapshot?_ne_iff
    {n' : Nat}
    (past : History n) (past' : History n') (h : Fin n) (k : Fin n') :
    past.snapshot? h ≠ past'.snapshot? k ↔ ∃ t, past.isOn h t ≠ past'.isOn k t := by
  obtain ⟨s, -, hsnapshot, hcontains⟩ := past.exists_set h
  obtain ⟨s', -, hsnapshot', hcontains'⟩ := past'.exists_set k
  simp only [hsnapshot, hsnapshot', ← hcontains, ← hcontains', ne_eq, Option.some.injEq]
  constructor
  · intro hne
    by_contra hsame
    push Not at hsame
    exact hne (TypeSet.types_eq_of_contains hsame)
  · rintro ⟨t, ht⟩ heq
    exact ht (congrArg (fun l => List.contains l t) heq)

/-- Switching a type through a handle is a change exactly if the type is not that way
already. -/
theorem changes_iff_isOn (past : History n) (h : Fin n) (t : MessageType) (enabled : Bool) :
    past.handles.changes h t enabled = true ↔ past.isOn h t ≠ enabled := by
  obtain ⟨s, hs, -, hcontains⟩ := past.exists_set h
  rw [Handles.changes, hs, Option.any_some, TypeSet.changes, bne_iff_ne, hcontains]

/-- What switching through one handle changes for another one. -/
theorem snapshot?_switch_ne_iff (past : History n) (h k : Fin n) (t : MessageType)
    (enabled : Bool) :
    (past.switch h t enabled).snapshot? k ≠ past.snapshot? k ↔
      past.founder h = past.founder k ∧ past.handles.changes h t enabled = true := by
  rw [snapshot?_ne_iff, changes_iff_isOn]
  simp only [isOn_switch]
  constructor
  · rintro ⟨u, hu⟩
    by_cases hboth : past.founder h = past.founder k ∧ t = u
    · obtain ⟨hsame, rfl⟩ := hboth
      rw [if_pos ⟨hsame, rfl⟩] at hu
      refine ⟨hsame, ?_⟩
      rw [isOn, hsame]
      exact hu.symm
    · rw [if_neg hboth] at hu
      exact absurd rfl hu
  · rintro ⟨hsame, hchange⟩
    refine ⟨t, ?_⟩
    rw [if_pos ⟨hsame, rfl⟩, isOn, ← hsame]
    exact hchange.symm

end History

/-! ### The laws -/

/-- What handles show after a history. -/
structure SharingLaws {n : Nat} (past : History n) : Prop where
  /-- Switching a type through one handle shows through another one exactly if the two
  descend from the same new handle and it is a change. -/
  visible : ∀ (h k : Fin n) (t : MessageType) (enabled : Bool),
    (past.switch h t enabled).snapshot? k ≠ past.snapshot? k ↔
      past.founder h = past.founder k ∧ past.handles.changes h t enabled = true
  /-- A type is on as it was last switched in the family, and without that if the family
  began with it. -/
  contains : ∀ (h : Fin n) (t : MessageType), past.handles.contains h t = true ↔
    past.last? (past.founder h) t = some true ∨
      past.last? (past.founder h) t = none ∧ t ∈ past.defaults (past.founder h)
  /-- It is a change exactly if the snapshot of the handle is another one behind it. -/
  changes : ∀ (h : Fin n) (t : MessageType) (enabled : Bool),
    past.handles.changes h t enabled = true ↔
      (past.switch h t enabled).snapshot? h ≠ past.snapshot? h
  /-- A snapshot lists the types that are on, each once and in the order of their numbers. -/
  snapshot : ∀ h : Fin n, ∃ types, past.snapshot? h = some types ∧
    IdSorted types ∧ types.Nodup ∧ ∀ t, t ∈ types ↔ past.handles.contains h t = true

/-- **Handles share a set exactly within a family.** -/
theorem sharingLaws {n : Nat} (past : History n) :
    SharingLaws past where
  visible := past.snapshot?_switch_ne_iff
  contains := by
    intro h t
    rw [past.contains_eq_isOn, History.isOn]
    cases past.last? (past.founder h) t with
    | none =>
        simp
    | some enabled =>
        simp
  changes := by
    intro h t enabled
    rw [past.snapshot?_switch_ne_iff]
    exact (and_iff_right rfl).symm
  snapshot := by
    intro h
    obtain ⟨s, -, hsnapshot, hcontains⟩ := past.exists_set h
    refine ⟨s.types, hsnapshot, s.sorted, TypeSet.nodup_of_idSorted s.sorted, fun t => ?_⟩
    rw [TypeSet.mem_types_iff, past.contains_eq_isOn, hcontains]

/-- A copy of the first handle switches a type off for both of them, and a second family
keeps it. -/
example :
    (History.start.fresh [.enquireLink, .deliverSm, .enquireLink]
        |>.fresh [.deliverSmResp, .deliverSm]
        |>.share 0
        |>.switch 2 .deliverSm false).handles.snapshots =
      [[.enquireLink], [.deliverSm, .deliverSmResp], [.enquireLink]] := by
  decide

end AutoReply
end SmppReplay
