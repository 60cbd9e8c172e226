import SmppReplay.Pdu.FieldMap
import Mathlib.Tactic

/-!
# Maps from fields to values, by their look-up

A map is determined by the values that it gives to the fields, and every operation is known
by what it does to them.

Main facts:
* `eq_of_get?_eq`: two maps that give the same values are the same map;
* `get?_insert`, `get?_erase` and `get?_insertAll`: the values after an operation.
-/

namespace SmppReplay
namespace FieldMap

@[simp] theorem get?_empty (id : FieldId) :
    empty.get? id = none := by
  rfl

/-- An entry of another field does not matter. -/
theorem lookup_cons_of_ne
    {id k : FieldId} (v : FieldValue) (l : List (FieldId × FieldValue))
    (h : id ≠ k) :
    List.lookup id ((k, v) :: l) = l.lookup id := by
  have hbeq : (id == k) = false := by
    simpa using h
  rw [List.lookup_cons, hbeq]

/-- The entries are the values. -/
theorem mem_entries_iff
    (m : FieldMap) (id : FieldId) (v : FieldValue) :
    (id, v) ∈ m.entries ↔ m.get? id = some v := by
  obtain ⟨l, hl⟩ := m
  simp only [get?]
  induction l with
  | nil =>
      simp
  | cons e r ih =>
      obtain ⟨k, w⟩ := e
      obtain ⟨hk, hr⟩ := List.pairwise_cons.1 hl
      by_cases h : id = k
      · subst h
        have hnot : (id, v) ∉ r := by
          intro hmem
          exact Nat.lt_irrefl _ (hk (id, v) hmem)
        simp [hnot, eq_comm]
      · rw [lookup_cons_of_ne w r h, ← ih hr]
        simp [h]

/-- **A map is its values.** -/
theorem eq_of_get?_eq
    {m n : FieldMap}
    (h : ∀ id, m.get? id = n.get? id) :
    m = n := by
  have hnodup : ∀ m : FieldMap, m.entries.Nodup := by
    intro m
    apply m.sorted.imp
    rintro a b hab rfl
    exact Nat.lt_irrefl _ hab
  have hperm : m.entries.Perm n.entries := by
    rw [List.perm_ext_iff_of_nodup (hnodup m) (hnodup n)]
    rintro ⟨id, v⟩
    rw [mem_entries_iff, mem_entries_iff, h]
  have hentries : m.entries = n.entries := by
    refine hperm.eq_of_pairwise ?_ m.sorted n.sorted
    intro a b _ _ hab hba
    omega
  cases m
  cases n
  simpa using hentries

theorem lookup_insertEntry
    (id k : FieldId) (v : FieldValue) (l : List (FieldId × FieldValue)) :
    (insertEntry id v l).lookup k = if k = id then some v else l.lookup k := by
  induction l with
  | nil =>
      by_cases h : k = id <;> simp [insertEntry, h]
  | cons e r ih =>
      obtain ⟨j, w⟩ := e
      simp only [insertEntry]
      by_cases hlt : id.rank < j.rank
      · rw [if_pos hlt]
        by_cases hk : k = id
        · simp [hk]
        · rw [lookup_cons_of_ne v _ hk, if_neg hk]
      · rw [if_neg hlt]
        by_cases hgt : j.rank < id.rank
        · rw [if_pos hgt]
          by_cases hj : k = j
          · have hk : k ≠ id := by
              rintro rfl
              exact Nat.lt_irrefl _ (hj ▸ hgt)
            rw [if_neg hk, hj, List.lookup_cons_self, List.lookup_cons_self]
          · rw [lookup_cons_of_ne w _ hj, lookup_cons_of_ne w _ hj, ih]
        · have hj : j = id := rank_injective (by omega)
          rw [if_neg hgt, hj]
          by_cases hk : k = id
          · simp [hk]
          · rw [lookup_cons_of_ne v _ hk, lookup_cons_of_ne w _ hk, if_neg hk]

@[simp] theorem get?_insert
    (m : FieldMap) (id k : FieldId) (v : FieldValue) :
    (m.insert id v).get? k = if k = id then some v else m.get? k :=
  lookup_insertEntry id k v m.entries

@[simp] theorem get?_erase
    (m : FieldMap) (id k : FieldId) :
    (m.erase id).get? k = if k = id then none else m.get? k := by
  simp only [get?, erase]
  induction m.entries with
  | nil =>
      simp
  | cons e r ih =>
      obtain ⟨j, w⟩ := e
      by_cases hj : j = id
      · rw [List.filter_cons_of_neg (by simp [hj]), ih]
        by_cases hk : k = id
        · rw [if_pos hk, if_pos hk]
        · rw [lookup_cons_of_ne w r (hj ▸ hk)]
      · rw [List.filter_cons_of_pos (by simpa using hj)]
        by_cases hkj : k = j
        · rw [hkj, List.lookup_cons_self, List.lookup_cons_self, if_neg hj]
        · rw [lookup_cons_of_ne w _ hkj, lookup_cons_of_ne w _ hkj, ih]

/-- Gives some fields values, one after the other. -/
def insertAll (m : FieldMap) (l : List (FieldId × FieldValue)) : FieldMap :=
  l.foldl (fun m e => m.insert e.1 e.2) m

theorem ofList_eq_insertAll (l : List (FieldId × FieldValue)) :
    ofList l = empty.insertAll l := by
  rfl

/-- Each field at most once: the values are the new ones where there is one. -/
theorem get?_insertAll
    (m : FieldMap) (id : FieldId) {l : List (FieldId × FieldValue)}
    (hl : (l.map Prod.fst).Nodup) :
    (m.insertAll l).get? id = (l.lookup id).or (m.get? id) := by
  induction l generalizing m with
  | nil =>
      rfl
  | cons e r ih =>
      obtain ⟨k, w⟩ := e
      obtain ⟨hk, hr⟩ := List.nodup_cons.1 hl
      have hrest : (m.insertAll ((k, w) :: r)).get? id =
          (r.lookup id).or ((m.insert k w).get? id) := ih (m.insert k w) hr
      rw [hrest, get?_insert]
      by_cases h : id = k
      · have hnone : r.lookup id = none := by
          rw [List.lookup_eq_none_iff]
          intro p hp
          rw [bne_iff_ne, h]
          intro hkp
          exact hk (List.mem_map.2 ⟨p, hp, hkp.symm⟩)
        rw [if_pos h, hnone, h, List.lookup_cons_self]
        rfl
      · rw [if_neg h, lookup_cons_of_ne w r h]

/-- Where the new values are those of another map, and so is the rest, the outcome is that
map. -/
theorem insertAll_eq
    {m n : FieldMap} {l : List (FieldId × FieldValue)}
    (hl : ∀ e ∈ l, n.get? e.1 = some e.2)
    (hrest : ∀ id, id ∉ l.map Prod.fst → m.get? id = n.get? id) :
    m.insertAll l = n := by
  induction l generalizing m with
  | nil =>
      exact eq_of_get?_eq fun id => hrest id (by simp)
  | cons e r ih =>
      refine ih (m := m.insert e.1 e.2) (fun e' he' => hl e' (List.mem_cons_of_mem e he')) ?_
      intro id hid
      rw [get?_insert]
      by_cases h : id = e.1
      · rw [if_pos h, h, hl e (by simp)]
      · rw [if_neg h]
        apply hrest id
        rw [List.map_cons, List.mem_cons]
        rintro (hk | hmem)
        · exact h hk
        · exact hid hmem

/-- Changes every value. -/
def mapValues (f : FieldValue → FieldValue) (m : FieldMap) : FieldMap :=
  ⟨m.entries.map fun e => (e.1, f e.2), m.sorted.map _ fun _ _ h => h⟩

@[simp] theorem get?_mapValues
    (f : FieldValue → FieldValue) (m : FieldMap) (id : FieldId) :
    (m.mapValues f).get? id = (m.get? id).map f := by
  simp only [get?, mapValues]
  induction m.entries with
  | nil =>
      rfl
  | cons e r ih =>
      obtain ⟨k, w⟩ := e
      rw [List.map_cons]
      by_cases h : id = k
      · simp [h]
      · rw [lookup_cons_of_ne _ _ h, lookup_cons_of_ne w r h, ih]

end FieldMap
end SmppReplay
