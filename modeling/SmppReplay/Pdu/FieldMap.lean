import SmppReplay.Pdu.Value

/-!
# Maps from fields to values

A map keeps its entries in the order of the fields' ranks, so that equal contents are equal
maps. Insertion replaces the value of a field that is already there.
-/

namespace SmppReplay

/-- The ranks of the fields grow from one entry to the next. -/
abbrev RankSorted (l : List (FieldId × FieldValue)) : Prop :=
  l.Pairwise fun a b => a.1.rank < b.1.rank

/-- Values of distinct fields. -/
structure FieldMap where
  entries : List (FieldId × FieldValue)
  sorted : RankSorted entries
  deriving DecidableEq, Repr

namespace FieldMap

theorem rank_injective {i j : FieldId} (h : i.rank = j.rank) : i = j := by
  have := congrArg FieldId.ofNat h
  simpa [FieldId.rank, FieldId.ofNat_ctorIdx] using this

/-- The map without entries. -/
def empty : FieldMap := ⟨[], List.Pairwise.nil⟩

/-- The value of a field. -/
def get? (m : FieldMap) (id : FieldId) : Option FieldValue :=
  m.entries.lookup id

/-- The field has a value. -/
def contains (m : FieldMap) (id : FieldId) : Bool :=
  (m.get? id).isSome

/-- Places an entry by the rank of its field; an entry of the same field gives way. -/
def insertEntry (id : FieldId) (v : FieldValue) :
    List (FieldId × FieldValue) → List (FieldId × FieldValue)
  | [] => [(id, v)]
  | (k, w) :: r =>
      if id.rank < k.rank then (id, v) :: (k, w) :: r
      else if k.rank < id.rank then (k, w) :: insertEntry id v r
      else (id, v) :: r

theorem mem_insertEntry {id : FieldId} {v : FieldValue} {l : List (FieldId × FieldValue)}
    {e : FieldId × FieldValue} (h : e ∈ insertEntry id v l) : e = (id, v) ∨ e ∈ l := by
  induction l with
  | nil => simpa [insertEntry] using h
  | cons a r ih =>
    obtain ⟨k, w⟩ := a
    simp only [insertEntry] at h
    split at h
    · simpa using h
    · split at h
      · rcases List.mem_cons.1 h with rfl | h
        · simp
        · rcases ih h with rfl | h <;> simp_all
      · rcases List.mem_cons.1 h with rfl | h <;> simp_all

theorem rankSorted_insertEntry {id : FieldId} {v : FieldValue}
    {l : List (FieldId × FieldValue)} (h : RankSorted l) :
    RankSorted (insertEntry id v l) := by
  induction l with
  | nil => simp [insertEntry, RankSorted]
  | cons a r ih =>
    obtain ⟨k, w⟩ := a
    have hk := List.pairwise_cons.1 h
    simp only [insertEntry]
    split
    · next hlt =>
      refine List.pairwise_cons.2 ⟨fun e he => ?_, h⟩
      rcases List.mem_cons.1 he with rfl | he
      · exact hlt
      · exact Nat.lt_trans hlt (hk.1 e he)
    · split
      · next hgt =>
        refine List.pairwise_cons.2 ⟨fun e he => ?_, ih hk.2⟩
        rcases mem_insertEntry he with rfl | he
        · exact hgt
        · exact hk.1 e he
      · next hle hge =>
        have hid : id.rank = k.rank := by omega
        refine List.pairwise_cons.2 ⟨fun e he => ?_, hk.2⟩
        exact hid ▸ hk.1 e he

/-- Gives a field a value. -/
def insert (m : FieldMap) (id : FieldId) (v : FieldValue) : FieldMap :=
  ⟨insertEntry id v m.entries, rankSorted_insertEntry m.sorted⟩

/-- Takes a field's value away. -/
def erase (m : FieldMap) (id : FieldId) : FieldMap :=
  ⟨m.entries.filter fun e => e.1 != id, m.sorted.filter _⟩

/-- The map with the given entries; of two entries of one field the later one stays. -/
def ofList (l : List (FieldId × FieldValue)) : FieldMap :=
  l.foldl (fun m e => m.insert e.1 e.2) empty

end FieldMap

end SmppReplay
