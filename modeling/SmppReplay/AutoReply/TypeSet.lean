import SmppReplay.Pdu.MessageType

/-!
# Sets of message types

A set lists its types in the order of their command numbers, each once, so that equal sets
are equal lists.
-/

namespace SmppReplay
namespace AutoReply

/-- The command numbers grow from one type to the next. -/
abbrev IdSorted (l : List MessageType) : Prop :=
  l.Pairwise fun s t => s.id < t.id

/-- A set of message types. -/
structure TypeSet where
  types : List MessageType
  sorted : IdSorted types
  deriving DecidableEq, Repr

namespace TypeSet

/-- The set without types. -/
def empty : TypeSet := ⟨[], List.Pairwise.nil⟩

/-- The type is in the set. -/
def contains (s : TypeSet) (t : MessageType) : Bool :=
  s.types.contains t

/-- Places a type by its command number, unless it is there. -/
def insertType (t : MessageType) : List MessageType → List MessageType
  | [] => [t]
  | u :: r =>
      if t.id < u.id then t :: u :: r
      else if u.id < t.id then u :: insertType t r
      else u :: r

theorem mem_insertType {t u : MessageType} {l : List MessageType} (h : u ∈ insertType t l) :
    u = t ∨ u ∈ l := by
  induction l with
  | nil => simpa [insertType] using h
  | cons a r ih =>
    simp only [insertType] at h
    split at h
    · simpa using h
    · split at h
      · rcases List.mem_cons.1 h with rfl | h
        · simp
        · rcases ih h with rfl | h <;> simp_all
      · exact Or.inr h

theorem idSorted_insertType {t : MessageType} {l : List MessageType} (h : IdSorted l) :
    IdSorted (insertType t l) := by
  induction l with
  | nil => simp [insertType, IdSorted]
  | cons u r ih =>
    have hu := List.pairwise_cons.1 h
    simp only [insertType]
    split
    · next hlt =>
      refine List.pairwise_cons.2 ⟨fun v hv => ?_, h⟩
      rcases List.mem_cons.1 hv with rfl | hv
      · exact hlt
      · exact UInt32.lt_trans hlt (hu.1 v hv)
    · split
      · next hgt =>
        refine List.pairwise_cons.2 ⟨fun v hv => ?_, ih hu.2⟩
        rcases mem_insertType hv with rfl | hv
        · exact hgt
        · exact hu.1 v hv
      · exact h

/-- The set with one more type. -/
def insert (s : TypeSet) (t : MessageType) : TypeSet :=
  ⟨insertType t s.types, idSorted_insertType s.sorted⟩

/-- The set without a type. -/
def erase (s : TypeSet) (t : MessageType) : TypeSet :=
  ⟨s.types.filter (· != t), s.sorted.filter _⟩

/-- The set with a type switched on or off. -/
def switch (s : TypeSet) (t : MessageType) (enabled : Bool) : TypeSet :=
  if enabled then s.insert t else s.erase t

/-- Switching the type changes the set. -/
def changes (s : TypeSet) (t : MessageType) (enabled : Bool) : Bool :=
  s.contains t != enabled

/-- The set of the listed types. -/
def ofList (l : List MessageType) : TypeSet :=
  l.foldl insert empty

end TypeSet

end AutoReply
end SmppReplay
