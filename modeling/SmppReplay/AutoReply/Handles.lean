import SmppReplay.AutoReply.TypeSet

/-!
# Shared sets

Several handles can share one set: a change through one of them shows through the others.  A
new set starts a family of handles, and a copy of a handle belongs to its family.
-/

namespace SmppReplay
namespace AutoReply

/-- The sets, and for each handle the place of its set. -/
structure Handles where
  sets : List TypeSet := []
  family : List Nat := []
  deriving DecidableEq, Repr

namespace Handles

/-- The set that a handle shows. -/
def get? (hs : Handles) (h : Nat) : Option TypeSet :=
  hs.family[h]?.bind fun f => hs.sets[f]?

/-- Starts a family with the listed types; its first handle is the last of all. -/
def fresh (hs : Handles) (types : List MessageType) : Handles where
  sets := hs.sets ++ [TypeSet.ofList types]
  family := hs.family ++ [hs.sets.length]

/-- Copies a handle; the copy is the last of all. -/
def share (hs : Handles) (h : Nat) : Handles :=
  { hs with family := hs.family ++ hs.family[h]?.toList }

/-- Switches a type on or off through a handle. -/
def switch (hs : Handles) (h : Nat) (t : MessageType) (enabled : Bool) : Handles :=
  match hs.family[h]? with
  | some f => { hs with sets := hs.sets.modify f fun s => s.switch t enabled }
  | none => hs

/-- Switching the type through the handle changes its set. -/
def changes (hs : Handles) (h : Nat) (t : MessageType) (enabled : Bool) : Bool :=
  (hs.get? h).any fun s => s.changes t enabled

/-- The type is in the set of the handle. -/
def contains (hs : Handles) (h : Nat) (t : MessageType) : Bool :=
  (hs.get? h).any fun s => s.contains t

/-- The sets that the handles show, in the order of the handles. -/
def snapshots (hs : Handles) : List (List MessageType) :=
  hs.family.map fun f => (hs.sets[f]?.map TypeSet.types).getD []

end Handles

end AutoReply
end SmppReplay
