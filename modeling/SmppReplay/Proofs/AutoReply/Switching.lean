import SmppReplay.AutoReply.TypeSet
import SmppReplay.Batch.Event
import SmppReplay.Proofs.Pdu.Frame

/-!
# Sets of types under settings

The settings of a batch are applied to a set one after the other (`applied`).  For each type
the last setting that names it decides whether the type is in the set; without one the set
is asked that the settings started from.

Main facts:
* `contains_switch`: one setting changes one type;
* `contains_applied`: the last setting of a type decides.
-/

namespace SmppReplay
namespace AutoReply

theorem id_injective
    {t u : MessageType}
    (h : t.id = u.id) :
    t = u := by
  have ht := (MessageType.ofId?_eq_some_iff u.id t).2 h
  have hu := (MessageType.ofId?_eq_some_iff u.id u).2 rfl
  exact Option.some.inj (ht.symm.trans hu)

namespace TypeSet

theorem mem_insertType_iff
    {t u : MessageType} {l : List MessageType} :
    u ∈ insertType t l ↔ u = t ∨ u ∈ l := by
  refine ⟨mem_insertType, ?_⟩
  induction l with
  | nil =>
      simp [insertType]
  | cons v l ih =>
      intro h
      rw [List.mem_cons] at h
      simp only [insertType]
      split
      · simpa using h
      · rename_i hlt
        split
        · rcases h with rfl | rfl | h
          · exact List.mem_cons_of_mem v (ih (.inl rfl))
          · exact List.mem_cons_self
          · exact List.mem_cons_of_mem v (ih (.inr h))
        · rename_i hgt
          have heq : t = v := by
            refine id_injective (UInt32.le_antisymm ?_ ?_)
            · exact UInt32.not_lt.1 hgt
            · exact UInt32.not_lt.1 hlt
          rw [heq] at h
          simpa using h

/-- One setting decides about its own type and leaves the others. -/
theorem contains_switch
    (s : TypeSet) (t : MessageType) (enabled : Bool) (u : MessageType) :
    (s.switch t enabled).contains u = if t = u then enabled else s.contains u := by
  rw [Bool.eq_iff_iff]
  cases enabled with
  | false =>
      by_cases h : t = u
      · simp [switch, erase, contains, h]
      · simp [switch, erase, contains, h, Ne.symm h]
  | true =>
      by_cases h : t = u
      · simp [switch, insert, contains, mem_insertType_iff, h]
      · simp [switch, insert, contains, mem_insertType_iff, h, Ne.symm h]

/-- The set after one event. -/
def afterEvent (s : TypeSet) : Event → TypeSet
  | .setAutoReply t enabled => s.switch t enabled
  | _ => s

/-- The set after the settings among some events. -/
def applied (s : TypeSet) (events : Batch) : TypeSet :=
  events.foldl afterEvent s

theorem applied_append (s : TypeSet) (events events' : Batch) :
    s.applied (events ++ events') = (s.applied events).applied events' :=
  List.foldl_append

end TypeSet

/-- What an event says about a type. -/
def setting? (t : MessageType) : Event → Option Bool
  | .setAutoReply u enabled => if u = t then some enabled else none
  | _ => none

theorem TypeSet.contains_afterEvent (s : TypeSet) (e : Event) (t : MessageType) :
    (s.afterEvent e).contains t = (setting? t e).getD (s.contains t) := by
  cases e with
  | setAutoReply u enabled =>
      rw [TypeSet.afterEvent, contains_switch, setting?]
      split <;> rfl
  | _ =>
      rfl

/-- **The last setting of a type decides.** -/
theorem TypeSet.contains_applied (s : TypeSet) (events : Batch) (t : MessageType) :
    (s.applied events).contains t =
      ((events.filterMap (setting? t)).getLast?).getD (s.contains t) := by
  induction events using List.reverseRecOn with
  | nil =>
      rfl
  | append_singleton events e ih =>
      have hlast : s.applied (events ++ [e]) = (s.applied events).afterEvent e :=
        applied_append s events [e]
      rw [hlast, contains_afterEvent, ih, List.filterMap_append]
      cases hsetting : setting? t e with
      | none =>
          simp [hsetting]
      | some enabled =>
          simp [hsetting]

example :
    ((TypeSet.ofList [.enquireLink, .deliverSm]).applied
      [.setAutoReply .enquireLink false, .disconnect,
        .setAutoReply .bindReceiver true]).types =
      [.bindReceiver, .deliverSm] := by
  decide

end AutoReply
end SmppReplay
