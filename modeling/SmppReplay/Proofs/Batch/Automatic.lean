import SmppReplay.Proofs.Batch.Composition

/-!
# Scripts that give no numbers

The messages of a script in which no message element gives a number are those of its message
elements in order, numbered from one on.

Main fact:
* `exists_message_of_script`: the message of the `k`-th message element is the `k`-th one
  and has the number `k`.
-/

namespace SmppReplay

/-- The message that an event sends. -/
def Event.message? : Event → Option Message
  | .send m => some m
  | _ => none

namespace Batch

open Script (Element)

/-- The messages of a batch. -/
def messages (batch : Batch) : List Message :=
  batch.filterMap Event.message?

theorem mem_messages_iff (m : Message) (batch : Batch) :
    m ∈ messages batch ↔ Event.send m ∈ batch := by
  rw [messages, List.mem_filterMap]
  constructor
  · rintro ⟨e, he, hm⟩
    cases e <;> cases hm
    exact he
  · intro hm
    exact ⟨.send m, hm, rfl⟩

@[simp] theorem messages_append (events events' : Batch) :
    messages (events ++ events') = messages events ++ messages events' :=
  List.filterMap_append

/-- What is no message element makes no message. -/
theorem messages_of_not_isNamed
    {d : Defaults} {n : UInt32} {e : Element} {events : Batch}
    (h : element d n e = .ok events)
    (hpdu : ¬ e.isNamed "PDU") :
    messages events = [] := by
  refine List.filterMap_eq_nil_iff.2 fun event hevent => ?_
  cases event with
  | send m =>
      exact absurd (message_of_mem_element h hevent).1 hpdu
  | _ =>
      rfl

/-- There is one message for each message element. -/
theorem length_messages_of_elements
    {d : Defaults} {n : UInt32} {es : List Element} {batch : Batch}
    (h : elements d n es = .ok batch) :
    (messages batch).length = (messageElements es).length := by
  induction es generalizing n batch with
  | nil =>
      obtain rfl := Except.ok.inj h
      rfl
  | cons e es ih =>
      obtain ⟨events, hevents, h⟩ := bind_eq_ok h
      obtain ⟨rest, hrest, h⟩ := bind_eq_ok h
      obtain rfl := Except.ok.inj h
      rw [messages_append, List.length_append, ih hrest]
      by_cases hpdu : e.isNamed "PDU"
      · rw [element_of_isNamed hpdu] at hevents
        obtain ⟨m, -, rfl⟩ := map_eq_ok hevents
        rw [messageElements_cons_of_isNamed hpdu, List.length_cons, Nat.add_comm]
        rfl
      · rw [messageElements_cons_of_not_isNamed hpdu, messages_of_not_isNamed hevents hpdu,
          List.length_nil, Nat.zero_add]

/-- The message of an element has the place among the messages that the element has among
the message elements. -/
theorem exists_message_at
    {d : Defaults} {n : UInt32} {before after : List Element} {pdu : Element} {batch : Batch}
    (h : elements d n (before ++ pdu :: after) = .ok batch)
    (hpdu : pdu.isNamed "PDU") :
    ∃ m, (messages batch)[(messageElements before).length]? = some m ∧
      message d (counterAfter n before) pdu = .ok m := by
  rw [elements_append] at h
  obtain ⟨front, hfront, h⟩ := bind_eq_ok h
  obtain ⟨rest, hrest, rfl⟩ := map_eq_ok h
  rw [elements_cons, element_of_isNamed hpdu] at hrest
  obtain ⟨events, hevents, hrest⟩ := bind_eq_ok hrest
  obtain ⟨m, hm, rfl⟩ := map_eq_ok hevents
  obtain ⟨back, -, rfl⟩ := map_eq_ok hrest
  refine ⟨m, ?_, hm⟩
  rw [messages_append, ← length_messages_of_elements hfront,
    List.getElem?_append_right (Nat.le_refl _), Nat.sub_self]
  rfl

/-- The messages of elements that give no numbers are numbered in the order of the elements. -/
theorem messages_of_elements
    {d : Defaults} {n : UInt32} {es : List Element} {batch : Batch}
    (h : elements d n es = .ok batch)
    (hauto : ∀ e ∈ es, e.isNamed "PDU" → e.child? sequenceName = none) :
    (messages batch).map Except.ok =
      (messageElements es).mapIdx fun k pdu => message d (n + UInt32.ofNat k) pdu := by
  induction es generalizing n batch with
  | nil =>
      obtain rfl := Except.ok.inj h
      rfl
  | cons e es ih =>
      obtain ⟨events, hevents, h⟩ := bind_eq_ok h
      obtain ⟨rest, hrest, h⟩ := bind_eq_ok h
      obtain rfl := Except.ok.inj h
      have htail := ih hrest fun e' he' => hauto e' (List.mem_cons_of_mem e he')
      rw [messages_append, List.map_append, htail]
      by_cases hpdu : e.isNamed "PDU"
      · have hnext : nextAfter n e = n + 1 := by
          rw [nextAfter, hpdu, hauto e List.mem_cons_self hpdu]
          rfl
        rw [element_of_isNamed hpdu] at hevents
        obtain ⟨m, hm, rfl⟩ := map_eq_ok hevents
        have hstart : n + UInt32.ofNat 0 = n := UInt32.add_zero n
        rw [messageElements_cons_of_isNamed hpdu, List.mapIdx_cons, hnext, hstart, hm]
        simp only [add_one_add_ofNat]
        rfl
      · have hnext : nextAfter n e = n := by
          simp [nextAfter, hpdu]
        rw [messageElements_cons_of_not_isNamed hpdu,
          messages_of_not_isNamed hevents hpdu, hnext]
        rfl

/-- An automatic message has the number of its place. -/
theorem sequence_of_message
    {d : Defaults} {n : UInt32} {pdu : Element} {m : Message}
    (h : message d n pdu = .ok m)
    (hauto : pdu.child? sequenceName = none) :
    m.sequence = n := by
  rw [message_eq_map, hauto] at h
  obtain ⟨m', -, rfl⟩ := map_eq_ok h
  rfl

/-- The message elements of a script that gives no numbers are numbered from one on. -/
theorem exists_message_of_script
    {d : Defaults} {root : Element} {batch : Batch}
    (h : compile d root = .ok batch)
    (hauto : ∀ e ∈ root.children, e.isNamed "PDU" → e.child? sequenceName = none) :
    (messages batch).length = (messageElements root.children).length ∧
      ∀ k pdu, (messageElements root.children)[k]? = some pdu →
        ∃ m, (messages batch)[k]? = some m ∧
          message d (UInt32.ofNat (k + 1)) pdu = .ok m ∧
            m.sequence = UInt32.ofNat (k + 1) := by
  have hmessages := messages_of_elements h hauto
  constructor
  · exact length_messages_of_elements h
  · intro k pdu hpdu
    have hk := congrArg (·[k]?) hmessages
    simp only [List.getElem?_map, List.getElem?_mapIdx, hpdu, Option.map_some] at hk
    obtain ⟨m, hm, hmessage⟩ := Option.map_eq_some_iff.1 hk
    rw [one_add_ofNat] at hmessage
    obtain ⟨helement, hnamed⟩ := List.mem_filter.1 (List.mem_of_getElem? hpdu)
    exact ⟨m, hm, hmessage.symm, sequence_of_message hmessage.symm
      (hauto pdu helement hnamed)⟩

end Batch
end SmppReplay
