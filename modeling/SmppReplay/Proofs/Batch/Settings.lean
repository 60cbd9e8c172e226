import SmppReplay.Batch.Compile
import SmppReplay.Proofs.AutoReply.Switching
import SmppReplay.Proofs.Faults

/-!
# Settings of a script

A settings element lists types to switch on and types to switch off.  Its events switch on
first and off last, so a type that it lists in both ways is off after them.

Main facts:
* `mem_switches_iff`: the events of an attribute switch the types that it lists;
* `contains_applied_settings`: a type that is listed to be off is off after the events of
  the element.
-/

namespace SmppReplay
namespace Batch

open AutoReply (setting?)
open Script (Element)

/-- The attribute lists the type. -/
def Lists (e : Element) (key : String) (t : MessageType) : Prop :=
  ∃ s part, e.attribute? key = some s ∧ part ∈ commaParts s ∧
    MessageType.ofName? (Text.trim part) = some t

theorem ofName?_empty :
    MessageType.ofName? "" = none := by
  decide

/-- The events of an attribute are the settings of the types that it lists. -/
theorem mem_switches_iff
    {e : Element} {key : String} {enabled : Bool} {events : Batch}
    (h : switches e key enabled = .ok events)
    (event : Event) :
    event ∈ events ↔ ∃ t, event = .setAutoReply t enabled ∧ Lists e key t := by
  unfold switches at h
  split at h
  · rename_i hnone
    obtain rfl := Except.ok.inj h
    simp [Lists, hnone]
  · rename_i s hs
    constructor
    · intro hevent
      obtain ⟨n, hn, hread⟩ := exists_of_mem_mapM h hevent
      obtain ⟨part, hpart, rfl⟩ := List.mem_map.1 (List.mem_of_mem_filter hn)
      split at hread
      · rename_i t ht
        exact ⟨t, (Except.ok.inj hread).symm, s, part, hs, hpart, ht⟩
      · cases hread
    · rintro ⟨t, rfl, s', part, hs', hpart, ht⟩
      obtain rfl := Option.some.inj (hs.symm.trans hs')
      have hne : Text.trim part ≠ "" := by
        intro hempty
        rw [hempty, ofName?_empty] at ht
        cases ht
      have hmem : Text.trim part ∈
          ((commaParts s).map Text.trim).filter fun n => n != "" := by
        rw [List.mem_filter]
        exact ⟨List.mem_map_of_mem hpart, bne_iff_ne.2 hne⟩
      obtain ⟨event, hevent, hread⟩ := exists_mem_of_mapM h hmem
      simp only [ht] at hread
      obtain rfl := Except.ok.inj hread
      exact hevent

/-- The last event about a type that is listed to be off switches it off. -/
theorem getLast?_settings
    {e : Element} {events : Batch} {t : MessageType}
    (h : settings e = .ok events)
    (ht : Lists e "noAutoResponse" t) :
    (events.filterMap (setting? t)).getLast? = some false := by
  obtain ⟨on, hon, h⟩ := bind_eq_ok h
  obtain ⟨off, hoff, h⟩ := bind_eq_ok h
  obtain rfl := Except.ok.inj h
  have hmem : false ∈ off.filterMap (setting? t) := by
    rw [List.mem_filterMap]
    exact ⟨.setAutoReply t false, (mem_switches_iff hoff _).2 ⟨t, rfl, ht⟩, if_pos rfl⟩
  have hall : ∀ b ∈ off.filterMap (setting? t), b = false := by
    intro b hb
    obtain ⟨event, hevent, hsetting⟩ := List.mem_filterMap.1 hb
    obtain ⟨u, rfl, -⟩ := (mem_switches_iff hoff event).1 hevent
    rw [setting?] at hsetting
    split at hsetting
    · exact (Option.some.inj hsetting).symm
    · cases hsetting
  have hne : off.filterMap (setting? t) ≠ [] := List.ne_nil_of_mem hmem
  rw [List.filterMap_append, List.getLast?_append, List.getLast?_eq_some_getLast hne,
    hall _ (List.getLast_mem hne)]
  rfl

/-- **A type that is listed to be off is off**, also if it is listed to be on: until a later
setting. -/
theorem contains_applied_settings
    {e : Element} {events : Batch} {t : MessageType}
    (h : settings e = .ok events)
    (ht : Lists e "noAutoResponse" t)
    (s : AutoReply.TypeSet) (before : Batch) {after : Batch}
    (hafter : ∀ enabled, Event.setAutoReply t enabled ∉ after) :
    (s.applied (before ++ events ++ after)).contains t = false := by
  have hnone : after.filterMap (setting? t) = [] := by
    rw [List.filterMap_eq_nil_iff]
    intro event hevent
    cases event with
    | setAutoReply u enabled =>
        rw [setting?, if_neg]
        rintro rfl
        exact hafter enabled hevent
    | _ =>
        rfl
  rw [AutoReply.TypeSet.contains_applied, List.filterMap_append, List.filterMap_append, hnone,
    List.append_nil, List.getLast?_append, getLast?_settings h ht]
  rfl

example :
    settings (.mk "Settings" [("noAutoResponse", "DELIVER_SM"),
        ("autoResponse", "enquire_link, DELIVER_SM,")] "" []) =
      .ok [.setAutoReply .enquireLink true, .setAutoReply .deliverSm true,
        .setAutoReply .deliverSm false] := by
  decide

end Batch
end SmppReplay
