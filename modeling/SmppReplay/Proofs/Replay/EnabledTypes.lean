import SmppReplay.Proofs.AutoReply.Switching
import SmppReplay.Proofs.Batch.Settings
import SmppReplay.Proofs.Replay.Connections

/-!
# Which types are answered

**Question.**  When a frame arrives, which types does the inbound side answer?

The default types, changed by the settings that the script took up since the connection
began to be opened, in order.  Settings of earlier connections are forgotten, settings
without a connection are passed over, and a connection that is refused because there is one
does not bring the defaults back.

**Method.** The set that the inbound side asks is the one that the trace tells
(`tracks_steps`), and the trace tells it from the last opening on.

Main fact:
* `configured_steps`: the set at each arrival, and what the settings of a script do to it.
-/

namespace SmppReplay
namespace Replay

open AutoReply (TypeSet)
open Transcript (Entry)
open Transport (ConnectionState Endpoint Result)

/-! ### The set that the trace tells -/

/-- The mark belongs to the connection that was opened last. -/
def Mark.isWithin (k : Mark) : Bool :=
  !k.isOpening && !k.isRelease

theorem Mark.effect_of_isRelease
    {k : Mark}
    (h : k.isRelease = true)
    (defaults : TypeSet) (set : Option TypeSet) :
    k.effect defaults set = none := by
  cases k with
  | openReturned peer result =>
      cases result with
      | ok =>
          cases h
      | failed e =>
          rfl
  | closeReturned result =>
      rfl
  | _ =>
      cases h

/-- Within a connection only an event changes the set. -/
theorem Mark.effect_of_isWithin
    {k : Mark}
    (h : k.isWithin = true)
    (defaults : TypeSet) (set : Option TypeSet) :
    k.effect defaults set = set.map fun set => set.applied (taken [k]) := by
  cases k with
  | openCalled peer =>
      cases h
  | closeReturned result =>
      cases h
  | openReturned peer result =>
      cases result with
      | ok =>
          exact Option.map_id'.symm
      | failed e =>
          cases h
  | took e =>
      rfl
  | _ =>
      exact Option.map_id'.symm

/-- The set that is asked is that of the connection opened last: the defaults under the
events since then. -/
theorem exists_opening_of_effects
    {defaults set : TypeSet} {trace : List Mark}
    (h : effects defaults trace none = some set) :
    ∃ before peer since, trace = before ++ .openCalled peer :: since ∧
      (∀ k ∈ since, k.isWithin = true) ∧ set = defaults.applied (taken since) := by
  induction trace using List.reverseRecOn generalizing set with
  | nil =>
      cases h
  | append_singleton trace k ih =>
      rw [effects_snoc] at h
      by_cases hrelease : k.isRelease = true
      · rw [Mark.effect_of_isRelease hrelease] at h
        cases h
      · by_cases hwithin : k.isWithin = true
        · rw [Mark.effect_of_isWithin hwithin, Option.map_eq_some_iff] at h
          obtain ⟨earlier, hearlier, rfl⟩ := h
          obtain ⟨before, peer, since, rfl, hsince, rfl⟩ := ih hearlier
          refine ⟨before, peer, since ++ [k], ?_, ?_, ?_⟩
          · rw [List.append_assoc, List.cons_append]
          · rw [List.forall_mem_append]
            exact ⟨hsince, List.forall_mem_singleton.2 hwithin⟩
          · rw [taken_append, TypeSet.applied_append]
        · cases k with
          | openCalled peer =>
              obtain rfl := Option.some.inj h
              exact ⟨trace, peer, [], rfl, by simp, rfl⟩
          | _ =>
              simp [Mark.isWithin, Mark.isOpening, hrelease] at hwithin

/-- Since a connection began to be opened, the events change the defaults. -/
theorem effects_within
    {defaults : TypeSet} {before since : List Mark} {peer : Endpoint}
    (hsince : ∀ k ∈ since, k.isWithin = true) :
    effects defaults (before ++ .openCalled peer :: since) none =
      some (defaults.applied (taken since)) := by
  induction since using List.reverseRecOn with
  | nil =>
      rw [effects_snoc]
      rfl
  | append_singleton since k ih =>
      rw [List.forall_mem_append] at hsince
      obtain ⟨hsince, hlast⟩ := hsince
      have hk : k.isWithin = true := hlast k List.mem_cons_self
      rw [← List.cons_append, ← List.append_assoc, effects_snoc, ih hsince,
        Mark.effect_of_isWithin hk, taken_append, TypeSet.applied_append]
      rfl

/-- The set at an arrival is the one that the trace in front of it tells. -/
theorem enabled_of_delivered
    {defaults enabled : TypeSet} {batch : Batch} {moves : List Move} {front back : List Mark}
    {frame : List UInt8}
    (htrace : (steps (.start defaults batch) moves).trace = front ++
      .delivered enabled frame :: back) :
    effects defaults front none = some enabled := by
  obtain ⟨before, l, r, -, rfl, hadded⟩ := exists_move_of_mark htrace
  have htracks := (tracks_steps defaults batch before).2
  generalize steps (.start defaults batch) before = s at hadded htracks
  obtain ⟨enabled', frame', ks, henabled, hks, hsplit⟩ := hadded.exists_arrival rfl rfl
  -- A move delivers one frame, and first of all.
  cases l with
  | nil =>
      cases hsplit
      rw [List.append_nil, ← htracks]
      exact henabled
  | cons k l =>
      rw [List.cons_append, List.cons.injEq] at hsplit
      have hlater : .delivered enabled frame ∈ ks :=
        hsplit.2 ▸ List.mem_append_right l List.mem_cons_self
      exact absurd (hks _ hlater) Bool.false_ne_true

/-! ### Settings in a run -/

/-- Which types are answered in a run up to a moment. -/
structure Configured (defaults : TypeSet) (s : State) : Prop where
  /-- When a frame arrives, the set that is asked is the default one under the settings that
  were taken up since the connection began to be opened: the last setting of a type decides
  about it. -/
  arrivals : ∀ front enabled frame back, s.trace = front ++ .delivered enabled frame :: back →
    ∃ before peer since, front = before ++ .openCalled peer :: since ∧
      (∀ k ∈ since, k.isWithin = true) ∧ enabled = defaults.applied (taken since) ∧
      ∀ t, enabled.contains t =
        ((taken since).filterMap (AutoReply.setting? t)).getLast?.getD (defaults.contains t)
  /-- Without a connection a setting leads to one entry, and the script goes on. -/
  ignored : ∀ front t enabled back, s.trace = front ++
    .took (.setAutoReply t enabled) :: back →
    Blocks (calls front) →
      ∃ next, scriptPart back = .logged .script (settingIgnoredEntry t enabled) :: next ∧
        Resumes next
  /-- With a connection a setting leads to no entry. -/
  silent : ∀ front t enabled back, s.trace = front ++
    .took (.setAutoReply t enabled) :: back →
    Midway (calls front) → Resumes (scriptPart back)
  /-- To connect when there is a connection opens none, so that the defaults do not come
  back. -/
  refused : ∀ front peer back, s.trace = front ++ .took (.connect peer) :: back →
    Midway (calls front) →
      ∃ next, scriptPart back = .logged .script (alreadyConnectedEntry peer) :: next ∧
        Resumes next
  /-- A type that a settings element lists to be off is off after its events. -/
  off : ∀ before peer since enabled frame back,
    s.trace = before ++ .openCalled peer :: since ++ .delivered enabled frame :: back →
    (∀ k ∈ since, k.isWithin = true) →
    ∀ e t events earlier later, Batch.settings e = .ok events →
      Batch.Lists e "noAutoResponse" t →
      taken since = earlier ++ events ++ later → (∀ b, .setAutoReply t b ∉ later) →
        enabled.contains t = false

/-- A setting is dealt with at once: it has an entry if and only if there is no connection. -/
theorem turn_of_setAutoReply
    {batch : Batch} {s : State} {front back : List Mark} {t : MessageType} {enabled : Bool}
    (h : Accounted batch s)
    (htrace : s.trace = front ++ .took (.setAutoReply t enabled) :: back) :
    ∃ session next, Settled session (calls front) ∧ Resumes next ∧
      scriptPart back =
        (if session = none then [.logged .script (settingIgnoredEntry t enabled)] else []) ++
          next := by
  obtain ⟨done, st, -, hturns, hturn⟩ := h.turnAt_of_took htrace
  refine ⟨st.session, ?_⟩
  generalize scriptPart back = l at hturn ⊢
  cases hturn with
  | @made ms next st' hturn hnext =>
      refine ⟨next, hturns.settled_start, hnext, ?_⟩
      cases hturn with
      | switched t enabled hopen =>
          rw [hopen, if_neg (Option.some_ne_none _)]
      | ignored t enabled hidle =>
          rw [if_pos hidle]
  | underway hstage =>
      have hevent := hstage.event_cases
      simp at hevent

/-- **The answered types are the settings of the current connection.** -/
theorem configured_steps (defaults : TypeSet) (batch : Batch) (moves : List Move) :
    Configured defaults (steps (.start defaults batch) moves) := by
  have haccount := accounted_steps defaults batch moves
  exact {
    arrivals := by
      intro front enabled frame back htrace
      obtain ⟨before, peer, since, hfront, hsince, henabled⟩ :=
        exists_opening_of_effects (enabled_of_delivered htrace)
      refine ⟨before, peer, since, hfront, hsince, henabled, fun t => ?_⟩
      rw [henabled, TypeSet.contains_applied]
    ignored := by
      intro front t enabled back htrace hblocks
      obtain ⟨session, next, hsettled, hnext, hback⟩ := turn_of_setAutoReply haccount htrace
      rw [if_pos (hsettled.eq_none hblocks)] at hback
      exact ⟨next, hback, hnext⟩
    silent := by
      intro front t enabled back htrace hmidway
      obtain ⟨session, next, hsettled, hnext, hback⟩ := turn_of_setAutoReply haccount htrace
      rw [if_neg (hsettled.ne_none hmidway), List.nil_append] at hback
      rw [hback]
      exact hnext
    refused := fun _ _ _ htrace hmidway => haccount.refusal htrace hmidway
    off := by
      intro before peer since enabled frame back htrace hsince e t events earlier
        later hevents ht
        htaken hlater
      have hset := enabled_of_delivered htrace
      rw [effects_within hsince] at hset
      obtain rfl := Option.some.inj hset
      rw [htaken]
      exact Batch.contains_applied_settings hevents ht defaults earlier hlater }

/-- In the eventful run the second inquiry finds that inquiries are not answered, because of
the setting in front of it. -/
theorem configured_steps_eventful :
    ∃ front back, eventfulRun.trace = front ++ .delivered .empty inquiry :: back ∧
      ∃ before peer since, front = before ++ .openCalled peer :: since ∧
        (∀ k ∈ since, k.isWithin = true) ∧
        false = ((taken since).filterMap (AutoReply.setting? .enquireLink)).getLast?.getD
          ((TypeSet.ofList [.enquireLink]).contains .enquireLink) := by
  have hconfigured : Configured (.ofList [.enquireLink]) eventfulRun :=
    configured_steps _ eventful eventfulMoves
  have htrace : eventfulRun.trace =
      eventfulRun.trace.take 10 ++
        .delivered .empty inquiry :: eventfulRun.trace.drop 11 := by
    decide +kernel
  obtain ⟨before, peer, since, hfront, hsince, -, hmeaning⟩ :=
    hconfigured.arrivals _ _ _ _ htrace
  exact ⟨_, _, htrace, before, peer, since, hfront, hsince, hmeaning .enquireLink⟩

end Replay
end SmppReplay
