import SmppReplay.Proofs.AutoReply.Switching
import SmppReplay.Proofs.Replay.Blocks

/-!
# What a move puts on the trace

A move adds marks to the end of the trace and changes none.  The marks of the script are its
own; those of the inbound side begin with what arrived.  And the marks tell all that a move
does to the set of answered types (`effects`).

Main facts:
* `listens_steps`: there are answered types as long as there is a connection;
* `exists_move_of_mark`: each mark was added by one move, at a moment whose trace ends where
  the marks of that move begin;
* `tracks_steps`: the set of answered types is the one that the trace tells.
-/

namespace SmppReplay
namespace Replay

open AutoReply (TypeSet)
open Transcript (Entry)
open Transport (ConnectionState Endpoint Result)

/-! ### Answered types and connections -/

/-- There are answered types as long as there is a connection. -/
def Listens (s : State) : Prop :=
  s.enabled.isSome = linked s.task s.session

namespace Listens

variable {s : State}

theorem finish
    (h : s.enabled.isSome = s.session.isSome)
    (o : Outcome) :
    Listens (s.finish o) := by
  unfold State.finish Listens
  split
  · rename_i held hsession
    rw [hsession] at h
    exact h
  · rename_i hsession
    rw [hsession] at h
    exact h

theorem take
    (h : s.enabled.isSome = s.session.isSome)
    (hready : s.task = .ready)
    (e : Event) :
    Listens (s.take e) := by
  have hready' : linked s.task s.session = s.session.isSome := by
    rw [hready]
    rfl
  cases e with
  | connect peer =>
      simp only [State.take]
      split
      · exact h.trans hready'.symm
      · exact rfl
  | disconnect =>
      simp only [State.take]
      split
      · rename_i held hsession
        rw [hsession] at h
        exact h
      · exact h.trans hready'.symm
  | send m =>
      simp only [State.take]
      split
      · exact h
      · exact h.trans hready'.symm
  | pause length =>
      exact h
  | setAutoReply t enabled =>
      simp only [State.take]
      split
      · exact (Option.isSome_map ..).trans (h.trans hready'.symm)
      · exact h.trans hready'.symm

theorem proceed
    (h : s.enabled.isSome = s.session.isSome)
    (hready : s.task = .ready) :
    Listens s.proceed := by
  unfold State.proceed
  split
  · exact finish h _
  · refine take ?_ ?_ _
    · exact h
    · exact hready

theorem abort
    (h : s.enabled.isSome = s.session.isSome)
    (m : Message) (cause : String) :
    Listens (s.abort m cause) := by
  refine finish ?_ _
  exact h

theorem asked
    (h : s.enabled.isSome = s.session.isSome)
    (m : Message) (state : ConnectionState) :
    Listens (s.asked m state) := by
  unfold State.asked
  cases state with
  | connected =>
      cases Pdu.encode m <;> exact h
  | disconnected | failed =>
      exact h

theorem deliver
    (h : Listens s)
    (enabled : TypeSet) (frame : List UInt8) :
    Listens (s.deliver enabled frame) := by
  have harrived : Listens (s.arrived enabled frame) := by
    unfold State.arrived
    cases AutoReply.arrivalEntry frame <;> exact h
  have hanswers := answers_deliver s enabled frame
  generalize s.deliver enabled frame = s' at hanswers ⊢
  cases hanswers <;> exact harrived

theorem happens
    {batch : Batch} {move : Move} {s' : State}
    (hmove : Happens s move s')
    (haccount : Accounted batch s)
    (h : Listens s) :
    Listens s' := by
  have hidle := haccount.session_eq_none
  unfold Listens at h
  cases hmove with
  | nothing =>
      exact h
  | proceed htask =>
      rw [htask] at h
      exact proceed h htask
  | opened result htask =>
      rw [htask] at h hidle
      cases result with
      | ok =>
          exact h
      | failed e =>
          exact (congrArg Option.isSome (hidle rfl)).symm
  | asked state htask =>
      rw [htask] at h
      exact asked h _ state
  | sent result htask =>
      rw [htask] at h
      exact h
  | @reported m cause htask =>
      rw [htask] at h
      cases cause with
      | none =>
          exact h
      | some cause =>
          exact abort h m cause
  | closed result htask =>
      rw [htask] at hidle
      exact (congrArg Option.isSome (hidle rfl)).symm
  | finished result htask =>
      rfl
  | @woken _ cut htask =>
      rw [htask] at h
      cases cut <;> exact h
  | entered htask | left htask =>
      rw [htask] at h
      exact h
  | delivered frame henabled =>
      exact deliver h _ frame
  | replied | noted | lost | looked | notified =>
      exact h

/-- When the script is ready and there is no connection, there are no answered types. -/
theorem enabled_eq_none
    (h : Listens s)
    (hready : s.task = .ready)
    (hsession : s.session = none) :
    s.enabled = none := by
  rw [Listens, hready, hsession] at h
  exact Option.not_isSome_iff_eq_none.1 (ne_true_of_eq_false h)

end Listens

/-- At every moment of every run: there are answered types as long as there is a connection. -/
theorem listens_steps (defaults : TypeSet) (batch : Batch) (moves : List Move) :
    Listens (steps (.start defaults batch) moves) := by
  have hboth : ∀ s move s', Happens s move s' →
      Accounted batch s ∧ Listens s → Accounted batch s' ∧ Listens s' := by
    rintro s move s' hmove ⟨haccount, h⟩
    exact ⟨haccount.happens hmove, h.happens hmove haccount⟩
  exact (steps_preserves hboth moves ⟨Accounted.start defaults batch, rfl⟩).2

/-! ### What marks mean for the answered types -/

/-- What a mark means for the answered types. -/
def Mark.effect (defaults : TypeSet) : Mark → Option TypeSet → Option TypeSet
  | .openCalled _, _ => some defaults
  | .openReturned _ (.failed _), _ => none
  | .closeReturned _, _ => none
  | .took e, set => set.map fun set => set.afterEvent e
  | _, set => set

/-- The answered types after some marks. -/
def effects (defaults : TypeSet) (ks : List Mark) (set : Option TypeSet) : Option TypeSet :=
  ks.foldl (fun set k => k.effect defaults set) set

theorem effects_append (defaults : TypeSet) (ks ks' : List Mark) (set : Option TypeSet) :
    effects defaults (ks ++ ks') set = effects defaults ks' (effects defaults ks set) :=
  List.foldl_append

theorem effects_snoc (defaults : TypeSet) (ks : List Mark) (k : Mark) (set : Option TypeSet) :
    effects defaults (ks ++ [k]) set = k.effect defaults (effects defaults ks set) :=
  effects_append defaults ks [k] set

/-! ### What a move adds -/

/-- The mark belongs to the answer to a frame that arrived. -/
def Mark.isAnswer : Mark → Bool
  | .logged side _ => side == .inbound
  | .sendCalled side _ _ => side == .inbound
  | .unsent side _ => side == .inbound
  | _ => false

/-- The mark is one of the inbound side that does not come with a frame. -/
def Mark.isNotice : Mark → Bool
  | .logged side _ => side == .inbound
  | .sendReturned side _ _ _ => side == .inbound
  | .lost => true
  | .interrupted _ => true
  | .notified => true
  | _ => false

/-- The mark is one of the script, and none of handing over a message or of its success. -/
def Mark.isPlain : Mark → Bool
  | .sendCalled _ _ _ => false
  | .sendReturned _ _ _ _ => false
  | .logged side e => side == .script && e.kind != .sent
  | k => k.isScript

theorem isScript_of_isPlain
    {k : Mark}
    (h : k.isPlain = true) :
    k.isScript = true := by
  cases k with
  | logged side e =>
      exact (Bool.and_eq_true_iff.1 h).1
  | sendCalled | sendReturned =>
      cases h
  | _ =>
      exact h

/-- The second state has more marks than the first one, all of a kind, and they tell what it
does with the answered types. -/
def Adds (p : Mark → Bool) (s s' : State) : Prop :=
  ∃ ks, s'.trace = s.trace ++ ks ∧ (∀ k ∈ ks, p k = true) ∧ s'.defaults = s.defaults ∧
    s'.enabled = effects s.defaults ks s.enabled

namespace Adds

variable {p : Mark → Bool} {s s' t : State}

theorem refl (p : Mark → Bool) (s : State) :
    Adds p s s :=
  ⟨[], (List.append_nil _).symm, by simp, rfl, rfl⟩

theorem mono
    {q : Mark → Bool}
    (h : Adds p s s')
    (hpq : ∀ k, p k = true → q k = true) :
    Adds q s s' := by
  obtain ⟨ks, htrace, hp, hrest⟩ := h
  exact ⟨ks, htrace, fun k hk => hpq k (hp k hk), hrest⟩

theorem trans
    (h : Adds p s s')
    (h' : Adds p s' t) :
    Adds p s t := by
  obtain ⟨ks, hks, hp, hd, he⟩ := h
  obtain ⟨ks', hks', hp', hd', he'⟩ := h'
  refine ⟨ks ++ ks', ?_, List.forall_mem_append.2 ⟨hp, hp'⟩, hd'.trans hd, ?_⟩
  · rw [hks', hks, List.append_assoc]
  · rw [he', hd, he, effects_append]

/-- One more mark. -/
theorem snoc
    {k : Mark}
    (h : Adds p s s')
    (hk : p k = true)
    (htrace : t.trace = s'.trace ++ [k])
    (hdefaults : t.defaults = s'.defaults)
    (henabled : t.enabled = k.effect s'.defaults s'.enabled) :
    Adds p s t := by
  obtain ⟨ks, hks, hp, hd, he⟩ := h
  refine ⟨ks ++ [k], ?_, ?_, hdefaults.trans hd, ?_⟩
  · rw [htrace, hks, List.append_assoc]
  · rw [List.forall_mem_append]
    exact ⟨hp, List.forall_mem_singleton.2 hk⟩
  · rw [henabled, hd, he, effects_snoc]

theorem finish
    (h : Adds Mark.isPlain s s')
    (o : Outcome) :
    Adds Mark.isPlain s (s'.finish o) := by
  unfold State.finish
  split
  · exact h.snoc rfl rfl rfl rfl
  · exact h

theorem abort
    (h : Adds Mark.isPlain s s')
    (m : Message) (cause : String) :
    Adds Mark.isPlain s (s'.abort m cause) := by
  refine finish ?_ _
  exact h.snoc rfl rfl rfl rfl

/-- Settings change the set if there is a connection, and a new connection starts from the
defaults. -/
theorem take
    (h : Adds Mark.isPlain s s')
    (hidle : s'.session = none → s'.enabled = none)
    (e : Event) :
    Adds Mark.isPlain s ((s'.mark (.took e)).take e) := by
  have htook : (∀ set : TypeSet, set.afterEvent e = set) →
      Adds Mark.isPlain s (s'.mark (.took e)) := by
    intro he
    refine h.snoc rfl rfl rfl ?_
    rw [Mark.effect, funext he]
    exact Option.map_id'.symm
  cases e with
  | connect peer =>
      have h := htook fun _ => rfl
      simp only [State.take]
      split
      · exact h.snoc rfl rfl rfl rfl
      · exact h.snoc rfl rfl rfl rfl
  | disconnect =>
      have h := htook fun _ => rfl
      simp only [State.take]
      split
      · exact h.snoc rfl rfl rfl rfl
      · exact h.snoc rfl rfl rfl rfl
  | send m =>
      have h := htook fun _ => rfl
      simp only [State.take]
      split
      · exact h
      · refine snoc ?_ rfl rfl rfl rfl
        exact h.snoc rfl rfl rfl rfl
  | pause length =>
      exact (htook fun _ => rfl).snoc rfl rfl rfl rfl
  | setAutoReply t enabled =>
      simp only [State.take]
      split
      · exact h.snoc rfl rfl rfl rfl
      · rename_i hsession
        have hnone : s'.enabled = none := hidle hsession
        have htold : Adds Mark.isPlain s (s'.mark (.took (.setAutoReply t enabled))) := by
          refine h.snoc rfl rfl rfl ?_
          rw [hnone]
          exact hnone
        exact htold.snoc rfl rfl rfl rfl

theorem proceed
    (hidle : s.session = none → s.enabled = none) :
    Adds Mark.isPlain s s.proceed := by
  unfold State.proceed
  split
  · exact (refl _ s).finish _
  · refine take ?_ ?_ _
    · exact refl _ s
    · exact hidle

theorem opened (s : State) (peer : Endpoint) (result : Result) :
    Adds Mark.isPlain s (s.opened peer result) := by
  cases result with
  | ok =>
      have hreturned : Adds Mark.isPlain s (s.mark (.openReturned peer .ok)) :=
        (refl _ s).snoc rfl rfl rfl rfl
      exact hreturned.snoc rfl rfl rfl rfl
  | failed e =>
      have hreturned : Adds Mark.isPlain s
          ({ s with enabled := none }.mark (.openReturned peer (.failed e))) :=
        (refl _ s).snoc rfl rfl rfl rfl
      exact hreturned.snoc rfl rfl rfl rfl

/-- A message is passed over without being handed over. -/
theorem unsent (s : State) (m : Message) (state : ConnectionState) (cause : String) :
    Adds Mark.isPlain s ((s.mark (.stateReturned state)).unsent m cause) := by
  have hasked : Adds Mark.isPlain s (s.mark (.stateReturned state)) :=
    (refl _ s).snoc rfl rfl rfl rfl
  exact hasked.snoc rfl rfl rfl rfl

theorem asked (s : State) (m : Message) (state : ConnectionState) :
    Adds Mark.isScript s (s.asked m state) := by
  have hunsent : ∀ cause, Adds Mark.isScript s
      ((s.mark (.stateReturned state)).unsent m cause) :=
    fun cause => (unsent s m state cause).mono fun _ => isScript_of_isPlain
  unfold State.asked
  cases state with
  | connected =>
      cases Pdu.encode m with
      | error e =>
          exact hunsent _
      | ok frame =>
          have hasked : Adds Mark.isScript s (s.mark (.stateReturned .connected)) :=
            (refl _ s).snoc rfl rfl rfl rfl
          exact hasked.snoc rfl rfl rfl rfl
  | disconnected | failed =>
      exact hunsent _

theorem sent (s : State) (m : Message) (frame : List UInt8) (result : Result) :
    Adds Mark.isScript s (s.sent m frame result) :=
  (refl _ s).snoc rfl rfl rfl rfl

theorem reported (s : State) (m : Message) (cause : Option String) :
    Adds Mark.isScript s (s.reported m cause) := by
  cases cause with
  | none =>
      exact (refl _ s).snoc rfl rfl rfl rfl
  | some cause =>
      exact ((refl _ s).abort m cause).mono fun _ => isScript_of_isPlain

theorem closed (s : State) (task : Task) {e : Entry} (result : Result) (he : e.kind ≠ .sent) :
    Adds Mark.isPlain s (s.closed task e result) := by
  have hclosed : Adds Mark.isPlain s
      ({ s with enabled := none }.mark (.closeReturned result)) :=
    (refl _ s).snoc rfl rfl rfl rfl
  have hplain : (Mark.logged .script e).isPlain = true := by
    simp [Mark.isPlain, he]
  exact hclosed.snoc hplain rfl rfl rfl

theorem entered (s : State) (length : Millis) :
    Adds Mark.isPlain s (s.entered length) :=
  (refl _ s).snoc rfl rfl rfl rfl

theorem left (s : State) :
    Adds Mark.isPlain s s.left :=
  (refl _ s).snoc rfl rfl rfl rfl

theorem woken (s : State) (cut : Bool) :
    Adds Mark.isPlain s (s.woken cut) := by
  have hended : Adds Mark.isPlain s (s.mark (.pauseEnded cut)) :=
    (refl _ s).snoc rfl rfl rfl rfl
  cases cut with
  | false =>
      exact hended
  | true =>
      exact hended.snoc rfl rfl rfl rfl

theorem deliver (s : State) (enabled : TypeSet) (frame : List UInt8) :
    Adds Mark.isAnswer (s.mark (.delivered enabled frame)) (s.deliver enabled frame) := by
  have harrived : Adds Mark.isAnswer (s.mark (.delivered enabled frame))
      (s.arrived enabled frame) := by
    unfold State.arrived
    cases AutoReply.arrivalEntry frame with
    | none =>
        exact refl _ _
    | some e =>
        exact (refl _ _).snoc rfl rfl rfl rfl
  have hanswers := answers_deliver s enabled frame
  generalize s.deliver enabled frame = s' at hanswers ⊢
  cases hanswers with
  | silent hreply =>
      exact harrived
  | handed hreply hbs =>
      exact harrived.snoc rfl rfl rfl rfl
  | unsent hreply he =>
      refine snoc ?_ rfl rfl rfl rfl
      exact harrived.snoc rfl rfl rfl rfl

end Adds

/-- The marks that a move can add at a moment. -/
inductive Added (s : State) : List Mark → Prop
  | script {ks : List Mark} (h : ∀ k ∈ ks, k.isScript = true) : Added s ks
  | arrival {enabled : TypeSet} {ks : List Mark} (henabled : s.enabled = some enabled)
      (frame : List UInt8) (h : ∀ k ∈ ks, k.isAnswer = true) :
      Added s (.delivered enabled frame :: ks)
  | notice {ks : List Mark} (h : ∀ k ∈ ks, k.isNotice = true) : Added s ks

/-- A mark that neither the script nor a notice adds comes with a frame. -/
theorem Added.exists_arrival
    {s : State} {l r : List Mark} {k : Mark}
    (h : Added s (l ++ k :: r))
    (hscript : k.isScript = false)
    (hnotice : k.isNotice = false) :
    ∃ enabled frame ks, s.enabled = some enabled ∧ (∀ k ∈ ks, k.isAnswer = true) ∧
      l ++ k :: r = .delivered enabled frame :: ks := by
  have hmem : k ∈ l ++ k :: r := List.mem_append_right l List.mem_cons_self
  generalize l ++ k :: r = all at h hmem
  cases h with
  | script hall =>
      exact absurd (hall k hmem) (ne_true_of_eq_false hscript)
  | arrival henabled frame hks =>
      exact ⟨_, frame, _, henabled, hks, rfl⟩
  | notice hall =>
      exact absurd (hall k hmem) (ne_true_of_eq_false hnotice)

/-- The second state is the first one with the marks of a move, which tell what it does to
the answered types. -/
def Advances (s s' : State) : Prop :=
  ∃ ks, Added s ks ∧ s'.trace = s.trace ++ ks ∧ s'.defaults = s.defaults ∧
    s'.enabled = effects s.defaults ks s.enabled

theorem kind_finalCloseEntry_ne_sent (result : Result) :
    (finalCloseEntry result).kind ≠ .sent := by
  cases result <;> simp [finalCloseEntry, disconnectedEntry]

/-- The move is one of the script. -/
def Move.isScript : Move → Bool
  | .deliver _ | .replied _ | .noted | .lose | .look | .notify => false
  | _ => true

/-- A move of the script adds marks of the script. -/
theorem adds_script
    {s s' : State} {move : Move}
    (h : Happens s move s')
    (hmove : move.isScript = true)
    (hlistens : Listens s) :
    Adds Mark.isScript s s' := by
  have hplain : ∀ {t}, Adds Mark.isPlain s t → Adds Mark.isScript s t :=
    fun h => h.mono fun _ => isScript_of_isPlain
  cases h with
  | nothing =>
      exact Adds.refl _ s
  | proceed htask =>
      exact hplain (Adds.proceed (hlistens.enabled_eq_none htask))
  | opened result htask =>
      exact hplain (Adds.opened s _ result)
  | asked state htask =>
      exact Adds.asked s _ state
  | sent result htask =>
      exact Adds.sent s _ _ result
  | reported htask =>
      exact Adds.reported s _ _
  | closed result htask =>
      exact hplain (Adds.closed s _ result (by decide))
  | finished result htask =>
      exact hplain (Adds.closed s _ result (kind_finalCloseEntry_ne_sent result))
  | entered htask =>
      exact hplain (Adds.entered s _)
  | woken htask =>
      exact hplain (Adds.woken s _)
  | left htask =>
      exact hplain (Adds.left s)
  | delivered | replied | noted | lost | looked | notified =>
      cases hmove

/-- **What a move does to the trace.** -/
theorem advances_happens
    {s s' : State} {move : Move}
    (h : Happens s move s')
    (hlistens : Listens s) :
    Advances s s' := by
  have hnotice : ∀ {t}, Adds Mark.isNotice s t → Advances s t := by
    rintro t ⟨ks, htrace, hks, hrest⟩
    exact ⟨ks, Added.notice hks, htrace, hrest⟩
  cases hmove : move.isScript with
  | true =>
      obtain ⟨ks, htrace, hks, hrest⟩ := adds_script h hmove hlistens
      exact ⟨ks, Added.script hks, htrace, hrest⟩
  | false =>
      cases h with
      | nothing =>
          exact hnotice (Adds.refl _ s)
      | @delivered enabled frame henabled =>
          obtain ⟨ks, htrace, hks, hdefaults, hset⟩ := Adds.deliver s enabled frame
          refine ⟨.delivered enabled frame :: ks, Added.arrival henabled frame hks,
            ?_, hdefaults, hset⟩
          rw [htrace, State.mark, List.append_assoc, List.singleton_append]
      | lost henabled =>
          have hlost : Adds Mark.isNotice s (s.mark .lost) :=
            (Adds.refl _ s).snoc rfl rfl rfl rfl
          exact hnotice (hlost.snoc rfl rfl rfl rfl)
      | replied | noted | looked | notified =>
          exact hnotice ((Adds.refl _ s).snoc rfl rfl rfl rfl)
      | proceed | opened | asked | sent | reported | closed | finished | entered | woken
      | left =>
          cases hmove

/-! ### Runs -/

theorem advances_steps (defaults : TypeSet) (batch : Batch) (moves : List Move)
    (move : Move) :
    Advances (steps (.start defaults batch) moves)
      (steps (.start defaults batch) (moves ++ [move])) := by
  rw [steps_snoc]
  exact advances_happens (happens_step _ move) (listens_steps defaults batch moves)

/-- The set of answered types is the one that the trace tells. -/
theorem tracks_steps (defaults : TypeSet) (batch : Batch) (moves : List Move) :
    (steps (.start defaults batch) moves).defaults = defaults ∧
      (steps (.start defaults batch) moves).enabled =
        effects defaults (steps (.start defaults batch) moves).trace none := by
  induction moves using List.reverseRecOn with
  | nil =>
      exact ⟨rfl, rfl⟩
  | append_singleton moves move ih =>
      obtain ⟨ks, -, htrace, hdefaults, henabled⟩ := advances_steps defaults batch moves move
      refine ⟨hdefaults.trans ih.1, ?_⟩
      rw [henabled, htrace, effects_append, ih.1, ih.2]

/-- **The move of a mark.**  Each mark was added by one move, at an earlier moment. -/
theorem exists_move_of_mark
    {defaults : TypeSet} {batch : Batch} {moves : List Move}
    {front back : List Mark} {k : Mark}
    (htrace : (steps (.start defaults batch) moves).trace = front ++ k :: back) :
    ∃ before l r, before <+: moves ∧ front =
      (steps (.start defaults batch) before).trace ++ l ∧
      Added (steps (.start defaults batch) before) (l ++ k :: r) := by
  induction moves using List.reverseRecOn generalizing front back with
  | nil =>
      have hnil : front ++ k :: back = [] := htrace.symm
      simp at hnil
  | append_singleton moves move ih =>
      obtain ⟨ks, hadded, hks, -, -⟩ := advances_steps defaults batch moves move
      rw [hks] at htrace
      rcases split_cases htrace with ⟨l, hfront, hl⟩ | ⟨back', hearlier, -⟩
      · exact ⟨moves, l, back, List.prefix_append _ _, hfront, hl ▸ hadded⟩
      · obtain ⟨before, l, r, hbefore, hfront, hadded⟩ := ih hearlier
        exact ⟨before, l, r, hbefore.trans (List.prefix_append _ _), hfront, hadded⟩

end Replay
end SmppReplay
