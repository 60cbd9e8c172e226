import SmppReplay.Proofs.Replay.Course

/-!
# What the transcript says about sending

**Question.** Two sides send over one connection and write into one transcript.  Does the
transcript tell what was sent, and what was not?

The entries about sent messages are, message by message, the frames that connections took;
and there is one entry about a failure for each message that was passed over, had no wire
form, or could not be handed over.  Every attempt to send is told by one of them.  The entry
is made after the sending has returned, and so at a moment in between the transcript owes it
(`Owed`); when the run is over it owes nothing.

**Method.** `Balance` is the account of some marks.  It does not depend on their order, so
that the script's marks and those of the inbound side are balanced on their own: the former
turn by turn, the latter stretch by stretch.  What is owed behind some marks is what was
owed before them, and what they add to it.

Main fact:
* `reconciled_steps`: the transcript of a run and its sendings.
-/

namespace SmppReplay
namespace Replay

open AutoReply (TypeSet Due)
open Transcript (Entry)
open Transport (Endpoint Result)

/-! ### Entries and sendings -/

/-- The entry that a mark puts into the transcript. -/
def Mark.entry? : Mark → Option Entry
  | .logged _ e => some e
  | _ => none

/-- The entries that some marks put into the transcript. -/
def entries (ks : List Mark) : List Entry :=
  ks.filterMap Mark.entry?

theorem entries_append (ks ks' : List Mark) :
    entries (ks ++ ks') = entries ks ++ entries ks' :=
  List.filterMap_append

/-- The entries about messages that were sent. -/
def sentEntries (l : List Entry) : List Entry :=
  l.filter fun e => e.kind == .sent

/-- The number of entries about messages that were not sent. -/
def failureEntries (l : List Entry) : Nat :=
  l.countP fun e => e.kind == .sendFailed

/-- The frame that a connection took. -/
def Mark.accepted? : Mark → Option (List UInt8)
  | .sendReturned _ _ frame .ok => some frame
  | _ => none

/-- The frames that connections took from both sides. -/
def accepted (ks : List Mark) : List (List UInt8) :=
  ks.filterMap Mark.accepted?

/-- A message was not handed over, or its sending failed. -/
def Mark.isFailure : Mark → Bool
  | .sendReturned _ _ _ (.failed _) => true
  | .unsent _ _ => true
  | _ => false

/-- There is a message to be sent: the next one of the script, or a reply. -/
def Mark.isAttempt : Mark → Bool
  | .took (.send _) => true
  | .delivered enabled frame => (AutoReply.reply? enabled frame).isSome
  | _ => false

/-! ### What the transcript owes -/

/-- The attempts to send that have no entry yet. -/
@[ext] structure Owed where
  /-- Their number. -/
  attempts : Nat := 0
  /-- The messages of those whose sending succeeded. -/
  sent : List Message := []
  /-- The number of those that failed. -/
  failed : Nat := 0

namespace Owed

instance : Zero Owed :=
  ⟨{}⟩

instance : Add Owed :=
  ⟨fun a b => ⟨a.attempts + b.attempts, a.sent ++ b.sent, a.failed + b.failed⟩⟩

@[simp] theorem attempts_zero :
    (0 : Owed).attempts = 0 :=
  rfl

@[simp] theorem sent_zero :
    (0 : Owed).sent = [] :=
  rfl

@[simp] theorem failed_zero :
    (0 : Owed).failed = 0 :=
  rfl

@[simp] theorem attempts_add (a b : Owed) :
    (a + b).attempts = a.attempts + b.attempts :=
  rfl

@[simp] theorem sent_add (a b : Owed) :
    (a + b).sent = a.sent ++ b.sent :=
  rfl

@[simp] theorem failed_add (a b : Owed) :
    (a + b).failed = a.failed + b.failed :=
  rfl

/-- What is owed by two sides is put together. -/
instance : AddMonoid Owed where
  add_assoc _ _ _ := Owed.ext (Nat.add_assoc ..) (List.append_assoc ..) (Nat.add_assoc ..)
  zero_add _ := Owed.ext (Nat.zero_add _) rfl (Nat.zero_add _)
  add_zero _ := Owed.ext rfl (List.append_nil _) rfl
  nsmul := nsmulRec

end Owed

/-- What is owed about the script's message. -/
def Task.owed : Task → Owed
  | .asking _ | .sending _ _ => { attempts := 1 }
  | .reporting m none => { attempts := 1, sent := [m] }
  | .reporting _ (some _) => { attempts := 1, failed := 1 }
  | _ => 0

/-- What is owed about a reply. -/
def Reply.owed (r : Reply) : Owed :=
  match r.result with
  | none => { attempts := 1 }
  | some .ok => { attempts := 1, sent := [r.message] }
  | some (.failed _) => { attempts := 1, failed := 1 }

/-- What is owed about some replies. -/
def owedAbout (rs : List Reply) : Owed :=
  (rs.map Reply.owed).sum

/-- What the transcript owes at a moment. -/
def State.owed (s : State) : Owed :=
  s.task.owed + owedAbout s.replies

/-! ### Balances -/

theorem perm_exchange {α : Type} (a b c d : List α) :
    ((a ++ b) ++ (c ++ d)).Perm ((a ++ c) ++ (b ++ d)) := by
  rw [List.append_assoc, List.append_assoc]
  exact (List.perm_append_comm_assoc b c d).append_left a

/-- The entries of some marks tell what the marks say about sending, but for what is owed
before and after them. -/
structure Balance (ks : List Mark) (before after : Owed) : Prop where
  sent : (((sentEntries (entries ks)).map fun e => e.message.map Pdu.encode) ++
      after.sent.map fun m => some (Pdu.encode m)).Perm
    ((before.sent.map fun m => some (Pdu.encode m)) ++
      (accepted ks).map fun frame => some (.ok frame))
  failed : failureEntries (entries ks) + after.failed =
    before.failed + ks.countP Mark.isFailure
  attempts : before.attempts + ks.countP Mark.isAttempt =
    after.attempts + (sentEntries (entries ks)).length + failureEntries (entries ks)

namespace Balance

variable {ks ks' : List Mark} {a b c d : Owed}

theorem nil (a : Owed) :
    Balance [] a a :=
  ⟨List.perm_append_comm, Nat.zero_add _, rfl⟩

/-- Of two sides that are balanced each has attempts of its own. -/
theorem append
    (h : Balance ks a b)
    (h' : Balance ks' c d) :
    Balance (ks ++ ks') (a + c) (b + d) := by
  have hentries := entries_append ks ks'
  have haccepted : accepted (ks ++ ks') = accepted ks ++ accepted ks' :=
    List.filterMap_append
  refine ⟨?_, ?_, ?_⟩
  · simp only [hentries, haccepted, sentEntries, List.filter_append, List.map_append,
      Owed.sent_add]
    exact ((perm_exchange _ _ _ _).trans (h.sent.append h'.sent)).trans
      (perm_exchange _ _ _ _)
  · have hfailed := h.failed
    have hfailed' := h'.failed
    simp only [hentries, failureEntries, List.countP_append,
      Owed.failed_add] at hfailed hfailed' ⊢
    omega
  · have hattempts := h.attempts
    have hattempts' := h'.attempts
    simp only [hentries, sentEntries, failureEntries, List.filter_append, List.length_append,
      List.countP_append, Owed.attempts_add] at hattempts hattempts' ⊢
    omega

/-- One after the other, the others pay what the first marks owe. -/
theorem trans
    (h : Balance ks a b)
    (h' : Balance ks' b c) :
    Balance (ks ++ ks') a c := by
  obtain ⟨hsent, hfailed, hattempts⟩ := h.append h'
  simp only [Owed.attempts_add, Owed.sent_add, Owed.failed_add,
    List.map_append] at hsent hfailed hattempts
  refine ⟨?_, by omega, by omega⟩
  rw [List.append_assoc] at hsent
  have hcommon := (List.perm_append_comm_assoc _ _ _).trans
    (hsent.trans (List.perm_append_comm_assoc _ _ _))
  exact (List.perm_append_left_iff _).1 hcommon

/-- The order of the marks does not matter. -/
theorem perm
    (h : Balance ks a b)
    (hperm : ks.Perm ks') :
    Balance ks' a b := by
  have hentries : (entries ks).Perm (entries ks') :=
    hperm.filterMap _
  have hsent : (sentEntries (entries ks)).Perm (sentEntries (entries ks')) :=
    hentries.filter _
  have haccepted : (accepted ks).Perm (accepted ks') :=
    hperm.filterMap _
  refine ⟨?_, ?_, ?_⟩
  · have hpaid :=
      ((hsent.map fun e => e.message.map Pdu.encode).append_right _).symm.trans h.sent
    exact hpaid.trans ((haccepted.map _).append_left _)
  · rw [← hperm.countP_eq, failureEntries, ← hentries.countP_eq]
    exact h.failed
  · rw [← hperm.countP_eq, ← hsent.length_eq, failureEntries, ← hentries.countP_eq]
    exact h.attempts

end Balance

/-! ### The script -/

theorem Turn.balance
    {st st' : Standing} {e : Event} {ms : List Mark}
    (h : Turn st e ms st') :
    Balance (.took e :: ms) 0 0 := by
  cases h with
  | @sent m frame held hopen hframe =>
      refine ⟨?_, rfl, rfl⟩
      change [some (Pdu.encode (st.numbered m))].Perm [some (.ok frame)]
      rw [hframe]
  | _ =>
      exact ⟨List.Perm.refl _, rfl, rfl⟩

theorem Turns.balance
    {st st' : Standing} {events : Batch} {marks : List Mark}
    (h : Turns st events marks st') :
    Balance marks 0 0 := by
  induction h with
  | nil =>
      exact Balance.nil 0
  | cons hturn hrest ih =>
      exact hturn.balance.trans ih

theorem Fails.balance
    {st : Standing} {m : Message} {ms : List Mark} {cause : String}
    (h : Fails st m ms cause)
    (m' : Message) :
    Balance (.took (.send m) :: ms) 0 (Task.reporting m' (some cause)).owed := by
  cases h <;> exact ⟨List.Perm.refl _, rfl, rfl⟩

theorem Ends.balance
    {st st' : Standing} {rest current : Batch} {ms : List Mark} {o : Outcome}
    (h : Ends st rest current ms o st') :
    Balance ms 0 0 := by
  cases h with
  | completed =>
      exact Balance.nil 0
  | @aborted m _ _ _ hopen hfails =>
      exact (hfails.balance m).trans ⟨List.Perm.refl _, rfl, rfl⟩

/-- At a stage the message that has no entry yet is owed. -/
theorem Stage.balance
    {st st' : Standing} {rest current : Batch} {ms : List Mark} {task : Task}
    (h : Stage st rest current ms task st') :
    Balance ms 0 task.owed := by
  cases h with
  | @sent m frame held hopen hframe =>
      refine ⟨?_, rfl, rfl⟩
      change [some (Pdu.encode (st.numbered m))].Perm [some (.ok frame)]
      rw [hframe]
  | failed hopen hfails =>
      exact hfails.balance _
  | leaving length cut =>
      cases cut <;> exact ⟨List.Perm.refl _, rfl, rfl⟩
  | finishing hends hopen =>
      exact hends.balance.trans ⟨List.Perm.refl _, rfl, rfl⟩
  | closed result hends hopen =>
      refine hends.balance.trans ?_
      cases result <;> exact ⟨List.Perm.refl _, rfl, rfl⟩
  | finished hends hidle =>
      exact hends.balance
  | _ =>
      exact ⟨List.Perm.refl _, rfl, rfl⟩

/-! ### The inbound side -/

/-- The inbound side's part of a trace. -/
def inboundPart (trace : List Mark) : List Mark :=
  trace.filter fun k => !k.isScript

/-- A frame that arrives opens an attempt if it is answered. -/
theorem arrival_balance
    {enabled : TypeSet} {frame : List UInt8} {entry : Option Entry}
    {reply : Option (Message × List UInt8)}
    (h : Due enabled frame entry reply) :
    Balance (arrival enabled frame entry reply) 0 (owedAbout (handedOver reply)) := by
  have hattempt : (arrival enabled frame entry reply).countP Mark.isAttempt =
      (owedAbout (handedOver reply)).attempts := by
    rw [arrival, List.countP_cons, Mark.isAttempt, h.reply?_eq]
    cases entry <;> cases reply <;> rfl
  -- The entry of the arrival is about a message that was received.
  have hsilent : sentEntries (entries (arrival enabled frame entry reply)) = [] ∧
      failureEntries (entries (arrival enabled frame entry reply)) = 0 ∧
      accepted (arrival enabled frame entry reply) = [] ∧
      (arrival enabled frame entry reply).countP Mark.isFailure = 0 ∧
      (owedAbout (handedOver reply)).sent = [] ∧
        (owedAbout (handedOver reply)).failed = 0 := by
    cases h <;> exact ⟨rfl, rfl, rfl, rfl, rfl, rfl⟩
  obtain ⟨hsent, hfailed, haccepted, hfailures, howed, howedFailed⟩ := hsilent
  refine ⟨?_, ?_, ?_⟩
  · rw [hsent, haccepted, howed]
    exact List.Perm.refl _
  · rw [hfailed, hfailures, howedFailed, Owed.failed_zero]
  · rw [hattempt, hsent, hfailed]
    exact Nat.zero_add _

/-- A stretch of the inbound side is balanced; one of the script has no mark of it. -/
theorem Stretch.balance
    {u u' : Underway} {ks : List Mark}
    (h : Stretch u ks u')
    (hforms : ∀ r ∈ u.replies, Pdu.encode r.message = .ok r.frame) :
    Balance (inboundPart ks) (owedAbout u.replies) (owedAbout u'.replies) := by
  cases h with
  | @script rs ks hks =>
      have hnone : inboundPart ks = [] := by
        refine List.filter_eq_nil_iff.2 fun k hk => ?_
        simp [isScript_of_isPlain (hks k hk)]
      rw [hnone]
      exact Balance.nil _
  | handed | sent | failed | reported =>
      exact Balance.nil _
  | @arrived p rs enabled frame entry reply hdue =>
      have hall : inboundPart (arrival enabled frame entry reply) =
          arrival enabled frame entry reply ++ [] := by
        cases entry <;> cases reply <;> rfl
      have hbalance := (arrival_balance hdue).append (Balance.nil (owedAbout rs))
      rw [zero_add, owedAbout, owedAbout, ← List.sum_append, ← List.map_append] at hbalance
      rw [hall]
      exact hbalance
  | @replied p rs r result hnone =>
      have hform : Pdu.encode r.message = .ok r.frame :=
        hforms r List.mem_cons_self
      have hreply : Balance [.sendReturned .inbound r.message r.frame result] r.owed
          { r with result := some result : Reply }.owed := by
        rw [Reply.owed, hnone]
        cases result with
        | ok =>
            refine ⟨?_, rfl, rfl⟩
            change [some (Pdu.encode r.message)].Perm [some (.ok r.frame)]
            rw [hform]
        | failed e =>
            exact ⟨List.Perm.refl _, rfl, rfl⟩
      exact hreply.append (Balance.nil (owedAbout rs))
  | @noted p rs r result hresult =>
      have hreply : Balance
          [.logged .inbound (AutoReply.outcomeEntry r.message result.cause?)] r.owed 0 := by
        rw [Reply.owed, hresult]
        cases result <;> exact ⟨List.Perm.refl _, rfl, rfl⟩
      have hbalance := hreply.append (Balance.nil (owedAbout rs))
      rw [zero_add] at hbalance
      exact hbalance
  | @lost _ rs | @interrupted _ rs | @notified _ rs =>
      exact ⟨List.perm_append_comm, Nat.zero_add _, rfl⟩

/-- A reply that is under way has a wire form, which is what was handed over. -/
theorem Stretch.forms
    {u u' : Underway} {ks : List Mark}
    (h : Stretch u ks u')
    (hforms : ∀ r ∈ u.replies, Pdu.encode r.message = .ok r.frame) :
    ∀ r ∈ u'.replies, Pdu.encode r.message = .ok r.frame := by
  cases h with
  | @arrived p rs enabled frame entry reply hdue =>
      refine List.forall_mem_append.2 ⟨?_, hforms⟩
      cases hdue with
      | nothing | header | entry =>
          exact fun _ hr => absurd hr List.not_mem_nil
      | reply hdecode hpair henabled hencode =>
          exact List.forall_mem_singleton.2 hencode
  | replied r result =>
      exact List.forall_mem_cons.2 ⟨hforms r List.mem_cons_self,
        (List.forall_mem_cons.1 hforms).2⟩
  | noted r =>
      exact (List.forall_mem_cons.1 hforms).2
  | _ =>
      exact hforms

theorem Course.balance
    {u' : Underway} {l : List Mark}
    (h : Course {} l u') :
    Balance (inboundPart l) 0 (owedAbout u'.replies) ∧
      ∀ r ∈ u'.replies, Pdu.encode r.message = .ok r.frame := by
  induction h with
  | nil =>
      exact ⟨Balance.nil 0, fun _ hr => absurd hr List.not_mem_nil⟩
  | snoc h hks ih =>
      obtain ⟨hbalance, hforms⟩ := ih
      refine ⟨?_, hks.forms hforms⟩
      rw [inboundPart, List.filter_append]
      exact hbalance.trans (hks.balance hforms)

/-! ### Runs -/

/-- What the transcript of a run says about sending up to a moment. -/
structure Reconciled (s : State) : Prop where
  /-- The messages of the entries about sent messages, and those that were sent and have no
  entry yet, are those of the frames that connections took, each as often. -/
  sent : (((sentEntries s.log).map fun e => e.message.map Pdu.encode) ++
      s.owed.sent.map fun m => some (Pdu.encode m)).Perm
    ((accepted s.trace).map fun frame => some (.ok frame))
  /-- There is an entry about a failure, or will be, for each message that was not handed
  over or whose sending failed. -/
  failed : failureEntries s.log + s.owed.failed = s.trace.countP Mark.isFailure
  /-- Every attempt has its entry, or will have it. -/
  attempts : s.trace.countP Mark.isAttempt =
    (sentEntries s.log).length + failureEntries s.log + s.owed.attempts
  /-- A run that is over owes nothing, once its replies are done with. -/
  settled : s.outcome? ≠ none → s.replies = [] →
    ((sentEntries s.log).map fun e => e.message.map Pdu.encode).Perm
        ((accepted s.trace).map fun frame => some (.ok frame)) ∧
      failureEntries s.log = s.trace.countP Mark.isFailure ∧
      s.trace.countP Mark.isAttempt = (sentEntries s.log).length + failureEntries s.log

/-- A run that is over owes nothing, once its replies are done with. -/
theorem owed_eq_zero
    {s : State}
    (hover : s.outcome? ≠ none)
    (hreplies : s.replies = []) :
    s.owed = 0 := by
  obtain ⟨o, ho⟩ := Option.ne_none_iff_exists'.1 hover
  rw [State.owed, hreplies, task_of_outcome? ho]
  rfl

/-- **The transcript tells what was sent and what was not.** -/
theorem reconciled_steps (defaults : TypeSet) (batch : Batch) (moves : List Move) :
    Reconciled (steps (.start defaults batch) moves) := by
  obtain ⟨done, marks, st, current, ms, hturns, hstage, hscript, -, -⟩ :=
    accounted_steps defaults batch moves
  obtain ⟨hinbound, -⟩ := (course_steps defaults batch moves).balance
  generalize steps (.start defaults batch) moves = s at *
  have hscript : Balance (scriptPart s.trace) 0 s.task.owed :=
    hscript ▸ hturns.balance.trans hstage.balance
  have hwhole : Balance s.trace 0 s.owed :=
    (hscript.append hinbound).perm (List.filter_append_perm Mark.isScript s.trace)
  obtain ⟨hsent, hfailed, hattempts⟩ := hwhole
  rw [Owed.failed_zero, Nat.zero_add] at hfailed
  rw [Owed.attempts_zero, Nat.zero_add, Nat.add_assoc, Nat.add_comm] at hattempts
  refine ⟨hsent, hfailed, hattempts, ?_⟩
  intro hover hreplies
  rw [owed_eq_zero hover hreplies] at hsent hfailed hattempts
  rw [Owed.sent_zero, List.map_nil, List.append_nil] at hsent
  exact ⟨hsent, hfailed, hattempts⟩

/-- In the eventful run a reply and a message are sent, and one message is not. -/
theorem reconciled_steps_eventful :
    (sentEntries eventfulRun.log).length = 2 ∧ failureEntries eventfulRun.log = 1 ∧
      ((sentEntries eventfulRun.log).map fun e => e.message.map Pdu.encode).Perm
        ((accepted eventfulRun.trace).map fun frame => some (.ok frame)) ∧
      eventfulRun.trace.countP Mark.isAttempt =
        (sentEntries eventfulRun.log).length + failureEntries eventfulRun.log := by
  have hreconciled : Reconciled eventfulRun := reconciled_steps _ eventful eventfulMoves
  obtain ⟨hsent, -, hattempts⟩ := hreconciled.settled (by decide +kernel) (by decide +kernel)
  exact ⟨by decide +kernel, by decide +kernel, hsent, hattempts⟩

end Replay
end SmppReplay
