import SmppReplay.Replay.Step
import Mathlib.Tactic

/-!
# Runs and their steps

A run is a list of moves from the start of a batch.  `Happens` lists what a move can do:
each case names what the script or the inbound side was waiting for, and gives the moment
after.  A move that answers nothing changes nothing.

What every case preserves holds at every moment of every run (`steps_preserves`).
-/

namespace SmppReplay
namespace Replay

open AutoReply (TypeSet)
open Transport (ConnectionState Endpoint Result)

/-- What a move can do at a moment. -/
inductive Happens (s : State) : Move → State → Prop
  | nothing (move : Move) :
      Happens s move s
  | proceed (h : s.task = .ready) :
      Happens s .proceed s.proceed
  | opened {peer : Endpoint} (result : Result) (h : s.task = .opening peer) :
      Happens s (.opened result) (s.opened peer result)
  | asked {m : Message} (state : ConnectionState) (h : s.task = .asking m) :
      Happens s (.state state) (s.asked m state)
  | sent {m : Message} {frame : List UInt8} (result : Result)
      (h : s.task = .sending m frame) :
      Happens s (.sent result) (s.sent m frame result)
  | reported {m : Message} {cause : Option String} (h : s.task = .reporting m cause) :
      Happens s .reported (s.reported m cause)
  | closed (result : Result) (h : s.task = .closing) :
      Happens s (.closed result) (s.closed .ready disconnectedEntry result)
  | finished {o : Outcome} (result : Result) (h : s.task = .finishing o) :
      Happens s (.closed result) (s.closed (.finished o) (finalCloseEntry result) result)
  | entered {length : Millis} (h : s.task = .entering length) :
      Happens s .entered (s.entered length)
  | woken {length : Millis} {cut : Bool} (h : s.task = .pausing length)
      (hcut : cut = true → s.handle.isWoken = true) :
      Happens s (.wake cut) (s.woken cut)
  | left (h : s.task = .leaving) :
      Happens s .left s.left
  | delivered {enabled : TypeSet} (frame : List UInt8) (h : s.enabled = some enabled) :
      Happens s (.deliver frame) (s.deliver enabled frame)
  | replied {r : Reply} {rest : List Reply} (result : Result) (h : s.replies = r :: rest)
      (hresult : r.result = none) :
      Happens s (.replied result) (s.replied r rest result)
  | noted {r : Reply} {rest : List Reply} {result : Result} (h : s.replies = r :: rest)
      (hresult : r.result = some result) :
      Happens s .noted (s.noted r rest result)
  | lost {enabled : TypeSet} (h : s.enabled = some enabled) :
      Happens s .lose ((s.mark .lost).record .inbound AutoReply.lostEntry)
  | looked :
      Happens s .look s.look
  | notified :
      Happens s .notify s.notify

theorem happens_step (s : State) (move : Move) :
    Happens s move (step s move) := by
  cases move with
  | proceed =>
      simp only [step]
      split
      · exact Happens.proceed ‹_›
      · exact Happens.nothing _
  | opened result =>
      simp only [step]
      split
      · exact Happens.opened result ‹_›
      · exact Happens.nothing _
  | state state =>
      simp only [step]
      split
      · exact Happens.asked state ‹_›
      · exact Happens.nothing _
  | sent result =>
      simp only [step]
      split
      · exact Happens.sent result ‹_›
      · exact Happens.nothing _
  | reported =>
      simp only [step]
      split
      · exact Happens.reported ‹_›
      · exact Happens.nothing _
  | closed result =>
      simp only [step]
      split
      · exact Happens.closed result ‹_›
      · exact Happens.finished result ‹_›
      · exact Happens.nothing _
  | entered =>
      simp only [step]
      split
      · exact Happens.entered ‹_›
      · exact Happens.nothing _
  | wake cut =>
      simp only [step]
      split
      · split
        · exact Happens.nothing _
        · rename_i hcut
          refine Happens.woken ‹_› fun hwoken => ?_
          simpa [hwoken] using hcut
      · exact Happens.nothing _
  | left =>
      simp only [step]
      split
      · exact Happens.left ‹_›
      · exact Happens.nothing _
  | deliver frame =>
      simp only [step]
      split
      · exact Happens.delivered frame ‹_›
      · exact Happens.nothing _
  | replied result =>
      simp only [step]
      split
      · split
        · exact Happens.replied result ‹_› ‹_›
        · exact Happens.nothing _
      · exact Happens.nothing _
  | noted =>
      simp only [step]
      split
      · split
        · exact Happens.noted ‹_› ‹_›
        · exact Happens.nothing _
      · exact Happens.nothing _
  | lose =>
      simp only [step]
      split
      · exact Happens.lost ‹_›
      · exact Happens.nothing _
  | look =>
      exact Happens.looked
  | notify =>
      exact Happens.notified

/-- The moment after a frame was taken and before it is answered. -/
def State.arrived (s : State) (enabled : TypeSet) (frame : List UInt8) : State :=
  (AutoReply.arrivalEntry frame).elim (s.mark (.delivered enabled frame))
    fun e => (s.mark (.delivered enabled frame)).record .inbound e

/-- How a frame that was taken is answered: not at all, by a reply, or by a reply without a
wire form. -/
inductive Answers (s : State) (enabled : TypeSet) (frame : List UInt8) : State → Prop
  | silent (h : AutoReply.reply? enabled frame = none) :
      Answers s enabled frame s
  | handed {m : Message} {bs : List UInt8}
      (h : AutoReply.reply? enabled frame = some m) (hbs : Pdu.encode m = .ok bs) :
      Answers s enabled frame
        ({ s with replies := ⟨m, bs, none⟩ :: s.replies }.mark (.sendCalled .inbound m bs))
  | unsent {m : Message} {e : Pdu.Error}
      (h : AutoReply.reply? enabled frame = some m) (he : Pdu.encode m = .error e) :
      Answers s enabled frame
        ((s.mark (.unsent .inbound m)).record .inbound (.sendFailed m e.message))

theorem answers_deliver (s : State) (enabled : TypeSet) (frame : List UInt8) :
    Answers (s.arrived enabled frame) enabled frame (s.deliver enabled frame) := by
  unfold State.deliver State.arrived
  cases AutoReply.arrivalEntry frame <;>
    cases hreply : AutoReply.reply? enabled frame with
    | none =>
        exact Answers.silent hreply
    | some m =>
        cases hencode : Pdu.encode m with
        | error e =>
            simp only [hencode]
            exact Answers.unsent hreply hencode
        | ok bs =>
            simp only [hencode]
            exact Answers.handed hreply hencode

/-- A frame that is taken leaves the script where it is. -/
theorem task_deliver (s : State) (enabled : TypeSet) (frame : List UInt8) :
    (s.deliver enabled frame).task = s.task := by
  have harrived : (s.arrived enabled frame).task = s.task := by
    unfold State.arrived
    cases AutoReply.arrivalEntry frame <;> rfl
  have hanswers := answers_deliver s enabled frame
  generalize s.deliver enabled frame = s' at hanswers ⊢
  cases hanswers <;> exact harrived

/-- A frame that is taken leaves the events where they are. -/
theorem rest_deliver (s : State) (enabled : TypeSet) (frame : List UInt8) :
    (s.deliver enabled frame).rest = s.rest := by
  have harrived : (s.arrived enabled frame).rest = s.rest := by
    unfold State.arrived
    cases AutoReply.arrivalEntry frame <;> rfl
  have hanswers := answers_deliver s enabled frame
  generalize s.deliver enabled frame = s' at hanswers ⊢
  cases hanswers <;> exact harrived

/-- A run that is over is at its end. -/
theorem task_of_outcome?
    {s : State} {o : Outcome}
    (h : s.outcome? = some o) :
    s.task = .finished o := by
  unfold State.outcome? at h
  split at h
  · rename_i o' htask
    rw [htask, Option.some.inj h]
  · cases h

theorem steps_snoc (s : State) (moves : List Move) (move : Move) :
    steps s (moves ++ [move]) = step (steps s moves) move := by
  rw [steps, List.foldl_append]
  rfl

/-- What every move preserves holds after all of them. -/
theorem steps_preserves
    {P : State → Prop}
    (hP : ∀ s move s', Happens s move s' → P s → P s')
    {s : State} (moves : List Move)
    (hs : P s) :
    P (steps s moves) := by
  induction moves generalizing s with
  | nil =>
      exact hs
  | cons move moves ih =>
      exact ih (hP s move _ (happens_step s move) hs)

/-! ### A run in which much happens -/

/-- An inquiry with the number 9. -/
def inquiry : List UInt8 :=
  [0, 0, 0, 16, 0, 0, 0, 21, 0, 0, 0, 0, 0, 0, 0, 9]

/-- The length of a pause of one second. -/
def second : Millis :=
  ⟨1000, by decide⟩

/-- Two connections are opened, one is refused and one fails; a pause is cut short, and the
last message is not sent. -/
def eventful : Batch :=
  [.connect ⟨"a", 1⟩, .setAutoReply .enquireLink false, .send (Message.new .unbind),
    .connect ⟨"b", 2⟩, .disconnect, .setAutoReply .unbind true, .connect ⟨"c", 3⟩,
    .connect ⟨"d", 4⟩, .pause second, .send (Message.new .enquireLink), .disconnect]

/-- An inquiry arrives while the first connection is being opened, and another one when
inquiries are not answered any more. -/
def eventfulMoves : List Move :=
  [.proceed, .deliver inquiry, .opened .ok, .replied .ok, .noted, .proceed, .deliver inquiry,
    .proceed, .state .connected, .sent .ok, .reported, .proceed, .proceed, .closed .ok,
    .proceed, .proceed, .opened (.failed .disconnected), .proceed, .opened .ok, .proceed,
    .entered, .look, .notify, .wake true, .left, .proceed, .state .connected, .lose,
    .sent (.failed .disconnected), .reported, .closed .ok]

/-- The run, with inquiries answered at first. -/
def eventfulRun : State :=
  steps (.start (.ofList [.enquireLink]) eventful) eventfulMoves

end Replay
end SmppReplay
