import SmppReplay.Proofs.Transport.Chunking
import SmppReplay.Transport.Connection

/-!
# Moves of a connection

The peer, the reader, whoever sends and the owner move a connection in any order.  `Happens`
lists what a move can do at a moment: each case names what its side was waiting for.  A move
that its side is not ready for changes nothing, and neither do octets behind the end of the
stream.

The reader has four ways to go on.  It stops if it was told to; it takes a frame if its
buffer opens with one; it sees the end if nothing more can come (`Cause`); and else it takes
up what has arrived.  What it took or saw it hands over or tells afterwards.

Main facts:
* `happens_step`: every move falls under one of the cases;
* `Cause.drain_eq`: the end is seen when no frame is left.
-/

namespace SmppReplay
namespace Transport

namespace Framing

variable {f : Framing} {buf : List UInt8}

theorem cut_eq_none_of_awaits
    (h : f.Awaits buf) :
    f.cut buf = .ok none := by
  rcases cut_cases f buf with
    ⟨hcut, -⟩ | ⟨e, -, hrefuses⟩ | ⟨frame, rest, -, rfl, hlen, hmin, hmax⟩
  · exact hcut
  · exact absurd hrefuses h.not_refuses
  · unfold Pdu.headerSize at hmin
    have htake : (frame ++ rest).take 4 = frame.take 4 :=
      List.take_append_of_le_length (by omega)
    unfold Awaits at h
    rw [htake, hlen, List.length_append] at h
    omega

/-- What is refused stays refused, whatever follows. -/
theorem Refuses.append
    {e : Error}
    (h : f.Refuses buf e)
    (more : List UInt8) :
    f.Refuses (buf ++ more) e := by
  obtain ⟨hlong, hbad⟩ := h
  refine ⟨?_, ?_⟩
  · rw [List.length_append]
    omega
  · rwa [List.take_append_of_le_length hlong]

theorem drain_of_awaits
    (h : f.Awaits buf) :
    f.drain buf = ⟨[], buf, none⟩ :=
  drain_of_none (cut_eq_none_of_awaits h)

theorem drain_of_refuses
    {e : Error}
    (h : f.Refuses buf e) :
    f.drain buf = ⟨[], buf, some e⟩ := by
  have hcuts := cuts_drain f buf
  generalize f.drain buf = d at hcuts ⊢
  cases hcuts with
  | awaiting hwait =>
      exact absurd h hwait.not_refuses
  | refused h' =>
      rw [h.unique h']
  | @frame frame rest d hframe =>
      exact absurd h (hframe.not_refuses rest)

end Framing

/-- Why the reader sees the end, and the reason that it gives.  `rest` are the octets that
were not taken, and `ending` is the end behind them. -/
inductive Cause (f : Framing) (rest : List UInt8) (ending : Option StreamEnd) :
    Option String → Prop
  /-- The peer closed its side behind a frame. -/
  | closed (hrest : rest = []) (hending : ending = some .closed) :
      Cause f rest ending none
  /-- The peer closed its side inside a frame. -/
  | inside (hrest : rest ≠ []) (hwait : f.Awaits rest) (hending : ending = some .closed) :
      Cause f rest ending (some (Error.io "bytes remaining on stream").message)
  /-- Reading failed. -/
  | failed {e : Error} (hwait : f.Awaits rest) (hending : ending = some (.failed e)) :
      Cause f rest ending (some e.message)
  /-- The octets are no frame. -/
  | refused {e : Error} (h : f.Refuses rest e) :
      Cause f rest ending (some e.message)

namespace Cause

variable {f : Framing} {rest : List UInt8} {reason : Option String}

/-- Before the end of the octets only octets that are no frame are a cause, and they stay
one. -/
theorem of_none
    (h : Cause f rest none reason)
    (more : List UInt8) (ending : Option StreamEnd) :
    Cause f (rest ++ more) ending reason := by
  cases h with
  | closed _ hending | inside _ _ hending | failed _ hending =>
      cases hending
  | refused hrefuses =>
      exact .refused (hrefuses.append more)

/-- No frame is left when the end is seen. -/
theorem drain_eq
    {ending : Option StreamEnd}
    (h : Cause f rest ending reason) :
    (f.drain rest).frames = [] ∧ (f.drain rest).rest = rest := by
  cases h with
  | closed hrest =>
      have hwait : f.Awaits rest := by
        rw [hrest]
        exact .inl (by decide)
      rw [Framing.drain_of_awaits hwait]
      exact ⟨rfl, rfl⟩
  | inside _ hwait | failed hwait =>
      rw [Framing.drain_of_awaits hwait]
      exact ⟨rfl, rfl⟩
  | refused hrefuses =>
      rw [Framing.drain_of_refuses hrefuses]
      exact ⟨rfl, rfl⟩

end Cause

namespace Connection

/-- A move of the peer. -/
def ofPeer : ConnectionMove → Bool
  | .arrive _ | .finish _ => true
  | _ => false

/-- What a move can do at a moment. -/
inductive Happens (c : Connection) : ConnectionMove → Connection → Prop
  | nothing {move : ConnectionMove} (h : ofPeer move → c.streamEnd.isSome) :
      Happens c move c
  | arrived (bs : List UInt8) (h : c.streamEnd = none) :
      Happens c (.arrive bs) { c with arrived := c.arrived ++ bs }
  | finished (e : StreamEnd) (h : c.streamEnd = none) :
      Happens c (.finish e) { c with streamEnd := some e }
  | stopped (hreader : c.reader = .waiting) (hstop : c.stop = true) :
      Happens c .read { c with reader := .stopped }
  | took {frame rest : List UInt8} (hreader : c.reader = .waiting) (hstop : c.stop = false)
      (hbuffer : c.buffer = frame ++ rest) (hframe : c.framing.Admits frame) :
      Happens c .read ({ c with buffer := rest, reader := .holding frame }.mark (.took frame))
  | saw {reason : Option String} (hreader : c.reader = .waiting) (hstop : c.stop = false)
      (hcause : Cause c.framing (c.buffer ++ c.arrived) c.streamEnd reason) :
      Happens c .read (c.see reason)
  | buffered (hreader : c.reader = .waiting) (hstop : c.stop = false) :
      Happens c .read { c with buffer := c.buffer ++ c.arrived, arrived := [] }
  | handed {frame : List UInt8} (hreader : c.reader = .holding frame) :
      Happens c .call ({ c with reader := .handling }.mark (.frame frame))
  | told {reason : Option String} (hreader : c.reader = .seeing reason) :
      Happens c .call
        ({ c with reader := .ending, state := stateBehind reason }.mark (.ended reason))
  | handled (hreader : c.reader = .handling) :
      Happens c .handled ({ c with reader := .waiting }.mark .frameHandled)
  | toldReturned (hreader : c.reader = .ending) :
      Happens c .told ({ c with reader := .stopped }.mark .endHandled)
  | sent (bs : List UInt8) (written : Result) :
      Happens c (.send bs written) (c.mark (.sent bs (c.sendResult bs written)))
  | closeCalled (hclosing : c.closing = .no) :
      Happens c .close ({ c with stop := true, closing := .started }.mark .closeCalled)
  | shut (result : Result) (hclosing : c.closing = .started) :
      Happens c (.shut result) { c with writable := false, closing := .shut result }
  | closeReturned {result : Result} (hclosing : c.closing = .shut result)
      (hreader : c.reader = .stopped) :
      Happens c .join
        ({ c with state := .disconnected, closing := .done result }.mark
          (.closeReturned result))

section Reading

variable {c : Connection}

theorem reader_readEnd
    {e : StreamEnd}
    (hcut : c.framing.cut c.buffer = .ok none) :
    ∃ reason, (c.readEnd e).reader = .seeing reason := by
  cases e with
  | failed e =>
      exact ⟨_, rfl⟩
  | closed =>
      rw [readEnd, Framing.cutLast, hcut]
      cases c.buffer <;> exact ⟨_, rfl⟩

/-- At the end of the octets the reader sees why they are over. -/
theorem happens_readEnd
    {e : StreamEnd}
    (hreader : c.reader = .waiting)
    (hstop : c.stop = false)
    (hcut : c.framing.cut c.buffer = .ok none)
    (hwait : c.framing.Awaits c.buffer)
    (harrived : c.arrived = [])
    (hend : c.streamEnd = some e) :
    Happens c .read (c.readEnd e) := by
  have hrest : c.buffer = c.buffer ++ c.arrived := by
    rw [harrived, List.append_nil]
  cases e with
  | failed e =>
      exact Happens.saw hreader hstop (.failed (hrest ▸ hwait) hend)
  | closed =>
      rw [readEnd, Framing.cutLast, hcut]
      by_cases hempty : c.buffer = []
      · simp only [List.isEmpty_iff, if_pos hempty]
        exact Happens.saw hreader hstop (.closed (hrest.symm.trans hempty) hend)
      · simp only [List.isEmpty_iff, if_neg hempty]
        exact Happens.saw hreader hstop (.inside (hrest ▸ hempty) (hrest ▸ hwait) hend)

/-- The reader goes on in one of its ways. -/
theorem happens_read
    (hreader : c.reader = .waiting) :
    Happens c .read c.read := by
  unfold read
  by_cases hstop : c.stop
  · rw [if_pos hstop]
    exact Happens.stopped hreader hstop
  rw [if_neg hstop]
  have hstop : c.stop = false := Bool.eq_false_iff.2 hstop
  rcases Framing.cut_cases c.framing c.buffer with
    ⟨hcut, hwait⟩ | ⟨e, hcut, hrefuses⟩ | ⟨frame, rest, hcut, hbuffer, hframe⟩
  · simp only [hcut, takeFrame?]
    by_cases harrived : c.arrived = []
    · rw [if_pos (List.isEmpty_iff.2 harrived)]
      cases hend : c.streamEnd with
      | none =>
          exact Happens.nothing (fun h => nomatch h)
      | some e =>
          exact happens_readEnd hreader hstop hcut hwait harrived hend
    · rw [if_neg (mt List.isEmpty_iff.1 harrived)]
      exact Happens.buffered hreader hstop
  · simp only [hcut, takeFrame?]
    exact Happens.saw hreader hstop (.refused (hrefuses.append _))
  · simp only [hcut, takeFrame?]
    exact Happens.took hreader hstop hbuffer hframe

/-- A reader that was not told to stop and has nothing to do waits for octets of a stream
that goes on. -/
theorem awaits_of_read_eq_self
    (hreader : c.reader = .waiting)
    (hstop : c.stop = false)
    (h : c.read = c) :
    c.framing.Awaits c.buffer ∧ c.arrived = [] ∧ c.streamEnd = none := by
  -- Whatever else the reader does ends its waiting or takes up octets.
  have hbusy : ∀ c' : Connection, c' = c → c'.reader ≠ .waiting → False :=
    fun c' hc' hne => hne (hc' ▸ hreader)
  rw [read, if_neg (by rw [hstop]; decide)] at h
  rcases Framing.cut_cases c.framing c.buffer with
    ⟨hcut, hwait⟩ | ⟨e, hcut, -⟩ | ⟨frame, rest, hcut, -, -⟩
  · simp only [hcut, takeFrame?] at h
    by_cases harrived : c.arrived = []
    · refine ⟨hwait, harrived, ?_⟩
      rw [if_pos (List.isEmpty_iff.2 harrived)] at h
      cases hend : c.streamEnd with
      | none =>
          rfl
      | some e =>
          rw [hend] at h
          refine (hbusy _ h ?_).elim
          obtain ⟨reason, hseeing⟩ := reader_readEnd (e := e) hcut
          rw [Option.elim_some, hseeing]
          exact Reader.noConfusion
    · rw [if_neg (mt List.isEmpty_iff.1 harrived)] at h
      exact absurd (congrArg arrived h).symm harrived
  · simp only [hcut, takeFrame?] at h
    exact (hbusy _ h Reader.noConfusion).elim
  · simp only [hcut, takeFrame?] at h
    exact (hbusy _ h Reader.noConfusion).elim

end Reading

theorem happens_step (c : Connection) (move : ConnectionMove) :
    Happens c move (c.step move) := by
  cases move with
  | arrive bs =>
      rw [step]
      split
      · exact Happens.nothing fun _ => ‹_›
      · exact Happens.arrived bs (Option.not_isSome_iff_eq_none.1 ‹_›)
  | finish e =>
      rw [step]
      split
      · exact Happens.nothing fun _ => ‹_›
      · exact Happens.finished e (Option.not_isSome_iff_eq_none.1 ‹_›)
  | read =>
      rw [step]
      split
      · exact happens_read ‹_›
      · exact Happens.nothing fun h => nomatch h
  | call =>
      rw [step, call]
      split
      · exact Happens.handed ‹_›
      · exact Happens.told ‹_›
      · exact Happens.nothing fun h => nomatch h
  | handled =>
      rw [step]
      split
      · exact Happens.handled ‹_›
      · exact Happens.nothing fun h => nomatch h
  | told =>
      rw [step]
      split
      · exact Happens.toldReturned ‹_›
      · exact Happens.nothing fun h => nomatch h
  | send bs written =>
      exact Happens.sent bs written
  | close =>
      rw [step]
      split
      · exact Happens.closeCalled ‹_›
      · exact Happens.nothing fun h => nomatch h
  | shut result =>
      rw [step]
      split
      · exact Happens.shut result ‹_›
      · exact Happens.nothing fun h => nomatch h
  | join =>
      rw [step]
      split
      · split
        · exact Happens.closeReturned ‹_› ‹_›
        · exact Happens.nothing fun h => nomatch h
      · exact Happens.nothing fun h => nomatch h

theorem steps_snoc (c : Connection) (moves : List ConnectionMove) (move : ConnectionMove) :
    c.steps (moves ++ [move]) = (c.steps moves).step move :=
  List.foldl_append ..

end Connection
end Transport
end SmppReplay
