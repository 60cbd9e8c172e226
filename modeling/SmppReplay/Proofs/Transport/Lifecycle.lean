import SmppReplay.Proofs.Transport.Moves

/-!
# The life of a connection

**Question.** The peer, the reader, senders and the owner act on a connection in any order.
What can whoever takes the frames rely on, and what the owner?

**Whoever takes the frames** gets the first frames of the stream, one call after the other
(`Turn`).  The end is told at most once and behind all frames, with a reason exactly if
something went wrong (`Cause`).  Once the owner has called for closing the reader takes
nothing any more; the one call that can still begin is about what it took before.

**The owner** finds, once the closing has returned, that nothing is called any more, that
nothing can be sent, and that the connection says that it is disconnected.  It never says
that it is connected after it has said otherwise.

**Method.** One invariant for each side: `Reading` ties what was taken to the octets that
came, and `Closes` ties the marks of the closing to the flags that it has set.  Each move
preserves both (`Reading.after`, `Closes.after`).

Main fact:
* `lifecycle_steps`: what holds after any moves.
-/

namespace SmppReplay
namespace Transport

/-! ### What comes from the peer -/

/-- What the peer has sent: octets, and the end behind them. -/
structure Incoming where
  octets : List UInt8 := []
  ending : Option StreamEnd := none

namespace Incoming

/-- One more move; behind the end nothing comes. -/
def after (i : Incoming) : ConnectionMove → Incoming
  | .arrive bs => if i.ending.isSome then i else { i with octets := i.octets ++ bs }
  | .finish e => if i.ending.isSome then i else { i with ending := some e }
  | _ => i

/-- What some moves bring. -/
def ofMoves (moves : List ConnectionMove) : Incoming :=
  moves.foldl after {}

theorem ofMoves_snoc (moves : List ConnectionMove) (move : ConnectionMove) :
    ofMoves (moves ++ [move]) = (ofMoves moves).after move :=
  List.foldl_append ..

theorem after_eq_self
    {i : Incoming} {move : ConnectionMove}
    (h : Connection.ofPeer move → i.ending.isSome) :
    i.after move = i := by
  cases move with
  | arrive bs =>
      exact if_pos (h rfl)
  | finish e =>
      exact if_pos (h rfl)
  | _ =>
      rfl

end Incoming

/-! ### What a trace shows -/

namespace ConnectionMark

/-- The frame that is taken. -/
def took? : ConnectionMark → Option (List UInt8)
  | .took bs => some bs
  | _ => none

/-- The frame that is handed over. -/
def frame? : ConnectionMark → Option (List UInt8)
  | .frame bs => some bs
  | _ => none

/-- The reader takes a frame or sees the end. -/
def observes : ConnectionMark → Bool
  | .took _ | .saw _ => true
  | _ => false

/-- What the reader took or saw, for a call about it. -/
def observed? : ConnectionMark → Option ConnectionMark
  | .frame bs => some (.took bs)
  | .ended reason => some (.saw reason)
  | _ => none

/-- The reader does something that shows. -/
def isReading : ConnectionMark → Bool
  | .took _ | .frame _ | .frameHandled | .saw _ | .ended _ | .endHandled => true
  | _ => false

end ConnectionMark

/-- The frames that were taken, in order. -/
def taken (trace : List ConnectionMark) : List (List UInt8) :=
  trace.filterMap ConnectionMark.took?

/-- The frames that were handed over, in order. -/
def handed (trace : List ConnectionMark) : List (List UInt8) :=
  trace.filterMap ConnectionMark.frame?

/-- What the reader did: taking and calling, each call with its return. -/
def readings (trace : List ConnectionMark) : List ConnectionMark :=
  trace.filter ConnectionMark.isReading

theorem taken_append (l l' : List ConnectionMark) :
    taken (l ++ l') = taken l ++ taken l' :=
  List.filterMap_append

theorem handed_append (l l' : List ConnectionMark) :
    handed (l ++ l') = handed l ++ handed l' :=
  List.filterMap_append

theorem readings_snoc (trace : List ConnectionMark) (k : ConnectionMark) :
    readings (trace ++ [k]) = readings trace ++ if k.isReading then [k] else [] := by
  rw [readings, List.filter_append]
  cases k <;> rfl

theorem taken_readings (trace : List ConnectionMark) :
    taken (readings trace) = taken trace := by
  rw [taken, readings, List.filterMap_filter]
  congr 1
  funext k
  cases k <;> rfl

theorem handed_readings (trace : List ConnectionMark) :
    handed (readings trace) = handed trace := by
  rw [handed, readings, List.filterMap_filter]
  congr 1
  funext k
  cases k <;> rfl

/-- Frames that were taken and handed over one after the other, each after the handling of
the one before. -/
def served (frames : List (List UInt8)) : List ConnectionMark :=
  frames.flatMap fun bs => [.took bs, .frame bs, .frameHandled]

theorem served_snoc (frames : List (List UInt8)) (bs : List UInt8) :
    served (frames ++ [bs]) = served frames ++ [.took bs, .frame bs, .frameHandled] := by
  rw [served, List.flatMap_append]
  rfl

theorem taken_served (frames : List (List UInt8)) :
    taken (served frames) = frames := by
  induction frames with
  | nil =>
      rfl
  | cons bs frames ih =>
      exact congrArg (bs :: ·) ih

theorem handed_served (frames : List (List UInt8)) :
    handed (served frames) = frames := by
  induction frames with
  | nil =>
      rfl
  | cons bs frames ih =>
      exact congrArg (bs :: ·) ih

/-- What the reader did so far, by what it is doing.  Each call is about what was taken
last, at most the last one has not returned, and the telling of the end is the last one. -/
inductive Turn : Reader → List ConnectionMark → Prop
  | waiting (frames : List (List UInt8)) :
      Turn .waiting (served frames)
  | holding (frames : List (List UInt8)) (bs : List UInt8) :
      Turn (.holding bs) (served frames ++ [.took bs])
  | handling (frames : List (List UInt8)) (bs : List UInt8) :
      Turn .handling (served frames ++ [.took bs, .frame bs])
  | seeing (frames : List (List UInt8)) (reason : Option String) :
      Turn (.seeing reason) (served frames ++ [.saw reason])
  | ending (frames : List (List UInt8)) (reason : Option String) :
      Turn .ending (served frames ++ [.saw reason, .ended reason])
  | told (frames : List (List UInt8)) (reason : Option String) :
      Turn .stopped (served frames ++ [.saw reason, .ended reason, .endHandled])
  | stopped (frames : List (List UInt8)) :
      Turn .stopped (served frames)

namespace Turn

variable {l : List ConnectionMark} {reader : Reader}

theorem stop
    (h : Turn .waiting l) :
    Turn .stopped l := by
  cases h with
  | waiting frames =>
      exact Turn.stopped frames

theorem took
    (h : Turn .waiting l)
    (bs : List UInt8) :
    Turn (.holding bs) (l ++ [.took bs]) := by
  cases h with
  | waiting frames =>
      exact Turn.holding frames bs

theorem frame
    {bs : List UInt8}
    (h : Turn (.holding bs) l) :
    Turn .handling (l ++ [.frame bs]) := by
  cases h with
  | holding frames =>
      rw [List.append_assoc, List.singleton_append]
      exact Turn.handling frames bs

theorem handled
    (h : Turn .handling l) :
    Turn .waiting (l ++ [.frameHandled]) := by
  cases h with
  | handling frames bs =>
      rw [List.append_assoc, List.cons_append, List.singleton_append, ← served_snoc]
      exact Turn.waiting (frames ++ [bs])

theorem saw
    (h : Turn .waiting l)
    (reason : Option String) :
    Turn (.seeing reason) (l ++ [.saw reason]) := by
  cases h with
  | waiting frames =>
      exact Turn.seeing frames reason

theorem ended
    {reason : Option String}
    (h : Turn (.seeing reason) l) :
    Turn .ending (l ++ [.ended reason]) := by
  cases h with
  | seeing frames =>
      rw [List.append_assoc, List.singleton_append]
      exact Turn.ending frames reason

theorem toldReturned
    (h : Turn .ending l) :
    Turn .stopped (l ++ [.endHandled]) := by
  cases h with
  | ending frames reason =>
      rw [List.append_assoc, List.cons_append, List.singleton_append]
      exact Turn.told frames reason

theorem took_mem
    {bs : List UInt8}
    (h : Turn (.holding bs) l) :
    .took bs ∈ l := by
  cases h with
  | holding frames =>
      exact List.mem_append_right _ List.mem_cons_self

theorem saw_mem
    {reason : Option String}
    (h : Turn (.seeing reason) l) :
    .saw reason ∈ l := by
  cases h with
  | seeing frames =>
      exact List.mem_append_right _ List.mem_cons_self

/-- While the reader waits, the end was not seen. -/
theorem saw_notMem
    {reason : Option String}
    (h : Turn .waiting l) :
    ConnectionMark.saw reason ∉ l := by
  cases h with
  | waiting frames =>
      simp [served]

/-- What was handed over was taken, and in the same order. -/
theorem handed_prefix
    (h : Turn reader l) :
    handed l <+: taken l := by
  cases h with
  | waiting frames | stopped frames =>
      rw [handed_served, taken_served]
  | holding frames bs =>
      rw [handed_append, taken_append, handed_served, taken_served]
      exact (List.prefix_append_right_inj frames).2 (List.nil_prefix (l := [bs]))
  | handling frames bs =>
      rw [handed_append, taken_append, handed_served, taken_served]
      exact List.prefix_rfl
  | seeing frames reason | ending frames reason | told frames reason =>
      rw [handed_append, taken_append, handed_served, taken_served]
      rfl

/-- While the reader waits, all that it took was handed over. -/
theorem handed_eq
    (h : Turn .waiting l) :
    handed l = taken l := by
  cases h with
  | waiting frames =>
      rw [handed_served, taken_served]

/-- The end is told once it was seen, behind all frames that were taken. -/
theorem of_ended
    {reason : Option String}
    (h : Turn reader l)
    (hended : .ended reason ∈ l) :
    handed l = taken l ∧ ConnectionMark.saw reason ∈ l := by
  cases h with
  | waiting | stopped | holding | handling | seeing =>
      simp [served] at hended
  | ending frames reason' | told frames reason' =>
      have hreason : reason = reason' := by simpa [served] using hended
      rw [hreason, handed_append, taken_append, handed_served, taken_served]
      exact ⟨rfl, by simp⟩

end Turn

namespace Connection

variable {f : Framing} {i : Incoming} {c c' : Connection} {move : ConnectionMove}

/-! ### The reader -/

/-- A call is about something that the reader took or saw before. -/
def Founded (trace : List ConnectionMark) : Prop :=
  ∀ front k back o, trace = front ++ k :: back → k.observed? = some o → o ∈ front

theorem Founded.snoc
    {trace : List ConnectionMark} {k : ConnectionMark}
    (h : Founded trace)
    (hk : ∀ o, k.observed? = some o → o ∈ trace) :
    Founded (trace ++ [k]) := by
  intro front k' back o hsplit ho
  rcases List.eq_nil_or_concat back with rfl | ⟨back, last, rfl⟩
  · obtain ⟨rfl, hlast⟩ := List.append_inj' hsplit rfl
    obtain rfl := List.singleton_inj.1 hlast
    exact hk o ho
  · rw [List.concat_eq_append, ← List.cons_append, ← List.append_assoc] at hsplit
    exact h front k' back o (List.append_inj' hsplit rfl).1 ho

/-- What was taken, and what is left of the octets that came, make these octets; the
reader's doings are in turn; and the end was seen for a cause. -/
structure Reading (f : Framing) (i : Incoming) (c : Connection) : Prop where
  framing : c.framing = f
  ending : c.streamEnd = i.ending
  octets : i.octets = (taken c.trace).flatten ++ (c.buffer ++ c.arrived)
  admits : ∀ frame ∈ taken c.trace, f.Admits frame
  turn : Turn c.reader (readings c.trace)
  cause : ∀ reason, .saw reason ∈ c.trace → Cause f (c.buffer ++ c.arrived) c.streamEnd reason
  founded : Founded c.trace

namespace Reading

theorem opened (f : Framing) :
    Reading f {} (opened f) where
  framing := rfl
  ending := rfl
  octets := rfl
  admits := List.forall_mem_nil _
  turn := Turn.waiting []
  cause := fun _ h => nomatch h
  founded := by
    intro front k back o hsplit
    have hnil : [] = front ++ k :: back := hsplit
    simp at hnil

/-- One more mark, other than a frame that is taken. -/
theorem add
    {k : ConnectionMark}
    (h : Reading f i c)
    (hsame : c'.framing = c.framing ∧ c'.streamEnd = c.streamEnd ∧ c'.buffer = c.buffer ∧
      c'.arrived = c.arrived)
    (htrace : c'.trace = c.trace ++ [k])
    (hframe : k.took? = none)
    (hturn : Turn c'.reader (readings c.trace ++ if k.isReading then [k] else []))
    (hcause : ∀ reason, k = .saw reason → Cause f (c.buffer ++ c.arrived) c.streamEnd reason)
    (hfounded : ∀ o, k.observed? = some o → o ∈ readings c.trace) :
    Reading f i c' := by
  obtain ⟨hframing, hend, hbuffer, harrived⟩ := hsame
  have htaken : taken c'.trace = taken c.trace := by
    rw [htrace, taken_append]
    simp [taken, hframe]
  refine ⟨hframing.trans h.framing, hend.trans h.ending, ?_, ?_, ?_, ?_, ?_⟩
  · rw [htaken, hbuffer, harrived]
    exact h.octets
  · rw [htaken]
    exact h.admits
  · rw [htrace, readings_snoc]
    exact hturn
  · intro reason hmem
    rw [hbuffer, harrived, hend]
    rw [htrace] at hmem
    rcases List.mem_append.1 hmem with hmem | hmem
    · exact h.cause reason hmem
    · exact hcause reason (List.mem_singleton.1 hmem).symm
  · rw [htrace]
    exact h.founded.snoc fun o ho => List.mem_of_mem_filter (hfounded o ho)

/-- One more frame is taken. -/
theorem took
    {frame rest : List UInt8}
    (h : Reading f i c)
    (hreader : c.reader = .waiting)
    (hbuffer : c.buffer = frame ++ rest)
    (hframe : c.framing.Admits frame) :
    Reading f i ({ c with buffer := rest, reader := .holding frame }.mark (.took frame)) := by
  have hturn : Turn .waiting (readings c.trace) := hreader ▸ h.turn
  have htaken : taken (c.trace ++ [.took frame]) = taken c.trace ++ [frame] :=
    taken_append _ _
  refine ⟨h.framing, h.ending, ?_, ?_, ?_, ?_, h.founded.snoc nofun⟩
  · change i.octets = (taken (c.trace ++ [.took frame])).flatten ++ (rest ++ c.arrived)
    rw [h.octets, htaken, hbuffer, List.flatten_append]
    simp only [List.flatten_cons, List.flatten_nil, List.append_assoc, List.nil_append]
  · change ∀ frame' ∈ taken (c.trace ++ [.took frame]), f.Admits frame'
    rw [htaken]
    exact List.forall_mem_append.2
      ⟨h.admits, List.forall_mem_singleton.2 (h.framing ▸ hframe)⟩
  · exact (readings_snoc _ _).symm ▸ hturn.took frame
  · intro reason hmem
    rcases List.mem_append.1 hmem with hmem | hmem
    · exact absurd (List.mem_filter.2 ⟨hmem, rfl⟩) hturn.saw_notMem
    · cases List.mem_singleton.1 hmem

/-- Every move keeps what the reader relies on. -/
theorem after
    (h : Reading f i c)
    (hmove : Happens c move c') :
    Reading f (i.after move) c' := by
  cases hmove with
  | nothing hlate =>
      rw [Incoming.after_eq_self (h.ending ▸ hlate)]
      exact h
  | arrived bs hopen =>
      have hafter : i.after (.arrive bs) = { i with octets := i.octets ++ bs } :=
        if_neg (by rw [← h.ending, hopen]; decide)
      rw [hafter]
      refine ⟨h.framing, h.ending, ?_, h.admits, h.turn, fun reason hmem => ?_, h.founded⟩
      · rw [h.octets]
        simp only [List.append_assoc]
      · -- The end was seen before the stream was over, so its octets are refused, and more do
        -- not matter.
        have hcause := h.cause reason hmem
        rw [hopen] at hcause
        rw [← List.append_assoc]
        exact hcause.of_none bs _
  | finished e hopen =>
      have hafter : i.after (.finish e) = { i with ending := some e } :=
        if_neg (by rw [← h.ending, hopen]; decide)
      rw [hafter]
      refine ⟨h.framing, rfl, h.octets, h.admits, h.turn, fun reason hmem => ?_, h.founded⟩
      have hcause := h.cause reason hmem
      rw [hopen] at hcause
      exact List.append_nil (c.buffer ++ c.arrived) ▸ hcause.of_none [] _
  | stopped hreader hstop =>
      exact ⟨h.framing, h.ending, h.octets, h.admits, (hreader ▸ h.turn).stop, h.cause,
        h.founded⟩
  | @took frame rest hreader hstop hbuffer hframe =>
      exact h.took hreader hbuffer hframe
  | @saw reason hreader hstop hcause =>
      refine h.add ⟨rfl, rfl, rfl, rfl⟩ rfl rfl ((hreader ▸ h.turn).saw reason) ?_ nofun
      rintro _ ⟨⟩
      exact h.framing ▸ hcause
  | buffered hreader hstop =>
      refine ⟨h.framing, h.ending, ?_, h.admits, h.turn, ?_, h.founded⟩
      · exact (List.append_nil (c.buffer ++ c.arrived)).symm ▸ h.octets
      · exact (List.append_nil (c.buffer ++ c.arrived)).symm ▸ h.cause
  | handed hreader =>
      refine h.add ⟨rfl, rfl, rfl, rfl⟩ rfl rfl (hreader ▸ h.turn).frame nofun ?_
      rintro _ ⟨⟩
      exact (hreader ▸ h.turn).took_mem
  | told hreader =>
      refine h.add ⟨rfl, rfl, rfl, rfl⟩ rfl rfl (hreader ▸ h.turn).ended nofun ?_
      rintro _ ⟨⟩
      exact (hreader ▸ h.turn).saw_mem
  | handled hreader =>
      exact h.add ⟨rfl, rfl, rfl, rfl⟩ rfl rfl (hreader ▸ h.turn).handled nofun nofun
  | toldReturned hreader =>
      exact h.add ⟨rfl, rfl, rfl, rfl⟩ rfl rfl (hreader ▸ h.turn).toldReturned nofun nofun
  | sent | closeCalled | closeReturned =>
      exact h.add ⟨rfl, rfl, rfl, rfl⟩ rfl rfl ((List.append_nil _).symm ▸ h.turn) nofun nofun
  | shut result hclosing =>
      exact ⟨h.framing, h.ending, h.octets, h.admits, h.turn, h.cause, h.founded⟩

end Reading

/-! ### The owner -/

/-- A mark of a sending that was refused because the connection is closed. -/
def IsRefused (k : ConnectionMark) : Prop :=
  ∃ bs, k = .sent bs (.failed .disconnected)

/-- The marks of the closing stand for what it has done: the reader is told to stop, nothing
can be sent, and the reader has stopped.  The reader takes nothing behind the first mark,
and nothing at all happens behind the last one.  A call is about what the reader took in
front of the first one. -/
structure Closes (c : Connection) : Prop where
  called : .closeCalled ∈ c.trace → c.stop = true
  unwritable : ∀ r, c.closing = .shut r ∨ c.closing = .done r → c.writable = false
  returned : ∀ r, .closeReturned r ∈ c.trace →
    c.closing = .done r ∧ c.reader = .stopped ∧ c.state = .disconnected
  silent : c.trace.Pairwise fun a b => a = .closeCalled → b.observes = false
  final : c.trace.Pairwise fun a b => (∃ r, a = .closeReturned r) → IsRefused b

namespace Closes

theorem opened (f : Framing) :
    Closes (opened f) where
  called := nofun
  unwritable := nofun
  returned := nofun
  silent := .nil
  final := .nil

/-- One more mark, if it may stand behind the marks of the closing. -/
theorem add
    {k : ConnectionMark}
    (h : Closes c)
    (htrace : c'.trace = c.trace ++ [k])
    (hcalled : c.stop = true ∨ k = .closeCalled → c'.stop = true)
    (hunwritable : ∀ r, c'.closing = .shut r ∨ c'.closing = .done r → c'.writable = false)
    (hreturned : ∀ r, .closeReturned r ∈ c.trace ∨ k = .closeReturned r →
      c'.closing = .done r ∧ c'.reader = .stopped ∧ c'.state = .disconnected)
    (hsilent : c.stop = true → k.observes = false)
    (hfinal : ∀ r, .closeReturned r ∈ c.trace → IsRefused k) :
    Closes c' := by
  have hmem : ∀ a, a ∈ c'.trace → a ∈ c.trace ∨ k = a := by
    intro a ha
    rw [htrace] at ha
    exact (List.mem_append.1 ha).imp_right fun ha => (List.mem_singleton.1 ha).symm
  refine ⟨fun hc => hcalled ((hmem _ hc).imp_left h.called), hunwritable,
    fun r hr => hreturned r (hmem _ hr), ?_, ?_⟩
  · rw [htrace]
    refine List.pairwise_append.2 ⟨h.silent, List.pairwise_singleton _ _, ?_⟩
    rintro a ha b hb rfl
    obtain rfl := List.mem_singleton.1 hb
    exact hsilent (h.called ha)
  · rw [htrace]
    refine List.pairwise_append.2 ⟨h.final, List.pairwise_singleton _ _, ?_⟩
    rintro a ha b hb ⟨r, rfl⟩
    obtain rfl := List.mem_singleton.1 hb
    exact hfinal r ha

/-- The reader does something while the closing has not returned. -/
theorem reading
    {k : ConnectionMark}
    (h : Closes c)
    (hreader : c.reader ≠ .stopped)
    (hsame : c'.stop = c.stop ∧ c'.closing = c.closing ∧ c'.writable = c.writable)
    (htrace : c'.trace = c.trace ++ [k])
    (hk : k.isReading = true)
    (hsilent : c.stop = true → k.observes = false) :
    Closes c' := by
  obtain ⟨hstop, hclosing, hwritable⟩ := hsame
  have hopen : ∀ r, .closeReturned r ∉ c.trace :=
    fun r hmem => hreader (h.returned r hmem).2.1
  refine h.add htrace ?_ ?_ ?_ hsilent fun r hmem => absurd hmem (hopen r)
  · rintro (hc | rfl)
    · exact hstop.trans hc
    · cases hk
  · rw [hclosing, hwritable]
    exact h.unwritable
  · rintro r (hmem | rfl)
    · exact absurd hmem (hopen r)
    · cases hk

/-- Every move keeps what the owner relies on. -/
theorem after
    (h : Closes c)
    (hmove : Happens c move c') :
    Closes c' := by
  cases hmove with
  | nothing | arrived | finished | buffered =>
      exact ⟨h.called, h.unwritable, h.returned, h.silent, h.final⟩
  | stopped hreader hstop =>
      refine ⟨h.called, h.unwritable, fun r hmem => ?_, h.silent, h.final⟩
      have hreturned := (h.returned r hmem).2.1
      rw [hreader] at hreturned
      cases hreturned
  | took hreader hstop | saw hreader hstop =>
      refine h.reading (by rw [hreader]; decide) ⟨rfl, rfl, rfl⟩ rfl rfl fun hs => ?_
      rw [hstop] at hs
      cases hs
  | handed hreader | told hreader | handled hreader | toldReturned hreader =>
      exact h.reading (by rw [hreader]; exact Reader.noConfusion) ⟨rfl, rfl, rfl⟩ rfl rfl
        fun _ => rfl
  | sent bs written =>
      refine h.add rfl ?_ h.unwritable ?_ (fun _ => rfl) fun r hmem => ⟨bs, ?_⟩
      · rintro (hs | hs)
        · exact hs
        · cases hs
      · rintro r (hmem | hr)
        · exact h.returned r hmem
        · cases hr
      · have hwritable := h.unwritable r (.inr (h.returned r hmem).1)
        rw [sendResult, hwritable]
        rfl
  | closeCalled hclosing =>
      have hopen : ∀ r, .closeReturned r ∉ c.trace := by
        intro r hmem
        cases hclosing.symm.trans (h.returned r hmem).1
      refine h.add rfl (fun _ => rfl) nofun ?_ (fun _ => rfl) fun r hmem =>
        absurd hmem (hopen r)
      rintro r (hmem | hr)
      · exact absurd hmem (hopen r)
      · cases hr
  | shut result hclosing =>
      refine ⟨h.called, fun _ _ => rfl, fun r hmem => ?_, h.silent, h.final⟩
      cases hclosing.symm.trans (h.returned r hmem).1
  | @closeReturned result hclosing hreader =>
      have hopen : ∀ r, .closeReturned r ∉ c.trace := by
        intro r hmem
        cases hclosing.symm.trans (h.returned r hmem).1
      refine h.add rfl ?_ (fun _ _ => h.unwritable result (.inl hclosing)) ?_ (fun _ => rfl)
        fun r hmem => absurd hmem (hopen r)
      · rintro (hs | hs)
        · exact hs
        · cases hs
      · rintro r (hmem | hr)
        · exact absurd hmem (hopen r)
        · obtain rfl := ConnectionMark.closeReturned.inj hr
          exact ⟨rfl, hreader, rfl⟩

end Closes

/-- What a connection reports once it is not connected is never that it is. -/
theorem state_ne_of_happens
    (h : c.state ≠ .connected)
    (hmove : Happens c move c') :
    c'.state ≠ .connected := by
  cases hmove with
  | @told reason =>
      cases reason <;> exact ConnectionState.noConfusion
  | closeReturned =>
      exact ConnectionState.noConfusion
  | _ =>
      exact h

theorem state_ne_of_steps
    (h : c.state ≠ .connected)
    (moves : List ConnectionMove) :
    (c.steps moves).state ≠ .connected := by
  induction moves using List.reverseRecOn with
  | nil =>
      exact h
  | append_singleton moves move ih =>
      rw [steps_snoc]
      exact state_ne_of_happens ih (happens_step _ move)

/-! ### The life of a connection -/

/-- What holds of a connection at any time, if `i` has come from the peer. -/
structure Lifecycle (f : Framing) (i : Incoming) (c : Connection) : Prop where
  /-- The frames that were handed over are the first ones of the stream, whatever follows. -/
  frames : ∀ more, handed c.trace <+: (f.drain (i.octets ++ more)).frames
  /-- They are taken and handed over one at a time, and the end is told at most once and
  behind them. -/
  turn : Turn c.reader (readings c.trace)
  /-- The end is told behind all frames that came, with the reason of what went wrong. -/
  ended : ∀ reason, .ended reason ∈ c.trace →
    handed c.trace = (f.drain i.octets).frames ∧
      Cause f (f.drain i.octets).rest i.ending reason
  /-- A reader that has nothing to do has handed over all frames that came, and the stream
  goes on. -/
  idle : c.reader = .waiting → c.stop = false → c.step .read = c →
    handed c.trace = (f.drain i.octets).frames ∧ i.ending = none
  /-- A call is about what the reader took, or saw, before the owner called for closing. -/
  observed : ∀ front k back o, c.trace = front ++ k :: back → k.observed? = some o →
    ∃ before between, front = before ++ o :: between ∧ .closeCalled ∉ before
  /-- Once the closing has returned, sendings are refused, and nothing else happens. -/
  final : c.trace.Pairwise fun a b => (∃ r, a = .closeReturned r) → IsRefused b
  /-- Then the connection is disconnected. -/
  disconnected : ∀ r, .closeReturned r ∈ c.trace →
    c.state = .disconnected ∧ ∀ bs written, c.sendResult bs written = .failed .disconnected
  /-- A connection that is not connected is not connected again. -/
  left : c.state ≠ .connected → ∀ moves, (c.steps moves).state ≠ .connected

/-- What was handed over was taken. -/
theorem Reading.handed_prefix
    (h : Reading f i c) :
    handed c.trace <+: taken c.trace := by
  rw [← handed_readings, ← taken_readings]
  exact h.turn.handed_prefix

theorem lifecycle_of_invariants
    (hreading : Reading f i c)
    (hcloses : Closes c) :
    Lifecycle f i c where
  frames := by
    intro more
    rw [hreading.octets, List.append_assoc, Framing.drain_flatten_append hreading.admits]
    exact hreading.handed_prefix.trans (List.prefix_append _ _)
  turn := hreading.turn
  ended := by
    intro reason hmem
    obtain ⟨hhanded, hsaw⟩ := hreading.turn.of_ended (List.mem_filter.2 ⟨hmem, rfl⟩)
    rw [handed_readings, taken_readings] at hhanded
    have hcause := hreading.cause reason (List.mem_of_mem_filter hsaw)
    obtain ⟨hframes, hrest⟩ := hcause.drain_eq
    rw [hreading.octets, Framing.drain_flatten_append hreading.admits, hrest,
      hframes, hhanded]
    exact ⟨(List.append_nil _).symm, hreading.ending ▸ hcause⟩
  idle := by
    intro hreader hstop hstep
    rw [step, if_pos hreader] at hstep
    obtain ⟨hwait, harrived, hend⟩ := awaits_of_read_eq_self hreader hstop hstep
    have hhanded : handed c.trace = taken c.trace := by
      rw [← handed_readings, ← taken_readings]
      exact (hreader ▸ hreading.turn).handed_eq
    rw [hreading.framing] at hwait
    rw [hreading.octets, Framing.drain_flatten_append hreading.admits, harrived,
      List.append_nil, Framing.drain_of_awaits hwait, hhanded]
    exact ⟨(List.append_nil _).symm, hreading.ending.symm.trans hend⟩
  observed := by
    intro front k back o hsplit ho
    obtain ⟨before, between, rfl⟩ :=
      List.append_of_mem (hreading.founded front k back o hsplit ho)
    refine ⟨before, between, rfl, fun hcalled => ?_⟩
    have hsilent := hcloses.silent
    rw [hsplit, List.append_assoc, List.cons_append] at hsilent
    have hobserves : o.observes = false :=
      (List.pairwise_append.1 hsilent).2.2 _ hcalled o List.mem_cons_self rfl
    cases k with
    | frame | ended =>
        cases ho
        cases hobserves
    | _ =>
        cases ho
  final := hcloses.final
  disconnected := by
    intro r hmem
    obtain ⟨hclosing, -, hstate⟩ := hcloses.returned r hmem
    refine ⟨hstate, fun bs written => ?_⟩
    rw [sendResult, hcloses.unwritable r (.inr hclosing)]
    rfl
  left := state_ne_of_steps

/-- **The life of a connection**, whatever the peer, the reader, senders and the owner do,
and in which order. -/
theorem lifecycle_steps (f : Framing) (moves : List ConnectionMove) :
    Lifecycle f (Incoming.ofMoves moves) ((opened f).steps moves) := by
  have hinvariants : Reading f (Incoming.ofMoves moves) ((opened f).steps moves) ∧
      Closes ((opened f).steps moves) := by
    induction moves using List.reverseRecOn with
    | nil =>
        exact ⟨Reading.opened f, Closes.opened f⟩
    | append_singleton moves move ih =>
        rw [Incoming.ofMoves_snoc, steps_snoc]
        have hmove := happens_step ((opened f).steps moves) move
        exact ⟨ih.1.after hmove, ih.2.after hmove⟩
  exact lifecycle_of_invariants hinvariants.1 hinvariants.2

/-- An inquiry. -/
def inquiry : List UInt8 :=
  [0, 0, 0, 16, 0, 0, 0, 21, 0, 0, 0, 0, 0, 0, 0, 9]

/-- The owner calls for closing when the first of two inquiries is taken and not handed over
yet. -/
def closingMoves : List ConnectionMove :=
  [.arrive (inquiry ++ inquiry), .finish .closed, .read, .read, .close, .call,
    .handled, .read, .shut .ok, .join, .send inquiry .ok]

/-- That inquiry is still handed over.  The other one is not taken, and the end is not told. -/
theorem lifecycle_steps_closing :
    ((opened {}).steps closingMoves).trace =
        [.took inquiry, .closeCalled, .frame inquiry, .frameHandled, .closeReturned .ok,
          .sent inquiry (.failed .disconnected)] ∧
      (∀ more, [inquiry] <+: (Framing.drain {} (inquiry ++ inquiry ++ more)).frames) ∧
      (∃ before between, [.took inquiry, .closeCalled] = before ++ .took inquiry :: between ∧
        ConnectionMark.closeCalled ∉ before) ∧
      ∀ moves, (((opened {}).steps closingMoves).steps moves).state ≠ .connected := by
  have htrace : ((opened {}).steps closingMoves).trace =
      [.took inquiry, .closeCalled, .frame inquiry, .frameHandled, .closeReturned .ok,
        .sent inquiry (.failed .disconnected)] := by
    decide +kernel
  have hlife := lifecycle_steps {} closingMoves
  have hstate := (hlife.disconnected .ok (by rw [htrace]; simp)).1
  refine ⟨htrace, ?_, ?_, hlife.left (by rw [hstate]; decide)⟩
  · have hframes := hlife.frames
    rw [htrace] at hframes
    exact hframes
  · exact hlife.observed [.took inquiry, .closeCalled] (.frame inquiry) _ _ htrace rfl

end Connection
end Transport
end SmppReplay
