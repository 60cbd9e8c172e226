import SmppReplay.Proofs.Batch.Messages
import SmppReplay.Proofs.Pdu.Renumbering

/-!
# Scripts, element by element

**Question.**  Does what an element of a script compiles to depend on the other elements?

Only in one way: a message element that gives no number is numbered by its place among such
elements.  All else, and also whether an element compiles and with which fault it does not,
is its own.

**Method.** Each step of a message commutes with changing its header
(`applyChild_mapHeader`, `Pdu.encode_mapHeader`), so that a message with another number is
the message renumbered (`message_eq_map`).  An element is then what it is alone, renumbered
(`element_eq_map`), and the counter behind some elements has gone on by the number of
automatic ones among them (`elements_append`).

Main fact:
* `compositional_compile`: success, fault, events and composition of a script.
-/

namespace SmppReplay

namespace Batch

open Script (Element)

/-! ### Messages with another header -/

section Header

variable (sequence status : UInt32 → UInt32)

theorem setMandatory_mapHeader (m : Message) (id : FieldId) (v : FieldValue) :
    (m.mapHeader sequence status).setMandatory id v =
      (·.mapHeader sequence status) <$> m.setMandatory id v := by
  have hlayout : (m.mapHeader sequence status).layout = m.layout := rfl
  cases hfield : m.layout.mandatoryField? id with
  | none =>
      rw [(Message.setMandatory_of_none hfield v).1,
        (Message.setMandatory_of_none (hlayout ▸ hfield) v).1]
      rfl
  | some f =>
      rcases Message.setMandatory_of_some hfield v with
        ⟨hfits, hset, -⟩ | ⟨hfits, hset, -⟩ <;>
        rcases Message.setMandatory_of_some (m := m.mapHeader sequence status) hfield v with
          ⟨hfits', hset', -⟩ | ⟨hfits', hset', -⟩
      · rw [hset, hset']
        rfl
      · cases hfits.symm.trans hfits'
      · cases hfits.symm.trans hfits'
      · rw [hset, hset']
        rfl

theorem setOptional_mapHeader (m : Message) (id : FieldId) (v : FieldValue) :
    (m.mapHeader sequence status).setOptional id v =
      (·.mapHeader sequence status) <$> m.setOptional id v := by
  have hlayout : (m.mapHeader sequence status).layout = m.layout := rfl
  cases hfield : m.layout.optionalField? id with
  | none =>
      rw [(Message.setOptional_of_none hfield v).1,
        (Message.setOptional_of_none (hlayout ▸ hfield) v).1]
      rfl
  | some t =>
      rcases Message.setOptional_of_some hfield v with ⟨hfits, hset, -⟩ | ⟨hfits, hset, -⟩ <;>
        rcases Message.setOptional_of_some (m := m.mapHeader sequence status) hfield v with
          ⟨hfits', hset', -⟩ | ⟨hfits', hset', -⟩
      · rw [hset, hset']
        rfl
      · cases hfits.symm.trans hfits'
      · cases hfits.symm.trans hfits'
      · rw [hset, hset']
        rfl

theorem ofPdu_map
    {α β : Type} (r : Except Pdu.Error α) (g : α → β) :
    ofPdu (g <$> r) = g <$> ofPdu r := by
  cases r <;> rfl

theorem setIfPresent_mapHeader (m : Message) (id : FieldId) (s : String) :
    setIfPresent (m.mapHeader sequence status) id s =
      (·.mapHeader sequence status) <$> setIfPresent m id s := by
  have hlayout : (m.mapHeader sequence status).layout = m.layout := rfl
  unfold setIfPresent
  rw [hlayout, setMandatory_mapHeader, ofPdu_map]
  split <;> rfl

theorem withAccount_mapHeader (d : Defaults) (m : Message) :
    withAccount d (m.mapHeader sequence status) =
      (·.mapHeader sequence status) <$> withAccount d m := by
  unfold withAccount
  rw [setIfPresent_mapHeader, bind_map_left, map_bind]
  refine bind_congr fun m₁ => ?_
  rw [setIfPresent_mapHeader, bind_map_left, map_bind]
  exact bind_congr fun m₂ => setIfPresent_mapHeader sequence status m₂ _ _

/-- A child sets its field whatever the header of the message is. -/
theorem applyChild_mapHeader (pdu child : Element) (m : Message) :
    applyChild pdu (m.mapHeader sequence status) child =
      (·.mapHeader sequence status) <$> applyChild pdu m child := by
  have hlayout : (m.mapHeader sequence status).layout = m.layout := rfl
  have htype : (m.mapHeader sequence status).type = m.type := rfl
  unfold applyChild
  rw [hlayout, htype]
  split
  · rfl
  split
  · rename_i f _
    rw [map_bind]
    refine bind_congr fun v => ?_
    rw [setMandatory_mapHeader, ofPdu_map]
  split
  · rename_i t _
    split
    · rw [map_bind]
      refine bind_congr fun v? => ?_
      cases v? with
      | none =>
          rfl
      | some v =>
          exact (congrArg ofPdu (setOptional_mapHeader sequence status m t.id v)).trans
            (ofPdu_map _ _)
    · rfl
  · rfl

/-- The account of the defaults, where the type carries one. -/
def withAccountOf (d : Defaults) (type : MessageType)
    (m : Message) : Except CompileError Message :=
  if isLogin type then withAccount d m else .ok m

/-- The message of an element from its header on: the account, the children, and the checks. -/
def completed (d : Defaults) (pdu : Element) (type : MessageType) (m : Message) :
    Except CompileError Message := do
  let m ← withAccountOf d type m
  let m ← pdu.children.foldlM (applyChild pdu) m
  checkRequired type pdu
  (fun _ => m) <$> ofPdu (Pdu.encode m)

/-- What follows the header is the same for every header. -/
theorem completed_mapHeader (d : Defaults) (pdu : Element) (type : MessageType)
    (m : Message) :
    completed d pdu type (m.mapHeader sequence status) =
      (·.mapHeader sequence status) <$> completed d pdu type m := by
  have haccount : withAccountOf d type (m.mapHeader sequence status) =
      (·.mapHeader sequence status) <$> withAccountOf d type m := by
    unfold withAccountOf
    rw [withAccount_mapHeader]
    split <;> rfl
  unfold completed
  rw [haccount, bind_map_left, map_bind]
  refine bind_congr fun m₁ => ?_
  have hfold := foldlM_map_comm (g := (·.mapHeader sequence status))
    (fun m child => applyChild_mapHeader sequence status pdu child m) pdu.children m₁
  rw [hfold, bind_map_left, map_bind]
  refine bind_congr fun m₂ => ?_
  rw [map_bind]
  refine bind_congr fun _ => ?_
  have hencode := congrArg ofPdu (Pdu.encode_mapHeader m₂ sequence status)
  rw [ofPdu_map, ofPdu_map] at hencode
  have hwritten := congrArg ((fun _ => m₂.mapHeader sequence status) <$> ·) hencode
  simp only [Functor.map_map] at hwritten ⊢
  exact hwritten

end Header

/-- The header of a message element: its type, its number if it gives one, and its status. -/
def header (pdu : Element) : Except CompileError (MessageType × Option UInt32 × UInt32) := do
  let type ← messageType pdu
  let sequence ← explicitSequence pdu
  let status ← givenStatus pdu
  return (type, sequence, status)

/-- A message is its header completed. -/
theorem message_eq_completed (d : Defaults) (next : UInt32) (pdu : Element) :
    message d next pdu = header pdu >>= fun h =>
      completed d pdu h.1
        (((Message.new h.1).withStatus h.2.2).withSequence (h.2.1.getD next)) := by
  unfold message header completed withAccountOf
  simp only [bind_assoc, pure_bind]
  refine bind_congr fun type => bind_congr fun sequence => bind_congr fun status => ?_
  -- The two ways to the account lead on to the same steps.
  split <;> rfl

/-- The message elements of a script. -/
def messageElements (es : List Element) : List Element :=
  es.filter fun e => e.isNamed "PDU"

theorem messageElements_cons_of_isNamed
    {e : Element}
    (h : e.isNamed "PDU")
    (es : List Element) :
    messageElements (e :: es) = e :: messageElements es :=
  List.filter_cons_of_pos h

theorem messageElements_cons_of_not_isNamed
    {e : Element}
    (h : ¬ e.isNamed "PDU")
    (es : List Element) :
    messageElements (e :: es) = messageElements es :=
  List.filter_cons_of_neg h

/-- A message element that gives no number. -/
def isAutomatic (e : Element) : Bool :=
  e.isNamed "PDU" && (e.child? sequenceName).isNone

/-- The header has a number exactly if the element gives one. -/
theorem isNone_header
    {pdu : Element} {h : MessageType × Option UInt32 × UInt32}
    (hheader : header pdu = .ok h) :
    h.2.1.isNone = (pdu.child? sequenceName).isNone := by
  obtain ⟨type, -, hheader⟩ := bind_eq_ok hheader
  obtain ⟨sequence, hsequence, hheader⟩ := bind_eq_ok hheader
  obtain ⟨status, -, hheader⟩ := bind_eq_ok hheader
  obtain rfl := Except.ok.inj hheader
  unfold explicitSequence at hsequence
  split at hsequence
  · rename_i c hc
    obtain ⟨n, -, rfl⟩ := map_eq_ok hsequence
    rw [hc]
    rfl
  · rename_i hc
    obtain rfl := Except.ok.inj hsequence
    rw [hc]
    rfl

/-- **The number is the only thing that a message takes from its neighbours.** -/
theorem message_eq_map (d : Defaults) (n : UInt32) (pdu : Element) :
    message d n pdu =
      (fun m => if (pdu.child? sequenceName).isNone then m.withSequence n else m) <$>
        message d 1 pdu := by
  rw [message_eq_completed, message_eq_completed, map_bind]
  cases hheader : header pdu with
  | error fault =>
      rfl
  | ok h =>
      rw [← isNone_header hheader]
      obtain ⟨type, sequence, status⟩ := h
      change completed d pdu type
          (((Message.new type).withStatus status).withSequence (sequence.getD n)) = _ <$>
        completed d pdu type
          (((Message.new type).withStatus status).withSequence (sequence.getD 1))
      cases sequence with
      | some k =>
          exact (id_map _).symm
      | none =>
          exact completed_mapHeader (fun _ => n) id d pdu type
            (((Message.new type).withStatus status).withSequence 1)

/-- Another start of the counter moves the number of a message on if it is automatic. -/
theorem message_add (d : Defaults) (n k : UInt32) (pdu : Element) :
    message d (n + k) pdu =
      (fun m =>
        if (pdu.child? sequenceName).isNone then m.withSequence (m.sequence + k)
        else m) <$> message d n pdu := by
  rw [message_eq_map d (n + k), message_eq_map d n, Functor.map_map]
  congr 1
  funext m
  cases (pdu.child? sequenceName).isNone <;> rfl

/-! ### Elements -/

/-- The event with its message numbered, if it has one. -/
def withNumber (n : UInt32) : Event → Event
  | .send m => .send (m.withSequence n)
  | e => e

/-- The events of an element with its message numbered, if it gives no number. -/
def numbered (n : UInt32) (e : Element) (events : Batch) : Batch :=
  if isAutomatic e then events.map (withNumber n) else events

theorem element_of_isNamed
    {e : Element}
    (h : e.isNamed "PDU")
    (d : Defaults) (n : UInt32) :
    element d n e = (fun m => [.send m]) <$> message d n e := by
  rw [element, if_pos h]
  rfl

/-- What is no message does not ask for the counter. -/
theorem element_eq_of_not_isNamed
    {e : Element}
    (h : ¬ e.isNamed "PDU")
    (d : Defaults) (n k : UInt32) :
    element d n e = element d k e := by
  rw [element, element, if_neg h, if_neg h]

/-- **An element is what it is alone**, renumbered. -/
theorem element_eq_map (d : Defaults) (n : UInt32) (e : Element) :
    element d n e = numbered n e <$> element d 1 e := by
  by_cases h : e.isNamed "PDU"
  · rw [element_of_isNamed h, element_of_isNamed h, message_eq_map d n, Functor.map_map,
      Functor.map_map]
    congr 1
    funext m
    simp only [numbered, isAutomatic, h, Bool.true_and]
    split <;> rfl
  · have hnot : isAutomatic e = false := by
      simp [isAutomatic, h]
    have hid : numbered n e = id := by
      funext events
      simp [numbered, hnot]
    rw [hid, id_map]
    exact element_eq_of_not_isNamed h d n 1

theorem one_add_ofNat (k : Nat) :
    1 + UInt32.ofNat k = UInt32.ofNat (k + 1) := by
  rw [UInt32.ofNat_add, UInt32.add_comm]
  rfl

theorem add_one_add_ofNat (n : UInt32) (k : Nat) :
    n + 1 + UInt32.ofNat k = n + UInt32.ofNat (k + 1) := by
  rw [UInt32.add_assoc, one_add_ofNat]

/-- The counter behind some elements. -/
def counterAfter (n : UInt32) (es : List Element) : UInt32 :=
  n + UInt32.ofNat (es.countP isAutomatic)

@[simp] theorem counterAfter_nil (n : UInt32) :
    counterAfter n [] = n := by
  simp [counterAfter]

theorem counterAfter_cons (n : UInt32) (e : Element) (es : List Element) :
    counterAfter n (e :: es) = counterAfter (nextAfter n e) es := by
  have hnext : nextAfter n e = if isAutomatic e then n + 1 else n := rfl
  rw [hnext, counterAfter, counterAfter, List.countP_cons]
  cases isAutomatic e with
  | false =>
      rfl
  | true =>
      rw [if_pos rfl, if_pos rfl, add_one_add_ofNat]

theorem elements_cons (d : Defaults) (n : UInt32) (e : Element) (es : List Element) :
    elements d n (e :: es) = element d n e >>= fun events =>
      (events ++ ·) <$> elements d (nextAfter n e) es := by
  rw [elements]
  simp only [map_eq_pure_bind]

/-- The elements of two lists compile one list after the other. -/
theorem elements_append (d : Defaults) (n : UInt32) (xs ys : List Element) :
    elements d n (xs ++ ys) = elements d n xs >>= fun front =>
      (front ++ ·) <$> elements d (counterAfter n xs) ys := by
  induction xs generalizing n with
  | nil =>
      rw [counterAfter_nil]
      exact (id_map _).symm
  | cons x xs ih =>
      rw [List.cons_append, elements_cons, elements_cons, bind_assoc, counterAfter_cons]
      refine bind_congr fun events => ?_
      rw [ih, map_bind, bind_map_left]
      refine bind_congr fun front => ?_
      rw [Functor.map_map]
      simp only [List.append_assoc]

theorem elements_singleton (d : Defaults) (n : UInt32) (e : Element) :
    elements d n [e] = element d n e := by
  rw [elements_cons]
  cases element d n e with
  | error fault =>
      rfl
  | ok events =>
      exact congrArg Except.ok (List.append_nil events)

/-! ### Scripts -/

/-- The element with other children. -/
def holding (root : Element) (es : List Element) : Element :=
  .mk root.name root.attributes root.text es

theorem compile_singleton (d : Defaults) (root e : Element) :
    compile d (holding root [e]) = element d 1 e :=
  elements_singleton d 1 e

/-- Some elements fail to compile with the fault of the first one that does. -/
theorem elements_eq_error_iff
    (d : Defaults) (n : UInt32) (es : List Element) (fault : CompileError) :
    elements d n es = .error fault ↔
      ∃ front e back, es = front ++ e :: back ∧
        (∀ e' ∈ front, ∃ events, element d 1 e' = .ok events) ∧
          element d 1 e = .error fault := by
  induction es generalizing n with
  | nil =>
      constructor
      · intro h
        cases h
      · rintro ⟨front, e, back, h, -⟩
        cases front <;> cases h
  | cons e es ih =>
      rw [elements_cons, element_eq_map]
      cases helement : element d 1 e with
      | error fault' =>
          constructor
          · intro h
            obtain rfl := Except.error.inj h
            exact ⟨[], e, es, rfl, by simp, helement⟩
          · rintro ⟨front, e', back, h, hfront, he'⟩
            cases front with
            | nil =>
                obtain ⟨rfl, rfl⟩ := List.cons.inj h
                exact congrArg Except.error (Except.error.inj (helement.symm.trans he'))
            | cons x front =>
                obtain ⟨rfl, -⟩ := List.cons.inj h
                obtain ⟨events, hevents⟩ := hfront e (by simp)
                cases helement.symm.trans hevents
      | ok events =>
          have hrest : (numbered n e <$> .ok events >>= fun events =>
              (events ++ ·) <$> elements d (nextAfter n e) es) = .error fault ↔
              elements d (nextAfter n e) es = .error fault := by
            cases elements d (nextAfter n e) es with
            | error fault' =>
                exact Iff.rfl
            | ok rest =>
                constructor <;> intro h <;> cases h
          rw [hrest, ih]
          constructor
          · rintro ⟨front, e', back, rfl, hfront, he'⟩
            refine ⟨e :: front, e', back, rfl, ?_, he'⟩
            exact List.forall_mem_cons.2 ⟨⟨events, helement⟩, hfront⟩
          · rintro ⟨front, e', back, h, hfront, he'⟩
            cases front with
            | nil =>
                obtain ⟨rfl, rfl⟩ := List.cons.inj h
                cases helement.symm.trans he'
            | cons x front =>
                obtain ⟨rfl, rfl⟩ := List.cons.inj h
                exact ⟨front, e', back, rfl, fun x hx =>
                  hfront x (List.mem_cons_of_mem e hx), he'⟩

/-- The events of some elements are one part for each, numbered by the counter at its place. -/
theorem exists_parts
    {d : Defaults} {n : UInt32} {es : List Element} {batch : Batch}
    (h : elements d n es = .ok batch) :
    ∃ parts : List Batch, batch = parts.flatten ∧ parts.length = es.length ∧
      ∀ front e back, es = front ++ e :: back →
        ∃ events, element d 1 e = .ok events ∧
          parts[front.length]? = some (numbered (counterAfter n front) e events) := by
  induction es generalizing n batch with
  | nil =>
      obtain rfl := Except.ok.inj h
      refine ⟨[], rfl, rfl, ?_⟩
      intro front e back h
      cases front <;> cases h
  | cons e es ih =>
      rw [elements_cons, element_eq_map] at h
      obtain ⟨events', hevents', h⟩ := bind_eq_ok h
      obtain ⟨events, hevents, rfl⟩ := map_eq_ok hevents'
      obtain ⟨rest, hrest, rfl⟩ := map_eq_ok h
      obtain ⟨parts, rfl, hlength, hparts⟩ := ih hrest
      refine ⟨numbered n e events :: parts, rfl, congrArg (· + 1) hlength, ?_⟩
      intro front e' back hsplit
      cases front with
      | nil =>
          obtain ⟨rfl, rfl⟩ := List.cons.inj hsplit
          exact ⟨events, hevents, by simp⟩
      | cons x front =>
          obtain ⟨rfl, htail⟩ := List.cons.inj hsplit
          obtain ⟨events', hevents', hpart⟩ := hparts front e' back htail
          exact ⟨events', hevents', by rw [counterAfter_cons]; exact hpart⟩

theorem exists_elements_iff (d : Defaults) (n : UInt32) (es : List Element) :
    (∃ batch, elements d n es = .ok batch) ↔
      ∀ e ∈ es, ∃ events, element d 1 e = .ok events := by
  constructor
  · rintro ⟨batch, h⟩ e he
    obtain ⟨parts, -, -, hparts⟩ := exists_parts h
    obtain ⟨front, back, rfl⟩ := List.append_of_mem he
    obtain ⟨events, hevents, -⟩ := hparts front e back rfl
    exact ⟨events, hevents⟩
  · intro h
    cases helements : elements d n es with
    | ok batch =>
        exact ⟨batch, rfl⟩
    | error fault =>
        obtain ⟨front, e, back, rfl, -, he⟩ :=
          (elements_eq_error_iff d n es fault).1 helements
        obtain ⟨events, hevents⟩ := h e (by simp)
        cases he.symm.trans hevents

/-- Every message element of a compiled script makes a message. -/
theorem exists_message_of_compile
    {d : Defaults} {root pdu : Element} {batch : Batch}
    (h : compile d root = .ok batch)
    (hpdu : pdu ∈ root.children)
    (hnamed : pdu.isNamed "PDU") :
    ∃ m, message d 1 pdu = .ok m := by
  obtain ⟨events, hevents⟩ := (exists_elements_iff d 1 root.children).1 ⟨batch, h⟩ pdu hpdu
  rw [element_of_isNamed hnamed] at hevents
  obtain ⟨m, hm, -⟩ := map_eq_ok hevents
  exact ⟨m, hm⟩

/-! ### Counting from another start -/

/-- The events of a script whose message elements are the given ones, with the automatic
numbers moved on by `k`. -/
def movedOn (k : UInt32) : List Element → Batch → Batch
  | _, [] => []
  | pdu :: pdus, .send m :: events =>
      .send (if isAutomatic pdu then m.withSequence (m.sequence + k) else m) ::
        movedOn k pdus events
  | pdus, e :: events => e :: movedOn k pdus events

/-- Events without messages stay as they are. -/
theorem movedOn_append
    {events : Batch}
    (h : ∀ m, .send m ∉ events)
    (k : UInt32) (pdus : List Element) (rest : Batch) :
    movedOn k pdus (events ++ rest) = events ++ movedOn k pdus rest := by
  induction events with
  | nil =>
      rfl
  | cons e events ih =>
      have htail := ih fun m hm => h m (List.mem_cons_of_mem e hm)
      cases e with
      | send m =>
          exact absurd List.mem_cons_self (h m)
      | _ =>
          rw [List.cons_append, movedOn, htail, List.cons_append]
          simp

theorem nextAfter_add (n k : UInt32) (e : Element) :
    nextAfter (n + k) e = nextAfter n e + k := by
  unfold nextAfter
  split
  · rw [UInt32.add_assoc, UInt32.add_assoc, UInt32.add_comm k]
  · rfl

/-- **Counting from another start moves the automatic numbers on**, and changes nothing
else. -/
theorem elements_add (d : Defaults) (n k : UInt32) (es : List Element) :
    elements d (n + k) es = movedOn k (messageElements es) <$> elements d n es := by
  induction es generalizing n with
  | nil =>
      rfl
  | cons e es ih =>
      rw [elements_cons, elements_cons, nextAfter_add, ih, map_bind]
      by_cases hpdu : e.isNamed "PDU"
      · rw [messageElements_cons_of_isNamed hpdu, element_of_isNamed hpdu,
          element_of_isNamed hpdu, message_add, Functor.map_map, bind_map_left, bind_map_left]
        refine bind_congr fun m => ?_
        rw [Functor.map_map, Functor.map_map]
        simp only [movedOn, isAutomatic, hpdu, Bool.true_and, List.cons_append,
          List.nil_append]
      · rw [messageElements_cons_of_not_isNamed hpdu,
          element_eq_of_not_isNamed hpdu d (n + k) n]
        cases hevents : element d n e with
        | error fault =>
            rfl
        | ok events =>
            have hnone : ∀ m, Event.send m ∉ events :=
              fun m hm => hpdu (message_of_mem_element hevents hm).1
            change (events ++ ·) <$> (movedOn k _ <$> elements d (nextAfter n e) es) =
              movedOn k _ <$> ((events ++ ·) <$> elements d (nextAfter n e) es)
            rw [Functor.map_map, Functor.map_map]
            simp only [movedOn_append hnone]

/-! ### Composition -/

/-- The elements that make events. -/
def isKnown (e : Element) : Bool :=
  ["PDU", "Connect", "Disconnect", "Pause", "Settings"].any e.isNamed

theorem element_of_not_isKnown
    {e : Element}
    (h : ¬ isKnown e)
    (d : Defaults) (n : UInt32) :
    element d n e = .ok [] := by
  simp only [isKnown, List.any_cons, List.any_nil, Bool.or_false, Bool.or_eq_true,
    not_or] at h
  obtain ⟨hpdu, hconnect, hdisconnect, hpause, hsettings⟩ := h
  rw [element, if_neg hpdu, if_neg hconnect, if_neg hdisconnect, if_neg hpause,
    if_neg hsettings]

/-- How a script compiles, from how its elements compile alone. -/
structure Compositional (d : Defaults) (root : Element) : Prop where
  /-- An unknown element compiles to nothing. -/
  unknown : ∀ e, ¬ isKnown e → compile d (holding root [e]) = .ok []
  /-- The script compiles exactly if each known element does alone. -/
  succeeds : (∃ batch, compile d root = .ok batch) ↔
    ∀ e ∈ root.children, isKnown e → ∃ events, compile d (holding root [e]) = .ok events
  /-- Else the fault is that of the first element that does not. -/
  fails : ∀ fault, compile d root = .error fault ↔
    ∃ front e back, root.children = front ++ e :: back ∧
      (∀ e' ∈ front, ∃ events, compile d (holding root [e']) = .ok events) ∧
      compile d (holding root [e]) = .error fault
  /-- Each element adds the events that it yields alone, in order; the number of the `k`-th
  message without one is `k`, reduced to its word. -/
  events : ∀ batch, compile d root = .ok batch →
    ∃ parts : List Batch, batch = parts.flatten ∧ parts.length = root.children.length ∧
      ∀ front e back, root.children = front ++ e :: back →
        ∃ alone, compile d (holding root [e]) = .ok alone ∧
          parts[front.length]? =
            some (numbered (UInt32.ofNat (front.countP isAutomatic + 1)) e alone)
  /-- Two scripts one after the other compile to the batch of the first and that of the
  second, whose automatic numbers go on behind those of the first. -/
  append : ∀ xs ys, root.children = xs ++ ys → ∀ batch, compile d root = .ok batch ↔
    ∃ b₁ b₂, compile d (holding root xs) = .ok b₁ ∧ compile d (holding root ys) = .ok b₂ ∧
      batch = b₁ ++ movedOn (UInt32.ofNat (xs.countP isAutomatic)) (messageElements ys) b₂

/-- **Scripts compile element by element.** -/
theorem compositional_compile (d : Defaults) (root : Element) :
    Compositional d root := by
  have hcounter : ∀ front : List Element,
      counterAfter 1 front = UInt32.ofNat (front.countP isAutomatic + 1) :=
    fun front => one_add_ofNat (front.countP isAutomatic)
  exact {
    unknown := fun e he => (compile_singleton d root e).trans (element_of_not_isKnown he d 1)
    succeeds := by
      simp only [compile_singleton]
      refine (exists_elements_iff d 1 root.children).trans
        ⟨fun h e he _ => h e he, fun h e he => ?_⟩
      by_cases hknown : isKnown e
      · exact h e he hknown
      · exact ⟨[], element_of_not_isKnown hknown d 1⟩
    fails := by
      intro fault
      simp only [compile_singleton]
      exact elements_eq_error_iff d 1 root.children fault
    events := by
      intro batch h
      simp only [compile_singleton, ← hcounter]
      exact exists_parts h
    append := by
      intro xs ys hsplit batch
      have hall : compile d root = elements d 1 xs >>= fun b₁ => (b₁ ++ ·) <$>
          (movedOn (UInt32.ofNat (xs.countP isAutomatic)) (messageElements ys) <$>
            elements d 1 ys) := by
        rw [compile, hsplit, elements_append, ← elements_add]
        rfl
      rw [hall]
      constructor
      · intro h
        obtain ⟨b₁, hb₁, h⟩ := bind_eq_ok h
        obtain ⟨moved, hmoved, rfl⟩ := map_eq_ok h
        obtain ⟨b₂, hb₂, rfl⟩ := map_eq_ok hmoved
        exact ⟨b₁, b₂, hb₁, hb₂, rfl⟩
      · rintro ⟨b₁, b₂, hb₁, hb₂, rfl⟩
        have hb₁ : elements d 1 xs = .ok b₁ := hb₁
        have hb₂ : elements d 1 ys = .ok b₂ := hb₂
        rw [hb₁, hb₂]
        rfl }

/-- A message with a number does not count, and an unknown element is passed over. -/
example :
    (compile {} (.mk "Batch" [] "" [.mk "pdu" [("type", "UNBIND")] "" [],
        .mk "Comment" [] "" [],
        .mk "PDU" [("type", "UNBIND")] "" [.mk "SequenceNumber" [] "9" []],
        .mk "PDU" [("type", "ENQUIRE_LINK")] "" []])) =
      .ok [.send ((Message.new .unbind).withSequence 1),
        .send ((Message.new .unbind).withSequence 9),
        .send ((Message.new .enquireLink).withSequence 2)] := by
  decide +kernel

end Batch
end SmppReplay
