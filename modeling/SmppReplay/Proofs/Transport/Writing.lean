import SmppReplay.Proofs.Transport.Chunking

/-!
# Writing frames

**Question.** Frames are written to an output one after the other, and some are refused.
Does whoever reads the output get what was accepted, and only that?

**Answer.** Yes.  Writing looks at the length that a frame declares, at the length that it
has and at the bounds, and cutting looks at them in another order; but both accept the same
frames (`check_eq_ok_iff` and `cut_eq_self_iff`).  A refused frame adds nothing to the
output, so the output is what was accepted, one behind the other, and that is cut apart
again (`putAll_correct`).
-/

namespace SmppReplay
namespace Transport
namespace Framing

open Pdu (bigEndian headerSize)

section Defs

variable (f : Framing)

/-- An output, and for each string that was to be written there whether it was accepted. -/
structure Written where
  output : List UInt8
  verdicts : List (Except Error Unit)

/-- One more string; the output is what is left behind, also where it is refused. -/
def put (w : Written) (frame : List UInt8) : Written where
  output := (f.append frame).state w.output
  verdicts := w.verdicts ++ [(f.append frame).verdict w.output]

/-- Strings one after the other, from an empty output on. -/
def putAll (frames : List (List UInt8)) : Written :=
  frames.foldl f.put ⟨[], []⟩

end Defs

/-- The strings that were accepted. -/
def accepted (frames : List (List UInt8)) (verdicts : List (Except Error Unit)) :
    List (List UInt8) :=
  (frames.zip verdicts).filterMap fun e => e.2.toOption.map fun _ => e.1

variable {f : Framing}

/-! ### What is accepted -/

/-- A string is written exactly if it is a frame that the rule admits. -/
theorem check_eq_ok_iff (f : Framing) (frame : List UInt8) :
    f.check frame = .ok () ↔ f.Admits frame := by
  unfold check
  rw [declared?_eq]
  by_cases hshort : frame.length < 4
  · rw [if_pos hshort]
    simp only [reduceCtorEq, false_iff]
    rintro ⟨-, hmin, -⟩
    unfold headerSize at hmin
    omega
  · rw [if_neg hshort]
    simp only [checkSize]
    split_ifs with hlen hbelow habove
    · simp only [false_iff]
      exact fun h => hlen h.1
    · simp only [false_iff]
      rintro ⟨hown, hmin, -⟩
      omega
    · simp only [false_iff]
      rintro ⟨hown, -, hmax⟩
      omega
    · simp only [true_iff]
      exact ⟨not_not.1 hlen, by omega, by omega⟩

/-- A string alone is cut off whole exactly if it is a frame that the rule admits. -/
theorem cut_eq_self_iff (f : Framing) (frame : List UInt8) :
    f.cut frame = .ok (some (frame, [])) ↔ f.Admits frame := by
  constructor
  · intro h
    rcases cut_cases f frame with ⟨hcut, -⟩ | ⟨e, hcut, -⟩ | ⟨frame', rest, hcut, -, hadmits⟩
    · rw [hcut] at h
      cases h
    · rw [hcut] at h
      cases h
    · rw [hcut] at h
      obtain ⟨rfl, -⟩ := Prod.mk.inj (Option.some.inj (Except.ok.inj h))
      exact hadmits
  · intro h
    have hcut := cut_frame h []
    rwa [List.append_nil] at hcut

/-! ### What is written -/

/-- One string is added, or refused without a trace in the output. -/
theorem put_cases (f : Framing) (w : Written) (frame : List UInt8) :
    (f.Admits frame ∧ f.put w frame = ⟨w.output ++ frame, w.verdicts ++ [.ok ()]⟩) ∨
    (¬f.Admits frame ∧ ∃ e, f.put w frame = ⟨w.output, w.verdicts ++ [.error e]⟩) := by
  rw [← check_eq_ok_iff]
  cases hcheck : f.check frame with
  | ok =>
      have hrun : (f.append frame).run w.output = .ok () (w.output ++ frame) := by
        rw [append, hcheck]
        rfl
      exact .inl ⟨rfl, by simp [put, InPlace.state, InPlace.verdict, hrun]⟩
  | error e =>
      have hrun : (f.append frame).run w.output = .error e w.output := by
        rw [append, hcheck]
        rfl
      exact .inr ⟨by simp, e, by simp [put, InPlace.state, InPlace.verdict, hrun]⟩

theorem putAll_snoc (f : Framing) (frames : List (List UInt8)) (frame : List UInt8) :
    f.putAll (frames ++ [frame]) = f.put (f.putAll frames) frame :=
  List.foldl_append ..

/-- What was written of some strings: a verdict for each, and the accepted ones behind each
other. -/
structure Kept (f : Framing) (frames : List (List UInt8)) (w : Written) : Prop where
  verdicts : List.Forall₂ (fun frame verdict =>
    verdict = .ok () ↔ f.Admits frame) frames w.verdicts
  output : w.output = (accepted frames w.verdicts).flatten

theorem accepted_snoc
    {frames : List (List UInt8)} {verdicts : List (Except Error Unit)}
    (hlen : frames.length = verdicts.length)
    (frame : List UInt8) (verdict : Except Error Unit) :
    accepted (frames ++ [frame]) (verdicts ++ [verdict]) =
      accepted frames verdicts ++ accepted [frame] [verdict] := by
  rw [accepted, List.zip_append hlen, List.filterMap_append]
  rfl

/-- One more string. -/
theorem Kept.put
    {frames : List (List UInt8)} {w : Written}
    (h : Kept f frames w)
    (frame : List UInt8) :
    Kept f (frames ++ [frame]) (f.put w frame) := by
  have hlen := h.verdicts.length_eq
  rcases put_cases f w frame with ⟨hadmits, hput⟩ | ⟨hrefuses, e, hput⟩
  · rw [hput]
    refine ⟨List.rel_append h.verdicts (.cons (by simpa using hadmits) .nil), ?_⟩
    rw [accepted_snoc hlen, List.flatten_append, ← h.output]
    simp [accepted, Except.toOption]
  · rw [hput]
    refine ⟨List.rel_append h.verdicts (.cons (by simpa using hrefuses) .nil), ?_⟩
    rw [accepted_snoc hlen, List.flatten_append, ← h.output]
    simp [accepted, Except.toOption]

theorem kept_putAll (f : Framing) (frames : List (List UInt8)) :
    Kept f frames (f.putAll frames) := by
  induction frames using List.reverseRecOn with
  | nil =>
      exact ⟨.nil, rfl⟩
  | append_singleton frames frame ih =>
      rw [putAll_snoc]
      exact ih.put frame

/-- A string with a fault for its verdict is no frame that the rule admits. -/
theorem Kept.not_admits
    {before after : List (List UInt8)} {frame : List UInt8} {w : Written} {e : Error}
    (h : Kept f (before ++ frame :: after) w)
    (hverdict : w.verdicts[before.length]? = some (.error e)) :
    ¬f.Admits frame := by
  obtain ⟨hlast, hget⟩ := List.getElem?_eq_some_iff.1 hverdict
  have hiff := (List.forall₂_iff_get.1 h.verdicts).2 before.length (by simp) hlast
  simp only [List.get_eq_getElem, hget, List.getElem_append_right (Nat.le_refl _),
    Nat.sub_self, List.getElem_cons_zero, reduceCtorEq, false_iff] at hiff
  exact hiff

theorem Kept.admits_of_mem_accepted
    {frames : List (List UInt8)} {w : Written}
    (h : Kept f frames w) :
    ∀ frame ∈ accepted frames w.verdicts, f.Admits frame := by
  intro frame hmem
  obtain ⟨⟨frame', verdict⟩, hpair, hok⟩ := List.mem_filterMap.1 hmem
  obtain ⟨u, hu, rfl⟩ := Option.map_eq_some_iff.1 hok
  have hverdict := (List.forall₂_iff_zip.1 h.verdicts).2 hpair
  cases verdict with
  | ok =>
      exact hverdict.1 rfl
  | error e =>
      cases hu

/-- **Writing and cutting agree.** Of strings that are written one after the other, those
are accepted that alone would be cut off whole; a refused one leaves the output as it was;
and cutting the output gives the accepted ones in their order, until nothing is left and no
further frame is found. -/
theorem putAll_correct (f : Framing) (frames : List (List UInt8)) :
    List.Forall₂
      (fun frame verdict => verdict = .ok () ↔ f.cut frame = .ok (some (frame, [])))
      frames (f.putAll frames).verdicts ∧
    (∀ before frame after e, frames = before ++ frame :: after →
      (f.putAll frames).verdicts[before.length]? = some (.error e) →
        (f.putAll (before ++ [frame])).output = (f.putAll before).output) ∧
    f.drain (f.putAll frames).output =
      ⟨accepted frames (f.putAll frames).verdicts, [], none⟩ ∧
    f.cut [] = .ok none := by
  have hkept := kept_putAll f frames
  refine ⟨?_, ?_, ?_, rfl⟩
  · simp only [cut_eq_self_iff]
    exact hkept.verdicts
  · rintro before frame after e rfl hverdict
    have hrefuses := hkept.not_admits hverdict
    rcases put_cases f (f.putAll before) frame with ⟨hadmits, -⟩ | ⟨-, e', hput⟩
    · exact absurd hadmits hrefuses
    · rw [putAll_snoc, hput]
  · rw [hkept.output]
    exact drain_flatten hkept.admits_of_mem_accepted

end Framing
end Transport
end SmppReplay
