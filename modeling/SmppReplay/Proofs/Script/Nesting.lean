import SmppReplay.Proofs.Faults
import SmppReplay.Script.Xml.Document
import Mathlib.Tactic

/-!
# Nesting of tags

**Question.** Can a document be read in which an element is left open, or in which there are
two roots?

**Method.** The tokens that a reader delivers are looked at as brackets.  Which names are
open behind some tokens can be told if each end tag names the innermost open element
(`openNames`), and if none is open in the end, each opening tag has its own closing one
(`not_unclosed_of_openNames`).  The depth of a row of tokens is the number of its opening
tags less that of its closing ones (`depth`); it counts the elements that are open while a
document is read.  Behind the first tag there is a root, open or complete, for good
(`Builder.HasRoot`).  An element that opens behind a complete root can never be put into its
place (`Builder.IsBeyond`).

Main facts, for every reader:
* `Reader.not_unclosed_of_root`: in a document that is read every opening tag has its own
  closing one, if the reader looks at the names of end tags;
* `Reader.not_twoRoots_of_root`: nor has such a document two roots.

The tokens are those that the reader delivers.  `Xml.tokens` takes an end tag for one
although the input ends in front of its `>`.
-/

namespace SmppReplay
namespace Script
namespace Xml

/-! ### Rows of tokens -/

/-- What a token adds to the number of open elements. -/
def Token.depth : Token → Int
  | .start _ => 1
  | .close _ => -1
  | _ => 0

/-- An element begins with the token. -/
def Token.begins : Token → Bool
  | .start _ => true
  | .empty _ => true
  | _ => false

/-- The tokens without their offsets. -/
def Tokens.row {φ : Type} (ts : Tokens φ) : List Token :=
  ts.tokens.map Prod.snd

/-- What tokens add to the number of open elements. -/
def depth (ts : List Token) : Int :=
  (ts.map Token.depth).sum

@[simp] theorem depth_nil : depth [] = 0 :=
  rfl

@[simp] theorem depth_cons (t : Token) (ts : List Token) :
    depth (t :: ts) = t.depth + depth ts :=
  List.sum_cons

@[simp] theorem depth_append (ts us : List Token) :
    depth (ts ++ us) = depth ts + depth us := by
  simp [depth]

/-- The names that are open behind a token, the innermost first; an end tag must name that
one. -/
def Token.openNames (names : List (List Char)) : Token → Option (List (List Char))
  | .start content => some (tagName content :: names)
  | .close content =>
      match names with
      | name :: outer => if closingName content = name then some outer else none
      | [] => none
  | _ => some names

/-- The names that are open behind some tokens, if each end tag names the innermost one. -/
def openNames (names : List (List Char)) (ts : List Token) : Option (List (List Char)) :=
  ts.foldlM Token.openNames names

/-- Opening and closing tags stand in pairs of one name. -/
inductive Nested : List Token → Prop
  | nil :
      Nested []
  | single {t : Token} {ts : List Token} :
      t.depth = 0 →
      Nested ts →
      Nested (t :: ts)
  | pair {content content' : List Char} {inner ts : List Token} :
      closingName content' = tagName content →
      Nested inner →
      Nested ts →
      Nested (.start content :: (inner ++ .close content' :: ts))

/-- Behind an opening tag stands its own closing one: it has the same name, and between them
tags stand in pairs. -/
def IsClosed (content : List Char) (after : List Token) : Prop :=
  ∃ inner content' rest, after = inner ++ .close content' :: rest ∧ Nested inner ∧
    closingName content' = tagName content

/-- An opening tag is without its own closing one. -/
def Unclosed (ts : List Token) : Prop :=
  ∃ before content after, ts = before ++ .start content :: after ∧ ¬IsClosed content after

/-- Two elements begin where none is open. -/
def TwoRoots (ts : List Token) : Prop :=
  ∃ before first between second after, ts = before ++ first :: (between ++ second :: after) ∧
    first.begins = true ∧ second.begins = true ∧
    depth before = 0 ∧ depth (before ++ first :: between) = 0

/-! ### Pairs of tags -/

/-- A token opens a name, closes the innermost one, or leaves the names as they are. -/
theorem Token.openNames_cases
    {names names' : List (List Char)} {t : Token}
    (h : t.openNames names = some names') :
    (∃ content, t = .start content ∧ names' = tagName content :: names) ∨
    (∃ content, t = .close content ∧ names = closingName content :: names') ∨
    (t.depth = 0 ∧ names' = names) := by
  cases t with
  | start content =>
      cases h
      exact .inl ⟨content, rfl, rfl⟩
  | close content =>
      cases names with
      | nil =>
          cases h
      | cons name outer =>
          simp only [openNames] at h
          split at h
          · cases h
            exact .inr (.inl ⟨content, rfl, by rw [‹closingName content = name›]⟩)
          · cases h
  | empty | text | plain | skipped =>
      cases h
      exact .inr (.inr ⟨rfl, rfl⟩)

theorem openNames_cons (names : List (List Char)) (t : Token) (ts : List Token) :
    openNames names (t :: ts) = t.openNames names >>= fun names => openNames names ts :=
  List.foldlM_cons

theorem openNames_append (names : List (List Char)) (ts us : List Token) :
    openNames names (ts ++ us) = openNames names ts >>= fun names => openNames names us :=
  List.foldlM_append

theorem exists_of_openNames_cons
    {names names' : List (List Char)} {t : Token} {ts : List Token}
    (h : openNames names (t :: ts) = some names') :
    ∃ mid, t.openNames names = some mid ∧ openNames mid ts = some names' := by
  rw [openNames_cons] at h
  exact Option.bind_eq_some_iff.1 h

/-- The depth counts the open names. -/
theorem length_of_openNames
    {names names' : List (List Char)} {ts : List Token}
    (h : openNames names ts = some names') :
    (names'.length : Int) = names.length + depth ts := by
  induction ts generalizing names with
  | nil =>
      cases h
      simp
  | cons t ts ih =>
      obtain ⟨mid, hmid, hrest⟩ := exists_of_openNames_cons h
      rw [ih hrest, depth_cons]
      rcases t.openNames_cases hmid with ⟨content, rfl, rfl⟩ | ⟨content, rfl,
        rfl⟩ | ⟨hdepth, rfl⟩
      · simp [Token.depth]
        omega
      · simp [Token.depth]
      · omega

/-- If nothing is open in the end, the innermost element is closed by a tag of its own. -/
theorem exists_close
    {ts : List Token} {name : List Char} {outer : List (List Char)}
    (h : openNames (name :: outer) ts = some []) :
    ∃ inner content rest, ts = inner ++ .close content :: rest ∧ Nested inner ∧
      closingName content = name ∧ openNames outer rest = some [] := by
  induction hlength : ts.length using Nat.strong_induction_on generalizing ts name outer with
  | _ _ ih =>
  subst hlength
  cases ts with
  | nil =>
      cases h
  | cons t ts =>
      obtain ⟨mid, hmid, hrest⟩ := exists_of_openNames_cons h
      rcases t.openNames_cases hmid with ⟨content, rfl, rfl⟩ | ⟨content, rfl,
        hnames⟩ | ⟨hdepth, rfl⟩
      · -- The element that is opened here is closed first.
        obtain ⟨inner₁, content₁, rest₁, rfl, hnested₁, hname₁, hrest₁⟩ :=
          ih ts.length (by simp) hrest rfl
        obtain ⟨inner₂, content₂, rest₂, rfl, hnested₂, hname₂, hrest₂⟩ :=
          ih rest₁.length (by simp; omega) hrest₁ rfl
        exact ⟨.start content :: (inner₁ ++ .close content₁ :: inner₂), content₂,
          rest₂, by simp,
          .pair hname₁ hnested₁ hnested₂, hname₂, hrest₂⟩
      · cases hnames
        exact ⟨[], content, ts, rfl, .nil, rfl, hrest⟩
      · obtain ⟨inner, content, rest, rfl, hnested, hname, hrest'⟩ :=
          ih ts.length (by simp) hrest rfl
        exact ⟨t :: inner, content, rest, rfl, .single hdepth hnested, hname, hrest'⟩

/-- **Where nothing is open in the end every opening tag has its own closing one.** -/
theorem not_unclosed_of_openNames
    {ts : List Token}
    (h : openNames [] ts = some []) :
    ¬Unclosed ts := by
  rintro ⟨before, content, after, rfl, hopen⟩
  rw [openNames_append] at h
  obtain ⟨names, -, hafter⟩ := Option.bind_eq_some_iff.1 h
  obtain ⟨_, ⟨⟩, hrest⟩ := exists_of_openNames_cons hafter
  obtain ⟨inner, content', rest, rfl, hnested, hname, -⟩ := exists_close hrest
  exact hopen ⟨inner, content', rest, rfl, hnested, hname⟩

/-! ### Taking tokens -/

namespace Builder

variable {φ : Type}

/-- The builder with one more open element. -/
def push (b : Builder) (e : Element) : Builder :=
  { b with opened := e :: b.opened }

/-- An element that finds its place leaves the others open, and is the root if there are
none. -/
theorem attach_cases
    {b b' : Builder} {e : Element}
    (h : b.attach (φ := φ) e = .ok b') :
    b'.opened.length = b.opened.length ∧
      ((b.opened ≠ [] ∧ b'.root = b.root) ∨
        (b.opened = [] ∧ b.root = none ∧ b'.root = some e)) := by
  unfold attach at h
  split at h
  · rename_i parent outer hopened
    obtain rfl := Except.ok.inj h
    exact ⟨by simp [hopened], .inl ⟨by simp [hopened], rfl⟩⟩
  · rename_i hopened
    split at h
    · rename_i hroot
      obtain rfl := Except.ok.inj h
      exact ⟨rfl, .inr ⟨hopened, hroot, rfl⟩⟩
    · cases h

theorem close_cases
    {b b' : Builder}
    (h : b.close (φ := φ) = .ok b') :
    ∃ top outer, b.opened = top :: outer ∧
      ({ b with opened := outer } : Builder).attach (φ := φ) top = .ok b' := by
  unfold close at h
  split at h
  · rename_i top outer hopened
    exact ⟨top, outer, hopened, h⟩
  · cases h

/-- Characters close no element and change no root. -/
theorem addText_keeps (b : Builder) (cs : List Char) :
    (b.addText cs).opened.length = b.opened.length ∧ (b.addText cs).root = b.root := by
  cases hopened : b.opened <;> simp [addText, hopened]

/-- There is a root, open or complete. -/
def HasRoot (b : Builder) : Prop :=
  b.opened ≠ [] ∨ b.root ≠ none

/-- An element is open behind a complete root. -/
def IsBeyond (b : Builder) : Prop :=
  b.opened ≠ [] ∧ b.root ≠ none

theorem hasRoot_of_attach
    {b b' : Builder} {e : Element}
    (h : b.attach (φ := φ) e = .ok b') :
    b'.HasRoot := by
  obtain ⟨hlength, ⟨hopen, -⟩ | ⟨-, -, hroot⟩⟩ := attach_cases h
  · exact .inl (by rwa [Ne, ← List.length_eq_zero_iff, hlength, List.length_eq_zero_iff])
  · exact .inr (by simp [hroot])

theorem opened_of_finish
    {b : Builder} {e : Element}
    (h : b.finish (φ := φ) = .ok e) :
    b.opened = [] := by
  unfold finish at h
  split at h
  · cases h
  · rename_i hopened _
    exact hopened
  · cases h

end Builder

namespace Reader

variable {φ : Type} {r : Reader φ}

theorem exists_of_steps_append
    {b b' : Builder} {ts us : List (Nat × Token)}
    (h : r.steps b (ts ++ us) = .ok b') :
    ∃ mid, r.steps b ts = .ok mid ∧ r.steps mid us = .ok b' := by
  rw [steps, List.foldlM_append] at h
  exact bind_eq_ok h

theorem exists_of_steps_cons
    {b b' : Builder} {t : Nat × Token} {ts : List (Nat × Token)}
    (h : r.steps b (t :: ts) = .ok b') :
    ∃ mid, r.step b t.1 t.2 = .ok mid ∧ r.steps mid ts = .ok b' := by
  rw [steps, List.foldlM_cons] at h
  exact bind_eq_ok h

/-- What a token can do: it opens an element, puts one into its place, or closes and roots
none. -/
theorem step_cases
    {b b' : Builder} {pos : Nat} {t : Token}
    (h : r.step b pos t = .ok b') :
    (∃ content e, t = .start content ∧ b' = b.push e) ∨
    (∃ content e, t = .empty content ∧ b.attach (φ := φ) e = .ok b') ∨
    (∃ content top outer, t = .close content ∧ b.opened = top :: outer ∧
      ({ b with opened := outer } : Builder).attach (φ := φ) top = .ok b') ∨
    (t.depth = 0 ∧ t.begins = false ∧ b'.opened.length = b.opened.length ∧
      b'.root = b.root) := by
  cases t with
  | start content =>
      obtain ⟨e, -, h⟩ := bind_eq_ok h
      obtain rfl := Except.ok.inj h
      exact .inl ⟨content, e, rfl, rfl⟩
  | empty content =>
      obtain ⟨e, -, h⟩ := bind_eq_ok h
      exact .inr (.inl ⟨content, e, rfl, h⟩)
  | close content =>
      obtain ⟨top, outer, hopened, hattach⟩ := Builder.close_cases h
      exact .inr (.inr (.inl ⟨content, top, outer, rfl, hopened, hattach⟩))
  | text raw =>
      refine .inr (.inr (.inr ⟨rfl, rfl, ?_⟩))
      simp only [step] at h
      split at h
      · obtain rfl := Except.ok.inj h
        exact ⟨rfl, rfl⟩
      · split at h
        · obtain rfl := Except.ok.inj h
          exact b.addText_keeps _
        · cases h
  | plain cs =>
      obtain rfl := Except.ok.inj h
      exact .inr (.inr (.inr ⟨rfl, rfl, b.addText_keeps cs⟩))
  | skipped =>
      obtain rfl := Except.ok.inj h
      exact .inr (.inr (.inr ⟨rfl, rfl, rfl, rfl⟩))

theorem length_opened_of_step
    {b b' : Builder} {pos : Nat} {t : Token}
    (h : r.step b pos t = .ok b') :
    (b'.opened.length : Int) = b.opened.length + t.depth := by
  rcases step_cases h with ⟨content, e, rfl, rfl⟩ | ⟨content, e, rfl, hattach⟩ |
    ⟨content, top, outer, rfl, hopened, hattach⟩ | ⟨hdepth, -, hlength, -⟩
  · simp [Builder.push, Token.depth]
  · simp [(Builder.attach_cases hattach).1, Token.depth]
  · simp [(Builder.attach_cases hattach).1, hopened, Token.depth]
  · omega

/-- The depth counts the open elements. -/
theorem length_opened_of_steps
    {b b' : Builder} {ts : List (Nat × Token)}
    (h : r.steps b ts = .ok b') :
    (b'.opened.length : Int) = b.opened.length + depth (ts.map Prod.snd) := by
  induction ts generalizing b with
  | nil =>
      obtain rfl := Except.ok.inj h
      simp
  | cons t ts ih =>
      obtain ⟨mid, hmid, hrest⟩ := exists_of_steps_cons h
      rw [ih hrest, length_opened_of_step hmid, List.map_cons, depth_cons]
      omega

/-! ### Roots -/

theorem hasRoot_of_begins
    {b b' : Builder} {pos : Nat} {t : Token}
    (ht : t.begins = true)
    (h : r.step b pos t = .ok b') :
    b'.HasRoot := by
  rcases step_cases h with ⟨content, e, rfl, rfl⟩ | ⟨content, e, rfl, hattach⟩ |
    ⟨content, top, outer, rfl, -, hattach⟩ | ⟨-, hnot, -⟩
  · exact .inl (by simp [Builder.push])
  · exact Builder.hasRoot_of_attach hattach
  · exact Builder.hasRoot_of_attach hattach
  · simp [hnot] at ht

theorem hasRoot_of_step
    {b b' : Builder} {pos : Nat} {t : Token}
    (h : r.step b pos t = .ok b')
    (hb : b.HasRoot) :
    b'.HasRoot := by
  rcases step_cases h with ⟨content, e, rfl, rfl⟩ | ⟨content, e, rfl, hattach⟩ |
    ⟨content, top, outer, rfl, -, hattach⟩ | ⟨-, -, hlength, hroot⟩
  · exact .inl (by simp [Builder.push])
  · exact Builder.hasRoot_of_attach hattach
  · exact Builder.hasRoot_of_attach hattach
  · rwa [Builder.HasRoot, Ne, ← List.length_eq_zero_iff, hlength,
      List.length_eq_zero_iff, hroot]

/-- What is open behind a complete root is never put into its place. -/
theorem isBeyond_of_step
    {b b' : Builder} {pos : Nat} {t : Token}
    (h : r.step b pos t = .ok b')
    (hb : b.IsBeyond) :
    b'.IsBeyond := by
  obtain ⟨hopen, hroot⟩ := hb
  rw [Builder.IsBeyond, Ne, ← List.length_eq_zero_iff]
  rw [Ne, ← List.length_eq_zero_iff] at hopen
  rcases step_cases h with ⟨content, e, rfl, rfl⟩ | ⟨content, e, rfl, hattach⟩ |
    ⟨content, top, outer, rfl, -, hattach⟩ | ⟨-, -, hlength, hsame⟩
  · exact ⟨by simp [Builder.push], hroot⟩
  · obtain ⟨hlength, ⟨-, hsame⟩ | ⟨hnone, -, -⟩⟩ := Builder.attach_cases hattach
    · exact ⟨by rwa [hlength], by rwa [hsame]⟩
    · simp [hnone] at hopen
  · obtain ⟨hlength, ⟨hopen', hsame⟩ | ⟨-, hnone, -⟩⟩ := Builder.attach_cases hattach
    · refine ⟨?_, by rw [hsame]; exact hroot⟩
      rw [hlength, List.length_eq_zero_iff]
      exact hopen'
    · exact absurd hnone hroot
  · exact ⟨by rwa [hlength], by rwa [hsame]⟩

/-- An element that begins behind a complete root is open behind it. -/
theorem isBeyond_of_begins
    {b b' : Builder} {pos : Nat} {t : Token}
    (ht : t.begins = true)
    (h : r.step b pos t = .ok b')
    (hnone : b.opened = [])
    (hroot : b.root ≠ none) :
    b'.IsBeyond := by
  rcases step_cases h with ⟨content, e, rfl, rfl⟩ | ⟨content, e, rfl, hattach⟩ |
    ⟨content, top, outer, rfl, -⟩ | ⟨-, hnot, -⟩
  · exact ⟨by simp [Builder.push], hroot⟩
  · obtain ⟨-, ⟨hopen, -⟩ | ⟨-, hcomplete, -⟩⟩ := Builder.attach_cases hattach
    · exact absurd hnone hopen
    · exact absurd hcomplete hroot
  · cases ht
  · simp [hnot] at ht

/-- **Where nothing is open in the end there is one root.** -/
theorem not_twoRoots_of_steps
    {b : Builder} {ts : List (Nat × Token)}
    (h : r.steps ⟨[], none⟩ ts = .ok b)
    (hempty : b.opened = []) :
    ¬TwoRoots (ts.map Prod.snd) := by
  rintro ⟨_, _, _, _, _, hsplit, hfirst, hsecond, -, hdepth⟩
  obtain ⟨before, _, rfl, rfl, hrow⟩ := List.map_eq_append_iff.1 hsplit
  obtain ⟨first, _, rfl, rfl, hrow'⟩ := List.map_eq_cons_iff.1 hrow
  obtain ⟨between, _, rfl, rfl, hrow''⟩ := List.map_eq_append_iff.1 hrow'
  obtain ⟨second, after, rfl, rfl, rfl⟩ := List.map_eq_cons_iff.1 hrow''
  obtain ⟨b₁, hbefore, hsteps⟩ := exists_of_steps_append h
  obtain ⟨b₂, hstep₁, hsteps⟩ := exists_of_steps_cons hsteps
  obtain ⟨b₃, hbetween, hsteps⟩ := exists_of_steps_append hsteps
  obtain ⟨b₄, hstep₂, hafter⟩ := exists_of_steps_cons hsteps
  have hroot : b₃.HasRoot :=
    foldlM_preserves (fun t _ _ _ hstep => hasRoot_of_step hstep) hbetween
      (hasRoot_of_begins hfirst hstep₁)
  -- Nothing is open in front of the second tag, so the root is complete there.
  have hnone : b₃.opened = [] := by
    have hlength₁ := length_opened_of_steps hbefore
    have hlength₂ := length_opened_of_step hstep₁
    have hlength₃ := length_opened_of_steps hbetween
    simp only [depth_append, depth_cons, List.length_nil] at hdepth hlength₁
    exact List.length_eq_zero_iff.1 (by omega)
  have hbeyond : b.IsBeyond :=
    foldlM_preserves (fun t _ _ _ hstep => isBeyond_of_step hstep) hafter
      (isBeyond_of_begins hsecond hstep₂ hnone (hroot.resolve_left (absurd hnone)))
  exact hbeyond.1 hempty

/-! ### Documents -/

/-- Nothing is open behind a document that is read, and its tokens end with no fault. -/
theorem exists_of_root
    {cs : List Char} {e : Element}
    (h : r.root cs = .ok e) :
    (r.tokens cs).fault = none ∧
      ∃ b, r.steps ⟨[], none⟩ (r.tokens cs).tokens = .ok b ∧ b.opened = [] := by
  obtain ⟨b, hsteps, h⟩ := bind_eq_ok h
  split at h
  · cases h
  · exact ⟨‹_›, b, hsteps, Builder.opened_of_finish h⟩

/-- The names that are open in the end are none. -/
theorem openNames_eq_nil_of_root
    {cs : List Char} {e : Element} {names : List (List Char)}
    (h : r.root cs = .ok e)
    (hnames : openNames [] (r.tokens cs).row = some names) :
    names = [] := by
  obtain ⟨-, b, hsteps, hempty⟩ := exists_of_root h
  have hlength := length_opened_of_steps hsteps
  have hlength' := length_of_openNames hnames
  rw [hempty] at hlength
  simp only [Tokens.row, List.length_nil] at hlength hlength'
  exact List.length_eq_zero_iff.1 (by omega)

/-- **In a document that is read every opening tag has its own closing one.** -/
theorem not_unclosed_of_root
    {cs : List Char} {e : Element}
    (h : r.root cs = .ok e)
    (hnames : openNames [] (r.tokens cs).row ≠ none) :
    ¬Unclosed (r.tokens cs).row := by
  obtain ⟨names, hnames⟩ := Option.ne_none_iff_exists'.1 hnames
  obtain rfl := openNames_eq_nil_of_root h hnames
  exact not_unclosed_of_openNames hnames

/-- **A document that is read has one root.** -/
theorem not_twoRoots_of_root
    {cs : List Char} {e : Element}
    (h : r.root cs = .ok e) :
    ¬TwoRoots (r.tokens cs).row := by
  obtain ⟨-, b, hsteps, hempty⟩ := exists_of_root h
  exact not_twoRoots_of_steps hsteps hempty

end Reader

end Xml
end Script
end SmppReplay
