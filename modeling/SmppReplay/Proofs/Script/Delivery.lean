import SmppReplay.Proofs.Script.Nesting
import SmppReplay.Proofs.Script.Spelling

/-!
# Pieces of markup and their tokens

**Input.** A row of pieces that a writer puts down: tags, texts, plain sections, comments,
declarations.

**Question.**  Which tokens does a reader of markup deliver for them?

**Assumptions.** `Reader.Faithful` is what one relies on: the tokens are those of the pieces
in their order, with text behind text as one, an end tag has to name the innermost open
element, tags are taken apart, and the predefined entities are replaced and nothing else is
changed.  Nothing is said of what the reader makes of other characters, of offsets, or of
the wording of its faults.

**Result.** `standard_faithful`: the reader for scripts keeps to that.  The reader's part
for each piece is known (`readMarkup_start` and its siblings), and by induction on the row
so are its tokens (`delivers_spell`).
-/

namespace SmppReplay
namespace Script
namespace Xml

/-! ### Pieces -/

/-- What a writer of markup puts down. -/
inductive Piece where
  | start (n : String) (attributes : List (String × String))
  /-- The tag of an element without content. -/
  | empty (n : String) (attributes : List (String × String))
  | close (n : String)
  /-- A text, escaped. -/
  | text (s : List Char)
  /-- A section whose text stands as it is. -/
  | plain (s : List Char)
  | comment (s : List Char)
  | declaration (s : List Char)

namespace Piece

/-- The characters of a piece. -/
def spell : Piece → List Char
  | .start n attributes => '<' :: (tag n attributes ++ ['>'])
  | .empty n attributes => '<' :: (tag n attributes ++ ['/', '>'])
  | .close n => '<' :: '/' :: (n.toList ++ ['>'])
  | .text s => escape s
  | .plain s => '<' :: (plainWord ++ (s ++ [']', ']']) ++ ['>'])
  | .comment s => '<' :: (['!', '-', '-'] ++ (s ++ ['-', '-']) ++ ['>'])
  | .declaration s => '<' :: (declarationWord ++ (s ++ ['?']) ++ ['>'])

/-- The token of a piece. -/
def token : Piece → Token
  | .start n attributes => .start (tag n attributes)
  | .empty n attributes => .empty (tag n attributes)
  | .close n => .close n.toList
  | .text s => .text (escape s)
  | .plain s => .plain s
  | .comment _ | .declaration _ => .skipped

/-- The piece can be written: it has no name that is none, and does not hold what ends it. -/
def IsWritable : Piece → Prop
  | .start n attributes | .empty n attributes => IsTag n attributes
  | .close n => IsName n
  | .text _ => True
  | .plain s => ¬[']', ']', '>'] <:+: s
  | .comment s => ¬['-', '-'] <:+: s
  | .declaration s => '>' ∉ s

def isText : Piece → Bool
  | .text _ => true
  | _ => false

/-- The piece in front of others; text in front of text is one text, and no text is none. -/
def join : Piece → List Piece → List Piece
  | .text s, .text t :: ps => .text (s ++ t) :: ps
  | .text [], ps => ps
  | p, ps => p :: ps

end Piece

/-- The characters of pieces behind one another. -/
def spell (ps : List Piece) : List Char :=
  ps.flatMap Piece.spell

/-- The pieces with text behind text as one. -/
def joined (ps : List Piece) : List Piece :=
  ps.foldr Piece.join []

@[simp] theorem spell_nil : spell [] = [] :=
  rfl

@[simp] theorem spell_cons (p : Piece) (ps : List Piece) :
    spell (p :: ps) = p.spell ++ spell ps :=
  List.flatMap_cons

@[simp] theorem joined_cons (p : Piece) (ps : List Piece) :
    joined (p :: ps) = p.join (joined ps) :=
  rfl

theorem spell_join (p : Piece) (ps : List Piece) :
    spell (p.join ps) = p.spell ++ spell ps := by
  fun_cases Piece.join p ps with
  | case1 s t ps => simp [Piece.spell]
  | case2 ps => simp [Piece.spell]
  | case3 p ps => simp

/-- Joined texts are spelled as they were. -/
theorem spell_joined (ps : List Piece) :
    spell (joined ps) = spell ps := by
  induction ps with
  | nil =>
      rfl
  | cons p ps ih =>
      rw [joined_cons, spell_join, ih, spell_cons]

theorem isWritable_join
    {p : Piece} {ps : List Piece}
    (hp : p.IsWritable)
    (hps : ∀ q ∈ ps, q.IsWritable) :
    ∀ q ∈ p.join ps, q.IsWritable := by
  fun_cases Piece.join p ps with
  | case1 s t ps =>
      exact List.forall_mem_cons.2 ⟨trivial, (List.forall_mem_cons.1 hps).2⟩
  | case2 ps =>
      exact hps
  | case3 p ps =>
      exact List.forall_mem_cons.2 ⟨hp, hps⟩

theorem isWritable_joined
    {ps : List Piece}
    (h : ∀ p ∈ ps, p.IsWritable) :
    ∀ p ∈ joined ps, p.IsWritable := by
  induction ps with
  | nil =>
      exact h
  | cons p ps ih =>
      obtain ⟨hp, hps⟩ := List.forall_mem_cons.1 h
      exact isWritable_join hp (ih hps)

/-- No text is empty, and none stands behind another. -/
def IsJoined : List Piece → Prop
  | [] => True
  | .text s :: ps => s ≠ [] ∧ (∀ p ∈ ps.head?, p.isText = false) ∧ IsJoined ps
  | _ :: ps => IsJoined ps

theorem isJoined_join
    {ps : List Piece}
    (p : Piece)
    (h : IsJoined ps) :
    IsJoined (p.join ps) := by
  fun_cases Piece.join p ps with
  | case1 s t ps =>
      obtain ⟨ht, hps⟩ := h
      exact ⟨by simp [ht], hps⟩
  | case2 ps =>
      exact h
  | case3 p ps hfront hempty =>
      cases p with
      | text s =>
          refine ⟨fun hs => hempty (by rw [hs]), ?_, h⟩
          intro q hq
          cases q with
          | text t =>
              obtain ⟨qs, rfl⟩ := List.head?_eq_some_iff.1 hq
              exact absurd rfl (hfront s t qs rfl)
          | _ =>
              rfl
      | _ =>
          exact h

theorem isJoined_joined (ps : List Piece) :
    IsJoined (joined ps) := by
  induction ps with
  | nil =>
      trivial
  | cons p ps ih =>
      exact isJoined_join p ih

/-! ### Names -/

/-- Texts open and close nothing, whether they are joined or not. -/
theorem openNames_join (p : Piece) (ps : List Piece) (names : List (List Char)) :
    openNames names ((p.join ps).map Piece.token) =
      openNames names (p.token :: ps.map Piece.token) := by
  fun_cases Piece.join p ps with
  | case1 | case2 | case3 => rfl

theorem openNames_joined (ps : List Piece) (names : List (List Char)) :
    openNames names ((joined ps).map Piece.token) = openNames names (ps.map Piece.token) := by
  induction ps generalizing names with
  | nil =>
      rfl
  | cons p ps ih =>
      rw [joined_cons, openNames_join, List.map_cons, openNames_cons, openNames_cons]
      exact bind_congr ih

/-! ### Readers -/

/-- What one relies on in a reader of markup. -/
structure Reader.Faithful {φ : Type} (r : Reader φ) : Prop where
  /-- A tag is taken apart into its name and its attributes. -/
  tag : ∀ n attributes, IsTag n attributes → r.tag (Xml.tag n attributes) =
    .ok (n, attributes)
  /-- The predefined entities are replaced, and nothing else is changed. -/
  text : ∀ s, r.text (escape s) = .ok s
  /-- The tokens of pieces are delivered in their order, if each end tag names the innermost
  open element, -/
  delivers : ∀ ps, (∀ p ∈ ps, p.IsWritable) → (∀ c ∈ (spell ps).head?, c ≠ '\uFEFF') →
    openNames [] (ps.map Piece.token) ≠ none →
      (r.tokens (spell ps)).row = (joined ps).map Piece.token ∧
        (r.tokens (spell ps)).fault = none
  /-- and if one does not, that is a fault. -/
  refuses : ∀ ps, (∀ p ∈ ps, p.IsWritable) → (∀ c ∈ (spell ps).head?, c ≠ '\uFEFF') →
    openNames [] (ps.map Piece.token) = none → (r.tokens (spell ps)).fault ≠ none
  /-- No end tag is delivered that does not name the innermost open element. -/
  checks : ∀ cs, openNames [] (r.tokens cs).row ≠ none

/-! ### The tokens of pieces -/

/-- The characters give some tokens and no fault, wherever they stand. -/
def Delivers (cs : List Char) (row : List Token) : Prop :=
  ∀ pos, (tokensFrom pos cs).row = row ∧ (tokensFrom pos cs).fault = none

theorem delivers_nil : Delivers [] [] := by
  intro pos
  rw [tokensFrom]
  exact ⟨rfl, rfl⟩

theorem row_cons {φ : Type} (pos : Nat) (t : Token) (ts : Tokens φ) :
    (Tokens.cons pos t ts).row = t :: ts.row :=
  rfl

theorem delivers_markup
    {r rest : List Char} {t : Token} {size : Nat} {row : List Token}
    (h : readMarkup r = .token t size rest)
    (hrest : Delivers rest row) :
    Delivers ('<' :: r) (t :: row) := by
  intro pos
  obtain ⟨hrow, hfault⟩ := hrest (pos + 1 + size)
  have htokens : tokensFrom pos ('<' :: r) =
      .cons pos t (tokensFrom (pos + 1 + size) rest) := by
    rw [tokensFrom, if_pos rfl]
    split <;> simp_all
  rw [htokens, row_cons, hrow]
  exact ⟨rfl, hfault⟩

/-- An escaped text in front of markup is one token. -/
theorem delivers_escape
    {s rest : List Char} {row : List Token}
    (hs : s ≠ [])
    (hmarkup : ∀ c ∈ rest.head?, c = '<')
    (hrest : Delivers rest row) :
    Delivers (escape s ++ rest) (.text (escape s) :: row) := by
  intro pos
  cases hescape : escape s with
  | nil =>
      exact absurd ((escape_eq_nil_iff s).1 hescape) hs
  | cons c r =>
      have hmem : '<' ∉ c :: r := hescape ▸ not_mem_escape (by simp) s
      have hfirst : c ≠ '<' := fun h => hmem (h ▸ List.mem_cons_self)
      have hothers : ∀ d ∈ r, (d != '<') = true := by
        intro d hd
        rw [bne_iff_ne]
        rintro rfl
        exact hmem (List.mem_cons_of_mem c hd)
      have hstop : ∀ d ∈ rest.head?, (d != '<') = false := by
        intro d hd
        simp [hmarkup d hd]
      obtain ⟨htake, hdrop⟩ := takeWhile_append_stop hothers hstop
      obtain ⟨hrow, hfault⟩ := hrest (pos + octetCount (c :: r))
      have htokens : tokensFrom pos (c :: r ++ rest) =
          .cons pos (.text (c :: r)) (tokensFrom (pos + octetCount (c :: r)) rest) := by
        rw [List.cons_append, tokensFrom, if_neg hfirst]
        simp only [htake, hdrop]
      rw [htokens, row_cons, hrow]
      exact ⟨rfl, hfault⟩

/-- Behind a text comes markup. -/
theorem head?_spell
    {ps : List Piece}
    (h : ∀ p ∈ ps.head?, p.isText = false) :
    ∀ c ∈ (spell ps).head?, c = '<' := by
  cases ps with
  | nil =>
      simp
  | cons p ps =>
      have hp := h p rfl
      cases p with
      | text s =>
          cases hp
      | _ =>
          rintro c ⟨⟩
          rfl

/-- **The tokens of pieces are theirs.** -/
theorem delivers_spell
    {ps : List Piece}
    (hps : ∀ p ∈ ps, p.IsWritable)
    (hjoined : IsJoined ps) :
    Delivers (spell ps) (ps.map Piece.token) := by
  induction ps with
  | nil =>
      exact delivers_nil
  | cons p ps ih =>
      obtain ⟨hp, hothers⟩ := List.forall_mem_cons.1 hps
      rw [spell_cons, List.map_cons]
      cases p with
      | text s =>
          obtain ⟨hs, hmarkup, hjoined⟩ := hjoined
          exact delivers_escape hs (head?_spell hmarkup) (ih hothers hjoined)
      | start n attributes =>
          have hmarkup := readMarkup_start hp (spell ps)
          simpa [Piece.spell, Piece.token] using delivers_markup hmarkup (ih hothers hjoined)
      | empty n attributes =>
          have hmarkup := readMarkup_empty hp (spell ps)
          simpa [Piece.spell, Piece.token] using delivers_markup hmarkup (ih hothers hjoined)
      | close n =>
          have hmarkup := readMarkup_close hp (spell ps)
          simpa [Piece.spell, Piece.token] using delivers_markup hmarkup (ih hothers hjoined)
      | plain s =>
          obtain ⟨size, hmarkup⟩ := readMarkup_plain hp (spell ps)
          simpa [Piece.spell, Piece.token] using delivers_markup hmarkup (ih hothers hjoined)
      | comment s =>
          obtain ⟨size, hmarkup⟩ := readMarkup_comment hp (spell ps)
          simpa [Piece.spell, Piece.token] using delivers_markup hmarkup (ih hothers hjoined)
      | declaration s =>
          obtain ⟨size, hmarkup⟩ := readMarkup_declaration hp (spell ps)
          simpa [Piece.spell, Piece.token] using delivers_markup hmarkup (ih hothers hjoined)

/-! ### End tags -/

theorem checkEnds_of_some
    {names names' : List (List Char)} {t : Token}
    (h : t.openNames names = some names')
    (fault : Option (Nat × MarkupFault)) (pos : Nat) (ts : List (Nat × Token)) :
    checkEnds fault names ((pos, t) :: ts) = .cons pos t (checkEnds fault names' ts) := by
  cases t with
  | close content =>
      cases names with
      | nil =>
          cases h
      | cons name outer =>
          simp only [Token.openNames] at h
          split at h
          · cases h
            exact if_pos ‹_›
          · cases h
  | start | empty | text | plain | skipped =>
      cases h
      rw [checkEnds]
      all_goals simp

theorem checkEnds_of_none
    {names : List (List Char)} {t : Token}
    (h : t.openNames names = none)
    (fault : Option (Nat × MarkupFault)) (pos : Nat) (ts : List (Nat × Token)) :
    ∃ f, checkEnds fault names ((pos, t) :: ts) = ⟨[], some f⟩ := by
  cases t with
  | close content =>
      cases names with
      | nil =>
          exact ⟨_, rfl⟩
      | cons name outer =>
          simp only [Token.openNames] at h
          split at h
          · cases h
          · exact ⟨_, if_neg ‹_›⟩
  | start | empty | text | plain | skipped =>
      cases h

/-- Where each end tag names the innermost open element, the tokens stay as they are. -/
theorem checkEnds_eq
    {names : List (List Char)} {ts : List (Nat × Token)}
    (h : openNames names (ts.map Prod.snd) ≠ none)
    (fault : Option (Nat × MarkupFault)) :
    checkEnds fault names ts = ⟨ts, fault⟩ := by
  induction ts generalizing names with
  | nil =>
      rfl
  | cons t ts ih =>
      rw [List.map_cons, openNames_cons] at h
      cases hnames : t.2.openNames names with
      | none =>
          rw [hnames] at h
          exact absurd rfl h
      | some names' =>
          rw [hnames] at h
          rw [checkEnds_of_some hnames, ih h]
          rfl

/-- Where one does not, there is a fault, -/
theorem fault_checkEnds
    {names : List (List Char)} {ts : List (Nat × Token)}
    (h : openNames names (ts.map Prod.snd) = none)
    (fault : Option (Nat × MarkupFault)) :
    (checkEnds fault names ts).fault ≠ none := by
  induction ts generalizing names with
  | nil =>
      cases h
  | cons t ts ih =>
      rw [List.map_cons, openNames_cons] at h
      cases hnames : t.2.openNames names with
      | none =>
          obtain ⟨f, hf⟩ := checkEnds_of_none hnames fault t.1 ts
          rw [hf]
          simp
      | some names' =>
          rw [hnames] at h
          rw [checkEnds_of_some hnames]
          exact ih h

/-- and the tokens end in front of it. -/
theorem openNames_checkEnds
    (fault : Option (Nat × MarkupFault)) (names : List (List Char))
    (ts : List (Nat × Token)) :
    openNames names (checkEnds fault names ts).row ≠ none := by
  induction ts generalizing names with
  | nil =>
      exact Option.some_ne_none names
  | cons t ts ih =>
      cases hnames : t.2.openNames names with
      | none =>
          obtain ⟨f, hf⟩ := checkEnds_of_none hnames fault t.1 ts
          rw [hf]
          exact Option.some_ne_none names
      | some names' =>
          rw [checkEnds_of_some hnames, row_cons, openNames_cons, hnames]
          exact ih names'

theorem withoutMark_eq
    {cs : List Char}
    (h : ∀ c ∈ cs.head?, c ≠ '\uFEFF') :
    withoutMark cs = cs := by
  unfold withoutMark
  split
  · exact absurd rfl (h _ rfl)
  · rfl

/-- **The reader for scripts is one to rely on.** -/
theorem standard_faithful : Reader.standard.Faithful where
  tag := fun n attributes h => readTag_tag h
  text := unescape_escape
  delivers := by
    intro ps hps hmark hnames
    obtain ⟨hrow, hfault⟩ := delivers_spell (isWritable_joined hps) (isJoined_joined ps) 0
    rw [spell_joined] at hrow hfault
    rw [← openNames_joined, ← hrow] at hnames
    change (checkEnds _ [] _).row = _ ∧ (checkEnds _ [] _).fault = none
    rw [withoutMark_eq hmark, checkEnds_eq hnames]
    exact ⟨hrow, hfault⟩
  refuses := by
    intro ps hps hmark hnames
    obtain ⟨hrow, -⟩ := delivers_spell (isWritable_joined hps) (isJoined_joined ps) 0
    rw [spell_joined] at hrow
    rw [← openNames_joined, ← hrow] at hnames
    change (checkEnds _ [] _).fault ≠ none
    rw [withoutMark_eq hmark]
    exact fault_checkEnds hnames _
  checks := by
    intro cs
    exact openNames_checkEnds _ _ _

end Xml
end Script
end SmppReplay
