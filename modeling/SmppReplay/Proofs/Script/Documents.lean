import SmppReplay.Proofs.Script.Delivery

/-!
# Trees and their markup

**Input.**  A tree of elements, and characters that spell it.

**Question.** Is the tree read back from every one of its spellings?  A writer can cut a
text into pieces, escape each piece or put it into a plain section, write an element without
content in one tag or in two, put comments between any two of these, and a declaration in
front of the whole.

**Assumptions.**  The markup is read by any reader that can be relied on (`Reader.Faithful`).

**Method.** `Content` has one constructor for each of the writer's choices, and gives the
pieces that are put down.  What a piece does to the open elements is `Builder.take`; the
tokens of a row of pieces do the same, because it makes no difference whether texts come in
one piece or in many (`steps_eq_foldlM`).  By induction on the spelling, spelled content
puts its elements, one after the other, into the innermost open element
(`foldlM_take_content`).

**Result.**
* `Reader.root_of_document`: what is read of a document with any number of roots;
* `treeLaws`: trees survive their markup, and what is not the markup of one tree is not read.
-/

namespace SmppReplay
namespace Script
namespace Xml

/-! ### Trees and their spellings -/

/-- All names in the tree can stand in tags. -/
inductive WellNamed : Element → Prop
  | mk {n : String} {attributes : List (String × String)} {text : String}
      {children : List Element} :
      IsTag n attributes →
      (∀ c ∈ children, WellNamed c) →
      WellNamed (.mk n attributes text children)

/-- The pieces spell a text and elements that stand behind one another. -/
inductive Content : List Char → List Element → List Piece → Prop
  | nil :
      Content [] [] []
  /-- A piece of the text that is escaped. -/
  | escaped {t : List Char} {es : List Element} {ps : List Piece} (s : List Char) :
      Content t es ps →
      Content (s ++ t) es (.text s :: ps)
  /-- A piece of the text that stands as it is. -/
  | plain {t : List Char} {es : List Element} {ps : List Piece} (s : List Char) :
      ¬[']', ']', '>'] <:+: s →
      Content t es ps →
      Content (s ++ t) es (.plain s :: ps)
  | comment {t : List Char} {es : List Element} {ps : List Piece} (s : List Char) :
      ¬['-', '-'] <:+: s →
      Content t es ps →
      Content t es (.comment s :: ps)
  /-- An element without content in one tag. -/
  | empty {t : List Char} {es : List Element} {ps : List Piece}
      (n : String) (attributes : List (String × String)) :
      Content t es ps →
      Content t (.mk n attributes "" [] :: es) (.empty n attributes :: ps)
  /-- An element between its tags. -/
  | element {t t' : List Char} {es es' : List Element} {ps ps' : List Piece}
      (n : String) (attributes : List (String × String)) :
      Content t' es' ps' →
      Content t es ps →
      Content t (.mk n attributes (String.ofList t') es' :: es)
        (.start n attributes :: (ps' ++ .close n :: ps))

/-- The characters spell a document with some roots: a declaration or none, then the roots,
and outside of them only comments and white space. -/
inductive Document : List Element → List Char → Prop
  | bare {t : List Char} {es : List Element} {ps : List Piece} :
      (∀ c ∈ t, isSpace c = true) →
      Content t es ps →
      Document es (spell ps)
  | declared {t : List Char} {es : List Element} {ps : List Piece} (s : List Char) :
      '>' ∉ s →
      (∀ c ∈ t, isSpace c = true) →
      Content t es ps →
      Document es (spell (.declaration s :: ps))

/-- The only one of some roots. -/
def onlyRoot {φ : Type} : List Element → Except (Error φ) Element
  | [] => .error (.structural .noRoot)
  | [e] => .ok e
  | _ :: e :: _ => .error (.structural (.secondRoot e.name))

section Reading

variable {φ : Type}

/-! ### Elements find their places -/

namespace Builder

@[simp] theorem addText_nil (b : Builder) :
    b.addText [] = b := by
  obtain ⟨_ | ⟨⟨n, attributes, text, children⟩, outer⟩, root⟩ := b
  · rfl
  · simp [addText, Element.withText, Element.name, Element.attributes, Element.text,
      Element.children]

theorem addText_append (b : Builder) (s t : List Char) :
    b.addText (s ++ t) = (b.addText s).addText t := by
  obtain ⟨_ | ⟨⟨n, attributes, text, children⟩, outer⟩, root⟩ := b
  · rfl
  · simp [addText, Element.withText, Element.name, Element.attributes, Element.text,
      Element.children, String.append_assoc]

/-- A text and an element that an element takes do not depend on each other. -/
theorem attach_addText (s : List Char) (b : Builder) (e : Element) :
    (b.addText s).attach (φ := φ) e = (fun b' => b'.addText s) <$> b.attach e := by
  obtain ⟨_ | ⟨⟨n, attributes, text, children⟩, outer⟩, _ | root⟩ := b <;> rfl

/-- Elements in an open element become its children. -/
theorem foldlM_attach_push
    (b : Builder) (n : String) (attributes : List (String × String)) (text : String)
    (children es : List Element) :
    es.foldlM (attach (φ := φ)) (b.push (.mk n attributes text children)) =
      .ok (b.push (.mk n attributes text (children ++ es))) := by
  induction es generalizing children with
  | nil =>
      rw [List.append_nil]
      rfl
  | cons e es ih =>
      rw [List.foldlM_cons, List.append_cons]
      exact ih (children ++ [e])

/-- What a piece does to the open elements. -/
def take (b : Builder) : Piece → Except (Error φ) Builder
  | .start n attributes => .ok (b.push (.mk n attributes "" []))
  | .empty n attributes => b.attach (.mk n attributes "" [])
  | .close _ => b.close
  | .text s | .plain s => .ok (b.addText s)
  | .comment _ | .declaration _ => .ok b

theorem foldlM_take_join (p : Piece) (ps : List Piece) (b : Builder) :
    (p.join ps).foldlM (take (φ := φ)) b = (p :: ps).foldlM take b := by
  fun_cases Piece.join p ps with
  | case1 s t ps =>
      simp only [List.foldlM_cons, take, addText_append]
      rfl
  | case2 ps =>
      simp only [List.foldlM_cons, take, addText_nil]
      rfl
  | case3 p ps =>
      rfl

/-- It makes no difference whether a text comes in one piece or in many. -/
theorem foldlM_take_joined (ps : List Piece) (b : Builder) :
    (joined ps).foldlM (take (φ := φ)) b = ps.foldlM take b := by
  induction ps generalizing b with
  | nil =>
      rfl
  | cons p ps ih =>
      rw [joined_cons, foldlM_take_join, List.foldlM_cons, List.foldlM_cons]
      exact bind_congr ih

theorem finish_roots (es : List Element) :
    (es.foldlM (attach (φ := φ)) ⟨[], none⟩ >>= finish) = onlyRoot es := by
  match es with
  | [] => rfl
  | [_] => rfl
  | _ :: _ :: _ => rfl

end Builder

/-- **Spelled content finds its place**: its text and its elements are added to the
innermost open element. -/
theorem foldlM_take_content
    {t : List Char} {es : List Element} {ps : List Piece}
    (h : Content t es ps)
    (b : Builder) :
    ps.foldlM (Builder.take (φ := φ)) b = es.foldlM Builder.attach (b.addText t) := by
  induction h generalizing b with
  | nil =>
      rw [Builder.addText_nil]
      rfl
  | escaped s _ ih | plain s _ _ ih =>
      rw [Builder.addText_append]
      exact ih (b.addText s)
  | comment s _ _ ih =>
      exact ih b
  | @empty t es ps n attributes _ ih =>
      rw [List.foldlM_cons, List.foldlM_cons, Builder.attach_addText, bind_map_left]
      exact bind_congr ih
  | @element t t' es es' ps ps' n attributes _ _ ih' ih =>
      -- The element is opened, its content is put into it, and it finds its place.
      have hcontent : ps'.foldlM (Builder.take (φ := φ)) (b.push (.mk n attributes "" [])) =
          .ok (b.push (.mk n attributes (String.ofList t') es')) := by
        have htext : (b.push (.mk n attributes "" [])).addText t' =
            b.push (.mk n attributes (String.ofList t') []) := by
          simp [Builder.push, Builder.addText, Element.withText, Element.name,
            Element.attributes, Element.text, Element.children]
        rw [ih', htext, Builder.foldlM_attach_push]
        rfl
      rw [List.foldlM_cons, List.foldlM_cons, Builder.attach_addText, bind_map_left]
      change (ps' ++ .close n :: ps).foldlM Builder.take (b.push (.mk n attributes "" [])) = _
      rw [List.foldlM_append, hcontent]
      exact bind_congr ih

theorem isWritable_content
    {t : List Char} {es : List Element} {ps : List Piece}
    (h : Content t es ps)
    (hnames : ∀ e ∈ es, WellNamed e) :
    ∀ p ∈ ps, p.IsWritable := by
  induction h with
  | nil =>
      simp
  | escaped s _ ih =>
      exact List.forall_mem_cons.2 ⟨trivial, ih hnames⟩
  | plain s hs _ ih | comment s hs _ ih =>
      exact List.forall_mem_cons.2 ⟨hs, ih hnames⟩
  | empty n attributes _ ih =>
      obtain ⟨⟨htag, -⟩, hothers⟩ := List.forall_mem_cons.1 hnames
      exact List.forall_mem_cons.2 ⟨htag, ih hothers⟩
  | element n attributes _ _ ih' ih =>
      obtain ⟨⟨htag, hchildren⟩, hothers⟩ := List.forall_mem_cons.1 hnames
      refine List.forall_mem_cons.2 ⟨htag, List.forall_mem_append.2 ⟨ih' hchildren, ?_⟩⟩
      exact List.forall_mem_cons.2 ⟨htag.name, ih hothers⟩

/-- The name in a tag is the element's. -/
theorem tagName_tag
    {n : String} {attributes : List (String × String)}
    (h : IsTag n attributes) :
    tagName (tag n attributes) = n.toList := by
  have hname : ∀ c ∈ n.toList, (!isSpace c) = true := by
    intro c hc
    simp [h.name.isSpace hc]
  have hstop : ∀ c ∈ (attributes.flatMap attributeText).head?, (!isSpace c) = false := by
    intro c hc
    rw [head?_attributes attributes c hc]
    decide
  exact (takeWhile_append_stop hname hstop).1

/-- The tags of spelled content stand in pairs. -/
theorem openNames_content
    {t : List Char} {es : List Element} {ps : List Piece}
    (h : Content t es ps)
    (hnames : ∀ e ∈ es, WellNamed e)
    (names : List (List Char)) :
    openNames names (ps.map Piece.token) = some names := by
  induction h generalizing names with
  | nil =>
      rfl
  | escaped s _ ih | plain s _ _ ih | comment s _ _ ih =>
      exact ih hnames names
  | empty n attributes _ ih =>
      exact ih (List.forall_mem_cons.1 hnames).2 names
  | @element t t' es es' ps ps' n attributes _ _ ih' ih =>
      obtain ⟨⟨htag, hchildren⟩, hothers⟩ := List.forall_mem_cons.1 hnames
      have hopen := ih' hchildren (n.toList :: names)
      have hclose : (Token.close n.toList).openNames (n.toList :: names) = some names :=
        if_pos (closingName_name htag.name)
      rw [List.map_cons, List.map_append, List.map_cons, openNames_cons]
      change openNames (tagName (tag n attributes) :: names) _ = _
      rw [tagName_tag htag, openNames_append, hopen]
      change openNames (n.toList :: names) (.close n.toList :: _) = _
      rw [openNames_cons, hclose]
      exact ih hothers names

/-- Content with white space for its text opens with white space or with a tag. -/
theorem head?_content
    {t : List Char} {es : List Element} {ps : List Piece}
    (h : Content t es ps)
    (ht : ∀ c ∈ t, isSpace c = true) :
    ∀ c ∈ (spell ps).head?, c ≠ '\uFEFF' := by
  induction h with
  | nil =>
      simp
  | @escaped t es ps s _ ih =>
      cases s with
      | nil =>
          exact ih ht
      | cons d s =>
          have hd : isSpace d = true := ht d (by simp)
          have hspace : d = ' ' ∨ d = '\t' ∨ d = '\r' ∨ d = '\n' := by
            simpa [isSpace, or_assoc] using hd
          obtain rfl | rfl | rfl | rfl := hspace <;> simp [Piece.spell, escapeChar]
  | plain | comment | empty | element =>
      rintro c ⟨⟩
      decide

/-! ### Reading -/

namespace Reader.Faithful

variable {r : Reader φ} {ps : List Piece}

/-- The token of a piece does what the piece is to do. -/
theorem step_token
    (h : r.Faithful)
    {p : Piece}
    (hp : p.IsWritable)
    (b : Builder) (pos : Nat) :
    r.step b pos p.token = b.take p := by
  cases p with
  | start n attributes | empty n attributes =>
      simp only [Piece.token, step, element, h.tag n attributes hp]
      rfl
  | text s =>
      cases hopened : b.opened with
      | nil =>
          simp [Piece.token, step, Builder.take, Builder.addText, hopened]
      | cons top outer =>
          simp [Piece.token, step, Builder.take, hopened, h.text s]
  | close | plain | comment | declaration =>
      rfl

theorem steps_eq_foldlM
    (h : r.Faithful)
    (hps : ∀ p ∈ ps, p.IsWritable)
    {ts : List (Nat × Token)}
    (hrow : ts.map Prod.snd = ps.map Piece.token)
    (b : Builder) :
    r.steps b ts = ps.foldlM Builder.take b := by
  induction ps generalizing ts b with
  | nil =>
      rw [List.map_nil, List.map_eq_nil_iff] at hrow
      rw [hrow]
      rfl
  | cons p ps ih =>
      obtain ⟨hp, hothers⟩ := List.forall_mem_cons.1 hps
      obtain ⟨⟨pos, t⟩, ts, rfl, rfl, hrest⟩ := List.map_eq_cons_iff.1 hrow
      rw [steps, List.foldlM_cons, List.foldlM_cons, h.step_token hp]
      exact bind_congr fun b' => ih hothers hrest b'

/-- The tokens of a row of pieces do what the pieces are to do, one after the other. -/
theorem steps_tokens
    (h : r.Faithful)
    (hps : ∀ p ∈ ps, p.IsWritable)
    (hmark : ∀ c ∈ (spell ps).head?, c ≠ '\uFEFF')
    (hnames : openNames [] (ps.map Piece.token) ≠ none)
    (b : Builder) :
    r.steps b (r.tokens (spell ps)).tokens = ps.foldlM Builder.take b := by
  obtain ⟨hrow, -⟩ := h.delivers ps hps hmark hnames
  rw [h.steps_eq_foldlM (isWritable_joined hps) hrow, Builder.foldlM_take_joined]

/-- What is read of a row of pieces. -/
theorem root_spell
    (h : r.Faithful)
    (hps : ∀ p ∈ ps, p.IsWritable)
    (hmark : ∀ c ∈ (spell ps).head?, c ≠ '\uFEFF')
    (hnames : openNames [] (ps.map Piece.token) ≠ none) :
    r.root (spell ps) = ps.foldlM Builder.take ⟨[], none⟩ >>= Builder.finish := by
  obtain ⟨-, hfault⟩ := h.delivers ps hps hmark hnames
  simp only [root, hfault, h.steps_tokens hps hmark hnames]

/-- **A document has one root, or it is not read.** -/
theorem root_of_document
    (h : r.Faithful)
    {es : List Element} {cs : List Char}
    (hnames : ∀ e ∈ es, WellNamed e)
    (hdocument : Document es cs) :
    r.root cs = onlyRoot es := by
  cases hdocument with
  | @bare t _ ps ht hcontent =>
      have hopen : openNames [] (ps.map Piece.token) ≠ none := by
        simp [openNames_content hcontent hnames]
      have hps := isWritable_content hcontent hnames
      rw [h.root_spell hps (head?_content hcontent ht) hopen, foldlM_take_content hcontent,
        ← Builder.finish_roots]
      rfl
  | @declared t _ ps s hs ht hcontent =>
      have hopen : openNames [] ((Piece.declaration s :: ps).map Piece.token) ≠ none := by
        have hcontent' := openNames_content hcontent hnames []
        rw [List.map_cons]
        change openNames [] (ps.map Piece.token) ≠ none
        simp [hcontent']
      have hps : ∀ p ∈ Piece.declaration s :: ps, p.IsWritable :=
        List.forall_mem_cons.2 ⟨hs, isWritable_content hcontent hnames⟩
      have hmark : ∀ c ∈ (spell (.declaration s :: ps)).head?, c ≠ '\uFEFF' := by
        rintro c ⟨⟩
        decide
      rw [h.root_spell hps hmark hopen, List.foldlM_cons, ← Builder.finish_roots]
      change (ps.foldlM Builder.take ⟨[], none⟩ >>= Builder.finish) = _
      rw [foldlM_take_content hcontent]
      rfl

/-- Of pieces that are read each end tag names the innermost open element. -/
theorem openNames_of_root_spell
    (h : r.Faithful)
    (hps : ∀ p ∈ ps, p.IsWritable)
    (hmark : ∀ c ∈ (spell ps).head?, c ≠ '\uFEFF')
    {e : Element}
    (hroot : r.root (spell ps) = .ok e) :
    openNames [] (ps.map Piece.token) ≠ none :=
  fun hnames => h.refuses ps hps hmark hnames (exists_of_root hroot).1

theorem not_unclosed_of_root_spell
    (h : r.Faithful)
    (hps : ∀ p ∈ ps, p.IsWritable)
    (hmark : ∀ c ∈ (spell ps).head?, c ≠ '\uFEFF')
    {e : Element}
    (hroot : r.root (spell ps) = .ok e) :
    ¬Unclosed (ps.map Piece.token) := by
  have hnames := h.openNames_of_root_spell hps hmark hroot
  obtain ⟨hrow, -⟩ := h.delivers ps hps hmark hnames
  obtain ⟨names, hopen⟩ := Option.ne_none_iff_exists'.1 hnames
  have hopen' : openNames [] (r.tokens (spell ps)).row = some names := by
    rw [hrow, openNames_joined, hopen]
  obtain rfl := openNames_eq_nil_of_root hroot hopen'
  exact not_unclosed_of_openNames hopen

theorem not_twoRoots_of_root_spell
    (h : r.Faithful)
    (hps : ∀ p ∈ ps, p.IsWritable)
    (hmark : ∀ c ∈ (spell ps).head?, c ≠ '\uFEFF')
    {e : Element}
    (hroot : r.root (spell ps) = .ok e) :
    ¬TwoRoots (ps.map Piece.token) := by
  have hnames := h.openNames_of_root_spell hps hmark hroot
  obtain ⟨-, b, hsteps, hempty⟩ := exists_of_root hroot
  have hrow : (ps.map fun p => (0, p.token)).map Prod.snd = ps.map Piece.token := by
    simp [Function.comp_def]
  rw [h.steps_tokens hps hmark hnames, ← h.steps_eq_foldlM hps hrow] at hsteps
  rw [← hrow]
  exact not_twoRoots_of_steps hsteps hempty

end Reader.Faithful

end Reading

/-! ### Writing -/

mutual

/-- A spelling of an element: its text first, then its children. -/
def print : Element → List Piece
  | .mk n attributes text children =>
      .start n attributes :: ((.text text.toList :: printAll children) ++ [.close n])

/-- A spelling of elements behind one another. -/
def printAll : List Element → List Piece
  | [] => []
  | e :: es => print e ++ printAll es

end

mutual

theorem content_print
    {t : List Char} {es : List Element} {ps : List Piece}
    (e : Element)
    (h : Content t es ps) :
    Content t (e :: es) (print e ++ ps) := by
  match e with
  | .mk n attributes text children =>
      have hinner := Content.escaped text.toList (content_printAll children .nil)
      have helement := Content.element n attributes hinner h
      simpa [print] using helement

theorem content_printAll
    {t : List Char} {es : List Element} {ps : List Piece}
    (es' : List Element)
    (h : Content t es ps) :
    Content t (es' ++ es) (printAll es' ++ ps) := by
  match es' with
  | [] => exact h
  | e :: es' => simpa [printAll] using content_print e (content_printAll es' h)

end

/-- Every element has a spelling. -/
theorem document_print (e : Element) :
    Document [e] (spell (print e)) := by
  have hcontent := content_print e .nil
  rw [List.append_nil] at hcontent
  exact .bare (by simp) hcontent

/-- What a reader makes of the markup of trees. -/
structure TreeLaws {φ : Type} (r : Reader φ) : Prop where
  /-- Every tree whose names can stand in tags is read back from each of its spellings. -/
  document : ∀ e cs, WellNamed e → Document [e] cs → r.root cs = .ok e
  /-- There is such a spelling of every tree. -/
  spelling : ∀ e, Document [e] (spell (print e))
  /-- Of no roots, or of more than one, nothing is read. -/
  roots : ∀ es cs, (∀ e ∈ es, WellNamed e) → Document es cs → r.root cs = onlyRoot es
  /-- Nothing is read of pieces of markup in which an element is left open, or which have
  two roots. -/
  unclosed : ∀ ps, (∀ p ∈ ps, p.IsWritable) → (∀ c ∈ (spell ps).head?, c ≠ '\uFEFF') →
    Unclosed (ps.map Piece.token) → ∀ e, r.root (spell ps) ≠ .ok e
  surplus : ∀ ps, (∀ p ∈ ps, p.IsWritable) → (∀ c ∈ (spell ps).head?, c ≠ '\uFEFF') →
    TwoRoots (ps.map Piece.token) → ∀ e, r.root (spell ps) ≠ .ok e
  /-- Nor is any document read whose tokens leave an element open, or have two roots. -/
  closed : ∀ cs, Unclosed (r.tokens cs).row → ∀ e, r.root cs ≠ .ok e
  single : ∀ cs, TwoRoots (r.tokens cs).row → ∀ e, r.root cs ≠ .ok e

/-- **Trees survive their markup, and markup that is not of one tree is not read.** -/
theorem treeLaws
    {φ : Type} {r : Reader φ}
    (h : r.Faithful) :
    TreeLaws r where
  document := by
    intro e cs hnames hdocument
    refine h.root_of_document ?_ hdocument
    simpa using hnames
  spelling := document_print
  roots := fun es cs hnames hdocument => h.root_of_document hnames hdocument
  unclosed := fun ps hps hmark hopen e he => h.not_unclosed_of_root_spell hps hmark he hopen
  surplus := fun ps hps hmark htwo e he => h.not_twoRoots_of_root_spell hps hmark he htwo
  closed := fun cs hopen e he => Reader.not_unclosed_of_root he (h.checks cs) hopen
  single := fun cs htwo e he => Reader.not_twoRoots_of_root he htwo

/-! ### A sample -/

/-- A tag of a letter without attributes. -/
theorem isTag_of_letter
    {n : String} {c : Char}
    (hn : n.toList = [c])
    (hc : c.isAlpha = true) :
    IsTag n [] :=
  ⟨isName_of_letter hn hc, by simp, .nil⟩

/-- A text and a child. -/
def sampleTree : Element :=
  .mk "a" [("k", "1")] "x<<b/>" [.mk "b" [] "" []]

/-- The text comes in two pieces, with a comment behind it. -/
def sample : List Piece :=
  [.start "a" [("k", "1")], .text ['x', '<'], .plain ['<', 'b', '/', '>'],
    .comment [' ', '-', ' '], .start "b" [], .close "b", .close "a"]

theorem wellNamed_sampleTree :
    WellNamed sampleTree := by
  have ha : IsTag "a" [] := isTag_of_letter rfl (by decide)
  have hb : IsTag "b" [] := isTag_of_letter rfl (by decide)
  have hk : IsTag "a" [("k", "1")] :=
    ⟨ha.name, List.forall_mem_singleton.2 (isName_of_letter rfl (by decide)),
      List.nodup_singleton "k"⟩
  exact .mk hk (List.forall_mem_singleton.2 (.mk hb (by simp)))

theorem document_sample :
    Document [sampleTree] (spell sample) := by
  have hinner : Content ['x', '<', '<', 'b', '/', '>'] [.mk "b" [] "" []]
      [.text ['x', '<'], .plain ['<', 'b', '/', '>'], .comment [' ', '-', ' '],
        .start "b" [], .close "b"] :=
    .escaped ['x', '<'] (.plain ['<', 'b', '/', '>'] (by decide)
      (.comment [' ', '-', ' '] (by decide) (.element "b" [] .nil .nil)))
  exact .bare (by simp) (.element "a" [("k", "1")] hinner .nil)

/-- The only end tag names the other element. -/
theorem unclosed_of_one_end_tag :
    Unclosed [.start (tag "a" []), .start (tag "b" []), .close "b".toList] := by
  refine ⟨[], _, _, rfl, ?_⟩
  rintro ⟨inner, content, rest, hsplit, -, hname⟩
  have hmem : Token.close content ∈ [Token.start (tag "b" []), .close "b".toList] := by
    rw [hsplit]
    simp
  simp only [List.mem_cons, reduceCtorEq, Token.close.injEq, List.not_mem_nil, or_false,
    false_or] at hmem
  rw [hmem] at hname
  revert hname
  decide

/-- The reader for scripts reads the sample back, and reads nothing where a tag is missing or
one is too many. -/
theorem treeLaws_sample :
    Reader.standard.Faithful ∧
      Element.ofXml "<a k=\"1\">x&lt;<![CDATA[<b/>]]><!-- - --><b></b></a>" =
        .ok (.mk "a" [("k", "1")] "x<<b/>" [.mk "b" [] "" []]) ∧
      (∀ e, Element.ofXml "<a><b></b>" ≠ .ok e) ∧
      (∀ e, Element.ofXml "<a/><b/>" ≠ .ok e) := by
  have hlaws := treeLaws standard_faithful
  have ha : IsTag "a" [] := isTag_of_letter rfl (by decide)
  have hb : IsTag "b" [] := isTag_of_letter rfl (by decide)
  refine ⟨standard_faithful, ?_, fun e => ?_, fun e => ?_⟩
  · have hspelled : "<a k=\"1\">x&lt;<![CDATA[<b/>]]><!-- - --><b></b></a>".toList =
        spell sample := by
      decide +kernel
    rw [Element.ofXml, hspelled]
    exact hlaws.document _ _ wellNamed_sampleTree document_sample
  · have hspelled : "<a><b></b>".toList =
        spell [.start "a" [], .start "b" [], .close "b"] := by
      decide +kernel
    rw [Element.ofXml, hspelled]
    refine hlaws.unclosed _ ?_ (fun c hc => ?_) ?_ e
    · simp [Piece.IsWritable, ha, hb, hb.name]
    · cases hc
      decide
    · exact unclosed_of_one_end_tag
  · have hspelled : "<a/><b/>".toList = spell [.empty "a" [], .empty "b" []] := by
      decide +kernel
    rw [Element.ofXml, hspelled]
    refine hlaws.surplus _ ?_ (fun c hc => ?_) ?_ e
    · simp [Piece.IsWritable, ha, hb]
    · cases hc
      decide
    · exact ⟨[], _, [], _, [], rfl, rfl, rfl, rfl, rfl⟩

end Xml
end Script
end SmppReplay
