import SmppReplay.Script.Xml.Document
import Mathlib.Tactic

/-!
# Spellings of markup

**Question.** Which characters does a writer put down for a text, a tag, a comment, a plain
section and a declaration, and does the reader take each of them for what was meant?

**Method.** Each piece has one spelling, and the reader's part for it is followed over that
spelling with any characters behind it.  An escaped text holds none of the characters at
which the reader stops (`not_mem_escape`), and neither does a name (`IsName.ne`).

Main facts:
* `unescape_escape`: an escaped text is read back;
* `readTag_tag`: so are the name and the attributes of a tag;
* `readMarkup_start`, `readMarkup_empty`, `readMarkup_close`, `readMarkup_comment`,
  `readMarkup_plain`, `readMarkup_declaration`: so is each piece of markup behind its `<`.
-/

namespace SmppReplay
namespace Script
namespace Xml

/-! ### Characters -/

/-- A character in a text or in the value of an attribute. -/
def escapeChar (c : Char) : List Char :=
  if c = '&' then ['&', 'a', 'm', 'p', ';']
  else if c = '<' then ['&', 'l', 't', ';']
  else if c = '>' then ['&', 'g', 't', ';']
  else if c = '"' then ['&', 'q', 'u', 'o', 't', ';']
  else [c]

/-- Characters in a text or in the value of an attribute. -/
def escape (s : List Char) : List Char :=
  s.flatMap escapeChar

@[simp] theorem escape_nil : escape [] = [] :=
  rfl

@[simp] theorem escape_cons (c : Char) (s : List Char) :
    escape (c :: s) = escapeChar c ++ escape s :=
  List.flatMap_cons

@[simp] theorem escape_append (s t : List Char) :
    escape (s ++ t) = escape s ++ escape t :=
  List.flatMap_append

theorem escapeChar_of_ne
    {c : Char}
    (hamp : c ≠ '&')
    (hlt : c ≠ '<')
    (hgt : c ≠ '>')
    (hquot : c ≠ '"') :
    escapeChar c = [c] := by
  simp [escapeChar, hamp, hlt, hgt, hquot]

/-- An escaped text has no delimiter of markup. -/
theorem not_mem_escape
    {d : Char}
    (hd : d ∈ ['<', '>', '"'])
    (s : List Char) :
    d ∉ escape s := by
  intro hmem
  obtain ⟨c, -, hc⟩ := List.mem_flatMap.1 hmem
  have hwords : d ∉ ['&', 'a', 'm', 'p', ';'] ∧ d ∉ ['&', 'l', 't', ';'] ∧
    d ∉ ['&', 'g', 't', ';'] ∧
      d ∉ ['&', 'q', 'u', 'o', 't', ';'] := by
    simp only [List.mem_cons, List.not_mem_nil, or_false] at hd
    obtain rfl | rfl | rfl := hd <;> decide
  unfold escapeChar at hc
  split at hc
  · exact hwords.1 hc
  · split at hc
    · exact hwords.2.1 hc
    · split at hc
      · exact hwords.2.2.1 hc
      · split at hc
        · exact hwords.2.2.2 hc
        · obtain rfl := List.mem_singleton.1 hc
          simp_all

theorem escape_eq_nil_iff (s : List Char) :
    escape s = [] ↔ s = [] := by
  cases s with
  | nil =>
      simp
  | cons c s =>
      have hne : escapeChar c ≠ [] := by
        unfold escapeChar
        split_ifs <;> simp
      simp [hne]

/-- **An escaped text is read back.** -/
theorem unescape_escape (s : List Char) :
    unescape (escape s) = .ok s := by
  suffices h : ∀ size pos, unescapeFrom size pos none (escape s) = .ok s from h _ 0
  induction s with
  | nil =>
      intros
      rfl
  | cons c s ih =>
      intro size pos
      by_cases hnamed : c = '&' ∨ c = '<' ∨ c = '>' ∨ c = '"'
      · obtain rfl | rfl | rfl | rfl := hnamed <;>
          simp [escapeChar, unescapeFrom, entity, namedCharacter?, ih, bind, Except.bind,
            pure, Except.pure]
      · push Not at hnamed
        obtain ⟨hamp, hlt, hgt, hquot⟩ := hnamed
        rw [escape_cons, escapeChar_of_ne hamp hlt hgt hquot, List.singleton_append,
          unescapeFrom, if_neg hamp, ih]
        rfl

/-! ### Names -/

/-- A name: ASCII letters and digits, a letter first. -/
def IsName (n : String) : Prop :=
  (∀ c ∈ n.toList, c.isAlphanum = true) ∧ ∃ c r, n.toList = c :: r ∧ c.isAlpha = true

/-- A letter is a name. -/
theorem isName_of_letter
    {n : String} {c : Char}
    (hn : n.toList = [c])
    (hc : c.isAlpha = true) :
    IsName n := by
  refine ⟨?_, c, [], hn, hc⟩
  rw [hn, List.forall_mem_singleton, Char.isAlphanum, hc, Bool.true_or]

/-- A name has no other characters. -/
theorem IsName.ne
    {n : String} {c d : Char}
    (h : IsName n)
    (hc : c ∈ n.toList)
    (hd : d.isAlphanum = false) :
    c ≠ d := by
  rintro rfl
  exact absurd (h.1 c hc) (by simp [hd])

theorem IsName.isSpace
    {n : String} {c : Char}
    (h : IsName n)
    (hc : c ∈ n.toList) :
    isSpace c = false := by
  have hspace : c ≠ ' ' := h.ne hc (by decide)
  have htab : c ≠ '\t' := h.ne hc (by decide)
  have hreturn : c ≠ '\r' := h.ne hc (by decide)
  have hfeed : c ≠ '\n' := h.ne hc (by decide)
  simp [Xml.isSpace, hspace, htab, hreturn, hfeed]

/-! ### Tags -/

/-- An attribute in a tag. -/
def attributeText (a : String × String) : List Char :=
  ' ' :: a.1.toList ++ '=' :: '"' :: escape a.2.toList ++ ['"']

/-- The content of a tag: a name and attributes. -/
def tag (n : String) (attributes : List (String × String)) : List Char :=
  n.toList ++ attributes.flatMap attributeText

/-- Names that a tag can have. -/
structure IsTag (n : String) (attributes : List (String × String)) : Prop where
  name : IsName n
  keys : ∀ a ∈ attributes, IsName a.1
  nodup : (attributes.map Prod.fst).Nodup

theorem takeWhile_append_stop
    {p : Char → Bool} {s rest : List Char}
    (hs : ∀ c ∈ s, p c = true)
    (hrest : ∀ c ∈ rest.head?, p c = false) :
    (s ++ rest).takeWhile p = s ∧ (s ++ rest).dropWhile p = rest := by
  rw [List.takeWhile_append_of_pos hs, List.dropWhile_append_of_pos hs]
  cases rest with
  | nil =>
      simp
  | cons c rest =>
      have hc : p c = false := hrest c rfl
      simp [hc]

theorem takeWhile_ne_append
    {d : Char} {s : List Char}
    (hs : d ∉ s)
    (rest : List Char) :
    (s ++ d :: rest).takeWhile (· != d) = s ∧
      (s ++ d :: rest).dropWhile (· != d) = d :: rest := by
  refine takeWhile_append_stop (fun c hc => bne_iff_ne.2 ?_) (by simp)
  rintro rfl
  exact hs hc

/-- What follows a name in a tag. -/
theorem head?_attributes (attributes : List (String × String)) :
    ∀ c ∈ (attributes.flatMap attributeText).head?, c = ' ' := by
  cases attributes with
  | nil =>
      simp
  | cons a attributes =>
      simp [attributeText]

theorem readEquals_equals (size pos : Nat) (rest : List Char) :
    readEquals size pos ('=' :: rest) = .ok (pos + 1, rest) := by
  have hequal : isSpace '=' = false := by decide
  simp [readEquals, skipSpace, hequal]

theorem readValue_quoted
    (size pos : Nat)
    {v : List Char}
    (hv : '"' ∉ v)
    (rest : List Char) :
    readValue size pos ('"' :: (v ++ '"' :: rest)) =
      .ok (v, pos + 2 + octetCount v, rest) := by
  have hquote : isSpace '"' = false := by decide
  obtain ⟨htake, hdrop⟩ := takeWhile_ne_append hv rest
  simp [readValue, skipSpace, hquote, htake, hdrop]

/-- One attribute is read back, if its key is new. -/
theorem readAttribute_attributeText
    {seen : List RawAttribute} {a : String × String} {c : Char} {r : List Char}
    (hkey : IsName a.1)
    (hr : a.1.toList = c :: r)
    (hseen : ∀ b ∈ seen, b.key ≠ a.1.toList)
    (size pos : Nat)
    (rest : List Char) :
    ∃ pos', readAttribute size seen pos c (r ++
      '=' :: '"' :: (escape a.2.toList ++ '"' :: rest)) =
      .ok (⟨a.1.toList, pos, escape a.2.toList⟩, pos', rest) := by
  have hkeys : ∀ d ∈ r, isKeyChar d = true := by
    intro d hd
    have hmem : d ∈ a.1.toList := by
      simp [hr, hd]
    have hequal : d ≠ '=' := hkey.ne hmem (by decide)
    simp [isKeyChar, hkey.isSpace hmem, hequal]
  have hstop : ∀ d ∈ ('=' :: '"' :: (escape a.2.toList ++ '"' :: rest)).head?,
      isKeyChar d = false := by
    rintro d ⟨⟩
    decide
  obtain ⟨htake, hdrop⟩ := takeWhile_append_stop hkeys hstop
  have hnew : (seen.find? fun b => b.key == a.1.toList) = none := by
    rw [List.find?_eq_none]
    simpa using hseen
  have hvalue : '"' ∉ escape a.2.toList := not_mem_escape (by simp) _
  rw [readAttribute, htake, hdrop, ← hr, readEquals_equals]
  simp only [bind, Except.bind, hnew, readValue_quoted _ _ hvalue, pure, Except.pure]
  exact ⟨_, rfl⟩

theorem readAttributes_cons
    {size pos p p' : Nat} {seen : List RawAttribute} {cs r rest value : List Char} {c : Char}
    {a : RawAttribute}
    (hskip : skipSpace pos cs = (p, c :: r))
    (hread : readAttribute size seen p c r = .ok (a, p', rest))
    (hvalue : unescape a.value = .ok value) :
    readAttributes size seen pos cs =
      (readAttributes size (seen ++ [a]) p' rest).map fun as =>
        (String.ofList a.key, String.ofList value) :: as := by
  rw [readAttributes]
  split
  · rename_i hnil
    rw [hskip] at hnil
    cases hnil
  · rename_i hcons
    rw [hskip] at hcons
    cases hcons
    split
    · rename_i herror
      rw [hread] at herror
      cases herror
    · rename_i hok
      rw [hread] at hok
      cases hok
      rw [hvalue]

/-- The attributes of a tag are read back. -/
theorem readAttributes_flatMap
    {seen : List RawAttribute} {attributes : List (String × String)}
    (hkeys : ∀ a ∈ attributes, IsName a.1)
    (hnodup : (attributes.map Prod.fst).Nodup)
    (hseen : ∀ a ∈ attributes, ∀ b ∈ seen, b.key ≠ a.1.toList)
    (size pos : Nat) :
    readAttributes size seen pos (attributes.flatMap attributeText) = .ok attributes := by
  induction attributes generalizing pos seen with
  | nil =>
      rw [readAttributes]
      rfl
  | cons a attributes ih =>
      obtain ⟨-, c, r, hr, -⟩ := hkeys a List.mem_cons_self
      have hspace : isSpace ' ' = true := by decide
      have hfirst : isSpace c = false := (hkeys a List.mem_cons_self).isSpace (by simp [hr])
      have hskip : skipSpace pos ((a :: attributes).flatMap attributeText) =
          (pos + 1, c :: (r ++ '=' :: '"' :: (escape a.2.toList ++
            '"' :: attributes.flatMap attributeText))) := by
        simp [skipSpace, attributeText, hr, hspace, hfirst]
      obtain ⟨pos', hread⟩ := readAttribute_attributeText (hkeys a List.mem_cons_self) hr
        (hseen a List.mem_cons_self) size (pos + 1) (attributes.flatMap attributeText)
      have hnodup' := List.nodup_cons.1 hnodup
      have hrest : readAttributes size (seen ++
        [⟨a.1.toList, pos + 1, escape a.2.toList⟩]) pos'
          (attributes.flatMap attributeText) = .ok attributes := by
        refine ih (fun b hb => hkeys b (List.mem_cons_of_mem _ hb)) hnodup'.2 ?_ pos'
        intro b hb d hd
        rcases List.mem_append.1 hd with hd | hd
        · exact hseen b (List.mem_cons_of_mem _ hb) d hd
        · obtain rfl := List.mem_singleton.1 hd
          intro hsame
          refine hnodup'.1 (List.mem_map.2 ⟨b, hb, ?_⟩)
          exact (String.toList_injective hsame).symm
      rw [readAttributes_cons hskip hread (unescape_escape _), hrest]
      simp [Except.map]

/-- **The name and the attributes of a tag are read back.** -/
theorem readTag_tag
    {n : String} {attributes : List (String × String)}
    (h : IsTag n attributes) :
    readTag (tag n attributes) = .ok (n, attributes) := by
  have hname : ∀ c ∈ n.toList, (!isSpace c) = true := by
    intro c hc
    simp [h.name.isSpace hc]
  have hstop : ∀ c ∈ (attributes.flatMap attributeText).head?, (!isSpace c) = false := by
    intro c hc
    rw [head?_attributes attributes c hc]
    decide
  obtain ⟨htake, hdrop⟩ := takeWhile_append_stop hname hstop
  have hseen : ∀ a ∈ attributes, ∀ b ∈ ([] : List RawAttribute), b.key ≠ a.1.toList := by simp
  have hread := readAttributes_flatMap h.keys h.nodup hseen (octetCount (tag n attributes))
    (octetCount n.toList)
  simp only [readTag, tag] at hread ⊢
  rw [htake, hdrop, hread]
  simp [Except.map]

/-! ### The ends of tags -/

theorem splitTag_append
    {s : List Char}
    (hs : ∀ c ∈ s, c ≠ '>' ∧ c ≠ '\'' ∧ c ≠ '"')
    (cs : List Char) :
    splitTag none (s ++ cs) = (splitTag none cs).map fun r => (s ++ r.1, r.2) := by
  induction s with
  | nil =>
      simp
  | cons c s ih =>
      obtain ⟨hgt, hapos, hquot⟩ := hs c List.mem_cons_self
      have hrest := ih fun d hd => hs d (List.mem_cons_of_mem _ hd)
      simp [splitTag, hgt, hapos, hquot, hrest, Function.comp_def]

/-- Behind a quotation mark the tag goes on up to the next one. -/
theorem splitTag_quoted
    {v : List Char}
    (hv : '"' ∉ v)
    (cs : List Char) :
    splitTag (some '"') (v ++ '"' :: cs) = (splitTag none cs).map fun r =>
      (v ++ '"' :: r.1, r.2) := by
  induction v with
  | nil =>
      simp [splitTag]
  | cons c v ih =>
      have hquot : c ≠ '"' := by
        rintro rfl
        exact hv List.mem_cons_self
      have hrest := ih fun hmem => hv (List.mem_cons_of_mem _ hmem)
      simp [splitTag, hquot, hrest, Function.comp_def]

theorem splitTag_attributes
    {attributes : List (String × String)}
    (hkeys : ∀ a ∈ attributes, IsName a.1)
    (cs : List Char) :
    splitTag none (attributes.flatMap attributeText ++ cs) =
      (splitTag none cs).map fun r => (attributes.flatMap attributeText ++ r.1, r.2) := by
  induction attributes with
  | nil =>
      simp
  | cons a attributes ih =>
      have hkey := hkeys a List.mem_cons_self
      have hplain : ∀ c ∈ ' ' :: a.1.toList ++ ['='], c ≠ '>' ∧ c ≠ '\'' ∧ c ≠ '"' := by
        intro c hc
        simp only [List.mem_append, List.mem_cons, List.not_mem_nil, or_false] at hc
        obtain (rfl | hc) | rfl := hc
        · decide
        · exact ⟨hkey.ne hc (by decide), hkey.ne hc (by decide), hkey.ne hc (by decide)⟩
        · decide
      have hquoted := splitTag_quoted (not_mem_escape (d := '"') (by simp) a.2.toList)
        (attributes.flatMap attributeText ++ cs)
      have hrest := ih fun b hb => hkeys b (List.mem_cons_of_mem _ hb)
      have hsplit : (a :: attributes).flatMap attributeText ++ cs =
        (' ' :: a.1.toList ++ ['=']) ++
          '"' :: (escape a.2.toList ++ '"' :: (attributes.flatMap attributeText ++ cs)) := by
        simp [attributeText]
      rw [hsplit, splitTag_append hplain, splitTag]
      simp [hquoted, hrest, Function.comp_def, attributeText]

/-- A tag ends at its `>`. -/
theorem splitTag_tag
    {n : String} {attributes : List (String × String)}
    (h : IsTag n attributes)
    (cs : List Char) :
    splitTag none (tag n attributes ++ cs) =
      (splitTag none cs).map fun r => (tag n attributes ++ r.1, r.2) := by
  have hplain : ∀ c ∈ n.toList, c ≠ '>' ∧ c ≠ '\'' ∧ c ≠ '"' := fun c hc =>
    ⟨h.name.ne hc (by decide), h.name.ne hc (by decide), h.name.ne hc (by decide)⟩
  rw [tag, List.append_assoc, splitTag_append hplain, splitTag_attributes h.keys]
  simp [Function.comp_def]

/-- What opens with a letter is the tag of an element. -/
theorem readMarkup_tag
    {n : String} {attributes : List (String × String)}
    (h : IsTag n attributes)
    (cs : List Char) :
    readMarkup (tag n attributes ++ cs) = readElementTag (tag n attributes ++ cs) := by
  obtain ⟨-, c, r, hn, hc⟩ := h.name
  have hne : ∀ d : Char, d.isAlpha = false → c ≠ d := by
    rintro d hd rfl
    simp [hc] at hd
  have hbang := hne '!' (by decide)
  have hslash := hne '/' (by decide)
  have hquery := hne '?' (by decide)
  rw [tag, hn, List.cons_append, List.cons_append, readMarkup]
  all_goals simp_all

/-- A tag does not end with a slash of its own. -/
theorem getLast?_tag
    {n : String} {attributes : List (String × String)}
    (h : IsTag n attributes) :
    (tag n attributes).getLast? ≠ some '/' := by
  rcases List.eq_nil_or_concat attributes with rfl | ⟨init, a, rfl⟩
  · intro hlast
    have hmem : '/' ∈ n.toList := List.mem_of_getLast? (by simpa [tag] using hlast)
    exact h.name.ne hmem (by decide) rfl
  · have hquote : (attributeText a).getLast? = some '"' := List.getLast?_concat
    simp [tag, List.getLast?_append, hquote]

/-- The tag that opens an element is read back. -/
theorem readMarkup_start
    {n : String} {attributes : List (String × String)}
    (h : IsTag n attributes)
    (rest : List Char) :
    readMarkup (tag n attributes ++ '>' :: rest) =
      .token (.start (tag n attributes)) (closedSize (tag n attributes)) rest := by
  have hlast := getLast?_tag h
  rw [readMarkup_tag h, readElementTag, splitTag_tag h]
  simp [splitTag, hlast]

/-- The tag of an element without content is read back. -/
theorem readMarkup_empty
    {n : String} {attributes : List (String × String)}
    (h : IsTag n attributes)
    (rest : List Char) :
    readMarkup (tag n attributes ++ '/' :: '>' :: rest) =
      .token (.empty (tag n attributes)) (closedSize (tag n attributes ++ ['/'])) rest := by
  rw [readMarkup_tag h, readElementTag, splitTag_tag h]
  simp [splitTag]

/-- The tag that closes an element is read back, -/
theorem readMarkup_close
    {n : String}
    (h : IsName n)
    (rest : List Char) :
    readMarkup ('/' :: (n.toList ++ '>' :: rest)) =
      .token (.close n.toList) (1 + closedSize n.toList) rest := by
  have hname : '>' ∉ n.toList := fun hc => h.ne hc (by decide) rfl
  obtain ⟨htake, hdrop⟩ := takeWhile_ne_append hname rest
  simp [readMarkup, htake, hdrop]

/-- and it names the element. -/
theorem closingName_name
    {n : String}
    (h : IsName n) :
    closingName n.toList = n.toList := by
  have hspace : ∀ c ∈ n.toList, isSpace c = false := fun c hc => h.isSpace hc
  have hall : n.toList.all isSpace = false := by
    obtain ⟨-, c, r, hn, -⟩ := h
    rw [hn] at hspace ⊢
    simp [hspace c List.mem_cons_self]
  have hlast : ∀ c ∈ n.toList.reverse.head?, isSpace c = false := fun c hc =>
    hspace c (List.mem_reverse.1 (List.mem_of_head? hc))
  have hdrop : n.toList.reverse.dropWhile isSpace = n.toList.reverse :=
    (takeWhile_append_stop (s := []) (by simp) hlast).2
  simp [closingName, hall, hdrop]

/-! ### Comments, plain sections and declarations -/

/-- A section ends at the first `>` in front of which it can end. -/
theorem splitWhere_append
    {ends : List Char → Bool} {seen s : List Char}
    (hs : ∀ before after, s = before ++ '>' :: after → ends (before.reverse ++ seen) = false)
    (hends : ends (s.reverse ++ seen) = true)
    (rest : List Char) :
    splitWhere ends seen (s ++ '>' :: rest) = some (seen.reverse ++ s, rest) := by
  induction s generalizing seen with
  | nil =>
      simp_all [splitWhere]
  | cons c s ih =>
      have hnext : splitWhere ends (c :: seen) (s ++ '>' :: rest) =
          some ((c :: seen).reverse ++ s, rest) := by
        refine ih ?_ (by simpa using hends)
        rintro before after rfl
        simpa using hs (c :: before) after rfl
      have hstop : (decide (c = '>') && ends seen) = false := by
        by_cases hc : c = '>'
        · subst hc
          simpa using hs [] s rfl
        · simp [hc]
      rw [List.cons_append, splitWhere]
      simp [hstop, hnext]

/-- A `>` inside of a section stands in its content. -/
theorem exists_content_of_split
    {opening closing s before after : List Char}
    (hopening : '>' ∉ opening)
    (hclosing : '>' ∉ closing)
    (hsplit : opening ++ (s ++ closing) = before ++ '>' :: after) :
    ∃ front back, before = opening ++ front ∧ s = front ++ '>' :: back := by
  rcases List.append_eq_append_iff.1 hsplit with ⟨front, rfl, hrest⟩ | ⟨tail, rfl, hrest⟩
  · rcases List.append_eq_append_iff.1 hrest with ⟨tail, rfl, hend⟩ | ⟨back, rfl, hend⟩
    · simp [hend] at hclosing
    · cases back with
      | nil =>
          have hend' : '>' :: after = closing := hend
          simp [← hend'] at hclosing
      | cons c back =>
          obtain ⟨rfl, -⟩ := List.cons.inj hend
          exact ⟨front, back, rfl, rfl⟩
  · cases tail with
    | nil =>
        cases s with
        | nil =>
            have hrest' : '>' :: after = closing := hrest
            simp [← hrest'] at hclosing
        | cons c s =>
            obtain ⟨rfl, -⟩ := List.cons.inj hrest
            exact ⟨[], s, by simp, rfl⟩
    | cons c tail =>
        obtain ⟨rfl, -⟩ := List.cons.inj hrest
        simp at hopening

/-- A comment is read over. -/
theorem readMarkup_comment
    {s : List Char}
    (hs : ¬['-', '-'] <:+: s)
    (rest : List Char) :
    ∃ size, readMarkup (['!', '-', '-'] ++ (s ++ ['-', '-']) ++ '>' :: rest) =
      .token .skipped size rest := by
  have hinner : ∀ before after,
      ['!', '-', '-'] ++ (s ++ ['-', '-']) = before ++ '>' :: after →
      endsComment (before.reverse ++ []) = false := by
    intro before after hsplit
    obtain ⟨front, back, rfl, rfl⟩ := exists_content_of_split (by decide) (by decide) hsplit
    by_contra hends
    simp only [endsComment, Bool.not_eq_false, Bool.and_eq_true, decide_eq_true_eq,
      List.isPrefixOf_iff_prefix, List.append_nil, List.reverse_append, List.length_append,
      List.length_reverse, List.length_cons, List.length_nil] at hends
    have hfront : ['-', '-'] <+: front.reverse :=
      List.prefix_of_prefix_length_le hends.2 (List.prefix_append _ _) (by simp; omega)
    have hback : ['-', '-'] <:+ front := by
      simpa using List.reverse_suffix.2 hfront
    exact hs (hback.isInfix.trans (List.prefix_append _ _).isInfix)
  have hends : endsComment ((['!', '-', '-'] ++ (s ++ ['-', '-'])).reverse ++ []) = true := by
    simp [endsComment]
  have hopens : opensWith ['!', '-', '-'] (['!', '-', '-'] ++ (s ++ ['-', '-'])) = true := by
    rw [opensWith, List.take_left]
    decide
  refine ⟨closedSize (['!', '-', '-'] ++ (s ++ ['-', '-'])), ?_⟩
  change readComment _ = _
  rw [readComment, splitWhere_append hinner hends]
  simp only [List.reverse_nil, List.nil_append, hopens, if_true]

/-- **A plain section is read as it stands.** -/
theorem readMarkup_plain
    {s : List Char}
    (hs : ¬[']', ']', '>'] <:+: s)
    (rest : List Char) :
    ∃ size, readMarkup (plainWord ++ (s ++ [']', ']']) ++ '>' :: rest) =
      .token (.plain s) size rest := by
  have hinner : ∀ before after, plainWord ++ (s ++ [']', ']']) = before ++ '>' :: after →
      endsPlain (before.reverse ++ []) = false := by
    intro before after hsplit
    obtain ⟨front, back, rfl, rfl⟩ := exists_content_of_split (by decide) (by decide) hsplit
    by_contra hends
    simp only [endsPlain, Bool.not_eq_false, List.isPrefixOf_iff_prefix, List.append_nil,
      List.reverse_append] at hends
    have hfront : [']', ']'] <+: front.reverse := by
      rcases hr : front.reverse with _ | ⟨c, _ | ⟨d, r⟩⟩ <;> rw [hr] at hends
      · exact absurd hends (by decide)
      · simp [plainWord] at hends
      · simpa using hends
    obtain ⟨init, hinit⟩ : [']', ']'] <:+ front := by
      simpa using List.reverse_suffix.2 hfront
    exact hs ⟨init, back, by simp [← hinit]⟩
  have hends : endsPlain ((plainWord ++ (s ++ [']', ']'])).reverse ++ []) = true := by
    simp [endsPlain]
  have hopens : opensWith plainWord (plainWord ++ (s ++ [']', ']'])) = true := by
    rw [opensWith, List.take_left]
    decide
  refine ⟨closedSize (plainWord ++ (s ++ [']', ']'])), ?_⟩
  change readPlain _ = _
  rw [readPlain, splitWhere_append hinner hends]
  simp only [List.reverse_nil, List.nil_append, hopens, if_true, List.drop_left]
  simp

/-- The word that opens a declaration. -/
def declarationWord : List Char := ['?', 'x', 'm', 'l']

theorem le_foldl_octets (n : Nat) (cs : List Char) :
    n ≤ cs.foldl (fun n c => n + c.utf8Size) n := by
  induction cs generalizing n with
  | nil =>
      exact Nat.le_refl n
  | cons c cs ih =>
      exact (Nat.le_add_right n c.utf8Size).trans (ih _)

/-- A declaration is read over. -/
theorem readMarkup_declaration
    {s : List Char}
    (hs : '>' ∉ s)
    (rest : List Char) :
    ∃ size, readMarkup (declarationWord ++ (s ++ ['?']) ++ '>' :: rest) =
      .token .skipped size rest := by
  have hinner : '>' ∉ declarationWord ++ (s ++ ['?']) := by
    simp [declarationWord, hs]
  obtain ⟨htake, hdrop⟩ := takeWhile_ne_append hinner rest
  have hlast : (declarationWord ++ (s ++ ['?'])).getLast? = some '?' := by
    rw [← List.append_assoc]
    exact List.getLast?_concat
  have hoctets : 2 < octetCount (declarationWord ++ (s ++ ['?'])) :=
    (by decide : 2 < 4).trans_le (le_foldl_octets 4 (s ++ ['?']))
  refine ⟨closedSize (declarationWord ++ (s ++ ['?'])), ?_⟩
  change readInstruction _ = _
  rw [readInstruction, htake, hdrop]
  simp [hlast, hoctets]

end Xml
end Script
end SmppReplay
