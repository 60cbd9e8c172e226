import SmppReplay.Script.Xml.Entity

/-!
# Tokens of markup

**Input.**  The characters of a script.

**Algorithm.** The reader stands either between tags or behind a `<`.  Between tags,
everything up to the next `<` is a text.  Behind a `<` the next character tells what
follows: a comment, a section of plain text, a document type, an end tag, an instruction, or
the tag of an element.  An element's tag ends at the first `>` outside quotes.

An end tag has to name the innermost open element (`checkEnds`).

**Result.** `tokens` gives the tokens with their offsets in octets up to the first fault;
the end of the input behind a `<` is no fault.
-/

namespace SmppReplay
namespace Script
namespace Xml

/-- The white space of markup. -/
def isSpace (c : Char) : Bool :=
  c == ' ' || c == '\t' || c == '\r' || c == '\n'

/-- A piece of markup, with the characters between its delimiters. -/
inductive Token where
  /-- The tag that opens an element: name and attributes. -/
  | start (content : List Char)
  /-- The tag of an element without content. -/
  | empty (content : List Char)
  /-- The tag that closes an element. -/
  | close (content : List Char)
  | text (raw : List Char)
  /-- A section whose text stands for itself. -/
  | plain (text : List Char)
  /-- A comment, a document type or an instruction. -/
  | skipped
  deriving DecidableEq, Repr

/-- What the reader finds behind a `<`. -/
inductive Markup where
  /-- A token of `size` octets and the characters after it. -/
  | token (t : Token) (size : Nat) (rest : List Char)
  | fault (f : MarkupFault)
  /-- The input ends. -/
  | over
  deriving Repr

/-- The characters before the first `>` outside quotes, and those after it. -/
def splitTag : Option Char → List Char → Option (List Char × List Char)
  | _, [] => none
  | some q, c :: cs =>
      (splitTag (if c = q then none else some q) cs).map fun r => (c :: r.1, r.2)
  | none, c :: cs =>
      if c = '>' then some ([], cs)
      else
        (splitTag (if c = '\'' ∨ c = '"' then some c else none) cs).map fun r =>
          (c :: r.1, r.2)

/-- The characters before the first `>` at which the reversed characters before it satisfy
`ends`, and those after it. -/
def splitWhere (ends : List Char → Bool) (seen : List Char) :
    List Char → Option (List Char × List Char)
  | [] => none
  | c :: cs =>
      if c = '>' && ends seen then some (seen.reverse, cs) else splitWhere ends (c :: seen) cs

/-- The reversed characters end a comment. -/
def endsComment (seen : List Char) : Bool :=
  4 < seen.length && ['-', '-'].isPrefixOf seen

/-- The reversed characters end a section of plain text. -/
def endsPlain (seen : List Char) : Bool :=
  [']', ']'].isPrefixOf seen

/-- The reversed characters hold as many `<` as `>`. -/
def endsDoctype (seen : List Char) : Bool :=
  seen.count '<' == seen.count '>'

/-- The characters open with the word, up to the case of ASCII letters. -/
def opensWith (word cs : List Char) : Bool :=
  (cs.take word.length).map Char.toUpper == word

/-- The octets of a construct with its closing `>`. -/
def closedSize (content : List Char) : Nat :=
  octetCount content + 1

/-- Reads a comment; the characters start at the exclamation mark. -/
def readComment (cs : List Char) : Markup :=
  match splitWhere endsComment [] cs with
  | some (content, rest) =>
      if opensWith ['!', '-', '-'] content then .token .skipped (closedSize content) rest
      else .fault (.unexpectedEnd "Comment")
  | none => .fault (.unexpectedEnd "Comment")

/-- The word that opens a section of plain text. -/
def plainWord : List Char := ['!', '[', 'C', 'D', 'A', 'T', 'A', '[']

/-- Reads a section of plain text; the characters start at the exclamation mark. -/
def readPlain (cs : List Char) : Markup :=
  match splitWhere endsPlain [] cs with
  | some (content, rest) =>
      if opensWith plainWord content then
        let text :=
          (content.drop plainWord.length).take (content.length - plainWord.length - 2)
        .token (.plain text) (closedSize content) rest
      else .fault (.unexpectedEnd "CData")
  | none => .fault (.unexpectedEnd "CData")

/-- The word that opens a document type. -/
def doctypeWord : List Char := ['!', 'D', 'O', 'C', 'T', 'Y', 'P', 'E']

/-- Reads a document type; the characters start at the exclamation mark. -/
def readDoctype (cs : List Char) : Markup :=
  match splitWhere endsDoctype [] cs with
  | some (content, rest) =>
      if opensWith doctypeWord content then
        if (content.drop doctypeWord.length).all isSpace then .fault .emptyDoctype
        else .token .skipped (closedSize content) rest
      else .fault (.unexpectedEnd "DOCTYPE")
  | none => .fault (.unexpectedEnd "DOCTYPE")

/-- Reads an instruction; the characters start at the question mark. -/
def readInstruction (cs : List Char) : Markup :=
  let content := cs.takeWhile (· != '>')
  if 2 < octetCount content && content.getLast? == some '?' then
    .token .skipped (closedSize content) ((cs.dropWhile (· != '>')).drop 1)
  else .fault (.unexpectedEnd "XmlDecl")

/-- Reads the tag of an element. -/
def readElementTag (cs : List Char) : Markup :=
  match splitTag none cs with
  | some (content, rest) =>
      if content.getLast? == some '/' then
        .token (.empty content.dropLast) (closedSize content) rest
      else .token (.start content) (closedSize content) rest
  | none => .fault (.unexpectedEnd "Element")

/-- Reads what follows a `<`. -/
def readMarkup (cs : List Char) : Markup :=
  match cs with
  | [] => .over
  | '!' :: [] => .fault (.unexpectedEnd "Bang")
  | '!' :: c :: _ =>
      if c = '[' then readPlain cs
      else if c = '-' then readComment cs
      else if c = 'D' ∨ c = 'd' then readDoctype cs
      else .fault (.unknownDeclaration (firstOctet c))
  | '/' :: r =>
      let content := r.takeWhile (· != '>')
      .token (.close content) (1 + closedSize content) ((r.dropWhile (· != '>')).drop 1)
  | '?' :: _ => readInstruction cs
  | _ => readElementTag cs

theorem length_le_of_splitTag {q : Option Char} {cs content rest : List Char}
    (h : splitTag q cs = some (content, rest)) : rest.length ≤ cs.length := by
  induction cs generalizing q content with
  | nil => cases q <;> simp [splitTag] at h
  | cons c cs ih =>
    cases q with
    | some q =>
      simp only [splitTag, Option.map_eq_some_iff, Prod.mk.injEq] at h
      obtain ⟨r, hr, -, rfl⟩ := h
      exact Nat.le_succ_of_le (ih hr)
    | none =>
      simp only [splitTag] at h
      split at h
      · simp only [Option.some.injEq, Prod.mk.injEq] at h
        rw [← h.2]
        exact Nat.le_succ _
      · simp only [Option.map_eq_some_iff, Prod.mk.injEq] at h
        obtain ⟨r, hr, -, rfl⟩ := h
        exact Nat.le_succ_of_le (ih hr)

theorem length_le_of_splitWhere {ends : List Char → Bool} {seen cs content rest : List Char}
    (h : splitWhere ends seen cs = some (content, rest)) : rest.length ≤ cs.length := by
  induction cs generalizing seen with
  | nil => simp [splitWhere] at h
  | cons c cs ih =>
    simp only [splitWhere] at h
    split at h
    · simp only [Option.some.injEq, Prod.mk.injEq] at h
      rw [← h.2]
      exact Nat.le_succ _
    · exact Nat.le_succ_of_le (ih h)

theorem length_dropWhile_drop_le (p : Char → Bool) (cs : List Char) :
    ((cs.dropWhile p).drop 1).length ≤ cs.length := by
  have := (List.dropWhile_sublist p (l := cs)).length_le
  simp only [List.length_drop]
  omega

theorem length_le_of_readMarkup {cs rest : List Char} {t : Token} {n : Nat}
    (h : readMarkup cs = .token t n rest) : rest.length ≤ cs.length := by
  unfold readMarkup at h
  split at h
  · simp at h
  · simp at h
  · split at h
    · unfold readPlain at h
      split at h
      · next hs =>
        split at h
        · simp only [Markup.token.injEq] at h
          exact h.2.2 ▸ length_le_of_splitWhere hs
        · simp at h
      · simp at h
    · split at h
      · unfold readComment at h
        split at h
        · next hs =>
          split at h
          · simp only [Markup.token.injEq] at h
            exact h.2.2 ▸ length_le_of_splitWhere hs
          · simp at h
        · simp at h
      · split at h
        · unfold readDoctype at h
          split at h
          · next hs =>
            split at h
            · split at h
              · simp at h
              · simp only [Markup.token.injEq] at h
                exact h.2.2 ▸ length_le_of_splitWhere hs
            · simp at h
          · simp at h
        · simp at h
  · next r =>
    simp only [Markup.token.injEq] at h
    rw [← h.2.2]
    exact Nat.le_succ_of_le (length_dropWhile_drop_le _ r)
  · simp only [readInstruction] at h
    split at h
    · simp only [Markup.token.injEq] at h
      rw [← h.2.2]
      exact length_dropWhile_drop_le _ _
    · simp at h
  · unfold readElementTag at h
    split at h
    · next hs =>
      split at h <;> simp only [Markup.token.injEq] at h <;>
        exact h.2.2 ▸ length_le_of_splitTag hs
    · simp at h

/-- Tokens with their offsets, and the fault that ended them, if one did; `φ` holds the
faults. -/
structure Tokens (φ : Type := MarkupFault) where
  tokens : List (Nat × Token)
  fault : Option (Nat × φ)
  deriving Repr

/-- The tokens with one more in front. -/
def Tokens.cons {φ : Type} (pos : Nat) (t : Token) (ts : Tokens φ) : Tokens φ :=
  { ts with tokens := (pos, t) :: ts.tokens }

/-- The tokens of the characters that stand at offset `pos`. -/
def tokensFrom (pos : Nat) (cs : List Char) : Tokens :=
  match cs with
  | [] => ⟨[], none⟩
  | c :: r =>
      if c = '<' then
        match _h : readMarkup r with
        | .over => ⟨[], none⟩
        | .fault f => ⟨[], some (pos, f)⟩
        | .token t size rest => .cons pos t (tokensFrom (pos + 1 + size) rest)
      else
        let text := c :: r.takeWhile (· != '<')
        .cons pos (.text text) (tokensFrom (pos + octetCount text) (r.dropWhile (· != '<')))
termination_by cs.length
decreasing_by
  · exact Nat.lt_succ_of_le (length_le_of_readMarkup _h)
  · exact Nat.lt_succ_of_le (List.dropWhile_sublist _).length_le

/-- The name in the content of a tag. -/
def tagName (content : List Char) : List Char :=
  content.takeWhile fun c => !isSpace c

/-- The name in an end tag: white space after it does not count, unless there is nothing
else. -/
def closingName (content : List Char) : List Char :=
  if content.all isSpace then content else (content.reverse.dropWhile isSpace).reverse

/-- The tokens up to the first end tag that does not name the innermost open element;
`names` are those of the open elements, the innermost first, and `fault` is what ends the
tokens anyway. -/
def checkEnds (fault : Option (Nat × MarkupFault)) :
    List (List Char) → List (Nat × Token) → Tokens
  | _, [] => ⟨[], fault⟩
  | names, (pos, .start content) :: ts =>
      .cons pos (.start content) (checkEnds fault (tagName content :: names) ts)
  | [], (pos, .close content) :: _ =>
      ⟨[], some (pos, .mismatchedEnd "" (String.ofList content))⟩
  | name :: names, (pos, .close content) :: ts =>
      let found := closingName content
      if found = name then .cons pos (.close content) (checkEnds fault names ts)
      else ⟨[], some (pos, .mismatchedEnd (String.ofList name) (String.ofList found))⟩
  | names, (pos, t) :: ts => .cons pos t (checkEnds fault names ts)

/-- The characters of a script; a byte order mark at its start does not count. -/
def withoutMark : List Char → List Char
  | '\uFEFF' :: r => r
  | cs => cs

/-- The tokens of a script. -/
def tokens (cs : List Char) : Tokens :=
  let ts := tokensFrom 0 (withoutMark cs)
  checkEnds ts.fault [] ts.tokens

end Xml
end Script
end SmppReplay
