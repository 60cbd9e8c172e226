/-!
# Places in a YAML text

A cursor is what is left of a text, together with the line and the column that it stands at.
A line ends at a line feed, a carriage return, both in a row, or one of three other breaks.
-/

namespace SmppReplay
namespace Document
namespace Yaml

/-- White space inside a line. -/
def isBlank (c : Char) : Bool :=
  c == ' ' || c == '\t'

/-- A character that ends a line. -/
def isBreak (c : Char) : Bool :=
  c == '\n' || c == '\r' || c == '\u0085' || c == '\u2028' || c == '\u2029'

/-- What a line break reads as. -/
def breakText (c : Char) : Char :=
  if c = '\u2028' ∨ c = '\u2029' then c else '\n'

/-- The characters open with white space, a line break or the end of the text. -/
def endsWord : List Char → Bool
  | [] => true
  | c :: _ => isBlank c || isBreak c

/-- A place in a text. -/
structure Cursor where
  rest : List Char
  /-- The number of characters in front of the place. -/
  index : Nat
  line : Nat
  column : Nat
  deriving Repr

namespace Cursor

/-- The start of a text. -/
def start (cs : List Char) : Cursor := ⟨cs, 0, 0, 0⟩

/-- The place some characters further on the line. -/
def advance (c : Cursor) (n : Nat) : Cursor :=
  { c with rest := c.rest.drop n, index := c.index + n, column := c.column + n }

/-- The place behind the line break at the cursor. -/
def passBreak (c : Cursor) : Cursor :=
  match c.rest with
  | '\r' :: '\n' :: r => ⟨r, c.index + 2, c.line + 1, 0⟩
  | _ :: r => ⟨r, c.index + 1, c.line + 1, 0⟩
  | [] => c

/-- The cursor stands at a line of three dashes or three points. -/
def atDocumentMark (c : Cursor) : Bool :=
  c.column == 0 && (c.rest.take 3 == "---".toList || c.rest.take 3 == "...".toList) &&
    endsWord (c.rest.drop 3)

/-- The cursor stands at white space or a line break. -/
def atSpace (c : Cursor) : Bool :=
  match c.rest with
  | x :: _ => isBlank x || isBreak x
  | [] => false

end Cursor

end Yaml
end Document
end SmppReplay
