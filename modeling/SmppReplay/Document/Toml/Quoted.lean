import SmppReplay.Text.Numeral

/-!
# Texts in TOML

Texts between quotes: with escapes between double quotes, verbatim between single quotes, on
one line between single marks and on several between triple ones.  A text on several lines
drops a line break right behind its opening marks, and up to two of its own marks may stand
in front of its closing marks.
-/

namespace SmppReplay
namespace Document
namespace Toml

/-- White space inside a line. -/
def isBlank (c : Char) : Bool :=
  c == ' ' || c == '\t'

/-- A character that may stand in a comment or in a text on one line. -/
def isVisible (c : Char) : Bool :=
  c == '\t' || (0x20 ≤ c.toNat && c.toNat != 0x7F)

/-- The character that a short escape stands for. -/
def escape? (c : Char) : Option Char :=
  if c = '"' ∨ c = '\\' then some c
  else if c = 'b' then some (Char.ofNat 8)
  else if c = 't' then some '\t'
  else if c = 'n' then some '\n'
  else if c = 'f' then some (Char.ofNat 12)
  else if c = 'r' then some '\r'
  else none

/-- The character with a hexadecimal number. -/
def numbered? (digits : List Char) : Option Char := do
  let n ← Text.Numeral.ofDigits? 16 digits
  if n.isValidChar then some (Char.ofNat n) else none

/-- A text between double quotes, up to its closing quote, and what follows it. -/
def basic? : List Char → Option (List Char × List Char)
  | [] => none
  | '"' :: r => some ([], r)
  | '\\' :: 'u' :: a :: b :: c :: d :: r => do
      let x ← numbered? [a, b, c, d]
      let (s, rest) ← basic? r
      return (x :: s, rest)
  | '\\' :: 'U' :: a :: b :: c :: d :: e :: f :: g :: h :: r => do
      let x ← numbered? [a, b, c, d, e, f, g, h]
      let (s, rest) ← basic? r
      return (x :: s, rest)
  | '\\' :: e :: r => do
      let x ← escape? e
      let (s, rest) ← basic? r
      return (x :: s, rest)
  | c :: r => do
      guard (isVisible c)
      let (s, rest) ← basic? r
      return (c :: s, rest)

/-- A text between single quotes, up to its closing quote, and what follows it. -/
def literal? : List Char → Option (List Char × List Char)
  | [] => none
  | '\'' :: r => some ([], r)
  | c :: r => do
      guard (isVisible c)
      let (s, rest) ← literal? r
      return (c :: s, rest)

/-- The marks behind three closing ones that still belong to the text, and what follows
them. -/
def closing (mark : Char) (cs : List Char) : List Char × List Char :=
  let extra := ((cs.take 2).takeWhile (· == mark)).length
  (List.replicate extra mark, cs.drop extra)

/-- The characters open with a line break. -/
def opensLine : List Char → Bool
  | '\n' :: _ => true
  | '\r' :: '\n' :: _ => true
  | _ => false

/-- A text between triple double quotes, up to its closing marks, and what follows it.  A
backslash at the end of a line takes the white space behind it along. -/
def multiBasic? (trimming : Bool) : List Char → Option (List Char × List Char)
  | [] => none
  | '"' :: '"' :: '"' :: r => some (closing '"' r)
  | '\\' :: 'u' :: a :: b :: c :: d :: r => do
      let x ← numbered? [a, b, c, d]
      let (s, rest) ← multiBasic? false r
      return (x :: s, rest)
  | '\\' :: 'U' :: a :: b :: c :: d :: e :: f :: g :: h :: r => do
      let x ← numbered? [a, b, c, d, e, f, g, h]
      let (s, rest) ← multiBasic? false r
      return (x :: s, rest)
  | '\\' :: c :: r =>
      if opensLine ((c :: r).dropWhile isBlank) then multiBasic? true (c :: r)
      else do
        let x ← escape? c
        let (s, rest) ← multiBasic? false r
        return (x :: s, rest)
  | '\r' :: '\n' :: r => do
      let (s, rest) ← multiBasic? trimming r
      return (if trimming then s else '\n' :: s, rest)
  | c :: r => do
      guard (c = '\n' || isVisible c)
      let blank := c = '\n' || isBlank c
      let (s, rest) ← multiBasic? (trimming && blank) r
      return (if trimming && blank then s else c :: s, rest)

/-- A text between triple single quotes, up to its closing marks, and what follows it. -/
def multiLiteral? : List Char → Option (List Char × List Char)
  | [] => none
  | '\'' :: '\'' :: '\'' :: r => some (closing '\'' r)
  | '\r' :: '\n' :: r => do
      let (s, rest) ← multiLiteral? r
      return ('\n' :: s, rest)
  | c :: r => do
      guard (c = '\n' || isVisible c)
      let (s, rest) ← multiLiteral? r
      return (c :: s, rest)

/-- The characters without a line break at the start. -/
def dropBreak : List Char → List Char
  | '\n' :: r => r
  | '\r' :: '\n' :: r => r
  | r => r

/-- A text on one line, and what follows it. -/
def line? : List Char → Option (String × List Char)
  | '"' :: r => (basic? r).map fun (s, rest) => (String.ofList s, rest)
  | '\'' :: r => (literal? r).map fun (s, rest) => (String.ofList s, rest)
  | _ => none

/-- A text, and what follows it. -/
def text? : List Char → Option (String × List Char)
  | '"' :: '"' :: '"' :: r =>
      (multiBasic? false (dropBreak r)).map fun (s, rest) => (String.ofList s, rest)
  | '\'' :: '\'' :: '\'' :: r =>
      (multiLiteral? (dropBreak r)).map fun (s, rest) => (String.ofList s, rest)
  | cs => line? cs

end Toml
end Document
end SmppReplay
