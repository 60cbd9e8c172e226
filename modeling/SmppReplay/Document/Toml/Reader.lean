import SmppReplay.Document.Toml.Quoted
import SmppReplay.Document.Toml.Scalar
import SmppReplay.Document.Toml.Table

/-!
# Reading TOML

**Input.**  The characters of a file; a byte order mark at its start does not count.

**Algorithm.** A file is a row of lines: a header, a key with a value, or nothing, each with
a comment behind it at most.  The lines act on the table that the file stands for.

**Result.**  `Toml.read?` gives the record of a file that keeps the rules.
-/

namespace SmppReplay
namespace Document
namespace Toml

/-- How many arrays and inline tables may lie inside each other, and how many parts a key
may have. -/
def depthLimit : Nat := 79

/-- A character of a key without quotes. -/
def isBareChar (c : Char) : Bool :=
  c.isAlphanum || c == '_' || c == '-'

/-- The characters without blanks at the start. -/
def skip (cs : List Char) : List Char :=
  cs.dropWhile isBlank

/-- What follows the comment at the start, if there is one. -/
def skipComment? : List Char → Option (List Char)
  | '#' :: r =>
      let rest := r.dropWhile isVisible
      if rest.isEmpty || opensLine rest then some rest else none
  | r => some r

/-- What follows blanks, comments and line breaks. -/
def skipLines? : Nat → List Char → Option (List Char)
  | 0, _ => none
  | fuel + 1, cs => do
      let r ← skipComment? (skip cs)
      match r with
      | '\n' :: r => skipLines? fuel r
      | '\r' :: '\n' :: r => skipLines? fuel r
      | r => some r

/-- What follows the rest of a line, which holds no more than a comment. -/
def endLine? (cs : List Char) : Option (List Char) := do
  let r ← skipComment? (skip cs)
  if r.isEmpty || opensLine r then some (dropBreak r) else none

/-- One part of a key, and what follows it. -/
def keyPart? (cs : List Char) : Option (String × List Char) :=
  match cs with
  | '"' :: _ => line? cs
  | '\'' :: _ => line? cs
  | _ =>
      let bare := cs.takeWhile isBareChar
      if bare.isEmpty then none else some (String.ofList bare, cs.dropWhile isBareChar)

/-- The parts of a key, with blanks around the dots, and what follows it. -/
def keyParts? : Nat → List Char → Option (List String × List Char)
  | 0, _ => none
  | fuel + 1, cs => do
      let (part, r) ← keyPart? (skip cs)
      match skip r with
      | '.' :: r =>
          let (parts, rest) ← keyParts? fuel r
          return (part :: parts, rest)
      | rest => return ([part], rest)

/-- A key: the path to it, the key itself, and what follows it. -/
def key? (cs : List Char) : Option (List String × String × List Char) := do
  let (parts, rest) ← keyParts? depthLimit cs
  let last ← parts.getLast?
  return (parts.dropLast, last, rest)

mutual

/-- A value, and what follows it; `depth` more arrays and inline tables may lie inside each
other. -/
def value? (depth : Nat) : Nat → List Char → Option (Document × List Char)
  | 0, _ => none
  | fuel + 1, cs =>
      match cs with
      | '"' :: _ => (text? cs).map fun (s, rest) => (.text s, rest)
      | '\'' :: _ => (text? cs).map fun (s, rest) => (.text s, rest)
      | '[' :: r =>
          if depth = 0 then none
          else (items? (depth - 1) fuel r).map fun (ds, rest) => (.list ds, rest)
      | '\x7b' :: r =>
          if depth = 0 then none
          else
            match skip r with
            | '\x7d' :: rest => some (.record [], rest)
            | r =>
                (inline? (depth - 1) fuel [] r).map fun (es, rest) => (document es, rest)
      | _ => scalar? cs

/-- The items of an array up to its closing bracket; a comma may stand behind the last one. -/
def items? (depth : Nat) : Nat → List Char → Option (List Document × List Char)
  | 0, _ => none
  | fuel + 1, cs => do
      match ← skipLines? (cs.length + 1) cs with
      | ']' :: rest => some ([], rest)
      | r => do
          let (d, r) ← value? depth fuel r
          match ← skipLines? (r.length + 1) r with
          | ']' :: rest => some ([d], rest)
          | ',' :: r => do
              let (ds, rest) ← items? depth fuel r
              return (d :: ds, rest)
          | _ => none

/-- The entries of an inline table that is not empty, after `entries`, up to its closing
brace. -/
def inline? (depth : Nat) : Nat → Entries → List Char → Option (Entries × List Char)
  | 0, _, _ => none
  | fuel + 1, entries, cs => do
      let (path, key, r) ← key? cs
      match skip r with
      | '=' :: r => do
          let (d, r) ← value? depth fuel (skip r)
          let entries ← assign key d path entries
          match skip r with
          | '\x7d' :: rest => some (entries, rest)
          | ',' :: r => inline? depth fuel entries r
          | _ => none
      | _ => none

end

/-- A key with its value on the rest of a line: the change of the table, and what follows
the line. -/
def assignment? (cs : List Char) : Option ((Entries → Option Entries) × List Char) := do
  let (path, key, r) ← key? cs
  match skip r with
  | '=' :: r => do
      let r := skip r
      let (d, r) ← value? depthLimit (2 * r.length + 2) r
      return (assign key d path, ← endLine? r)
  | _ => none

/-- The table with the lines of a file added, below the table at the path `section`. -/
def lines? : Nat → List String → Entries → List Char → Option Entries
  | 0, _, _, _ => none
  | fuel + 1, path, root, cs =>
      match skip cs with
      | [] => some root
      | '[' :: '[' :: r => do
          let (outer, key, r) ← key? r
          match r with
          | ']' :: ']' :: r => do
              let root ← within (append key) outer root
              lines? fuel (outer ++ [key]) root (← endLine? r)
          | _ => none
      | '[' :: r => do
          let (outer, key, r) ← key? r
          match r with
          | ']' :: r => do
              let root ← within (define key) outer root
              lines? fuel (outer ++ [key]) root (← endLine? r)
          | _ => none
      | c :: r => do
          if c = '#' ∨ c = '\n' ∨ c = '\r' then
            lines? fuel path root (← endLine? (c :: r))
          else
            let (change, r) ← assignment? (c :: r)
            lines? fuel path (← within change path root) r

/-- The record of a file.  Every line has a character, which bounds their number. -/
def read? (s : String) : Option Document :=
  let cs := match s.toList with
    | '\uFEFF' :: r => r
    | r => r
  (lines? (cs.length + 1) [] [] cs).map document

end Toml
end Document
end SmppReplay
