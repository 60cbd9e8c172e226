import SmppReplay.Document.Value
import SmppReplay.Text.Numeral

/-!
# Reading documents

Taking the values that a reader expects out of a document.

A record is read by the names of its fields.  An entry without a field is passed over, a
field that is there twice is refused, and a field that is not there takes its default, if it
has one.  Some notations let a list stand for a record, its items in the order of the
fields.
-/

namespace SmppReplay
namespace Document

/-- How a list may stand for a record. -/
inductive Positional where
  | refused
  /-- Every item belongs to a field. -/
  | exact
  /-- Items behind the last field are passed over. -/
  | lenient
  deriving DecidableEq, Repr

/-- The whole number of an unquoted text.  A plus sign may come first, a radix may be named,
and a decimal numeral does not open with a zero. -/
def plainNatural? (cs : List Char) : Option Nat :=
  let unsigned := match cs with
    | '+' :: r => r
    | r => r
  match unsigned with
  | '0' :: 'x' :: r => Text.Numeral.ofDigits? 16 r
  | '0' :: 'o' :: r => Text.Numeral.ofDigits? 8 r
  | '0' :: 'b' :: r => Text.Numeral.ofDigits? 2 r
  | '0' :: _ :: _ => none
  | r => Text.Numeral.ofDigits? 10 r

/-- The text of a document. -/
def asText : Document → Option String :=
  keyName?

/-- The whole number of a document, from zero up to but without `bound`. -/
def asNatural (bound : Nat) : Document → Option Nat
  | .integer n => if 0 ≤ n ∧ n < bound then some n.toNat else none
  | .plain s => (plainNatural? s.toList).filter (· < bound)
  | _ => none

/-- The truth value of a document. -/
def asBool : Document → Option Bool
  | .bool b => some b
  | .plain s =>
      if s = "true" ∨ s = "True" ∨ s = "TRUE" then some true
      else if s = "false" ∨ s = "False" ∨ s = "FALSE" then some false
      else none
  | _ => none

/-- The items of a document; an empty text without quotes is an empty list. -/
def asList : Document → Option (List Document)
  | .list items => some items
  | .plain s => if s = "" then some [] else none
  | _ => none

/-- The fields of a record that are in a document. -/
abbrev Fields := List (String × Document)

/-- The entries of a record that belong to one of the fields, each field once. -/
def knownEntries (names : List String) (entries : List (Option String × Document)) :
    Option Fields := do
  let named ← entries.mapM fun e => e.1.map fun k => (k, e.2)
  let known := named.filter fun e => names.contains e.1
  if (known.map Prod.fst).Nodup then some known else none

/-- The fields with the given names; an empty text without quotes is an empty record. -/
def asFields (positional : Positional) (names : List String) : Document → Option Fields
  | .record entries => knownEntries names entries
  | .list items =>
      match positional with
      | .refused => none
      | .exact => if items.length ≤ names.length then some (names.zip items) else none
      | .lenient => some (names.zip items)
  | .plain s => if s = "" then some [] else none
  | _ => none

namespace Fields

/-- The value of a field that has to be there. -/
def required {α : Type} (fs : Fields) (name : String) (read : Document → Option α) :
    Option α :=
  (fs.lookup name).bind read

/-- The value of a field, or its default. -/
def withDefault {α : Type} (fs : Fields) (name : String) (read : Document → Option α)
    (default : α) : Option α :=
  match fs.lookup name with
  | some d => read d
  | none => some default

end Fields
end Document
end SmppReplay
