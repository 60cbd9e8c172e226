/-!
# Documents

The value that a settings file or a stored report holds, whatever the file is written in.

A document says no more than its readers ask for.  A number that is not written as a whole
number has no value, since no reader takes one.  A value that can be passed over, but that
nobody can read, keeps its place as `unreadable`.
-/

namespace SmppReplay

/-- A value in a structured file. -/
inductive Document where
  | null
  | bool (b : Bool)
  | integer (n : Int)
  /-- A number that is not written as a whole number. -/
  | decimal
  | text (s : String)
  /-- A text without quotes; the place where it stands decides how it is read. -/
  | plain (s : String)
  | list (items : List Document)
  /-- Named values in the order of the file; a key that is no text has no name. -/
  | record (entries : List (Option String × Document))
  /-- A value that can be passed over but not read. -/
  | unreadable
  deriving Repr

namespace Document

/-- The key that a document stands for in front of a value. -/
def keyName? : Document → Option String
  | .text s => some s
  | .plain s => some s
  | _ => none

/-- Every value in the document can be read, and no more than `depth` lists and records lie
inside each other. -/
def readableWithin : Nat → Document → Bool
  | _, .unreadable => false
  | 0, .list _ => false
  | 0, .record _ => false
  | depth + 1, .list items => items.all (readableWithin depth)
  | depth + 1, .record entries => entries.all fun e => e.1.isSome && readableWithin depth e.2
  | _, _ => true

end Document
end SmppReplay
