import SmppReplay.Document.Value

/-!
# Tables of TOML

A table grows line by line, so it remembers how each part of it came about: by a header of
its own, by the header of a table inside it, or by a key with dots.  Values are closed;
nothing can be added to them.

* `define` opens a table by its header, `append` one more table of an array.
* `assign` sets a value under a key with dots, below the table of the header that stands
  above.
* `document` is the finished record.
-/

namespace SmppReplay
namespace Document
namespace Toml

/-- How a table came about. -/
inductive Origin where
  /-- By its own header. -/
  | header
  /-- By the header of a table inside it. -/
  | inner
  /-- By a key with dots. -/
  | dots
  deriving DecidableEq, Repr

/-- What a key of a table stands for. -/
inductive Item where
  | value (d : Document)
  | table (origin : Origin) (entries : List (String × Item))
  /-- An array of tables; the last one still grows. -/
  | tables (earlier : List (List (String × Item))) (last : List (String × Item))

/-- The entries of a table, each key once. -/
abbrev Entries := List (String × Item)

/-- Replaces what a key stands for. -/
def update (key : String) (f : Option Item → Option Item) : Entries → Option Entries
  | [] => (f none).map fun i => [(key, i)]
  | (k, i) :: r =>
      if k = key then (f (some i)).map fun j => (k, j) :: r
      else (update key f r).map ((k, i) :: ·)

/-- Changes the table at a header's path; the tables on the way need not be there. -/
def within (f : Entries → Option Entries) : List String → Entries → Option Entries
  | [], es => f es
  | k :: ks, es =>
      update k (fun
        | none => (within f ks []).map (.table .inner)
        | some (.table origin sub) => (within f ks sub).map (.table origin)
        | some (.tables earlier last) => (within f ks last).map (.tables earlier)
        | some (.value _) => none) es

/-- Opens the table with a key by its header.  It may be there only as the way to a table
inside it. -/
def define (key : String) : Entries → Option Entries :=
  update key fun
    | none => some (.table .header [])
    | some (.table .inner sub) => some (.table .header sub)
    | some _ => none

/-- Opens one more table of the array with a key. -/
def append (key : String) : Entries → Option Entries :=
  update key fun
    | none => some (.tables [] [])
    | some (.tables earlier last) => some (.tables (earlier ++ [last]) [])
    | some _ => none

/-- Sets a value under a path and a key.  A table with a header of its own is not entered,
and the table that takes the value is one that a key with dots made. -/
def assign (key : String) (d : Document) : List String → Entries → Option Entries
  | [], es =>
      update key (fun
        | none => some (.value d)
        | some _ => none) es
  | k :: ks, es =>
      update k (fun
        | none => (assign key d ks []).map (.table .dots)
        | some (.table .header _) => none
        | some (.table .inner sub) =>
            if ks.isEmpty then none else (assign key d ks sub).map (.table .inner)
        | some (.table .dots sub) => (assign key d ks sub).map (.table .dots)
        | some (.tables earlier last) =>
            if ks.isEmpty then none else (assign key d ks last).map (.tables earlier)
        | some (.value _) => none) es

mutual

/-- The document that an item stands for. -/
def Item.document : Item → Document
  | .value d => d
  | .table _ entries => .record (entryDocuments entries)
  | .tables earlier last => .list (tableDocuments earlier ++ [.record (entryDocuments last)])

/-- The entries of the record that a table stands for. -/
def entryDocuments : List (String × Item) → List (Option String × Document)
  | [] => []
  | (k, i) :: r => (some k, i.document) :: entryDocuments r

/-- The records that tables stand for. -/
def tableDocuments : List (List (String × Item)) → List Document
  | [] => []
  | es :: r => .record (entryDocuments es) :: tableDocuments r

end

/-- The record that a table stands for. -/
def document (es : Entries) : Document :=
  .record (entryDocuments es)

end Toml
end Document
end SmppReplay
