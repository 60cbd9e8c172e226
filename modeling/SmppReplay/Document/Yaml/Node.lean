import SmppReplay.Document.Value
import SmppReplay.Document.Yaml.Token

/-!
# Reading YAML

**Input.**  The characters of a file.

**Algorithm.** The tokens are read by descent.  A node that has nothing but an anchor or a
tag, or that is left out, is an empty text without quotes.  An alias stands for the node
with its anchor; inside that node it cannot be read.  Tags have no effect.

**Result.**  `Yaml.read?` gives the document of a file that holds at most one.
-/

namespace SmppReplay
namespace Document
namespace Yaml

/-- A node that is left out. -/
def emptyNode : Document := .plain ""

/-- The documents of the anchors so far, the last one first. -/
abbrev Anchors := List (String × Document)

/-- What stands in front of the contents of a node. -/
structure Properties where
  anchor : Option String
  tag : Option String
  deriving DecidableEq, Repr

/-- The properties at the start, an anchor and a tag in either order, and what follows them. -/
def properties : List Token → Properties × List Token
  | .anchor a :: .tag t :: r => (⟨some a, some t⟩, r)
  | .tag t :: .anchor a :: r => (⟨some a, some t⟩, r)
  | .anchor a :: r => (⟨some a, none⟩, r)
  | .tag t :: r => (⟨none, some t⟩, r)
  | r => (⟨none, none⟩, r)

/-- The tag can be resolved. -/
def Properties.resolves (p : Properties) (handles : List String) : Bool :=
  p.tag.all fun t => t == "" || handles.contains t

/-- No node stands in front of the token in a block. -/
def endsBlockNode : List Token → Bool
  | .key :: _ => true
  | .value :: _ => true
  | .blockEnd :: _ => true
  | _ => false

/-- What has been read, with the anchors and the tokens behind it. -/
abbrev Read (α : Type) := α × Anchors × List Token

mutual

/-- A node.  In a block, lists and records may be blocks, and behind a key a list need not
be indented. -/
def node? (handles : List String) :
    Nat → (block unindented : Bool) → Anchors → List Token → Option (Read Document)
  | 0, _, _, _, _ => none
  | fuel + 1, block, unindented, anchors, ts =>
      match ts with
      | .alias name :: rest => (anchors.lookup name).map fun d => (d, anchors, rest)
      | ts => do
          let (p, ts) := properties ts
          guard (p.resolves handles)
          let inside := p.anchor.elim anchors fun a => (a, .unreadable) :: anchors
          let (d, anchors, rest) ← contents? handles fuel block unindented inside
            (p.anchor.isSome || p.tag.isSome) ts
          return (d, p.anchor.elim anchors fun a => (a, d) :: anchors, rest)

/-- The contents of a node; they may be left out behind properties. -/
def contents? (handles : List String) :
    Nat → (block unindented : Bool) → Anchors → (optional : Bool) → List Token →
      Option (Read Document)
  | 0, _, _, _, _, _ => none
  | fuel + 1, block, unindented, anchors, optional, ts =>
      let orEmpty := if optional then some (emptyNode, anchors, ts) else none
      match ts with
      | .item :: _ =>
          if unindented then
            (unindentedItems? handles fuel anchors ts).map fun (ds, r) => (.list ds, r)
          else orEmpty
      | .scalar isPlain s :: rest =>
          some (if isPlain then .plain s else .text s, anchors, rest)
      | .flowSequence :: rest =>
          (flowItems? handles fuel true anchors rest).map fun (ds, r) => (.list ds, r)
      | .flowMapping :: rest =>
          (flowEntries? handles fuel true anchors rest).map fun (es, r) => (.record es, r)
      | .blockSequence :: rest =>
          if block then (blockItems? handles fuel anchors rest).map fun (ds, r) =>
            (.list ds, r)
          else orEmpty
      | .blockMapping :: rest =>
          if block then (blockEntries? handles fuel anchors rest).map fun (es, r) =>
            (.record es, r)
          else orEmpty
      | _ => orEmpty

/-- The items of a block up to its end. -/
def blockItems? (handles : List String) :
    Nat → Anchors → List Token → Option (Read (List Document))
  | 0, _, _ => none
  | fuel + 1, anchors, ts =>
      match ts with
      | .blockEnd :: rest => some ([], anchors, rest)
      | .item :: ts => do
          let (d, anchors, ts) ← match ts with
            | .item :: _ => some (emptyNode, anchors, ts)
            | .blockEnd :: _ => some (emptyNode, anchors, ts)
            | ts => node? handles fuel true false anchors ts
          let (ds, r) ← blockItems? handles fuel anchors ts
          return (d :: ds, r)
      | _ => none

/-- The items of a list that stands at the column of its key. -/
def unindentedItems? (handles : List String) :
    Nat → Anchors → List Token → Option (Read (List Document))
  | 0, _, _ => none
  | fuel + 1, anchors, ts =>
      match ts with
      | .item :: ts => do
          let (d, anchors, ts) ←
            match ts with
            | .item :: _ => some (emptyNode, anchors, ts)
            | ts =>
                if endsBlockNode ts then some (emptyNode, anchors, ts)
                else node? handles fuel true false anchors ts
          let (ds, r) ← unindentedItems? handles fuel anchors ts
          return (d :: ds, r)
      | rest => some ([], anchors, rest)

/-- The entries of a block up to its end. -/
def blockEntries? (handles : List String) :
    Nat → Anchors → List Token → Option (Read (List (Option String × Document)))
  | 0, _, _ => none
  | fuel + 1, anchors, ts =>
      match ts with
      | .blockEnd :: rest => some ([], anchors, rest)
      | .key :: ts => do
          let (k, anchors, ts) ←
            if endsBlockNode ts then some (emptyNode, anchors, ts)
            else node? handles fuel true true anchors ts
          let (d, anchors, ts) ← match ts with
            | .value :: ts =>
                if endsBlockNode ts then some (emptyNode, anchors, ts)
                else node? handles fuel true true anchors ts
            | ts => some (emptyNode, anchors, ts)
          let (es, r) ← blockEntries? handles fuel anchors ts
          return ((k.keyName?, d) :: es, r)
      | _ => none

/-- The items between brackets up to the closing one.  A key among them opens a record with
one entry; where nothing stands behind its mark, the next token is lost. -/
def flowItems? (handles : List String) : Nat → (first : Bool) → Anchors → List Token →
    Option (Read (List Document))
  | 0, _, _, _ => none
  | fuel + 1, first, anchors, ts =>
      match ts with
      | .flowSequenceEnd :: rest => some ([], anchors, rest)
      | ts => do
          let ts ← if first then some ts else match ts with
            | .comma :: ts => some ts
            | _ => none
          match ts with
          | .flowSequenceEnd :: rest => some ([], anchors, rest)
          | .key :: ts => do
              let (k, anchors, ts) ← match ts with
                | .value :: ts => some (emptyNode, anchors, ts)
                | .comma :: ts => some (emptyNode, anchors, ts)
                | .flowSequenceEnd :: ts => some (emptyNode, anchors, ts)
                | ts => node? handles fuel false false anchors ts
              let (d, anchors, ts) ← match ts with
                | .value :: .comma :: ts => some (emptyNode, anchors, .comma :: ts)
                | .value :: .flowSequenceEnd :: ts =>
                    some (emptyNode, anchors, .flowSequenceEnd :: ts)
                | .value :: ts => node? handles fuel false false anchors ts
                | ts => some (emptyNode, anchors, ts)
              let (ds, r) ← flowItems? handles fuel false anchors ts
              return (.record [(k.keyName?, d)] :: ds, r)
          | ts => do
              let (d, anchors, ts) ← node? handles fuel false false anchors ts
              let (ds, r) ← flowItems? handles fuel false anchors ts
              return (d :: ds, r)

/-- The entries between braces up to the closing one.  A node without the mark of a key is a
key without a value. -/
def flowEntries? (handles : List String) : Nat → (first : Bool) → Anchors → List Token →
    Option (Read (List (Option String × Document)))
  | 0, _, _, _ => none
  | fuel + 1, first, anchors, ts =>
      match ts with
      | .flowMappingEnd :: rest => some ([], anchors, rest)
      | ts => do
          let ts ← if first then some ts else match ts with
            | .comma :: ts => some ts
            | _ => none
          match ts with
          | .flowMappingEnd :: rest => some ([], anchors, rest)
          | .key :: ts => do
              let (k, anchors, ts) ← match ts with
                | .value :: _ => some (emptyNode, anchors, ts)
                | .comma :: _ => some (emptyNode, anchors, ts)
                | .flowMappingEnd :: _ => some (emptyNode, anchors, ts)
                | ts => node? handles fuel false false anchors ts
              let (d, anchors, ts) ← match ts with
                | .value :: .comma :: ts => some (emptyNode, anchors, .comma :: ts)
                | .value :: .flowMappingEnd :: ts =>
                    some (emptyNode, anchors, .flowMappingEnd :: ts)
                | .value :: ts => node? handles fuel false false anchors ts
                | ts => some (emptyNode, anchors, ts)
              let (es, r) ← flowEntries? handles fuel false anchors ts
              return ((k.keyName?, d) :: es, r)
          | ts => do
              let (k, anchors, ts) ← node? handles fuel false false anchors ts
              let (es, r) ← flowEntries? handles fuel false anchors ts
              return ((k.keyName?, emptyNode) :: es, r)

end

/-- The handles that need no declaration. -/
def standardHandles : List String := ["!", "!!"]

/-- The declared handles of the directives at the start, if there is at most one version and
no handle is declared twice, and what follows them. -/
def directives? (version : Bool) (handles : List String) :
    List Token → Option (List String × List Token)
  | .version supported :: r =>
      if version || !supported then none else directives? true handles r
  | .handle h :: r =>
      if handles.contains h then none else directives? version (h :: handles) r
  | r => some (handles, r)

/-- The tokens open with a directive or the mark of a document's start. -/
def opensDocument : List Token → Bool
  | .version _ :: _ => true
  | .handle _ :: _ => true
  | .documentStart :: _ => true
  | _ => false

/-- The node of a document behind its start mark, which may be left out. -/
def explicitNode? (handles : List String) (ts : List Token) : Option (Read Document) :=
  match ts with
  | [] => some (emptyNode, [], [])
  | .documentEnd :: _ => some (emptyNode, [], ts)
  | _ =>
      if opensDocument ts then some (emptyNode, [], ts)
      else node? handles (3 * ts.length + 3) true false [] ts

/-- The document of tokens. -/
def ofTokens? (ts : List Token) : Option Document :=
  if ts.isEmpty then some emptyNode
  else do
    let (d, _, rest) ←
      if opensDocument ts then do
        let (handles, ts) ← directives? false [] ts
        match ts with
        | .documentStart :: ts => explicitNode? (standardHandles ++ handles) ts
        | _ => none
      else node? standardHandles (3 * ts.length + 3) true false [] ts
    if rest.all (· == .documentEnd) then some d else none

/-- The document of a text. -/
def read? (s : String) : Option Document :=
  (tokens? s.toList).bind ofTokens?

end Yaml
end Document
end SmppReplay
