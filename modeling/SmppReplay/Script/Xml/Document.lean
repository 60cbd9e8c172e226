import SmppReplay.Script.Element
import SmppReplay.Script.Xml.Attribute

/-!
# Documents

**Input.** A script as markup, and a reader of markup: it delivers tokens, takes the tags of
elements apart and replaces the entities of texts.

**Algorithm.** The tokens are taken one by one over a stack of open elements.  A start tag
opens an element, an end tag closes the innermost open one, and a closed element becomes the
last child of the element around it or, outside of all, the root.  Text and plain sections
are added to the innermost open element; text outside the root is ignored unread.

**Result.** `Reader.root` gives the root.  The first fault in document order wins; unclosed
elements and a missing root are found at the end.  `Element.ofXml` reads with
`Reader.standard`.
-/

namespace SmppReplay
namespace Script
namespace Xml

/-- A reader of markup, with the faults that it finds. -/
structure Reader (φ : Type) where
  /-- The tokens of a script. -/
  tokens : List Char → Tokens φ
  /-- The name and the attributes in the content of a tag. -/
  tag : List Char → Except φ (String × List (String × String))
  /-- A text with its entities replaced. -/
  text : List Char → Except φ (List Char)

/-- The reader for scripts. -/
def Reader.standard : Reader MarkupFault where
  tokens := Xml.tokens
  tag := readTag
  text := unescape

/-- The elements that are open, the innermost first, and the root if it is complete. -/
structure Builder where
  opened : List Element
  root : Option Element
  deriving Repr

variable {φ : Type}

/-- Puts a complete element into its place. -/
def Builder.attach (b : Builder) (e : Element) : Except (Error φ) Builder :=
  match b.opened with
  | parent :: outer => .ok { b with opened := parent.withChild e :: outer }
  | [] =>
      match b.root with
      | none => .ok { b with root := some e }
      | some _ => .error (.structural (.secondRoot e.name))

/-- Adds characters to the innermost open element. -/
def Builder.addText (b : Builder) (cs : List Char) : Builder :=
  match b.opened with
  | top :: outer => { b with opened := top.withText (String.ofList cs) :: outer }
  | [] => b

/-- Closes the innermost open element. -/
def Builder.close (b : Builder) : Except (Error φ) Builder :=
  match b.opened with
  | top :: outer => { b with opened := outer }.attach top
  | [] => .error (.structural .surplusEnd)

/-- The root of a complete document. -/
def Builder.finish (b : Builder) : Except (Error φ) Element :=
  match b.opened, b.root with
  | top :: _, _ => .error (.structural (.unclosed top.name))
  | [], some root => .ok root
  | [], none => .error (.structural .noRoot)

namespace Reader

/-- The element that a tag describes. -/
def element (r : Reader φ) (pos : Nat) (content : List Char) : Except (Error φ) Element :=
  match r.tag content with
  | .ok (name, attributes) => .ok (.mk name attributes "" [])
  | .error f => .error (.markup pos f)

/-- Takes one token. -/
def step (r : Reader φ) (b : Builder) (pos : Nat) : Token → Except (Error φ) Builder
  | .start content => do
      let e ← r.element pos content
      return { b with opened := e :: b.opened }
  | .empty content => do
      let e ← r.element pos content
      b.attach e
  | .close _ => b.close
  | .text raw =>
      if b.opened.isEmpty then .ok b
      else
        match r.text raw with
        | .ok cs => .ok (b.addText cs)
        | .error f => .error (.markup pos f)
  | .plain cs => .ok (b.addText cs)
  | .skipped => .ok b

/-- Takes some tokens. -/
def steps (r : Reader φ) (b : Builder) (ts : List (Nat × Token)) : Except (Error φ) Builder :=
  ts.foldlM (fun b t => r.step b t.1 t.2) b

/-- The root element of a script. -/
def root (r : Reader φ) (cs : List Char) : Except (Error φ) Element := do
  let ts := r.tokens cs
  let b ← r.steps ⟨[], none⟩ ts.tokens
  match ts.fault with
  | some (pos, f) => throw (.markup pos f)
  | none => b.finish

end Reader
end Xml

/-- The root element of a script. -/
def Element.ofXml (s : String) : Except Error Element :=
  Xml.Reader.standard.root s.toList

end Script
end SmppReplay
