import SmppReplay.Text.AsciiCase
import SmppReplay.Text.Blank

/-!
# Elements

A script is a tree of elements: each has a name, attributes in order, the text that stands
directly in it, and child elements.  Look-ups by name take the first match; names of
attributes and children are compared exactly, an element's own name without regard to the
case of ASCII letters.
-/

namespace SmppReplay
namespace Script

/-- An element of a script. -/
inductive Element where
  | mk (name : String) (attributes : List (String × String)) (text : String)
      (children : List Element)
  deriving Repr

namespace Element

def name : Element → String
  | mk n _ _ _ => n

def attributes : Element → List (String × String)
  | mk _ as _ _ => as

/-- The text directly in the element, joined over its children. -/
def text : Element → String
  | mk _ _ t _ => t

def children : Element → List Element
  | mk _ _ _ cs => cs

/-- An element with a name only. -/
def ofName (n : String) : Element :=
  mk n [] "" []

/-- The element with one more attribute. -/
def withAttribute (e : Element) (key value : String) : Element :=
  mk e.name (e.attributes ++ [(key, value)]) e.text e.children

/-- The element with more text. -/
def withText (e : Element) (s : String) : Element :=
  mk e.name e.attributes (e.text ++ s) e.children

/-- The element with one more child. -/
def withChild (e child : Element) : Element :=
  mk e.name e.attributes e.text (e.children ++ [child])

/-- The element with one more child that holds a text. -/
def withField (e : Element) (n s : String) : Element :=
  e.withChild ((ofName n).withText s)

/-- The element's name is the given one, up to the case of ASCII letters. -/
def isNamed (e : Element) (n : String) : Bool :=
  Text.eqIgnoringCase e.name n

/-- The value of an attribute. -/
def attribute? (e : Element) (key : String) : Option String :=
  e.attributes.lookup key

/-- The first child with the given name. -/
def child? (e : Element) (n : String) : Option Element :=
  e.children.find? fun c => c.name == n

/-- The children with the given name. -/
def childrenNamed (e : Element) (n : String) : List Element :=
  e.children.filter fun c => c.name == n

/-- The element's text without the blanks at both ends. -/
def trimmedText (e : Element) : String :=
  Text.trim e.text

end Element

end Script
end SmppReplay
