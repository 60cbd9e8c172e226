import SmppReplay.Script.Xml.Token

/-!
# Attributes

The content of an element's tag is a name, up to the first white space, and attributes: a
key, an equals sign and a quoted value, with white space anywhere between them.  Offsets
count octets from the start of the content.
-/

namespace SmppReplay
namespace Script
namespace Xml

/-- The white space at the start, and the rest. -/
def skipSpace (pos : Nat) (cs : List Char) : Nat × List Char :=
  (pos + (cs.takeWhile isSpace).length, cs.dropWhile isSpace)

/-- A character that does not end a key. -/
def isKeyChar (c : Char) : Bool :=
  c != '=' && !isSpace c

/-- Reads the equals sign after a key; `size` is the offset of the content's end. -/
def readEquals (size pos : Nat) (cs : List Char) : Except MarkupFault (Nat × List Char) :=
  match skipSpace pos cs with
  | (p, '=' :: r) => .ok (p + 1, r)
  | (p, _ :: _) => .error (.attributeWithoutEquals p)
  | (_, []) => .error (.attributeWithoutEquals size)

/-- Reads a quoted value; `size` is the offset of the content's end. -/
def readValue (size pos : Nat) (cs : List Char) :
    Except MarkupFault (List Char × Nat × List Char) :=
  match skipSpace pos cs with
  | (_, []) => .error (.attributeWithoutValue size)
  | (p, q :: r) =>
      if q = '"' ∨ q = '\'' then
        let value := r.takeWhile (· != q)
        match r.dropWhile (· != q) with
        | _ :: rest => .ok (value, p + 2 + octetCount value, rest)
        | [] => .error (.unclosedValue size q)
      else .error (.unquotedValue p)

/-- An attribute as it stands in the tag: key, offset of the key, value. -/
structure RawAttribute where
  key : List Char
  offset : Nat
  value : List Char
  deriving Repr

/-- Reads one attribute whose key starts with the character `c` at `pos`.  A key among
`seen` is a fault, before its value is looked at. -/
def readAttribute (size : Nat) (seen : List RawAttribute) (pos : Nat) (c : Char)
    (cs : List Char) :
    Except MarkupFault (RawAttribute × Nat × List Char) := do
  let key := c :: cs.takeWhile isKeyChar
  let (p, r) ← readEquals size (pos + octetCount key) (cs.dropWhile isKeyChar)
  if let some earlier := seen.find? fun a => a.key == key then
    throw (.duplicatedAttribute pos earlier.offset)
  let (value, p', rest) ← readValue size p r
  return (⟨key, pos, value⟩, p', rest)

theorem length_dropWhile_le (p : Char → Bool) (cs : List Char) :
    (cs.dropWhile p).length ≤ cs.length :=
  (List.dropWhile_sublist p).length_le

theorem length_le_of_readEquals {size pos p : Nat} {cs r : List Char}
    (h : readEquals size pos cs = .ok (p, r)) : r.length ≤ cs.length := by
  have hle := length_dropWhile_le isSpace cs
  unfold readEquals at h
  split at h
  · next heq =>
    simp only [skipSpace, Prod.mk.injEq] at heq
    simp only [Except.ok.injEq, Prod.mk.injEq] at h
    have := congrArg List.length heq.2
    simp only [List.length_cons, h.2] at this
    omega
  · simp at h
  · simp at h

theorem length_le_of_readValue {size pos p : Nat} {cs v r : List Char}
    (h : readValue size pos cs = .ok (v, p, r)) : r.length ≤ cs.length := by
  have hle := length_dropWhile_le isSpace cs
  unfold readValue at h
  split at h
  · simp at h
  · next q t heq =>
    simp only [skipSpace, Prod.mk.injEq] at heq
    have hlen := congrArg List.length heq.2
    simp only [List.length_cons] at hlen
    split at h
    · split at h
      · next hd =>
        simp only [Except.ok.injEq, Prod.mk.injEq] at h
        have hr := congrArg List.length hd
        have hq := length_dropWhile_le (· != q) t
        simp only [List.length_cons, h.2.2] at hr
        omega
      · simp at h
    · simp at h

theorem length_le_of_readAttribute {size pos p : Nat} {seen : List RawAttribute} {c : Char}
    {cs r : List Char} {a : RawAttribute}
    (h : readAttribute size seen pos c cs = .ok (a, p, r)) : r.length ≤ cs.length := by
  simp only [readAttribute, bind, Except.bind] at h
  split at h
  · simp at h
  · next x hx =>
    obtain ⟨p₁, r₁⟩ := x
    have h₁ := length_le_of_readEquals hx
    have h₂ := length_dropWhile_le isKeyChar cs
    split at h
    · simp [throw, throwThe, MonadExceptOf.throw] at h
    · simp only [pure, Except.pure] at h
      split at h
      · simp at h
      · next y hy =>
        obtain ⟨v, p₂, r₂⟩ := y
        have h₃ := length_le_of_readValue hy
        simp only [Except.ok.injEq, Prod.mk.injEq] at h
        rw [← h.2.2]
        omega

/-- Reads attributes up to the end of the content, replacing the entities of each value
before the next attribute is read. -/
def readAttributes (size : Nat) (seen : List RawAttribute) (pos : Nat) (cs : List Char) :
    Except MarkupFault (List (String × String)) :=
  match _hs : skipSpace pos cs with
  | (_, []) => .ok []
  | (p, c :: r) =>
      match _h : readAttribute size seen p c r with
      | .error e => .error e
      | .ok (a, p', rest) =>
          match unescape a.value with
          | .error e => .error e
          | .ok value =>
              (readAttributes size (seen ++ [a]) p' rest).map fun as =>
                (String.ofList a.key, String.ofList value) :: as
termination_by cs.length
decreasing_by
  have h₁ := length_le_of_readAttribute _h
  have h₂ := length_dropWhile_le isSpace cs
  simp only [skipSpace, Prod.mk.injEq] at _hs
  have h₃ := congrArg List.length _hs.2
  simp only [List.length_cons] at h₃
  omega

/-- The name and the attributes of an element's tag. -/
def readTag (content : List Char) : Except MarkupFault (String × List (String × String)) :=
  let name := content.takeWhile fun c => !isSpace c
  let rest := content.dropWhile fun c => !isSpace c
  (readAttributes (octetCount content) [] (octetCount name) rest).map fun as =>
    (String.ofList name, as)

end Xml
end Script
end SmppReplay
