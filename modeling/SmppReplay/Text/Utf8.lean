/-!
# UTF-8

Texts as octets and octets as texts.

**Algorithm.** `scan` runs over the octets with a small state: either the next octet starts
a character, or some continuation octets are still expected and the next one must lie in a
given range.  A lead octet fixes how many continuation octets follow and the range of the
first of them, so overlong forms, surrogates and values above U+10FFFF are refused at the
earliest octet.  What was read of a character before the fault is one ill-formed piece.

* `encode` writes a text.
* `decode?` reads octets that are well formed from end to end.
* `decodeLossy` reads any octets; each ill-formed piece becomes U+FFFD.
-/

namespace SmppReplay
namespace Text
namespace Utf8

/-- The octets of a text. -/
def encode (s : String) : List UInt8 :=
  s.toList.flatMap String.utf8EncodeChar

/-- What the reader expects of the next octet. -/
inductive Expect where
  /-- The first octet of a character. -/
  | lead
  /-- A continuation octet in the range `lo..hi`, and `rest` further ones after it; `acc`
  holds the bits read so far. -/
  | cont (acc : Nat) (lo hi : UInt8) (rest : Nat)
  deriving DecidableEq, Repr

/-- A piece of the input: a character, or an ill-formed run of octets. -/
abbrev Piece := Option Char

/-- Reads an octet that must start a character. -/
def stepLead (b : UInt8) : List Piece × Expect :=
  if b < 0x80 then ([some (Char.ofNat b.toNat)], .lead)
  else if b < 0xC2 then ([none], .lead)
  else if b < 0xE0 then ([], .cont (b.toNat - 0xC0) 0x80 0xBF 0)
  else if b = 0xE0 then ([], .cont 0 0xA0 0xBF 1)
  else if b = 0xED then ([], .cont 0xD 0x80 0x9F 1)
  else if b < 0xF0 then ([], .cont (b.toNat - 0xE0) 0x80 0xBF 1)
  else if b = 0xF0 then ([], .cont 0 0x90 0xBF 2)
  else if b < 0xF4 then ([], .cont (b.toNat - 0xF0) 0x80 0xBF 2)
  else if b = 0xF4 then ([], .cont 4 0x80 0x8F 2)
  else ([none], .lead)

/-- Reads one octet.  An octet that does not continue the character ends an ill-formed piece
and is read again as a first octet. -/
def step : Expect → UInt8 → List Piece × Expect
  | .lead, b => stepLead b
  | .cont acc lo hi rest, b =>
      if lo ≤ b ∧ b ≤ hi then
        let acc' := acc * 64 + (b.toNat - 0x80)
        match rest with
        | 0 => ([some (Char.ofNat acc')], .lead)
        | n + 1 => ([], .cont acc' 0x80 0xBF n)
      else
        (none :: (stepLead b).1, (stepLead b).2)

/-- The pieces of the octets, read in a given state.  Input that ends inside a character
leaves one ill-formed piece. -/
def scan : Expect → List UInt8 → List Piece
  | .lead, [] => []
  | .cont .., [] => [none]
  | e, b :: bs => (step e b).1 ++ scan (step e b).2 bs

/-- Any octets as a text; each ill-formed piece becomes U+FFFD. -/
def decodeLossy (bs : List UInt8) : String :=
  String.ofList ((scan .lead bs).map fun p => p.getD '\uFFFD')

/-- The text that the octets write, if they are well formed. -/
def decode? (bs : List UInt8) : Option String :=
  ((scan .lead bs).mapM id).map String.ofList

end Utf8
end Text
end SmppReplay
