import SmppReplay.Script.Error
import SmppReplay.Text.Numeral

/-!
# Entities

In texts and attribute values an ampersand and the next semicolon enclose the name or the
number of a character.

* `unescape` replaces the entities of a text; offsets in faults count octets from its start.
-/

namespace SmppReplay
namespace Script
namespace Xml

/-- The number of octets of the characters. -/
def octetCount (cs : List Char) : Nat :=
  cs.foldl (fun n c => n + c.utf8Size) 0

/-- The character that has the number of the first octet of `c`. -/
def firstOctet (c : Char) : Char :=
  Char.ofNat ((String.utf8EncodeChar c).headD 0).toNat

/-- The value of digits in a radix, or the first character that is no digit of it. -/
def readNumber (radix : Nat) (acc : Nat) : List Char → Except Char Nat
  | [] => .ok acc
  | c :: cs =>
      match Text.Numeral.digitIn? radix c with
      | some d => readNumber radix (acc * radix + d) cs
      | none => .error (firstOctet c)

/-- The number that a character reference writes after its number sign. -/
def referenceNumber (cs : List Char) : Except MarkupFault Nat :=
  match cs with
  | 'x' :: digits =>
      if 6 < octetCount digits then .error .longHexadecimal
      else (readNumber 16 0 digits).mapError .badHexadecimal
  | digits =>
      if 7 < octetCount digits then .error .longDecimal
      else (readNumber 10 0 digits).mapError .badDecimal

/-- The character with the given number. -/
def characterOf (start stop n : Nat) : Except MarkupFault Char :=
  if n = 0 then .error (.nullCharacter start stop)
  else if n.isValidChar then .ok (Char.ofNat n)
  else .error (.badCodePoint n)

/-- The characters that have names. -/
def namedCharacter? (name : List Char) : Option Char :=
  if name = ['l', 't'] then some '<'
  else if name = ['g', 't'] then some '>'
  else if name = ['a', 'm', 'p'] then some '&'
  else if name = ['a', 'p', 'o', 's'] then some '\''
  else if name = ['q', 'u', 'o', 't'] then some '"'
  else none

/-- The character of an entity; its ampersand stands at `start` and its semicolon at `stop`. -/
def entity (start stop : Nat) (name : List Char) : Except MarkupFault Char :=
  match name with
  | '#' :: number => do
      let n ← referenceNumber number
      characterOf start stop n
  | _ =>
      match namedCharacter? name with
      | some c => .ok c
      | none => .error (.unknownEntity (start + 1) stop (String.ofList name))

/-- What has been read of an entity: its name in reverse and the offset of its ampersand. -/
abbrev OpenEntity := Option (List Char × Nat)

/-- Replaces the entities from offset `pos` on; `size` is the number of octets of the whole
text. -/
def unescapeFrom (size pos : Nat) : OpenEntity → List Char → Except MarkupFault (List Char)
  | none, [] => .ok []
  | some (_, start), [] => .error (.unterminatedEntity start size)
  | none, c :: cs =>
      if c = '&' then unescapeFrom size (pos + 1) (some ([], pos)) cs
      else (unescapeFrom size (pos + c.utf8Size) none cs).map fun r => c :: r
  | some (name, start), c :: cs =>
      if c = ';' then do
        let d ← entity start pos name.reverse
        let r ← unescapeFrom size (pos + 1) none cs
        return d :: r
      else if c = '&' then .error (.unterminatedEntity start size)
      else unescapeFrom size (pos + c.utf8Size) (some (c :: name, start)) cs

/-- The text with its entities replaced. -/
def unescape (cs : List Char) : Except MarkupFault (List Char) :=
  unescapeFrom (octetCount cs) 0 none cs

end Xml
end Script
end SmppReplay
