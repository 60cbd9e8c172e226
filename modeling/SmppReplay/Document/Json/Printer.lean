import SmppReplay.Text.Numeral

/-!
# Writing JSON

Texts between quotes, and records with one entry a line, two blanks deeper than the record.
-/

namespace SmppReplay
namespace Document
namespace Json

/-- A character as it stands between the quotes. -/
def encodeChar (c : Char) : List Char :=
  if c = '"' ∨ c = '\\' then ['\\', c]
  else if c = '\n' then ['\\', 'n']
  else if c = '\r' then ['\\', 'r']
  else if c = '\t' then ['\\', 't']
  else if c = Char.ofNat 8 then ['\\', 'b']
  else if c = Char.ofNat 12 then ['\\', 'f']
  else if c.toNat < 0x20 then
    let digits := Nat.toDigits 16 c.toNat
    '\\' :: 'u' :: List.replicate (4 - digits.length) '0' ++ digits
  else [c]

/-- A text between quotes. -/
def text (s : String) : String :=
  String.ofList ('"' :: s.toList.flatMap encodeChar ++ ['"'])

/-- The start of a line at a depth. -/
def margin (depth : Nat) : String :=
  String.ofList ('\n' :: List.replicate (2 * depth) ' ')

/-- A record at a depth, from its names and its written values. -/
def record (depth : Nat) (entries : List (String × String)) : String :=
  let lines := entries.map fun e => margin (depth + 1) ++ text e.1 ++ ": " ++ e.2
  "\x7b" ++ String.intercalate "," lines ++ margin depth ++ "\x7d"

end Json
end Document
end SmppReplay
