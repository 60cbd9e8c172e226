import SmppReplay.Text.Numeral
import SmppReplay.Text.Printable

/-!
# Quoted texts

A text between double quotes on one line, for messages that show a value.  A backslash
stands before a quote and before a backslash; NUL, tab, line feed and carriage return have
short escapes; any other character that does not show by itself is written by its number.
-/

namespace SmppReplay
namespace Text
namespace Quoted

/-- The number of a character between braces, after a backslash and the letter u. -/
def numbered (c : Char) : List Char :=
  "\\u\x7b".toList ++ (Numeral.hexLower c.toNat).toList ++ ['\x7d']

/-- A character as it stands between the quotes. -/
def encodeChar (c : Char) : List Char :=
  if c = '\x00' then ['\\', '0']
  else if c = '\t' then ['\\', 't']
  else if c = '\n' then ['\\', 'n']
  else if c = '\r' then ['\\', 'r']
  else if c = '"' ∨ c = '\\' then ['\\', c]
  else if extendsGrapheme c || !isPrintable c then numbered c
  else [c]

end Quoted

/-- The text between double quotes. -/
def quoted (s : String) : String :=
  String.ofList ('"' :: s.toList.flatMap Quoted.encodeChar ++ ['"'])

/-- The name of a file between double quotes, where a single quote takes a backslash too. -/
def quotedPath (s : String) : String :=
  let encode (c : Char) : List Char := if c = '\'' then ['\\', c] else Quoted.encodeChar c
  String.ofList ('"' :: s.toList.flatMap encode ++ ['"'])

end Text
end SmppReplay
