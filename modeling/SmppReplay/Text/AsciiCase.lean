/-!
# Letter case of ASCII

Case folding that touches the letters A to Z only; every other character stands for itself.
-/

namespace SmppReplay
namespace Text

/-- The text with the letters a to z in upper case. -/
def upperAscii (s : String) : String :=
  String.ofList (s.toList.map Char.toUpper)

/-- Two texts are equal up to the case of ASCII letters. -/
def eqIgnoringCase (s t : String) : Bool :=
  s.toList.map Char.toLower == t.toList.map Char.toLower

end Text
end SmppReplay
