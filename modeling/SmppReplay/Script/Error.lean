import SmppReplay.Text.Quoted

/-!
# Faults of scripts

Why a text is not a script, with the wording of each cause.  Faults of the markup carry the
offset, in octets, of the item in which they lie.
-/

namespace SmppReplay
namespace Script

/-- Why a text is not well-formed markup. -/
inductive MarkupFault where
  /-- The text ends inside the named construct. -/
  | unexpectedEnd (reading : String)
  /-- No construct opens with `<!` and this character. -/
  | unknownDeclaration (c : Char)
  | emptyDoctype
  /-- An end tag does not name the innermost open element. -/
  | mismatchedEnd (expected found : String)
  | attributeWithoutEquals (offset : Nat)
  | attributeWithoutValue (offset : Nat)
  | unquotedValue (offset : Nat)
  | unclosedValue (offset : Nat) (quote : Char)
  | duplicatedAttribute (offset previous : Nat)
  /-- An ampersand at `start` without its semicolon; `stop` is the end of the text. -/
  | unterminatedEntity (start stop : Nat)
  | unknownEntity (start stop : Nat) (name : String)
  | nullCharacter (start stop : Nat)
  | longHexadecimal
  | longDecimal
  | badHexadecimal (c : Char)
  | badDecimal (c : Char)
  | badCodePoint (n : Nat)
  deriving DecidableEq, Repr

/-- Why markup is not one tree. -/
inductive StructureFault where
  /-- An end tag where no element is open. -/
  | surplusEnd
  | unclosed (name : String)
  | secondRoot (name : String)
  | noRoot
  deriving DecidableEq, Repr

/-- The faults of scripts; `φ` holds what the reader of the markup can complain of. -/
inductive Error (φ : Type := MarkupFault) where
  /-- The script cannot be read; the system's words. -/
  | io (text : String)
  | markup (offset : Nat) (fault : φ)
  | structural (fault : StructureFault)
  deriving DecidableEq, Repr

namespace MarkupFault

/-- The words in front of a fault inside an entity. -/
def inRange (start stop : Nat) (what : String) : String :=
  s!"Error while escaping character at range {start}..{stop}: " ++ what

/-- The wording of a fault of the markup. -/
def message : MarkupFault → String
  | .unexpectedEnd reading => "Unexpected EOF during reading " ++ reading
  | .unknownDeclaration c =>
      "Only Comment (`--`), CDATA (`[CDATA[`) and DOCTYPE (`DOCTYPE`) nodes can start with " ++
        s!"a '!', but symbol `{c}` found"
  | .emptyDoctype => "DOCTYPE declaration must not be empty"
  | .mismatchedEnd expected found => s!"Expecting </{expected}> found </{found}>"
  | .attributeWithoutEquals offset =>
      s!"position {offset}: attribute key must be directly followed by `=` or space"
  | .attributeWithoutValue offset =>
      s!"position {offset}: `=` must be followed by an attribute value"
  | .unquotedValue offset =>
      s!"position {offset}: attribute value must be enclosed in `\"` or `'`"
  | .unclosedValue offset quote =>
      s!"position {offset}: missing closing quote `{quote}` in attribute value"
  | .duplicatedAttribute offset previous =>
      s!"position {offset}: duplicated attribute, previous declaration at position {previous}"
  | .unterminatedEntity start stop => inRange start stop "Cannot find ';' after '&'"
  | .unknownEntity start stop name =>
      inRange start stop ("Unrecognized escape symbol: " ++ Text.quoted name)
  | .nullCharacter start stop => inRange start stop "Null character entity not allowed"
  | .longHexadecimal => "Cannot convert hexadecimal to utf8"
  | .longDecimal => "Cannot convert decimal to utf8"
  | .badHexadecimal c => s!"'{c}' is not a valid hexadecimal character"
  | .badDecimal c => s!"'{c}' is not a valid decimal character"
  | .badCodePoint n => s!"'{n}' is not a valid codepoint"

end MarkupFault

/-- The wording of a fault of the tree. -/
def StructureFault.message : StructureFault → String
  | .surplusEnd => "多余的结束标签"
  | .unclosed name => s!"元素 <{name}> 未关闭"
  | .secondRoot name => s!"多个根元素: <{name}>"
  | .noRoot => "脚本为空"

/-- The wording of a script's fault. -/
def Error.message : Error → String
  | .io text => "读取脚本文件失败: " ++ text
  | .markup offset fault => s!"XML 解析失败 (位置 {offset}): " ++ fault.message
  | .structural fault => "脚本结构错误: " ++ fault.message

end Script
end SmppReplay
