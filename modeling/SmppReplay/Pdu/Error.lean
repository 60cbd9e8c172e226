import SmppReplay.Pdu.Field
import SmppReplay.Pdu.MessageType

/-!
# Faults of messages

Why a field cannot be set, a message cannot be written, or octets cannot be read as a
message.  Each fault is a cause with its data; `Pdu.Error.message` gives the wording.
-/

namespace SmppReplay
namespace Pdu

/-- Why octets are not a message, or a text has no wire form. -/
inductive Malformed where
  /-- The frame is shorter than a header. -/
  | shortFrame (size : Nat)
  /-- The length in the header is not the length of the frame. -/
  | lengthMismatch (declared : UInt32) (size : Nat)
  /-- The octets end before the field. -/
  | missing (label : String)
  /-- A text does not end. -/
  | unterminated (label : String)
  /-- A text to be written holds a NUL. -/
  | embeddedNul (label : String)
  /-- A short message is longer than what is left. -/
  | shortMessageOverrun (size left : Nat)
  /-- A destination is neither an address nor a list. -/
  | unknownDestinationFlag (flag : UInt8)
  /-- The octets end inside the status of a failed destination. -/
  | truncatedStatus
  /-- The octets end inside the tag or the length of an optional field. -/
  | truncatedTlvHeader
  /-- An optional field is longer than what is left. -/
  | tlvOverrun (tag : UInt16) (size left : Nat)
  deriving DecidableEq, Repr

/-- What the library does not write. -/
inductive Unsupported where
  /-- Messages of the type, for the given reason. -/
  | messageType (reason : String)
  /-- The optional field with the given label. -/
  | optionalField (label : String)
  /-- Lists of failed destinations. -/
  | unsuccessfulList
  deriving DecidableEq, Repr

/-- The faults of messages. -/
inductive Error where
  | unknownCommandId (id : UInt32)
  | fieldNotInLayout (type : MessageType) (id : FieldId)
  | valueMismatch (label : String)
  | fieldTooLong (label : String) (size max : Nat)
  | unsupported (what : Unsupported)
  | malformed (why : Malformed)
  deriving DecidableEq, Repr

/-- The wording of a cause. -/
def Malformed.message : Malformed → String
  | .shortFrame size => s!"帧长度 {size} 小于头部长度"
  | .lengthMismatch declared size => s!"command_length {declared.toNat} 与帧长度 {size} 不一致"
  | .missing label => s!"字段 {label} 缺失"
  | .unterminated label => s!"字段 {label} 缺少 NUL 结尾"
  | .embeddedNul label => s!"字段 {label} 含有 NUL"
  | .shortMessageOverrun size left => s!"short_message 长度 {size} 超出剩余 {left}"
  | .unknownDestinationFlag flag => s!"未知 dest_flag: {flag.toNat}"
  | .truncatedStatus => "error_status_code 不完整"
  | .truncatedTlvHeader => "TLV 头部不完整"
  | .tlvOverrun tag size left =>
      "TLV 0x" ++ Text.Numeral.hexPadded 4 tag.toNat ++ s!" 长度 {size} 超出剩余 {left}"

/-- The wording of what is not supported. -/
def Unsupported.message : Unsupported → String
  | .messageType reason => reason
  | .optionalField label => s!"{label} 尚未实现"
  | .unsuccessfulList => "unsuccess_sme 列表编码尚未实现"

/-- The wording of a fault. -/
def Error.message : Error → String
  | .unknownCommandId id => "未知的命令 ID: 0x" ++ Text.Numeral.hexPadded 8 id.toNat
  | .fieldNotInLayout type id => s!"{type.name} 不包含字段 {id.name}"
  | .valueMismatch label => s!"字段 {label} 的值类型不匹配"
  | .fieldTooLong label size max => s!"字段 {label} 长度 {size} 超过上限 {max}"
  | .unsupported what => "尚未实现: " ++ what.message
  | .malformed why => "解析错误: " ++ why.message

end Pdu
end SmppReplay
