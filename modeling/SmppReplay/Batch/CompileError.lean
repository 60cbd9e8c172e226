import SmppReplay.Pdu.Error
import SmppReplay.Script.Error

/-!
# Faults of compilation

Why a script is no batch, with the wording of each cause.
-/

namespace SmppReplay
namespace Batch

/-- What scripts cannot ask for. -/
inductive Unsupported where
  /-- Messages of the type, for the given reason. -/
  | messageType (reason : String)
  /-- An optional field of a message type. -/
  | optionalField (type : MessageType) (field : String)
  /-- An element. -/
  | element (name : String)
  deriving DecidableEq, Repr

/-- The faults of compilation. -/
inductive CompileError where
  | script (e : Script.Error)
  | unknownMessageType (name : String)
  | unknownField (type : MessageType) (element : String)
  | missingField (element field : String)
  | missingAttribute (element key : String)
  | invalidValue (field value : String)
  | invalidPause (value : String)
  | unsupported (what : Unsupported)
  | pdu (e : Pdu.Error)
  deriving DecidableEq, Repr

/-- The wording of what scripts cannot ask for. -/
def Unsupported.message : Unsupported → String
  | .messageType reason => reason
  | .optionalField type field => s!"{type.name} 的可选字段 {field}"
  | .element name => s!"脚本中的 <{name}>"

/-- The wording of a fault of compilation. -/
def CompileError.message : CompileError → String
  | .script e => e.message
  | .unknownMessageType name => "未知的消息类型: " ++ name
  | .unknownField type element => s!"{type.name} 不支持字段 <{element}>"
  | .missingField element field => s!"<{element}> 缺少必填元素 <{field}>"
  | .missingAttribute element key => s!"<{element}> 缺少属性 {key}"
  | .invalidValue field value => s!"{field} 的值无效: " ++ Text.quoted value
  | .invalidPause value => "暂停时长必须为正整数: " ++ Text.quoted value
  | .unsupported what => "尚未实现: " ++ what.message
  | .pdu e => e.message

end Batch
end SmppReplay
