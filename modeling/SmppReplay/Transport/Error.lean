/-!
# Faults of connections

Why a connection cannot be opened or used, with the wording of each cause.
-/

namespace SmppReplay
namespace Transport

/-- Why octets are not a frame. -/
inductive FrameFault where
  /-- The declared length does not cover a header. -/
  | belowHeader (declared : Nat)
  /-- The octets do not hold a length. -/
  | incomplete
  /-- The declared length is not the number of octets. -/
  | sizeMismatch (declared size : Nat)
  /-- A cause that the connection reports in its own words. -/
  | reported (text : String)
  deriving DecidableEq, Repr

/-- The faults of connections. -/
inductive Error where
  | connectionFailed (text : String)
  | disconnected
  | frameTooLarge (size max : Nat)
  | invalidFrame (why : FrameFault)
  /-- The system's words for a failed input or output. -/
  | io (text : String)
  | config (text : String)
  deriving DecidableEq, Repr

/-- The result of an operation on a connection. -/
inductive Result where
  | ok
  | failed (e : Error)
  deriving DecidableEq, Repr

/-- The wording of a frame's fault. -/
def FrameFault.message : FrameFault → String
  | .belowHeader declared => s!"command_length {declared} 小于头部长度"
  | .incomplete => "帧不完整"
  | .sizeMismatch declared size => s!"command_length {declared} 与实际长度 {size} 不一致"
  | .reported text => text

/-- The wording of a connection's fault. -/
def Error.message : Error → String
  | .connectionFailed text => "连接失败: " ++ text
  | .disconnected => "连接已断开"
  | .frameTooLarge size max => s!"帧长度 {size} 超过上限 {max}"
  | .invalidFrame why => "无效帧: " ++ why.message
  | .io text => "IO 错误: " ++ text
  | .config text => "配置错误: " ++ text

/-- Why an operation failed, if it did. -/
def Result.cause? : Result → Option String
  | .ok => none
  | .failed e => some e.message

end Transport
end SmppReplay
