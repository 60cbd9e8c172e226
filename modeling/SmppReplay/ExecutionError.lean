import SmppReplay.Batch.CompileError
import SmppReplay.Transport.Error

/-!
# Faults of a run

What can keep a run from starting, with the wording of each cause.
-/

namespace SmppReplay

/-- The faults of setting up a run. -/
inductive ExecutionError where
  | compile (e : Batch.CompileError)
  | transport (e : Transport.Error)
  | config (text : String)
  /-- The system's words for a failed input or output. -/
  | io (text : String)
  deriving DecidableEq, Repr

/-- The wording of a fault of setting up a run. -/
def ExecutionError.message : ExecutionError → String
  | .compile e => "脚本编译失败: " ++ e.message
  | .transport e => "传输错误: " ++ e.message
  | .config text => "配置错误: " ++ text
  | .io text => "IO 错误: " ++ text

end SmppReplay
