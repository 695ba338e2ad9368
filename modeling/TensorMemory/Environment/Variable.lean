/-!
The environment variables that the program reads.
-/

namespace TensorMemory

inductive Variable where
  | logLevel
  | metricsPath
  | metricsConsole
  | traceCommands
  deriving DecidableEq, Repr, Inhabited

namespace Variable

def all : List Variable := [logLevel, metricsPath, metricsConsole, traceCommands]

def key : Variable → String
  | logLevel => "VULKANIC_LOG_LEVEL"
  | metricsPath => "VULKANIC_METRICS_JSONL_PATH"
  | metricsConsole => "VULKANIC_METRICS_CONSOLE"
  | traceCommands => "VULKANIC_TRACE_COMMANDS"

theorem mem_all (v : Variable) : v ∈ all := by cases v <;> decide

end Variable
end TensorMemory
