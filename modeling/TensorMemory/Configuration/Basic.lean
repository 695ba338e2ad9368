import TensorMemory.Environment.Descriptor

/-!
The configuration of logging and metrics. Read from an environment, each value is taken from its
variable or has a default, and the first variable that does not read decides the error.
-/

namespace TensorMemory

structure Configuration where
  logLevel : Level := .info
  /-- Where metric records are appended, if anywhere. -/
  metricsPath : Option NativeText := none
  consoleMetrics : Bool := false
  /-- Every recorded copy and barrier is announced. -/
  traceCommands : Bool := false
  deriving DecidableEq, Repr

inductive ConfigurationError where
  | alreadyStored
  | invalidLogLevel (value : String)
  | invalidFlag (name : Variable) (value : String)
  | environment (error : EnvironmentError)
  deriving DecidableEq, Repr

namespace ConfigurationError

def message : ConfigurationError → String
  | alreadyStored => "app configuration already initialised"
  | invalidLogLevel value => "invalid log level '" ++ value ++ "'"
  | invalidFlag name value => "invalid boolean flag '" ++ value ++ "' for " ++ name.key
  | environment e => "failed to access instrumentation environment: " ++ e.message

end ConfigurationError

namespace Configuration

def default : Configuration := {}

/-- A flag that is not set is off. -/
def flagOf (d : Descriptor Bool) (env : Environment) : Except ConfigurationError Bool :=
  match d.get env with
  | .ok value => .ok (value.getD false)
  | .error (.unreadable _ value _) => .error (.invalidFlag d.name value)
  | .error e => .error (.environment e)

def levelOf (env : Environment) : Except ConfigurationError Level :=
  match Descriptor.logLevel.get env with
  | .ok value => .ok (value.getD .info)
  | .error (.unreadable _ value _) => .error (.invalidLogLevel value)
  | .error e => .error (.environment e)

def pathOf (env : Environment) : Except ConfigurationError (Option NativeText) :=
  (Descriptor.metricsPath.get env).mapError .environment

def ofEnvironment (env : Environment) : Except ConfigurationError Configuration := do
  let logLevel ← levelOf env
  let metricsPath ← pathOf env
  let consoleMetrics ← flagOf .metricsConsole env
  let traceCommands ← flagOf .traceCommands env
  return { logLevel, metricsPath, consoleMetrics, traceCommands }

/-- The configuration as logs show it. -/
def text (c : Configuration) : String :=
  let path := match c.metricsPath with
    | some p => "Some(" ++ p.quoted ++ ")"
    | none => "None"
  "AppConfig \x7b log_level: Level(" ++ c.logLevel.title ++ "), metrics_jsonl_path: " ++ path ++
    ", enable_console_metrics: " ++ formatFlag c.consoleMetrics ++ ", trace_commands: " ++
    formatFlag c.traceCommands ++ " \x7d"

end Configuration
end TensorMemory
