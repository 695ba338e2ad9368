import TensorMemory.Configuration.Cell
import TensorMemory.Tensor.View
import TensorMemory.Tracing.Collector

/-!
Why a step of a session fails.
-/

namespace TensorMemory

inductive Failure where
  | tensor (error : TensorError)
  | index (error : IndexError)
  | access (error : AccessError)
  | status (status : Status)
  | environment (error : EnvironmentError)
  | configuration (error : ConfigurationError)
  | logging (error : InstallError)
  | file (error : FileError)
  /-- The global configuration was demanded before it was stored. -/
  | configurationUnset
  /-- A text is not that of a metric event. -/
  | notAnEvent
  /-- The step would use memory that is gone, or take it from under a tensor. -/
  | refused
  /-- The step names something that there is not. -/
  | malformed

end TensorMemory
