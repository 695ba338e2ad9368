import TensorMemory.Device.Operations

/-!
Faults between tensor code and its device. A schedule says for each call of a kind, counted from
zero, whether it is answered in the device's place; a call answered so never reaches the device.
-/

namespace TensorMemory

/-- What takes the place of the n-th call's answer, if anything does. -/
abbrev Schedule (α : Type) := Nat → Option α

namespace Schedule

def never {α : Type} : Schedule α := fun _ => none

/-- Lets `skip` calls through and answers all later ones. -/
def after {α : Type} (skip : Nat) (answer : α) : Schedule α :=
  fun n => if n < skip then none else some answer

end Schedule

/-- How a mapping goes wrong: refused, or made but answered without an address. -/
inductive MapFault where
  | refused (status : Status)
  | null
  deriving DecidableEq, Repr

structure Faults where
  createBuffer : Schedule Status := .never
  allocate : Schedule Status := .never
  bind : Schedule Status := .never
  map : Schedule MapFault := .never
  /-- Added to the offset of every mapping that is passed on. -/
  mapShift : Nat := 0
  /-- Intersected with the memory types of every requirement. -/
  typeMask : Option Mask := none
  /-- Takes the place of every required size. -/
  requiredSize : Option Nat := none

namespace Faults

def none : Faults := {}

end Faults

/-- Calls that a schedule has counted so far. -/
structure Served where
  createBuffer : Nat := 0
  allocate : Nat := 0
  bind : Nat := 0
  map : Nat := 0
  deriving DecidableEq, Repr

end TensorMemory
