import TensorMemory.Proofs.Table
import TensorMemory.Session.Tensors

/-!
Accesses to the host-visible bytes of a tensor in a session. They read and write on the device of
the tensor; one that is refused leaves every device as it was.
-/

namespace TensorMemory

/-- The steps that read or write the host-visible bytes of a tensor. -/
def TensorStep.isAccess : TensorStep → Bool
  | elements _ | edit .. | overwrite .. | overwriteBytes _ | get _ | put .. => true
  | _ => false

namespace Session

variable {s : Session} {i : Nat}

/-- An operation that leaves the device as it is when it answers with a failure does so in a
session. -/
theorem device?_useDevice {f : Device → Answer × Device} {failure : Failure}
    (hkeep : ∀ d, (f d).1 = .failure failure → (f d).2 = d)
    (h : (s.useDevice i .done f).1 = .failure failure) (j : Nat) :
    (s.useDevice i .done f).2.device? j = s.device? j := by
  unfold useDevice useGateway at h ⊢
  cases hg : s.gateways[i]? with
  | none => rfl
  | some g =>
    rw [hg] at h
    have hsame : (f g.device).2 = g.device := hkeep _ h
    show ((s.gateways.set i
      { g with device := (f g.device).2, calls := [], notices := [] })[j]?).map (·.device) = _
    rw [hsame, List.getElem?_set]
    split
    · next hij =>
      subst hij
      have hlt := (List.getElem?_eq_some_iff.mp hg).1
      rw [if_pos hlt, device?, hg]
      rfl
    · rfl

theorem device?_viewStep {sl : Slot} {f : Device → Answer × Device} {failure : Failure}
    (hkeep : ∀ d, (f d).1 = .failure failure → (f d).2 = d)
    (h : (s.viewStep sl f).1 = .failure failure) (j : Nat) :
    (s.viewStep sl f).2.device? j = s.device? j := by
  unfold viewStep at h ⊢
  split
  · next hv =>
    rw [if_pos hv] at h
    exact device?_useDevice hkeep h j
  · rfl

/-- A refused access changes no device. -/
theorem device?_access {slot : Nat} {sl : Slot} {step : TensorStep} {failure : Failure}
    (ha : step.isAccess = true) (h : (s.tensorStep slot sl step).1 = .failure failure) (j : Nat) :
    (s.tensorStep slot sl step).2.device? j = s.device? j := by
  have hwrite {ε : Type} {wrap : ε → Failure} {f : Device → Except ε Device}
      (h : (s.writeStep sl wrap f).1 = .failure failure) :
      (s.writeStep sl wrap f).2.device? j = s.device? j := by
    refine device?_viewStep (fun d hd => ?_) h j
    revert hd
    cases f d with
    | ok d' => exact fun hd => nomatch hd
    | error e => exact fun _ => rfl
  cases step with
  | elements dtype => exact device?_viewStep (fun _ _ => rfl) h j
  | get index => exact device?_viewStep (fun _ _ => rfl) h j
  | overwrite dtype values => exact hwrite h
  | overwriteBytes data => exact hwrite h
  | put index value => exact hwrite h
  | edit dtype edits =>
    refine device?_viewStep (fun d hd => ?_) h j
    revert hd
    dsimp only
    cases sl.tensor.viewMut (dtype.getD sl.tensor.dtype) with
    | error e => exact fun _ => rfl
    | ok v => exact fun hd => nomatch hd
  | _ => cases ha

end Session
end TensorMemory
