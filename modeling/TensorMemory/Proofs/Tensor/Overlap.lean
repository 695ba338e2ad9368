import TensorMemory.Proofs.Tensor.Construction
import TensorMemory.Proofs.Tensor.Recording

/-!
Copies of a buffer onto itself. A copy between tensors is refused before it comes to that. The
copies between the two buffers of a staged tensor are not looked at, so these two must be different
for them to be proper; they are unless the tensor was lent one of them (`folds_build`).
-/

namespace TensorMemory

open Gateway (Supplied)

/-- Why the copy of a buffer onto itself is refused. A usage that it is known to lack is noticed
first. -/
def BackedBuffer.overlapRefusal (source target : BackedBuffer) : TensorError :=
  if !source.usage.all (·.contains UsageFlags.transferSource) then
    .missingTransferUsage UsageFlags.transferSource
  else if !target.usage.all (·.contains UsageFlags.transferTarget) then
    .missingTransferUsage UsageFlags.transferTarget
  else .overlappingCopy target.buffer.handle

namespace Tensor

/-- Staging and primary buffer of the tensor are one buffer. -/
def Folds (t : Tensor) (buffer : Handle) : Prop :=
  t.kind = .device ∧ ∃ r b, t.residence = .live r ∧ r.backing.staging = some b ∧
    b.buffer.handle = buffer ∧ r.backing.primary.buffer.handle = buffer

/-- The recording moves bytes between the two buffers of one tensor. -/
def Recording.isInner : Recording → Bool
  | upload _ | download _ => true
  | _ => false

variable {t u : Tensor}

/-! ## Which copies are recorded -/

/-- Tensors that share their primary buffer are not copied to each other. -/
theorem copyPlan_shared {p q : BackedBuffer} (hp : t.primary = .ok p) (hq : u.primary = .ok q)
    (hpq : q.buffer.handle = p.buffer.handle) : t.copyPlan u = .error (q.overlapRefusal p) := by
  obtain ⟨r, hr, -⟩ := primary_ok hp
  simp only [copyPlan_eq, checkAttached_of_live hr, hp, hq, bind, Except.bind, BackedBuffer.checkUsage,
    BackedBuffer.overlapRefusal]
  cases q.usage.all (·.contains UsageFlags.transferSource) with
  | false => rfl
  | true =>
    cases p.usage.all (·.contains UsageFlags.transferTarget) with
    | false => rfl
    | true => exact if_pos hpq

theorem copyPlan_ne {source target : Handle} {size : Nat}
    (h : t.copyPlan u = .ok (source, target, size)) : source ≠ target := by
  obtain ⟨r, r', hr, hr', rfl, rfl, -⟩ := copyPlan_ok h
  intro hshared
  have hrefused := copyPlan_shared (t := t) (u := u) (p := r.backing.primary)
    (q := r'.backing.primary) (primary_of_live hr) (primary_of_live hr') hshared
  rw [h] at hrefused
  cases hrefused

/-- The copies of a buffer onto itself among the commands of a recording. -/
theorem copy_mem_wording {r : Recording} {cs : List WholeCommand} {buffer : Handle} {size : Nat}
    (h : t.wording r = .ok cs) : .copy buffer buffer size ∈ cs ↔
      r.isInner = true ∧ t.Folds buffer ∧ size = t.byteSize := by
  cases r with
  | copyOf source =>
    obtain ⟨⟨origin, target, n⟩, hp, rfl⟩ := map_ok h
    have hne := copyPlan_ne hp
    simp only [List.mem_singleton, WholeCommand.copy.injEq, Recording.isInner]
    grind
  | upload scope | download scope =>
    obtain ⟨⟨staging, primary⟩, hb, rfl⟩ := map_ok h
    obtain ⟨hk, r, b, hr, hs, rfl, rfl⟩ := stagedBuffers_eq_ok.mp hb
    simp [Recording.isInner, Folds, hk, hr, hs]
    grind
  | primaryBarrier source target | stagingBarrier source target =>
    obtain ⟨b, -, rfl⟩ := map_ok h
    simp [Recording.isInner]

/-- Nothing stands in the way of the copy between the buffers of a folded tensor. -/
theorem Folds.wording {buffer : Handle} (h : t.Folds buffer) {r : Recording}
    (hr : r.isInner = true) : ∃ cs, t.wording r = .ok cs := by
  cases r with
  | upload scope =>
    exact ⟨_, by rw [Tensor.wording, stagedBuffers_eq_ok.mpr h]; rfl⟩
  | download scope =>
    exact ⟨_, by rw [Tensor.wording, stagedBuffers_eq_ok.mpr h]; rfl⟩
  | _ => cases hr

end Tensor

/-! ## Which tensors fold -/

namespace Gateway

/-- Created buffers are later than any of the device, so two of one backing are the same only if
both were lent, or if one was lent before there was such a buffer. -/
theorem Furnished.shared {g g' : Gateway} {kind : Placement} {dtype : ElementType} {size : Nat}
    {data : Option Block} {primary staging : Option LentBuffer} {r : Resources} {cs : List Call}
    {ps qs : List BoundPair}
    (h : Furnished g g' kind dtype size data primary staging r cs ps qs) {b : BackedBuffer}
    (hb : r.backing.staging = some b)
    (hshared : b.buffer.handle = r.backing.primary.buffer.handle) :
    primary.map (·.buffer) = some b.buffer.handle ∧
        staging.map (·.buffer) = some b.buffer.handle ∨
      g.device.issued < b.buffer.handle ∧
        (primary.map (·.buffer) = some b.buffer.handle ∨
          staging.map (·.buffer) = some b.buffer.handle) := by
  have hfresh := h.passage.fresh_pairs h.ledger
  have hprimary := h.backed.primary
  have hstaging := h.backed.staging
  split at hstaging
  case h_2 =>
    rw [hstaging.1] at hb
    cases hb
  obtain ⟨b', hb', hstaging⟩ := hstaging
  obtain rfl : b = b' := Option.some.inj (hb.symm.trans hb')
  generalize r.backing.primary = a at hprimary hshared
  cases hstaging with
  | lent l' =>
    cases hprimary with
    | lent l => exact .inl ⟨congrArg some hshared.symm, rfl⟩
    | created p =>
      refine .inr ⟨?_, .inr rfl⟩
      rw [hshared]
      exact hfresh.buffer_later (by simp)
  | created q =>
    cases hprimary with
    | lent l => exact .inr ⟨hfresh.buffer_later (by simp), .inl (congrArg some hshared.symm)⟩
    | created p =>
      have hne := hfresh.handle_notMem (a := .buffer p.buffer) (List.mem_cons_self ..) q (by simp)
      exact absurd hshared.symm hne.1

end Gateway

namespace Tensor

/-- A tensor that is built folds only over a buffer that it was lent: in both its slots, or in one
and before there was such a buffer. -/
theorem folds_build {plan : TensorPlan} {g g' : Gateway} {t : Tensor} {buffer : Handle}
    (hg : g.device.Numbered) (h : plan.build g = (.ok t, g')) (hf : t.Folds buffer) :
    plan.primary.map (·.buffer) = some buffer ∧ plan.staging.map (·.buffer) = some buffer ∨
      g.device.issued < buffer ∧ (plan.primary.map (·.buffer) = some buffer ∨
        plan.staging.map (·.buffer) = some buffer) := by
  obtain ⟨cs, n, r, ps, qs, rfl, -, -, -, hfurnished⟩ := plan.build_spec hg h
  obtain ⟨-, r', b, hr, hb, rfl, hshared⟩ := hf
  cases hr
  exact hfurnished.shared hb hshared.symm

/-- A tensor that was rebuilt has two buffers of its own. -/
theorem not_folds_rebuild {t t' : Tensor} {g g' : Gateway} {data : Block} {size elementSize : Nat}
    (hg : g.device.Numbered) (h : t.rebuild g data size elementSize = (.ok (), t', g'))
    (buffer : Handle) : ¬t'.Folds buffer := by
  rintro ⟨-, r', b, hr, hb, rfl, hshared⟩
  rcases rebuild_spec hg t data size elementSize with
    ⟨e, -, he⟩ | ⟨g₀, -, r, g₁, -, -, -, -, he, cs, hs⟩
  · rw [he] at h
    cases h
  rw [he] at h
  cases r with
  | error e => cases h
  | ok r =>
    obtain ⟨ps, qs, hfurnished⟩ := hs
    cases h
    cases hr
    rcases hfurnished.shared hb hshared.symm with ⟨hlent, -⟩ | ⟨-, hlent | hlent⟩ <;> cases hlent

end Tensor
end TensorMemory
