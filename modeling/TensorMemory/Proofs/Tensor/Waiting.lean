import TensorMemory.Proofs.Device.Stability
import TensorMemory.Proofs.Tensor.Exchange

/-!
Building, rebuilding and destroying leave waiting commands alone, also those that name what they
give back.
-/

namespace TensorMemory

theorem BackedBuffer.commandBuffers_release (b : BackedBuffer) (g : Gateway) :
    (b.release g).device.commandBuffers = g.device.commandBuffers := by
  have hbuffer : (if b.buffer.isOwned then g.destroyBuffer b.buffer.handle
      else g).device.commandBuffers = g.device.commandBuffers := by
    split
    · exact Device.commandBuffers_destroyBuffer _ _
    · rfl
  unfold release
  dsimp only
  split
  · exact (Device.commandBuffers_freeMemory _ _).trans hbuffer
  · exact hbuffer

theorem Backing.commandBuffers_release (b : Backing) (g : Gateway) :
    (b.release g).device.commandBuffers = g.device.commandBuffers := by
  unfold release
  cases b.staging with
  | none => exact b.primary.commandBuffers_release g
  | some s => exact (s.commandBuffers_release _).trans (b.primary.commandBuffers_release g)

theorem Resources.commandBuffers_release (r : Resources) (kind : Placement) (g : Gateway) :
    (r.release kind g).device.commandBuffers = g.device.commandBuffers := by
  unfold release
  split
  · exact (r.backing.commandBuffers_release _).trans (Device.commandBuffers_unmap _ _)
  · exact r.backing.commandBuffers_release _

/-- New resources are put on the device, and nothing is recorded. -/
theorem Gateway.Furnished.commandBuffers {g g' : Gateway} {kind : Placement} {dtype : ElementType}
    {size : Nat} {data : Option Block} {primary staging : Option LentBuffer} {r : Resources}
    {cs : List Call} {ps qs : List BoundPair}
    (h : Furnished g g' kind dtype size data primary staging r cs ps qs) :
    g'.device.commandBuffers = g.device.commandBuffers := by
  rcases h.device_cases with ⟨-, hu⟩ | ⟨place, fill, -, hu⟩
  · exact hu.commandBuffers
  · exact hu.commandBuffers

theorem TensorPlan.commandBuffers_build {plan : TensorPlan} {g : Gateway}
    (hg : g.device.Numbered) :
    (plan.build g).2.device.commandBuffers = g.device.commandBuffers := by
  cases hb : plan.build g with
  | mk r g' =>
    obtain ⟨cs, hs⟩ := build_spec hg hb
    cases r with
    | error e => exact hs.device.commandBuffers
    | ok t =>
      obtain ⟨n, resources, ps, qs, -, -, -, -, hf⟩ := hs
      exact hf.commandBuffers

namespace Tensor

theorem commandBuffers_releaseHoldings (t : Tensor) (g : Gateway) :
    (t.releaseHoldings g).device.commandBuffers = g.device.commandBuffers := by
  unfold releaseHoldings
  split
  · exact Resources.commandBuffers_release _ _ g
  · rfl

theorem commandBuffers_destroy (t : Tensor) (g : Gateway) :
    (t.destroy g).2.device.commandBuffers = g.device.commandBuffers := by
  unfold destroy Gateway.announceTeardown
  split
  · rfl
  · dsimp only
    split <;> exact t.commandBuffers_releaseHoldings g

theorem commandBuffers_rebuild {g : Gateway} (hg : g.device.Numbered) (t : Tensor) (data : Block)
    (size elementSize : Nat) :
    (t.rebuild g data size elementSize).2.2.device.commandBuffers = g.device.commandBuffers := by
  rcases rebuild_spec hg t data size elementSize with
    ⟨e, -, he⟩ | ⟨g₀, cs, r, g', -, -, -, hdevice, he, cs', hs⟩
  · rw [he]
  have hold : g₀.device.commandBuffers = g.device.commandBuffers := by
    rw [hdevice]
    exact t.commandBuffers_releaseHoldings g
  rw [he]
  cases r with
  | error e => exact hs.device.commandBuffers.trans hold
  | ok resources =>
    obtain ⟨ps, qs, hf⟩ := hs
    exact hf.commandBuffers.trans hold

end Tensor
end TensorMemory
