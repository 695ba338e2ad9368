import TensorMemory.Proofs.Bench.Conservation
import TensorMemory.Proofs.Bench.Transparency
import TensorMemory.Proofs.Tensor.Figures

/-!
Lifecycle metrics. Whoever listens hears of a tensor when its resources are complete, and when it
gives them up; the figures are those of the calls that were made and of the handles that the device
lost. For the latter the books of the bench are needed: what a tensor owns is live, each handle
once.
-/

namespace TensorMemory.Bench

open Gateway (Reports Tells)

/-- Destroying and dropping run the same code on the gateway. -/
theorem gateway_dismissal {s : Bench} {n : Nat} {t : Tensor} (ht : s.tensors.get? n = some t)
    {a : Action} (ha : a = .destroy n ∨ a = .drop n) :
    (s.step a).gateway = (t.destroy s.entry).2 := by
  rcases ha with rfl | rfl
  · exact apply_gateway ht Tensor.destroy
  · exact apply_gateway ht Tensor.destroy

/-- A construction that succeeds is announced once, and one that fails is not, whatever was lent and
whichever calls the device refuses. A tensor that is destroyed or dropped is announced once if it
was initialized, and not otherwise. -/
theorem lifecycle_metrics {types : List Mask} {faults : Faults} {s : Bench}
    (h : Reach Fair (.ofTypes types faults) s) :
    (∀ (plan : TensorPlan) g, Reports g (plan.build g).2 (plan.build g).1) ∧
    (∀ (dtype : ElementType) (xs : List (Element dtype)) kind g,
      Reports g (Tensor.ofElements g xs kind).2 (Tensor.ofElements g xs kind).1) ∧
    (∀ (t : Tensor) g data size elementSize,
      Reports g (t.rebuild g data size elementSize).2.2
        ((t.rebuild g data size elementSize).1.map fun _ =>
          (t.rebuild g data size elementSize).2.1)) ∧
    (∀ (t : Tensor) g (dtype : ElementType) (xs : List (Element dtype)),
      Reports g (t.rebuildElements g xs).2.2
        ((t.rebuildElements g xs).1.map fun _ => (t.rebuildElements g xs).2.1)) ∧
    ∀ n t, s.tensors.get? n = some t → ∀ a, a = .destroy n ∨ a = .drop n →
      (t.isInitialized = true →
        ∃ freed retained, t.Dismissed s.entry (s.step a).gateway freed retained) ∧
      (t.isInitialized = false → Tells s.entry (s.step a).gateway [] []) := by
  have hs := accounted_of_reach h
  have hfastened : Fastened s := h.invariant (.ofTypes types faults) fun _ a hs _ => hs.step a
  refine ⟨TensorPlan.build_reports, fun dtype xs kind g => Tensor.ofElements_reports g xs kind,
    Tensor.rebuild_reports, fun t g dtype xs => t.rebuildElements_reports g xs, ?_⟩
  intro n t ht a ha
  rw [gateway_dismissal ht ha]
  have hconsistent := hfastened.consistent n t ht
  rcases hconsistent.live_or_not with ⟨r, hr, hc, hi⟩ | ⟨hnone, hi⟩
  · refine ⟨fun _ => ?_, fun hfalse => ?_⟩
    · have hnodup := hs.holdings_nodup n
      rw [holdings_some ht] at hnodup
      exact Tensor.destroy_dismissed (g := s.entry) hs.numbered hr hc (hs.live_of_assets ht) hnodup
    · exact absurd (hconsistent.isInitialized_iff.mpr hi) (by simp [hfalse])
  · refine ⟨fun htrue => absurd (hconsistent.isInitialized_iff.mp htrue) hi, fun _ => ?_⟩
    have htells := t.destroy_tells s.entry
    rw [hnone] at htells
    exact htells

/-- The tensor of a bench that borrows its staging buffer. -/
def lendingTensor : Tensor :=
  ⟨.device, .float, 4, .live
    ⟨⟨.owned 5 6 Placement.device.needs.primary.usage, some (.borrowed ⟨1, 2⟩)⟩, some ⟨2, 0⟩⟩⟩

theorem lifecycle_metrics_lendingRun :
    lendingRun.tensors.get? 2 = some lendingTensor ∧ lendingTensor.isInitialized = true ∧
      ∃ freed retained, lendingTensor.Dismissed lendingRun.entry
        (lendingRun.step (.drop 2)).gateway freed retained ∧
          freed.toNat = 2 ∧ retained.toNat = 2 := by
  have h : Reach Fair (.ofTypes [MemoryFlags.deviceLocal, Placement.hostCoherent] refusedBind)
      lendingRun := by
    refine .step _ (.step _ (.step _ .refl ?_) ?_) ?_
    · exact fun a ha => by cases ha
    · show ∀ a ∈ stagedPlan.loans, a.handle ≤ _
      decide +kernel
    · show ∀ a ∈ stagedPlan.loans, a.handle ≤ _
      decide +kernel
  have ht : lendingRun.tensors.get? 2 = some lendingTensor := by decide +kernel
  obtain ⟨freed, retained, hd⟩ :=
    ((lifecycle_metrics h).2.2.2.2 2 _ ht _ (.inr rfl)).1 (by decide)
  have hlent : retained.toNat = 2 := hd.lent
  have htotal : freed.toNat + retained.toNat = 4 := hd.total
  exact ⟨ht, by decide, freed, retained, hd, by omega, hlent⟩

end TensorMemory.Bench
