import TensorMemory.Proofs.Tensor.Stages
import TensorMemory.Tensor.Parts

/-!
A tensor part by part is the tensor as a whole. The parts of a tensor that is `Consistent` become,
step by step, the parts of what the tensor becomes, with the same answers and the same calls to the
device (`answer_parts`); so no list of requests tells the two apart (`after_parts`).
-/

namespace TensorMemory

namespace Parts

open Tensor (Request written)

def record (p : Parts) (g : Gateway) (traced : Bool) (commandBuffer : Handle) :
    Tensor.Recording → Except TensorError Unit × Gateway
  | .copyOf source => p.recordCopyOf source.parts g traced commandBuffer
  | .upload scope => p.recordUpload g traced commandBuffer scope
  | .download scope => p.recordDownload g traced commandBuffer scope
  | .primaryBarrier source target => p.recordPrimaryBarrier g traced commandBuffer source target
  | .stagingBarrier source target => p.recordStagingBarrier g traced commandBuffer source target

/-- The answer to a request, and what it leaves of the parts and of the gateway. -/
def answer (p : Parts) (g : Gateway) : Request → Except TensorError Unit × Parts × Gateway
  | .rebuild data size elementSize => p.rebuild g data size elementSize
  | .rebuildElements _ xs => p.rebuildElements g xs
  | .destroy => (.ok (), p.destroy g)
  | .overwrite _ xs => let (r, g) := written g (p.overwrite g.device xs); (r, p, g)
  | .overwriteBytes data => let (r, g) := written g (p.overwriteBytes g.device data); (r, p, g)
  | .record traced commandBuffer recording =>
    let (r, g) := p.record g traced commandBuffer recording; (r, p, g)

/-- The parts after a list of requests, each with the gateway that it is made on. -/
def after (p : Parts) (requests : List (Gateway × Request)) : Parts :=
  requests.foldl (fun p q => (p.answer q.1 q.2).2.1) p

/-- How a caller comes by the parts of a tensor. -/
inductive Built : Parts → Prop
  | plan {plan : TensorPlan} {g g' : Gateway} {p : Parts} (h : plan.assemble g = (.ok p, g')) :
    Built p
  | elements {g g' : Gateway} {dtype : ElementType} {xs : List (Element dtype)} {kind : Placement}
    {p : Parts} (h : ofElements g xs kind = (.ok p, g')) : Built p

/-- On its device, a tensor takes over all that is created for it. -/
theorem createResources_of_attached {p : Parts} (ha : p.isAttached = true) (g : Gateway)
    (data : Option Block) (primary staging : Option LentBuffer) :
    p.createResources g data primary staging =
      match g.furnish p.kind p.dtype p.size data primary staging with
      | (.error e, g) => (.error e, p, g)
      | (.ok r, g) => (.ok (), { p with
          primary? := some r.backing.primary
          staging? := r.backing.staging
          mapping? := r.mapping }, g) := by
  obtain ⟨attached, kind, dtype, size, mapping, held, staged⟩ := p
  cases ha
  rfl

end Parts

namespace Tensor

variable {t : Tensor}

/-- What is released is gone part by part, the mapping first. Only here does it matter that the
resources are complete: a mapping of a tensor in storage would be taken for one of its primary
buffer. -/
theorem releaseResources_parts (hc : ∀ r, t.residence = .live r → r.Complete t.kind)
    (ha : t.isAttached = true) (g : Gateway) : t.parts.releaseResources g =
      (t.releaseTally, { t with residence := .vacant }.parts, t.releaseHoldings g) := by
  obtain ⟨kind, dtype, size, residence⟩ := t
  cases residence with
  | live r =>
    obtain ⟨⟨primary, staging⟩, mapping⟩ := r
    have hcomplete := hc _ rfl
    have hstaging : staging.isSome = true ↔ kind = .device := hcomplete.staging
    have hmapping : mapping.isSome = true ↔ kind ≠ .storage := hcomplete.mapping
    -- the placement decides which buffer a mapping is unmapped from
    cases kind <;> cases mapping <;> cases staging <;> first
      | rfl
      | simp at hstaging hmapping
  | vacant => rfl
  | detached => cases ha

/-- Once the parts are released one by one, both take over the same new resources, or none. -/
theorem rebuild_parts (h : t.Consistent) (g : Gateway) (data : Block) (size elementSize : Nat) :
    t.parts.rebuild g data size elementSize = ((t.rebuild g data size elementSize).1,
      (t.rebuild g data size elementSize).2.1.parts, (t.rebuild g data size elementSize).2.2) := by
  unfold rebuild Parts.rebuild
  rw [show t.parts.isAttached = t.isAttached from rfl, show t.parts.dtype = t.dtype from rfl]
  cases ha : t.isAttached with
  | false => rfl
  | true =>
  cases checkLayout t.dtype (some data.size) size elementSize with
  | error e => rfl
  | ok byteSize =>
  rw [releaseResources_parts h.complete ha]
  dsimp only [Bool.not_true, Bool.false_eq_true, if_false]
  rw [Parts.createResources_of_attached rfl]
  cases ((t.releaseHoldings g).tell (.rebuilding t.kind t.releaseTally.freed size)).furnish t.kind
    t.dtype size (some data) none none with
  | mk r g' => cases r <;> rfl

theorem destroy_parts (h : t.Consistent) (g : Gateway) :
    t.parts.destroy g = ((t.destroy g).1.parts, (t.destroy g).2) := by
  unfold destroy Parts.destroy
  split
  · rfl
  next ha =>
  rw [releaseResources_parts h.complete (by simpa using ha)]
  rfl

/-- The same answer, the parts of the same tensor, and the same gateway with all its calls and
notices. -/
theorem answer_parts (h : t.Consistent) (g : Gateway) (q : Request) :
    t.parts.answer g q = ((t.answer g q).1, (t.answer g q).2.1.parts, (t.answer g q).2.2) := by
  cases q with
  | rebuild data size elementSize => exact rebuild_parts h g data size elementSize
  | rebuildElements dtype xs =>
    simp only [answer, Parts.answer, rebuildElements, Parts.rebuildElements]
    split
    · exact rebuild_parts h g _ _ _
    · rfl
  | destroy =>
    simp only [answer, Parts.answer]
    rw [destroy_parts h]
  | overwrite dtype xs => rfl
  | overwriteBytes data => rfl
  | record traced commandBuffer recording => cases recording <;> rfl

/-- Every answer leaves a consistent tensor, so the next request finds what it relies on. -/
theorem after_parts (h : t.Consistent) (requests : List (Gateway × Request)) :
    t.parts.after requests = (t.after requests).parts := by
  induction requests generalizing t with
  | nil => rfl
  | cons q requests ih =>
    show (t.parts.answer q.1 q.2).2.1.after requests = _
    rw [answer_parts h]
    exact ih (h.answer q.1 q.2)

end Tensor

/-- A plan is built to the same tensor either way. What an unsuccessful one drops held nothing, so
nothing is released and nothing announced. -/
theorem TensorPlan.assemble_eq (plan : TensorPlan) (g : Gateway) :
    plan.assemble g = ((plan.build g).1.map Tensor.parts, (plan.build g).2) := by
  unfold assemble build
  cases plan.layout with
  | error e => rfl
  | ok sizes =>
  obtain ⟨size, byteSize⟩ := sizes
  dsimp only
  rw [Parts.createResources_of_attached rfl]
  dsimp only [Parts.unallocated]
  cases g.furnish plan.kind plan.dtype size plan.data plan.primary plan.staging with
  | mk r g' => cases r <;> rfl

theorem Parts.ofElements_eq (g : Gateway) {dtype : ElementType} (xs : List (Element dtype))
    (kind : Placement) : ofElements g xs kind =
      ((Tensor.ofElements g xs kind).1.map Tensor.parts, (Tensor.ofElements g xs kind).2) := by
  unfold ofElements Tensor.ofElements
  split
  · exact TensorPlan.assemble_eq _ g
  · rfl

end TensorMemory
