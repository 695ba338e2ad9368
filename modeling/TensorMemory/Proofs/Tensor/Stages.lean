import Mathlib.Data.List.Induction
import TensorMemory.Proofs.Tensor.Construction
import TensorMemory.Proofs.Tensor.Requests

/-!
Stages of a tensor. Whatever is asked of it and whatever its device answers, a tensor is initialized,
torn down, or destroyed, and never half of one of these. What carries this is `Consistent`: a live
tensor has what its placement asks for, and the number of elements tells whether the tensor is
attached. Each request keeps that, and so does a list of them.
-/

namespace TensorMemory

/-- Resources are complete for a placement: only a staged one has a staging buffer, and all are
mapped but those that the host never sees. -/
structure Resources.Complete (r : Resources) (kind : Placement) : Prop where
  staging : r.backing.staging.isSome = true ↔ kind = .device
  mapping : r.mapping.isSome = true ↔ kind ≠ .storage

namespace Gateway

variable {g g' : Gateway} {kind : Placement} {primary staging : Option LentBuffer}

theorem obtainBacking_staging {byteSize : Nat} {b : Backing}
    (h : g.obtainBacking kind byteSize primary staging = (.ok b, g')) :
    b.staging.isSome = kind.needs.staging.isSome := by
  unfold obtainBacking at h
  split at h
  · cases h
  split at h
  · cases h
  split at h
  · next hn =>
    cases h
    rw [hn]
    rfl
  next need hn =>
  split at h
  · cases h
  · cases h
    rw [hn]
    rfl

theorem furnish_complete {dtype : ElementType} {size : Nat} {data : Option Block} {r : Resources}
    (h : g.furnish kind dtype size data primary staging = (.ok r, g')) : r.Complete kind := by
  unfold furnish at h
  dsimp only at h
  split at h
  · cases h
  next backing g₁ ho =>
  have hs := obtainBacking_staging ho
  split at h
  · next hside =>
    cases h
    cases kind
    · rw [show backing.staging = none from hside] at hs
      cases hs
    · cases hside
    · exact ⟨by simp [hs, Placement.needs], by simp⟩
  next b hside =>
  split at h
  · cases h
  · cases h
    cases kind
    · exact ⟨by simp [hs, Placement.needs], by simp⟩
    · exact ⟨by simp [hs, Placement.needs], by simp⟩
    · cases hside

end Gateway

/-! ## Stages -/

namespace Parts

/-- All that the placement asks for is there, and no more than that. -/
structure Initialized (p : Parts) : Prop where
  attached : p.isAttached = true
  primary : p.primary?.isSome = true
  staging : p.staging?.isSome = true ↔ p.kind = .device
  mapping : p.mapping?.isSome = true ↔ p.kind ≠ .storage
  size : 1 ≤ p.size

/-- Still on its device, and with nothing there. -/
structure TornDown (p : Parts) : Prop where
  attached : p.isAttached = true
  primary : p.primary? = none
  staging : p.staging? = none
  mapping : p.mapping? = none
  size : 1 ≤ p.size

structure Destroyed (p : Parts) : Prop where
  attached : p.isAttached = false
  primary : p.primary? = none
  staging : p.staging? = none
  mapping : p.mapping? = none
  size : p.size = 0

inductive Stage where
  | initialized
  | tornDown
  | destroyed

def At (p : Parts) : Stage → Prop
  | .initialized => p.Initialized
  | .tornDown => p.TornDown
  | .destroyed => p.Destroyed

/-- Of the stages a tensor is at one only. -/
theorem at_unique {p : Parts} {stage stage' : Stage} (h : p.At stage) (h' : p.At stage') :
    stage = stage' := by
  cases stage <;> cases stage'
  case initialized.initialized | tornDown.tornDown | destroyed.destroyed => rfl
  case initialized.tornDown => exact absurd (h'.primary ▸ h.primary) (by decide)
  case tornDown.initialized => exact absurd (h.primary ▸ h'.primary) (by decide)
  case initialized.destroyed | tornDown.destroyed =>
    exact absurd (h.attached.symm.trans h'.attached) (by decide)
  case destroyed.initialized | destroyed.tornDown =>
    exact absurd (h.attached.symm.trans h'.attached) (by decide)

/-- What is initialized has all that the placement cannot do without. -/
theorem Initialized.isInitialized {p : Parts} (h : p.Initialized) : p.isInitialized = true := by
  have hmapped : p.kind = .storage ∨ p.mapping?.isSome = true := by
    rw [h.mapping]
    exact Decidable.em _
  simp [Parts.isInitialized, h.attached, h.primary, hmapped]

end Parts

namespace Tensor

/-- What the code keeps of every tensor. -/
structure Consistent (t : Tensor) : Prop where
  bounded : t.byteSize < sizeLimit
  complete : ∀ r, t.residence = .live r → r.Complete t.kind
  empty : t.size = 0 ↔ t.residence = .detached

namespace Consistent

variable {t : Tensor}

theorem size_pos (h : t.Consistent) (hr : t.residence ≠ .detached) : 1 ≤ t.size :=
  Nat.pos_of_ne_zero fun h0 => hr (h.empty.mp h0)

theorem initialized (h : t.Consistent) {r : Resources} (hr : t.residence = .live r) :
    t.parts.Initialized := by
  have hc := h.complete r hr
  refine ⟨?_, ?_, ?_, ?_, h.size_pos (by simp [hr])⟩
  · simp [isAttached, hr]
  · simp [primary?, resources?, hr]
  · simpa [staging?, resources?, hr] using hc.staging
  · simpa [mapping?, resources?, hr] using hc.mapping

theorem tornDown (h : t.Consistent) (hr : t.residence = .vacant) : t.parts.TornDown := by
  refine ⟨?_, ?_, ?_, ?_, h.size_pos (by simp [hr])⟩ <;>
    simp [isAttached, primary?, staging?, mapping?, resources?, hr]

theorem destroyed (h : t.Consistent) (hr : t.residence = .detached) : t.parts.Destroyed := by
  refine ⟨?_, ?_, ?_, ?_, h.empty.mpr hr⟩ <;>
    simp [isAttached, primary?, staging?, mapping?, resources?, hr]

theorem stage (h : t.Consistent) : ∃! stage, t.parts.At stage := by
  obtain ⟨stage, hs⟩ : ∃ stage, t.parts.At stage := by
    cases hr : t.residence with
    | live r => exact ⟨.initialized, h.initialized hr⟩
    | vacant => exact ⟨.tornDown, h.tornDown hr⟩
    | detached => exact ⟨.destroyed, h.destroyed hr⟩
  exact ⟨stage, hs, fun _ hs' => Parts.at_unique hs' hs⟩

/-- A tensor is live, or it has no resources and is not initialized. -/
theorem live_or_not (h : t.Consistent) :
    (∃ r, t.residence = .live r ∧ r.Complete t.kind ∧ t.parts.Initialized) ∨
      t.resources? = none ∧ ¬t.parts.Initialized := by
  have hnot (hn : t.resources? = none) : ¬t.parts.Initialized := fun hi =>
    absurd hi.primary (by simp [primary?, hn])
  cases hr : t.residence with
  | live r => exact .inl ⟨r, rfl, h.complete r hr, h.initialized hr⟩
  | vacant =>
    have hn : t.resources? = none := by simp [resources?, hr]
    exact .inr ⟨hn, hnot hn⟩
  | detached =>
    have hn : t.resources? = none := by simp [resources?, hr]
    exact .inr ⟨hn, hnot hn⟩

theorem isInitialized_iff (h : t.Consistent) : t.isInitialized = true ↔ t.parts.Initialized := by
  rcases h.live_or_not with ⟨r, hr, hc, hi⟩ | ⟨hn, hi⟩
  · exact iff_of_true hi.isInitialized hi
  · exact iff_of_false (by simp [isInitialized_eq, primary?, hn]) hi

end Consistent

/-! ## Requests -/

/-- All that one request can make of a tensor. -/
theorem answer_cases (t : Tensor) (g : Gateway) (q : Request) :
    (t.answer g q).2.1 = t ∨
    (t.answer g q).2.1 = { t with size := 0, residence := .detached } ∨
    ∃ size r, q.isRebuild = true ∧ 0 < size ∧ size * t.dtype.width < sizeLimit ∧
      (∀ resources, r = .ok resources → resources.Complete t.kind) ∧
      (t.answer g q).1 = r.map (fun _ => ()) ∧ (t.answer g q).2.1 = t.rebuilt size r := by
  have rebuilds (data : Block) (size elementSize : Nat) :
      (t.rebuild g data size elementSize).2.1 = t ∨
        ∃ r, 0 < size ∧ size * t.dtype.width < sizeLimit ∧
          (∀ resources, r = .ok resources → resources.Complete t.kind) ∧
          (t.rebuild g data size elementSize).1 = r.map (fun _ => ()) ∧
          (t.rebuild g data size elementSize).2.1 = t.rebuilt size r := by
    rcases t.rebuild_cases g data size elementSize with
      ⟨e, -, he⟩ | ⟨notice, r, g', -, -, hl, hf, he⟩
    · exact .inl (by rw [he])
    obtain ⟨-, h0, hlt, -⟩ := checkLayout_ok hl
    refine .inr ⟨r, Nat.pos_of_mul_pos_right h0, hlt, ?_, by rw [he], by rw [he]⟩
    rintro resources rfl
    exact Gateway.furnish_complete hf
  cases q with
  | rebuild data size elementSize =>
    rcases rebuilds data size elementSize with hsame | ⟨r, h0, hlt, hc, ha, ht⟩
    · exact .inl hsame
    · exact .inr (.inr ⟨size, r, rfl, h0, hlt, hc, ha, ht⟩)
  | rebuildElements dtype xs =>
    simp only [answer, rebuildElements]
    split
    · rcases rebuilds (.ofBytes (Element.encode xs)) xs.length dtype.width with
        hsame | ⟨r, h0, hlt, hc, ha, ht⟩
      · exact .inl hsame
      · exact .inr (.inr ⟨xs.length, r, rfl, h0, hlt, hc, ha, ht⟩)
    · exact .inl rfl
  | destroy =>
    simp only [answer, destroy]
    split
    · exact .inl rfl
    · exact .inr (.inl rfl)
  | overwrite dtype xs => exact .inl rfl
  | overwriteBytes data => exact .inl rfl
  | record traced commandBuffer recording => exact .inl rfl

theorem Consistent.rebuilt {t : Tensor} {size : Nat} {r : Except TensorError Resources}
    (h0 : 0 < size) (hlt : size * t.dtype.width < sizeLimit)
    (hc : ∀ resources, r = .ok resources → resources.Complete t.kind) :
    (t.rebuilt size r).Consistent := by
  cases r with
  | error e =>
    refine ⟨hlt, fun r hr => (nomatch hr), ?_⟩
    exact iff_of_false (Nat.pos_iff_ne_zero.mp h0) (by simp [Tensor.rebuilt])
  | ok resources =>
    refine ⟨hlt, fun r hr => ?_, ?_⟩
    · cases hr
      exact hc resources rfl
    · exact iff_of_false (Nat.pos_iff_ne_zero.mp h0) (by simp [Tensor.rebuilt])

theorem Consistent.answer {t : Tensor} (h : t.Consistent) (g : Gateway) (q : Request) :
    (t.answer g q).2.1.Consistent := by
  rcases t.answer_cases g q with hsame | hgone | ⟨size, r, -, h0, hlt, hc, -, ht⟩
  · rw [hsame]
    exact h
  · rw [hgone]
    refine ⟨?_, fun r hr => (nomatch hr), iff_of_true rfl rfl⟩
    show 0 * t.dtype.width < sizeLimit
    simp [sizeLimit]
  · rw [ht]
    exact .rebuilt h0 hlt hc

theorem kind_answer (t : Tensor) (g : Gateway) (q : Request) :
    (t.answer g q).2.1.kind = t.kind ∧ (t.answer g q).2.1.dtype = t.dtype := by
  rcases t.answer_cases g q with hsame | hgone | ⟨size, r, -, -, -, -, -, ht⟩
  · rw [hsame]
    exact ⟨rfl, rfl⟩
  · rw [hgone]
    exact ⟨rfl, rfl⟩
  · rw [ht]
    cases r <;> exact ⟨rfl, rfl⟩

theorem Consistent.after {t : Tensor} (h : t.Consistent) (requests : List (Gateway × Request)) :
    (t.after requests).Consistent := by
  induction requests generalizing t with
  | nil => exact h
  | cons q requests ih => exact ih (h.answer q.1 q.2)

theorem kind_after (t : Tensor) (requests : List (Gateway × Request)) :
    (t.after requests).kind = t.kind ∧ (t.after requests).dtype = t.dtype := by
  induction requests generalizing t with
  | nil => exact ⟨rfl, rfl⟩
  | cons q requests ih =>
    obtain ⟨hk, hd⟩ := t.kind_answer q.1 q.2
    obtain ⟨hk', hd'⟩ := ih (t.answer q.1 q.2).2.1
    exact ⟨hk'.trans hk, hd'.trans hd⟩

/-- The tensor is as a rebuild left it that was asked for in the course of the requests and
failed. -/
def LostIn (t₀ : Tensor) (requests : List (Gateway × Request)) (t : Tensor) : Prop :=
  ∃ before g q rest, requests = before ++ (g, q) :: rest ∧ q.isRebuild = true ∧
    (∃ e, ((t₀.after before).answer g q).1 = .error e) ∧ ((t₀.after before).answer g q).2.1 = t

/-- Only a rebuild that fails leaves a tensor vacant. -/
theorem lostIn_after {t₀ : Tensor} (h₀ : t₀.residence ≠ .vacant)
    (requests : List (Gateway × Request)) (h : (t₀.after requests).residence = .vacant) :
    LostIn t₀ requests (t₀.after requests) := by
  induction requests using List.reverseRecOn with
  | nil => exact absurd h h₀
  | append_singleton requests request ih =>
    obtain ⟨g, q⟩ := request
    rw [after_concat] at h ⊢
    rcases (t₀.after requests).answer_cases g q with
      hsame | hgone | ⟨size, r, hq, -, -, -, ha, ht⟩
    · rw [hsame] at h ⊢
      obtain ⟨before, g', q', rest, rfl, hq, he, ht⟩ := ih h
      exact ⟨before, g', q', rest ++ [(g, q)], by simp, hq, he, ht⟩
    · rw [hgone] at h
      cases h
    · cases r with
      | error e => exact ⟨requests, g, q, [], rfl, hq, ⟨e, ha⟩, rfl⟩
      | ok resources =>
        rw [ht] at h
        cases h

end Tensor
end TensorMemory
