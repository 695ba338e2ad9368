import TensorMemory.Proofs.Tensor.HostWrites
import TensorMemory.Proofs.Tensor.Parts

/-!
The life of a tensor, from its construction through any requests: it is at one of its stages at
every moment, it is torn down only by a rebuild that failed, and exactly while it is initialized its
buffers and its host-visible bytes can be had (`lifetime`).
-/

namespace TensorMemory

namespace Parts

/-! ## What is answered when -/

/-- A call is refused, for want of resources, to all tensors but initialized ones; to those it is
granted if what they are asked fits. -/
structure Guarded {ε α : Type} (p : Parts) (fits : Prop) (refusal : ε) (r : Except ε α) :
    Prop where
  refused : r = .error refusal ↔ ¬p.Initialized
  granted : p.Initialized → fits → ∃ a, r = .ok a

namespace Guarded

variable {p : Parts} {ε α β : Type} {fits : Prop} {refusal : ε} {r : Except ε α}

theorem map (h : Guarded p fits refusal r) (f : α → β) : Guarded p fits refusal (r.map f) := by
  cases r with
  | error e =>
    refine ⟨by simpa [Except.map] using h.refused, fun hi hf => ?_⟩
    obtain ⟨a, ha⟩ := h.granted hi hf
    cases ha
  | ok a => exact ⟨by simpa [Except.map] using h.refused, fun _ _ => ⟨f a, rfl⟩⟩

/-- What is granted without condition. Where nothing is initialized, nothing is there. -/
theorem root (h : ∃ stage, p.At stage) (full : p.Initialized → ∃ a, r = .ok a)
    (empty : p.primary? = none → p.staging? = none → p.mapping? = none → r = .error refusal) :
    Guarded p True refusal r := by
  have refused (hp : p.primary? = none) (hs : p.staging? = none) (hm : p.mapping? = none) :
      Guarded p True refusal r := by
    have hi : ¬p.Initialized := fun hi => absurd hi.primary (by simp [hp])
    exact ⟨iff_of_true (empty hp hs hm) hi, fun h => absurd h hi⟩
  obtain ⟨stage, hs⟩ := h
  cases stage with
  | initialized =>
    obtain ⟨a, rfl⟩ := full hs
    exact ⟨iff_of_false (by simp) (not_not.mpr hs), fun _ _ => ⟨a, rfl⟩⟩
  | tornDown => exact refused hs.primary hs.staging hs.mapping
  | destroyed => exact refused hs.primary hs.staging hs.mapping

/-- What is done with something granted may fail for reasons of its own. -/
theorem bind (h : Guarded p True refusal r) {f : α → Except ε β}
    (hother : ∀ a, r = .ok a → f a ≠ .error refusal)
    (hfits : fits → ∀ a, r = .ok a → ∃ b, f a = .ok b) : Guarded p fits refusal (r >>= f) := by
  cases r with
  | error e =>
    refine ⟨by simpa [Bind.bind, Except.bind] using h.refused, fun hi _ => ?_⟩
    obtain ⟨a, ha⟩ := h.granted hi trivial
    cases ha
  | ok a =>
    have hi : p.Initialized := not_not.mp (mt h.refused.mpr (by simp))
    exact ⟨iff_of_false (hother a rfl) (not_not.mpr hi), fun _ hf => hfits hf a rfl⟩

/-- Indexing is refused where the view is, and past its end. -/
theorem index {r : Except TensorError α} (h : Guarded p fits .notInitialized r)
    {x : Except IndexError β} {inside : Prop} (hrefused : ∀ e, r = .error e → x = .error (.access e))
    (hother : ∀ a, r = .ok a → x ≠ .error (.access .notInitialized))
    (hinside : inside → ∀ a, r = .ok a → ∃ b, x = .ok b) :
    Guarded p (fits ∧ inside) (.access .notInitialized) x := by
  cases r with
  | error e =>
    rw [hrefused e rfl]
    refine ⟨by simpa using h.refused, fun hi hf => ?_⟩
    obtain ⟨a, ha⟩ := h.granted hi hf.1
    cases ha
  | ok a =>
    have hi : p.Initialized := not_not.mp (mt h.refused.mpr (by simp))
    exact ⟨iff_of_false (hother a rfl) (not_not.mpr hi), fun _ hf => hinside hf.2 a rfl⟩

/-- A recording is refused where the buffers that it names are. -/
theorem recorded {named : Except TensorError α} (h : Guarded p True .notInitialized named)
    {x : Except TensorError Unit} (hx : x = named.map fun _ => ()) :
    Guarded p True .notInitialized x := hx ▸ h.map _

end Guarded

/-! ## Buffers -/

section Buffers

variable {p : Parts} (h : ∃ stage, p.At stage)
include h

theorem guarded_primary : Guarded p True .notInitialized p.primary := by
  refine .root h (fun hi => ?_) fun hp _ _ => by simp [primary, hp]
  obtain ⟨b, hb⟩ := Option.isSome_iff_exists.mp hi.primary
  exact ⟨b, by simp [primary, hb]⟩

theorem guarded_descriptor : Guarded p True .notInitialized p.descriptor :=
  (guarded_primary h).map _

theorem guarded_primaryTarget : Guarded p True .notInitialized p.primaryTarget := by
  refine .root h (fun hi => ?_) fun hp _ _ => ?_
  · obtain ⟨b, hb⟩ := Option.isSome_iff_exists.mp hi.primary
    exact ⟨b, by simp [primaryTarget, checkAttached, hi.attached, primary, hb, Bind.bind,
      Except.bind]⟩
  · unfold primaryTarget checkAttached
    split
    · simp [primary, hp, Bind.bind, Except.bind]
    · rfl

theorem guarded_staging (hk : p.kind = .device) (operation : String) :
    Guarded p True .notInitialized (p.staging operation) := by
  refine .root h (fun hi => ?_) fun _ hs _ => by simp [staging, hk, Placement.isStaged, hs]
  obtain ⟨b, hb⟩ := Option.isSome_iff_exists.mp (hi.staging.mpr hk)
  exact ⟨b, by simp [staging, hk, Placement.isStaged, hb]⟩

/-- What is done with the staging buffer is refused where that buffer is, if in the other case it
always succeeds. -/
theorem guarded_onStaging (hk : p.kind = .device) (operation : String) {β : Type}
    {f : BackedBuffer → Except TensorError β} (hf : p.Initialized → ∀ b, ∃ x, f b = .ok x) :
    Guarded p True .notInitialized (p.staging operation >>= f) := by
  have hstaging := guarded_staging h hk operation
  have hi (b : BackedBuffer) (hb : p.staging operation = .ok b) : p.Initialized :=
    not_not.mp (mt hstaging.refused.mpr (by simp [hb]))
  refine hstaging.bind (fun b hb => ?_) fun _ b hb => hf (hi b hb) b
  obtain ⟨x, hx⟩ := hf (hi b hb) b
  simp [hx]

theorem guarded_stagingTarget (hk : p.kind = .device) :
    Guarded p True .notInitialized p.stagingTarget :=
  guarded_onStaging h hk _ fun hi b => ⟨b, by simp [checkAttached, hi.attached, Bind.bind,
    Except.bind, pure, Except.pure]⟩

theorem guarded_stagedBuffers (hk : p.kind = .device) (operation : String) :
    Guarded p True .notInitialized (p.stagedBuffers operation) := by
  refine guarded_onStaging h hk operation fun hi b => ?_
  obtain ⟨primary, hp⟩ := Option.isSome_iff_exists.mp hi.primary
  exact ⟨_, by simp [checkAttached, hi.attached, Parts.primary, hp, Bind.bind, Except.bind, pure,
    Except.pure]; rfl⟩

theorem guarded_recordPrimaryBarrier (g : Gateway) (traced : Bool) (commandBuffer : Handle)
    (source target : SyncScope) : Guarded p True .notInitialized
      (p.recordPrimaryBarrier g traced commandBuffer source target).1 :=
  (guarded_primaryTarget h).recorded (by unfold recordPrimaryBarrier; cases p.primaryTarget <;> rfl)

theorem guarded_recordStagingBarrier (hk : p.kind = .device) (g : Gateway) (traced : Bool)
    (commandBuffer : Handle) (source target : SyncScope) : Guarded p True .notInitialized
      (p.recordStagingBarrier g traced commandBuffer source target).1 :=
  (guarded_stagingTarget h hk).recorded
    (by unfold recordStagingBarrier; cases p.stagingTarget <;> rfl)

theorem guarded_recordUpload (hk : p.kind = .device) (g : Gateway) (traced : Bool)
    (commandBuffer : Handle) (scope : SyncScope) : Guarded p True .notInitialized
      (p.recordUpload g traced commandBuffer scope).1 :=
  (guarded_stagedBuffers h hk "record_copy_from_staging_to_device").recorded
    (by unfold recordUpload; cases p.stagedBuffers "record_copy_from_staging_to_device" <;> rfl)

theorem guarded_recordDownload (hk : p.kind = .device) (g : Gateway) (traced : Bool)
    (commandBuffer : Handle) (scope : SyncScope) : Guarded p True .notInitialized
      (p.recordDownload g traced commandBuffer scope).1 :=
  (guarded_stagedBuffers h hk "record_copy_from_device_to_staging").recorded
    (by unfold recordDownload; cases p.stagedBuffers "record_copy_from_device_to_staging" <;> rfl)

end Buffers

/-! ## Host-visible bytes -/

/-- An element can start where the tensor is mapped. -/
def Aligned (p : Parts) : Prop :=
  ∀ place, p.mapping? = some place → place.offset % p.dtype.width = 0

/-- A view shows as many elements as the tensor has. -/
theorem count_of_range {p : Parts} {operation : String} {v : HostView p.dtype}
    (h : p.hostRange operation >>= Tensor.viewRange p.dtype = .ok v) : v.count = p.size := by
  obtain ⟨r, hr, hv⟩ := bind_eq_ok_iff.1 h
  unfold Tensor.viewRange at hv
  split at hv
  · cases hv
    rw [(hostRange_ok hr).2]
    exact p.byteSize_div_width
  · cases hv

section Host

variable {p : Parts} (h : ∃ stage, p.At stage) (hk : p.kind ≠ .storage)
include h hk

theorem guarded_hostRange (operation : String) :
    Guarded p True .notInitialized (p.hostRange operation) := by
  refine .root h (fun hi => ?_) fun _ _ hm => ?_
  · obtain ⟨place, hp⟩ := Option.isSome_iff_exists.mp (hi.mapping.mpr hk)
    exact ⟨_, hostRange_mapped hk hp operation⟩
  · simp [hostRange, hm, hk, Placement.isHostVisible]

theorem guarded_range (operation : String) : Guarded p p.Aligned .notInitialized
    (p.hostRange operation >>= Tensor.viewRange p.dtype) := by
  refine (guarded_hostRange h hk operation).bind (fun r _ => ?_) fun ha r hr => ?_
  · unfold Tensor.viewRange
    split <;> simp
  · exact ⟨_, if_pos (ha _ (hostRange_ok hr).1)⟩

theorem guarded_overwrite (d : Device) (xs : List (Element p.dtype)) :
    Guarded p (xs.length = p.size) .notInitialized (p.overwrite d xs) := by
  rw [overwrite_self]
  refine (guarded_hostRange h hk _).bind (fun r _ => ?_) fun hl r _ => ⟨_, if_pos hl⟩
  split
  · exact fun hc => nomatch hc
  · exact fun hc => nomatch hc

theorem guarded_overwriteBytes (d : Device) (data : Block) :
    Guarded p (data.size = p.byteSize) .notInitialized (p.overwriteBytes d data) := by
  refine (guarded_hostRange h hk _).bind (fun r _ => ?_) fun hl r hr => ⟨_, if_pos ?_⟩
  · split
    · exact fun hc => nomatch hc
    · exact fun hc => nomatch hc
  · exact hl.trans (hostRange_ok hr).2.symm

theorem guarded_get (d : Device) (i : Nat) :
    Guarded p (p.Aligned ∧ i < p.size) (.access .notInitialized) (p.get d i) := by
  have hv := guarded_range h hk "data"
  rw [← view_self] at hv
  refine hv.index (fun e he => ?_) (fun v hview => ?_) fun hi v hview => ?_ <;> unfold get
  · rw [he]
  · rw [hview]
    dsimp only
    split <;> simp
  · refine ⟨Element.nth p.dtype (v.block d) i, ?_⟩
    rw [hview]
    simp [HostView.get?, count_of_range ((view_self p).symm.trans hview), hi]

theorem guarded_put (d : Device) (i : Nat) (x : Element p.dtype) :
    Guarded p (p.Aligned ∧ i < p.size) (.access .notInitialized) (p.put d i x) := by
  have hv := guarded_range h hk "data_mut"
  rw [← viewMut_self] at hv
  refine hv.index (fun e he => ?_) (fun v hview => ?_) fun hi v hview => ?_ <;> unfold put
  · rw [he]
  · rw [hview]
    dsimp only
    split <;> simp
  · refine ⟨v.set d i x, ?_⟩
    rw [hview]
    simp [count_of_range ((viewMut_self p).symm.trans hview), hi]

end Host

/-- All that an initialized tensor grants and no other does. -/
structure Accesses (p : Parts) : Prop where
  descriptor : Guarded p True .notInitialized p.descriptor
  primaryBarrier : ∀ g traced commandBuffer source target, Guarded p True .notInitialized
    (p.recordPrimaryBarrier g traced commandBuffer source target).1
  stagingBarrier : p.kind = .device → ∀ g traced commandBuffer source target,
    Guarded p True .notInitialized
      (p.recordStagingBarrier g traced commandBuffer source target).1
  upload : p.kind = .device → ∀ g traced commandBuffer scope, Guarded p True .notInitialized
    (p.recordUpload g traced commandBuffer scope).1
  download : p.kind = .device → ∀ g traced commandBuffer scope, Guarded p True .notInitialized
    (p.recordDownload g traced commandBuffer scope).1
  view : p.kind ≠ .storage → Guarded p p.Aligned .notInitialized (p.view p.dtype)
  viewMut : p.kind ≠ .storage → Guarded p p.Aligned .notInitialized (p.viewMut p.dtype)
  elements : p.kind ≠ .storage → ∀ d, Guarded p p.Aligned .notInitialized (p.elements d p.dtype)
  overwrite : p.kind ≠ .storage → ∀ d (xs : List (Element p.dtype)),
    Guarded p (xs.length = p.size) .notInitialized (p.overwrite d xs)
  overwriteBytes : p.kind ≠ .storage → ∀ d data,
    Guarded p (data.size = p.byteSize) .notInitialized (p.overwriteBytes d data)
  get : p.kind ≠ .storage → ∀ d i,
    Guarded p (p.Aligned ∧ i < p.size) (.access .notInitialized) (p.get d i)
  put : p.kind ≠ .storage → ∀ d i x,
    Guarded p (p.Aligned ∧ i < p.size) (.access .notInitialized) (p.put d i x)

/-- That a tensor is at one of its stages is all that the accesses rely on. -/
theorem accesses_of_stage {p : Parts} (h : ∃ stage, p.At stage) : p.Accesses where
  descriptor := guarded_descriptor h
  primaryBarrier := guarded_recordPrimaryBarrier h
  stagingBarrier := guarded_recordStagingBarrier h
  upload := guarded_recordUpload h
  download := guarded_recordDownload h
  view hk := view_self p ▸ guarded_range h hk "data"
  viewMut hk := viewMut_self p ▸ guarded_range h hk "data_mut"
  elements hk d := (view_self p ▸ guarded_range h hk "data").map fun v => v.elements d
  overwrite := guarded_overwrite h
  overwriteBytes := guarded_overwriteBytes h
  get := guarded_get h
  put := guarded_put h

end Parts

/-! ## The whole life -/

namespace Tensor

/-- How a caller comes by a tensor. -/
inductive Built : Tensor → Prop
  | plan {plan : TensorPlan} {g g' : Gateway} {t : Tensor} (h : plan.build g = (.ok t, g')) :
    Built t
  | elements {g g' : Gateway} {dtype : ElementType} {xs : List (Element dtype)} {kind : Placement}
    {t : Tensor} (h : ofElements g xs kind = (.ok t, g')) : Built t

theorem Built.cases_plan {t : Tensor} (h : Built t) :
    ∃ (plan : TensorPlan) (g g' : Gateway), plan.build g = (.ok t, g') := by
  cases h with
  | plan h => exact ⟨_, _, _, h⟩
  | elements h =>
    unfold ofElements at h
    split at h
    · exact ⟨_, _, _, h⟩
    · cases h

theorem Built.live {t : Tensor} (h : Built t) :
    t.Consistent ∧ ∃ r, t.residence = .live r := by
  obtain ⟨plan, g, g', h⟩ := h.cases_plan
  unfold TensorPlan.build at h
  split at h
  · cases h
  next size byteSize hl =>
  obtain ⟨rfl, h0, hlt, -⟩ := TensorPlan.layout_ok hl
  split at h
  · cases h
  next resources g₁ hf =>
  cases h
  refine ⟨⟨hlt, fun r hr => ?_, ?_⟩, resources, rfl⟩
  · cases hr
    exact Gateway.furnish_complete hf
  · exact iff_of_false (Nat.pos_iff_ne_zero.mp (Nat.pos_of_mul_pos_right h0)) (by simp)

/-- A tensor that was built is torn down by a rebuild that failed. -/
theorem Built.lostIn {t₀ : Tensor} (built : Built t₀) {requests : List (Gateway × Request)}
    (h : (t₀.after requests).parts.TornDown) : LostIn t₀ requests (t₀.after requests) := by
  obtain ⟨hc, r, hr⟩ := built.live
  have hafter := hc.after requests
  refine lostIn_after (by simp [hr]) requests ?_
  cases hres : (t₀.after requests).residence with
  | live r => cases @Parts.at_unique _ .tornDown .initialized h (hafter.initialized hres)
  | vacant => rfl
  | detached => cases @Parts.at_unique _ .tornDown .destroyed h (hafter.destroyed hres)

end Tensor

namespace Parts

open Tensor (Request)

/-- The parts are as a rebuild left them that was asked for in the course of the requests and
failed. -/
def LostIn (p₀ : Parts) (requests : List (Gateway × Request)) (p : Parts) : Prop :=
  ∃ before g q rest, requests = before ++ (g, q) :: rest ∧ q.isRebuild = true ∧
    (∃ e, ((p₀.after before).answer g q).1 = .error e) ∧ ((p₀.after before).answer g q).2.1 = p

/-- What is built part by part are the parts of a tensor built as a whole. -/
theorem Built.whole {p : Parts} (h : Built p) : ∃ t : Tensor, t.Built ∧ t.parts = p := by
  have parts_of {r : Except TensorError Tensor} {g g' : Gateway}
      (h : (r.map Tensor.parts, g) = (.ok p, g')) : ∃ t, r = .ok t ∧ t.parts = p := by
    cases r with
    | error e => cases h
    | ok t =>
      cases h
      exact ⟨t, rfl, rfl⟩
  cases h with
  | plan h =>
    rw [TensorPlan.assemble_eq] at h
    obtain ⟨t, ht, hp⟩ := parts_of h
    exact ⟨t, .plan (Prod.ext ht rfl), hp⟩
  | elements h =>
    rw [ofElements_eq] at h
    obtain ⟨t, ht, hp⟩ := parts_of h
    exact ⟨t, .elements (Prod.ext ht rfl), hp⟩

theorem lostIn_parts {t₀ t : Tensor} (h₀ : t₀.Consistent) {requests : List (Gateway × Request)}
    (h : Tensor.LostIn t₀ requests t) : LostIn t₀.parts requests t.parts := by
  obtain ⟨before, g, q, rest, hrequests, hq, ⟨e, he⟩, ht⟩ := h
  refine ⟨before, g, q, rest, hrequests, hq, ?_⟩
  rw [Tensor.after_parts h₀, Tensor.answer_parts (h₀.after before)]
  exact ⟨⟨e, he⟩, congrArg Tensor.parts ht⟩

/-- At every moment of its life a tensor is at one stage: torn down only by a rebuild that failed,
and exactly while it is initialized granted what needs its resources. It keeps its placement and its
element type, and its bytes stay countable. -/
theorem lifetime {p₀ : Parts} (built : Built p₀) (requests : List (Gateway × Request)) :
    (∃! stage, (p₀.after requests).At stage) ∧
    ((p₀.after requests).TornDown → LostIn p₀ requests (p₀.after requests)) ∧
    ((p₀.after requests).kind = p₀.kind ∧ (p₀.after requests).dtype = p₀.dtype) ∧
    (p₀.after requests).byteSize < sizeLimit ∧
    ((p₀.after requests).isInitialized = true ↔ (p₀.after requests).Initialized) ∧
    (p₀.after requests).Accesses := by
  obtain ⟨t₀, whole, rfl⟩ := built.whole
  obtain ⟨h₀, -⟩ := whole.live
  have h := h₀.after requests
  rw [Tensor.after_parts h₀]
  exact ⟨h.stage, fun ht => lostIn_parts h₀ (whole.lostIn ht), t₀.kind_after requests, h.bounded,
    h.isInitialized_iff, accesses_of_stage h.stage.exists⟩

/-- Two elements that the host sees, in a memory that is new. -/
def visiblePair : Parts where
  isAttached := true
  kind := .host
  dtype := .float
  size := 2
  mapping? := some ⟨2, 0⟩
  primary? := some (.owned 1 2 (Placement.needs .host).primary.usage)
  staging? := none

/-- A rebuild where no memory is left. -/
def starvedRebuild : List (Gateway × Request) :=
  [(.ofDevice (.ofTypes [Placement.hostCoherent]) { allocate := fun _ => some .outOfDeviceMemory },
    .rebuild (.zeros 4) 1 4)]

theorem lifetime_starvedRebuild : Built visiblePair ∧ (visiblePair.after starvedRebuild).TornDown ∧
    LostIn visiblePair starvedRebuild (visiblePair.after starvedRebuild) ∧
    (visiblePair.after starvedRebuild).Accesses := by
  have hb : Built visiblePair :=
    @Built.plan { dtype := .float, kind := .host, elements := some 2 }
      (.ofDevice (.ofTypes [Placement.hostCoherent])) _ visiblePair (Prod.ext (by rfl) rfl)
  have ht : (visiblePair.after starvedRebuild).TornDown :=
    ⟨by rfl, by rfl, by rfl, by rfl, by decide⟩
  obtain ⟨-, hlost, -, -, -, hgrants⟩ := lifetime hb starvedRebuild
  exact ⟨hb, ht, hlost ht, hgrants⟩

end Parts
end TensorMemory
