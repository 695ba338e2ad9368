import TensorMemory.Proofs.Bench.Layout

/-!
A bench and the machine that mirrors it. On a bench on which nothing is lent and no tensor changes
while a copy waits that names it (`Closed`), the machine has the tensors of the bench, its cells are
laid out on the device, and what waits is encoded in the command buffers (`Mirrors`). An action
keeps that if it changes no tensor (`Mirrors.stay`), or one that no waiting copy names
(`Mirrors.turn`).
-/

namespace TensorMemory

namespace Tensor

def stage (t : Tensor) : Stage :=
  match t.residence with
  | .live _ => .live
  | .vacant => .vacant
  | .detached => .detached

def outline (t : Tensor) : Outline := ⟨t.kind, t.dtype, t.size, t.stage⟩

@[simp] theorem kind_outline (t : Tensor) : t.outline.kind = t.kind := rfl

variable {t : Tensor}

theorem isLive_outline : t.outline.isLive = true ↔ ∃ r, t.residence = .live r := by
  unfold Outline.isLive outline stage
  cases t.residence <;> simp

theorem resources?_of_not_live (h : t.outline.isLive = false) : t.resources? = none := by
  unfold Outline.isLive outline stage at h
  unfold resources?
  cases hr : t.residence <;> simp [hr] at h ⊢

theorem primary_of_not_live (h : t.outline.isLive = false) :
    t.primary = .error .notInitialized := by
  simp [primary, Parts.primary, primary?, resources?_of_not_live h]

theorem stage_detached : t.outline.stage = .detached ↔ t.isAttached = false := by
  unfold outline stage
  rw [isAttached_eq_false]
  cases t.residence <;> simp

theorem outline_destroy (t : Tensor) (g : Gateway) :
    (t.destroy g).1.outline = t.outline.detach := by
  unfold destroy Outline.detach
  split
  · next h => rw [if_pos (stage_detached.mpr (by simpa using h))]
  · next h =>
    rw [if_neg fun hd => h (by rw [stage_detached.mp hd]; rfl)]
    rfl

end Tensor

/-- What the host maps is behind the side that it sees. -/
theorem Resources.Sound.hostSide {r : Resources} {kind : Placement} {size shift : Nat}
    {d : Device} (h : r.Sound kind size shift d) {σ : Side} (hσ : kind.hostSide? = some σ) :
    ∃ b, r.backing.side σ = some b ∧ r.mapping = some ⟨b.memory.handle, shift⟩ := by
  have hm := h.mapping
  rw [Backing.hostSide_eq, hσ, Option.bind_some] at hm
  cases kind with
  | device =>
    cases hσ
    obtain ⟨s, hs, -⟩ := h.staging
    refine ⟨s, hs, ?_⟩
    rw [hm, Backing.side, hs]
    rfl
  | host =>
    cases hσ
    exact ⟨_, rfl, hm⟩
  | storage => cases hσ

namespace Bench

/-- A copy that waits names a buffer of the tensor. -/
def Named (s : Bench) (n : Nat) : Prop :=
  ∃ commandBuffer, ∃ c ∈ s.gateway.device.recorded commandBuffer, ∃ h ∈ c.copied,
    .buffer h ∈ s.holdings n

/-- Nothing is lent; tensors come and go only while no waiting copy names them; recordings go into
command buffers that the device has; and past the tensors there are only new command buffers,
submissions, and limits on allocation. -/
def Closed (s : Bench) : Action → Prop
  | .build plan => plan.primary = none ∧ plan.staging = none
  | .rebuild n _ _ _ => ¬ s.Named n
  | .destroy n => ¬ s.Named n
  | .drop n => ¬ s.Named n
  | .record _ _ commandBuffer _ => s.gateway.device.commandBuffers.contains commandBuffer = true
  | .outside op => op = .newCommandBuffer ∨ (∃ commandBuffer, op = .submit commandBuffer) ∨
      ∃ count, op = .limitAllocations count
  | _ => True

/-- A build or rebuild gets what it asks for. -/
def acquires (s : Bench) : Action → Bool
  | .build plan => (plan.build s.entry).1.isOk
  | .rebuild n data size elementSize =>
    match s.tensors.get? n with
    | none => false
    | some t => (t.rebuild s.entry data size elementSize).1.isOk
  | _ => false

theorem loans_of_unlent {plan : TensorPlan} (hp : plan.primary = none) (hs : plan.staging = none) :
    plan.loans = [] := by
  rw [TensorPlan.loans, hp, hs]
  rfl

theorem Closed.lawful {s : Bench} {a : Action} (h : Closed s a) : Lawful s a := by
  cases a with
  | build plan =>
    intro a ha
    rw [loans_of_unlent h.1 h.2] at ha
    cases ha
  | record n traced commandBuffer recording => exact h
  | outside op =>
    obtain rfl | ⟨commandBuffer, rfl⟩ | ⟨count, rfl⟩ := h <;>
      exact ⟨List.forall_mem_nil _, List.forall_mem_nil _⟩
  | _ => trivial

theorem lent_step {s : Bench} {a : Action} (h : Closed s a) (hl : s.lent = []) :
    (s.step a).lent = [] := by
  cases a with
  | build plan =>
    show s.lent ++ plan.loans.map (fun a => (s.built + 1, a)) = []
    rw [hl, loans_of_unlent h.1 h.2]
    rfl
  | outside op => exact hl
  | _ => exact (lent_apply ..).trans hl

theorem Proper.faults_step {s : Bench} (hs : Proper s) {a : Action} (hl : Lawful s a) :
    (s.step a).gateway.faults = s.gateway.faults := by
  rcases hs.neat_of_step hl with ⟨op, rfl⟩ | he | ⟨n, taken, hn⟩
  · rfl
  · rw [he]
  · exact hn.turn.faults

/-! ## The mirror -/

structure Mirrors (s : Bench) (m : Machine) : Prop extends Proper s where
  nothingLent : s.lent = []
  unshifted : s.gateway.faults.mapShift = 0
  built : m.built = s.built
  outlines : ∀ n, m.outlines n = (s.tensors.get? n).map Tensor.outline
  laid : Laid s.tensors s.gateway.device m.cells
  waiting : ∀ commandBuffer,
    Encodes s.tensors (s.gateway.device.recorded commandBuffer) (m.waiting commandBuffer)

namespace Mirrors

variable {s : Bench} {m : Machine} {n : Nat} {t : Tensor}

theorem initial (types : List Mask) : Mirrors (.ofTypes types) .initial where
  toProper := .ofTypes types .none
  nothingLent := rfl
  unshifted := rfl
  built := rfl
  outlines _ := rfl
  laid :=
    { bound := fun h => nomatch h.tensor
      filled := fun h => nomatch h.tensor
      apart := fun h => nomatch h.tensor }
  waiting _ := .nil

theorem outline_none (h : Mirrors s m) (ht : s.tensors.get? n = none) : m.outlines n = none := by
  rw [h.outlines, ht]
  rfl

theorem outline_some (h : Mirrors s m) (ht : s.tensors.get? n = some t) :
    m.outlines n = some t.outline := by
  rw [h.outlines, ht]
  rfl

variable {a : Action}

theorem carry (h : Mirrors s m) (hc : Closed s a) :
    Proper (s.step a) ∧ (s.step a).lent = [] ∧ (s.step a).gateway.faults.mapShift = 0 := by
  refine ⟨h.step hc.lawful, lent_step hc h.nothingLent, ?_⟩
  rw [h.faults_step hc.lawful]
  exact h.unshifted

/-- No tensor has changed. -/
theorem stay (h : Mirrors s m) (hc : Closed s a) {m' : Machine}
    (htensors : (s.step a).tensors = s.tensors) (hbuilt : (s.step a).built = s.built)
    (hm' : m'.built = m.built ∧ m'.outlines = m.outlines)
    (hlaid : Laid s.tensors (s.step a).gateway.device m'.cells)
    (hwaiting : ∀ commandBuffer, Encodes s.tensors
      ((s.step a).gateway.device.recorded commandBuffer) (m'.waiting commandBuffer)) :
    Mirrors (s.step a) m' := by
  obtain ⟨hs', hlent, hshift⟩ := h.carry hc
  refine ⟨hs', hlent, hshift, ?_, fun k => ?_, ?_, fun commandBuffer => ?_⟩
  · rw [hm'.1, hbuilt, h.built]
  · rw [hm'.2, htensors, h.outlines]
  · rw [htensors]
    exact hlaid
  · rw [htensors]
    exact hwaiting commandBuffer

/-- One tensor may have changed, and no waiting copy names it. All other cells are left alone. -/
theorem turn (h : Mirrors s m) (hc : Closed s a) {m' : Machine} {taken : List Asset}
    (hbuilt : m'.built = (s.step a).built)
    (hothers : ∀ k, k ≠ n → (s.step a).tensors.get? k = s.tensors.get? k)
    (hspares : Device.Spares s.gateway.device (s.step a).gateway.device taken)
    (htaken : ∀ a ∈ taken, a ∈ s.holdings n) (hidle : ¬ s.Named n)
    (houtlines : ∀ k, m'.outlines k =
      if k = n then ((s.step a).tensors.get? n).map Tensor.outline else m.outlines k)
    (hcells : ∀ c : Cell, c.tensor ≠ n → m'.cells c = m.cells c)
    (hnew : ∀ {c t b memory}, c.tensor = n → Behind (s.step a).tensors c t b →
      (s.step a).gateway.device.memories.get? b.memory.handle = some memory →
      (memory.contents.slice 0 t.byteSize).toBytes = m'.cells c)
    (hwaiting : m'.waiting = m.waiting) : Mirrors (s.step a) m' := by
  obtain ⟨hs', hlent, hshift⟩ := h.carry hc
  refine ⟨hs', hlent, hshift, hbuilt, fun k => ?_, ?_, fun commandBuffer => ?_⟩
  · rw [houtlines]
    split
    · next hk => rw [hk]
    · next hk => rw [hothers k hk, h.outlines]
  · refine hs'.laid hlent fun {c t b memory} hbehind hm => ?_
    by_cases hn : c.tensor = n
    · exact hnew hn hbehind hm
    have hold : Behind s.tensors c t b := hbehind.congr (hothers _ hn).symm
    have hheld := (h.mem_assets h.nothingLent hold).2
    rw [hspares.memories b.memory.handle (h.numbered.le_issued (h.live_of_holdings hheld)).2
      fun ha => hn (h.holdings_unique hheld (htaken _ ha))] at hm
    obtain ⟨memory', hm', -, he⟩ := h.laid.filled hold
    cases hm.symm.trans hm'
    rw [hcells c hn]
    exact he
  · rw [hwaiting, Device.recorded, hspares.commandBuffers]
    refine (h.waiting commandBuffer).move fun command hc buffer hb c t b hbehind he => ?_
    refine hbehind.congr (hothers _ fun hn => hidle ⟨commandBuffer, command, hc, buffer, hb, ?_⟩)
    rw [← he, ← hn]
    exact (h.mem_assets h.nothingLent hbehind).1

/-- What the tensor maps and what it owns. -/
theorem taken_holdings (h : Mirrors s m) (ht : s.tensors.get? n = some t) :
    ∀ a ∈ t.mapped ++ t.assets, a ∈ s.holdings n := by
  have hmapped := t.mapped_subset
  rw [h.loans_nil h.nothingLent ht, List.append_nil] at hmapped
  rw [holdings_some ht]
  exact fun a ha => (List.mem_append.mp ha).elim (fun ha => hmapped ha) id

theorem behind_primary (ht : s.tensors.get? n = some t) {r : Resources}
    (hr : t.residence = .live r) : Behind s.tensors ⟨n, .device⟩ t r.backing.primary :=
  ⟨ht, r, hr, rfl⟩

end Mirrors
end Bench
end TensorMemory
