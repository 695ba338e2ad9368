import TensorMemory.Proofs.Bench.Conservation
import TensorMemory.Proofs.Tensor.Exclusive
import TensorMemory.Proofs.Tensor.HostWrites

/-!
Host views are exclusive. Every action keeps the live tensors of a bench exclusive
(`exclusive_step`): a build takes in, a destruction gives back, a rebuild is the one after the
other, and nothing else concerns what is mapped. What the host may rely on is read off that
(`exclusion`).
-/

namespace TensorMemory.Bench

open Gateway (Exchange)

/-- The live tensors by their numbers. -/
def live (s : Bench) (n : Nat) : Option Tensor := (s.tensors.get? n).bind Tensor.live?

/-- What the tensors own or have on loan, all together. -/
def used (s : Bench) : List Asset := s.tensors.entries.flatMap fun e => e.2.assets ++ e.2.loans

/-- What is lent has been given out before and is not a tensor's own; and past the tensors nothing
is mapped or unmapped, and no memory is freed that a tensor uses. -/
def Discreet (s : Bench) : Action → Prop
  | .build plan => ∀ a ∈ plan.loans, a.handle ≤ s.gateway.device.issued ∧ a ∉ s.held
  | .outside (.map _ _ _) => False
  | .outside (.unmap _) => False
  | .outside (.freeMemory memory) => .memory memory ∉ s.used
  | _ => True

variable {s : Bench} {n m : Nat} {t u : Tensor}

theorem live_of_get? (ht : s.tensors.get? n = some t) : s.live n = t.live? := by rw [live, ht]; rfl

theorem get?_of_live (h : s.live n = some t) : s.tensors.get? n = some t := by
  obtain ⟨u, hu, hl⟩ := Option.bind_eq_some_iff.mp h
  rw [(Tensor.live?_eq_some.mp hl).1]
  exact hu

theorem live_of_mapping (ht : s.tensors.get? n = some t) {p : Place} (hp : t.mapping? = some p) :
    s.live n = some t := by
  obtain ⟨r, hr, -⟩ := Option.bind_eq_some_iff.mp hp
  rw [live_of_get? ht]
  exact Tensor.live?_eq_some.mpr ⟨rfl, r, Tensor.resources?_eq_some.mp hr⟩

theorem live_apply (ht : s.tensors.get? n = some t) (f : Tensor → Gateway → Tensor × Gateway) :
    (s.apply n f).live = Function.update s.live n (f t s.entry).1.live? := by
  funext m
  by_cases hm : m = n
  · rw [hm, Function.update_self, live_of_get? (apply_tensor ht f)]
  · rw [Function.update_of_ne hm, live, live, apply_others ht f hm]

theorem live_drop (s : Bench) (n : Nat) : (s.drop n).live = Function.update s.live n none := by
  funext m
  cases ht : s.tensors.get? n with
  | none =>
    have hnone : s.live n = none := by rw [live, ht]; rfl
    rw [drop_none ht, ← hnone, Function.update_eq_self]
  | some t =>
    by_cases hm : m = n
    · rw [hm, Function.update_self, live, drop_tensor]
      rfl
    · rw [Function.update_of_ne hm, live, live, drop_others ht hm]

theorem live_build (hs : Orderly s) (plan : TensorPlan) : (s.build plan).live =
    Function.update s.live (s.built + 1) ((plan.build s.entry).1.toOption.bind Tensor.live?) := by
  funext m
  by_cases hm : m = s.built + 1
  · rw [hm, Function.update_self, live, build_tensor hs]
  · rw [Function.update_of_ne hm, live, live, build_others s plan hm]

theorem exclusive_ofTypes (types : List Mask) (faults : Faults) :
    Exclusive (Bench.ofTypes types faults).gateway.device (Bench.ofTypes types faults).live where
  coherent := .ofTypes types
  settled ht := by cases ht
  apart ht := by cases ht
  mapped hi := by cases hi

theorem mem_held_of_live {a : Asset} (ht : s.live n = some t) (ha : a ∈ t.assets) :
    a ∈ s.held := by
  refine mem_held.mpr ⟨n, ?_⟩
  rw [holdings_some (get?_of_live ht)]
  exact ha

theorem mem_used_of_live {a : Asset} (ht : s.live n = some t) (ha : a ∈ t.assets ++ t.loans) :
    a ∈ s.used :=
  List.mem_flatMap.mpr ⟨(n, t), Table.get?_eq_some_iff.mp (get?_of_live ht), ha⟩

/-! ## Every action -/

section Steps

variable (hs : Orderly s) (h : Exclusive s.entry.device s.live)
include h

theorem exclusive_apply {f : Tensor → Gateway → Tensor × Gateway}
    (hf : ∀ t, s.tensors.get? n = some t → Exclusive (f t s.entry).2.device
      (Function.update s.live n (f t s.entry).1.live?)) :
    Exclusive (s.apply n f).gateway.device (s.apply n f).live := by
  cases ht : s.tensors.get? n with
  | none =>
    rw [apply_none ht]
    exact h
  | some t =>
    rw [live_apply ht, apply_gateway ht]
    exact hf t ht

/-- Code that leaves its tensor as it is and exchanges nothing. -/
theorem exclusive_keep {f : Tensor → Gateway → Gateway}
    (hf : ∀ t, ∃ cs, Exchange s.entry (f t s.entry) cs [] [] []) :
    Exclusive (s.apply n fun t g => (t, f t g)).gateway.device
      (s.apply n fun t g => (t, f t g)).live := by
  refine exclusive_apply h fun t ht => ?_
  obtain ⟨cs, hx⟩ := hf t
  dsimp only
  rw [← live_of_get? ht, Function.update_eq_self]
  exact h.exchange hx

theorem exclusive_destroy (ht : s.tensors.get? n = some t) :
    Exclusive (t.destroy s.entry).2.device (Function.update s.live n none) := by
  rw [t.destroy_device]
  exact h.release (live_of_get? ht)

theorem exclusive_rebuild (ht : s.tensors.get? n = some t) (data : Block)
    (size elementSize : Nat) : Exclusive (t.rebuild s.entry data size elementSize).2.2.device
      (Function.update s.live n (t.rebuild s.entry data size elementSize).2.1.live?) := by
  rcases Tensor.rebuild_spec h.coherent.toNumbered t data size elementSize with
    ⟨e, -, he⟩ | ⟨g₀, cs, r, g', -, -, hx, hdevice, he, cs', hr⟩
  · rw [he]
    dsimp only
    rw [← live_of_get? ht, Function.update_eq_self]
    exact h
  rw [he]
  have hreleased := h.release (live_of_get? ht)
  rw [← hdevice] at hreleased
  cases r with
  | error e => exact hreleased.exchange hr.exchange
  | ok resources =>
    obtain ⟨ps, qs, hf⟩ := hr
    have hfurnished := hreleased.furnish (Function.update_self ..) hf fun a ha => by
      cases hf.backed.loans ha
    rwa [Function.update_idem] at hfurnished

include hs

theorem exclusive_build {plan : TensorPlan}
    (hl : ∀ a ∈ plan.loans, a.handle ≤ s.gateway.device.issued ∧ a ∉ s.held) :
    Exclusive (s.build plan).gateway.device (s.build plan).live := by
  have hgateway : (s.build plan).gateway = (plan.build s.entry).2 := rfl
  have hnone : s.live (s.built + 1) = none := by rw [live, absent_next hs]; rfl
  rw [live_build hs, hgateway]
  cases hb : plan.build s.entry with
  | mk r g =>
  obtain ⟨cs, hspec⟩ := TensorPlan.build_spec h.coherent.toNumbered hb
  cases r with
  | error e =>
    have hkept := h.exchange hspec.exchange
    rwa [← Function.update_eq_self (s.built + 1) s.live, hnone] at hkept
  | ok t =>
    obtain ⟨size, resources, ps, qs, rfl, -, -, -, hf⟩ := hspec
    refine h.furnish hnone hf fun a ha => ?_
    obtain ⟨hle, hheld⟩ := hl a (hf.backed.loans ha)
    exact ⟨hle, fun m u hu hua => hheld (mem_held_of_live hu hua)⟩

omit hs in
/-- Past the tensors no memory that a tensor uses is disturbed. -/
theorem exclusive_bypass {op : Device.Operation} (hd : Discreet s (.outside op)) :
    Exclusive (s.bypass op).gateway.device (s.bypass op).live := by
  have hmap : ∀ i offset size, op ≠ .map i offset size := by
    rintro i offset size rfl
    exact hd
  have hspared {i : Handle} (hi : s.entry.device.isMapped i = true) :
      .memory i ∉ op.disturbed := by
    obtain ⟨n, t, ht, hmem⟩ := h.mapped hi
    have hused := mem_used_of_live ht (t.mapped_subset hmem)
    cases op with
    | map memory offset size => exact absurd rfl (hmap memory offset size)
    | unmap memory => exact hd.elim
    | freeMemory memory =>
      intro hm
      rw [List.mem_singleton.mp hm] at hused
      exact hd hused
    | destroyBuffer buffer => exact fun hm => by cases List.mem_singleton.mp hm
    | _ => exact List.not_mem_nil
  refine h.keep (h.coherent.run [op]) (Device.frame_perform _ op).issued (fun i hi => ?_)
    fun i hi => Device.isMapped_perform hmap hi
  have hle := (h.coherent.le_issued (Device.live_of_mapped hi)).2
  exact Device.shape_perform _ op hle (hspared hi)

theorem exclusive_step {a : Action} (hd : Discreet s a) :
    Exclusive (s.step a).gateway.device (s.step a).live := by
  have kept (hk : keepsTensors a = true) :
      Exclusive (s.step a).gateway.device (s.step a).live := by
    obtain ⟨n, f, he, hf⟩ := s.step_keeps hk
    rw [he]
    exact exclusive_keep h hf
  cases a with
  | build plan => exact exclusive_build hs h hd
  | rebuild n data size elementSize =>
    exact exclusive_apply (f := fun t g => (t.rebuild g data size elementSize).2) h
      fun t ht => exclusive_rebuild h ht data size elementSize
  | destroy n =>
    refine exclusive_apply (f := Tensor.destroy) h fun t ht => ?_
    rw [Tensor.live?, Tensor.resources?_destroy]
    exact exclusive_destroy h ht
  | drop n =>
    show Exclusive (s.drop n).gateway.device (s.drop n).live
    rw [live_drop]
    cases ht : s.tensors.get? n with
    | none =>
      have hnone : s.live n = none := by rw [live, ht]; rfl
      rw [drop_none ht, ← hnone, Function.update_eq_self]
      exact h
    | some t =>
      have hgateway : (s.drop n).gateway = (t.destroy s.entry).2 := apply_gateway ht Tensor.destroy
      rw [hgateway]
      exact exclusive_destroy h ht
  | overwrite | overwriteBytes | record | poke => exact kept rfl
  | outside op => exact exclusive_bypass h hd

end Steps

/-! ## Exclusive host views -/

/-- The memory is live, of that size, and not mapped; and whatever plan has it on the host's side,
if the plan fits and its buffers can be had, is built and maps it, unless a fault comes between. -/
structure CanMap (s : Bench) (memory : Handle) (room : Nat) : Prop where
  free : ∃ m, s.gateway.device.memories.get? memory = some m ∧ m.contents.size = room ∧
    m.mapped = false
  maps : ∀ plan size bytes backing b g, plan.layout = .ok (size, bytes) →
    s.entry.obtainBacking plan.kind bytes plan.primary plan.staging = (.ok backing, g) →
    backing.hostSide plan.kind = some b → b.memory.handle = memory →
    s.entry.faults.mapShift + bytes ≤ room → s.entry.faults.map g.served.map = none →
    ∃ t, (s.build plan).tensors.get? (s.built + 1) = some t ∧
      t.mapping? = some ⟨memory, s.entry.faults.mapShift⟩

theorem CanMap.of_mappable (hs : Orderly s) {memory : Handle} {room : Nat}
    (h : s.gateway.device.Mappable memory room) : s.CanMap memory room where
  free := by
    obtain ⟨typeIndex, hshape, -⟩ := h
    obtain ⟨m, hm, he⟩ := Option.map_eq_some_iff.mp hshape
    simp only [Memory.shape, Prod.mk.injEq] at he
    exact ⟨m, hm, he.1, he.2.2⟩
  maps plan size bytes backing b g hl ho hb hm hr hf := by
    obtain ⟨t, g', hbuild, hmapping⟩ :=
      TensorPlan.build_mappable (g := s.entry) hs.numbered hl ho hb (hm ▸ h) hr hf
    rw [build_tensor hs, hbuild]
    exact ⟨t, rfl, hm ▸ hmapping⟩

/-- The actions after which a tensor no longer has the resources that it had. -/
inductive Parts (n : Nat) (t : Tensor) : Action → Prop
  | destroy : Parts n t (.destroy n)
  | drop : Parts n t (.drop n)
  | rebuild {data : Block} {size elementSize bytes : Nat}
      (layout : checkLayout t.dtype (some data.size) size elementSize = .ok bytes) :
      Parts n t (.rebuild n data size elementSize)

theorem canMap_of_parts (hs : Orderly s) (h : Exclusive s.gateway.device s.live)
    (ht : s.tensors.get? n = some t) {p : Place} {k : Memory} (hp : t.mapping? = some p)
    (hk : s.gateway.device.memories.get? p.memory = some k) (hl : .memory p.memory ∈ t.loans)
    {a : Action} (ha : Parts n t a) : (s.step a).CanMap p.memory k.contents.size := by
  refine .of_mappable (hs.step a) ?_
  have hsettled := h.settled (live_of_mapping ht hp)
  have hn : .memory p.memory ∉ t.assets := fun hm => hsettled.unlent _ hm hl
  have hdestroy : (t.destroy s.entry).2.device.Mappable p.memory k.contents.size := by
    rw [t.destroy_device]
    exact Tensor.mappable_releaseHoldings (g := s.entry) h.coherent hsettled.mounted hp hk hn
  cases ha with
  | destroy =>
    rw [show s.step (.destroy n) = s.apply n Tensor.destroy from rfl, apply_gateway ht]
    exact hdestroy
  | drop =>
    have hgateway : (s.step (.drop n)).gateway = (t.destroy s.entry).2 :=
      apply_gateway ht Tensor.destroy
    rw [hgateway]
    exact hdestroy
  | @rebuild data size elementSize bytes layout =>
    have hgateway : (s.step (.rebuild n data size elementSize)).gateway =
        (t.rebuild s.entry data size elementSize).2.2 := apply_gateway ht _
    rw [hgateway]
    exact Tensor.mappable_rebuild (g := s.entry) h.coherent hsettled.mounted hp hk hn layout

/-- No two tensors are mapped to the same memory, and what the device has mapped is what they are
mapped to. So the host writes to one tensor unseen by every other; and borrowed memory that a tensor
was mapped to can be mapped again once the tensor has parted with it. -/
structure HostExclusive (s : Bench) : Prop where
  distinct : ∀ n m t u p q, n ≠ m → s.tensors.get? n = some t → s.tensors.get? m = some u →
    t.mapping? = some p → u.mapping? = some q → p.memory ≠ q.memory
  covered : ∀ n t p, s.tensors.get? n = some t → t.mapping? = some p →
    ∃ k, s.gateway.device.memories.get? p.memory = some k ∧
      p.offset + t.byteSize ≤ k.contents.size
  flagged : ∀ memory, s.gateway.device.isMapped memory = true ↔
    ∃ n t p, s.tensors.get? n = some t ∧ t.isInitialized = true ∧ t.mapping? = some p ∧
      p.memory = memory
  unseen : ∀ n m t u d d', n ≠ m → s.tensors.get? n = some t → s.tensors.get? m = some u →
    t.HostWrite d d' → u.LooksSame d d'
  again : ∀ n t p k a, s.tensors.get? n = some t → t.mapping? = some p →
    s.gateway.device.memories.get? p.memory = some k → .memory p.memory ∈ t.loans →
    Parts n t a → (s.step a).CanMap p.memory k.contents.size

theorem hostExclusive (hs : Orderly s) (h : Exclusive s.gateway.device s.live) :
    s.HostExclusive := by
  have distinct (n m t u p q) (hnm : n ≠ m) (ht : s.tensors.get? n = some t)
      (hu : s.tensors.get? m = some u) (hp : t.mapping? = some p) (hq : u.mapping? = some q) :
      p.memory ≠ q.memory := by
    have ht := live_of_mapping ht hp
    have hu := live_of_mapping hu hq
    have hmem := (h.settled ht).mounted.mem_mapped hp
    intro he
    rw [he] at hmem
    exact (h.apart ht hu hnm).mapped _ hmem ((h.settled hu).mounted.mem_mapped hq)
  refine ⟨distinct, fun n t p ht hp => ?_, fun memory => ⟨fun hm => ?_, ?_⟩, ?_, ?_⟩
  · obtain ⟨k, hk, -, hroom⟩ := (h.settled (live_of_mapping ht hp)).mounted.covers p hp
    exact ⟨k, hk, hroom⟩
  · obtain ⟨n, t, ht, hmem⟩ := h.mapped hm
    obtain ⟨p, hp, he⟩ := (h.settled ht).mounted.mapping hmem
    exact ⟨n, t, p, get?_of_live ht, Tensor.isInitialized_of_mapping hp, hp, he⟩
  · rintro ⟨n, t, p, ht, -, hp, rfl⟩
    have hm := (h.settled (live_of_mapping ht hp)).mounted
    exact hm.isMapped (hm.mem_mapped hp)
  · intro n m t u d d' hnm ht hu hw
    exact hw.unseen fun p q hp hq => distinct n m t u p q hnm ht hu hp hq
  · intro n t p k a ht hp hk hl ha
    exact canMap_of_parts hs h ht hp hk hl ha

/-- While the code around the tensors lends nothing of theirs, leaves mapping to them and frees no
memory that they use, their host views are exclusive: after any run, with any faults. -/
theorem exclusion {types : List Mask} {faults : Faults} {s : Bench}
    (h : Reach Discreet (.ofTypes types faults) s) : s.HostExclusive := by
  have hinv : Orderly s ∧ Exclusive s.gateway.device s.live :=
    h.invariant (P := fun s => Orderly s ∧ Exclusive s.gateway.device s.live)
      ⟨.ofTypes types faults, exclusive_ofTypes types faults⟩
      fun s a hs hd => ⟨hs.1.step a, exclusive_step hs.1 hs.2 hd⟩
  exact hostExclusive hinv.1 hinv.2

def visiblePlan : TensorPlan :=
  { dtype := .float, kind := .host, elements := some 2, primary := some ⟨1, 2⟩ }

/-- Three builds borrow one buffer. The first maps its memory, the second, which borrows it for both
sides, is refused, and so is the third. -/
def contendedRun : Bench :=
  ((((ofTypes [MemoryFlags.deviceLocal, Placement.hostCoherent]).step
    (.outside (.createBound 16 Placement.transfer Placement.hostCoherent))).step
    (.build visiblePlan)).step (.build { stagedPlan with primary := some ⟨1, 2⟩ })).step
    (.build visiblePlan)

/-- Once the first tensor is destroyed, the next build maps the memory. -/
theorem exclusion_contendedRun :
    contendedRun.tensors.keys = [1] ∧ contendedRun.HostExclusive ∧
      ∃ t, ((contendedRun.step (.destroy 1)).build visiblePlan).tensors.get? 4 = some t ∧
        t.mapping? = some ⟨2, 0⟩ := by
  have h : Reach Discreet (.ofTypes [MemoryFlags.deviceLocal, Placement.hostCoherent])
      contendedRun := by
    refine .step _ (.step _ (.step _ (.step _ .refl trivial) ?_) ?_) ?_
    · show ∀ a ∈ visiblePlan.loans, a.handle ≤ _ ∧ a ∉ held _
      decide +kernel
    · show ∀ a ∈ TensorPlan.loans _, a.handle ≤ _ ∧ a ∉ held _
      decide +kernel
    · show ∀ a ∈ visiblePlan.loans, a.handle ≤ _ ∧ a ∉ held _
      decide +kernel
  have hx := exclusion h
  have ht : contendedRun.tensors.get? 1 =
      some ⟨.host, .float, 2, .live ⟨⟨.borrowed ⟨1, 2⟩, none⟩, some ⟨2, 0⟩⟩⟩ := by
    decide +kernel
  have hroom : (contendedRun.gateway.device.memories.get? 2).map (·.contents.size) = some 64 := by
    decide +kernel
  obtain ⟨k, hk, hsize⟩ := Option.map_eq_some_iff.mp hroom
  have hfree := hx.again 1 _ ⟨2, 0⟩ k _ ht rfl hk (by decide) .destroy
  refine ⟨by decide +kernel, hx, ?_⟩
  exact hfree.maps visiblePlan 2 8 ⟨.borrowed ⟨1, 2⟩, none⟩ (.borrowed ⟨1, 2⟩) _ (by decide) rfl
    rfl rfl (by rw [hsize]; decide +kernel) rfl

end TensorMemory.Bench
