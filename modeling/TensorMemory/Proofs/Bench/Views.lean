import TensorMemory.Proofs.Bench.Exclusion
import TensorMemory.Proofs.Bench.Transparency
import TensorMemory.Proofs.Session.Accesses
import TensorMemory.Proofs.Tensor.Views

/-!
Typed views of the tensors of a bench. Whatever was done, the memory where a tensor is mapped has
room for the tensor for as long as it lives (`Covered`), so wherever the mapping begins the views
are exact. The memory of a tensor that created it does live while nothing of the tensors is released
past them; a lender may free his own earlier.
-/

namespace TensorMemory.Bench

/-- Memories where tensors are mapped have room for them. -/
structure Covered (s : Bench) : Prop extends Fastened s where
  room : ∀ {n t p}, s.tensors.get? n = some t → t.mapping? = some p →
    p.memory ≤ s.gateway.device.issued ∧ ∀ m, s.gateway.device.memories.get? p.memory = some m →
      p.offset + t.byteSize ≤ m.contents.size

namespace Covered

variable {s : Bench}

theorem ofTypes (types : List Mask) (faults : Faults) : Covered (Bench.ofTypes types faults) where
  toFastened := .ofTypes types faults
  room ht := by cases ht

theorem step (hs : Covered s) (a : Action) : Covered (s.step a) where
  toFastened := hs.toFastened.step a
  room {n t p} ht hp := by
    rcases tensor_step hs.toOrderly ht with hold | hnew
    · obtain ⟨hle, hroom⟩ := hs.room hold hp
      refine ⟨Nat.le_trans hle (issued_step hs.toOrderly a), fun m hm => ?_⟩
      obtain ⟨ops, hops⟩ := device_step hs.toOrderly a
      rw [hops] at hm
      obtain ⟨m', hm', hsize⟩ := Device.room_run hs.numbered ops hle hm
      exact hsize ▸ hroom m' hm'
    · obtain ⟨m, hm, -, hfits⟩ := (Tensor.Mounted.of_sound hnew.sound).covers p hp
      refine ⟨((hs.toOrderly.step a).numbered.memories hm).2, fun m' hm' => ?_⟩
      cases hm.symm.trans hm'
      exact hfits

theorem hasRoom (hs : Covered s) {n : Nat} {t : Tensor} {p : Place}
    (ht : s.tensors.get? n = some t) (hp : t.mapping? = some p)
    (hlive : s.gateway.device.hasMemory p.memory = true) :
    s.gateway.device.HasRoom p t.byteSize := by
  obtain ⟨m, hm⟩ := Table.contains_iff.mp hlive
  exact ⟨m, hm, (hs.room ht hp).2 m hm⟩

/-- A tensor is mapped to memory that it owns or has on loan. -/
theorem mem_of_mapping (hs : Covered s) {n : Nat} {t : Tensor} {p : Place}
    (ht : s.tensors.get? n = some t) (hp : t.mapping? = some p) :
    .memory p.memory ∈ t.assets ∨ .memory p.memory ∈ t.loans := by
  obtain ⟨r, hr, hmapping⟩ := Option.bind_eq_some_iff.mp hp
  have hlive := Tensor.resources?_eq_some.mp hr
  obtain ⟨x, hx, rfl⟩ := Option.map_eq_some_iff.mp ((hs.mapping ht hlive).symm.trans hmapping)
  rw [Backing.hostSide_eq] at hx
  obtain ⟨σ, -, hσ⟩ := Option.bind_eq_some_iff.mp hx
  have hmem := Backing.side_mem hσ
  rw [Tensor.assets_of_live hlive, Tensor.loans_of_live hlive]
  cases ho : x.memory.isOwned with
  | true =>
    exact .inl (List.mem_flatMap.mpr ⟨x, hmem, BackedBuffer.memory_mem_assets ho⟩)
  | false =>
    refine .inr (List.mem_flatMap.mpr ⟨x, hmem, ?_⟩)
    simp [BackedBuffer.loans, ho]

end Covered

theorem covered_of_reach {types : List Mask} {faults : Faults} {allowed : Bench → Action → Prop}
    {s : Bench} (h : Reach allowed (.ofTypes types faults) s) : Covered s :=
  h.invariant (.ofTypes types faults) fun _ a hs _ => hs.step a

/-- Wherever a tensor that the host sees is mapped, its views are exact while the memory is live;
and it is, if it is the tensor's own, while the code around the tensors releases nothing of theirs.
The lengths that accesses rely on fit at every stage of a tensor, and an access that is refused
changes no byte. -/
theorem typed_views {types : List Mask} {faults : Faults} {allowed : Bench → Action → Prop}
    {s : Bench} (h : Reach allowed (.ofTypes types faults) s) {n : Nat} {t : Tensor}
    (ht : s.tensors.get? n = some t) :
    (t.isInitialized = true → t.kind ≠ .storage → ∃ place, t.mapping? = some place ∧
      (s.gateway.device.hasMemory place.memory = true → t.ExactViews s.gateway.device place) ∧
      ((∀ s a, allowed s a → Fair s a) → .memory place.memory ∉ t.loans →
        s.gateway.device.hasMemory place.memory = true)) ∧
    t.Proportioned ∧
    ∀ (session : Session) slot sl step failure, step.isAccess = true →
      (session.tensorStep slot sl step).1 = .failure failure →
      ∀ i, (session.tensorStep slot sl step).2.device? i = session.device? i := by
  have hs := covered_of_reach h
  refine ⟨fun hi hk => ?_, (hs.consistent n t ht).proportioned,
    fun session slot sl step failure ha hf => Session.device?_access ha hf⟩
  have hinit := (hs.consistent n t ht).isInitialized_iff.mp hi
  obtain ⟨place, hp⟩ := Option.isSome_iff_exists.mp (hinit.mapping.mpr hk)
  refine ⟨place, hp, fun hlive => Tensor.exactViews hk hp (hs.hasRoom ht hp hlive), ?_⟩
  intro hfair hloan
  obtain ⟨haccounted, -⟩ := issued_reach hfair h (.ofTypes types faults)
  have hasset := (hs.mem_of_mapping ht hp).resolve_right hloan
  exact Table.contains_iff.mpr (Device.memory_mem_assets.mp (haccounted.live_of_assets ht _ hasset))

/-- A tensor of two elements is mapped this many bytes into a memory that it is lent. -/
def shiftedRun (shift : Nat) : Bench :=
  ((ofTypes [Placement.hostCoherent] { mapShift := shift }).step
    (.outside (.createBound 16 Placement.transfer Placement.hostCoherent))).step
    (.build visiblePlan)

def shiftedTensor (shift : Nat) : Tensor :=
  ⟨.host, .float, 2, .live ⟨⟨.borrowed ⟨1, 2⟩, none⟩, some ⟨2, shift⟩⟩⟩

/-- Two bytes on no element can start, and writing all of them works. -/
theorem typed_views_shiftedRun :
    (shiftedTensor 2).view .float = .error (.misalignedView .float) ∧
      ∃ d', (shiftedTensor 2).overwrite (shiftedRun 2).gateway.device
          [(0x7fc00001 : Element .float), 0x80000000] = .ok d' ∧
        (shiftedRun 2).gateway.device.Rewritten d' ⟨2, 2⟩ [1, 0, 192, 127, 0, 0, 0, 128] := by
  have h : Reach Fair (.ofTypes [Placement.hostCoherent] { mapShift := 2 }) (shiftedRun 2) := by
    refine .step _ (.step _ .refl ?_) ?_
    · exact fun a ha => by cases ha
    · show ∀ a ∈ visiblePlan.loans, a.handle ≤ _
      decide +kernel
  have ht : (shiftedRun 2).tensors.get? 1 = some (shiftedTensor 2) := by decide +kernel
  obtain ⟨place, hp, hviews, -⟩ := (typed_views h ht).1 (by decide) (by decide)
  cases hp
  have hexact := hviews (by decide +kernel)
  obtain ⟨d', hd', hrewritten, -⟩ :=
    hexact.overwrite [(0x7fc00001 : Element .float), 0x80000000] rfl
  exact ⟨(hexact.misaligned (by decide)).1, d', hd', hrewritten⟩

end TensorMemory.Bench
