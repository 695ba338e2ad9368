import TensorMemory.Proofs.Tensor.Provision

/-!
The ways to construct a tensor. Elements, bytes with a count, and a plan whose data tells the count
come to the same (`construction_paths_agree`): a build depends on a plan only by its layout and by
what it asks for, and all three are laid out alike. Data that is no whole number of elements, or too
much of it, is refused before the device is called.
-/

namespace TensorMemory

theorem ElementType.width_lt_sizeLimit (dtype : ElementType) : dtype.width < sizeLimit := by
  cases dtype <;> decide

namespace TensorPlan

/-- A tensor of as many elements as the data holds. -/
def ofData (dtype : ElementType) (kind : Placement) (data : Block) : TensorPlan :=
  { dtype, kind, data := some data }

variable {plan plan' : TensorPlan} {g g' : Gateway}

/-- What a plan leaves open matters to a build only by the layout. -/
theorem build_eq_of_layout (hl : plan.layout = plan'.layout) (hk : plan.kind = plan'.kind)
    (ht : plan.dtype = plan'.dtype) (hd : plan.data = plan'.data)
    (hp : plan.primary = plan'.primary) (hs : plan.staging = plan'.staging) (g : Gateway) :
    plan.build g = plan'.build g := by
  unfold build completed
  rw [hl, hk, ht, hd, hp, hs]

theorem build_of_layout_error {e : TensorError} (h : plan.layout = .error e) (g : Gateway) :
    plan.build g = (.error e, g) := by
  unfold build
  rw [h]

theorem build_ofData_of_misfit {dtype : ElementType} {data : Block} (kind : Placement)
    (h : ¬dtype.Divides data.size) (g : Gateway) :
    (ofData dtype kind data).build g = (.error (dtype.misfit data.size), g) := by
  have hl : (ofData dtype kind data).layout = .error (dtype.misfit data.size) :=
    layout_of_misfit (fun w hw => by cases hw) rfl rfl h
  exact build_of_layout_error hl g

end TensorPlan

namespace Gateway

variable {g g' : Gateway}

theorem provideMemory_error {buffer : Handle} {need : BufferNeed} {e : TensorError}
    (h : g.provideMemory buffer need = (.error e, g')) : e.isCapability = true := by
  unfold provideMemory at h
  dsimp only at h
  split at h
  · cases h
    rfl
  split at h
  · cases h
    rfl
  split at h
  · cases h
    rfl
  · cases h

theorem createBacked_error {size : Nat} {need : BufferNeed} {e : TensorError}
    (h : g.createBacked size need = (.error e, g')) : e.isCapability = true := by
  unfold createBacked at h
  split at h
  · cases h
    rfl
  split at h
  · next hp =>
    cases h
    exact provideMemory_error hp
  · cases h

theorem obtainBacked_error {size : Nat} {need : BufferNeed} {lent : Option LentBuffer}
    {e : TensorError} (h : g.obtainBacked size need lent = (.error e, g')) :
    e.isCapability = true := by
  cases lent with
  | some l => cases h
  | none => exact createBacked_error h

/-- What goes wrong with a valid layout is up to the device, except that a staging buffer may be
lent where none is needed. -/
theorem obtainBacking_error {kind : Placement} {size : Nat} {primary staging : Option LentBuffer}
    {e : TensorError} (h : g.obtainBacking kind size primary staging = (.error e, g')) :
    e.isCapability = true ∨ staging.isSome = true ∧
      e = .unsupportedForKind "borrowed staging buffer" kind := by
  unfold obtainBacking at h
  split at h
  · next hl =>
    cases h
    exact .inr ⟨(Bool.and_eq_true_iff.mp hl).1, rfl⟩
  split at h
  · next ho =>
    cases h
    exact .inl (obtainBacked_error ho)
  split at h
  · cases h
  split at h
  · next ho =>
    cases h
    exact .inl (obtainBacked_error ho)
  · cases h

theorem mapAndFill_error {b : BackedBuffer} {size : Nat} {data : Option Block} {e : TensorError}
    (h : g.mapAndFill b size data = (.error e, g')) : e.isCapability = true := by
  unfold mapAndFill at h
  dsimp only at h
  split at h
  · cases h
    rfl
  · cases h
    rfl
  split at h
  · cases h
  · split at h <;> cases h

theorem furnish_error {kind : Placement} {dtype : ElementType} {size : Nat} {data : Option Block}
    {primary staging : Option LentBuffer} {e : TensorError}
    (h : g.furnish kind dtype size data primary staging = (.error e, g')) :
    e.isCapability = true ∨ staging.isSome = true ∧
      e = .unsupportedForKind "borrowed staging buffer" kind := by
  unfold furnish at h
  dsimp only at h
  split at h
  · next ho =>
    cases h
    exact obtainBacking_error ho
  split at h
  · cases h
  split at h
  · next hm =>
    cases h
    exact .inl (mapAndFill_error hm)
  · cases h

end Gateway

/-- What goes wrong with a plan that has a layout is not the layout. -/
theorem TensorPlan.build_error {plan : TensorPlan} {g g' : Gateway} {sizes : Nat × Nat}
    {e : TensorError} (hl : plan.layout = .ok sizes) (h : plan.build g = (.error e, g')) :
    e.isCapability = true ∨ plan.staging.isSome = true ∧
      e = .unsupportedForKind "borrowed staging buffer" plan.kind := by
  unfold build at h
  rw [hl] at h
  dsimp only at h
  split at h
  · next hf =>
    cases h
    exact Gateway.furnish_error hf
  · cases h

/-- Elements are constructed as their bytes are, which tell how many there are. -/
theorem Tensor.ofElements_eq_build (g : Gateway) {dtype : ElementType}
    (xs : List (Element dtype)) (kind : Placement) :
    ofElements g xs kind =
      (TensorPlan.ofData dtype kind (.ofBytes (Element.encode xs))).build g := by
  have hdiv : (Block.ofBytes (Element.encode xs)).size / dtype.width = xs.length := by
    rw [Block.size_ofBytes, Element.length_encode, Nat.mul_div_cancel _ dtype.width_pos]
  have hcount : (TensorPlan.ofData dtype kind (.ofBytes (Element.encode xs))).elementCount =
      if xs.length < UInt32.size then .ok xs.length
      else .error (.sizeOverflow (UInt32.size - 1) dtype.width) := by
    rw [← hdiv]
    exact TensorPlan.elementCount_of_data (fun w hw => by cases hw) rfl rfl
  unfold ofElements
  split at hcount
  · next hlt =>
    have hlayout : { TensorPlan.ofData dtype kind (.ofBytes (Element.encode xs)) with
        elements := some xs.length, elementSize := some dtype.width }.layout =
        (TensorPlan.ofData dtype kind (.ofBytes (Element.encode xs))).layout := by
      rw [TensorPlan.layout, TensorPlan.layout, hcount]
      rfl
    rw [if_pos hlt, create]
    exact TensorPlan.build_eq_of_layout hlayout rfl rfl rfl rfl rfl g
  · next hge =>
    rw [if_neg hge, TensorPlan.build_of_layout_error]
    rw [TensorPlan.layout, hcount]

/-- Memory that is local to the device and that the host sees suits every request. -/
theorem Placement.suits_requests (kind : Placement) : ∀ need ∈ kind.requests,
    (MemoryFlags.deviceLocal ||| Placement.hostCoherent).contains need.memoryFlags = true := by
  cases kind <;> decide

/-- A device with one memory type, which suits every request. -/
def unified : Gateway := .ofDevice (.ofTypes [MemoryFlags.deviceLocal ||| Placement.hostCoherent])

/-- A consistent plan that borrows nothing can be built. -/
theorem TensorPlan.build_unified {plan : TensorPlan} {n : Nat} (hl : plan.Fits n)
    (hp : plan.primary = none) (hs : plan.staging = none) :
    ∃ r g', plan.build unified = (.ok ⟨plan.kind, plan.dtype, n, .live r⟩, g') := by
  have hplain : unified.Plain [MemoryFlags.deviceLocal ||| Placement.hostCoherent] :=
    ⟨.ofTypes _, rfl, rfl⟩
  have hfree {e : TensorError} : ¬FirstObstacle
      [MemoryFlags.deviceLocal ||| Placement.hostCoherent] none plan.kind.requests e := by
    rintro ⟨k, need, hk, ho, -⟩
    cases ho with
    | missing h =>
      have hsuits := plan.kind.suits_requests need (List.mem_of_getElem? hk)
      rw [h 0 (by decide) _ rfl] at hsuits
      cases hsuits
    | spent _ hb _ => cases hb
  cases hb : plan.build unified with
  | mk r g' =>
  obtain ⟨-, hspec⟩ := build_plain hplain hl hp hs hb
  cases r with
  | error e => exact absurd hspec hfree
  | ok t =>
    obtain ⟨-, resources, rfl, -⟩ := hspec
    exact ⟨resources, g', rfl⟩

/-- Elements, their bytes with their number, and a plan with their bytes alone make the same calls
and leave the same tensor or error. Untyped data is accepted just if it is a number of elements, and
is otherwise refused before the device is called. -/
theorem construction_paths_agree :
    (∀ (dtype : ElementType) (xs : List (Element dtype)) (kind : Placement) (g : Gateway),
      Tensor.ofElements g xs kind =
        (TensorPlan.ofData dtype kind (.ofBytes (Element.encode xs))).build g ∧
      (xs.length < UInt32.size → Tensor.ofElements g xs kind =
        Tensor.create g (.ofBytes (Element.encode xs)) xs.length dtype.width dtype kind) ∧
      (xs = [] → Tensor.ofElements g xs kind = (.error .emptyTensor, g)) ∧
      (sizeLimit ≤ xs.length * dtype.width → Tensor.ofElements g xs kind =
        (.error (.sizeOverflow (min xs.length (UInt32.size - 1)) dtype.width), g))) ∧
    ∀ (plan : TensorPlan) (data : Block), plan.elements = none → plan.data = some data →
      (∀ w ∈ plan.elementSize, w = plan.dtype.width) →
      (¬plan.dtype.Divides data.size →
        ∀ g, plan.build g = (.error (plan.dtype.misfit data.size), g)) ∧
      (plan.dtype.Divides data.size → ∀ g e, (plan.build g).1 = .error e →
        e.isCapability = true ∨ plan.staging.isSome = true ∧
          e = .unsupportedForKind "borrowed staging buffer" plan.kind) ∧
      (plan.primary = none → plan.staging = none → (plan.dtype.Divides data.size ↔
        ∃ g t, (plan.build g).1 = .ok t ∧ t.size = data.size / plan.dtype.width)) := by
  refine ⟨fun dtype xs kind g => ?_, fun plan data hn hd hs => ⟨?_, ?_, ?_⟩⟩
  · have hagree := Tensor.ofElements_eq_build g xs kind
    refine ⟨hagree, fun hlt => ?_, ?_, fun hover => ?_⟩
    · rw [Tensor.ofElements, if_pos hlt]
    · rintro rfl
      have hmisfit := hagree.trans (TensorPlan.build_ofData_of_misfit kind
        (fun h => Nat.lt_irrefl 0 h.1) g)
      have hempty : (Block.ofBytes (Element.encode ([] : List (Element dtype)))).size = 0 := rfl
      rwa [hempty, ElementType.misfit, if_pos dtype.width_pos] at hmisfit
    · have hw := dtype.width_pos
      have hlarge : ¬xs.length * dtype.width < dtype.width := fun hlt =>
        absurd hover (Nat.not_le.mpr (Nat.lt_trans hlt dtype.width_lt_sizeLimit))
      have hsize : (Block.ofBytes (Element.encode xs)).size = xs.length * dtype.width := by
        rw [Block.size_ofBytes, Element.length_encode]
      have hmisfit := hagree.trans (TensorPlan.build_ofData_of_misfit kind
        (fun h => Nat.not_lt.mpr hover (hsize ▸ h.2.2)) g)
      rwa [hsize, ElementType.misfit, if_neg hlarge, Nat.mul_div_cancel _ hw, if_pos hover]
        at hmisfit
  · intro h g
    exact TensorPlan.build_of_layout_error (TensorPlan.layout_of_misfit hs hn hd h) g
  · intro h g e he
    exact TensorPlan.build_error (TensorPlan.layout_of_divides hs hn hd h).1 (Prod.ext he rfl)
  · intro hp hstaging
    constructor
    · intro h
      obtain ⟨r, g', hb⟩ := TensorPlan.build_unified
        (TensorPlan.layout_of_divides hs hn hd h).2 hp hstaging
      exact ⟨unified, _, congrArg Prod.fst hb, rfl⟩
    · rintro ⟨g, t, ht, -⟩
      by_contra h
      rw [TensorPlan.build_of_layout_error (TensorPlan.layout_of_misfit hs hn hd h)] at ht
      cases ht

/-- Data that ends in the middle of an element, data that is one byte too long for its size to be
told in 32 bits, and two elements by either way. -/
theorem construction_paths_agree_boundaries :
    (TensorPlan.ofData .int .host (.zeros 7)).build unified =
        (.error (.dimensionMismatch 4 7), unified) ∧
      (TensorPlan.ofData .int .host (.zeros sizeLimit)).build unified =
        (.error (.sizeOverflow 1073741824 4), unified) ∧
      Tensor.ofElements unified ([1, 2] : List (Element .bool)) .device =
        Tensor.create unified (.ofBytes (Element.encode ([1, 2] : List (Element .bool)))) 2 1 .bool
          .device :=
  ⟨(construction_paths_agree.2 (.ofData .int .host (.zeros 7)) _ rfl rfl fun _ h => nomatch h).1
      (fun h => absurd h.2.1 (by decide)) unified,
    (construction_paths_agree.2 (.ofData .int .host (.zeros sizeLimit)) _ rfl rfl
      fun _ h => nomatch h).1 (fun h => absurd h.2.2 (Nat.lt_irrefl _)) unified,
    (construction_paths_agree.1 .bool [1, 2] .device unified).2.1 (by decide)⟩

end TensorMemory
