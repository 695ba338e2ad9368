import TensorMemory.Proofs.Bench.Legs
import TensorMemory.Proofs.Bench.Staleness

/-!
Hazards of going to and fro. When a command buffer is filled with uploads and downloads of tensors
alone, and the buffers they name are still there, the commands are legs between staging and primary
buffers that no two tensors share (`Shuttled.legs`, `Placed.apart`). So what a submission reports is
which uploads follow a download of the same tensor (`shuttling`).
-/

namespace TensorMemory

def Trip.recording (p : Trip) : Recording :=
  match p.direction with
  | .upload => .upload p.scope
  | .download => .download p.scope

namespace Bench

variable {s start : Bench} {commandBuffer : Handle} {trips : List Trip} {l l' : Leg}
  {t : Tensor}

/-- Runs in which the command buffer is filled with trips of tensors that have nothing on loan, one
after another. A call that is refused adds nothing, and so is no trip. -/
inductive Shuttled (commandBuffer : Handle) (start : Bench) : List Trip → Bench → Prop
  | start : Shuttled commandBuffer start [] start
  | trip {trips : List Trip} {s : Bench} {t : Tensor} (run : Shuttled commandBuffer start trips s)
      (p : Trip) (traced : Bool) (ht : s.tensors.get? p.tensor = some t) (own : t.loans = [])
      (adds : s.commands t p.recording ≠ []) :
      Shuttled commandBuffer start (trips ++ [p])
        (s.step (.record p.tensor traced commandBuffer p.recording))
  | other {trips : List Trip} {s : Bench} (run : Shuttled commandBuffer start trips s) (a : Action)
      (fair : Fair s a) (leaving : Leaving commandBuffer s a) :
      Shuttled commandBuffer start trips (s.step a)

/-- The commands of a trip as the tensor would record it now. -/
def tripCommands (s : Bench) (p : Trip) : List Command :=
  match s.tensors.get? p.tensor with
  | none => []
  | some t => s.commands t p.recording

/-- The staging buffer of a tensor. -/
def stagingOf (s : Bench) (n : Nat) : Option Handle :=
  (s.tensors.get? n).bind fun t => t.staging?.map (·.buffer.handle)

/-! ## Legs -/

/-- The leg is between the two buffers of its tensor, which owns them. -/
def Placed (s : Bench) (l : Leg) : Prop :=
  ∃ t, s.tensors.get? l.tensor = some t ∧ t.loans = [] ∧ t.byteSize = l.size ∧
    ∀ operation, t.stagedBuffers operation = .ok (l.staging, l.primary)

/-- What a tensor adds for a trip is a leg between its buffers. -/
theorem placed_of_adds {p : Trip} (ht : s.tensors.get? p.tensor = some t) (own : t.loans = [])
    (adds : s.commands t p.recording ≠ []) :
    ∃ l : Leg, l.toTrip = p ∧ s.Placed l ∧ s.commands t p.recording = l.commands := by
  have placed {operation : String} {staging primary : Handle}
      (h : t.stagedBuffers operation = .ok (staging, primary)) :
      s.Placed ⟨p, staging, primary, t.byteSize⟩ :=
    ⟨t, ht, own, rfl, fun _ => Tensor.stagedBuffers_eq_ok.mpr (Tensor.stagedBuffers_eq_ok.mp h)⟩
  obtain ⟨n, direction, scope⟩ := p
  cases direction with
  | upload =>
    dsimp only [Trip.recording, commands] at adds ⊢
    cases h : t.stagedBuffers "record_copy_from_staging_to_device" with
    | error e =>
      rw [h] at adds
      exact absurd rfl adds
    | ok buffers => exact ⟨_, rfl, placed h, rfl⟩
  | download =>
    dsimp only [Trip.recording, commands] at adds ⊢
    cases h : t.stagedBuffers "record_copy_from_device_to_staging" with
    | error e =>
      rw [h] at adds
      exact absurd rfl adds
    | ok buffers => exact ⟨_, rfl, placed h, rfl⟩

namespace Placed

theorem tripCommands (h : s.Placed l) : s.tripCommands l.toTrip = l.commands := by
  obtain ⟨t, ht, -, hsize, hstaged⟩ := h
  unfold Bench.tripCommands Leg.commands
  rw [ht]
  dsimp only [Trip.recording]
  cases l.direction <;> simp only [commands, hstaged, hsize]

theorem behind (h : s.Placed l) : ∃ t x y,
    Behind s.tensors ⟨l.tensor, .host⟩ t x ∧ Behind s.tensors ⟨l.tensor, .device⟩ t y ∧
      t.loans = [] ∧ x.buffer.handle = l.staging ∧ y.buffer.handle = l.primary := by
  obtain ⟨t, ht, own, -, hstaged⟩ := h
  obtain ⟨-, r, b, hr, hb, hs, hp⟩ := Tensor.stagedBuffers_eq_ok.mp (hstaged "")
  exact ⟨t, b, _, ⟨ht, r, hr, hb⟩, ⟨ht, r, hr, rfl⟩, own, hs, hp⟩

theorem stagingOf (h : s.Placed l) : s.stagingOf l.tensor = some l.staging := by
  obtain ⟨t, x, -, hx, -, -, hs, -⟩ := h.behind
  obtain ⟨r, hr, hside⟩ := hx.side
  rw [Bench.stagingOf, hx.tensor, Option.bind_some, Tensor.staging?,
    Tensor.resources?_eq_some.mpr hr, ← hs]
  exact congrArg (Option.map _) hside

/-- No staging buffer is a primary buffer, nor the staging buffer of another tensor. -/
theorem apart (hs : Accounted s) (h : s.Placed l) (h' : s.Placed l') :
    l.staging ≠ l'.primary ∧ (l.staging = l'.staging ↔ l.tensor = l'.tensor) := by
  obtain ⟨t, x, -, hx, -, own, hstaging, -⟩ := h.behind
  obtain ⟨t', x', y', hx', hy', own', hstaging', hprimary'⟩ := h'.behind
  have hmem := BackedBuffer.buffer_mem_assets (hx.owned own)
  have hmem' := BackedBuffer.buffer_mem_assets (hx'.owned own')
  have hmemPrimary := BackedBuffer.buffer_mem_assets (hy'.owned own')
  rw [hstaging] at hmem
  rw [hstaging'] at hmem'
  rw [hprimary'] at hmemPrimary
  refine ⟨fun he => ?_, fun he => ?_, fun he => ?_⟩
  · have hside := congrArg Cell.side (hs.cell_unique hx hy' hmem (he ▸ hmemPrimary))
    cases hside
  · exact congrArg Cell.tensor (hs.cell_unique hx hx' hmem (he ▸ hmem'))
  · have hsame := h.stagingOf
    rw [he, h'.stagingOf] at hsame
    exact (Option.some.inj hsame).symm

end Placed

/-! ## On the way -/

/-- The leg is in place for as long as its staging buffer is there. -/
structure Carried (s : Bench) (l : Leg) : Prop where
  issued : l.staging ≤ s.gateway.device.issued
  placed : .buffer l.staging ∈ s.gateway.device.assets → s.Placed l

theorem Placed.mem_holdings (h : s.Placed l) : .buffer l.staging ∈ s.holdings l.tensor := by
  obtain ⟨t, x, -, hx, -, own, hs, -⟩ := h.behind
  have hmem := hx.mem_assets (BackedBuffer.buffer_mem_assets (hx.owned own))
  rwa [hs, ← holdings_some hx.tensor] at hmem

theorem Placed.carried (hs : Accounted s) (h : s.Placed l) : Carried s l :=
  ⟨(hs.numbered.le_issued (hs.live_of_holdings h.mem_holdings)).2, fun _ => h⟩

theorem Carried.step (h : Carried s l) (hs : Accounted s) {a : Action} (hf : Fair s a) :
    Carried (s.step a) l where
  issued := Nat.le_trans h.issued (issued_step hs.orderly _)
  placed hlive := by
    have hp := h.placed (live_before hs.orderly h.issued hlive)
    obtain ⟨t, ht, hrest⟩ := id hp
    exact ⟨t, (unchanged_of_live hs hf hp.mem_holdings hlive).trans ht, hrest⟩

/-- Trips wait as legs. -/
theorem Shuttled.legs (h : Shuttled commandBuffer start trips s) (hs : Moored start)
    (unused : start.gateway.device.commandBuffers.get? commandBuffer = some []) :
    ∃ legs : List Leg, legs.map Leg.toTrip = trips ∧ (∀ l ∈ legs, Carried s l) ∧
      Awaits commandBuffer s.gateway.device.issued s (legs.flatMap Leg.commands) := by
  induction h with
  | start =>
    exact ⟨[], rfl, List.forall_mem_nil _, hs, unused, List.forall_mem_nil _⟩
  | @trip trips s t run p traced ht own adds ih =>
    obtain ⟨legs, rfl, hcarried, hw⟩ := ih
    obtain ⟨l, rfl, hp, hcommands⟩ := placed_of_adds ht own adds
    have hf : Fair s (.record l.tensor traced commandBuffer l.recording) := trivial
    have hfill : Filling commandBuffer s (.record l.tensor traced commandBuffer l.recording) := by
      refine fun _ => ⟨fun u hu => ?_, fun source he => ?_⟩
      · cases ht.symm.trans hu
        exact own
      · unfold Trip.recording at he
        split at he <;> cases he
    have hissued := issued_step hw.toAccounted.orderly
      (.record l.tensor traced commandBuffer l.recording)
    have hw' := (hw.record ht hfill).mono hissued
    refine ⟨legs ++ [l], by rw [List.map_append]; rfl, ?_, ?_⟩
    · refine List.forall_mem_append.mpr ⟨fun l' hl' => ?_, List.forall_mem_singleton.mpr ?_⟩
      · exact (hcarried l' hl').step hw.toAccounted hf
      · exact (hp.carried hw.toAccounted).step hw.toAccounted hf
    · rw [List.flatMap_append, List.flatMap_singleton, ← hcommands]
      exact hw'
  | @other trips s run a fair leaving ih =>
    obtain ⟨legs, rfl, hcarried, hw⟩ := ih
    refine ⟨legs, rfl, fun l hl => (hcarried l hl).step hw.toAccounted fair, ?_⟩
    exact (hw.leave fair leaving).mono (issued_step hw.toAccounted.orderly _)

/-! ## What is reported -/

/-- Legs of which the copy misses no buffer are still in place. -/
theorem Carried.of_alive (h : Carried s l)
    (alive : ∀ c ∈ l.commands, s.gateway.device.missing? c = none) : s.Placed l := by
  refine h.placed (Device.hasBuffer_iff.mp ?_)
  unfold Leg.commands at alive
  split at alive
  · exact (Device.missing?_eq_none.mp (alive _ (List.mem_cons_self ..))).1
  · exact (Device.missing?_eq_none.mp (alive _ (List.mem_cons_of_mem _
      (List.mem_singleton.mpr rfl)))).2

theorem tripCommands_map {legs : List Leg} (h : ∀ l ∈ legs, s.Placed l) :
    (legs.map Leg.toTrip).flatMap s.tripCommands = legs.flatMap Leg.commands := by
  rw [List.flatMap_map]
  exact List.flatMap_congr fun l hl => (h l hl).tripCommands

theorem length_tripCommands {legs : List Leg} (h : ∀ l ∈ legs, s.Placed l)
    {earlier later : List Trip} (hsplit : legs.map Leg.toTrip = earlier ++ later) :
    (earlier.flatMap s.tripCommands).length = 2 * earlier.length := by
  obtain ⟨legs₁, legs₂, rfl, rfl, -⟩ := List.map_eq_append_iff.mp hsplit
  rw [tripCommands_map (List.forall_mem_append.mp h).1, Leg.length_flatMap_commands,
    List.length_map]

/-- Reported are the uploads after a download of the same tensor. -/
theorem mem_reports_trips (hs : Accounted s) {legs : List Leg} (hp : ∀ l ∈ legs, s.Placed l)
    (h : Hazard) : h ∈ Device.reports [] 0 (legs.flatMap Leg.commands) ↔
      ∃ earlier p later staging, legs.map Leg.toTrip = earlier ++ p :: later ∧
        p.direction = .upload ∧ (∃ q ∈ earlier, q.direction = .download ∧ q.tensor = p.tensor) ∧
        s.stagingOf p.tensor = some staging ∧
        h = ⟨staging, AccessFlags.transferWrite, (earlier.flatMap s.tripCommands).length⟩ := by
  rw [Device.mem_reports_legs (fun _ _ => List.not_mem_nil) fun l hl l' hl' =>
    ((hp l hl).apart hs (hp l' hl')).1]
  simp only [List.not_mem_nil, false_or, Nat.zero_add]
  constructor
  · rintro ⟨earlier, l, later, rfl, hup, ⟨l', hl', hdown, he⟩, rfl⟩
    obtain ⟨hearlier, hl, -⟩ := List.forall_mem_append.mp hp |>.imp_right List.forall_mem_cons.mp
    refine ⟨earlier.map Leg.toTrip, l.toTrip, later.map Leg.toTrip, l.staging,
      by rw [List.map_append]; rfl, hup, ⟨l'.toTrip, List.mem_map_of_mem hl', hdown, ?_⟩,
      hl.stagingOf, by rw [tripCommands_map hearlier]⟩
    exact ((hearlier l' hl').apart hs hl).2.mp he
  · rintro ⟨earlier, p, later, staging, hsplit, hup, ⟨q, hq, hdown, he⟩, hstaging, rfl⟩
    obtain ⟨earlier, rest, rfl, rfl, hrest⟩ := List.map_eq_append_iff.mp hsplit
    obtain ⟨l, later, rfl, rfl, rfl⟩ := List.map_eq_cons_iff.mp hrest
    obtain ⟨l', hl', rfl⟩ := List.mem_map.mp hq
    obtain ⟨hearlier, hl, -⟩ := List.forall_mem_append.mp hp |>.imp_right List.forall_mem_cons.mp
    cases hl.stagingOf.symm.trans hstaging
    exact ⟨earlier, l, later, rfl, hup, ⟨l', hl', hdown, ((hearlier l' hl').apart hs hl).2.mpr he⟩,
      by rw [tripCommands_map hearlier]⟩

/-- A submission of uploads and downloads of tensors that own their buffers, all of them still
there, reports each upload that has an earlier download of the same tensor, once, on the staging
buffer and at the upload's copy; and it reports nothing else. So no download is ever reported, and
nothing at all where the uploads of every tensor come before its downloads. -/
theorem shuttling {types : List Mask} {faults : Faults} {s₁ s : Bench} {commandBuffer : Handle}
    {trips : List Trip} (before : Reach Fair (.ofTypes types faults) s₁)
    (unused : s₁.gateway.device.commandBuffers.get? commandBuffer = some [])
    (shuttled : Shuttled commandBuffer s₁ trips s)
    (alive : ∀ c ∈ s.gateway.device.recorded commandBuffer, s.gateway.device.missing? c = none) :
    s.gateway.device.recorded commandBuffer = trips.flatMap s.tripCommands ∧
    (s.gateway.device.submit commandBuffer).1 = .ok () ∧
    ∃ reported, (s.gateway.device.submit commandBuffer).2.hazards =
        s.gateway.device.hazards ++ reported ∧
      reported.Pairwise (·.commandIndex < ·.commandIndex) ∧
      (∀ h, h ∈ reported ↔ ∃ earlier p later staging, trips = earlier ++ p :: later ∧
        p.direction = .upload ∧ (∃ q ∈ earlier, q.direction = .download ∧ q.tensor = p.tensor) ∧
        s.stagingOf p.tensor = some staging ∧
        h = ⟨staging, AccessFlags.transferWrite, (earlier.flatMap s.tripCommands).length⟩) ∧
      (∀ p ∈ trips, (s.stagingOf p.tensor).isSome = true) ∧
      (∀ h ∈ reported, ∀ earlier p later, trips = earlier ++ p :: later →
        p.direction = .download → h.commandIndex ≠ (earlier.flatMap s.tripCommands).length + 1) ∧
      ((trips.Pairwise fun q p => q.tensor = p.tensor → p.direction = .upload →
        q.direction = .upload) → reported = []) := by
  obtain ⟨legs, rfl, hcarried, hw⟩ := shuttled.legs (moored_of_reach before) unused
  rw [Device.recorded_of_get? hw.waiting] at alive ⊢
  have hplaced : ∀ l ∈ legs, s.Placed l := fun l hl =>
    (hcarried l hl).of_alive fun c hc => alive c (List.mem_flatMap.mpr ⟨l, hl, hc⟩)
  have hok := (Device.carryAll_completes (fun c hc => (hw.vouched c hc).usable hw.toMoored) alive).1
  obtain ⟨hsubmit, hhazards⟩ := Device.submit_of_carried hw.waiting hok
  have hmem := mem_reports_trips hw.toAccounted hplaced
  refine ⟨(tripCommands_map hplaced).symm, hsubmit, _, hhazards, Device.pairwise_reports _ _ _,
    hmem, ?_, ?_, ?_⟩
  · intro p hp
    obtain ⟨l, hl, rfl⟩ := List.mem_map.mp hp
    rw [(hplaced l hl).stagingOf]
    rfl
  · intro h hh earlier p later hsplit _ he
    obtain ⟨earlier', p', later', staging, hsplit', -, -, -, rfl⟩ := (hmem h).mp hh
    rw [length_tripCommands hplaced hsplit, length_tripCommands hplaced hsplit'] at he
    dsimp only at he
    omega
  · intro hfirst
    refine List.eq_nil_iff_forall_not_mem.mpr fun h hh => ?_
    obtain ⟨earlier, p, later, -, hsplit, hup, ⟨q, hq, hdown, he⟩, -⟩ := (hmem h).mp hh
    rw [hsplit, List.pairwise_append] at hfirst
    have := hfirst.2.2 q hq p (List.mem_cons_self ..) he hup
    rw [hdown] at this
    cases this

/-- Two tensors are downloaded and uploaded in turn. -/
def roundTrips : List Trip :=
  [⟨1, .download, .shaderWrite⟩, ⟨2, .upload, .shaderRead⟩, ⟨1, .upload, .shaderRead⟩,
    ⟨2, .download, .transferWrite⟩, ⟨1, .upload, .shaderWrite⟩]

def roundTrip (s : Bench) (p : Trip) : Bench := s.step (.record p.tensor false 9 p.recording)

theorem shuttling_roundTrips :
    ((roundTrips.foldl roundTrip twoTensors).gateway.device.submit 9).2.hazards =
      [⟨3, AccessFlags.transferWrite, 4⟩, ⟨3, AccessFlags.transferWrite, 8⟩] ∧
    ∀ h ∈ ((roundTrips.foldl roundTrip twoTensors).gateway.device.submit 9).2.hazards,
      ∃ earlier p later, roundTrips = earlier ++ p :: later ∧ p.direction = .upload ∧
        ∃ q ∈ earlier, q.direction = .download ∧ q.tensor = p.tensor := by
  have trip {trips : List Trip} {s : Bench} (run : Shuttled 9 twoTensors trips s) (p : Trip)
      (h : ((s.tensors.get? p.tensor).any fun t =>
        t.loans = [] ∧ s.commands t p.recording ≠ []) = true) :
      Shuttled 9 twoTensors (trips ++ [p]) (roundTrip s p) := by
    obtain ⟨t, ht, hp⟩ := (Option.any_eq_true _ _).mp h
    exact .trip run p false ht (of_decide_eq_true hp).1 (of_decide_eq_true hp).2
  have shuttled : Shuttled 9 twoTensors roundTrips (roundTrips.foldl roundTrip twoTensors) := by
    refine trip (trip (trip (trip (trip .start ⟨1, .download, .shaderWrite⟩ ?_)
      ⟨2, .upload, .shaderRead⟩ ?_) ⟨1, .upload, .shaderRead⟩ ?_)
      ⟨2, .download, .transferWrite⟩ ?_) ⟨1, .upload, .shaderWrite⟩ ?_ <;> decide +kernel
  obtain ⟨-, -, reported, hreported, -, hmem, -⟩ := shuttling reach_twoTensors
    (by decide +kernel) shuttled (by decide +kernel)
  refine ⟨by decide +kernel, fun h hh => ?_⟩
  have hnone : (roundTrips.foldl roundTrip twoTensors).gateway.device.hazards = [] := by
    decide +kernel
  rw [hreported, hnone] at hh
  obtain ⟨earlier, p, later, -, hsplit, hup, hdown, -⟩ := (hmem h).mp hh
  exact ⟨earlier, p, later, hsplit, hup, hdown⟩

end Bench
end TensorMemory
