import TensorMemory.Proofs.Device.Bytes
import TensorMemory.Proofs.Device.Representation
import TensorMemory.Proofs.Device.Splitting

/-!
What a copy does to bytes. A region is granted or refused by what the device says of the two buffers
(`Grants`), and one that is granted moves a range of bytes as it was before, whatever the ranges
share (`Moved`). The regions of a command do so one after another (`Moves`).
-/

namespace TensorMemory.Device

/-- The buffer is live, has the usage, is bound to live memory and has the range, which begins at
the place. -/
def Grants (d : Device) (buffer : Handle) (required : Mask) (offset size : Nat)
    (place : Place) : Prop :=
  ∃ b p, d.buffers.get? buffer = some b ∧ b.usage.contains required = true ∧
    b.binding = some p ∧ d.hasMemory p.memory = true ∧ offset + size ≤ b.size ∧
    place = ⟨p.memory, p.offset + offset⟩

theorem locate_eq_ok_iff {d : Device} {buffer : Handle} {required : Mask} {offset size : Nat}
    {place : Place} :
    d.locate buffer required offset size = .ok place ↔
      d.Grants buffer required offset size place := by
  constructor
  · intro h
    unfold locate at h
    split at h
    · cases h
    next b hb =>
    split at h
    · cases h
    next husage =>
    split at h
    · cases h
    next p hp =>
    split at h
    · cases h
    next hinside =>
    split at h
    · next hlive =>
      cases h
      exact ⟨b, p, hb, by simpa using husage, hp, hlive, Nat.not_lt.mp hinside, rfl⟩
    · cases h
  · rintro ⟨b, p, hb, husage, hp, hlive, hinside, rfl⟩
    rw [locate, hb]
    dsimp only
    rw [husage, hp, if_neg (by decide)]
    dsimp only
    rw [if_neg (Nat.not_lt.mpr hinside), if_pos hlive]

theorem Grants.unique {d : Device} {buffer : Handle} {required : Mask} {offset size : Nat}
    {p p' : Place} (h : d.Grants buffer required offset size p)
    (h' : d.Grants buffer required offset size p') : p = p' := by
  have he := (locate_eq_ok_iff.mpr h).symm.trans (locate_eq_ok_iff.mpr h')
  cases he
  rfl

/-- The region is granted for reading from the one place and for writing to the other. -/
def Admits (d : Device) (source target : Handle) (r : CopyRegion) (origin goal : Place) : Prop :=
  d.Grants source UsageFlags.transferSource r.sourceOffset r.size origin ∧
    d.Grants target UsageFlags.transferTarget r.targetOffset r.size goal

/-- A range of bytes has moved. What arrives is what was at its origin before, also where it
arrives over a part of itself, and no other byte of any memory is different. -/
structure Moved (d d' : Device) (origin goal : Place) (size : Nat) : Prop where
  buffers : d'.buffers = d.buffers
  others : ∀ i, i ≠ goal.memory → d'.bytes? i = d.bytes? i
  range : ∃ read old now, d.bytes? origin.memory = some read ∧
    d.bytes? goal.memory = some old ∧ d'.bytes? goal.memory = some now ∧
    origin.offset + size ≤ read.length ∧
    Bytes.Patched old now goal.offset ((read.drop origin.offset).take size)

/-- What regions come to that are moved in order, up to the first that is refused. -/
inductive Moves (source target : Handle) :
    Device → List CopyRegion → Except AccessError Unit → Device → Prop
  | done {d : Device} : Moves source target d [] (.ok ()) d
  | moved {d between d' : Device} {r : CopyRegion} {rest : List CopyRegion}
      {result : Except AccessError Unit} {origin goal : Place}
      (admits : d.Admits source target r origin goal) (moved : Moved d between origin goal r.size)
      (follow : Moves source target between rest result d') :
      Moves source target d (r :: rest) result d'
  | refused {d : Device} {r : CopyRegion} {rest : List CopyRegion} {e : AccessError}
      (refused : ∀ origin goal, ¬d.Admits source target r origin goal) :
      Moves source target d (r :: rest) (.error e) d

/-! ## One region -/

variable {d : Device} {source target : Handle} {r : CopyRegion}

theorem copyRegion_admitted {origin goal : Place} (h : d.Admits source target r origin goal) :
    d.copyRegion source target r = .ok (d.store goal (d.load origin r.size)) := by
  rw [copyRegion, locate_eq_ok_iff.mpr h.1, locate_eq_ok_iff.mpr h.2]

theorem copyRegion_ok_iff :
    (∃ d', d.copyRegion source target r = .ok d') ↔
      ∃ origin goal, d.Admits source target r origin goal := by
  constructor
  · rintro ⟨d', h⟩
    unfold copyRegion at h
    split at h
    · cases h
    next origin ho =>
    split at h
    · cases h
    next goal hg =>
    exact ⟨origin, goal, locate_eq_ok_iff.mp ho, locate_eq_ok_iff.mp hg⟩
  · rintro ⟨origin, goal, h⟩
    exact ⟨_, copyRegion_admitted h⟩

theorem Coherent.grants (hd : d.Coherent) {buffer : Handle} {required : Mask} {offset size : Nat}
    {place : Place} (h : d.Grants buffer required offset size place) :
    ∃ bytes, d.bytes? place.memory = some bytes ∧ place.offset + size ≤ bytes.length := by
  obtain ⟨m, hm, hroom⟩ := hd.locate (locate_eq_ok_iff.mpr h)
  exact ⟨_, bytes?_eq_some.mpr ⟨m, hm, rfl⟩, by rwa [Block.length_toBytes]⟩

/-- All bytes are loaded before the first is stored. -/
theorem Coherent.moved (hd : d.Coherent) {origin goal : Place}
    (h : d.Admits source target r origin goal) :
    Moved d (d.store goal (d.load origin r.size)) origin goal r.size := by
  obtain ⟨read, hread, hfrom⟩ := hd.grants h.1
  obtain ⟨old, hold, hto⟩ := hd.grants h.2
  have hload := toBytes_load hread r.size
  have hsize : (d.load origin r.size).size = r.size := by
    rw [← Block.length_toBytes, hload, List.length_take, List.length_drop]
    omega
  obtain ⟨now, hnow, hpatched⟩ := patched_store (d.load origin r.size) hold (by rwa [hsize])
  rw [hload] at hpatched
  exact ⟨rfl, fun i hi => bytes?_store_of_ne hi _, read, old, now, hread, hold, hnow, hfrom,
    hpatched⟩

/-! ## All regions -/

theorem Coherent.moves (hd : d.Coherent) (source target : Handle) (regions : List CopyRegion) :
    Moves source target d regions (d.copyRegions source target regions).1
      (d.copyRegions source target regions).2 := by
  induction regions generalizing d with
  | nil => exact .done
  | cons r rest ih =>
    rw [copyRegions]
    cases hr : d.copyRegion source target r with
    | error e =>
      refine .refused fun origin goal h => ?_
      rw [copyRegion_admitted h] at hr
      cases hr
    | ok between =>
      obtain ⟨origin, goal, h⟩ := copyRegion_ok_iff.mp ⟨between, hr⟩
      have hbetween := ih (hd.refilled (copyRegion_refilled hr))
      rw [copyRegion_admitted h] at hr
      cases hr
      exact .moved h (hd.moved h) hbetween

theorem Moved.congr {d d' d'' : Device} {origin goal : Place} {size : Nat}
    (h : Moved d d' origin goal size) (hb : d''.buffers = d'.buffers)
    (hm : d''.memories = d'.memories) : Moved d d'' origin goal size := by
  have hbytes (i : Handle) : d''.bytes? i = d'.bytes? i := by rw [bytes?, bytes?, hm]
  refine ⟨hb.trans h.buffers, fun i hi => (hbytes i).trans (h.others i hi), ?_⟩
  rw [hbytes]
  exact h.range

/-- One region was moved, or it was refused and nothing was. -/
theorem Moves.cases_single {d' : Device} {result : Except AccessError Unit}
    (h : Moves source target d [r] result d') :
    (∃ origin goal, result = .ok () ∧ d.Admits source target r origin goal ∧
        Moved d d' origin goal r.size) ∨
      (∃ e, result = .error e) ∧ d' = d ∧ ∀ origin goal, ¬d.Admits source target r origin goal := by
  cases h with
  | moved admits moved follow =>
    cases follow
    exact .inl ⟨_, _, rfl, admits, moved⟩
  | refused refused => exact .inr ⟨⟨_, rfl⟩, rfl, refused⟩

theorem Admits.unique {origin goal origin' goal' : Place}
    (h : d.Admits source target r origin goal) (h' : d.Admits source target r origin' goal') :
    origin = origin' ∧ goal = goal' := ⟨h.1.unique h'.1, h.2.unique h'.2⟩

theorem submit_copy {commandBuffer : Handle} {regions : List CopyRegion}
    (h : d.commandBuffers.get? commandBuffer = some [.copy source target regions]) :
    (d.submit commandBuffer).1 = (d.copyRegions source target regions).1 ∧
      (d.submit commandBuffer).2.memories = (d.copyRegions source target regions).2.memories := by
  rw [submit_eq h]
  simp only [carryAll, carry, annotate]
  rcases d.copyRegions source target regions with ⟨e | ⟨⟩, d'⟩
  · exact ⟨rfl, rfl⟩
  · exact ⟨rfl, rfl⟩

/-- A copy that is submitted moves its regions one after another. A single region is moved exactly
if the device grants both of its ranges, and if not, nothing is. -/
theorem copying {d : Device} (hd : d.Reachable) {commandBuffer source target : Handle}
    {regions : List CopyRegion}
    (h : d.commandBuffers.get? commandBuffer = some [.copy source target regions]) :
    (∃ d', Moves source target d regions (d.submit commandBuffer).1 d' ∧
        (d.submit commandBuffer).2.memories = d'.memories) ∧
      ∀ r, regions = [r] →
        ((d.submit commandBuffer).1 = .ok () ↔
            ∃ origin goal, d.Admits source target r origin goal) ∧
          (∀ origin goal, d.Admits source target r origin goal →
            Moved d (d.submit commandBuffer).2 origin goal r.size) ∧
          ((d.submit commandBuffer).1 ≠ .ok () →
            (d.submit commandBuffer).2.memories = d.memories) := by
  obtain ⟨types, ops, hrun⟩ := hd
  have hcoherent : d.Coherent := hrun ▸ (Coherent.ofTypes types).run ops
  obtain ⟨hresult, hmemories⟩ := submit_copy h
  have hmoves := hcoherent.moves source target regions
  rw [← hresult] at hmoves
  refine ⟨⟨_, hmoves, hmemories⟩, ?_⟩
  rintro r rfl
  rcases hmoves.cases_single with ⟨origin, goal, hok, hadmits, hmoved⟩ | ⟨⟨e, he⟩, hsame, hnot⟩
  · refine ⟨iff_of_true hok ⟨origin, goal, hadmits⟩, fun origin' goal' h' => ?_,
      fun hne => absurd hok hne⟩
    obtain ⟨rfl, rfl⟩ := h'.unique hadmits
    refine hmoved.congr ?_ hmemories
    rw [(submit_refilled d commandBuffer).buffers, hmoved.buffers]
  · refine ⟨iff_of_false ?_ fun ⟨origin, goal, h'⟩ => hnot _ _ h',
      fun origin goal h' => absurd h' (hnot _ _), fun _ => by rw [hmemories, hsame]⟩
    rw [he]
    exact nofun

/-- Two buffers, 1 and 3, in one memory, the second four bytes behind the first, and a copy of the
first to the second. -/
def overlappingDevice : Device :=
  (ofTypes [MemoryFlags.hostVisible]).run
    [.createBound 8 ⟨3⟩ MemoryFlags.hostVisible, .createBuffer 8 ⟨3⟩, .bind 3 2 4,
      .newCommandBuffer, .store ⟨2, 0⟩ (.ofBytes [1, 2, 3, 4, 5, 6, 7, 8]),
      .record 4 (.copy 1 3 [⟨0, 0, 8⟩])]

theorem copying_overlapping :
    ((overlappingDevice.submit 4).2.bytes? 2).map (·.take 14) =
        some [1, 2, 3, 4, 1, 2, 3, 4, 5, 6, 7, 8, 0, 0] ∧
      Moved overlappingDevice (overlappingDevice.submit 4).2 ⟨2, 0⟩ ⟨2, 4⟩ 8 := by
  refine ⟨by decide +kernel, ?_⟩
  refine ((copying ⟨_, _, rfl⟩ rfl).2 ⟨0, 0, 8⟩ rfl).2.1 _ _ ?_
  exact ⟨⟨⟨8, ⟨3⟩, some ⟨2, 0⟩⟩, ⟨2, 0⟩, rfl, by decide, rfl, rfl, by decide, rfl⟩,
    ⟨⟨8, ⟨3⟩, some ⟨2, 4⟩⟩, ⟨2, 4⟩, rfl, by decide, rfl, rfl, by decide, rfl⟩⟩

end TensorMemory.Device
