import TensorMemory.Proofs.Device.Copying

/-!
What a submitted copy delivers. When nothing but one copy waits and it is carried out, the target
reads as the source did at that moment (`delivery`); the source itself still does if the two buffers
lie in different memories.
-/

namespace TensorMemory.Device

variable {d : Device} {buffer commandBuffer source target : Handle} {required : Mask} {size : Nat}
  {place : Place}

theorem Grants.live {offset : Nat} (h : d.Grants buffer required offset size place) :
    .buffer buffer ∈ d.assets := by
  obtain ⟨b, -, hb, -⟩ := h
  exact buffer_mem_assets.mpr ⟨b, hb⟩

/-- A range that is granted for some use can be read. -/
theorem Grants.read (h : d.Grants buffer required 0 size place) :
    d.read buffer size = .ok (d.load place size) := by
  obtain ⟨b, p, hb, -, hp, hlive, hinside, rfl⟩ := h
  rw [Device.read, locate_eq_ok_iff.mpr ⟨b, p, hb, b.usage.contains_empty, hp, hlive, hinside, rfl⟩]
  rfl

/-- Submissions move no buffer. -/
theorem Grants.submit (h : d.Grants buffer required 0 size place) (commandBuffer : Handle) :
    (d.submit commandBuffer).2.Grants buffer required 0 size place := by
  rw [← locate_eq_ok_iff, (submit_refilled d commandBuffer).locate]
  exact locate_eq_ok_iff.mpr h

/-- The bytes that a buffer reads as. -/
theorem Grants.read_bytes {bytes : Bytes} (h : d.Grants buffer required 0 size place)
    (hbytes : d.bytes? place.memory = some bytes) :
    (d.read buffer size).map Block.toBytes = .ok ((bytes.drop place.offset).take size) := by
  rw [h.read, ← toBytes_load hbytes]
  rfl

theorem delivery (hd : d.Coherent)
    (hwaiting : d.commandBuffers.get? commandBuffer = some [.copy source target [⟨0, 0, size⟩]])
    (hok : (d.submit commandBuffer).1 = .ok ()) :
    ∃ origin goal bytes, d.Grants source UsageFlags.transferSource 0 size origin ∧
      d.Grants target UsageFlags.transferTarget 0 size goal ∧
      (d.read source size).map Block.toBytes = .ok bytes ∧
      ((d.submit commandBuffer).2.read target size).map Block.toBytes = .ok bytes ∧
      (origin.memory ≠ goal.memory →
        ((d.submit commandBuffer).2.read source size).map Block.toBytes = .ok bytes) := by
  obtain ⟨hresult, hmemories⟩ := submit_copy hwaiting
  have hmoves := hd.moves source target [⟨0, 0, size⟩]
  rw [← hresult, hok] at hmoves
  obtain ⟨origin, goal, -, ⟨hsource, htarget⟩, hmoved⟩ | ⟨⟨e, he⟩, -⟩ := hmoves.cases_single
  case inr => cases he
  have hbytes (i : Handle) : (d.submit commandBuffer).2.bytes? i =
      (d.copyRegions source target [⟨0, 0, size⟩]).2.bytes? i := by rw [bytes?, hmemories, bytes?]
  obtain ⟨read, old, now, hread, -, hnow, hfrom, hpatched⟩ := hmoved.range
  have hlength : ((read.drop origin.offset).take size).length = size := by
    rw [List.length_take, List.length_drop]
    have hfrom : origin.offset + size ≤ read.length := hfrom
    omega
  refine ⟨origin, goal, (read.drop origin.offset).take size, hsource, htarget,
    hsource.read_bytes hread, ?_, fun hne => ?_⟩
  · have hwindow := Bytes.Patched.window hpatched
    rw [hlength] at hwindow
    rw [(htarget.submit _).read_bytes ((hbytes _).trans hnow), hwindow]
  · exact (hsource.submit _).read_bytes
      ((hbytes _).trans ((hmoved.others _ hne).trans hread))

end TensorMemory.Device
