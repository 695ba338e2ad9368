import TensorMemory.Proofs.Bench.Mirror.Basic

/-!
Writes. What the host writes through a tensor goes to the cell on the side that it sees, and what is
written to a primary buffer on the device goes to the cell on the device's side; no other cell
changes.
-/

namespace TensorMemory.Bench.Mirrors

variable {s : Bench} {m : Machine} {n : Nat} {t : Tensor} {a : Action}

/-- The host reads and writes at the start of the memory behind the side that it sees. -/
theorem hostRange_live (h : Mirrors s m) (ht : s.tensors.get? n = some t)
    (hlive : t.outline.isLive = true) {σ : Side} (hσ : t.kind.hostSide? = some σ) :
    ∃ b, Behind s.tensors ⟨n, σ⟩ t b ∧ ∀ operation,
      t.hostRange operation = .ok ⟨⟨b.memory.handle, 0⟩, t.byteSize⟩ := by
  obtain ⟨r, hr⟩ := Tensor.isLive_outline.mp hlive
  obtain ⟨b, hb, hm⟩ := (h.sound ht r hr).hostSide hσ
  rw [h.unshifted] at hm
  refine ⟨b, ⟨ht, r, hr, hb⟩, fun operation => ?_⟩
  refine Tensor.hostRange_mapped (fun hk => ?_) ?_ operation
  · rw [hk] at hσ
    cases hσ
  · rw [Tensor.mapping?, Tensor.resources?, hr, Option.bind_some, hm]

theorem hostRange_dead (hlive : t.outline.isLive = false) (operation : String) :
    ∃ e, t.hostRange operation = .error e := by
  rw [Tensor.hostRange_eq, Tensor.mapping?, Tensor.resources?_of_not_live hlive]
  split <;> exact ⟨_, rfl⟩

/-- The machine writes where the tensor lets the host write. -/
theorem hostRange_cases (h : Mirrors s m) (ht : s.tensors.get? n = some t) (operation : String) :
    (∃ e, t.hostRange operation = .error e) ∧ (∀ fit bytes, m.writeHost n fit bytes = m) ∨
      ∃ σ b, Behind s.tensors ⟨n, σ⟩ t b ∧
        t.hostRange operation = .ok ⟨⟨b.memory.handle, 0⟩, t.byteSize⟩ ∧
        ∀ fit bytes, m.writeHost n fit bytes =
          if fit t.outline then { m with cells := m.cells.put ⟨n, σ⟩ bytes } else m := by
  have ho := h.outline_some ht
  cases hσ : t.kind.hostSide? with
  | none =>
    have hstorage : t.kind = .storage := by
      cases hk : t.kind with
      | storage => rfl
      | _ =>
        rw [hk] at hσ
        cases hσ
    refine .inl ⟨⟨.unsupportedForKind operation t.kind, ?_⟩, Machine.writeHost_hidden ho hσ⟩
    rw [Tensor.hostRange_eq, hstorage]
    rfl
  | some σ =>
    have hwrite := Machine.writeHost_seen ho hσ
    cases hlive : t.outline.isLive with
    | true =>
      obtain ⟨b, hb, hr⟩ := h.hostRange_live ht hlive hσ
      refine .inr ⟨σ, b, hb, hr operation, fun fit bytes => ?_⟩
      rw [hwrite, hlive, Bool.true_and]
    | false =>
      refine .inl ⟨hostRange_dead hlive operation, fun fit bytes => ?_⟩
      rw [hwrite, hlive]
      rfl

theorem rewrite_some (ht : s.tensors.get? n = some t) (f : Tensor → Device → Device) :
    s.rewrite n f =
      { s with gateway := { s.entry with device := f t s.gateway.device } } := by
  have htensors := tensors_apply_keep ht
    (f := fun t g => (t, { g with device := f t g.device })) rfl
  rw [apply_some ht] at htensors
  rw [rewrite, apply_some ht]
  dsimp only [entry] at htensors ⊢
  rw [htensors, List.map_nil, List.append_nil]

/-- A write to the device for one tensor that leaves its cells laid out. -/
theorem write (h : Mirrors s m) (hc : Closed s a) (ht : s.tensors.get? n = some t)
    {f : Tensor → Device → Device} (hs : s.step a = s.rewrite n f) {cells : Cells}
    (hcommands : (f t s.gateway.device).commandBuffers = s.gateway.device.commandBuffers)
    (hlaid : Laid s.tensors (f t s.gateway.device) cells) :
    Mirrors (s.step a) { m with cells := cells } := by
  have he := hs.trans (rewrite_some ht f)
  refine h.stay hc (by rw [he]) (by rw [he]) ⟨rfl, rfl⟩ (by rw [he]; exact hlaid) ?_
  intro commandBuffer
  rw [he, Device.recorded]
  dsimp only
  rw [hcommands]
  exact h.waiting commandBuffer

/-- A write by the host, for which the bytes must be as many as the tensor has. -/
theorem hostWrite (h : Mirrors s m) (hc : Closed s a) {f : Tensor → Device → Device}
    (operation : String) {fit : Outline → Bool} {chunk : Block} (hs : s.step a = s.rewrite n f)
    (hsize : ∀ t : Tensor, fit t.outline = true → chunk.size = t.byteSize)
    (hf : ∀ (t : Tensor) (d : Device), f t d = match t.hostRange operation with
      | .error _ => d
      | .ok r => if fit t.outline then d.store r.place chunk else d) :
    Mirrors (s.step a) (m.writeHost n fit chunk.toBytes) := by
  cases ht : s.tensors.get? n with
  | none =>
    rw [hs, rewrite, apply_none ht, Machine.writeHost, h.outline_none ht]
    exact h
  | some t =>
    have hsame (he : f t s.gateway.device = s.gateway.device) : Mirrors (s.step a) m :=
      h.write hc ht hs (by rw [he]) (he.symm ▸ h.laid)
    rcases h.hostRange_cases ht operation with ⟨⟨e, hr⟩, hm⟩ | ⟨σ, b, hb, hr, hm⟩
    · rw [hm]
      exact hsame (by rw [hf, hr])
    · rw [hm]
      have hft := hf t s.gateway.device
      rw [hr] at hft
      cases hfits : fit t.outline with
      | false => exact hsame (by rw [hft, hfits]; rfl)
      | true =>
        replace hft : f t s.gateway.device = s.gateway.device.store ⟨b.memory.handle, 0⟩ chunk :=
          hft.trans (if_pos hfits)
        refine h.write hc ht hs (by rw [hft]; rfl) ?_
        rw [hft]
        exact h.laid.store hb (Nat.le_of_eq (hsize t hfits))

theorem overwrite (h : Mirrors s m) (dtype : ElementType) (xs : List (Element dtype))
    (acquired : Bool) :
    Mirrors (s.step (.overwrite n dtype xs)) (m.step acquired (.overwrite n dtype xs)) := by
  have hbytes : (Block.ofBytes (Element.encode xs)).toBytes = Element.encode xs :=
    Block.toBytes_ofBytes _
  show Mirrors _ (m.writeHost n _ (Element.encode xs))
  rw [← hbytes]
  refine h.hostWrite (a := .overwrite n dtype xs)
    (f := fun t d => (t.overwrite d xs).toOption.getD d) trivial "set_data" rfl ?_ ?_
  · intro t hfit
    obtain ⟨hd, hl⟩ := of_decide_eq_true hfit
    replace hd : dtype = t.dtype := hd
    subst hd
    rw [Block.size_ofBytes, Element.length_encode, show xs.length = t.size from hl]
    rfl
  · intro t d
    rw [Tensor.overwrite_eq, Tensor.checkType_eq]
    by_cases hd : dtype = t.dtype
    · rw [if_pos hd]
      cases t.hostRange "set_data" with
      | error e => rfl
      | ok r =>
        simp only [bind, Except.bind]
        by_cases hl : xs.length = t.size
        · rw [if_pos hl, if_pos (decide_eq_true ⟨hd, hl⟩)]
          rfl
        · rw [if_neg hl, if_neg fun hfit => hl (of_decide_eq_true hfit).2]
          rfl
    · rw [if_neg hd]
      cases t.hostRange "set_data" with
      | error e => rfl
      | ok r =>
        dsimp only
        rw [if_neg fun hfit => hd (of_decide_eq_true hfit).1]
        rfl

theorem overwriteBytes (h : Mirrors s m) (data : Block) (acquired : Bool) :
    Mirrors (s.step (.overwriteBytes n data)) (m.step acquired (.overwriteBytes n data)) := by
  refine h.hostWrite (a := .overwriteBytes n data) (f := fun t d =>
    (t.overwriteBytes d data).toOption.getD d) trivial "set_raw_data" rfl ?_ ?_
  · exact fun t hfit => of_decide_eq_true hfit
  · intro t d
    rw [Tensor.overwriteBytes_eq]
    cases hr : t.hostRange "set_raw_data" with
    | error e => rfl
    | ok r =>
      have hlength : r.length = t.outline.byteSize := (Tensor.hostRange_ok hr).2
      simp only [bind, Except.bind]
      rw [← hlength]
      by_cases hl : data.size = r.length
      · rw [if_pos hl, if_pos (decide_eq_true hl)]
        rfl
      · rw [if_neg hl, if_neg fun hfit => hl (of_decide_eq_true hfit)]
        rfl

/-- The machine writes where the device finds the primary buffer and room in it. -/
theorem poke_cases (h : Mirrors s m) (ht : s.tensors.get? n = some t) (chunk : Block) :
    pokePrimary t chunk s.gateway.device = s.gateway.device ∧
        m.writeDevice n chunk.toBytes = m ∨
      ∃ b, Behind s.tensors ⟨n, .device⟩ t b ∧ chunk.size ≤ t.byteSize ∧
        pokePrimary t chunk s.gateway.device =
          s.gateway.device.store ⟨b.memory.handle, 0⟩ chunk ∧
        m.writeDevice n chunk.toBytes =
          { m with cells := m.cells.put ⟨n, .device⟩ chunk.toBytes } := by
  have hwrite : m.writeDevice n chunk.toBytes =
      if t.outline.isLive && chunk.size ≤ t.byteSize then
        { m with cells := m.cells.put ⟨n, .device⟩ chunk.toBytes }
      else m := by
    rw [Machine.writeDevice, h.outline_some ht, Block.length_toBytes]
    rfl
  cases hlive : t.outline.isLive with
  | false =>
    rw [hlive, Bool.false_and] at hwrite
    refine .inl ⟨?_, hwrite⟩
    rw [pokePrimary, Tensor.primary?, Tensor.resources?_of_not_live hlive]
    rfl
  | true =>
    obtain ⟨r, hr⟩ := Tensor.isLive_outline.mp hlive
    have hb := behind_primary ht hr
    have hprimary : t.primary? = some r.backing.primary := by
      rw [Tensor.primary?, Tensor.resources?_eq_some.mpr hr, Option.map_some]
    rw [hlive, Bool.true_and] at hwrite
    by_cases hle : chunk.size ≤ t.byteSize
    · have hlocate : s.gateway.device.locate r.backing.primary.buffer.handle .empty 0 chunk.size =
          .ok ⟨r.backing.primary.memory.handle, 0⟩ :=
        h.laid.locate hb rfl (Mask.contains_empty _) hle
      refine .inr ⟨_, hb, hle, ?_, hwrite.trans (if_pos (decide_eq_true hle))⟩
      rw [pokePrimary, hprimary]
      dsimp only
      rw [Device.write, hlocate]
      rfl
    · obtain ⟨e, hlocate⟩ := h.laid.locate_beyond hb (Nat.not_le.mp hle)
      refine .inl ⟨?_, hwrite.trans (if_neg fun hfit => hle (of_decide_eq_true hfit))⟩
      rw [pokePrimary, hprimary]
      dsimp only
      rw [Device.write, hlocate]
      rfl

theorem poke (h : Mirrors s m) (chunk : Block) (acquired : Bool) :
    Mirrors (s.step (.poke n chunk)) (m.step acquired (.poke n chunk)) := by
  show Mirrors (s.step (.poke n chunk)) (m.writeDevice n chunk.toBytes)
  have hc : Closed s (.poke n chunk) := trivial
  have hs : s.step (.poke n chunk) = s.rewrite n fun t d => pokePrimary t chunk d := rfl
  cases ht : s.tensors.get? n with
  | none =>
    rw [hs, Bench.rewrite, apply_none ht, Machine.writeDevice, h.outline_none ht]
    exact h
  | some t =>
    rcases h.poke_cases ht chunk with ⟨hpoke, hm⟩ | ⟨b, hb, hle, hpoke, hm⟩
    · rw [hm]
      exact h.write hc ht hs (by rw [hpoke]) (hpoke.symm ▸ h.laid)
    · rw [hm]
      refine h.write hc ht hs (by rw [hpoke]; rfl) ?_
      rw [hpoke]
      exact h.laid.store hb hle

end TensorMemory.Bench.Mirrors
