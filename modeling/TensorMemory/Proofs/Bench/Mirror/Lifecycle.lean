import TensorMemory.Proofs.Bench.Mirror.Basic

/-!
Tensors that come and go. The machine gives a tensor new cells when the bench builds or rebuilds it,
and takes its outline away with it. No copy that waits names the tensor, so nothing that waits
changes its meaning.
-/

namespace TensorMemory.Bench.Mirrors

open Gateway (Furnished)

variable {s : Bench} {m : Machine} {n : Nat} {t : Tensor} {a : Action}

/-- The tensor has no resources any more, or is not there. -/
theorem turn_lost (h : Mirrors s m) (hc : Closed s a) {built : Nat} {o : Option Outline}
    {taken : List Asset} (hbuilt : built = (s.step a).built)
    (hothers : ∀ k, k ≠ n → (s.step a).tensors.get? k = s.tensors.get? k)
    (hspares : Device.Spares s.gateway.device (s.step a).gateway.device taken)
    (htaken : ∀ a ∈ taken, a ∈ s.holdings n) (hidle : ¬ s.Named n)
    (ho : o = ((s.step a).tensors.get? n).map Tensor.outline)
    (hlost : ∀ u, (s.step a).tensors.get? n = some u → u.resources? = none) :
    Mirrors (s.step a) ({ m with built }.setOutline n o) := by
  refine h.turn hc hbuilt hothers hspares htaken hidle (fun k => ?_) (fun _ _ => rfl) ?_ rfl
  · rw [← ho]
    rfl
  · intro c u b memory hn hbehind
    obtain ⟨r, hr, -⟩ := hbehind.side
    have hnone := hlost u (hn ▸ hbehind.tensor)
    rw [Tensor.resources?_eq_some.mpr hr] at hnone
    cases hnone

/-- The tensor has new resources. -/
theorem turn_furnished (h : Mirrors s m) (hc : Closed s a) {built : Nat} {taken : List Asset}
    (hbuilt : built = (s.step a).built)
    (hothers : ∀ k, k ≠ n → (s.step a).tensors.get? k = s.tensors.get? k)
    (hspares : Device.Spares s.gateway.device (s.step a).gateway.device taken)
    (htaken : ∀ a ∈ taken, a ∈ s.holdings n) (hidle : ¬ s.Named n)
    (ht : (s.step a).tensors.get? n = some t) {r : Resources} (hr : t.residence = .live r)
    {g g' : Gateway} {data : Option Block} {cs : List Call} {ps qs : List BoundPair}
    (hf : Furnished g g' t.kind t.dtype t.size data none none r cs ps qs)
    (hg : g.device.Numbered) (hshift : g.faults.mapShift = 0)
    (hdata : ∀ block ∈ data, block.size = t.byteSize)
    (hdevice : (s.step a).gateway.device = g'.device) :
    Mirrors (s.step a) ({ m with built }.furnish n t.outline data) := by
  refine h.turn hc hbuilt hothers hspares htaken hidle (fun k => ?_) (fun c hn => if_neg hn) ?_ rfl
  · rw [ht]
    rfl
  · intro c u b memory hn hbehind hmemory
    obtain ⟨rfl, r', hr', hside⟩ := hbehind.side_of_some (hn ▸ ht)
    cases hr.symm.trans hr'
    obtain ⟨memory', hmemory', he⟩ := hf.contents hg hshift hdata hside
    rw [hdevice] at hmemory
    cases hmemory.symm.trans hmemory'
    exact he.trans (if_pos hn).symm

theorem destroy (h : Mirrors s m) (hidle : ¬ s.Named n) (acquired : Bool) :
    Mirrors (s.step (.destroy n)) (m.step acquired (.destroy n)) := by
  show Mirrors _ (m.setOutline n ((m.outlines n).map Outline.detach))
  cases ht : s.tensors.get? n with
  | none =>
    rw [step, apply_none ht, Machine.setOutline_same (by rw [h.outline_none ht]; rfl)]
    exact h
  | some t =>
    have htensor : (s.step (.destroy n)).tensors.get? n = some (t.destroy s.entry).1 :=
      apply_tensor ht Tensor.destroy
    have hgateway : (s.step (.destroy n)).gateway = (t.destroy s.entry).2 :=
      apply_gateway ht Tensor.destroy
    have hbuilt : (s.step (.destroy n)).built = s.built := built_apply ..
    have hspares := Tensor.destroy_spares (g := s.entry) (h.sound ht) h.numbered (h.assets_nodup ht)
    rw [← hgateway] at hspares
    refine h.turn_lost (a := .destroy n) hidle (h.built.trans hbuilt.symm)
      (fun k hk => apply_others ht _ hk) hspares (h.taken_holdings ht) hidle ?_ ?_
    · rw [htensor, h.outline_some ht, Option.map_some, Option.map_some, Tensor.outline_destroy]
    · intro u hu
      rw [htensor] at hu
      cases hu
      exact t.resources?_destroy s.entry

theorem drop (h : Mirrors s m) (hidle : ¬ s.Named n) (acquired : Bool) :
    Mirrors (s.step (.drop n)) (m.step acquired (.drop n)) := by
  show Mirrors _ (m.setOutline n none)
  cases ht : s.tensors.get? n with
  | none =>
    rw [step, drop_none ht, Machine.setOutline_same (h.outline_none ht)]
    exact h
  | some t =>
    have hgone : (s.step (.drop n)).tensors.get? n = none := drop_tensor s n
    have hgateway : (s.step (.drop n)).gateway = (t.destroy s.entry).2 :=
      apply_gateway ht Tensor.destroy
    have hbuilt : (s.step (.drop n)).built = s.built := built_apply ..
    have hspares := Tensor.destroy_spares (g := s.entry) (h.sound ht) h.numbered (h.assets_nodup ht)
    rw [← hgateway] at hspares
    refine h.turn_lost (a := .drop n) hidle (h.built.trans hbuilt.symm)
      (fun k hk => drop_others ht hk) hspares (h.taken_holdings ht) hidle ?_ ?_
    · rw [hgone]
      rfl
    · intro u hu
      rw [hgone] at hu
      cases hu

theorem build (h : Mirrors s m) {plan : TensorPlan} (hc : Closed s (.build plan)) :
    Mirrors (s.step (.build plan)) (m.step (s.acquires (.build plan)) (.build plan)) := by
  show Mirrors _ (m.build (plan.build s.entry).1.isOk plan)
  have hidle : ¬ s.Named (s.built + 1) := by
    rintro ⟨commandBuffer, c, hcopy, i, hi, hm⟩
    rw [h.holdings_new (Nat.lt_succ_self _)] at hm
    cases hm
  have hothers (k : Nat) (hk : k ≠ s.built + 1) :
      (s.step (.build plan)).tensors.get? k = s.tensors.get? k := build_others s plan hk
  have htensor : (s.step (.build plan)).tensors.get? (s.built + 1) = _ :=
    build_tensor h.toAccounted.orderly plan
  have hgateway : (s.step (.build plan)).gateway = (plan.build s.entry).2 := rfl
  have hbuilt : m.built + 1 = (s.step (.build plan)).built := congrArg (· + 1) h.built
  cases hb : plan.build s.entry with
  | mk r g =>
  rw [hb] at htensor hgateway
  replace hgateway : (s.step (.build plan)).gateway = g := hgateway
  have hspares := TensorPlan.build_spares (g := s.entry) h.numbered hc.1 hc.2 hb
  rw [← hgateway] at hspares
  cases r with
  | error e =>
    have hnone : (s.step (.build plan)).tensors.get? (s.built + 1) = none := htensor
    have hunset : ({ m with built := m.built + 1 } : Machine).outlines (s.built + 1) = none :=
      h.outline_none (absent_next h.toAccounted.orderly)
    have hm : m.build false plan =
        { m with built := m.built + 1 }.setOutline (s.built + 1) none := by
      rw [Machine.setOutline_same hunset, Machine.build]
      split <;> rfl
    show Mirrors _ (m.build false plan)
    rw [hm]
    refine h.turn_lost hc hbuilt hothers hspares (List.forall_mem_nil _) hidle ?_ fun u hu => ?_
    · rw [hnone]
      rfl
    · rw [hnone] at hu
      cases hu
  | ok t =>
    have hsome : (s.step (.build plan)).tensors.get? (s.built + 1) = some t := htensor
    obtain ⟨byteSize, hlayout⟩ := TensorPlan.build_layout hb
    obtain ⟨cs, n, resources, ps, qs, rfl, hdata, h0, hlt, hf⟩ :=
      TensorPlan.build_spec (g := s.entry) h.numbered hb
    rw [hc.1, hc.2] at hf
    have hm : m.build true plan = { m with built := m.built + 1 }.furnish (m.built + 1)
        ⟨plan.kind, plan.dtype, n, .live⟩ plan.data := by
      rw [Machine.build, hlayout]
      rfl
    show Mirrors _ (m.build true plan)
    rw [hm, h.built]
    exact h.turn_furnished hc rfl hothers hspares (List.forall_mem_nil _) hidle hsome rfl hf
      h.numbered h.unshifted hdata (congrArg Gateway.device hgateway)

/-- A rebuild that is refused changes nothing. -/
theorem rebuild_refused (h : Mirrors s m) (ht : s.tensors.get? n = some t) {data : Block}
    {size elementSize : Nat} (hidle : ¬ s.Named n) {e : TensorError}
    (he : t.rebuild s.entry data size elementSize = (.error e, t, s.entry)) :
    Mirrors (s.step (.rebuild n data size elementSize)) m := by
  have hdevice : (s.step (.rebuild n data size elementSize)).gateway.device = s.gateway.device := by
    rw [step, apply_gateway ht, he]
    rfl
  refine h.stay (a := .rebuild n data size elementSize) hidle ?_ (built_apply ..) ⟨rfl, rfl⟩ ?_ ?_
  · exact tensors_apply_keep ht (congrArg (·.2.1) he)
  · rw [hdevice]
    exact h.laid
  · rw [hdevice]
    exact h.waiting

/-- After a rebuild that was not refused the tensor has new resources, or none. -/
theorem rebuild_granted (h : Mirrors s m) (ht : s.tensors.get? n = some t) {data : Block}
    {size elementSize : Nat} (hidle : ¬ s.Named n) {g g' : Gateway} {cs : List Call}
    {r : Except TensorError Resources} (hsize : data.size = size * t.dtype.width)
    (hx : Gateway.Exchange s.entry g cs (t.mapped ++ t.assets) t.assets [])
    (he : t.rebuild s.entry data size elementSize = (r.map fun _ => (), t.rebuilt size r, g'))
    (hr : ∀ resources, r = .ok resources → ∃ cs' ps qs, Furnished g g' t.kind t.dtype size
      (some data) none none resources cs' ps qs) :
    Mirrors (s.step (.rebuild n data size elementSize))
      (if r.isOk then m.furnish n { t.outline with size, stage := .live } (some data)
        else m.setOutline n (some { t.outline with size, stage := .vacant })) := by
  have hothers (k : Nat) (hk : k ≠ n) :
      (s.step (.rebuild n data size elementSize)).tensors.get? k = s.tensors.get? k :=
    apply_others ht _ hk
  have htensor : (s.step (.rebuild n data size elementSize)).tensors.get? n =
      some (t.rebuilt size r) := by
    rw [step, apply_tensor ht, he]
  have hgateway : (s.step (.rebuild n data size elementSize)).gateway = g' := by
    rw [step, apply_gateway ht, he]
  have hbuilt : m.built = (s.step (.rebuild n data size elementSize)).built :=
    h.built.trans (built_apply ..).symm
  have hspares := Tensor.rebuild_spares (g := s.entry) (h.sound ht) h.numbered (h.assets_nodup ht)
    data size elementSize
  rw [he] at hspares
  replace hspares : Device.Spares s.gateway.device
      (s.step (.rebuild n data size elementSize)).gateway.device (t.mapped ++ t.assets) :=
    hgateway ▸ hspares
  cases r with
  | error e =>
    refine h.turn_lost (a := .rebuild n data size elementSize) hidle hbuilt hothers hspares
      (h.taken_holdings ht) hidle ?_ fun u hu => ?_
    · rw [htensor]
      rfl
    · rw [htensor] at hu
      cases hu
      rfl
  | ok resources =>
    obtain ⟨cs', ps, qs, hf⟩ := hr resources rfl
    have hshift : g.faults.mapShift = 0 := by
      rw [hx.faults]
      exact h.unshifted
    exact h.turn_furnished (a := .rebuild n data size elementSize) hidle hbuilt hothers hspares
      (h.taken_holdings ht) hidle htensor rfl hf (hx.numbered h.numbered) hshift
      (fun block hb => Option.some.inj hb ▸ hsize) (congrArg Gateway.device hgateway)

theorem rebuild (h : Mirrors s m) (data : Block) (size elementSize : Nat) (hidle : ¬ s.Named n) :
    Mirrors (s.step (.rebuild n data size elementSize))
      (m.step (s.acquires (.rebuild n data size elementSize))
        (.rebuild n data size elementSize)) := by
  show Mirrors _
    (m.rebuild (s.acquires (.rebuild n data size elementSize)) n data size elementSize)
  cases ht : s.tensors.get? n with
  | none =>
    rw [step, apply_none ht, Machine.rebuild, h.outline_none ht]
    exact h
  | some t =>
  rcases Tensor.rebuild_spec (g := s.entry) h.numbered t data size elementSize with
    ⟨e, hwhy, he⟩ | ⟨g, cs, r, g', hattached, hl, hx, -, he, cs', hr⟩
  · rw [Machine.rebuild_refused (h.outline_some ht) (hwhy.imp_left Tensor.stage_detached.mpr)]
    exact h.rebuild_refused ht hidle he
  have hstage : ¬ t.outline.stage = .detached := by
    rw [Tensor.stage_detached, hattached]
    exact Bool.noConfusion
  have hacquires : s.acquires (.rebuild n data size elementSize) = r.isOk := by
    rw [acquires, ht]
    dsimp only
    rw [he]
    cases r <;> rfl
  obtain ⟨-, -, -, hsize⟩ := checkLayout_ok hl
  rw [Machine.rebuild_granted (h.outline_some ht) hstage hl, hacquires]
  refine h.rebuild_granted ht hidle (hsize _ rfl) hx he fun resources hok => ?_
  subst hok
  exact ⟨cs', hr⟩

end TensorMemory.Bench.Mirrors
