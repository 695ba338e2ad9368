import TensorMemory.Proofs.Environment.Locking

/-!
How a write of a text that no environment can hold undoes itself. A plain write leaves no trace. A
guard puts back everything that it has overridden, as if it were dropped, and the variable that
could not be written with them. But a guard takes note of texts only, so a variable whose bytes form
no text is not put back: it is gone. All deeds that follow go as if the failed one had not been.
-/

namespace TensorMemory

namespace Environment

/-- The bytes of a variable that is neither absent nor holds a text form none. -/
theorem legible_or (env : Environment) (v : Variable) :
    env.Legible v ∨ ∃ bytes, env.value v = some (.undecodable bytes) := by
  unfold Legible get
  match env.value v with
  | none => exact .inl rfl
  | some (.text text) => exact .inl rfl
  | some (.undecodable bytes) => exact .inr ⟨bytes, rfl⟩

theorem put_get_of_not_legible {env : Environment} {v : Variable} (h : ¬env.Legible v) :
    env.put v (env.get v) = env.remove v := by
  obtain hlegible | ⟨bytes, hbytes⟩ := env.legible_or v
  · exact absurd hlegible h
  · rw [get, hbytes]
    rfl

end Environment

/-- What a guard gives back does not depend on what its variables hold. -/
theorem Guard.restore_put_of_mem {g : Guard} {v : Variable} (hv : v ∈ g.overridden)
    (env : Environment) (value : Option String) : g.restore (env.put v value) = g.restore env := by
  ext1 w
  rw [value_restore, value_restore]
  by_cases hw : w = v
  · subst hw
    obtain ⟨noted, hnoted⟩ := Option.ne_none_iff_exists'.1 fun hnone =>
      (g.first?_eq_none_iff w).1 hnone hv
    rw [hnoted]
    rfl
  · rw [Environment.put, Environment.value_assign, if_neg hw]

/-! ## Numbers -/

/-- The number of a guard once a place is taken at `n`. -/
def Deed.shifted (n i : Nat) : Nat := if i < n then i else i + 1

/-- The deed in a scene where a place is taken at `n`. -/
def Deed.past (n : Nat) : Deed → Deed
  | .extend i v value => .extend (shifted n i) v value
  | .drop i => .drop (shifted n i)
  | deed => deed

namespace Scene

/-- The scene with a place taken at `n` by a guard that was not made. -/
def withGap (s : Scene) (n : Nat) : Scene := ⟨s.environment, s.guards.insertIdx n none⟩

theorem withGap_length (s : Scene) :
    s.withGap s.guards.length = ⟨s.environment, s.guards ++ [none]⟩ := by
  rw [withGap, List.insertIdx_length_self]

theorem guard?_withGap (s : Scene) (n i : Nat) :
    (s.withGap n).guard? (Deed.shifted n i) = s.guard? i := by
  unfold guard? withGap Deed.shifted
  split
  · next hi => rw [List.getElem?_insertIdx_of_lt hi]
  · next hi => rw [List.getElem?_insertIdx_of_gt (by omega), Nat.add_sub_cancel]

theorem plainly_withGap (s : Scene) (n : Nat) (r : Except EnvironmentError Environment) :
    (s.withGap n).plainly r = (s.plainly r).withGap n := by
  cases r <;> rfl

theorem keep_withGap {s : Scene} {n : Nat} (hn : n ≤ s.guards.length)
    (r : Except EnvironmentError Guard × Environment) :
    (s.withGap n).keep r = (s.keep r).withGap n := by
  have hguards : s.guards.insertIdx n none ++ [r.1.toOption] =
      (s.guards ++ [r.1.toOption]).insertIdx n none := by
    apply List.ext_getElem?
    intro j
    grind
  rw [keep_eq, keep_eq, withGap, withGap, hguards]

theorem set_withGap (guards : List (Option Guard)) (n i : Nat) (g : Option Guard) :
    (guards.insertIdx n none).set (Deed.shifted n i) g = (guards.set i g).insertIdx n none := by
  apply List.ext_getElem?
  intro j
  unfold Deed.shifted
  grind

theorem step_withGap {s : Scene} {n : Nat} (hn : n ≤ s.guards.length) (deed : Deed) :
    (s.withGap n).step (deed.past n) = (s.step deed).withGap n := by
  cases deed with
  | set | write => exact s.plainly_withGap n _
  | remove | clear => rfl
  | make | makeTyped => exact keep_withGap hn _
  | makeUnset d =>
    exact keep_withGap hn (.ok (d.guardedUnset s.environment).1, (d.guardedUnset s.environment).2)
  | extend i v value =>
    simp only [Deed.past, step, guard?_withGap]
    cases s.guard? i with
    | none => rfl
    | some g =>
      simp only [settle_eq]
      rw [withGap, withGap, set_withGap]
  | drop i =>
    simp only [Deed.past, step, guard?_withGap]
    cases s.guard? i with
    | none => rfl
    | some g => rw [withGap, withGap, set_withGap]

theorem reply_withGap (s : Scene) (n : Nat) (deed : Deed) :
    (s.withGap n).reply (deed.past n) = s.reply deed := by
  cases deed with
  | extend i v value =>
    simp only [Deed.past, reply, guard?_withGap]
    rfl
  | set | remove | write | clear | make | makeTyped | makeUnset | drop => rfl

/-- A place that is taken makes no difference but to the numbers of the guards. -/
theorem run_withGap {s : Scene} {n : Nat} (hn : n ≤ s.guards.length) (deeds : List Deed) :
    (s.withGap n).replies (deeds.map (·.past n)) = s.replies deeds ∧
      (s.withGap n).run (deeds.map (·.past n)) = (s.run deeds).withGap n := by
  induction deeds generalizing s with
  | nil => exact ⟨rfl, rfl⟩
  | cons deed deeds ih =>
    obtain ⟨hreplies, hrun⟩ := ih (Nat.le_trans hn (s.length_le_step deed))
    rw [List.map_cons, replies, replies, run_cons, run_cons, step_withGap hn, reply_withGap,
      hreplies, hrun]
    exact ⟨rfl, rfl⟩

/-! ## Deeds that fail -/

/-- The place of a guard that was not made stays taken. -/
theorem step_make_of_null (s : Scene) (v : Variable) {text : String}
    (htext : '\x00' ∈ text.toList) :
    s.step (.make v (some text)) =
      (mk (s.environment.put v (s.environment.get v)) s.guards).withGap s.guards.length := by
  rw [step, keep_eq, Guard.override_of_null _ _ v htext, withGap_length]
  rfl

theorem step_extend_of_null {s : Scene} {i : Nat} {g : Guard} (hg : s.guard? i = some g)
    (v : Variable) {text : String} (htext : '\x00' ∈ text.toList) :
    s.step (.extend i v (some text)) =
      (mk (s.environment.put v (s.environment.get v)) s.guards).step (.drop i) := by
  have hheld : (mk (s.environment.put v (s.environment.get v)) s.guards).guard? i = some g := hg
  simp only [step, hg, hheld, settle_eq, Guard.override_of_null _ _ v htext, Guard.restore_noting]
  rfl

/-- What the variables hold after a guard has failed to override one more. -/
theorem value_extend_of_null {s : Scene} {i : Nat} {g : Guard} (hg : s.guard? i = some g)
    (v : Variable) {text : String} (htext : '\x00' ∈ text.toList) (w : Variable) :
    (s.step (.extend i v (some text))).environment.value w =
      (((g.noting s.environment v).first? w).map (Option.map .text)).getD
        (s.environment.value w) := by
  simp only [step, hg, settle_eq, Guard.override_of_null _ _ v htext, Guard.value_restore]

/-- How a scene comes out of deeds that are to write a text, when the text cannot be stored. -/
structure Undoes (s : Scene) (text : String) : Prop where
  /-- A plain write leaves everything as it was. -/
  set : ∀ v, s.reply (.set v text) = .panicked (.nullCharacter v (.text text)) ∧
    s.step (.set v text) = s
  /-- So do a plain write and a guard that go through a descriptor. -/
  typed : ∀ {α : Type} (d : Descriptor α) (value : α), d.format value = .ok text →
    s.reply (.write d value) = .panicked (.nullCharacter d.name (.text text)) ∧
    s.step (.write d value) = s ∧
    s.reply (.makeTyped d value) = .panicked (.nullCharacter d.name (.text text)) ∧
    s.step (.makeTyped d value) = s.withGap s.guards.length
  /-- So does a new guard, unless it removes bytes that form no text. -/
  make : ∀ v, s.reply (.make v (some text)) = .panicked (.nullCharacter v (.text text)) ∧
    (s.environment.Legible v →
      s.step (.make v (some text)) = s.withGap s.guards.length) ∧
    (¬s.environment.Legible v →
      s.step (.make v (some text)) = (s.step (.remove v)).withGap s.guards.length)
  /-- A guard that has overridden other variables is dropped. -/
  extend : ∀ i v, (s.guard? i).isSome →
    s.reply (.extend i v (some text)) = .panicked (.nullCharacter v (.text text)) ∧
    (v ∈ s.overridden i ∨ s.environment.Legible v →
      s.step (.extend i v (some text)) = s.step (.drop i)) ∧
    (¬s.environment.Legible v →
      s.step (.extend i v (some text)) = (s.step (.remove v)).step (.drop i))

theorem undoes (s : Scene) {text : String} (htext : '\x00' ∈ text.toList) : s.Undoes text where
  set v := by
    rw [reply, step, s.environment.set_of_null v htext]
    exact ⟨rfl, rfl⟩
  typed d value hformat := by
    have hset : d.set s.environment value = .error (.nullCharacter d.name (.text text)) := by
      rw [Descriptor.set, hformat]
      exact s.environment.set_of_null d.name htext
    rw [reply, step, reply, step, d.guarded_eq, hset, withGap_length]
    exact ⟨rfl, rfl, rfl, rfl⟩
  make v := by
    refine ⟨?_, fun hlegible => ?_, fun hillegible => ?_⟩
    · rw [reply, Guard.override_of_null _ _ v htext]
      rfl
    · rw [s.step_make_of_null v htext, hlegible.put_get]
    · rw [s.step_make_of_null v htext, Environment.put_get_of_not_legible hillegible]
      rfl
  extend i v hlive := by
    obtain ⟨g, hg⟩ := Option.isSome_iff_exists.1 hlive
    refine ⟨?_, ?_, fun hillegible => ?_⟩
    · simp only [reply, hg, Guard.override_of_null _ _ v htext]
      rfl
    · rintro (hv | hlegible)
      · have hheld : (mk (s.environment.put v (s.environment.get v)) s.guards).guard? i = some g :=
          hg
        rw [overridden, hg, Option.getD_some] at hv
        rw [step_extend_of_null hg v htext]
        simp only [step, hg, hheld, Guard.restore_put_of_mem hv]
      · rw [step_extend_of_null hg v htext, hlegible.put_get]
    · rw [step_extend_of_null hg v htext, Environment.put_get_of_not_legible hillegible]
      rfl

/-- A variable that the guard has overridden gets what it read as just before the first time. -/
theorem extend_value_of_first {s : Scene} {deed : Deed} {later : List Deed} {i : Nat}
    {w : Variable} (hbefore : w ∉ s.overridden i) (hafter : w ∈ (s.step deed).overridden i)
    (hlive : (((s.step deed).run later).guard? i).isSome) (v : Variable) {text : String}
    (htext : '\x00' ∈ text.toList) :
    (((s.step deed).run later).step (.extend i v (some text))).environment.value w =
      (s.environment.get w).map .text := by
  obtain ⟨g, hg⟩ := Option.isSome_iff_exists.1 hlive
  rw [value_extend_of_null hg v htext, Guard.first?_noting, first?_of_first hbefore hafter hg]
  rfl

/-- The variable that could not be written gets what it reads as, and all others are left alone. -/
theorem extend_value_of_notMem {s : Scene} {i : Nat} (hlive : (s.guard? i).isSome) (v : Variable)
    {text : String} (htext : '\x00' ∈ text.toList) {w : Variable} (hw : w ∉ s.overridden i) :
    (s.step (.extend i v (some text))).environment.value w =
      if w = v then (s.environment.get v).map .text else s.environment.value w := by
  obtain ⟨g, hg⟩ := Option.isSome_iff_exists.1 hlive
  rw [overridden, hg, Option.getD_some, ← Guard.first?_eq_none_iff] at hw
  rw [value_extend_of_null hg v htext, Guard.first?_noting, hw, Option.none_or]
  split <;> rfl

/-- A write that panics undoes itself. Wherever a process has got to:

* no deed waits for the lock for ever or takes the process with it, and the lock is free again,
  whether or not a panic has passed before;
* a deed that is to write a text with a null character panics, and it leaves all as it was, except
  that a guard is dropped with all that it has overridden, and that a variable which a guard was to
  override is removed if its bytes form no text;
* each variable that the guard has overridden gets what it read as just before the first time;
* the one that could not be written gets what it reads as, and all others are left as they are;
* what comes later can tell no more of a guard that was not made than that its number is taken. -/
theorem unwinding (env : Environment) (henv : env.Storable) (deeds : List Deed) (poisoned : Bool) :
    let s := (start env).run deeds
    (∀ later : List Deed, (s.withLock poisoned).run later =
      some (s.replies later,
        (s.run later).withLock (poisoned || (s.replies later).any Reply.isPanic))) ∧
    (∀ text : String, '\x00' ∈ text.toList → s.Undoes text) ∧
    (∀ (deed : Deed) (later : List Deed) (i : Nat) (w : Variable),
      w ∉ s.overridden i → w ∈ (s.step deed).overridden i →
      (((s.step deed).run later).guard? i).isSome →
      ∀ (v : Variable) (text : String), '\x00' ∈ text.toList →
        (((s.step deed).run later).step (.extend i v (some text))).environment.value w =
          (s.environment.get w).map .text) ∧
    (∀ (i : Nat) (v : Variable) (text : String), (s.guard? i).isSome → '\x00' ∈ text.toList →
      ∀ w, w ∉ s.overridden i → (s.step (.extend i v (some text))).environment.value w =
        if w = v then (s.environment.get v).map .text else s.environment.value w) ∧
    ∀ later : List Deed,
      (s.withGap s.guards.length).replies (later.map (·.past s.guards.length)) = s.replies later ∧
      (s.withGap s.guards.length).run (later.map (·.past s.guards.length)) =
        (s.run later).withGap s.guards.length := by
  have hs := (storable_start henv).run deeds
  exact ⟨run_withLock hs poisoned, fun _ => undoes _,
    fun _ _ _ _ hbefore hafter hlive v _ => extend_value_of_first hbefore hafter hlive v,
    fun _ v _ hlive htext _ => extend_value_of_notMem hlive v htext,
    run_withGap (Nat.le_refl _)⟩

/-- A guard over two variables fails to override a third: it is dropped, and nobody waits. -/
theorem unwinding_third_override :
    Environment.empty.Storable ∧
      let s :=
        (start .empty).run [.make .traceCommands (some "1"), .extend 0 .logLevel (some "off")]
      s.step (.extend 0 .metricsConsole (some "a\x00b")) = s.step (.drop 0) ∧
      ((s.withLock true).run
        [.extend 0 .metricsConsole (some "a\x00b"), .set .logLevel "warn"]).isSome := by
  have hthird := unwinding .empty Environment.storable_empty
    [.make .traceCommands (some "1"), .extend 0 .logLevel (some "off")] true
  have hundoes := hthird.2.1 "a\x00b" (by decide)
  refine ⟨Environment.storable_empty, (hundoes.extend 0 .metricsConsole rfl).2.1 (.inr rfl), ?_⟩
  rw [hthird.1]
  rfl

/-- Bytes that form no text are lost to a guard that fails to override their variable. -/
theorem unwinding_undecodable :
    let env := Environment.empty.assign .metricsPath (some (.undecodable [0xff]))
    env.Storable ∧
      ((start env).withLock false).step (.make .metricsPath (some "a\x00b")) =
        some (.panicked (.nullCharacter .metricsPath (.text "a\x00b")),
          ((start env).step (.make .metricsPath (some "a\x00b"))).withLock true) ∧
      ((start env).step (.make .metricsPath (some "a\x00b"))).environment.value .metricsPath =
        none ∧
      env.value .metricsPath = some (.undecodable [0xff]) := by
  intro env
  have henv : env.Storable := by
    intro v value hv
    simp only [env, Environment.value_assign] at hv
    split at hv
    · cases hv
      rfl
    · cases hv
  refine ⟨henv, step_withLock (storable_start henv) false _, ?_, rfl⟩
  rw [step_make_of_null _ _ (by decide)]
  rfl

end Scene
end TensorMemory
