import TensorMemory.Environment.Descriptor

/-!
What guards do to an environment. A guard notes what a variable holds before it overrides it, and
when it goes, each variable gets what the first note of it says and all others are left as they are.
-/

namespace TensorMemory

namespace Environment

/-- Every variable is absent or holds a text. -/
def Textual (env : Environment) : Prop := ∀ v, env.value v = (env.get v).map .text

theorem Textual.put {env : Environment} (h : env.Textual) (v : Variable) (text : Option String) :
    (env.put v text).Textual := by
  intro w
  by_cases hw : w = v
  · cases text <;> simp [Environment.put, get, hw, NativeText.text?]
  · simpa [Environment.put, get, hw] using h w

/-- The variable is absent or holds a text. -/
def Legible (env : Environment) (v : Variable) : Prop := env.value v = (env.get v).map .text

/-- Putting back what a variable reads as changes nothing. -/
theorem Legible.put_get {env : Environment} {v : Variable} (h : env.Legible v) :
    env.put v (env.get v) = env := by
  ext1 w
  by_cases hw : w = v
  · rw [hw, h, put, value_assign, if_pos rfl]
  · rw [put, value_assign, if_neg hw]

theorem Textual.put_get {env : Environment} (h : env.Textual) (v : Variable) :
    env.put v (env.get v) = env :=
  Legible.put_get (h v)

theorem put_put (env : Environment) (v : Variable) (text text' : Option String) :
    (env.put v text).put v text' = env.put v text' := by
  ext1 w
  by_cases hw : w = v <;> simp [put, hw]

theorem get_congr {env env' : Environment} {v : Variable} (h : env.value v = env'.value v) :
    env.get v = env'.get v := by
  rw [get, get, h]

/-- There is no text, or it contains no null character. -/
def NullFree (value : Option String) : Prop := ∀ text, value = some text → '\x00' ∉ text.toList

theorem nullFree_none : NullFree none := nofun

theorem nullFree_some {text : String} (h : '\x00' ∉ text.toList) : NullFree (some text) := by
  rintro _ ⟨⟩
  exact h

theorem set_of_null (env : Environment) (v : Variable) {text : String}
    (h : '\x00' ∈ text.toList) : env.set v text = .error (.nullCharacter v (.text text)) :=
  if_pos (List.contains_iff_mem.2 h)

theorem set_of_not_null (env : Environment) (v : Variable) {text : String}
    (h : '\x00' ∉ text.toList) : env.set v text = .ok (env.put v (some text)) :=
  if_neg fun hnull => h (List.contains_iff_mem.1 hnull)

theorem set_eq_ok_iff (env changed : Environment) (v : Variable) (text : String) :
    env.set v text = .ok changed ↔ '\x00' ∉ text.toList ∧ changed = env.put v (some text) := by
  by_cases h : '\x00' ∈ text.toList
  · simp [set_of_null, h]
  · simp [set_of_not_null, h, eq_comm]

/-- Setting a variable to a text that contains a null character is refused. -/
theorem set_cases (env : Environment) (v : Variable) (text : String) :
    env.set v text = .ok (env.put v (some text)) ∨ ∃ e, env.set v text = .error e := by
  by_cases h : '\x00' ∈ text.toList
  · exact .inr ⟨_, env.set_of_null v h⟩
  · exact .inl (env.set_of_not_null v h)

end Environment

namespace Guard

/-- The variables that the guard has overridden. -/
def overridden (g : Guard) : List Variable := g.saved.map Prod.fst

/-- What the guard gives back to a variable. -/
def first? (g : Guard) (v : Variable) : Option (Option String) :=
  (g.saved.find? (·.1 = v)).map Prod.snd

theorem first?_eq_none_iff (g : Guard) (v : Variable) : g.first? v = none ↔ v ∉ g.overridden := by
  simp only [first?, overridden, Option.map_eq_none_iff, List.find?_eq_none, decide_eq_true_eq,
    List.mem_map, not_exists, not_and]

theorem overridden_noting (g : Guard) (env : Environment) (v : Variable) :
    (g.noting env v).overridden = g.overridden ++ [v] := by
  simp [overridden, noting]

theorem value_restore (g : Guard) (env : Environment) (v : Variable) :
    (g.restore env).value v =
      ((g.first? v).map (Option.map NativeText.text)).getD (env.value v) := by
  obtain ⟨saved⟩ := g
  induction saved with
  | nil => rfl
  | cons note saved ih =>
    by_cases hv : note.1 = v
    · simp [restore, first?, Environment.put, hv]
    · have hskip : (Guard.mk (note :: saved)).first? v = (Guard.mk saved).first? v := by
        simp [first?, hv]
      rw [hskip, ← ih]
      exact if_neg (Ne.symm hv)

theorem first?_noting (g : Guard) (env : Environment) (v w : Variable) :
    (g.noting env v).first? w = (g.first? w).or (if w = v then some (env.get v) else none) := by
  rw [first?, noting, List.find?_append, Option.map_or]
  by_cases hw : w = v
  · simp [first?, hw]
  · simp [first?, hw, Ne.symm hw]

theorem restore_noting (g : Guard) (env changed : Environment) (v : Variable) :
    (g.noting env v).restore changed = g.restore (changed.put v (env.get v)) := by
  rw [restore, noting, List.foldr_append]
  rfl

theorem restore_textual (g : Guard) {env : Environment} (h : env.Textual) :
    (g.restore env).Textual := by
  obtain ⟨saved⟩ := g
  induction saved with
  | nil => exact h
  | cons note saved ih => exact ih.put note.1 note.2

/-- Taking back the last override leaves what there was before it. -/
theorem restore_noting_put (g : Guard) {env : Environment} (h : env.Textual) (v : Variable)
    (text : Option String) : (g.noting env v).restore (env.put v text) = g.restore env := by
  rw [restore_noting, Environment.put_put, h.put_get]

/-- A guard that cannot override a variable gives up all others with it. -/
theorem override_of_null (g : Guard) (env : Environment) (v : Variable) {text : String}
    (h : '\x00' ∈ text.toList) :
    g.override env v (some text) =
      (.error (.nullCharacter v (.text text)), (g.noting env v).restore env) := by
  rw [override, env.set_of_null v h]

theorem override_of_nullFree (g : Guard) (env : Environment) (v : Variable) {value : Option String}
    (h : Environment.NullFree value) :
    g.override env v value = (.ok (g.noting env v), env.put v value) := by
  cases value with
  | none => rfl
  | some text =>
    rw [override, env.set_of_not_null v (h text rfl)]

/-- An override sets the variable, or the guard goes and puts back what it has noted. -/
theorem override_outcome (g : Guard) (env : Environment) (v : Variable) (value : Option String) :
    Environment.NullFree value ∧
        g.override env v value = (.ok (g.noting env v), env.put v value) ∨
      ∃ text, '\x00' ∈ text.toList ∧ value = some text ∧
        g.override env v value =
          (.error (.nullCharacter v (.text text)), (g.noting env v).restore env) := by
  by_cases h : ∃ text, '\x00' ∈ text.toList ∧ value = some text
  · obtain ⟨text, htext, rfl⟩ := h
    exact .inr ⟨text, htext, rfl, g.override_of_null env v htext⟩
  · have hfree : Environment.NullFree value := fun text hvalue htext => h ⟨text, htext, hvalue⟩
    exact .inl ⟨hfree, g.override_of_nullFree env v hfree⟩

theorem override_toOption {g g' : Guard} {env : Environment} {v : Variable} {value : Option String}
    (h : (g.override env v value).1.toOption = some g') : g' = g.noting env v := by
  obtain ⟨-, hmade⟩ | ⟨text, -, -, hmade⟩ := g.override_outcome env v value
  · rw [hmade] at h
    exact (Option.some.inj h).symm
  · rw [hmade] at h
    cases h

/-- An override sets the variable, or the guard gives it up together with all the others. -/
theorem override_cases (g : Guard) {env : Environment} (h : env.Textual) (v : Variable)
    (value : Option String) :
    g.override env v value = (.ok (g.noting env v), env.put v value) ∨
      ∃ e, g.override env v value = (.error e, g.restore env) := by
  have hback : (g.noting env v).restore env = g.restore env := by
    rw [restore_noting, h.put_get]
  rw [← hback]
  exact (g.override_outcome env v value).imp And.right fun ⟨text, _, _, hgone⟩ => ⟨_, hgone⟩

end Guard

namespace Descriptor

variable {α : Type}

/-- A typed variable reads no other variable. -/
theorem get_congr (d : Descriptor α) {env env' : Environment}
    (h : env.value d.name = env'.value d.name) : d.get env = d.get env' := by
  rw [get, get, Environment.get_congr h]

/-- Setting a value is setting the variable to its text. -/
theorem set_cases (d : Descriptor α) (env : Environment) (value : α) :
    (∃ text, d.format value = .ok text ∧ d.set env value = .ok (env.put d.name (some text))) ∨
      ∃ e, d.set env value = .error e := by
  unfold set
  cases hformat : d.format value with
  | error reason => exact .inr ⟨_, rfl⟩
  | ok text =>
    obtain hset | hset := env.set_cases d.name text
    · exact .inl ⟨text, rfl, hset⟩
    · exact .inr hset

/-- A guard over a value sets the value in just the same way. -/
theorem guarded_eq (d : Descriptor α) (env : Environment) (value : α) :
    d.guarded env value = match d.set env value with
      | .ok changed => (.ok (Guard.empty.noting env d.name), changed)
      | .error e => (.error e, env) := by
  unfold guarded set
  cases d.format value with
  | error reason => rfl
  | ok text =>
    cases h : env.set d.name text with
    | ok changed =>
      simp only [h]
      rfl
    | error e => simp only [h]

theorem guarded_toOption (d : Descriptor α) {env : Environment} {value : α} {g : Guard}
    (h : (d.guarded env value).1.toOption = some g) : g = Guard.empty.noting env d.name := by
  rw [guarded_eq] at h
  cases hset : d.set env value with
  | ok changed =>
    rw [hset] at h
    exact (Option.some.inj h).symm
  | error e =>
    rw [hset] at h
    cases h

end Descriptor
end TensorMemory
