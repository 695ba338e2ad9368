import TensorMemory.Proofs.Environment.Overrides

/-!
Typed variables read back what was written to them. A value reads back when its text parses to it,
and so does every value whose text is refused. The one value that is written and does not read back
is the empty path.
-/

namespace TensorMemory

namespace Environment

theorem get_put_self (env : Environment) (v : Variable) (text : String) :
    (env.put v (some text)).get v = some text := by
  simp [put, get, NativeText.text?]

end Environment

namespace Descriptor

variable {α : Type}

/-- Once a value is written, by a plain write or for as long as a guard is kept, it is what the
variable reads as, for as long as the variable is not changed. -/
structure ReadsBack (d : Descriptor α) (value : α) : Prop where
  set : ∀ env changed, d.set env value = .ok changed →
    ∀ later : Environment, later.value d.name = changed.value d.name →
      d.get later = .ok (some value)
  guarded : ∀ env g changed, d.guarded env value = (.ok g, changed) →
    ∀ later : Environment, later.value d.name = changed.value d.name →
      d.get later = .ok (some value)

theorem set_of_guarded {d : Descriptor α} {env changed : Environment} {value : α} {g : Guard}
    (h : d.guarded env value = (.ok g, changed)) : d.set env value = .ok changed := by
  rw [guarded_eq] at h
  cases hset : d.set env value with
  | ok env' =>
    rw [hset] at h
    cases h
    rfl
  | error e =>
    rw [hset] at h
    cases h

theorem get_eq_of_text (d : Descriptor α) {env : Environment} {text : String} {value : α}
    (htext : env.get d.name = some text) (hparse : d.parse text = .ok value) :
    d.get env = .ok (some value) := by
  simp only [get, htext, hparse]

/-- Reading undoes writing if parsing undoes formatting. -/
theorem readsBack_of_parse {d : Descriptor α} {value : α}
    (h : ∀ text, d.format value = .ok text → d.parse text = .ok value) : d.ReadsBack value := by
  have hset : ∀ env changed, d.set env value = .ok changed →
      ∀ later : Environment, later.value d.name = changed.value d.name →
        d.get later = .ok (some value) := by
    intro env changed hchanged later hlater
    obtain ⟨text, hformat, hput⟩ | ⟨e, herror⟩ := d.set_cases env value
    · cases hput.symm.trans hchanged
      have htext := (Environment.get_congr hlater).trans (env.get_put_self d.name text)
      exact d.get_eq_of_text htext (h text hformat)
    · cases herror.symm.trans hchanged
  exact ⟨hset, fun env g changed hguarded => hset env changed (set_of_guarded hguarded)⟩

theorem level_readsBack (level : Level) : logLevel.ReadsBack level := by
  have hname : Level.ofText? (Text.trim level.name) = some level := by
    cases level <;> decide +kernel
  refine readsBack_of_parse fun text hformat => ?_
  rw [← Except.ok.inj hformat]
  simp only [logLevel, hname]

theorem parseFlag_formatFlag (b : Bool) : parseFlag (formatFlag b) = .ok b := by
  have hplain : Text.lower (Text.trim (formatFlag b)) = formatFlag b := by
    cases b <;> decide +kernel
  rw [parseFlag, hplain]
  cases b <;> rfl

theorem flag_readsBack (v : Variable) (b : Bool) :
    ReadsBack ⟨v, parseFlag, fun b => .ok (formatFlag b)⟩ b := by
  refine readsBack_of_parse fun text hformat => ?_
  rw [← Except.ok.inj hformat]
  simp only [parseFlag_formatFlag]

theorem path_set_eq_ok_iff (env : Environment) (path : NativeText) :
    (∃ changed, metricsPath.set env path = .ok changed) ↔
      ∃ text, path = .text text ∧ '\x00' ∉ text.toList := by
  cases path with
  | text text => simp [set, metricsPath, Environment.set_eq_ok_iff]
  | undecodable bytes => simp [set, metricsPath]

/-- The empty path can be written, but it cannot be read. -/
theorem emptyPath_unreadable (env : Environment) :
    ∃ changed, metricsPath.set env (.text "") = .ok changed ∧
      metricsPath.get changed = .error (.unreadable .metricsPath "" "path must not be empty") := by
  refine ⟨env.put .metricsPath (some ""), (env.set_eq_ok_iff _ _ _).2 ⟨by decide, rfl⟩, ?_⟩
  simp [get, metricsPath, Environment.get_put_self]

theorem path_readsBack_iff (path : NativeText) : metricsPath.ReadsBack path ↔ path ≠ .text "" := by
  constructor
  · rintro h rfl
    obtain ⟨changed, hset, hget⟩ := emptyPath_unreadable .empty
    cases (h.set .empty changed hset changed rfl).symm.trans hget
  · intro hpath
    refine readsBack_of_parse fun text hformat => ?_
    cases path with
    | undecodable bytes => cases hformat
    | text _ =>
      cases hformat
      have hs : text ≠ "" := fun hempty => hpath (congrArg NativeText.text hempty)
      simp [metricsPath, hs]

/-- What is written reads back. Levels and flags are always written, and a path is if it is a text
without null characters; all of them read back but the empty path, which reads as malformed. -/
theorem round_trip (env : Environment) (level : Level) (path : NativeText) (b : Bool) :
    logLevel.ReadsBack level ∧ (metricsPath.ReadsBack path ↔ path ≠ .text "") ∧
    metricsConsole.ReadsBack b ∧ traceCommands.ReadsBack b ∧
    (∃ changed, logLevel.set env level = .ok changed) ∧
    ((∃ changed, metricsPath.set env path = .ok changed) ↔
      ∃ text, path = .text text ∧ '\x00' ∉ text.toList) ∧
    (∃ changed, metricsConsole.set env b = .ok changed) ∧
    (∃ changed, traceCommands.set env b = .ok changed) ∧
    ∃ changed, metricsPath.set env (.text "") = .ok changed ∧
      metricsPath.get changed = .error (.unreadable .metricsPath "" "path must not be empty") := by
  have hlevel : '\x00' ∉ level.name.toList := by cases level <;> decide +kernel
  have hflag : '\x00' ∉ (formatFlag b).toList := by cases b <;> decide +kernel
  refine ⟨level_readsBack level, path_readsBack_iff path, flag_readsBack _ b, flag_readsBack _ b,
    ?writtenLevel, path_set_eq_ok_iff env path, ?writtenConsole, ?writtenTrace,
    emptyPath_unreadable env⟩
  case writtenLevel => exact ⟨_, (env.set_eq_ok_iff _ .logLevel level.name).2 ⟨hlevel, rfl⟩⟩
  case writtenConsole =>
    exact ⟨_, (env.set_eq_ok_iff _ .metricsConsole (formatFlag b)).2 ⟨hflag, rfl⟩⟩
  case writtenTrace =>
    exact ⟨_, (env.set_eq_ok_iff _ .traceCommands (formatFlag b)).2 ⟨hflag, rfl⟩⟩

/-- Writing the empty path succeeds, and it does not read back. -/
theorem round_trip_emptyPath :
    (∃ changed, metricsPath.set .empty (.text "") = .ok changed) ∧
      ¬ metricsPath.ReadsBack (.text "") := by
  refine ⟨(path_set_eq_ok_iff _ _).2 ⟨"", rfl, by decide⟩, fun h => ?_⟩
  exact (path_readsBack_iff _).1 h rfl

end Descriptor
end TensorMemory
