import TensorMemory.Files

/-!
Paths that files are appended to. Directories never change, so what a path leads to does not depend
on which files there are: once a path was opened and names a file, it can be opened for ever, always
names the same place, and reads as what was put there.
-/

namespace TensorMemory.Files

theorem lookInto_eq_ok_iff {files : Files} {location found : Location} :
    files.lookInto location = .ok found ↔ location = found ∧ location ∈ directories := by
  unfold lookInto node?
  by_cases h : location ∈ directories
  · simp [h]
  · simp only [h, if_false]
    cases specials.find? (·.1 = location) with
    | some special => simp
    | none => cases files.contents.get? location <;> simp

/-! ## Ways through the directories -/

theorem step_mono {files : Files} (other : Files) {location next : Location} {name : FileName}
    (h : files.step location name = .ok next) : other.step location name = .ok next := by
  cases hlook : files.lookInto location with
  | error e => simp [step, hlook, bind, Except.bind] at h
  | ok directory =>
    obtain ⟨rfl, hmem⟩ := lookInto_eq_ok_iff.mp hlook
    have hother : other.lookInto location = .ok location := lookInto_eq_ok_iff.mpr ⟨rfl, hmem⟩
    simpa only [step, hlook, hother] using h

theorem walk_mono {files : Files} (other : Files) {start last : Location} {names : List FileName}
    (h : files.walk start names = .ok last) : other.walk start names = .ok last := by
  induction names generalizing start with
  | nil => exact h
  | cons name names ih =>
    cases hstep : files.step start name with
    | error e => simp [walk, hstep, bind, Except.bind] at h
    | ok next =>
      have hrest : files.walk next names = .ok last := by
        simpa [walk, hstep, bind, Except.bind] using h
      simpa [walk, step_mono other hstep, bind, Except.bind] using ih hrest

theorem route_start_mem (path : Bytes) : (route path).1 ∈ directories := by
  have hroots : [] ∈ directories ∧ scratch ∈ directories ∧ working ∈ directories := by
    simp [directories]
  unfold route
  split
  · exact hroots.1
  · split
    · split
      · exact hroots.2.1
      · exact hroots.2.2
    · exact hroots.2.2

/-- A path that can be written to names a directory, or walking it to its end leads to the place that
it names. -/
theorem target_cases {files : Files} {path : Bytes} {location : Location}
    (h : files.target path = .ok location) : location ∈ directories ∨
      demandsDirectory path = false ∧
        ∀ other : Files, other.target path = .ok location ∧
          other.walk (route path).1 (route path).2 = .ok location := by
  cases hlast : (route path).2.getLast? with
  | none =>
    simp only [target, hlast, Except.ok.injEq] at h
    exact .inl (h ▸ route_start_mem path)
  | some last =>
    cases hparent : files.walk (route path).1 (route path).2.dropLast with
    | error e => simp [target, hlast, hparent, bind, Except.bind] at h
    | ok parent =>
      cases hdemand : demandsDirectory path with
      | true =>
        simp only [target, hlast, hparent, hdemand, bind, Except.bind, if_true] at h
        cases hlook : files.lookInto parent <;> simp [hlook] at h
      | false =>
        refine .inr ⟨rfl, fun other => ?_⟩
        have hstep : files.step parent last = .ok location := by
          simpa [target, hlast, hparent, hdemand, bind, Except.bind] using h
        have hwalk := walk_mono other hparent
        have hnext := step_mono other hstep
        refine ⟨by simpa [target, hlast, hwalk, hdemand, bind, Except.bind] using hnext, ?_⟩
        obtain ⟨names, hnames⟩ := List.getLast?_eq_some_iff.mp hlast
        rw [hnames, List.dropLast_concat] at hwalk
        rw [hnames, walk, List.foldlM_append, ← walk, hwalk]
        simp [bind, Except.bind, pure, Except.pure, hnext]

/-- Whether a place is a directory or a device does not depend on the files. -/
theorem node?_eq_of_ordinary {files : Files} {location : Location}
    (hdirectory : files.node? location ≠ some .directory)
    (hspecial : ∀ device, files.node? location ≠ some (.special device)) (other : Files) :
    other.node? location = (other.contents.get? location).map .file := by
  unfold node? at hdirectory hspecial ⊢
  by_cases hmem : location ∈ directories
  · simp [hmem] at hdirectory
  · simp only [hmem, if_false] at hspecial ⊢
    cases hfind : specials.find? (·.1 = location) with
    | some special => simp [hfind] at hspecial
    | none => rfl

/-- What was opened is no directory, and the path leads to it whichever files there are. -/
theorem openAppend_cases {files opened : Files} {path : NativeText} {sink : Sink}
    (h : files.openAppend path = .ok (sink, opened)) : ∃ bytes location,
    checked path = .ok bytes ∧ demandsDirectory bytes = false ∧
      (∀ other : Files, other.target bytes = .ok location ∧
        other.walk (route bytes).1 (route bytes).2 = .ok location) ∧
      ((∃ device, sink = .special device ∧ files.node? location = some (.special device)) ∨
        sink = .file location ∧
          ∀ other : Files, other.node? location = (other.contents.get? location).map .file) := by
  cases hchecked : checked path with
  | error e => simp [openAppend, hchecked, bind, Except.bind] at h
  | ok bytes =>
    cases htarget : files.target bytes with
    | error e => simp [openAppend, hchecked, htarget, bind, Except.bind] at h
    | ok location =>
      simp only [openAppend, hchecked, htarget, bind, Except.bind] at h
      have hdirectory : files.node? location ≠ some .directory := by
        intro hnode
        simp [hnode] at h
      obtain hmem | ⟨hdemand, hway⟩ := target_cases htarget
      · exact absurd (if_pos hmem) hdirectory
      refine ⟨bytes, location, rfl, hdemand, hway, ?_⟩
      by_cases hspecial : ∃ device, files.node? location = some (.special device)
      · obtain ⟨device, hdevice⟩ := hspecial
        simp only [hdevice, Except.ok.injEq, Prod.mk.injEq] at h
        exact .inl ⟨device, h.1.symm, hdevice⟩
      · have hordinary := node?_eq_of_ordinary hdirectory (not_exists.mp hspecial)
        rw [hordinary files] at h
        refine .inr ⟨?_, hordinary⟩
        cases hget : files.contents.get? location <;> simp_all

/-- The path names a place for a file, whichever files there are. -/
structure Names (path : NativeText) (location : Location) : Prop where
  opens : ∀ files : Files, files.openAppend path = .ok (.file location,
    if (files.contents.get? location).isSome then files
    else ⟨files.contents.insert location ""⟩)
  reads : ∀ files : Files, files.read path =
    match files.contents.get? location with
    | some text => .ok text
    | none => .error .notFound

/-- A path that can be opened, and at which there is nothing yet, names a place for a file. -/
theorem names_of_absent {files opened : Files} {path : NativeText} {sink : Sink}
    (hopen : files.openAppend path = .ok (sink, opened))
    (habsent : files.read path = .error .notFound) :
    ∃ location, Names path location ∧ files.contents.get? location = none := by
  obtain ⟨bytes, location, hchecked, hdemand, hway, ⟨device, -, hdevice⟩ | ⟨-, hordinary⟩⟩ :=
    openAppend_cases hopen
  · -- A device reads as empty.
    simp [read, hchecked, (hway files).2, hdevice, hdemand, bind, Except.bind] at habsent
  · have hnames : Names path location := by
      constructor
      · intro other
        simp only [openAppend, hchecked, (hway other).1, hordinary other, bind, Except.bind]
        cases other.contents.get? location <;> rfl
      · intro other
        simp only [read, hchecked, (hway other).2, hordinary other, hdemand, bind, Except.bind]
        cases other.contents.get? location <;> rfl
    refine ⟨location, hnames, ?_⟩
    rw [hnames.reads] at habsent
    cases hget : files.contents.get? location with
    | none => rfl
    | some text => simp [hget] at habsent

end TensorMemory.Files
