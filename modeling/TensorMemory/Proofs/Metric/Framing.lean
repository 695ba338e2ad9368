import TensorMemory.Proofs.Files
import TensorMemory.Proofs.Json.Printed
import TensorMemory.Proofs.Metric.Event
import TensorMemory.Proofs.Text.Lines

/-!
Files of records. Every record is one line, because its document is, and lines are only appended,
by however many exporters the path was opened for. So the lines of the file are the records in the
order of their export, and they tell records apart.
-/

namespace TensorMemory

open Json (Value)

namespace Json.Value

theorem complete_option {α : Type} {f : α → Value} (h : ∀ a, (f a).complete = true)
    (o : Option α) : (option f o).complete = true := by
  cases o with
  | none => rfl
  | some a => exact h a

theorem option_injective {α : Type} {f : α → Value} (h : Function.Injective f)
    (hnull : ∀ a, f a ≠ .null) : Function.Injective (option f) := by
  intro a b hab
  cases a with
  | none => cases b with
    | none => rfl
    | some b => exact absurd hab.symm (hnull b)
  | some a => cases b with
    | none => exact absurd hab (hnull a)
    | some b => rw [h hab]

end Json.Value

namespace Record

open Json.Value

/-- What a record says about the span and the event. -/
def written (r : Record) : Written := ⟨r.spanName, r.spanId, r.parentSpanId, r.event⟩

theorem complete_toValue (r : Record) : r.toValue.complete = true := by
  simp [toValue, complete_record, complete_option, MetricEvent.complete_toValue]

/-- A line is the text of the record's document. -/
theorem parse?_line (r : Record) : Value.parse? r.line = some r.toValue :=
  parse?_render r.complete_toValue

theorem written_of_toValue {r r' : Record} (h : r.toValue = r'.toValue) :
    r.written = r'.written := by
  have hnat : Function.Injective Json.Value.nat := by
    intro m n hmn
    simpa [Json.Value.nat, Json.Number.ofNat] using hmn
  have htext : Function.Injective Json.Value.text := by
    intro s t hst
    simpa [Json.Value.text] using hst
  simp only [toValue, record, List.map_cons, List.map_nil, Json.Value.object.injEq,
    List.cons.injEq, Prod.mk.injEq, true_and, and_true] at h
  obtain ⟨-, hid, hparent, hname, hevent⟩ := h
  have hid := option_injective hnat (by simp [Json.Value.nat]) hid
  have hparent := option_injective hnat (by simp [Json.Value.nat]) hparent
  have hname := option_injective htext (by simp [Json.Value.text]) hname
  have hevent : some r.event = some r'.event := by
    rw [← MetricEvent.ofValue?_toValue, hevent, MetricEvent.ofValue?_toValue]
  rw [written, written, hid, hparent, hname, Option.some.inj hevent]

/-- Records with one line say the same of their span and event. -/
theorem written_of_line {r r' : Record} (h : r.line = r'.line) : r.written = r'.written := by
  apply written_of_toValue
  apply Option.some.inj
  rw [← parse?_line, ← parse?_line, h]

theorem written_of_lines {rs rs' : List Record} (h : rs.map line = rs'.map line) :
    rs.map written = rs'.map written := by
  induction rs generalizing rs' with
  | nil => rw [List.map_eq_nil_iff.mp h.symm]
  | cons r rs ih =>
    cases rs' with
    | nil => cases h
    | cons r' rs' =>
      obtain ⟨hline, hlines⟩ := List.cons.inj h
      rw [List.map_cons, List.map_cons, written_of_line hline, ih hlines]

end Record

namespace Exporter

/-- The text of records that were appended one after another. -/
def appended (rs : List Record) : String := String.join (rs.map fun r => r.line ++ "\n")

theorem appended_append (rs rs' : List Record) :
    appended (rs ++ rs') = appended rs ++ appended rs' := by
  rw [appended, List.map_append, String.join_append]
  rfl

theorem getLast?_appended {rs : List Record} (h : rs ≠ []) :
    (appended rs).toList.getLast? = some '\n' := by
  obtain ⟨first, last, rfl⟩ := List.eq_nil_or_concat rs |>.resolve_left h
  rw [List.concat_eq_append, appended_append, String.toList_append, List.getLast?_append]
  simp [appended, String.toList_append]

theorem textLines_appended (rs : List Record) : textLines (appended rs) = rs.map Record.line := by
  have hlines : ∀ l ∈ rs.map Record.line, '\n' ∉ l.toList := by
    intro l hl
    obtain ⟨r, -, rfl⟩ := List.mem_map.mp hl
    exact r.toValue.newline_notMem_render
  rw [← textLines_join _ hlines, List.map_map]
  rfl

theorem get?_appendRecords {files : Files} {location : Location} {text : String}
    (h : files.contents.get? location = some text) (rs : List Record) :
    (appendRecords files (.file location) rs).contents.get? location =
      some (text ++ appended rs) := by
  induction rs generalizing files text with
  | nil => simpa [appendRecords, appended] using h
  | cons r rs ih =>
    let next : Files := ⟨files.contents.insert location (text ++ (r.line ++ "\n"))⟩
    have hnext : next.contents.get? location = some (text ++ (r.line ++ "\n")) := by
      rw [Table.get?_insert, if_pos rfl]
    have hfirst : appendRecords files (.file location) (r :: rs) =
        appendRecords next (.file location) rs := by
      rw [appendRecords, List.foldl_cons, appendRecord, Files.append, h]
      rfl
    rw [hfirst, ih hnext, String.append_assoc, ← List.singleton_append, appended_append]
    simp [appended]

/-- Every opening finds what the ones before it have written, and appends to it. -/
theorem appendRuns_of_names {path : NativeText} {location : Location}
    (hnames : Files.Names path location) (files : Files) (runs : List (List Record)) :
    ∃ files', appendRuns files path runs = .ok files' ∧ files'.contents.get? location =
      if runs = [] then files.contents.get? location
      else some ((files.contents.get? location).getD "" ++ appended runs.flatten) := by
  induction runs generalizing files with
  | nil => exact ⟨files, rfl, rfl⟩
  | cons rs runs ih =>
    obtain ⟨opened, hopen, hget⟩ : ∃ opened, files.openAppend path = .ok (.file location, opened) ∧
        opened.contents.get? location = some ((files.contents.get? location).getD "") := by
      refine ⟨_, hnames.opens files, ?_⟩
      cases h : files.contents.get? location with
      | none => simp [Table.get?_insert]
      | some text => simp [h]
    obtain ⟨files', hruns, htext⟩ := ih (appendRecords opened (.file location) rs)
    refine ⟨files', by simp [appendRuns, hopen, hruns], ?_⟩
    rw [htext, get?_appendRecords hget, if_neg (List.cons_ne_nil rs runs)]
    by_cases hlast : runs = []
    · simp [hlast]
    · rw [if_neg hlast, Option.getD_some, List.flatten_cons, appended_append, String.append_assoc]

/-- Where there is nothing yet, opening a path again and again and exporting records each time
leaves one line for each record, in order and each with its end. Every line is the text of its
record's document, and records that say something else of their span or event never give the same
lines. -/
theorem framing {files opened : Files} {path : NativeText} {sink : Sink}
    (hopen : files.openAppend path = .ok (sink, opened))
    (habsent : files.read path = .error .notFound) (runs : List (List Record)) :
    (∃ files' text, appendRuns files path runs = .ok files' ∧
      files'.read path = (if runs = [] then .error .notFound else .ok text) ∧
      (runs.flatten ≠ [] → text.toList.getLast? = some '\n') ∧
      textLines text = runs.flatten.map Record.line) ∧
    (∀ r : Record, Value.parse? r.line = some r.toValue) ∧
    ∀ rs rs' : List Record, rs.map Record.line = rs'.map Record.line →
      rs.map Record.written = rs'.map Record.written := by
  refine ⟨?_, Record.parse?_line, fun rs rs' => Record.written_of_lines⟩
  obtain ⟨location, hnames, hnothing⟩ := Files.names_of_absent hopen habsent
  obtain ⟨files', hruns, htext⟩ := appendRuns_of_names hnames files runs
  refine ⟨files', appended runs.flatten, hruns, ?_, getLast?_appended, textLines_appended _⟩
  rw [hnames.reads, htext, hnothing]
  by_cases hlast : runs = [] <;> simp [hlast]

/-- Three openings of one path, one of them for nothing, and a span whose name holds a line end. -/
theorem framing_reopened :
    let path : NativeText := .text "$TMP/metrics.jsonl"
    let copy : Record := ⟨⟨0, 0⟩, some 1, none, some "up\nload", .recorded "copy" 42 16⟩
    let release : Record := ⟨⟨0, 5⟩, none, none, none, .released "Host" "Int" 2 0⟩
    ∃ files' text, appendRuns .empty path [[copy], [], [release, copy]] = .ok files' ∧
      files'.read path = .ok text ∧ text.toList.getLast? = some '\n' ∧
      textLines text = [copy.line, release.line, copy.line] := by
  intro path copy release
  have habsent : Files.empty.read path = .error .notFound := by decide +kernel
  have hsink : (Files.empty.openAppend path).map Prod.fst =
      .ok (.file [.ofString "metrics.jsonl", .ofString "$TMP", .ofString "tmp"]) := by
    decide +kernel
  cases hopen : Files.empty.openAppend path with
  | error e => simp [hopen, Except.map] at hsink
  | ok opened =>
    obtain ⟨files', text, hruns, hread, hlast, hlines⟩ :=
      (framing hopen habsent [[copy], [], [release, copy]]).1
    exact ⟨files', text, hruns, hread, hlast (by simp), hlines⟩

end Exporter
end TensorMemory
