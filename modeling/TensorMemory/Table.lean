/-!
Finite maps that keep their entries in the order in which the keys first came in. The view of a
table is `get?`; the lemmas say what each operation does to it, and to the number of entries.
-/

namespace TensorMemory

structure Table (κ α : Type) where
  entries : List (κ × α)
  distinct : (entries.map Prod.fst).Nodup

namespace Table

variable {κ α : Type} [DecidableEq κ]

def empty : Table κ α := ⟨[], List.nodup_nil⟩

instance : Inhabited (Table κ α) := ⟨empty⟩

def get? (t : Table κ α) (k : κ) : Option α := (t.entries.find? (·.1 = k)).map Prod.snd

def contains (t : Table κ α) (k : κ) : Bool := (t.get? k).isSome

def size (t : Table κ α) : Nat := t.entries.length

def keys (t : Table κ α) : List κ := t.entries.map Prod.fst

def any (t : Table κ α) (p : κ → α → Bool) : Bool := t.entries.any fun e => p e.1 e.2

/-- Applies `f` to the value under `k`, if there is one. -/
def modify (t : Table κ α) (k : κ) (f : α → α) : Table κ α where
  entries := t.entries.map fun e => if e.1 = k then (e.1, f e.2) else e
  distinct := by
    have : ∀ e : κ × α, (if e.1 = k then (e.1, f e.2) else e).1 = e.1 := by
      intro e; split <;> rfl
    simpa [Function.comp_def, this] using t.distinct

def erase (t : Table κ α) (k : κ) : Table κ α where
  entries := t.entries.filter (·.1 ≠ k)
  distinct := t.distinct.sublist (List.filter_sublist.map _)

theorem get?_eq_none_iff {t : Table κ α} {k : κ} : t.get? k = none ↔ k ∉ t.keys := by
  simp only [get?, keys, Option.map_eq_none_iff, List.find?_eq_none, List.mem_map, not_exists,
    not_and, decide_eq_true_eq]

/-- Puts a value under a key, at the end when the key is new. -/
def insert (t : Table κ α) (k : κ) (v : α) : Table κ α :=
  match h : t.get? k with
  | some _ => t.modify k fun _ => v
  | none =>
    { entries := t.entries ++ [(k, v)]
      distinct := by
        have hk := get?_eq_none_iff.mp h
        rw [List.map_append, List.nodup_append]
        refine ⟨t.distinct, by simp, ?_⟩
        rintro a ha b hb rfl
        exact hk (by rw [keys, ← show a = k by simpa using hb]; exact ha) }

@[simp] theorem get?_empty (k : κ) : (empty : Table κ α).get? k = none := rfl

theorem get?_modify (t : Table κ α) (k j : κ) (f : α → α) :
    (t.modify k f).get? j = if j = k then (t.get? j).map f else t.get? j := by
  simp only [get?, modify, List.find?_map]
  have hp : ((fun e : κ × α => decide (e.1 = j)) ∘ fun e => if e.1 = k then (e.1, f e.2) else e) =
      fun e => decide (e.1 = j) := by
    funext e
    simp only [Function.comp_apply]
    split <;> rfl
  rw [hp]
  cases h : t.entries.find? fun e => decide (e.1 = j) with
  | none => simp
  | some e =>
    have : e.1 = j := by simpa using List.find?_some h
    subst this
    by_cases hk : e.1 = k <;> simp [hk]

theorem get?_erase (t : Table κ α) (k j : κ) :
    (t.erase k).get? j = if j = k then none else t.get? j := by
  simp only [get?, erase, List.find?_filter]
  by_cases h : j = k
  · subst h
    simp
  · simp only [h, if_false]
    congr 2
    funext e
    by_cases he : e.1 = j
    · subst he; simp [h]
    · simp [he]

theorem get?_insert (t : Table κ α) (k j : κ) (v : α) :
    (t.insert k v).get? j = if j = k then some v else t.get? j := by
  unfold insert
  split
  · next a h =>
    rw [get?_modify]
    by_cases hj : j = k
    · subst hj; simp [h]
    · simp [hj]
  · next h =>
    simp only [get?, List.find?_append]
    by_cases hj : j = k
    · subst hj
      have : t.entries.find? (fun e => decide (e.1 = j)) = none := by simpa [get?] using h
      simp [this]
    · have hk : ¬ k = j := fun e => hj e.symm
      simp [hj, hk]

@[simp] theorem size_modify (t : Table κ α) (k : κ) (f : α → α) :
    (t.modify k f).size = t.size := by simp [size, modify]

theorem size_insert_of_get?_eq_none {t : Table κ α} {k : κ} (v : α) (h : t.get? k = none) :
    (t.insert k v).size = t.size + 1 := by
  unfold insert
  split
  · next h' => simp [h] at h'
  · simp [size]

end Table
end TensorMemory
