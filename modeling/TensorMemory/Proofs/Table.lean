import Mathlib.Algebra.GroupWithZero.Nat
import Mathlib.Data.List.Nodup
import TensorMemory.Table

/-!
Laws of tables beyond the view. A table is its entries in order, so an operation that undoes another
gives back the very same table, not only one with the same view: an absent key that is put in and
erased again leaves no trace (`erase_insert`).
-/

namespace TensorMemory.Table

variable {κ α : Type} [DecidableEq κ]

omit [DecidableEq κ] in
theorem eq_of_entries {s t : Table κ α} (h : s.entries = t.entries) : s = t := by
  cases s
  cases t
  cases h
  rfl

theorem get?_eq_some_iff {t : Table κ α} {k : κ} {v : α} :
    t.get? k = some v ↔ (k, v) ∈ t.entries := by
  simp only [get?, Option.map_eq_some_iff]
  constructor
  · rintro ⟨e, he, rfl⟩
    have hk : e.1 = k := by simpa using List.find?_some he
    subst hk
    exact List.mem_of_find?_eq_some he
  · intro hm
    cases hf : t.entries.find? (fun e => decide (e.1 = k)) with
    | none => simpa using List.find?_eq_none.mp hf _ hm
    | some e =>
      have hk : e.1 = k := by simpa using List.find?_some hf
      have he : e = (k, v) :=
        List.inj_on_of_nodup_map t.distinct (List.mem_of_find?_eq_some hf) hm hk
      exact ⟨e, rfl, by rw [he]⟩

theorem contains_iff {t : Table κ α} {k : κ} : t.contains k = true ↔ ∃ v, t.get? k = some v :=
  Option.isSome_iff_exists

theorem contains_eq_false_iff {t : Table κ α} {k : κ} :
    t.contains k = false ↔ t.get? k = none := by
  rw [contains, Option.isSome_eq_false_iff, Option.isNone_iff_eq_none]

theorem mem_keys_iff {t : Table κ α} {k : κ} : k ∈ t.keys ↔ ∃ v, t.get? k = some v := by
  simp only [keys, List.mem_map, get?_eq_some_iff, Prod.exists, exists_and_right, exists_eq_right]

theorem any_iff {t : Table κ α} {p : κ → α → Bool} :
    t.any p = true ↔ ∃ k v, t.get? k = some v ∧ p k v = true := by
  simp only [any, List.any_eq_true, Prod.exists, get?_eq_some_iff]

/-! ## Operations that undo one another -/

theorem entries_modify (t : Table κ α) (k : κ) (f : α → α) :
    (t.modify k f).entries = t.entries.map fun e => if e.1 = k then (e.1, f e.2) else e := rfl

theorem entries_erase (t : Table κ α) (k : κ) :
    (t.erase k).entries = t.entries.filter (·.1 ≠ k) := rfl

theorem entries_insert {t : Table κ α} {k : κ} (v : α) (h : t.get? k = none) :
    (t.insert k v).entries = t.entries ++ [(k, v)] := by
  unfold insert
  split
  · next h' => rw [h] at h'; cases h'
  · rfl

theorem ne_of_mem {t : Table κ α} {k : κ} (h : t.get? k = none) {e : κ × α} (he : e ∈ t.entries) :
    e.1 ≠ k := by
  rintro rfl
  exact get?_eq_none_iff.mp h (List.mem_map_of_mem he)

theorem erase_of_absent {t : Table κ α} {k : κ} (h : t.get? k = none) : t.erase k = t := by
  apply eq_of_entries
  apply List.filter_eq_self.mpr
  intro e he
  simpa using ne_of_mem h he

theorem erase_insert {t : Table κ α} {k : κ} (v : α) (h : t.get? k = none) :
    (t.insert k v).erase k = t := by
  apply eq_of_entries
  have hf := congrArg Table.entries (erase_of_absent h)
  rw [entries_erase] at hf
  rw [entries_erase, entries_insert v h, List.filter_append, hf]
  simp

theorem erase_modify_comm (t : Table κ α) (j k : κ) (f : α → α) :
    (t.modify k f).erase j = (t.erase j).modify k f := by
  apply eq_of_entries
  rw [entries_erase, entries_modify, entries_modify, entries_erase, List.filter_map]
  congr 1
  apply List.filter_congr
  intro e _
  simp only [Function.comp_apply]
  split <;> rfl

theorem erase_insert_of_ne (t : Table κ α) {j k : κ} (v : α) (hjk : j ≠ k) :
    (t.insert k v).erase j = (t.erase j).insert k v := by
  have hg : (t.erase j).get? k = t.get? k := by rw [get?_erase, if_neg (Ne.symm hjk)]
  cases h : t.get? k with
  | some w =>
    have hi (s : Table κ α) (hs : s.get? k = some w) : s.insert k v = s.modify k fun _ => v := by
      unfold insert
      split
      · rfl
      · next h' => rw [hs] at h'; cases h'
    rw [hi t h, hi _ (hg.trans h), erase_modify_comm]
  | none =>
    apply eq_of_entries
    rw [entries_insert v (hg.trans h), entries_erase, entries_insert v h, List.filter_append,
      entries_erase]
    simp [Ne.symm hjk]

theorem modify_insert {t : Table κ α} {k : κ} (v : α) (f : α → α) (h : t.get? k = none) :
    (t.insert k v).modify k f = t.insert k (f v) := by
  apply eq_of_entries
  rw [entries_modify, entries_insert v h, entries_insert (f v) h, List.map_append]
  congr 1
  · conv => rhs; rw [← List.map_id t.entries]
    apply List.map_congr_left
    intro e he
    exact if_neg (ne_of_mem h he)
  · simp

theorem modify_modify (t : Table κ α) (k : κ) (f g : α → α) :
    (t.modify k f).modify k g = t.modify k (g ∘ f) := by
  apply eq_of_entries
  simp only [modify, List.map_map]
  congr 1
  funext e
  by_cases he : e.1 = k <;> simp [he]

theorem contains_modify (t : Table κ α) (k j : κ) (f : α → α) :
    (t.modify k f).contains j = t.contains j := by
  rw [contains, contains, get?_modify]
  split
  · exact Option.isSome_map
  · rfl

/-- A modification that keeps the one value it meets keeps the table. -/
theorem modify_eq_self {t : Table κ α} {k : κ} {f : α → α} (h : ∀ v, t.get? k = some v → f v = v) :
    t.modify k f = t := by
  apply eq_of_entries
  rw [entries_modify]
  conv => rhs; rw [← List.map_id t.entries]
  apply List.map_congr_left
  intro e he
  by_cases hk : e.1 = k
  · subst hk
    rw [if_pos rfl, h e.2 (get?_eq_some_iff.mpr he)]
    rfl
  · rw [if_neg hk]
    rfl

/-- What is modified and erased could as well be erased at once. -/
theorem erase_modify_self (t : Table κ α) (k : κ) (f : α → α) :
    (t.modify k f).erase k = t.erase k := by
  rw [erase_modify_comm]
  refine modify_eq_self fun u hu => ?_
  rw [get?_erase, if_pos rfl] at hu
  cases hu

@[simp] theorem keys_modify (t : Table κ α) (k : κ) (f : α → α) :
    (t.modify k f).keys = t.keys := by
  simp only [keys, modify, List.map_map]
  apply List.map_congr_left
  intro e _
  simp only [Function.comp_apply]
  split <;> rfl

omit [DecidableEq κ] in
theorem length_keys (t : Table κ α) : t.keys.length = t.size := List.length_map _

theorem size_erase_of_get?_eq_some {t : Table κ α} {k : κ} {v : α} (h : t.get? k = some v) :
    (t.erase k).size + 1 = t.size := by
  have hm : k ∈ t.keys := mem_keys_iff.mpr ⟨v, h⟩
  have hk : (t.erase k).keys = t.keys.erase k := by
    have hn : t.keys.Nodup := t.distinct
    rw [hn.erase_eq_filter, keys, keys, entries_erase, List.filter_map]
    congr 1
    apply List.filter_congr
    intro e _
    simp [bne, beq_eq_decide]
  rw [← length_keys, ← length_keys, hk, List.length_erase_of_mem hm]
  exact Nat.sub_add_cancel (List.length_pos_of_mem hm)

/-! ## Sums over the entries -/

/-- The entry of a key, between entries of other keys. -/
theorem entries_of_get? {t : Table κ α} {k : κ} {v : α} (h : t.get? k = some v) :
    ∃ xs ys, t.entries = xs ++ (k, v) :: ys ∧ ∀ e ∈ xs ++ ys, e.1 ≠ k := by
  obtain ⟨xs, ys, he⟩ := List.append_of_mem (get?_eq_some_iff.mp h)
  have hd := t.distinct
  rw [he, List.map_append, List.map_cons, List.nodup_middle, ← List.map_append,
    List.nodup_cons] at hd
  exact ⟨xs, ys, he, fun e hm hk => hd.1 (List.mem_map.mpr ⟨e, hm, hk⟩)⟩

def total (t : Table κ α) (f : α → Nat) : Nat := (t.entries.map fun e => f e.2).sum

theorem total_insert {t : Table κ α} {k : κ} (h : t.get? k = none) (v : α) (f : α → Nat) :
    (t.insert k v).total f = t.total f + f v := by
  simp [total, entries_insert v h]

theorem total_erase {t : Table κ α} {k : κ} {v : α} (h : t.get? k = some v) (f : α → Nat) :
    (t.erase k).total f + f v = t.total f := by
  obtain ⟨xs, ys, he, hk⟩ := entries_of_get? h
  have hrest : (t.erase k).entries = xs ++ ys := by
    have hkept : (xs ++ ys).filter (fun e => e.1 ≠ k) = xs ++ ys :=
      List.filter_eq_self.mpr fun e hm => by simpa using hk e hm
    rw [entries_erase, he, ← hkept]
    simp
  simp only [total, hrest, he, List.map_append, List.map_cons, List.sum_append, List.sum_cons]
  omega

theorem total_modify {t : Table κ α} {k : κ} {v : α} (h : t.get? k = some v) (w : α)
    (f : α → Nat) : (t.modify k fun _ => w).total f + f v = t.total f + f w := by
  have hw : (t.modify k fun _ => w).get? k = some w := by rw [get?_modify, if_pos rfl, h]; rfl
  rw [← total_erase hw, ← total_erase h, erase_modify_self]
  omega

/-! ## Many entries at once -/

def insertAll (t : Table κ α) (es : List (κ × α)) : Table κ α :=
  es.foldl (fun t e => t.insert e.1 e.2) t

@[simp] theorem insertAll_nil (t : Table κ α) : t.insertAll [] = t := rfl

@[simp] theorem insertAll_cons (t : Table κ α) (e : κ × α) (es : List (κ × α)) :
    t.insertAll (e :: es) = (t.insert e.1 e.2).insertAll es := rfl

theorem insertAll_append (t : Table κ α) (es es' : List (κ × α)) :
    t.insertAll (es ++ es') = (t.insertAll es).insertAll es' := List.foldl_append

theorem get?_insertAll_of_notMem (t : Table κ α) {es : List (κ × α)} {k : κ}
    (h : k ∉ es.map Prod.fst) : (t.insertAll es).get? k = t.get? k := by
  induction es generalizing t with
  | nil => rfl
  | cons e es ih =>
    rw [List.map_cons, List.mem_cons, not_or] at h
    rw [insertAll_cons, ih _ h.2, get?_insert, if_neg h.1]

/-- An entry of the table is one of those put in or was there before. -/
theorem mem_of_get?_insertAll {t : Table κ α} {es : List (κ × α)} {k : κ} {v : α}
    (h : (t.insertAll es).get? k = some v) : t.get? k = some v ∨ (k, v) ∈ es := by
  induction es generalizing t with
  | nil => exact .inl h
  | cons e es ih =>
    rcases ih h with h | h
    · rw [get?_insert] at h
      split at h
      · next hk =>
        cases h
        exact .inr (hk ▸ List.mem_cons_self ..)
      · exact .inl h
    · exact .inr (List.mem_cons_of_mem _ h)

theorem exists_get?_insertAll {t : Table κ α} {es : List (κ × α)} {k : κ} :
    (∃ v, (t.insertAll es).get? k = some v) ↔ (∃ v, t.get? k = some v) ∨ ∃ e ∈ es, k = e.1 := by
  induction es generalizing t with
  | nil => simp
  | cons e es ih =>
    rw [insertAll_cons, ih, get?_insert]
    by_cases hk : k = e.1 <;> simp [hk]

theorem erase_insertAll (t : Table κ α) {es : List (κ × α)} {k : κ} (h : k ∉ es.map Prod.fst) :
    (t.insertAll es).erase k = (t.erase k).insertAll es := by
  induction es generalizing t with
  | nil => rfl
  | cons e es ih =>
    rw [List.map_cons, List.mem_cons, not_or] at h
    rw [insertAll_cons, ih _ h.2, insertAll_cons, erase_insert_of_ne _ _ h.1]

end TensorMemory.Table
