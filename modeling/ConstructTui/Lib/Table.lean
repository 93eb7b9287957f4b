import Mathlib.Data.List.Basic
import Mathlib.Data.List.Nodup

/-!
# Keyed tables

A table is a list of rows, in the order of their insertion, no two of which share a key. The
insertions are those of SQL: `INSERT OR IGNORE` leaves a table that has the key alone, and
`INSERT OR REPLACE` deletes the old row and inserts the new one behind all others. A hash map is a
table of pairs keyed by their first component.

## Main definitions

* `Table`, with `Table.find?`, `Table.insertOrIgnore`, `Table.insertOrReplace`,
  `Table.deleteWhere`, `Table.update`.
* `Table.ListedBy`: the lists of the keys of a table.

## Main results

* `Table.find?_eq_some_iff`: looking a key up finds the row that has it.
* `Table.find?_insertOrReplace_self`, `Table.find?_insertOrReplace_of_ne`,
  `Table.find?_deleteWhere_key_self`, `Table.find?_deleteWhere_key_of_ne`: what an operation does to
  each key.
* `Table.ListedBy.insertOrReplace`, `Table.ListedBy.deleteWhere_key`: how a list of the keys follows
  the table.
-/

/-- Rows in insertion order, no two of which share a key. -/
structure Table {κ α : Type} (key : α → κ) where
  rows : List α
  nodup : (rows.map key).Nodup

namespace Table

variable {κ α : Type} {key : α → κ}

@[ext] theorem ext {t u : Table key} (h : t.rows = u.rows) : t = u := by
  cases t
  cases u
  cases h
  rfl

/-- The table without rows. -/
def empty : Table key := ⟨[], List.nodup_nil⟩

/-- Delete the rows that satisfy `p`. -/
def deleteWhere (p : α → Bool) (t : Table key) : Table key where
  rows := t.rows.filter fun x => !p x
  nodup := t.nodup.sublist (List.filter_sublist.map key)

/-- Rewrite every row, leaving the keys as they are. -/
def update (f : α → α) (hf : ∀ x, key (f x) = key x) (t : Table key) : Table key where
  rows := t.rows.map f
  nodup := by
    rw [List.map_map, show key ∘ f = key from funext hf]
    exact t.nodup

@[simp] theorem mem_deleteWhere {p : α → Bool} {t : Table key} {x : α} :
    x ∈ (t.deleteWhere p).rows ↔ x ∈ t.rows ∧ p x = false := by
  simp [deleteWhere]

/-- The list names the key of every row, each once, and nothing else. -/
structure ListedBy (t : Table key) (ks : List κ) : Prop where
  nodup : ks.Nodup
  mem_iff : ∀ k, k ∈ ks ↔ ∃ x ∈ t.rows, key x = k

theorem listedBy_of_perm {t : Table key} {ks : List κ} (h : ks.Perm (t.rows.map key)) :
    t.ListedBy ks :=
  ⟨h.nodup_iff.mpr t.nodup, fun _ => h.mem_iff.trans List.mem_map⟩

section Keys

variable [DecidableEq κ]

/-- The row with the key `k`. -/
def find? (t : Table key) (k : κ) : Option α := t.rows.find? fun x => key x = k

/-- Insert a row unless its key is taken. -/
def insertOrIgnore (x : α) (t : Table key) : Table key :=
  if h : key x ∈ t.rows.map key then t
  else ⟨t.rows ++ [x], by
    rw [List.map_append, List.map_singleton, List.nodup_append]
    refine ⟨t.nodup, List.nodup_singleton _, fun a ha b hb hab => h ?_⟩
    rwa [← List.mem_singleton.mp hb, ← hab]⟩

/-- Insert a row, deleting the one that had its key. -/
def insertOrReplace (x : α) (t : Table key) : Table key where
  rows := (t.deleteWhere fun y => key y = key x).rows ++ [x]
  nodup := by
    rw [List.map_append, List.map_singleton, List.nodup_append]
    refine ⟨(t.deleteWhere _).nodup, List.nodup_singleton _, fun a ha b hb hab => ?_⟩
    obtain ⟨y, hy, rfl⟩ := List.mem_map.mp ha
    have hne := (mem_deleteWhere.mp hy).2
    rw [List.mem_singleton.mp hb] at hab
    simp [hab] at hne

theorem find?_eq_some_iff {t : Table key} {k : κ} {x : α} :
    t.find? k = some x ↔ x ∈ t.rows ∧ key x = k := by
  constructor
  · intro h
    exact ⟨List.mem_of_find?_eq_some h, by simpa using List.find?_some h⟩
  · rintro ⟨hx, rfl⟩
    cases hf : t.find? (key x) with
    | none => simpa using List.find?_eq_none.mp hf x hx
    | some y =>
      have hy : key y = key x := by simpa using List.find?_some hf
      exact congrArg some (List.inj_on_of_nodup_map t.nodup (List.mem_of_find?_eq_some hf) hx hy)

theorem find?_eq_none_iff {t : Table key} {k : κ} :
    t.find? k = none ↔ ∀ x ∈ t.rows, key x ≠ k := by
  simp [find?]

theorem mem_insertOrIgnore {t : Table key} {x y : α} :
    y ∈ (t.insertOrIgnore x).rows ↔ y ∈ t.rows ∨ y = x ∧ key x ∉ t.rows.map key := by
  unfold insertOrIgnore
  split_ifs with h
  · simp [h]
  · simp [h]

theorem mem_insertOrReplace {t : Table key} {x y : α} :
    y ∈ (t.insertOrReplace x).rows ↔ y ∈ t.rows ∧ key y ≠ key x ∨ y = x := by
  simp [insertOrReplace]

@[simp] theorem find?_empty (k : κ) : (empty : Table key).find? k = none := rfl

@[simp] theorem find?_insertOrReplace_self (t : Table key) (x : α) :
    (t.insertOrReplace x).find? (key x) = some x :=
  find?_eq_some_iff.mpr ⟨mem_insertOrReplace.mpr (Or.inr rfl), rfl⟩

theorem find?_insertOrReplace_of_ne {t : Table key} {x : α} {k : κ} (h : key x ≠ k) :
    (t.insertOrReplace x).find? k = t.find? k := by
  refine Option.ext fun y => ?_
  simp only [find?_eq_some_iff, mem_insertOrReplace]
  grind

theorem find?_deleteWhere_key_self (t : Table key) (k : κ) :
    (t.deleteWhere fun y => key y = k).find? k = none :=
  find?_eq_none_iff.mpr fun y hy => by simpa using (mem_deleteWhere.mp hy).2

theorem find?_deleteWhere_key_of_ne {t : Table key} {k k' : κ} (h : k' ≠ k) :
    (t.deleteWhere fun y => key y = k').find? k = t.find? k := by
  refine Option.ext fun y => ?_
  simp only [find?_eq_some_iff, mem_deleteWhere, decide_eq_false_iff_not]
  grind

/-- A new row is listed behind the others. -/
theorem ListedBy.insertOrReplace {t : Table key} {ks : List κ} (h : t.ListedBy ks) {x : α}
    (hx : key x ∉ ks) : (t.insertOrReplace x).ListedBy (ks ++ [key x]) where
  nodup := by
    rw [← List.concat_eq_append]
    exact h.nodup.concat hx
  mem_iff k := by
    rw [List.mem_append, List.mem_singleton, h.mem_iff]
    constructor
    · rintro (⟨y, hy, rfl⟩ | rfl)
      · refine ⟨y, mem_insertOrReplace.mpr (.inl ⟨hy, fun hxy => hx ?_⟩), rfl⟩
        exact (h.mem_iff _).mpr ⟨y, hy, hxy⟩
      · exact ⟨x, mem_insertOrReplace.mpr (.inr rfl), rfl⟩
    · rintro ⟨y, hy, rfl⟩
      obtain ⟨hy, -⟩ | rfl := mem_insertOrReplace.mp hy
      · exact .inl ⟨y, hy, rfl⟩
      · exact .inr rfl

/-- A deleted key is taken off the list. -/
theorem ListedBy.deleteWhere_key {t : Table key} {ks : List κ} (h : t.ListedBy ks) (k : κ) :
    (t.deleteWhere fun y => key y = k).ListedBy (ks.erase k) where
  nodup := h.nodup.erase k
  mem_iff k' := by
    rw [h.nodup.mem_erase_iff, h.mem_iff]
    constructor
    · rintro ⟨hne, y, hy, rfl⟩
      exact ⟨y, mem_deleteWhere.mpr ⟨hy, by simpa using hne⟩, rfl⟩
    · rintro ⟨y, hy, rfl⟩
      obtain ⟨hy, hne⟩ := mem_deleteWhere.mp hy
      exact ⟨by simpa using hne, y, hy, rfl⟩

end Keys

end Table
