import Mathlib.Data.List.ProdSigma
import Mathlib.Order.Basic

/-!
# Flat rasters

A raster keeps its rows one after another in one list. A loop over the rows and the columns writes
each of its places once.

## Main results

* `Raster.index_inj`: a place has one row and one column.
* `Raster.getElem?_fill`: what a raster holds after the loop.
-/

namespace Raster

/-- Where a raster of the width keeps a place. -/
def index (width row col : ℕ) : ℕ := row * width + col

theorem index_div {width col : ℕ} (row : ℕ) (h : col < width) :
    index width row col / width = row := by
  rw [index, Nat.add_comm, Nat.add_mul_div_right col row (by omega), Nat.div_eq_of_lt h,
    Nat.zero_add]

theorem index_mod {width col : ℕ} (row : ℕ) (h : col < width) :
    index width row col % width = col := by
  rw [index, Nat.add_comm, Nat.add_mul_mod_self_right, Nat.mod_eq_of_lt h]

theorem index_div_mod (width i : ℕ) : index width (i / width) (i % width) = i :=
  Nat.div_add_mod' i width

theorem index_inj {width row row' col col' : ℕ} (h : col < width) (h' : col' < width) :
    index width row col = index width row' col' ↔ row = row' ∧ col = col' := by
  constructor
  · intro heq
    refine ⟨?_, ?_⟩
    · rw [← index_div row h, heq, index_div row' h']
    · rw [← index_mod row h, heq, index_mod row' h']
  · rintro ⟨rfl, rfl⟩
    rfl

theorem index_lt {width height row col : ℕ} (hrow : row < height) (hcol : col < width) :
    index width row col < height * width := by
  have hrows : (row + 1) * width ≤ height * width := Nat.mul_le_mul_right width hrow
  rw [Nat.add_mul, Nat.one_mul] at hrows
  unfold index
  omega

variable {α ι : Type*}

/-- Writing to places that are not asked for changes nothing there. -/
theorem getElem?_foldl_set_of_ne (place : ι → ℕ) {value : ι → α} {k : ℕ} (is : List ι)
    (g : List α) (h : ∀ i ∈ is, place i ≠ k) :
    (is.foldl (fun g i => g.set (place i) (value i)) g)[k]? = g[k]? := by
  induction is generalizing g with
  | nil => rfl
  | cons i is ih =>
    rw [List.foldl_cons, ih _ fun j hj => h j (List.mem_cons_of_mem i hj)]
    exact List.getElem?_set_ne (h i (List.mem_cons_self ..))

theorem length_foldl_set (place : ι → ℕ) {value : ι → α} (is : List ι) (g : List α) :
    (is.foldl (fun g i => g.set (place i) (value i)) g).length = g.length := by
  induction is generalizing g with
  | nil => rfl
  | cons i is ih => rw [List.foldl_cons, ih, List.length_set]

/-- Writing each place once leaves there what was written. -/
theorem getElem?_foldl_set (place : ι → ℕ) {value : ι → α} {j : ι} (is : List ι) (g : List α)
    (hj : j ∈ is) (hlt : place j < g.length) (h : ∀ i ∈ is, place i = place j → i = j) :
    (is.foldl (fun g i => g.set (place i) (value i)) g)[place j]? = some (value j) := by
  induction is generalizing g with
  | nil => simp at hj
  | cons i is ih =>
    rw [List.foldl_cons]
    by_cases hlater : j ∈ is
    · refine ih _ hlater (by rwa [List.length_set]) fun i hi => h i (List.mem_cons_of_mem _ hi)
    · obtain rfl | hj := List.mem_cons.mp hj
      · rw [getElem?_foldl_set_of_ne place is _ fun i hi hplace =>
          hlater (h i (List.mem_cons_of_mem _ hi) hplace ▸ hi)]
        exact List.getElem?_set_self hlt
      · exact absurd hj hlater

/-- The loops over rows and columns: each place of a frame at `(top, left)` gets its value. -/
def fill (width top left rows cols : ℕ) (value : ℕ → ℕ → α) (g : List α) : List α :=
  (List.range rows).foldl (fun g row => (List.range cols).foldl (fun g col =>
    g.set (index width (row + top) (col + left)) (value row col)) g) g

variable {width height top left rows cols : ℕ} {value : ℕ → ℕ → α}

theorem fill_eq (g : List α) : fill width top left rows cols value g =
    (List.range rows ×ˢ List.range cols).foldl (fun g (p : ℕ × ℕ) =>
      g.set (index width (p.1 + top) (p.2 + left)) (value p.1 p.2)) g := by
  show _ = ((List.range rows).flatMap fun row => (List.range cols).map (Prod.mk row)).foldl _ g
  rw [List.foldl_flatMap, fill]
  simp only [List.foldl_map]

@[simp] theorem length_fill (g : List α) :
    (fill width top left rows cols value g).length = g.length := by
  rw [fill_eq]
  exact length_foldl_set (fun p : ℕ × ℕ => index width (p.1 + top) (p.2 + left)) _ g

/-- **What a raster holds after the loops**: inside the frame what was written, outside what it
held before. -/
theorem getElem?_fill {g : List α} (hlength : g.length = height * width)
    (hcols : left + cols ≤ width) {row col : ℕ} (hrow : row < height)
    (hcol : col < width) :
    (fill width top left rows cols value g)[index width row col]? =
      if top ≤ row ∧ row < top + rows ∧ left ≤ col ∧ col < left + cols
      then some (value (row - top) (col - left)) else g[index width row col]? := by
  rw [fill_eq]
  -- two places of the frame are one only if their rows and columns are
  have hplace {r c : ℕ} (hc : c < cols) : index width (r + top) (c + left) =
      index width row col ↔ r + top = row ∧ c + left = col :=
    index_inj (by omega) hcol
  split
  · next hin =>
    obtain ⟨htop, hbottom, hleft, hright⟩ := hin
    have hmem : (row - top, col - left) ∈ List.range rows ×ˢ List.range cols := by
      simp only [List.mem_product, List.mem_range]
      omega
    have hhere : index width (row - top + top) (col - left + left) = index width row col := by
      rw [Nat.sub_add_cancel htop, Nat.sub_add_cancel hleft]
    rw [← hhere]
    refine getElem?_foldl_set (fun p => index width (p.1 + top) (p.2 + left)) _ g hmem ?_ ?_
    · rw [hhere, hlength]
      exact index_lt hrow hcol
    · rintro ⟨r, c⟩ hp heq
      obtain ⟨-, hc⟩ := List.mem_product.mp hp
      obtain ⟨rfl, rfl⟩ := (hplace (List.mem_range.mp hc)).mp (heq.trans hhere)
      simp
  · next hout =>
    refine getElem?_foldl_set_of_ne (fun p : ℕ × ℕ => index width (p.1 + top) (p.2 + left)) _ g ?_
    rintro ⟨r, c⟩ hp heq
    obtain ⟨hr, hc⟩ := List.mem_product.mp hp
    rw [List.mem_range] at hr hc
    obtain ⟨rfl, rfl⟩ := (hplace hc).mp heq
    omega

end Raster
