import Mathlib.Data.List.DropRight
import Mathlib.Data.List.Sort
import Mathlib.Order.Lattice

/-!
# The most recent entries

A list in the order of its times is sorted with the latest entry first, and its first entries are
taken. Sorting is stable: entries of one time keep their order, which is the wrong one when the last
entry is to come first. The entries that are taken are the last ones of the list, in reverse, as
long as none of these shares its time with another.

## Main results

* `Recent.insertionSort_append`: what is above all else is sorted by itself.
* `Recent.take_insertionSort_iff`: when the first entries are the last ones of the list.
-/

namespace Recent

variable {α β : Type}

/-! ### Sorting -/

theorem orderedInsert_append {r : α → α → Prop} [DecidableRel r] {a : α} {xs : List α}
    (h : ∀ b ∈ xs, ¬r a b) (ys : List α) :
    (xs ++ ys).orderedInsert r a = xs ++ ys.orderedInsert r a := by
  induction xs with
  | nil => rfl
  | cons x xs ih =>
    rw [List.cons_append, List.orderedInsert_of_not_le _ _ (h x List.mem_cons_self),
      ih fun b hb => h b (List.mem_cons_of_mem x hb), List.cons_append]

/-- Entries that no earlier entry may precede are sorted by themselves, and come first. -/
theorem insertionSort_append {r : α → α → Prop} [DecidableRel r] {pre : List α} {l : List α}
    (h : ∀ a ∈ pre, ∀ b ∈ l, ¬r a b) :
    (pre ++ l).insertionSort r = l.insertionSort r ++ pre.insertionSort r := by
  induction pre with
  | nil => rw [List.nil_append, List.insertionSort_nil, List.append_nil]
  | cons a pre ih =>
    have hl : ∀ b ∈ l.insertionSort r, ¬r a b := fun b hb =>
      h a List.mem_cons_self b ((List.mem_insertionSort r).mp hb)
    rw [List.cons_append, List.insertionSort_cons, List.insertionSort_cons,
      ih fun a' ha' => h a' (List.mem_cons_of_mem a ha'), orderedInsert_append hl]

/-- Where no entry may precede a later one, sorting reverses. -/
theorem insertionSort_eq_reverse {r : α → α → Prop} [DecidableRel r] {l : List α}
    (h : l.Pairwise fun a b => ¬r a b) : l.insertionSort r = l.reverse := by
  induction l with
  | nil => rfl
  | cons a l ih =>
    obtain ⟨hhead, htail⟩ := List.pairwise_cons.mp h
    have hfirst : ∀ a' ∈ [a], ∀ b ∈ l, ¬r a' b := fun a' ha' => List.mem_singleton.mp ha' ▸ hhead
    calc (a :: l).insertionSort r = l.insertionSort r ++ [a].insertionSort r :=
          insertionSort_append hfirst
      _ = l.reverse ++ [a] := by rw [ih htail]; rfl
      _ = (a :: l).reverse := List.reverse_cons.symm

/-! ### Pairs -/

/-- Two entries that come one after the other do not come in the other order too. -/
theorem not_pair_sublist {a b : α} {l : List α} (hl : l.Nodup) (h : [a, b].Sublist l) :
    ¬[b, a].Sublist l := by
  intro h'
  obtain ⟨before, after, rfl, ha, hb⟩ := List.cons_sublist_iff.mp h
  obtain ⟨before', after', heq, hb', ha'⟩ := List.cons_sublist_iff.mp h'
  rw [List.singleton_sublist] at hb ha'
  have hdisjoint := List.disjoint_of_nodup_append hl
  obtain ⟨c, rfl, rfl⟩ | ⟨c, rfl, rfl⟩ := List.append_eq_append_iff.mp heq
  · exact hdisjoint ha (List.mem_append_right c ha')
  · exact hdisjoint (List.mem_append_left c hb') hb

/-- What comes after an entry of the end of a list is in the end, too. -/
theorem pair_sublist_append {a b : α} {xs ys : List α} (hnodup : (xs ++ ys).Nodup) (ha : a ∈ ys)
    (h : [a, b].Sublist (xs ++ ys)) : [a, b].Sublist ys := by
  have hdisjoint := List.disjoint_of_nodup_append hnodup
  obtain ⟨l₁, l₂, heq, hl₁, hl₂⟩ := List.sublist_append_iff.mp h
  cases l₁ with
  | nil => rwa [heq]
  | cons c l₁ =>
    obtain rfl := (List.cons.inj heq).1
    exact absurd ha (hdisjoint (hl₁.subset List.mem_cons_self))

/-- What comes before an entry of the beginning of a list is in the beginning, too. -/
theorem pair_sublist_take {a b : α} {xs ys : List α} (hnodup : (xs ++ ys).Nodup) (hb : b ∈ xs)
    (h : [a, b].Sublist (xs ++ ys)) : [a, b].Sublist xs := by
  rw [← List.reverse_sublist, List.reverse_append] at h
  have hnodup' : (ys.reverse ++ xs.reverse).Nodup := by
    rw [← List.reverse_append, List.nodup_reverse]
    exact hnodup
  have hlast := pair_sublist_append hnodup' (List.mem_reverse.mpr hb) h
  exact List.reverse_sublist.mp hlast

theorem pair_sublist_of_ne {a b : α} {l : List α} (ha : a ∈ l) (hb : b ∈ l) (hne : a ≠ b) :
    [a, b].Sublist l ∨ [b, a].Sublist l := by
  obtain ⟨before, after, rfl⟩ := List.append_of_mem ha
  obtain hb | hb := List.mem_append.mp hb
  · refine .inr (List.cons_sublist_iff.mpr ⟨before, a :: after, rfl, hb, ?_⟩)
    exact List.singleton_sublist.mpr List.mem_cons_self
  · obtain rfl | hb := List.mem_cons.mp hb
    · exact absurd rfl hne
    · refine .inl ((List.Sublist.cons_cons a (List.singleton_sublist.mpr hb)).trans ?_)
      exact List.sublist_append_right before (a :: after)

/-! ### The last entries -/

variable [LinearOrder β] {time : α → β} {l : List α} {k : ℕ}

/-- If the first entries are the last of the list, none of them has the time of an entry before it:
the two would be sorted in the order of the list, and reversed they are in the other. -/
theorem ne_time_of_take (hnodup : l.Nodup)
    (htake : (l.insertionSort fun a b => time b ≤ time a).take k = l.reverse.take k) {a b : α}
    (hab : [a, b].Sublist l) (hb : b ∈ l.rtake k) : time a ≠ time b := by
  intro htime
  let later (a b : α) : Prop := time b ≤ time a
  have : Std.Total later := ⟨fun a b => le_total (time b) (time a)⟩
  have : IsTrans α later := ⟨fun a b c hab hbc => le_trans hbc hab⟩
  have hsorted : [a, b].Sublist (l.insertionSort later) :=
    List.pair_sublist_insertionSort (le_of_eq htime.symm) hab
  have htaken : b ∈ (l.insertionSort later).take k := by
    rw [htake, ← List.mem_reverse, ← List.rtake_eq_reverse_take_reverse]
    exact hb
  have hnodup' : (l.insertionSort later).Nodup :=
    (List.perm_insertionSort later l).nodup_iff.mpr hnodup
  rw [← List.take_append_drop k (l.insertionSort later)] at hsorted hnodup'
  have hboth := pair_sublist_take hnodup' htaken hsorted
  rw [htake] at hboth
  have hreverse : [a, b].Sublist l.reverse := hboth.trans (List.take_sublist k _)
  exact not_pair_sublist hnodup hab (List.reverse_sublist.mp (by simpa using hreverse))

/-- **The entries that come first when the latest are sorted to the front are the last of the list
exactly when none of these shares its time with another.** -/
theorem take_insertionSort_iff (hnodup : l.Nodup) (hsorted : l.Pairwise fun a b => time a ≤ time b)
    (k : ℕ) : (l.insertionSort fun a b => time b ≤ time a).take k = l.reverse.take k ↔
      ∀ b ∈ l.rtake k, ∀ a ∈ l, time a = time b → a = b := by
  constructor
  · intro htake b hb a ha htime
    have hmem : b ∈ l := List.mem_of_mem_drop hb
    by_contra hne
    obtain hab | hba := pair_sublist_of_ne ha hmem hne
    · exact ne_time_of_take hnodup htake hab hb htime
    · have hend : [b, a].Sublist (l.rtake k) := by
        have hsplit := List.take_append_drop (l.length - k) l
        rw [← hsplit] at hnodup hba
        exact pair_sublist_append hnodup hb hba
      exact ne_time_of_take hnodup htake hba (hend.subset (by simp)) htime.symm
  · intro hapart
    let pre := l.take (l.length - k)
    have hsplit : pre ++ l.rtake k = l := List.take_append_drop (l.length - k) l
    have hbefore : ∀ a ∈ pre, ∀ b ∈ l.rtake k, ¬time b ≤ time a := by
      rw [← hsplit] at hsorted hnodup
      rintro a ha b hb hle
      have htime := le_antisymm ((List.pairwise_append.mp hsorted).2.2 a ha b hb) hle
      have hmem : a ∈ l := List.mem_of_mem_take ha
      exact List.disjoint_of_nodup_append hnodup ha (hapart b hb a hmem htime ▸ hb)
    have hend : (l.rtake k).Pairwise fun a b => ¬time b ≤ time a := by
      have hsub : (l.rtake k).Sublist l := List.drop_sublist _ l
      refine ((hsorted.and hnodup).sublist hsub).imp_of_mem ?_
      rintro a b ha hb ⟨hle, hne⟩ hle'
      exact hne (hapart b hb a (hsub.subset ha) (le_antisymm hle hle'))
    have hsort : (l.insertionSort fun a b => time b ≤ time a) =
        (l.rtake k).reverse ++ pre.insertionSort fun a b => time b ≤ time a := by
      rw [← insertionSort_eq_reverse hend, ← insertionSort_append hbefore, hsplit]
    have hreverse : l.reverse = (l.rtake k).reverse ++ pre.reverse := by
      rw [← List.reverse_append, hsplit]
    rw [hsort, hreverse]
    by_cases hk : k ≤ l.length
    · have hlength : (l.rtake k).reverse.length = k := by
        rw [List.length_reverse, List.rtake, List.length_drop]
        omega
      rw [List.take_left' hlength, List.take_left' hlength]
    · have hpre : pre = [] := by
        show l.take (l.length - k) = []
        rw [Nat.sub_eq_zero_of_le (by omega), List.take_zero]
      rw [hpre, List.insertionSort_nil, List.reverse_nil]

end Recent
