import Mathlib.Data.List.Perm.Basic

/-!
# A ledger of what went through a bounded buffer

Items are consumed from a source and wait in a buffer of bounded length, from whose front they are
handed over; a full buffer drops its oldest item for a new one. A ledger lists what was consumed
and where each item is now. It balances when every consumed item is in exactly one place, and it is
in order when the items handed over, followed by the waiting ones, keep the order of consumption.

## Main definitions

* `Ledger`, `Ledger.Balanced`, `Ledger.InOrder`.
* `Ledger.push`, `Ledger.dropped`: a full buffer drops its oldest item.
* `Ledger.take`, `Ledger.pass`, `Ledger.hand`, `Ledger.lose`: the moves of an item.

## Main results

* `Ledger.Balanced.take` and its companions: every move keeps the balance.
* `Ledger.InOrder.take` and its companions: every move keeps the order, except that of an item which
  passes while others wait.
* `Ledger.Balanced.nothing_missing_iff`: nothing is missing exactly when nothing was lost.
-/

open scoped List

/-- What was consumed, and where it is now. -/
structure Ledger (α : Type) where
  consumed : List α
  handed : List α
  waiting : List α
  evicted : List α
  lost : List α

namespace Ledger

variable {α : Type} {cap : ℕ} {L : Ledger α} {x : α} {xs : List α}

/-- Every consumed item is in exactly one place. -/
def Balanced (L : Ledger α) : Prop :=
  L.consumed.Perm (L.handed ++ L.waiting ++ L.evicted ++ L.lost)

/-- What was handed over and what waits keeps the order of consumption. -/
def InOrder (L : Ledger α) : Prop := (L.handed ++ L.waiting).Sublist L.consumed

/-- An item enters the buffer, which drops its oldest one when it is full. -/
def push (cap : ℕ) (waiting : List α) (x : α) : List α :=
  (if cap ≤ waiting.length then waiting.tail else waiting) ++ [x]

def dropped (cap : ℕ) (waiting : List α) : List α :=
  if cap ≤ waiting.length then waiting.take 1 else []

theorem dropped_append_push (cap : ℕ) (waiting : List α) (x : α) :
    dropped cap waiting ++ push cap waiting x = waiting ++ [x] := by
  unfold dropped push
  by_cases h : cap ≤ waiting.length
  · rw [if_pos h, if_pos h, ← List.append_assoc, ← List.drop_one, List.take_append_drop]
  · rw [if_neg h, if_neg h, List.nil_append]

/-- A consumed item starts to wait. -/
def take (cap : ℕ) (L : Ledger α) (x : α) : Ledger α :=
  { L with
    consumed := L.consumed ++ [x]
    waiting := push cap L.waiting x
    evicted := L.evicted ++ dropped cap L.waiting }

/-- A consumed item is handed over at once. -/
def pass (L : Ledger α) (x : α) : Ledger α :=
  { L with consumed := L.consumed ++ [x], handed := L.handed ++ [x] }

/-- The oldest waiting item is handed over. -/
def hand (L : Ledger α) (x : α) (xs : List α) : Ledger α :=
  { L with handed := L.handed ++ [x], waiting := xs }

/-- The oldest waiting item is gone. -/
def lose (L : Ledger α) (x : α) (xs : List α) : Ledger α :=
  { L with waiting := xs, lost := L.lost ++ [x] }

theorem Balanced.take (h : L.Balanced) (cap : ℕ) (x : α) : (L.take cap x).Balanced := by
  unfold Balanced Ledger.take
  have hpush : (L.waiting ++ [x]).Perm (push cap L.waiting x ++ dropped cap L.waiting) := by
    rw [← dropped_append_push cap L.waiting x]
    exact List.perm_append_comm
  calc L.consumed ++ [x]
    _ ~ L.handed ++ L.waiting ++ L.evicted ++ L.lost ++ [x] := h.append_right [x]
    _ ~ L.handed ++ (L.waiting ++ [x]) ++ L.evicted ++ L.lost := by
      classical simp only [List.perm_iff_count, List.count_append]; omega
    _ ~ L.handed ++ (push cap L.waiting x ++ dropped cap L.waiting) ++ L.evicted ++ L.lost :=
      ((hpush.append_left _).append_right _).append_right _
    _ ~ L.handed ++ push cap L.waiting x ++ (L.evicted ++ dropped cap L.waiting) ++ L.lost := by
      classical simp only [List.perm_iff_count, List.count_append]; omega

theorem Balanced.pass (h : L.Balanced) (x : α) : (L.pass x).Balanced := by
  unfold Balanced Ledger.pass
  refine (h.append_right [x]).trans ?_
  classical simp only [List.perm_iff_count, List.count_append]; omega

theorem Balanced.hand (h : L.Balanced) (hx : L.waiting = x :: xs) : (L.hand x xs).Balanced := by
  unfold Balanced at h ⊢
  rw [hx] at h
  simpa [Ledger.hand] using h

theorem Balanced.lose (h : L.Balanced) (hx : L.waiting = x :: xs) : (L.lose x xs).Balanced := by
  unfold Balanced at h ⊢
  rw [hx] at h
  refine h.trans ?_
  classical simp only [Ledger.lose, List.perm_iff_count, List.count_append, List.count_cons,
    List.count_nil]; omega

/-- A waiting item that leaves the front of the buffer, or joins its end, keeps the order. -/
theorem InOrder.take (h : L.InOrder) (cap : ℕ) (x : α) : (L.take cap x).InOrder := by
  unfold InOrder Ledger.take
  have hpush : (push cap L.waiting x).Sublist (L.waiting ++ [x]) := by
    rw [← dropped_append_push cap L.waiting x]
    exact List.sublist_append_right ..
  calc (L.handed ++ push cap L.waiting x).Sublist (L.handed ++ (L.waiting ++ [x])) :=
      (List.Sublist.refl _).append hpush
    _ = L.handed ++ L.waiting ++ [x] := (List.append_assoc ..).symm
    List.Sublist _ (L.consumed ++ [x]) := h.append (List.Sublist.refl _)

theorem InOrder.hand (h : L.InOrder) (hx : L.waiting = x :: xs) : (L.hand x xs).InOrder := by
  unfold InOrder at h ⊢
  rw [hx] at h
  simpa [Ledger.hand] using h

theorem InOrder.lose (h : L.InOrder) (hx : L.waiting = x :: xs) : (L.lose x xs).InOrder := by
  unfold InOrder at h
  rw [hx] at h
  exact ((List.Sublist.refl _).append (List.sublist_cons_self x xs)).trans h

/-- An item handed over at once keeps the order when no other waits. -/
theorem InOrder.pass (h : L.InOrder) (hw : L.waiting = []) (x : α) : (L.pass x).InOrder := by
  unfold InOrder at h ⊢
  rw [hw, List.append_nil] at h
  simpa [Ledger.pass, hw] using h.append (List.Sublist.refl [x])

/-- Of a ledger that balances, the first three places hold everything exactly when nothing was
lost. -/
theorem Balanced.nothing_missing_iff (h : L.Balanced) :
    L.consumed.Perm (L.handed ++ L.waiting ++ L.evicted) ↔ L.lost = [] := by
  constructor
  · intro h'
    have hlen := (h'.symm.trans h).length_eq
    rw [@List.length_append _ _ L.lost] at hlen
    exact List.length_eq_zero_iff.mp (by omega)
  · intro hlost
    unfold Balanced at h
    rwa [hlost, List.append_nil] at h

end Ledger
