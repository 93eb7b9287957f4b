import ConstructTui.Lib.Run
import Mathlib.Data.List.Infix
import Mathlib.Data.List.Count

/-!
# First in, first out

A channel of a machine: what it holds is a list, elements go in at the back, and each step that
takes from it removes the one at the front. So the place an element has when it goes in says after
how many of these steps it is its turn.

## Main definitions

* `Run.Fifo`: a channel of a machine, in the states that an invariant holds of.
* `Run.Gets`: the run takes the element at a place.
* `Run.output`: what the steps of a run put out.
* `Run.Founded`: each element has its ground in those before it.

## Main results

* `Run.Fifo.after`, `Run.Fifo.head`: what is left of the channel after a run.
* `Run.Fifo.gets_iff`: an element is taken once enough steps take from the channel.
* `Run.output_invariant`: an invariant over what has been put out.
-/

namespace Run

variable {S A M : Type*}

/-- In the states of an invariant, a step removes what it takes and adds at the back. -/
structure Fifo (step : S → A → Option S) (I : S → Prop) (chan : S → List M) (takes : A → Bool) :
    Prop where
  keeps : ∀ s a s', I s → step s a = some s' → I s'
  drops : ∀ s a s', I s → step s a = some s' → (chan s).drop ([a].countP takes) <+: chan s'

/-- The run takes the element that is at the place `n` of the channel when it starts: it is `m`. -/
def Gets (step : S → A → Option S) (chan : S → List M) (takes : A → Bool) (s : S) (as : List A)
    (n : ℕ) (m : M) : Prop :=
  ∃ bs a cs t, as = bs ++ a :: cs ∧ bs.countP takes = n ∧ takes a = true ∧
    after step s bs = some t ∧ (chan t).head? = some m

/-- Of more than `n` elements with a property, one has `n` before it. -/
theorem exists_taken {takes : A → Bool} {as : List A} {n : ℕ} (h : n < as.countP takes) :
    ∃ bs a cs, as = bs ++ a :: cs ∧ bs.countP takes = n ∧ takes a = true := by
  induction as generalizing n with
  | nil => exact absurd h (Nat.not_lt_zero n)
  | cons a as ih =>
    by_cases ha : takes a = true
    · cases n with
      | zero => exact ⟨[], a, as, rfl, rfl, ha⟩
      | succ n =>
        rw [List.countP_cons_of_pos ha, Nat.succ_lt_succ_iff] at h
        obtain ⟨bs, b, cs, rfl, hn, hb⟩ := ih h
        exact ⟨a :: bs, b, cs, rfl, by rw [List.countP_cons_of_pos ha, hn], hb⟩
    · rw [List.countP_cons_of_neg ha] at h
      obtain ⟨bs, b, cs, rfl, hn, hb⟩ := ih h
      exact ⟨a :: bs, b, cs, rfl, by rw [List.countP_cons_of_neg ha, hn], hb⟩

theorem Gets.lt_countP {step : S → A → Option S} {chan : S → List M} {takes : A → Bool} {s : S}
    {as : List A} {n : ℕ} {m : M} (h : Gets step chan takes s as n m) : n < as.countP takes := by
  obtain ⟨bs, a, cs, -, rfl, rfl, ha, -, -⟩ := h
  rw [List.countP_append, List.countP_cons_of_pos ha]
  omega

namespace Fifo

variable {step : S → A → Option S} {I : S → Prop} {chan : S → List M} {takes : A → Bool}
  (h : Fifo step I chan takes) {s t : S} {as : List A} {n : ℕ} {m : M}

include h

/-- What has not been taken is at the front. -/
theorem after (hs : I s) (ht : Run.after step s as = some t) :
    (chan s).drop (as.countP takes) <+: chan t := by
  induction as generalizing s with
  | nil =>
    obtain rfl := Option.some.inj ht
    exact List.prefix_rfl
  | cons a as ih =>
    obtain ⟨u, hu, ht⟩ := after_cons ht
    have hfirst : ((chan s).drop ([a].countP takes)).drop (as.countP takes) <+:
        (chan u).drop (as.countP takes) := (h.drops s a u hs hu).drop _
    rw [List.drop_drop, ← List.countP_append, List.singleton_append] at hfirst
    exact hfirst.trans (ih (h.keeps s a u hs hu) ht)

/-- Once all before it have been taken, an element is next. -/
theorem head (hs : I s) (ht : Run.after step s as = some t) (hn : as.countP takes = n)
    (hm : (chan s)[n]? = some m) : (chan t).head? = some m := by
  obtain ⟨rest, hrest⟩ := h.after hs ht
  rw [hn] at hrest
  rw [← hrest, List.head?_append, List.head?_drop, hm]
  rfl

/-- An element is taken exactly when more steps take than there are elements before it. -/
theorem gets_iff (hs : I s) (ht : Run.after step s as = some t) (hm : (chan s)[n]? = some m) :
    Gets step chan takes s as n m ↔ n < as.countP takes := by
  refine ⟨Gets.lt_countP, fun hlt => ?_⟩
  obtain ⟨bs, a, cs, rfl, hn, ha⟩ := exists_taken hlt
  rw [after_append, Option.bind_eq_some_iff] at ht
  obtain ⟨u, hu, -⟩ := ht
  exact ⟨bs, a, cs, u, rfl, hn, ha, hu, h.head hs hu hn hm⟩

end Fifo

/-! ### Output -/

/-- What the steps of a run put out, one after another. -/
def output (step : S → A → Option S) (out : S → A → List M) : S → List A → List M
  | _, [] => []
  | s, a :: as => out s a ++ ((step s a).map fun s' => output step out s' as).getD []

variable {step : S → A → Option S} {out : S → A → List M}

theorem output_cons {s t : S} {a : A} {as : List A} (ht : step s a = some t) :
    output step out s (a :: as) = out s a ++ output step out t as := by
  rw [output, ht]
  rfl

/-- An invariant over the state and what has been put out so far. -/
theorem output_invariant {I : List M → S → Prop}
    (hstep : ∀ past s a s', I past s → step s a = some s' → I (past ++ out s a) s') {past : List M}
    {s s' : S} {as : List A} (hs : I past s) (h : after step s as = some s') :
    I (past ++ output step out s as) s' := by
  induction as generalizing past s with
  | nil =>
    obtain rfl := Option.some.inj h
    simpa [output] using hs
  | cons a as ih =>
    obtain ⟨t, ht, h⟩ := after_cons h
    rw [output_cons ht, ← List.append_assoc]
    exact ih (hstep past s a t hs ht) h

/-- Each element is related to those before it. -/
def Founded (R : List M → M → Prop) (ms : List M) : Prop :=
  ∀ before m rest, ms = before ++ m :: rest → R before m

theorem founded_nil (R : List M → M → Prop) : Founded R [] := by
  intro before m rest h
  simp at h

/-- A ground that lasts lets a list go on with what has one. -/
theorem Founded.append {R : List M → M → Prop} (hlast : ∀ ms ns m, R ms m → R (ms ++ ns) m)
    {ms ns : List M} (h : Founded R ms) (hns : ∀ n ∈ ns, R ms n) : Founded R (ms ++ ns) := by
  intro before m rest heq
  obtain ⟨mid, rfl, hmid⟩ | ⟨mid, rfl, hmid⟩ := List.append_eq_append_iff.mp heq
  · exact hlast ms mid m (hns m (hmid ▸ by simp))
  · cases mid with
    | nil =>
      have hm : m ∈ ns := by
        rw [List.nil_append] at hmid
        exact hmid ▸ List.mem_cons_self
      rw [List.append_nil] at hns
      exact hns m hm
    | cons m' mid =>
      obtain ⟨rfl, -⟩ := List.cons.inj hmid
      exact h before m mid rfl

end Run
