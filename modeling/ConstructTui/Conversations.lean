import ConstructTui.Events
import ConstructTui.Lib.Fields
import Mathlib.Data.String.Basic
import Mathlib.Data.Sym.Sym2.Order

/-!
# The names of conversations

An envelope says which conversation it belongs to, and each end works the name out for itself. A
conversation is the unordered pair of its ends: the name writes the smaller end first, so both ends
find the same name. The ends stand between colons, so ends without a colon can be read back, and two
conversations of such ends have two names.

## Main definitions

* `conversationName`: the name of an unordered pair of ends.
* `Envelope.Built`: the envelopes of a user for another.

## Main results

* `conversationName_injOn`: the name tells the ends.
* `Envelope.Built.conversationId_eq_iff`: two envelopes name the same conversation exactly when they
  are between the same ends.
-/

open Fields

/-! ### The unordered pair -/

/-- The name of the conversation of two ends. -/
def conversationName : Sym2 String → String := Sym2.lift ⟨conversationId, conversationId_comm⟩

@[simp] theorem conversationName_mk (a b : String) :
    conversationName s(a, b) = conversationId a b := rfl

/-- The smaller end comes first. -/
theorem toList_conversationId (a b : String) : (conversationId a b).toList =
    join ':' ["direct".toList, (min a b).toList, (max a b).toList] := by
  have hjoin (x y : String) : ("direct:" ++ x ++ ":" ++ y).toList =
      join ':' ["direct".toList, x.toList, y.toList] := by
    simp [join, String.toList_append]
  unfold conversationId
  by_cases h : a < b
  · rw [if_pos h, min_eq_left h.le, max_eq_right h.le, hjoin]
  · rw [if_neg h, min_eq_right (not_lt.mp h), max_eq_left (not_lt.mp h), hjoin]

theorem toList_conversationName (p : Sym2 String) : (conversationName p).toList =
    join ':' ["direct".toList, p.inf.toList, p.sup.toList] := by
  induction p using Sym2.ind with
  | _ a b => exact toList_conversationId a b

/-- The ends of a conversation hold no colon. -/
def ColonFree (p : Sym2 String) : Prop := ∀ a ∈ p, ':' ∉ a.toList

theorem colonFree_mk {a b : String} :
    ColonFree s(a, b) ↔ ':' ∉ a.toList ∧ ':' ∉ b.toList := Sym2.forall_mem_pair

theorem ColonFree.fields {p : Sym2 String} (hp : ColonFree p) :
    ∀ f ∈ ["direct".toList, p.inf.toList, p.sup.toList], ':' ∉ f := by
  induction p using Sym2.ind with
  | _ a b =>
    obtain ⟨ha, hb⟩ := colonFree_mk.mp hp
    have hdirect : ':' ∉ "direct".toList := by decide
    have hmin : ':' ∉ (min a b).toList := by
      obtain h | h := min_choice a b <;> rw [h] <;> assumption
    have hmax : ':' ∉ (max a b).toList := by
      obtain h | h := max_choice a b <;> rw [h] <;> assumption
    simp only [Sym2.inf_mk, Sym2.sup_mk, List.forall_mem_cons, List.not_mem_nil, IsEmpty.forall_iff,
      implies_true, and_true]
    exact ⟨hdirect, hmin, hmax⟩

/-- **The name tells the ends**, when none of them holds a colon. -/
theorem conversationName_injOn : Set.InjOn conversationName {p | ColonFree p} := by
  intro p hp q hq h
  have hfields : join ':' ["direct".toList, p.inf.toList, p.sup.toList] =
      join ':' ["direct".toList, q.inf.toList, q.sup.toList] := by
    rw [← toList_conversationName, ← toList_conversationName, h]
  have hends := join_inj_of_not_mem (by simp) (by simp) (ColonFree.fields hp) (ColonFree.fields hq)
    hfields
  simp only [List.cons.injEq, and_true, true_and, String.toList_inj] at hends
  exact Sym2.inf_eq_inf_and_sup_eq_sup.mp hends

/-! ### Envelopes -/

/-- The envelopes of one user for another, with a message or with a control notice. -/
inductive Envelope.Built (fromUser toUser : String) : Envelope → Prop
  | envelope (fromDevice : String) (payload : Bytes) (messageId : String) (contentType : UInt8) :
    Built fromUser toUser
      (buildEnvelope fromUser fromDevice toUser payload messageId contentType)
  | control (fromDevice : String) (contentType : UInt8) (payload : Bytes) (messageId : String) :
    Built fromUser toUser
      (buildControlEnvelope fromUser fromDevice toUser contentType payload messageId)

namespace Envelope.Built

variable {a b c d : String} {e f : Envelope}

/-- Device, content and message id do not count. -/
theorem conversationId_eq (he : Built a b e) : e.conversationId = conversationName s(a, b) := by
  cases he <;> rfl

/-- **Both ends name their conversation alike, and only they do.** -/
theorem conversationId_eq_iff (ha : ':' ∉ a.toList) (hb : ':' ∉ b.toList) (hc : ':' ∉ c.toList)
    (hd : ':' ∉ d.toList) :
    (∀ e f, Built a b e → Built b a f → e.conversationId = f.conversationId) ∧
      ∀ e f, Built a b e → Built c d f →
        (e.conversationId = f.conversationId ↔ s(a, b) = s(c, d)) := by
  constructor
  · intro e f he hf
    rw [he.conversationId_eq, hf.conversationId_eq, Sym2.eq_swap]
  · intro e f he hf
    rw [he.conversationId_eq, hf.conversationId_eq]
    exact conversationName_injOn.eq_iff (colonFree_mk.mpr ⟨ha, hb⟩) (colonFree_mk.mpr ⟨hc, hd⟩)

theorem conversationId_eq_iff_of_carol :
    (∀ e f, Built "alice" "bob" e → Built "bob" "alice" f →
        e.conversationId = f.conversationId) ∧
      ∀ e f, Built "alice" "bob" e → Built "carol" "carol" f →
        (e.conversationId = f.conversationId ↔ s("alice", "bob") = s("carol", "carol")) :=
  conversationId_eq_iff (by decide) (by decide) (by decide) (by decide)

end Envelope.Built

/-- With a colon in an end, two conversations can share a name. -/
example : conversationId "a" "b:c" = conversationId "a:b" "c" := by decide
