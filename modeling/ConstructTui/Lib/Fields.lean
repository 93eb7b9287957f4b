import Mathlib.Data.List.Basic

/-!
# Fields joined by a separator

Fields joined by a separator come apart again when none of them holds it. When they may hold it, the
joined text only tells the pieces that all fields together have, and a reader that knows how many
fields there are, and what one of them looks like, can still be misled.

A record has some leading fields, a mark without a separator, and some trailing fields. Two records
with as many leading and trailing fields each are joined to the same text. If the leading fields of
one hold no separator, and the mark of the other is none of its pieces that could stand there, then
the records are the same piece by piece.

## Main results

* `Fields.pieces_join`: the pieces of the joined text.
* `Fields.join_join`: joining in two steps.
* `Fields.join_inj_of_not_mem`: fields without a separator come apart again.
* `Fields.join_inj`: when the joined text determines the record.
-/

namespace Fields

variable {α : Type*} [DecidableEq α] (x : α)

/-- The parts of a text between separators. -/
def pieces (cs : List α) : List (List α) := cs.splitOn x

/-- The pieces of several fields. -/
def allPieces (fs : List (List α)) : List (List α) := fs.flatMap (pieces x)

def join (fs : List (List α)) : List α := [x].intercalate fs

variable {x}

theorem pieces_ne_nil (cs : List α) : pieces x cs ≠ [] := List.splitOn_ne_nil x cs

theorem pieces_of_not_mem {cs : List α} (h : x ∉ cs) : pieces x cs = [cs] :=
  List.splitOn_eq_singleton h

theorem join_pieces (cs : List α) : join x (pieces x cs) = cs := List.intercalate_splitOn x

theorem pieces_inj {as bs : List α} (h : pieces x as = pieces x bs) : as = bs := by
  rw [← join_pieces (x := x) as, ← join_pieces (x := x) bs, h]

theorem pieces_append_cons (as bs : List α) :
    pieces x (as ++ x :: bs) = pieces x as ++ pieces x bs :=
  List.splitOn_append_cons_self as bs

theorem pieces_join {fs : List (List α)} (h : fs ≠ []) : pieces x (join x fs) = allPieces x fs := by
  induction fs with
  | nil => exact absurd rfl h
  | cons f fs ih =>
    cases fs with
    | nil => simp [join, allPieces]
    | cons g fs =>
      have hcons : join x (f :: g :: fs) = f ++ x :: join x (g :: fs) := by
        simp [join]
      rw [hcons, pieces_append_cons, ih (List.cons_ne_nil g fs)]
      rfl

theorem allPieces_of_not_mem {fs : List (List α)} (h : ∀ f ∈ fs, x ∉ f) : allPieces x fs = fs := by
  induction fs with
  | nil => rfl
  | cons f fs ih =>
    have hcons : allPieces x (f :: fs) = pieces x f ++ allPieces x fs := List.flatMap_cons
    rw [hcons, pieces_of_not_mem (h f List.mem_cons_self),
      ih fun g hg => h g (List.mem_cons_of_mem _ hg)]
    rfl

theorem length_le_allPieces (fs : List (List α)) : fs.length ≤ (allPieces x fs).length := by
  induction fs with
  | nil => simp
  | cons f fs ih =>
    have hcons : allPieces x (f :: fs) = pieces x f ++ allPieces x fs := List.flatMap_cons
    have hpos := List.length_pos_iff.mpr (pieces_ne_nil (x := x) f)
    rw [hcons, List.length_append, List.length_cons]
    omega

/-- Fields with one piece each are their pieces. -/
theorem eq_allPieces_of_length {fs : List (List α)} (h : (allPieces x fs).length ≤ fs.length) :
    allPieces x fs = fs := by
  induction fs with
  | nil => rfl
  | cons f fs ih =>
    have hcons : allPieces x (f :: fs) = pieces x f ++ allPieces x fs := List.flatMap_cons
    have hpos := List.length_pos_iff.mpr (pieces_ne_nil (x := x) f)
    have hle := length_le_allPieces (x := x) fs
    rw [hcons, List.length_append, List.length_cons] at h
    obtain ⟨piece, hpiece⟩ := List.length_eq_one_iff.mp (show (pieces x f).length = 1 by omega)
    have hf : f = piece := by
      have hjoin : [x].intercalate (f.splitOn x) = f := List.intercalate_splitOn x
      rw [show f.splitOn x = [piece] from hpiece] at hjoin
      simpa using hjoin.symm
    rw [hcons, hpiece, ih (by omega), hf]
    rfl

/-- A joined text can be a field itself. -/
theorem join_join (fs : List (List α)) (h : fs ≠ []) (before after : List (List α)) :
    join x (before ++ join x fs :: after) = join x (before ++ (fs ++ after)) := by
  refine pieces_inj (x := x) ?_
  have happend (as bs : List (List α)) :
      allPieces x (as ++ bs) = allPieces x as ++ allPieces x bs :=
    List.flatMap_append
  rw [pieces_join (by simp), pieces_join (by simp [h]), happend, happend, happend]
  have hcons : allPieces x (join x fs :: after) = pieces x (join x fs) ++ allPieces x after :=
    List.flatMap_cons
  rw [hcons, pieces_join h]

/-- Fields without a separator come apart again. -/
theorem join_inj_of_not_mem {fs gs : List (List α)} (hfs : fs ≠ []) (hgs : gs ≠ [])
    (hf : ∀ f ∈ fs, x ∉ f) (hg : ∀ g ∈ gs, x ∉ g) (h : join x fs = join x gs) : fs = gs := by
  have hpieces := congrArg (pieces x) h
  rwa [pieces_join hfs, pieces_join hgs, allPieces_of_not_mem hf, allPieces_of_not_mem hg]
    at hpieces

omit [DecidableEq α] in
theorem join_pair (as bs : List α) : join x [as, bs] = as ++ x :: bs := by simp [join]

/-- A piece can move to the next field. -/
theorem join_shift (before after : List (List α)) (as bs cs : List α) :
    join x (before ++ (as ++ x :: bs) :: cs :: after) =
      join x (before ++ as :: (bs ++ x :: cs) :: after) := by
  have hsplit := join_join (x := x) [as, bs] (by simp) before (cs :: after)
  have hsplit' := join_join (x := x) [bs, cs] (by simp) (before ++ [as]) after
  rw [join_pair] at hsplit hsplit'
  rw [hsplit, show before ++ as :: (bs ++ x :: cs) :: after =
    (before ++ [as]) ++ (bs ++ x :: cs) :: after by simp, hsplit']
  simp

/-- A piece behind a mark can be the mark, when all before it moves to the field before the mark. -/
theorem join_shift_mark (before after : List (List α)) (last mark mark' : List α)
    (ps : List (List α)) {qs : List (List α)} (hqs : qs ≠ []) :
    join x (before ++ last :: mark :: join x (ps ++ mark' :: qs) :: after) =
      join x (before ++ (last ++ x :: join x (mark :: ps)) :: mark' :: join x qs :: after) := by
  have hbehind := join_join (x := x) (ps ++ mark' :: qs) (by simp) (before ++ [last, mark]) after
  have hbefore := join_join (x := x) [last, join x (mark :: ps)] (by simp) before
    (mark' :: join x qs :: after)
  have hmark := join_join (x := x) (mark :: ps) (by simp) (before ++ [last])
    (mark' :: join x qs :: after)
  have hqs := join_join (x := x) qs hqs (before ++ last :: mark :: ps ++ [mark']) after
  rw [join_pair] at hbefore
  simp only [List.append_assoc, List.cons_append, List.nil_append] at hbehind hbefore hmark hqs
  rw [hbehind, hbefore, hmark, hqs]

/-- The pieces among the trailing fields at which a mark and as many trailing fields could start. -/
def couldMark (x : α) (rest : List (List α)) : List (List α) :=
  (allPieces x rest).take ((allPieces x rest).length - rest.length)

/-- When the joined text determines the record. -/
theorem join_inj {fs fs' rest rest' : List (List α)} {mark mark' : List α}
    (hlen : fs.length = fs'.length) (hrest : rest.length = rest'.length)
    (hfs : ∀ f ∈ fs, x ∉ f) (hmark : x ∉ mark) (hmark' : x ∉ mark')
    (hcould : mark' ∉ couldMark x rest)
    (h : join x (fs ++ mark :: rest) = join x (fs' ++ mark' :: rest')) :
    fs = fs' ∧ mark = mark' ∧ allPieces x rest = allPieces x rest' := by
  have happend (as : List (List α)) (m : List α) (bs : List (List α)) (hm : x ∉ m) :
      pieces x (join x (as ++ m :: bs)) = allPieces x as ++ m :: allPieces x bs := by
    rw [pieces_join (by simp), allPieces, List.flatMap_append, List.flatMap_cons,
      pieces_of_not_mem hm]
    rfl
  have hpieces := congrArg (pieces x) h
  rw [happend fs mark rest hmark, happend fs' mark' rest' hmark',
    allPieces_of_not_mem hfs] at hpieces
  have hle := length_le_allPieces (x := x) fs'
  have hle' := length_le_allPieces (x := x) rest'
  have hcount := congrArg List.length hpieces
  simp only [List.length_append, List.length_cons] at hcount
  by_cases hsame : (allPieces x fs').length = fs'.length
  · -- the leading fields have one piece each
    rw [eq_allPieces_of_length (Nat.le_of_eq hsame)] at hpieces
    obtain ⟨hfields, htail⟩ := List.append_inj hpieces hlen
    obtain ⟨hmarks, hpieces⟩ := List.cons.inj htail
    exact ⟨hfields, hmarks, hpieces⟩
  · -- the other mark stands behind this one
    refine absurd ?_ hcould
    have hindex : (fs ++ mark :: allPieces x rest)[(allPieces x fs').length]? = some mark' := by
      rw [hpieces, List.getElem?_append_right (Nat.le_refl _), Nat.sub_self]
      rfl
    obtain ⟨k, hk⟩ : ∃ k, (allPieces x fs').length = fs.length + (k + 1) :=
      ⟨(allPieces x fs').length - fs.length - 1, by omega⟩
    rw [hk, List.getElem?_append_right (by omega), Nat.add_sub_cancel_left,
      List.getElem?_cons_succ] at hindex
    refine List.mem_of_getElem? (i := k) ?_
    rw [couldMark, List.getElem?_take_of_lt (by omega)]
    exact hindex

end Fields
