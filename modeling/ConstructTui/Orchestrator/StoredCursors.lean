import ConstructTui.Lib.Run
import ConstructTui.Orchestrator.CursorTracker

/-!
# The cursors that are stored

A cursor is stored over another one only if it is after it. Two well-formed cursors are compared as
pairs of numbers, any others as strings, and the two orders disagree: over a malformed cursor an
earlier one than those before it can be stored.

## Main definitions

* `StoredCursors`: the watermark and the cursors stored so far.
* `StoredCursors.Increasing`: the well-formed ones among them increase.
* `StoredCursors.CatchesUp`: a cursor is after all of them where it follows a malformed one.

## Main results

* `cursorAfter_irrefl`, `cursorAfter_asymm`, `cursorAfter_trans`: how far the comparison is an
  order.
* `StoredCursors.increasing_iff`: the well-formed ones increase exactly in these runs.
* `StoredCursors.backwards_over_malformed`: a run in which they do not.
-/

/-! ### The comparison of cursors -/

/-- A stream id is before another one, as a pair. -/
def idLt (a b : ℕ × ℕ) : Prop := a.1 < b.1 ∨ a.1 = b.1 ∧ a.2 < b.2

instance (a b : ℕ × ℕ) : Decidable (idLt a b) := inferInstanceAs (Decidable (_ ∨ _))

theorem idLt_trans {a b c : ℕ × ℕ} (hab : idLt a b) (hbc : idLt b c) : idLt a c := by
  unfold idLt at *
  omega

theorem not_idLt_self (a : ℕ × ℕ) : ¬idLt a a := by
  unfold idLt
  omega

/-- Two well-formed cursors are compared as pairs. -/
theorem cursorAfter_of_parsed {new old : String} {a b : ℕ × ℕ}
    (hnew : parseStreamCursor new = some a)
    (hold : parseStreamCursor old = some b) : cursorAfter new old ↔ idLt b a := by
  unfold cursorAfter idLt
  rw [hnew, hold]
  simp only [Bool.or_eq_true, Bool.and_eq_true, decide_eq_true_eq]

/-- When one of two cursors is malformed, they are compared as strings. -/
theorem cursorAfter_of_malformed {new old : String}
    (h : parseStreamCursor new = none ∨ parseStreamCursor old = none) :
    cursorAfter new old ↔ old < new := by
  unfold cursorAfter
  cases hnew : parseStreamCursor new with
  | none => simp
  | some a =>
    cases hold : parseStreamCursor old with
    | none => simp
    | some b => simp [hnew, hold] at h

/-- No cursor is after itself. -/
theorem cursorAfter_irrefl (a : String) : ¬cursorAfter a a := by
  cases ha : parseStreamCursor a with
  | none =>
    rw [cursorAfter_of_malformed (.inl ha)]
    exact String.lt_irrefl a
  | some p =>
    rw [cursorAfter_of_parsed ha ha]
    exact not_idLt_self p

/-- Of two cursors, not each is after the other. -/
theorem cursorAfter_asymm {a b : String} (h : cursorAfter a b) : ¬cursorAfter b a := by
  by_cases hmalformed : parseStreamCursor a = none ∨ parseStreamCursor b = none
  · rw [cursorAfter_of_malformed hmalformed] at h
    rw [cursorAfter_of_malformed hmalformed.symm]
    exact String.lt_asymm h
  · obtain ⟨ha, hb⟩ := not_or.mp hmalformed
    obtain ⟨p, hp⟩ := Option.ne_none_iff_exists'.mp ha
    obtain ⟨q, hq⟩ := Option.ne_none_iff_exists'.mp hb
    rw [cursorAfter_of_parsed hp hq] at h
    rw [cursorAfter_of_parsed hq hp]
    exact fun h' => not_idLt_self p (idLt_trans h' h)

/-- The comparison is transitive among three cursors unless just two of them are well-formed. -/
theorem cursorAfter_trans {a b c : String}
    (h : [a, b, c].countP (fun x => (parseStreamCursor x).isSome) ≠ 2)
    (hab : cursorAfter a b) (hbc : cursorAfter b c) : cursorAfter a c := by
  cases ha : parseStreamCursor a with
  | some p =>
    cases hb : parseStreamCursor b with
    | some q =>
      cases hc : parseStreamCursor c with
      | some r =>
        rw [cursorAfter_of_parsed ha hb] at hab
        rw [cursorAfter_of_parsed hb hc] at hbc
        exact (cursorAfter_of_parsed ha hc).mpr (idLt_trans hbc hab)
      | none => simp [ha, hb, hc] at h
    | none =>
      have hc : parseStreamCursor c = none := by
        cases hc : parseStreamCursor c with
        | none => rfl
        | some r => simp [ha, hb, hc] at h
      rw [cursorAfter_of_malformed (.inr hb)] at hab
      rw [cursorAfter_of_malformed (.inl hb)] at hbc
      exact (cursorAfter_of_malformed (.inr hc)).mpr (String.lt_trans hbc hab)
  | none =>
    have hbc' : parseStreamCursor b = none ∨ parseStreamCursor c = none := by
      cases hb : parseStreamCursor b with
      | none => exact .inl rfl
      | some q =>
        cases hc : parseStreamCursor c with
        | none => exact .inr rfl
        | some r => simp [ha, hb, hc] at h
    rw [cursorAfter_of_malformed (.inl ha)] at hab
    rw [cursorAfter_of_malformed hbc'] at hbc
    exact (cursorAfter_of_malformed (.inl ha)).mpr (String.lt_trans hbc hab)

open OrchestratorTask Prog

variable {ε : Type} (X : Externals ε)

/-- The watermark, and the cursors that have been stored, the last one first. -/
structure StoredCursors (ε : Type) where
  world : TaskWorld ε
  past : List String

namespace StoredCursors

/-- The cursor that is stored already is the first. -/
def start (w : TaskWorld ε) : StoredCursors ε := ⟨w, w.storage.loadStreamCursor.toList⟩

/-- One call of `save_stream_cursor`. -/
def save (s : StoredCursors ε) (cursor : String) : Option (StoredCursors ε) :=
  let r := (saveStreamCursor X cursor).run s.world
  some ⟨r.2, if r.1 = some true then cursor :: s.past else s.past⟩

/-- Of two well-formed cursors, the first is before the second. -/
def Before (x y : String) : Prop :=
  ∀ a b, parseStreamCursor x = some a → parseStreamCursor y = some b → idLt a b

/-- The well-formed cursors that have been stored increase. -/
def Increasing (s : StoredCursors ε) : Prop := s.past.Pairwise fun y x => Before x y

/-- The database carries out the next two statements. -/
def Answers (w : TaskWorld ε) : Prop :=
  (X.sqlFails w.ext).1 = false ∧ (X.sqlFails (X.sqlFails w.ext).2).1 = false

/-- A cursor that follows a malformed one as a string follows all that were stored before as
pairs. -/
def CatchesUp (s : StoredCursors ε) (cursor : String) : Prop :=
  ∀ old, s.world.storage.loadStreamCursor = some old → parseStreamCursor old = none →
    old < cursor → Answers X s.world → ∀ x ∈ s.past, Before x cursor

/-- The cursor follows the one that is stored, and the database carries both statements out. -/
def Moves (w : TaskWorld ε) (cursor : String) : Prop :=
  cursor ≠ "" ∧ Answers X w ∧ ∀ old ∈ w.storage.loadStreamCursor, cursorAfter cursor old

/-- A call stores its cursor, or changes nothing. -/
theorem saveStreamCursor_run (cursor : String) (w : TaskWorld ε) :
    (Moves X w cursor ∧ ((saveStreamCursor X cursor).run w).1 = some true ∧
        ((saveStreamCursor X cursor).run w).2.storage =
          w.storage.secureSave Storage.streamCursorKey (Utf8.encode cursor)) ∨
      (¬Moves X w cursor ∧ ((saveStreamCursor X cursor).run w).1 ≠ some true ∧
        ((saveStreamCursor X cursor).run w).2.storage = w.storage) := by
  unfold saveStreamCursor
  by_cases hempty : cursor = ""
  · rw [if_pos hempty]
    exact .inr ⟨fun h => h.1 hempty, by simp, rfl⟩
  rw [if_neg hempty, run_bind]
  have hload : (sql X fun s => (s.loadStreamCursor, s)).run w =
      sqlStep X (fun s => (s.loadStreamCursor, s)) w := rfl
  rw [hload]
  unfold sqlStep
  by_cases hfirst : (X.sqlFails w.ext).1 = true
  · rw [if_pos hfirst]
    refine .inr ⟨fun h => ?_, by simp, rfl⟩
    exact absurd hfirst (by rw [h.2.1.1]; exact Bool.false_ne_true)
  rw [if_neg hfirst]
  dsimp only
  by_cases hold : (w.storage.loadStreamCursor.any fun o => !cursorAfter cursor o) = true
  · rw [if_pos hold]
    refine .inr ⟨fun h => ?_, by simp, rfl⟩
    cases hload : w.storage.loadStreamCursor with
    | none => simp [hload] at hold
    | some old =>
      have hafter := h.2.2 old hload
      simp [hload, hafter] at hold
  rw [if_neg hold, run_bind]
  have hsave (v : TaskWorld ε) :
      (exec X (Storage.secureSave Storage.streamCursorKey (Utf8.encode cursor))).run v =
        sqlStep X (fun s => ((), s.secureSave Storage.streamCursorKey (Utf8.encode cursor))) v :=
      rfl
  rw [hsave]
  unfold sqlStep
  dsimp only
  by_cases hsecond : (X.sqlFails (X.sqlFails w.ext).2).1 = true
  · rw [if_pos hsecond]
    refine .inr ⟨fun h => ?_, by simp, rfl⟩
    exact absurd hsecond (by rw [h.2.1.2]; exact Bool.false_ne_true)
  · rw [if_neg hsecond]
    refine .inl ⟨⟨hempty, ⟨by simpa using hfirst, by simpa using hsecond⟩, ?_⟩, rfl, rfl⟩
    intro old hmem
    rw [Option.mem_def.mp hmem] at hold
    simpa using hold

theorem parseStreamCursor_empty : parseStreamCursor "" = none := by decide

/-- What is stored is the last cursor stored. -/
def Tracked (s : StoredCursors ε) : Prop := s.world.storage.loadStreamCursor = s.past.head?

theorem tracked_start (w : TaskWorld ε) : (start w).Tracked := by
  unfold Tracked start
  cases w.storage.loadStreamCursor <;> rfl

variable {X}

theorem increasing_start (w : TaskWorld ε) : (start w).Increasing := by
  unfold Increasing start
  cases w.storage.loadStreamCursor <;> simp

/-- A call either stores its cursor behind those before it, or leaves them and the watermark. -/
theorem save_cases {s s' : StoredCursors ε} {cursor : String} (h : save X s cursor = some s') :
    (Moves X s.world cursor ∧ s'.past = cursor :: s.past ∧
        s'.world.storage.loadStreamCursor = some cursor) ∨
      (¬Moves X s.world cursor ∧ s'.past = s.past ∧
        s'.world.storage.loadStreamCursor = s.world.storage.loadStreamCursor) := by
  obtain rfl := Option.some.inj h
  obtain ⟨hmoves, hanswer, hstorage⟩ | ⟨hmoves, hanswer, hstorage⟩ :=
    saveStreamCursor_run X cursor s.world
  · refine .inl ⟨hmoves, if_pos hanswer, ?_⟩
    dsimp only
    rw [hstorage]
    exact Storage.loadStreamCursor_secureSave_cursor hmoves.1 _
  · exact .inr ⟨hmoves, if_neg hanswer, by dsimp only; rw [hstorage]⟩

theorem Tracked.save {s s' : StoredCursors ε} {cursor : String} (hs : s.Tracked)
    (h : save X s cursor = some s') : s'.Tracked := by
  unfold Tracked at *
  obtain ⟨-, hpast, hload⟩ | ⟨-, hpast, hload⟩ := save_cases h
  · rw [hload, hpast]
    rfl
  · rw [hload, hpast, hs]

/-- A cursor that follows a well-formed one follows all those before it. -/
theorem before_of_head {s : StoredCursors ε} {old cursor : String} {b : ℕ × ℕ} (hs : s.Increasing)
    (hold : s.past.head? = some old) (hb : parseStreamCursor old = some b)
    (hafter : cursorAfter cursor old) : ∀ x ∈ s.past, Before x cursor := by
  obtain ⟨rest, hpast⟩ := List.head?_eq_some_iff.mp hold
  intro x hx a c ha hc
  have hbc : idLt b c := (cursorAfter_of_parsed hc hb).mp hafter
  unfold Increasing at hs
  rw [hpast, List.pairwise_cons] at hs
  rw [hpast] at hx
  obtain rfl | hx := List.mem_cons.mp hx
  · obtain rfl := Option.some.inj (ha.symm.trans hb)
    exact hbc
  · exact idLt_trans (hs.1 x hx a b ha hb) hbc

/-- A call keeps the order when its cursor catches up. -/
theorem Increasing.save {s s' : StoredCursors ε} {cursor : String} (htracked : s.Tracked)
    (hs : s.Increasing) (hcatches : CatchesUp X s cursor) (h : save X s cursor = some s') :
    s'.Increasing := by
  unfold Increasing
  obtain ⟨⟨-, hanswers, hafter⟩, hpast, -⟩ | ⟨-, hpast, -⟩ := save_cases h
  · rw [hpast, List.pairwise_cons]
    refine ⟨?_, hs⟩
    cases hold : s.world.storage.loadStreamCursor with
    | none =>
      have hnil : s.past = [] := List.head?_eq_none_iff.mp (htracked.symm.trans hold)
      rw [hnil]
      exact List.forall_mem_nil _
    | some old =>
      have hafter := hafter old hold
      cases hb : parseStreamCursor old with
      | some b => exact before_of_head hs (htracked.symm.trans hold) hb hafter
      | none =>
        exact hcatches old hold hb ((cursorAfter_of_malformed (.inr hb)).mp hafter) hanswers
  · rw [hpast]
    exact hs

/-- A call that keeps the order has a cursor that catches up. -/
theorem catchesUp_of_increasing {s s' : StoredCursors ε} {cursor : String}
    (h : save X s cursor = some s') (hs' : s'.Increasing) : CatchesUp X s cursor := by
  intro old hold hb hlt hanswers x hx a c ha hc
  have hempty : cursor ≠ "" := by
    rintro rfl
    rw [parseStreamCursor_empty] at hc
    cases hc
  have hmoves : Moves X s.world cursor := by
    refine ⟨hempty, hanswers, fun old' hold' => ?_⟩
    obtain rfl := Option.some.inj (hold.symm.trans hold')
    exact (cursorAfter_of_malformed (.inr hb)).mpr hlt
  obtain ⟨-, hpast, -⟩ | ⟨hnot, -, -⟩ := save_cases h
  · unfold Increasing at hs'
    rw [hpast, List.pairwise_cons] at hs'
    exact hs'.1 x hx a c ha hc
  · exact absurd hmoves hnot

/-- Every call can be made. -/
theorem exists_after (s : StoredCursors ε) (cursors : List String) :
    ∃ s', Run.after (save X) s cursors = some s' := by
  induction cursors generalizing s with
  | nil => exact ⟨s, rfl⟩
  | cons cursor cursors ih => exact ih _

/-- The comparison is irreflexive and asymmetric, and transitive unless just two of three cursors
are well-formed. The well-formed cursors that are stored increase throughout a run if and only if
each that follows a malformed one as a string also follows, as a pair, all those stored before. -/
theorem increasing_iff (X : Externals ε) (w : TaskWorld ε) (cursors : List String) :
    (∀ a, ¬cursorAfter a a) ∧
    (∀ a b, cursorAfter a b → ¬cursorAfter b a) ∧
    (∀ a b c, [a, b, c].countP (fun x => (parseStreamCursor x).isSome) ≠ 2 →
      cursorAfter a b → cursorAfter b c → cursorAfter a c) ∧
    (Run.Always (save X) Increasing (start w) cursors ↔
      Run.Along (save X) (CatchesUp X) (start w) cursors) := by
  refine ⟨cursorAfter_irrefl, fun a b => cursorAfter_asymm, fun a b c => cursorAfter_trans, ?_⟩
  obtain ⟨s', h⟩ := exists_after (X := X) (start w) cursors
  refine Run.always_iff_along (I := fun s => s.Tracked ∧ s.Increasing) (fun s hs => hs.2) ?_ ?_
    ⟨tracked_start w, increasing_start w⟩ h
  · rintro s cursor s' ⟨htracked, hs⟩ h hcatches
    exact ⟨htracked.save h, hs.save htracked hcatches h⟩
  · rintro s cursor s' - h hs'
    exact catchesUp_of_increasing h hs'

/-- Over the malformed `9`, which follows `10-0` as a string, `9-0` is stored. -/
theorem backwards_over_malformed : ¬Run.Always (save .quiet) Increasing
    (start (TaskWorld.start () .init)) ["10-0", "9", "9-0"] := by
  intro h
  have hpast : (Run.ending (save .quiet) (start (TaskWorld.start () .init))
      ["10-0", "9", "9-0"]).past = ["9-0", "9", "10-0"] := by decide +kernel
  have hlast := h _ _ (List.prefix_refl _) (Run.after_ending_nil (by decide +kernel))
  unfold Increasing at hlast
  rw [hpast] at hlast
  have hbefore : Before "10-0" "9-0" := by simpa using (List.pairwise_cons.mp hlast).1 "10-0"
  exact absurd (hbefore (10, 0) (9, 0) (by decide) (by decide)) (by decide)

end StoredCursors
