import Mathlib.Data.List.Basic

/-!
# Cutting frames from chunks

A cutter takes the first frame off a buffer, when the buffer holds all of it. Data comes in chunks
that respect no boundary of a frame: a reader appends each chunk to what it has kept and drains the
buffer. However the data is cut into chunks, the reader ends where draining all of it at once ends.

## Main definitions

* `Cutter`: how the first frame is cut off; more data never changes a frame.
* `Cutter.drain`: all frames of a buffer, and what is left of it.
* `Cutter.feed`: one more chunk.
* `Cutter.loop`, `Cutter.Passes`: cutting by any rule, round by round.

## Main results

* `Cutter.feed_drain`: feeding is draining more.
* `Cutter.flatten_drain`: nothing is lost.
* `Cutter.drain_flatten`: frames put together come apart again.
* `Cutter.loop_eq_drain`, `Cutter.loop_of_stuck`: when a rule ends, and when it does not.
-/

/-- A way to cut the first frame off a buffer. -/
structure Cutter (α : Type*) where
  cut : List α → Option (List α × List α)
  join : ∀ {buf frame rest}, cut buf = some (frame, rest) → frame ++ rest = buf
  ne_nil : ∀ {buf frame rest}, cut buf = some (frame, rest) → frame ≠ []
  append : ∀ {buf frame rest}, cut buf = some (frame, rest) →
    ∀ more, cut (buf ++ more) = some (frame, rest ++ more)

namespace Cutter

variable {α : Type*} (c : Cutter α)

theorem length_rest_lt {buf frame rest : List α} (h : c.cut buf = some (frame, rest)) :
    rest.length < buf.length := by
  have hpos := List.length_pos_iff.mpr (c.ne_nil h)
  rw [← c.join h, List.length_append]
  omega

/-- Cut frames off for as long as there is one. -/
def drain (buf : List α) : List (List α) × List α :=
  match _h : c.cut buf with
  | none => ([], buf)
  | some (frame, rest) => (frame :: (drain rest).1, (drain rest).2)
termination_by buf.length
decreasing_by all_goals exact c.length_rest_lt _h

variable {c}

theorem drain_of_none {buf : List α} (h : c.cut buf = none) : c.drain buf = ([], buf) := by
  rw [drain]
  split
  · rfl
  · next hs => simp [h] at hs

theorem drain_of_some {buf frame rest : List α} (h : c.cut buf = some (frame, rest)) :
    c.drain buf = (frame :: (c.drain rest).1, (c.drain rest).2) := by
  rw [drain]
  split
  · next hn => simp [h] at hn
  · next frame' rest' hs =>
    obtain ⟨rfl, rfl⟩ : frame = frame' ∧ rest = rest' := by simpa [h] using hs
    rfl

variable (c)

/-- Frames and rest together are the buffer. -/
theorem flatten_drain (buf : List α) : (c.drain buf).1.flatten ++ (c.drain buf).2 = buf := by
  induction buf using drain.induct c with
  | case1 buf h =>
    rw [drain_of_none h]
    rfl
  | case2 buf frame rest h ih =>
    rw [drain_of_some h, List.flatten_cons, List.append_assoc, ih]
    exact c.join h

/-- Draining a longer buffer is draining its start, and then the rest with what follows. -/
theorem drain_append (buf more : List α) :
    c.drain (buf ++ more) = ((c.drain buf).1 ++ (c.drain ((c.drain buf).2 ++ more)).1,
      (c.drain ((c.drain buf).2 ++ more)).2) := by
  induction buf using drain.induct c with
  | case1 buf h =>
    rw [drain_of_none h]
    rfl
  | case2 buf frame rest h ih =>
    rw [drain_of_some h, drain_of_some (c.append h more), ih]
    rfl

/-- The frames cut so far and the buffer, after one more chunk. -/
def feed (s : List (List α) × List α) (chunk : List α) : List (List α) × List α :=
  (s.1 ++ (c.drain (s.2 ++ chunk)).1, (c.drain (s.2 ++ chunk)).2)

theorem feed_drain (bytes chunk : List α) :
    c.feed (c.drain bytes) chunk = c.drain (bytes ++ chunk) := (c.drain_append bytes chunk).symm

variable {c}

/-- Whole frames put together are cut at their boundaries. -/
theorem drain_flatten (hnil : c.cut [] = none) {frames : List (List α)}
    (h : ∀ frame ∈ frames, c.cut frame = some (frame, [])) :
    c.drain frames.flatten = (frames, []) := by
  induction frames with
  | nil => exact drain_of_none hnil
  | cons frame frames ih =>
    have hframe := c.append (h frame List.mem_cons_self) frames.flatten
    rw [List.flatten_cons, drain_of_some hframe, List.nil_append,
      ih fun f hf => h f (List.mem_cons_of_mem _ hf)]

/-! ### Cutting by any rule -/

/-- Cut by a rule until it finds no frame; no answer when the rounds do not suffice. -/
def loop (cut : List α → Option (List α × List α)) :
    ℕ → List α → Option (List (List α) × List α)
  | 0, _ => none
  | rounds + 1, buf =>
    match cut buf with
    | none => some ([], buf)
    | some (frame, rest) => (loop cut rounds rest).map fun r => (frame :: r.1, r.2)

/-- The buffers that a rule looks at one after another. -/
inductive Passes (cut : List α → Option (List α × List α)) (buf : List α) : List α → Prop
  | start : Passes cut buf buf
  | next {b frame rest : List α} (h : Passes cut buf b) (hcut : cut b = some (frame, rest)) :
    Passes cut buf rest

variable {cut : List α → Option (List α × List α)} {buf b frame rest : List α}

theorem Passes.head (hcut : cut buf = some (frame, rest)) (h : Passes cut rest b) :
    Passes cut buf b := by
  induction h with
  | start => exact .next .start hcut
  | next _ hcut' ih => exact .next ih hcut'

theorem loop_succ_of_some (hcut : cut buf = some (frame, rest)) (rounds : ℕ) :
    loop cut (rounds + 1) buf = (loop cut rounds rest).map fun r => (frame :: r.1, r.2) := by
  rw [loop, hcut]

/-- A rule that cuts nothing off its buffer is asked again for ever. -/
theorem loop_of_stuck (hcut : cut buf = some (frame, buf)) (rounds : ℕ) :
    loop cut rounds buf = none := by
  induction rounds with
  | zero => rfl
  | succ rounds ih => rw [loop_succ_of_some hcut, ih, Option.map_none]

/-- A rule that cuts like the cutter, as far as it comes, ends where the cutter ends. -/
theorem loop_eq_drain (c : Cutter α) {buf : List α} (h : ∀ b, Passes cut buf b → cut b = c.cut b) :
    ∃ rounds, loop cut rounds buf = some (c.drain buf) := by
  induction buf using drain.induct c with
  | case1 buf hnone =>
    refine ⟨1, ?_⟩
    rw [loop, h buf .start, hnone, drain_of_none hnone]
  | case2 buf frame rest hsome ih =>
    have hcut : cut buf = some (frame, rest) := (h buf .start).trans hsome
    obtain ⟨rounds, hloop⟩ := ih fun b hb => h b (hb.head hcut)
    refine ⟨rounds + 1, ?_⟩
    rw [loop_succ_of_some hcut, hloop, drain_of_some hsome]
    rfl

end Cutter
