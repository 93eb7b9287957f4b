import ConstructTui.Lib.Program

/-!
# Programs with marks

A traced program is a program together with the marks that its run from each world leaves. Its
program is composed as programs are, so a program that is written again with marks in it is still
the same program. A mark stands for a part of the run, from one world to another. A list of marks is
linked when the worlds between them, where nothing is marked, are related.

## Main definitions

* `Traced`, its `Monad` instance, `Traced.plain`, `Traced.mark`, `Traced.each`.
* `Linked`: marks in the order in which a run leaves them.
* `Traced.Follows`: the marks of every run are linked.

## Main results

* `Linked.invariant`: an invariant over the marks so far.
* `Traced.Follows.bind`, `Traced.Follows.each`: composition.
-/

/-- A program, and the marks that its run from each world leaves. -/
structure Traced (W M α : Type) : Type 1 where
  prog : Prog W α
  marks : W → List M

/-! ### Linked marks -/

variable {W M α β γ : Type}

/-- A run from one world to another that left the marks: between two of them, and at both ends, the
world moves along `R`. -/
def Linked (R : W → W → Prop) (start stop : M → W) : W → List M → W → Prop
  | u, [], w => R u w
  | u, m :: ms, w => R u (start m) ∧ Linked R start stop (stop m) ms w

namespace Linked

variable {R : W → W → Prop} {start stop : M → W}

theorem before (htrans : ∀ u v w, R u v → R v w → R u w) {u v w : W} (h : R u v) :
    {ms : List M} → Linked R start stop v ms w → Linked R start stop u ms w
  | [], hms => htrans u v w h hms
  | _ :: _, hms => ⟨htrans _ _ _ h hms.1, hms.2⟩

theorem append (htrans : ∀ u v w, R u v → R v w → R u w) {v w : W} {ns : List M}
    (hns : Linked R start stop v ns w) :
    {u : W} → {ms : List M} → Linked R start stop u ms v → Linked R start stop u (ms ++ ns) w
  | _, [], hms => before htrans hms hns
  | _, _ :: _, hms => ⟨hms.1, append htrans hns hms.2⟩

/-- What holds of the marks so far and the world, at each mark and at the end. -/
theorem invariant {J : List M → W → Prop} (hR : ∀ past u v, R u v → J past u → J past v)
    (hmark : ∀ past m, J past (start m) → J (past ++ [m]) (stop m)) :
    {ms : List M} → {past : List M} → {u w : W} → Linked R start stop u ms w → J past u →
      J (past ++ ms) w ∧ ∀ ms₁ m ms₂, ms = ms₁ ++ m :: ms₂ → J (past ++ ms₁) (start m)
  | [], past, u, w, h, hu => by
    refine ⟨by simpa using hR past u w h hu, fun ms₁ m ms₂ hms => ?_⟩
    simp at hms
  | m :: ms, past, u, w, h, hu => by
    have hm : J past (start m) := hR past u (start m) h.1 hu
    obtain ⟨hend, hall⟩ := invariant hR hmark h.2 (hmark past m hm)
    rw [List.append_assoc] at hend
    refine ⟨hend, fun ms₁ m' ms₂ hms => ?_⟩
    cases ms₁ with
    | nil =>
      obtain ⟨rfl, -⟩ := List.cons.inj hms
      simpa using hm
    | cons m₁ ms₁ =>
      obtain ⟨rfl, htail⟩ := List.cons.inj hms
      have hbefore := hall ms₁ m' ms₂ htail
      rwa [List.append_assoc] at hbefore

end Linked

/-! ### Traced programs -/

namespace Traced

instance : Monad (Traced W M) where
  pure a := ⟨pure a, fun _ => []⟩
  bind t g :=
    { prog := t.prog >>= fun a => (g a).prog
      marks := fun w => t.marks w ++ (g (t.prog.run w).1).marks (t.prog.run w).2 }

/-- A program without marks. -/
def plain (p : Prog W α) : Traced W M α := ⟨p, fun _ => []⟩

/-- A program whose run leaves one mark. -/
def mark (m : W → M) (p : Prog W α) : Traced W M α := ⟨p, fun w => [m w]⟩

/-- Run a traced program for each element of a list, in order. -/
def each (f : γ → Traced W M Unit) : List γ → Traced W M Unit
  | [] => pure ()
  | x :: xs => do
    f x
    each f xs

@[simp] theorem prog_pure (a : α) : (pure a : Traced W M α).prog = pure a := rfl

@[simp] theorem prog_bind (t : Traced W M α) (g : α → Traced W M β) :
    (t >>= g).prog = t.prog >>= fun a => (g a).prog := rfl

@[simp] theorem prog_plain (p : Prog W α) : (plain p : Traced W M α).prog = p := rfl

@[simp] theorem prog_mark (m : W → M) (p : Prog W α) : (mark m p).prog = p := rfl

theorem prog_each {f : γ → Traced W M Unit} {g : γ → Prog W Unit} (h : ∀ x, (f x).prog = g x) :
    (xs : List γ) → (each f xs).prog = Prog.each g xs
  | [] => rfl
  | x :: xs => by
    rw [each, Prog.each, prog_bind, h x, prog_each h xs]

@[simp] theorem marks_pure (a : α) (w : W) : (pure a : Traced W M α).marks w = [] := rfl

@[simp] theorem marks_bind (t : Traced W M α) (g : α → Traced W M β) (w : W) :
    (t >>= g).marks w = t.marks w ++ (g (t.prog.run w).1).marks (t.prog.run w).2 := rfl

@[simp] theorem marks_plain (p : Prog W α) (w : W) : (plain p : Traced W M α).marks w = [] := rfl

@[simp] theorem marks_mark (m : W → M) (p : Prog W α) (w : W) : (mark m p).marks w = [m w] := rfl

/-- The marks of every run are linked. -/
def Follows (R : W → W → Prop) (start stop : M → W) (t : Traced W M α) : Prop :=
  ∀ w, Linked R start stop w (t.marks w) (t.prog.run w).2

namespace Follows

variable {R : W → W → Prop} {start stop : M → W}

theorem pure (hrefl : ∀ w, R w w) (a : α) : Follows R start stop (Pure.pure a : Traced W M α) :=
  hrefl

theorem bind (htrans : ∀ u v w, R u v → R v w → R u w) {t : Traced W M α} {g : α → Traced W M β}
    (ht : Follows R start stop t) (hg : ∀ a, Follows R start stop (g a)) :
    Follows R start stop (t >>= g) := fun w => by
  rw [marks_bind, prog_bind, Prog.run_bind]
  exact (hg _ _).append htrans (ht w)

theorem plain (hrefl : ∀ w, R w w) (htrans : ∀ u v w, R u v → R v w → R u w) {p : Prog W α}
    (h : p.Keeps R) : Follows R start stop (Traced.plain p : Traced W M α) :=
  h.run hrefl htrans

theorem mark (hrefl : ∀ w, R w w) {m : W → M} {p : Prog W α} (hstart : ∀ w, start (m w) = w)
    (hstop : ∀ w, stop (m w) = (p.run w).2) : Follows R start stop (Traced.mark m p) := fun w =>
  ⟨(hstart w).symm ▸ hrefl w, (hstop w).symm ▸ hrefl _⟩

theorem each (hrefl : ∀ w, R w w) (htrans : ∀ u v w, R u v → R v w → R u w)
    {f : γ → Traced W M Unit} (h : ∀ x, Follows R start stop (f x)) :
    (xs : List γ) → Follows R start stop (Traced.each f xs)
  | [] => pure hrefl ()
  | x :: xs => bind htrans (h x) fun _ => each hrefl htrans h xs

end Follows

end Traced
