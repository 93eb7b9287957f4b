import Mathlib.Logic.Relation

/-!
# Programs of atomic steps

A program over a world `W` is a tree of atomic steps: each step reads and changes the world at
once, and its answer chooses the rest of the program. Between two steps other parties may act on
the world. The sequential run of a program, the worlds it passes through and the single step are
all read off the same tree, so a statement about every interruption point needs no second model.

* `Prog.Keeps G p`: every atomic step of `p` moves the world along the relation `G`, from
  whatever world it starts in. It composes without looking at answers.
* `Prog.Meets R I p Q w`: started from `w`, with interference along `R` before each step, every
  step of `p` ends in `I` and the program returns in `Q`. It is the rule for steps whose safety
  depends on what earlier steps of the same program did.

## Main definitions

* `Prog`, its `Monad` instance, `Prog.each`, `Prog.run`, `Prog.visited`, `Prog.step`.
* `Prog.Executes`: a run under interference gets to a step in some world.
* `Prog.Keeps`, `Prog.Meets`, and `Prog.Safe`, a `Meets` whose postcondition is its invariant.
* `Prog.Closed`: a kind of programs that composition stays in.
* `Prog.Couples`: a relation between worlds that two runs keep, with the same answers.

## Main results

* `Prog.Keeps.run`, `Prog.Keeps.visited`: a kept preorder relates start and end, and start and
  every world passed through.
* `Prog.Meets.bind`, `Prog.Meets.of_keeps`, `Prog.Meets.run`, `Prog.Meets.visited`,
  `Prog.Meets.step`, `Prog.Meets.executes`: composition, and what a proof about the tree says about
  runs and steps.
-/

/-- A program over the world `W` returning a value of type `α`. -/
inductive Prog (W : Type) (α : Type) : Type 1
  | ret (a : α) : Prog W α
  | atomic {β : Type} (f : W → β × W) (k : β → Prog W α) : Prog W α

namespace Prog

variable {W α β γ : Type}

/-- Sequential composition. -/
def bind : Prog W α → (α → Prog W β) → Prog W β
  | ret a, g => g a
  | atomic f k, g => atomic f fun b => (k b).bind g

instance : Monad (Prog W) where
  pure := ret
  bind := bind

theorem bind_ret : (p : Prog W α) → p.bind ret = p
  | ret _ => rfl
  | atomic f k => congrArg (atomic f) (funext fun b => bind_ret (k b))

theorem bind_bind (g : α → Prog W β) (h : β → Prog W γ) :
    (p : Prog W α) → (p.bind g).bind h = p.bind fun a => (g a).bind h
  | ret _ => rfl
  | atomic f k => congrArg (atomic f) (funext fun b => bind_bind g h (k b))

instance : LawfulMonad (Prog W) :=
  LawfulMonad.mk' (Prog W) bind_ret (fun _ _ => rfl) fun p g h => bind_bind g h p

/-- One atomic step, returning its answer. -/
def act (f : W → α × W) : Prog W α := atomic f ret

/-- An atomic step that only reads the world. -/
def read (f : W → α) : Prog W α := act fun w => (f w, w)

/-- An atomic step that only changes the world. -/
def update (f : W → W) : Prog W Unit := act fun w => ((), f w)

/-- Run a program for each element of a list, in order. -/
def each (f : γ → Prog W Unit) : List γ → Prog W Unit
  | [] => pure ()
  | x :: xs => do
    f x
    each f xs

/-! ### Running a program -/

/-- The answer and the world after running a program with no interference. -/
def run : Prog W α → W → α × W
  | ret a, w => (a, w)
  | atomic f k, w => (k (f w).1).run (f w).2

/-- The worlds an uninterrupted run passes through, one after each atomic step. -/
def visited : Prog W α → W → List W
  | ret _, _ => []
  | atomic f k, w => (f w).2 :: (k (f w).1).visited (f w).2

/-- The next atomic step of a program, if it has not returned. -/
def step : Prog W α → W → Option (Prog W α × W)
  | ret _, _ => none
  | atomic f k, w => some (k (f w).1, (f w).2)

/-- Some run of the program from `w`, with interference along `R` before each step, gets to the step
`f` in the world `v`. -/
inductive Executes (R : W → W → Prop) (f : W → W) (v : W) : Prog W α → W → Prop
  | now {β : Type} {g : W → β × W} {k : β → Prog W α} {w : W} (hR : R w v)
      (hf : (fun u => (g u).2) = f) : Executes R f v (atomic g k) w
  | later {β : Type} {g : W → β × W} {k : β → Prog W α} {w w' : W} (hR : R w w')
      (h : Executes R f v (k (g w').1) (g w').2) : Executes R f v (atomic g k) w

@[simp] theorem run_pure (a : α) (w : W) : (pure a : Prog W α).run w = (a, w) := rfl

theorem run_bind (g : α → Prog W β) :
    (p : Prog W α) → (w : W) → (p >>= g).run w = (g (p.run w).1).run (p.run w).2
  | ret _, _ => rfl
  | atomic f k, w => run_bind g (k (f w).1) (f w).2

@[simp] theorem run_bind_fst (p : Prog W α) (g : α → Prog W β) (w : W) :
    ((p >>= g).run w).1 = ((g (p.run w).1).run (p.run w).2).1 := by rw [run_bind]

@[simp] theorem run_bind_snd (p : Prog W α) (g : α → Prog W β) (w : W) :
    ((p >>= g).run w).2 = ((g (p.run w).1).run (p.run w).2).2 := by rw [run_bind]

@[simp] theorem run_act (f : W → α × W) (w : W) : (act f).run w = f w := rfl

@[simp] theorem run_read (f : W → α) (w : W) : (read f).run w = (f w, w) := rfl

@[simp] theorem run_update (f : W → W) (w : W) : (update f).run w = ((), f w) := rfl

theorem visited_bind (g : α → Prog W β) : (p : Prog W α) → (w : W) →
    (p >>= g).visited w = p.visited w ++ (g (p.run w).1).visited (p.run w).2
  | ret _, _ => rfl
  | atomic f k, w => congrArg ((f w).2 :: ·) (visited_bind g (k (f w).1) (f w).2)

/-- A program that takes a step passes through the world it ends in. -/
theorem run_mem_visited : (p : Prog W α) → (w : W) → p.step w ≠ none → (p.run w).2 ∈ p.visited w
  | ret _, _, h => absurd rfl h
  | atomic f k, w, _ => by
    cases hk : k (f w).1 with
    | ret a => simp [run, visited, hk]
    | atomic g l =>
      have ih := run_mem_visited (k (f w).1) (f w).2 (by rw [hk]; exact Option.some_ne_none _)
      exact List.mem_cons_of_mem _ ih

/-! ### Relations kept by every step -/

/-- Every atomic step of the program moves the world along `G`. -/
def Keeps (G : W → W → Prop) : Prog W α → Prop
  | ret _ => True
  | atomic f k => (∀ w, G w (f w).2) ∧ ∀ b, (k b).Keeps G

namespace Keeps

variable {G : W → W → Prop}

theorem pure (a : α) : (Pure.pure a : Prog W α).Keeps G := trivial

theorem act {f : W → α × W} (h : ∀ w, G w (f w).2) : (Prog.act f).Keeps G :=
  ⟨h, fun _ => trivial⟩

theorem bind {g : α → Prog W β} :
    {p : Prog W α} → p.Keeps G → (∀ a, (g a).Keeps G) → (p >>= g).Keeps G
  | ret a, _, hg => hg a
  | atomic _ _, hp, hg => ⟨hp.1, fun b => bind (hp.2 b) hg⟩

theorem read (hG : ∀ w, G w w) (f : W → α) : (Prog.read f).Keeps G := act hG

theorem update {f : W → W} (h : ∀ w, G w (f w)) : (Prog.update f).Keeps G := act h

theorem each {f : γ → Prog W Unit} (h : ∀ x, (f x).Keeps G) :
    (xs : List γ) → (Prog.each f xs).Keeps G
  | [] => pure ()
  | x :: xs => bind (h x) fun _ => each h xs

theorem mono {H : W → W → Prop} (hGH : ∀ w w', G w w' → H w w') :
    {p : Prog W α} → p.Keeps G → p.Keeps H
  | ret _, _ => trivial
  | atomic _ _, hp => ⟨fun w => hGH _ _ (hp.1 w), fun b => mono hGH (hp.2 b)⟩

/-- One step of a program under way moves the world along `G`, and so does the rest. -/
theorem step : {p p' : Prog W α} → {w w' : W} → p.Keeps G → p.step w = some (p', w') →
    G w w' ∧ p'.Keeps G
  | ret _, _, _, _, _, hs => by simp [Prog.step] at hs
  | atomic f k, p', w, w', hp, hs => by
    obtain ⟨rfl, rfl⟩ : k (f w).1 = p' ∧ (f w).2 = w' := by simpa [Prog.step] using hs
    exact ⟨hp.1 w, hp.2 _⟩

/-- A kept preorder relates the start of a run to its end. -/
theorem run (hrefl : ∀ w, G w w) (htrans : ∀ u v w, G u v → G v w → G u w) :
    {p : Prog W α} → p.Keeps G → (w : W) → G w (p.run w).2
  | ret _, _, w => hrefl w
  | atomic _ _, hp, w => htrans _ _ _ (hp.1 w) (run hrefl htrans (hp.2 _) _)

/-- A kept preorder relates the start of a run to every world it passes through. -/
theorem visited (htrans : ∀ u v w, G u v → G v w → G u w) :
    {p : Prog W α} → p.Keeps G → (w : W) → ∀ w' ∈ p.visited w, G w w'
  | ret _, _, _ => by simp [Prog.visited]
  | atomic f k, hp, w => by
    intro w' hw'
    rcases List.mem_cons.mp hw' with rfl | hw'
    · exact hp.1 w
    · exact htrans _ _ _ (hp.1 w) (visited htrans (hp.2 _) _ w' hw')

end Keeps

/-! ### Steps whose safety depends on earlier steps -/

/-- From `w`, with interference along `R` before each step, every step of the program ends in
`I` and the program returns in `Q`. -/
def Meets (R : W → W → Prop) (I : W → Prop) : Prog W α → (α → W → Prop) → W → Prop
  | ret a, Q, w => Q a w
  | atomic f k, Q, w => ∀ w', R w w' → I (f w').2 ∧ (k (f w').1).Meets R I Q (f w').2

namespace Meets

variable {R : W → W → Prop} {I : W → Prop}

theorem pure {a : α} {Q : α → W → Prop} {w : W} (h : Q a w) :
    (Pure.pure a : Prog W α).Meets R I Q w := h

theorem act {f : W → α × W} {Q : α → W → Prop} {w : W}
    (h : ∀ w', R w w' → I (f w').2 ∧ Q (f w').1 (f w').2) : (Prog.act f).Meets R I Q w := h

theorem trivial : (p : Prog W α) → (w : W) → p.Meets R (fun _ => True) (fun _ _ => True) w
  | ret _, _ => True.intro
  | atomic f k, _ => fun w' _ => ⟨True.intro, trivial (k (f w').1) (f w').2⟩

theorem bind {g : α → Prog W β} {P : α → W → Prop} {Q : β → W → Prop} :
    {p : Prog W α} → {w : W} → p.Meets R I P w → (∀ a w, P a w → (g a).Meets R I Q w) →
      (p >>= g).Meets R I Q w
  | ret a, w, hp, hg => hg a w hp
  | atomic _ _, _, hp, hg => fun w' hw' => ⟨(hp w' hw').1, bind (hp w' hw').2 hg⟩

theorem mono {P Q : α → W → Prop} (hPQ : ∀ a w, P a w → Q a w) :
    {p : Prog W α} → {w : W} → p.Meets R I P w → p.Meets R I Q w
  | ret _, _, hp => hPQ _ _ hp
  | atomic _ _, _, hp => fun w' hw' => ⟨(hp w' hw').1, mono hPQ (hp w' hw').2⟩

theorem mono_inv {I' : W → Prop} (hI : ∀ w, I w → I' w) {Q : α → W → Prop} :
    {p : Prog W α} → {w : W} → p.Meets R I Q w → p.Meets R I' Q w
  | ret _, _, hp => hp
  | atomic _ _, _, hp => fun w' hw' => ⟨hI _ (hp w' hw').1, mono_inv hI (hp w' hw').2⟩

theorem each {f : γ → Prog W Unit} (h : ∀ x w, I w → (f x).Meets R I (fun _ => I) w) :
    (xs : List γ) → {w : W} → I w → (Prog.each f xs).Meets R I (fun _ => I) w
  | [], _, hw => hw
  | x :: xs, w, hw => bind (h x w hw) fun _ _ hw' => each h xs hw'

/-- A program whose steps keep `I` wherever they start, run under interference that keeps `I`,
stays in `I`. -/
theorem of_keeps (hR : ∀ w w', R w w' → I w → I w') :
    {p : Prog W α} → p.Keeps (fun w w' => I w → I w') → {w : W} → I w →
      p.Meets R I (fun _ => I) w
  | ret _, _, _, hw => hw
  | atomic _ _, hp, _, hw => fun w' hw' =>
    have h := hp.1 w' (hR _ _ hw' hw)
    ⟨h, of_keeps hR (hp.2 _) h⟩

/-- What holds of the returned world in every run. -/
theorem run (hR : ∀ w, R w w) {Q : α → W → Prop} :
    {p : Prog W α} → {w : W} → p.Meets R I Q w → Q (p.run w).1 (p.run w).2
  | ret _, _, hp => hp
  | atomic _ _, w, hp =>
    have h := run hR (hp w (hR w)).2
    h

/-- Every world an uninterrupted run passes through satisfies `I`. -/
theorem visited (hR : ∀ w, R w w) {Q : α → W → Prop} :
    {p : Prog W α} → {w : W} → p.Meets R I Q w → ∀ w' ∈ p.visited w, I w'
  | ret _, _, _ => by simp [Prog.visited]
  | atomic f k, w, hp => by
    intro w' hw'
    rcases List.mem_cons.mp hw' with rfl | hw'
    · exact (hp w (hR w)).1
    · exact visited hR (hp w (hR w)).2 w' hw'

/-- A disturbance before the first step is harmless when the interference covers it and the
postcondition survives it. -/
theorem interfere {D : W → W → Prop} (hR : ∀ u v w, D u v → R v w → R u w) {Q : α → W → Prop}
    (hQ : ∀ a w w', D w w' → Q a w → Q a w') :
    {p : Prog W α} → {w w' : W} → p.Meets R I Q w → D w w' → p.Meets R I Q w'
  | ret a, w, w', hp, hw => hQ a w w' hw hp
  | atomic _ _, _, _, hp, hw => fun _ hw' => hp _ (hR _ _ _ hw hw')

/-- One step of a program under way ends in `I` and leaves a program that still meets `Q`. -/
theorem step {Q : α → W → Prop} : {p p' : Prog W α} → {w w' : W} → p.Meets R I Q w → R w w →
    p.step w = some (p', w') → I w' ∧ p'.Meets R I Q w'
  | ret _, _, _, _, _, _, hs => by simp [Prog.step] at hs
  | atomic f k, p', w, w', hp, hw, hs => by
    obtain ⟨rfl, rfl⟩ : k (f w).1 = p' ∧ (f w).2 = w' := by simpa [Prog.step] using hs
    exact hp w hw

/-- A program each step of which ends in `I`, whatever interference there was before it. -/
theorem of_steps {G : W → W → Prop} (hI : ∀ u v w, R u v → G v w → I w) :
    {p : Prog W α} → p.Keeps G → (w : W) → p.Meets R I (fun _ _ => True) w
  | ret _, _, _ => True.intro
  | atomic _ _, hp, _ => fun w' hw' => ⟨hI _ _ _ hw' (hp.1 w'), of_steps hI (hp.2 _) _⟩

/-- Every world in which a run executes a step satisfies `I`. -/
theorem executes (hR : ∀ w w', R w w' → I w → I w') {f : W → W} {v w : W} {p : Prog W α}
    {Q : α → W → Prop} (hp : p.Meets R I Q w) (hw : I w) (h : p.Executes R f v w) : I v := by
  induction h with
  | now hRv _ => exact hR _ _ hRv hw
  | later hRw _ ih =>
    have hnext := hp _ hRw
    exact ih hnext.2 hnext.1

end Meets

/-! ### Kinds of programs -/

/-- A kind of programs that has every program without a step, and that composition stays in. -/
structure Closed (P : (α : Type) → Prog W α → Prop) : Prop where
  pure {α : Type} (a : α) : P α (Pure.pure a)
  bind {α β : Type} {p : Prog W α} {g : α → Prog W β} (hp : P α p) (hg : ∀ a, P β (g a)) :
    P β (p >>= g)

namespace Closed

variable {P : (α : Type) → Prog W α → Prop}

/-- A program for each element of a list whose elements it is of the kind for. -/
theorem eachOf (h : Closed P) {f : γ → Prog W Unit} :
    (xs : List γ) → (∀ x ∈ xs, P Unit (f x)) → P Unit (Prog.each f xs)
  | [], _ => h.pure ()
  | x :: xs, hf => h.bind (hf x List.mem_cons_self) fun _ =>
    eachOf h xs fun x' hx' => hf x' (List.mem_cons_of_mem x hx')

theorem each (h : Closed P) {f : γ → Prog W Unit} (hf : ∀ x, P Unit (f x)) (xs : List γ) :
    P Unit (Prog.each f xs) := eachOf h xs fun x _ => hf x

end Closed

/-- The programs whose steps keep a relation. -/
theorem closed_keeps (G : W → W → Prop) : Closed (W := W) fun _ p => p.Keeps G := ⟨.pure, .bind⟩

/-- The programs each step of which ends in `I`, wherever they start. -/
theorem closed_meets (R : W → W → Prop) (I : W → Prop) :
    Closed (W := W) fun _ p => ∀ w, p.Meets R I (fun _ _ => True) w :=
  ⟨fun _ _ => True.intro, fun hp hg w => .bind (hp w) fun a w' _ => hg a w'⟩

/-! ### Two runs -/

/-- From related worlds the program gives one answer, and ends in related worlds. -/
def Couples (R : W → W → Prop) (p : Prog W α) : Prop :=
  ∀ u v, R u v → (p.run u).1 = (p.run v).1 ∧ R (p.run u).2 (p.run v).2

namespace Couples

variable {R : W → W → Prop}

theorem pure (a : α) : Couples R (Pure.pure a : Prog W α) := fun _ _ h => ⟨rfl, h⟩

theorem bind {p : Prog W α} {g : α → Prog W β} (hp : Couples R p) (hg : ∀ a, Couples R (g a)) :
    Couples R (p >>= g) := fun u v h => by
  obtain ⟨hanswer, hworld⟩ := hp u v h
  rw [run_bind, run_bind, ← hanswer]
  exact hg _ _ _ hworld

theorem update {f : W → W} (h : ∀ u v, R u v → R (f u) (f v)) : Couples R (Prog.update f) :=
  fun u v huv => ⟨rfl, h u v huv⟩

/-- A program that moves every world to a related one, for a relation that goes back and on. -/
theorem of_keeps (hrefl : ∀ w, R w w) (hsymm : ∀ u v, R u v → R v u)
    (htrans : ∀ u v w, R u v → R v w → R u w) {p : Prog W Unit} (hp : p.Keeps R) : Couples R p :=
  fun u v h => ⟨rfl, htrans _ _ _ (hsymm _ _ (hp.run hrefl htrans u))
    (htrans _ _ _ h (hp.run hrefl htrans v))⟩

end Couples

/-- The programs that couple a relation. -/
theorem closed_couples (R : W → W → Prop) : Closed (W := W) fun _ p => Couples R p := ⟨.pure, .bind⟩

/-! ### Programs that keep an invariant -/

/-- Started in `I`, with interference along `R`, the program stays in `I`. -/
def Safe (R : W → W → Prop) (I : W → Prop) (p : Prog W α) : Prop :=
  ∀ w, I w → p.Meets R I (fun _ => I) w

namespace Safe

variable {R : W → W → Prop} {I : W → Prop}

theorem pure (a : α) : Safe R I (Pure.pure a : Prog W α) := fun _ hw => Meets.pure hw

theorem bind {p : Prog W α} {g : α → Prog W β} (hp : Safe R I p) (hg : ∀ a, Safe R I (g a)) :
    Safe R I (p >>= g) := fun w hw => Meets.bind (hp w hw) fun a w' hw' => hg a w' hw'

theorem each {f : γ → Prog W Unit} (h : ∀ x, Safe R I (f x)) (xs : List γ) :
    Safe R I (Prog.each f xs) := fun _ hw => Meets.each (fun x w hw => h x w hw) xs hw

theorem of_keeps {G : W → W → Prop} (hR : ∀ w w', R w w' → I w → I w')
    (hG : ∀ w w', G w w' → I w → I w') {p : Prog W α} (hp : p.Keeps G) : Safe R I p :=
  fun _ hw => Meets.of_keeps hR (hp.mono hG) hw

end Safe

/-- The programs that keep an invariant. -/
theorem closed_safe (R : W → W → Prop) (I : W → Prop) : Closed (W := W) fun _ p => Safe R I p :=
  ⟨.pure, .bind⟩

end Prog
