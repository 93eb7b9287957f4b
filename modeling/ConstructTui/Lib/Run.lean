import Mathlib.Data.Option.Basic

/-!
# Runs of a partial step function

A machine is a step function that takes a state and a label, and answers the next state when the
label is possible there. A run is a list of labels. A guard is a condition on a state and the label
taken from it; a run that meets the guard at every step keeps what every guarded step keeps.

## Main definitions

* `Run.after`: the state a run ends in.
* `Run.Along`: every step of the run meets a guard.
* `Run.AlongPast`: the same for a guard that looks at the steps before.
* `Run.Always`: every state of the run has a property.
* `Run.AlwaysUntil`: every state of the run before a step of some kind has a property.

## Main results

* `Run.invariant`, `Run.invariant_along`: what every step, or every guarded step, keeps.
* `Run.iff_along`: what exactly the guarded steps keep holds after exactly the guarded runs.
* `Run.always_iff_alongPast`, `Run.always_iff_along`, `Run.always_iff_along_given`: the properties
  that hold throughout exactly the guarded runs.
* `Run.alwaysUntil_iff_alongUntil`: the same for properties that need only hold for a while.
* `Run.known_after`: what is known after a run, and how it became known.
* `Run.after_append`, `Run.after_ending`: a run in two parts.
-/

namespace Run

variable {S A : Type*}

/-- The state a run ends in, if every label is possible where it is taken. -/
def after (step : S → A → Option S) : S → List A → Option S
  | s, [] => some s
  | s, a :: as => (step s a).bind fun s' => after step s' as

/-- Every step of the run meets the guard. -/
def Along (step : S → A → Option S) (G : S → A → Prop) : S → List A → Prop
  | _, [] => True
  | s, a :: as => G s a ∧ ∀ s' ∈ step s a, Along step G s' as

variable {step : S → A → Option S} {G : S → A → Prop} {I : S → Prop}
  {G' : List (S × A) → S → A → Prop}

/-- A guard that can be decided can be decided along a run. -/
def decidableAlong (step : S → A → Option S) (G : S → A → Prop) [∀ s a, Decidable (G s a)] :
    (s : S) → (as : List A) → Decidable (Along step G s as)
  | _, [] => isTrue trivial
  | s, a :: as =>
    have : ∀ s', Decidable (Along step G s' as) := fun s' => decidableAlong step G s' as
    inferInstanceAs (Decidable (G s a ∧ ∀ s' ∈ step s a, Along step G s' as))

instance [∀ s a, Decidable (G s a)] (s : S) (as : List A) : Decidable (Along step G s as) :=
  decidableAlong step G s as

theorem after_cons {s s' : S} {a : A} {as : List A} (h : after step s (a :: as) = some s') :
    ∃ t, step s a = some t ∧ after step t as = some s' := Option.bind_eq_some_iff.mp h

theorem Along.next {s t : S} {a : A} {as : List A} (h : Along step G s (a :: as))
    (ht : step s a = some t) : Along step G t as := h.2 t ht

theorem Along.mono {H : S → A → Prop} (hGH : ∀ s a, G s a → H s a) {s : S} {as : List A}
    (h : Along step G s as) : Along step H s as := by
  induction as generalizing s with
  | nil => trivial
  | cons a as ih => exact ⟨hGH s a h.1, fun t ht => ih (h.2 t ht)⟩

theorem Along.and {H : S → A → Prop} {s : S} {as : List A} (hG : Along step G s as)
    (hH : Along step H s as) : Along step (fun s a => G s a ∧ H s a) s as := by
  induction as generalizing s with
  | nil => trivial
  | cons a as ih => exact ⟨⟨hG.1, hH.1⟩, fun t ht => ih (hG.2 t ht) (hH.2 t ht)⟩

theorem Along.of_isPrefix {s : S} {as bs : List A} (h : Along step G s as) (hbs : bs <+: as) :
    Along step G s bs := by
  induction bs generalizing s as with
  | nil => trivial
  | cons b bs ih =>
    cases as with
    | nil => exact absurd (List.prefix_nil.mp hbs) (List.cons_ne_nil b bs)
    | cons a as =>
      obtain ⟨rfl, hrest⟩ := List.cons_prefix_cons.mp hbs
      exact ⟨h.1, fun t ht => ih (h.2 t ht) hrest⟩

/-- What every step keeps holds after every run. -/
theorem invariant (hstep : ∀ s a s', I s → step s a = some s' → I s') {s s' : S} {as : List A}
    (hs : I s) (h : after step s as = some s') : I s' := by
  induction as generalizing s with
  | nil => exact Option.some.inj h ▸ hs
  | cons a as ih =>
    obtain ⟨t, ht, h⟩ := after_cons h
    exact ih (hstep s a t hs ht) h

/-- What every guarded step keeps holds after every guarded run. -/
theorem invariant_along (hstep : ∀ s a s', I s → G s a → step s a = some s' → I s') {s s' : S}
    {as : List A} (hs : I s) (hG : Along step G s as) (h : after step s as = some s') : I s' := by
  induction as generalizing s with
  | nil => exact Option.some.inj h ▸ hs
  | cons a as ih =>
    obtain ⟨t, ht, h⟩ := after_cons h
    exact ih (hstep s a t hs hG.1 ht) (hG.next ht) h

/-- What a step keeps exactly when it meets the guard holds after a run exactly when every step of
the run does. -/
theorem iff_along (hstep : ∀ s a s', step s a = some s' → (I s' ↔ I s ∧ G s a)) {s s' : S}
    {as : List A} (h : after step s as = some s') : I s' ↔ I s ∧ Along step G s as := by
  induction as generalizing s with
  | nil => simp [← Option.some.inj h, Along]
  | cons a as ih =>
    obtain ⟨t, ht, h⟩ := after_cons h
    rw [ih h, hstep s a t ht, and_assoc]
    refine and_congr_right fun _ => and_congr_right fun _ => ⟨fun ha => ?_, fun ha => ha t ht⟩
    intro t' ht'
    rwa [← Option.some.inj (ht.symm.trans ht')]

/-! ### Properties of every state of a run -/

/-- Every state of the run has the property. -/
def Always (step : S → A → Option S) (P : S → Prop) (s : S) (as : List A) : Prop :=
  ∀ bs t, bs <+: as → after step s bs = some t → P t

theorem Always.start {P : S → Prop} {s : S} {as : List A} (h : Always step P s as) : P s :=
  h [] s List.nil_prefix rfl

theorem Always.mono {P Q : S → Prop} {s : S} {as : List A} (h : Always step P s as)
    (hPQ : ∀ s, P s → Q s) : Always step Q s as := fun bs t hbs ht => hPQ t (h bs t hbs ht)

theorem always_nil {P : S → Prop} {s : S} : Always step P s [] ↔ P s := by
  refine ⟨Always.start, fun hs bs t hbs ht => ?_⟩
  rw [List.prefix_nil.mp hbs] at ht
  exact Option.some.inj ht ▸ hs

theorem always_cons {P : S → Prop} {s t : S} {a : A} {as : List A} (ht : step s a = some t) :
    Always step P s (a :: as) ↔ P s ∧ Always step P t as := by
  constructor
  · intro h
    refine ⟨h.start, fun bs u hbs hu => h (a :: bs) u (List.cons_prefix_cons.mpr ⟨rfl, hbs⟩) ?_⟩
    rw [after, ht]
    exact hu
  · rintro ⟨hs, h⟩ bs u hbs hu
    cases bs with
    | nil => exact Option.some.inj hu ▸ hs
    | cons b bs =>
      obtain ⟨rfl, hrest⟩ := List.cons_prefix_cons.mp hbs
      rw [after, ht] at hu
      exact h bs u hrest hu

/-- Every step of the run meets a guard that looks at the steps before it. -/
def AlongPast (step : S → A → Option S) (G : List (S × A) → S → A → Prop) :
    List (S × A) → S → List A → Prop
  | _, _, [] => True
  | past, s, a :: as => G past s a ∧ ∀ s' ∈ step s a, AlongPast step G (past ++ [(s, a)]) s' as

theorem alongPast_const (past : List (S × A)) {s : S} {as : List A} :
    AlongPast step (fun _ => G) past s as ↔ Along step G s as := by
  induction as generalizing past s with
  | nil => rfl
  | cons a as ih => exact and_congr_right fun _ => forall₂_congr fun t _ => ih _

/-- What the guard and an invariant kept by guarded steps imply holds at every step of a guarded
run. -/
theorem AlongPast.imp {I : List (S × A) → S → Prop} {G H : List (S × A) → S → A → Prop}
    (hI : ∀ past s a s', I past s → step s a = some s' → G past s a → I (past ++ [(s, a)]) s')
    (hH : ∀ past s a, I past s → G past s a → H past s a) {past : List (S × A)} {s : S}
    {as : List A}
    (hs : I past s) (hG : AlongPast step G past s as) : AlongPast step H past s as := by
  induction as generalizing past s with
  | nil => trivial
  | cons a as ih =>
    refine ⟨hH past s a hs hG.1, fun t ht => ?_⟩
    exact ih (hI past s a t hs ht hG.1) (hG.2 t ht)

/-- The same when neither invariant nor guards look back. -/
theorem Along.imp {H : S → A → Prop} (hI : ∀ s a s', I s → step s a = some s' → G s a → I s')
    (hH : ∀ s a, I s → G s a → H s a) {s : S} {as : List A} (hs : I s) (hG : Along step G s as) :
    Along step H s as :=
  (alongPast_const []).mp (.imp (I := fun _ => I) (fun _ => hI) (fun _ => hH) hs
    ((alongPast_const []).mpr hG))

/-- A step in the middle of a guarded run meets the guard. -/
theorem AlongPast.at {G : List (S × A) → S → A → Prop} {past : List (S × A)} {s t : S}
    {as bs : List A} {a : A} (hG : AlongPast step G past s (as ++ a :: bs))
    (ht : after step s as = some t) : ∃ past', G past' t a := by
  induction as generalizing past s with
  | nil => exact ⟨past, Option.some.inj ht ▸ hG.1⟩
  | cons b as ih =>
    obtain ⟨u, hu, ht⟩ := after_cons ht
    exact ih (hG.2 u hu) ht

theorem Along.at {s t : S} {as bs : List A} {a : A} (hG : Along step G s (as ++ a :: bs))
    (ht : after step s as = some t) : G t a := by
  obtain ⟨-, h⟩ := AlongPast.at ((alongPast_const (G := G) []).mpr hG) ht
  exact h

/-- Every step of a run meets the guard as soon as each of them does where it is taken. -/
theorem along_iff_forall {s : S} {as : List A} : Along step G s as ↔
    ∀ bs a cs t, as = bs ++ a :: cs → after step s bs = some t → G t a := by
  constructor
  · rintro h bs a cs t rfl ht
    exact h.at ht
  · intro h
    induction as generalizing s with
    | nil => trivial
    | cons a as ih =>
      refine ⟨h [] a as s rfl rfl, fun t ht => ih fun bs b cs u has hu => ?_⟩
      refine h (a :: bs) b cs u (congrArg (a :: ·) has) ?_
      rw [after, ht]
      exact hu

/-- A guard that can be decided can be decided along a run. -/
def decidableAlongPast (step : S → A → Option S) (G : List (S × A) → S → A → Prop)
    [∀ past s a, Decidable (G past s a)] :
    (past : List (S × A)) → (s : S) → (as : List A) → Decidable (AlongPast step G past s as)
  | _, _, [] => isTrue trivial
  | past, s, a :: as =>
    have : ∀ s', Decidable (AlongPast step G (past ++ [(s, a)]) s' as) :=
      fun s' => decidableAlongPast step G (past ++ [(s, a)]) s' as
    inferInstanceAs (Decidable (G past s a ∧
      ∀ s' ∈ step s a, AlongPast step G (past ++ [(s, a)]) s' as))

instance [∀ past s a, Decidable (G' past s a)] (past : List (S × A)) (s : S) (as : List A) :
    Decidable (AlongPast step G' past s as) := decidableAlongPast step G' past s as

/-- Let every guarded step keep `I`, which implies `P`, and let a step from `I` that ends in `P`
meet the guard. Then `P` holds throughout exactly the guarded runs. -/
theorem always_iff_alongPast {I : List (S × A) → S → Prop} {P : S → Prop}
    {G : List (S × A) → S → A → Prop} (hP : ∀ past s, I past s → P s)
    (hI : ∀ past s a s', I past s → step s a = some s' → G past s a → I (past ++ [(s, a)]) s')
    (hG : ∀ past s a s', I past s → step s a = some s' → P s' → G past s a)
    (past : List (S × A)) {s s' : S} {as : List A} (hs : I past s)
    (h : after step s as = some s') : Always step P s as ↔ AlongPast step G past s as := by
  induction as generalizing past s with
  | nil => exact always_nil.trans (iff_of_true (hP past s hs) trivial)
  | cons a as ih =>
    obtain ⟨t, ht, h⟩ := after_cons h
    rw [always_cons ht]
    constructor
    · rintro ⟨-, hrest⟩
      have hguard := hG past s a t hs ht hrest.start
      refine ⟨hguard, fun t' ht' => ?_⟩
      rw [← Option.some.inj (ht.symm.trans ht')]
      exact (ih _ (hI past s a t hs ht hguard) h).mp hrest
    · rintro ⟨hguard, hrest⟩
      exact ⟨hP past s hs, (ih _ (hI past s a t hs ht hguard) h).mpr (hrest t ht)⟩

/-- The same when neither invariant nor guard looks back. -/
theorem always_iff_along {P : S → Prop} (hP : ∀ s, I s → P s)
    (hI : ∀ s a s', I s → step s a = some s' → G s a → I s')
    (hG : ∀ s a s', I s → step s a = some s' → P s' → G s a) {s s' : S} {as : List A} (hs : I s)
    (h : after step s as = some s') : Always step P s as ↔ Along step G s as :=
  have hpast := always_iff_alongPast (I := fun _ => I) (G := fun _ => G) (fun _ => hP)
    (fun _ => hI) (fun _ => hG) [] hs h
  hpast.trans (alongPast_const [])

/-- The same among the runs that an assumption restricts. -/
theorem always_iff_along_given {H : S → A → Prop} {P : S → Prop} (hP : ∀ s, I s → P s)
    (hI : ∀ s a s', I s → H s a → step s a = some s' → G s a → I s')
    (hG : ∀ s a s', I s → H s a → step s a = some s' → P s' → G s a) {s s' : S} {as : List A}
    (hs : I s) (hH : Along step H s as) (h : after step s as = some s') :
    Always step P s as ↔ Along step G s as := by
  induction as generalizing s with
  | nil => exact always_nil.trans (iff_of_true (hP s hs) trivial)
  | cons a as ih =>
    obtain ⟨t, ht, h⟩ := after_cons h
    rw [always_cons ht]
    constructor
    · rintro ⟨-, hrest⟩
      have hguard := hG s a t hs hH.1 ht hrest.start
      refine ⟨hguard, fun t' ht' => ?_⟩
      rw [← Option.some.inj (ht.symm.trans ht')]
      exact (ih (hI s a t hs hH.1 ht hguard) (hH.next ht) h).mp hrest
    · rintro ⟨hguard, hrest⟩
      exact ⟨hP s hs, (ih (hI s a t hs hH.1 ht hguard) (hH.next ht) h).mpr (hrest t ht)⟩

/-- What every guarded step keeps holds throughout every guarded run. -/
theorem always_of_along (hstep : ∀ s a s', I s → G s a → step s a = some s' → I s') {s : S}
    {as : List A} (hs : I s) (hG : Along step G s as) : Always step I s as := by
  intro bs t hbs ht
  exact invariant_along hstep hs (hG.of_isPrefix hbs) ht

/-! ### Properties that hold for a while -/

/-- Some step of the run is of the kind `U`. -/
def Passes (step : S → A → Option S) (U : S → A → Prop) : S → List A → Prop
  | _, [] => False
  | s, a :: as => U s a ∨ ∃ s' ∈ step s a, Passes step U s' as

/-- Every state of the run has the property, unless a step of the kind `U` was taken before. -/
def AlwaysUntil (step : S → A → Option S) (U : S → A → Prop) (P : S → Prop) (s : S)
    (as : List A) : Prop :=
  ∀ bs t, bs <+: as → after step s bs = some t → P t ∨ Passes step U s bs

/-- Every step of the run meets the guard, up to the first step of the kind `U`. -/
def AlongUntil (step : S → A → Option S) (U G : S → A → Prop) : S → List A → Prop
  | _, [] => True
  | s, a :: as => U s a ∨ G s a ∧ ∀ s' ∈ step s a, AlongUntil step U G s' as

variable {U : S → A → Prop}

/-- Both can be decided if the kind and the guard can. -/
def decidablePasses (step : S → A → Option S) (U : S → A → Prop) [∀ s a, Decidable (U s a)] :
    (s : S) → (as : List A) → Decidable (Passes step U s as)
  | _, [] => isFalse id
  | s, a :: as =>
    have : ∀ s', Decidable (Passes step U s' as) := fun s' => decidablePasses step U s' as
    inferInstanceAs (Decidable (U s a ∨ ∃ s' ∈ step s a, Passes step U s' as))

instance [∀ s a, Decidable (U s a)] (s : S) (as : List A) : Decidable (Passes step U s as) :=
  decidablePasses step U s as

def decidableAlongUntil (step : S → A → Option S) (U G : S → A → Prop) [∀ s a, Decidable (U s a)]
    [∀ s a, Decidable (G s a)] : (s : S) → (as : List A) → Decidable (AlongUntil step U G s as)
  | _, [] => isTrue trivial
  | s, a :: as =>
    have : ∀ s', Decidable (AlongUntil step U G s' as) :=
      fun s' => decidableAlongUntil step U G s' as
    inferInstanceAs (Decidable (U s a ∨ G s a ∧ ∀ s' ∈ step s a, AlongUntil step U G s' as))

instance [∀ s a, Decidable (U s a)] [∀ s a, Decidable (G s a)] (s : S) (as : List A) :
    Decidable (AlongUntil step U G s as) := decidableAlongUntil step U G s as

theorem passes_cons {s t : S} {a : A} {as : List A} (ht : step s a = some t) :
    Passes step U s (a :: as) ↔ U s a ∨ Passes step U t as := by
  refine or_congr_right ⟨?_, fun h => ⟨t, ht, h⟩⟩
  rintro ⟨t', ht', h⟩
  exact Option.some.inj (ht'.symm.trans ht) ▸ h

/-- Whatever is known at the end of a run was known at the start, or became known in some step. -/
theorem known_after {X : Type*} {I : (X → Prop) → S → Prop} {U : X → S → A → Prop}
    (hmono : ∀ P Q s, (∀ x, P x → Q x) → I P s → I Q s)
    (hstep : ∀ P s a s', I P s → step s a = some s' → I (fun x => P x ∨ U x s a) s')
    {P : X → Prop} {s s' : S} {as : List A} (hs : I P s) (h : after step s as = some s') :
    I (fun x => P x ∨ Passes step (U x) s as) s' := by
  induction as generalizing P s with
  | nil =>
    obtain rfl := Option.some.inj h
    exact hmono P _ s (fun x => Or.inl) hs
  | cons a as ih =>
    obtain ⟨t, ht, h⟩ := after_cons h
    refine hmono _ _ s' (fun x hx => ?_) (ih (hstep P s a t hs ht) h)
    rw [passes_cons ht]
    exact or_assoc.mp hx

theorem alwaysUntil_nil {P : S → Prop} {s : S} : AlwaysUntil step U P s [] ↔ P s := by
  constructor
  · intro h
    exact (h [] s List.nil_prefix rfl).resolve_right id
  · intro hs bs t hbs ht
    rw [List.prefix_nil.mp hbs] at ht
    exact .inl (Option.some.inj ht ▸ hs)

theorem alwaysUntil_cons {P : S → Prop} {s t : S} {a : A} {as : List A} (ht : step s a = some t) :
    AlwaysUntil step U P s (a :: as) ↔ P s ∧ (U s a ∨ AlwaysUntil step U P t as) := by
  constructor
  · intro h
    refine ⟨(h [] s List.nil_prefix rfl).resolve_right id, ?_⟩
    by_cases hU : U s a
    · exact .inl hU
    · refine .inr fun bs u hbs hu => ?_
      have hlater :=
        h (a :: bs) u (List.cons_prefix_cons.mpr ⟨rfl, hbs⟩) (by rw [after, ht]; exact hu)
      rw [passes_cons ht] at hlater
      exact hlater.imp_right fun h => h.resolve_left hU
  · rintro ⟨hs, h⟩ bs u hbs hu
    cases bs with
    | nil => exact .inl (Option.some.inj hu ▸ hs)
    | cons b bs =>
      obtain ⟨rfl, hrest⟩ := List.cons_prefix_cons.mp hbs
      rw [after, ht] at hu
      rw [passes_cons ht]
      obtain hU | h := h
      · exact .inr (.inl hU)
      · exact (h bs u hrest hu).imp_right .inr

/-- Let every guarded step keep `I`, which implies `P`, and let a step from `I` that ends in `P`
meet the guard, up to the first step of the kind `U`. Then `P` holds until then in exactly the runs
that are guarded until then. -/
theorem alwaysUntil_iff_alongUntil {P : S → Prop} (hP : ∀ s, I s → P s)
    (hI : ∀ s a s', I s → ¬U s a → step s a = some s' → G s a → I s')
    (hG : ∀ s a s', I s → ¬U s a → step s a = some s' → P s' → G s a) {s s' : S} {as : List A}
    (hs : I s) (h : after step s as = some s') :
    AlwaysUntil step U P s as ↔ AlongUntil step U G s as := by
  induction as generalizing s with
  | nil => exact alwaysUntil_nil.trans (iff_of_true (hP s hs) trivial)
  | cons a as ih =>
    obtain ⟨t, ht, h⟩ := after_cons h
    rw [alwaysUntil_cons ht]
    by_cases hU : U s a
    · exact iff_of_true ⟨hP s hs, .inl hU⟩ (.inl hU)
    · constructor
      · rintro ⟨-, hrest⟩
        have hrest := hrest.resolve_left hU
        have hPt : P t := (hrest [] t List.nil_prefix rfl).resolve_right id
        have hguard := hG s a t hs hU ht hPt
        refine .inr ⟨hguard, fun t' ht' => ?_⟩
        rw [← Option.some.inj (ht.symm.trans ht')]
        exact (ih (hI s a t hs hU ht hguard) h).mp hrest
      · rintro (hU' | ⟨hguard, hrest⟩)
        · exact absurd hU' hU
        · exact ⟨hP s hs, .inr ((ih (hI s a t hs hU ht hguard) h).mpr (hrest t ht))⟩

theorem after_append {s : S} {as bs : List A} :
    after step s (as ++ bs) = (after step s as).bind fun t => after step t bs := by
  induction as generalizing s with
  | nil => rfl
  | cons a as ih =>
    rw [List.cons_append, after, after, Option.bind_assoc]
    exact congrArg (step s a).bind (funext fun t => ih)

/-- The state a run ends in; a run that is not possible stays where it is. -/
def ending (step : S → A → Option S) (s : S) (as : List A) : S := (after step s as).getD s

theorem after_ending {s : S} {as bs : List A} (h : (after step s (as ++ bs)).isSome) :
    after step (ending step s as) bs = some (ending step s (as ++ bs)) := by
  obtain ⟨u, hu⟩ := Option.isSome_iff_exists.mp h
  obtain ⟨t, ht, hbs⟩ := Option.bind_eq_some_iff.mp (after_append.symm.trans hu)
  rw [ending, ending, ht, hu]
  exact hbs

theorem after_ending_nil {s : S} {bs : List A} (h : (after step s bs).isSome) :
    after step s bs = some (ending step s bs) := by
  obtain ⟨u, hu⟩ := Option.isSome_iff_exists.mp h
  rw [ending, hu]
  rfl

theorem step_ending {s : S} {as : List A} {a : A} (h : (after step s (as ++ [a])).isSome) :
    step (ending step s as) a = some (ending step s (as ++ [a])) := by
  obtain ⟨t, ht, hnil⟩ := after_cons (after_ending h)
  exact ht.trans hnil

end Run
