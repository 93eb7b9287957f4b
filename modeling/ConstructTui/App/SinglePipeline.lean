import Mathlib.Tactic.IntervalCases
import ConstructTui.App.Runs

/-!
# One live pipeline

A pipeline is live from its spawn until the app tells its stream worker to shut down. The app does
so at logout and nowhere else: a new pipeline replaces the channel of the one before, which goes on
over the same database. A logout whose command finds the channel full leaves the pipeline alive as
well.

## Main definitions

* `Sys.live`: how many pipelines are live.
* `Sys.Spawns`, `Sys.Strands`: the steps that spawn a pipeline, and the logouts that fail to stop
  theirs.
* `Sys.Wired`: what the channel the app holds says about the live pipelines.

## Main results

* `Sys.single_live_iff`: the runs in which there is never a second live pipeline.
* `Sys.reauth_spawns_second`: a run in which there is.
-/

variable {ε : Type} {E : AppExternals ε} {ans : Answers ε}

/-- The number of pipelines that were spawned and not told to shut down. -/
def Sys.live (s : Sys ε) : ℕ := s.pipelines.countP fun p => !p.shutDown

theorem Sys.live_eq (s : Sys ε) : s.live = s.wiring.2.count false := by
  rw [live, wiring, List.count, List.countP_map]
  refine List.countP_congr fun p _ => ?_
  cases h : p.shutDown <;> simp [h]

/-! ### What the moves do to the wiring -/

variable (ans) in
theorem wiring_deleteRows (userId : String) (s : Sys ε) :
    (App.deleteRows ans userId s).2.wiring = s.wiring := by
  obtain h | ⟨-, -, h⟩ := App.deleteRows_cases ans userId s
  · rw [h]
  · rw [h]
    refine Prod.ext rfl ?_
    show List.map _ (List.map _ s.pipelines) = _
    rw [List.map_map]
    rfl

theorem Change.wiring {s s' : Sys ε} {input : Input} (h : Change ans s input s') :
    s'.wiring = s.wiring := by
  obtain ⟨base, hrest, rfl | ⟨contact, rfl⟩ | ⟨peerId, -, rfl⟩⟩ := h.rest
  · exact hrest.wiring
  · exact hrest.wiring
  · exact hrest.wiring.trans (wiring_deleteRows ans peerId s.answered)

theorem Started.wiring {s s' : Sys ε} (h : Started E ans s s') :
    s'.wiring = (some s.wiring.2.length, s.wiring.2 ++ [false]) := by
  obtain ⟨userId, deviceId, contactIds, identitySecret, core, hp⟩ := h.pipelines
  have htx : s'.app.streamTx = some s.pipelines.length := congrArg Prod.fst h.handles
  refine Prod.ext ?_ ?_
  · rw [Sys.wiring, htx]
    simp [Sys.wiring]
  · rw [Sys.wiring, hp, List.map_append]
    rfl

/-- A logout shuts down the pipeline whose channel the app holds, if there is room in it. -/
theorem LoggedOut.wiring {s s' : Sys ε} (h : LoggedOut ans s s') :
    s'.wiring = (none, match s.wiring.1, ans.streamHasRoom with
      | some i, true => s.wiring.2.set i true
      | _, _ => s.wiring.2) := by
  have htx : s'.app.streamTx = none := congrArg Prod.fst h.handles
  refine Prod.ext htx ?_
  show s'.pipelines.map Pipeline.shutDown = _
  rw [h.pipelines]
  show _ = match s.app.streamTx, ans.streamHasRoom with
    | some i, true => (s.pipelines.map Pipeline.shutDown).set i true
    | _, _ => s.pipelines.map Pipeline.shutDown
  cases s.app.streamTx with
  | none => rfl
  | some i =>
    cases ans.streamHasRoom with
    | false => rfl
    | true =>
      refine List.ext_getElem? fun j => ?_
      simp only [Sys.streamTrySend, List.getElem?_map, List.getElem?_set, List.length_map]
      by_cases hij : i = j
      · subst hij
        cases hi : s.pipelines[i]? with
        | none => simp_all
        | some p =>
          obtain ⟨hlt, -⟩ := List.getElem?_eq_some_iff.mp hi
          simp [hlt]
      · simp [hij]

/-! ### Spawns and strandings -/

/-- The step spawns a pipeline. -/
def Sys.Spawns (E : AppExternals ε) (s : Sys ε) (a : Label ε) : Prop :=
  ∃ ans input, s.Takes a ans input ∧ Starts E ans s input

/-- The step logs out, and its shutdown finds no room in the worker's channel. -/
def Sys.Strands (s : Sys ε) (a : Label ε) : Prop :=
  ∃ ans input, s.Takes a ans input ∧ LogsOut ans s input ∧ s.app.streamTx.isSome ∧
    ans.streamHasRoom = false

/-- A pipeline is spawned only while the app holds no channel, and no logout before has left a
pipeline behind. -/
def Sys.SpawnsAlone (E : AppExternals ε) (past : List (Sys ε × Label ε)) (s : Sys ε)
    (a : Label ε) : Prop :=
  s.Spawns E a → s.app.streamTx = none ∧ ∀ x ∈ past, ¬x.1.Strands x.2

/-- What the channel the app holds says about the live pipelines, in a run that has not spawned one
beside another. -/
structure Sys.Wired (past : List (Sys ε × Label ε)) (s : Sys ε) : Prop where
  held : ∀ i, s.wiring.1 = some i → s.wiring.2[i]? = some false
  fresh : (∀ x ∈ past, ¬x.1.Strands x.2) → s.wiring.2.count false = s.wiring.1.isSome.toNat
  stranded : (∃ x ∈ past, x.1.Strands x.2) → s.wiring.1 = none ∧ s.wiring.2.count false = 1

namespace Sys

theorem Wired.live_le {past : List (Sys ε × Label ε)} {s : Sys ε} (h : s.Wired past) :
    s.live ≤ 1 := by
  rw [live_eq]
  by_cases hp : ∃ x ∈ past, x.1.Strands x.2
  · exact (h.stranded hp).2.le
  · rw [h.fresh fun x hx hs => hp ⟨x, hx, hs⟩]
    exact Bool.toNat_le _

/-- A step that strands nothing and leaves the wiring alone. -/
theorem Wired.keep {past : List (Sys ε × Label ε)} {s s' : Sys ε} {a : Label ε} (h : s.Wired past)
    (ha : ¬s.Strands a) (hw : s'.wiring = s.wiring) : s'.Wired (past ++ [(s, a)]) where
  held := by rw [hw]; exact h.held
  fresh hp := by
    rw [hw]
    exact h.fresh fun x hx => hp x (List.mem_append_left _ hx)
  stranded hp := by
    rw [hw]
    obtain ⟨x, hx, hs⟩ := hp
    rcases List.mem_append.mp hx with hx | hx
    · exact h.stranded ⟨x, hx, hs⟩
    · rw [List.mem_singleton.mp hx] at hs
      exact absurd hs ha

/-- The steps of the app's loop that neither strand nor spawn. -/
theorem not_strands {s : Sys ε} {a : Label ε} {input : Input} (ha : s.Takes a ans input)
    (h : ¬(LogsOut ans s input ∧ s.app.streamTx.isSome ∧ ans.streamHasRoom = false)) :
    ¬s.Strands a := by
  rintro ⟨ans', input', ha', hs⟩
  obtain ⟨rfl, rfl⟩ := ha.unique ha'
  exact h hs

/-- A logout does not start anything. -/
theorem not_logsOut_of_starts {s : Sys ε} {input : Input} (h : Starts E ans s input) :
    ¬LogsOut ans s input := by
  intro hl
  cases input with
  | key key => exact Screen.noConfusion (h.1.symm.trans hl.1)
  | event event gone => exact hl

theorem Wired.started {past : List (Sys ε × Label ε)} {s s' : Sys ε} {a : Label ε}
    (h : s.Wired past) (hfree : s.app.streamTx = none ∧ ∀ x ∈ past, ¬x.1.Strands x.2)
    (ha : ¬s.Strands a) (hw : s'.wiring = (some s.wiring.2.length, s.wiring.2 ++ [false])) :
    s'.Wired (past ++ [(s, a)]) := by
  obtain ⟨hnone, hpast⟩ := hfree
  have hnone : s.wiring.1 = none := hnone
  refine ⟨?_, ?_, ?_⟩
  · intro i hi
    rw [hw] at hi ⊢
    obtain rfl : s.wiring.2.length = i := Option.some.inj hi
    simp
  · intro _
    have hcount := h.fresh hpast
    rw [hnone] at hcount
    rw [hw]
    simp [List.count_append, hcount]
  · rintro ⟨x, hx, hs⟩
    rcases List.mem_append.mp hx with hx | hx
    · exact absurd hs (hpast x hx)
    · rw [List.mem_singleton.mp hx] at hs
      exact absurd hs ha

theorem Wired.loggedOut {past : List (Sys ε × Label ε)} {s s' : Sys ε} {a : Label ε} {input : Input}
    (h : s.Wired past) (ha : s.Takes a ans input) (hlogout : LogsOut ans s input)
    (hw : s'.wiring = (none, match s.wiring.1, ans.streamHasRoom with
      | some i, true => s.wiring.2.set i true
      | _, _ => s.wiring.2)) : s'.Wired (past ++ [(s, a)]) := by
  cases htx : s.wiring.1 with
  | none =>
    have hnone : s.app.streamTx = none := htx
    have hstrands : ¬s.Strands a := not_strands ha fun hs => by simp [hnone] at hs
    rw [htx] at hw
    exact h.keep hstrands (hw.trans (Prod.ext htx.symm rfl))
  | some i =>
    have hfree : ∀ x ∈ past, ¬x.1.Strands x.2 := by
      intro x hx hs
      have hnone := (h.stranded ⟨x, hx, hs⟩).1
      rw [htx] at hnone
      cases hnone
    have hcount := h.fresh hfree
    have hheld := h.held i htx
    rw [htx] at hw hcount
    obtain ⟨hi, hget⟩ := List.getElem?_eq_some_iff.mp hheld
    cases hroom : ans.streamHasRoom with
    | true =>
      have hstrands : ¬s.Strands a := not_strands ha fun hs => by simp [hroom] at hs
      rw [hroom] at hw
      have hset : (s.wiring.2.set i true).count false = 0 := by
        rw [List.count_set hi, hcount, hget]
        rfl
      refine ⟨?_, ?_, ?_⟩
      · intro j hj
        rw [hw] at hj
        cases hj
      · intro _
        rw [hw]
        exact hset
      · rintro ⟨x, hx, hs⟩
        rcases List.mem_append.mp hx with hx | hx
        · exact absurd hs (hfree x hx)
        · rw [List.mem_singleton.mp hx] at hs
          exact absurd hs hstrands
    | false =>
      have hstrands : s.Strands a :=
        ⟨ans, input, ha, hlogout, Option.isSome_iff_exists.mpr ⟨i, htx⟩, hroom⟩
      rw [hroom] at hw
      refine ⟨?_, ?_, ?_⟩
      · intro j hj
        rw [hw] at hj
        cases hj
      · intro hpast
        exact absurd hstrands (hpast (s, a) (by simp))
      · intro _
        rw [hw]
        exact ⟨rfl, hcount⟩

/-- A step that spawns at most alone keeps the channel in step with the live pipelines. -/
theorem Wired.next {past : List (Sys ε × Label ε)} {s s' : Sys ε} {a : Label ε} (h : s.Wired past)
    (hs : step E s a = some s') (hG : s.SpawnsAlone E past a) : s'.Wired (past ++ [(s, a)]) := by
  obtain ⟨ans, input, queue, ha, hmove⟩ | ⟨hno, haside⟩ := step_cases hs
  · cases hmove with
    | started hinput hmove =>
      have hinput : Starts E ans s input := hinput
      have hstrands : ¬s.Strands a := not_strands ha fun hl => not_logsOut_of_starts hinput hl.1
      exact h.started (hG ⟨ans, input, ha, hinput⟩) hstrands hmove.wiring
    | loggedOut hinput hmove => exact h.loggedOut ha hinput hmove.wiring
    | changed hstart hlogout hmove =>
      have hstrands : ¬s.Strands a := not_strands ha fun hl => hlogout hl.1
      exact h.keep hstrands hmove.wiring
  · exact h.keep (fun ⟨ans, input, ha, _⟩ => hno ans input ha) haside.wiring

/-- A pipeline spawned beside a live one makes two. -/
theorem Wired.spawnsAlone {past : List (Sys ε × Label ε)} {s s' : Sys ε} {a : Label ε}
    (h : s.Wired past) (hs : step E s a = some s') (hlive : s'.live ≤ 1) :
    s.SpawnsAlone E past a := by
  rintro ⟨ans, input, ha, hstart⟩
  obtain ⟨ans', input', queue, ha', hmove⟩ | ⟨hno, -⟩ := step_cases hs
  · obtain ⟨rfl, rfl⟩ := ha.unique ha'
    have hw : s'.wiring = (some s.wiring.2.length, s.wiring.2 ++ [false]) := by
      cases hmove with
      | started hinput hmove => exact hmove.wiring
      | loggedOut hinput hmove => exact absurd hinput (not_logsOut_of_starts (s := s) hstart)
      | changed hno hlogout hmove => exact absurd hstart hno
    rw [live_eq, hw] at hlive
    have hcount : s.wiring.2.count false = 0 := by
      rw [List.count_append, List.count_singleton_self] at hlive
      exact Nat.le_zero.mp (Nat.le_of_succ_le_succ hlive)
    have hpast : ∀ x ∈ past, ¬x.1.Strands x.2 := by
      intro x hx hs
      have hone := (h.stranded ⟨x, hx, hs⟩).2
      rw [hcount] at hone
      cases hone
    refine ⟨?_, hpast⟩
    have hfresh := h.fresh hpast
    rw [hcount] at hfresh
    show s.wiring.1 = none
    cases htx : s.wiring.1 with
    | none => rfl
    | some i =>
      rw [htx] at hfresh
      cases hfresh
  · exact absurd ha (hno ans input)

theorem wired_start (cfg : AppConfig) (dir : ConfigDir) (db : Storage) :
    (start ε cfg dir db).Wired [] where
  held _ hi := by cases hi
  fresh _ := rfl
  stranded := by
    rintro ⟨x, hx, -⟩
    cases hx

/-- Throughout a run there is at most one live pipeline, if and only if none is spawned while the
app still holds the channel of another, and none after a logout that left one behind. -/
theorem single_live_iff (E : AppExternals ε) {cfg : AppConfig} {dir : ConfigDir} {db : Storage}
    {as : List (Label ε)} {s : Sys ε} (h : Run.after (step E) (start ε cfg dir db) as = some s) :
    Run.Always (step E) (fun t => t.live ≤ 1) (start ε cfg dir db) as ↔
      Run.AlongPast (step E) (fun past t a => t.SpawnsAlone E past a) [] (start ε cfg dir db) as :=
  Run.always_iff_alongPast (I := fun past t => t.Wired past) (fun _ _ hI => hI.live_le)
    (fun _ _ _ _ hI hs hG => hI.next hs hG) (fun _ _ _ _ hI hs hP => hI.spawnsAlone hs hP) []
    (wired_start cfg dir db) h

/-- As long as the app holds no channel, the next step may spawn. -/
theorem alongPast_of_free {past : List (Sys ε × Label ε)} {s : Sys ε} {as : List (Label ε)}
    (hpast : ∀ x ∈ past, x.1.app.streamTx = none)
    (h : ∀ n < as.length, ∀ t ∈ Run.after (step E) s (as.take n), t.app.streamTx = none) :
    Run.AlongPast (step E) (fun past t a => t.SpawnsAlone E past a) past s as := by
  induction as generalizing past s with
  | nil => trivial
  | cons a as ih =>
    have hs : s.app.streamTx = none := h 0 (Nat.succ_pos _) s rfl
    refine ⟨fun _ => ⟨hs, ?_⟩, fun t ht => ih ?_ fun n hn u hu => ?_⟩
    · rintro x hx ⟨_, _, _, _, htx, _⟩
      simp [hpast x hx] at htx
    · intro x hx
      rcases List.mem_append.mp hx with hx | hx
      · exact hpast x hx
      · rw [List.mem_singleton.mp hx]
        exact hs
    · refine h (n + 1) (Nat.succ_lt_succ hn) u ?_
      rw [List.take_succ_cons, Run.after, ht]
      exact hu

/-- Registering spawns one pipeline. -/
theorem registers_alone :
    Run.Always (step .quiet) (fun t => t.live ≤ 1) fresh registers := by
  obtain ⟨s, hs⟩ : ∃ s, Run.after (step .quiet) fresh registers = some s := ⟨_, rfl⟩
  have hfree (n : ℕ) (hn : n < 5) :
      (Run.after (step .quiet) fresh (registers.take n)).map (fun t => t.app.streamTx) =
        some none := by
    interval_cases n <;> rfl
  have halone : Run.AlongPast (step .quiet) (fun past t a => t.SpawnsAlone .quiet past a) [] fresh
      registers := by
    refine alongPast_of_free (by simp) fun n hn t ht => ?_
    have hnone := hfree n hn
    rw [Option.mem_def.mp ht] at hnone
    exact Option.some.inj hnone
  exact (single_live_iff .quiet hs).mpr halone

/-- A device that authenticates again gets a second pipeline beside the first. -/
theorem reauth_spawns_second :
    ¬Run.Always (step .quiet) (fun t => t.live ≤ 1) fresh (registers ++ reauthenticates) := by
  intro h
  have hrun : (Run.after (step .quiet) fresh (registers ++ reauthenticates)).map live =
    some 2 := rfl
  obtain ⟨s, hs, hlive⟩ := Option.map_eq_some_iff.mp hrun
  have hle := h _ s (List.prefix_refl _) hs
  omega

end Sys
