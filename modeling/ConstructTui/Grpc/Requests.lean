import ConstructTui.Grpc.Client
import ConstructTui.Lib.Fifo

/-!
# Requests on the shared connection

A caller sends its request on the session that it finds in the cell. Callers share the cell and drop
each other's sessions, but none of them comes back to a session it has sent a request on: a retry
goes to a session that was put into the cell later.

## Main definitions

* `Grpc.Client.sends`: the request that a step sends, and on which session.
* `Grpc.Client.Asked`: what a caller has sent so far, against where it stands.

## Main results

* `Grpc.Client.requests_renewed`: no session gets two requests of one caller, and a unary call sends
  two at most, the second after the first failed.
-/

namespace Grpc

namespace Point

/-- The caller has no handle yet, and has sent nothing in this attempt. -/
def unsent : Point → Bool
  | .loopHead _ | .invalidate _ | .check | .connect | .install | .sendRequest => true
  | .exchange _ | .live _ | .reset _ | .returned => false

/-- The caller takes the next session that it finds in the cell. -/
def asks : Point → Bool
  | .check | .connect | .install | .sendRequest => true
  | .loopHead _ | .invalidate _ | .exchange _ | .live _ | .reset _ | .returned => false

/-- Nothing that the caller has sent is still open. -/
def settled : Point → Bool
  | .reset _ => true
  | point => point.unsent

end Point

namespace Client

/-- The request of a step: the caller, and the session it sends on. -/
def sends (c : Client) : ClientAction → List (ℕ × ℕ)
  | .advance t .ok =>
    if c.tasks[t]?.map CallTask.point = some .sendRequest then c.session.toList.map (Prod.mk t)
    else []
  | _ => []

/-- The sessions on which a caller has sent its request. -/
def sessionsOf (t : ℕ) (past : List (ℕ × ℕ)) : List ℕ :=
  (past.filter fun sent => sent.1 = t).map Prod.snd

theorem sessionsOf_append (t : ℕ) (past past' : List (ℕ × ℕ)) :
    sessionsOf t (past ++ past') = sessionsOf t past ++ sessionsOf t past' := by
  simp [sessionsOf]

/-- What a caller has sent so far, against where it stands. -/
structure Asked (c : Client) (t : ℕ) (task : CallTask) (ss : List ℕ) : Prop where
  ordered : ss.Pairwise (· < ·)
  below : ∀ s ∈ ss, s < c.installed
  newer : task.point.asks → ∀ s ∈ c.session, ∀ s' ∈ ss, s' < s
  handle : ∀ s ∈ task.point.handle, ss.getLast? = some s
  budget : task.caller = .unary ∨ task.caller = .openStream →
    ss.length ≤ task.retried.toNat + if task.point.unsent then 0 else 1
  failed : task.caller = .unary →
    ∀ s ∈ if task.point.settled then ss else ss.dropLast, (t, s) ∈ c.failures
  once : task.caller = .openStream → task.retried = false

namespace Asked

variable {c c' : Client} {t : ℕ} {task : CallTask} {ss : List ℕ}

theorem spawned (c : Client) (t : ℕ) (caller : Caller) : Asked c t (.start caller) [] where
  ordered := .nil
  below := by simp
  newer := by simp
  handle := by cases caller <;> simp [CallTask.start, Point.handle]
  budget := by simp
  failed := by simp
  once := by cases caller <;> simp [CallTask.start]

/-- Other callers may drop a session, or put in one that is newer than all. -/
theorem beside (h : Asked c t task ss) (hinstalled : c.installed ≤ c'.installed)
    (hsession : ∀ s ∈ c'.session, s ∈ c.session ∨ c.installed ≤ s)
    (hfailures : c.failures ⊆ c'.failures) : Asked c' t task ss where
  ordered := h.ordered
  below s hs := (h.below s hs).trans_le hinstalled
  newer hasks s hs s' hs' := (hsession s hs).elim (fun hold => h.newer hasks s hold s' hs')
    fun hnew => (h.below s' hs').trans_le hnew
  handle := h.handle
  budget := h.budget
  failed hunary s hs := hfailures (h.failed hunary s hs)
  once := h.once

/-- The end of what was sent: a caller may return whatever came of it. -/
theorem dropLast_failed (h : Asked c t task ss) (hunary : task.caller = .unary) :
    ∀ s ∈ ss.dropLast, (t, s) ∈ c.failures := by
  intro s hs
  refine h.failed hunary s ?_
  split
  · exact List.mem_of_mem_dropLast hs
  · exact hs

theorem length_le (h : Asked c t task ss)
    (hcaller : task.caller = .unary ∨ task.caller = .openStream) :
    ss.length ≤ task.retried.toNat + 1 := by
  have hbudget := h.budget hcaller
  split at hbudget <;> omega

/-- The caller goes on, with nothing sent. -/
theorem goto (h : Asked c t task ss) {point : Point}
    (hasks : point.asks → ∀ s ∈ c.session, ∀ s' ∈ ss, s' < s)
    (hhandle : ∀ s ∈ point.handle, ss.getLast? = some s)
    (hunsent : point.unsent → task.point.unsent) (hsettled : point.settled → task.point.settled) :
    Asked c t (task.goto point) ss where
  ordered := h.ordered
  below := h.below
  newer := hasks
  handle := hhandle
  budget hcaller := by
    by_cases hpoint : point.unsent
    · simpa [CallTask.goto, hpoint, hunsent hpoint] using h.budget hcaller
    · simpa [CallTask.goto, hpoint] using h.length_le hcaller
  failed hunary := by
    by_cases hpoint : point.settled
    · simpa [CallTask.goto, hpoint, hsettled hpoint] using h.failed hunary
    · simpa [CallTask.goto, hpoint] using h.dropLast_failed hunary
  once := h.once

/-- The caller goes to where it holds no session, asks for none and has none to account for. -/
theorem rest (h : Asked c t task ss) {point : Point} (hasks : point.asks = false)
    (hhandle : point.handle = none) (hunsent : point.unsent = false)
    (hsettled : point.settled = false) : Asked c t (task.goto point) ss :=
  h.goto (by simp [hasks]) (by simp [hhandle]) (by simp [hunsent]) (by simp [hsettled])

/-- The attempt ends with an error. A unary call that tries again has seen all of it fail. -/
theorem fail (h : Asked c t task ss) (retryable : Bool) (failedOn : Option ℕ)
    (hfailed : retryable → task.caller = .unary → ∀ s ∈ ss, (t, s) ∈ c.failures) :
    Asked c t (task.fail retryable failedOn) ss := by
  have hreturned : Asked c t (task.goto .returned) ss := h.rest rfl rfl rfl rfl
  cases hcaller : task.caller with
  | unary =>
    simp only [CallTask.fail, hcaller]
    split
    · next hretry =>
      obtain ⟨hretryable, hretried⟩ := hretry
      have hbudget := h.length_le (.inl hcaller)
      refine ⟨h.ordered, h.below, by simp [Point.asks], by simp [Point.handle], fun _ => ?_,
        fun _ => ?_, by simp⟩
      · simpa [Point.unsent, hretried] using hbudget
      · exact hfailed hretryable hcaller
    · exact hreturned
  | worker =>
    simp only [CallTask.fail, hcaller]
    exact ⟨h.ordered, h.below, by simp [CallTask.goto, Point.asks],
      by simp [CallTask.goto, Point.handle], by simp [CallTask.goto, hcaller],
      by simp [CallTask.goto, hcaller], h.once⟩
  | openStream | logout =>
    simp only [CallTask.fail, hcaller]
    exact hreturned

/-- The caller sends on the session in the cell. -/
theorem sent (h : Asked c t task ss) (hpoint : task.point = .sendRequest) {s : ℕ}
    (hsession : c.session = some s) (hs : s < c.installed) :
    Asked c t (task.goto (.exchange s)) (ss ++ [s]) where
  ordered := by
    refine List.pairwise_append.mpr ⟨h.ordered, by simp, fun s' hs' s'' hs'' => ?_⟩
    obtain rfl := List.mem_singleton.mp hs''
    exact h.newer (by simp [hpoint, Point.asks]) s'' hsession s' hs'
  below s' hs' := by
    obtain hs' | hs' := List.mem_append.mp hs'
    · exact h.below s' hs'
    · exact List.mem_singleton.mp hs' ▸ hs
  newer := nofun
  handle s' hs' := by
    obtain rfl := Option.some.inj hs'
    simp
  budget hcaller := by
    have hbudget := h.budget hcaller
    simpa [CallTask.goto, hpoint, Point.unsent] using hbudget
  failed hunary := by
    have hfailed := h.failed hunary
    simpa [CallTask.goto, hpoint, Point.settled, Point.unsent] using hfailed
  once := h.once

/-- Of a session that fails the caller has seen all that it sent fail. -/
theorem observed (h : Asked c t task ss) {s : ℕ} (hhandle : task.point.handle = some s)
    (hunary : task.caller = .unary) : ∀ s' ∈ ss, (t, s') ∈ (c.observe t s).failures := by
  intro s' hs'
  have hlast := h.handle s hhandle
  rw [← List.dropLast_append_getLast? s hlast, List.mem_append] at hs'
  show _ ∈ c.failures ++ [(t, s)]
  obtain hs' | hs' := hs'
  · exact List.mem_append_left _ (h.dropLast_failed hunary s' hs')
  · exact List.mem_append_right _ (by simpa using hs')

end Asked

/-! ### One step -/

variable {c c' : Client} {t : ℕ} {task : CallTask} {ss : List ℕ}

/-- What the caller knows of itself after its step. -/
theorem Asked.advance (h : Asked c t task ss) (ht : c.tasks[t]? = some task)
    (hsession : ∀ s ∈ c.session, s < c.installed) {reply : Reply}
    (hadvance : c.advance t task reply = some c') : ∃ task', c'.tasks = c.tasks.set t task' ∧
      Asked c' t task' (ss ++ sessionsOf t (c.sends (.advance t reply))) := by
  have hclear : Asked (c.clear t task.caller) t task ss :=
    h.beside le_rfl (by simp [clear]) fun _ hf => hf
  have hobserve (s : ℕ) : Asked (c.observe t s) t task ss :=
    h.beside le_rfl (fun _ hs => .inl hs) fun _ hf => List.mem_append_left _ hf
  have hmoved {d : Client} {task' : CallTask} (hd : d.tasks = c.tasks)
      (hsends : c.sends (.advance t reply) = []) (hself : Asked d t task' ss) :
      ∃ task'', (d.move t task').tasks = c.tasks.set t task'' ∧
        Asked (d.move t task') t task'' (ss ++ sessionsOf t (c.sends (.advance t reply))) := by
    have hself' : Asked (d.move t task') t task' ss :=
      hself.beside le_rfl (fun _ hs => .inl hs) fun _ hf => hf
    refine ⟨task', by rw [← hd]; rfl, ?_⟩
    rw [hsends]
    simpa [sessionsOf] using hself'
  have hfailed (hpoint : task.point.settled) (hunary : task.caller = .unary) :
      ∀ s ∈ ss, (t, s) ∈ c.failures := by
    simpa [hpoint] using h.failed hunary
  cases reply with
  | ok =>
    cases hpoint : task.point with
    | loopHead f =>
      simp only [Client.advance, hpoint, Option.some.injEq] at hadvance
      subst hadvance
      refine hmoved rfl (by simp [sends, ht, hpoint]) (h.goto ?_ ?_ ?_ ?_) <;>
        simp [hpoint, Point.asks, Point.handle, Point.unsent, Point.settled]
    | invalidate f =>
      simp only [Client.advance, hpoint, Option.some.injEq] at hadvance
      subst hadvance
      refine hmoved rfl (by simp [sends, ht, hpoint]) ?_
      have hcheck : Asked (c.clear t task.caller) t (task.goto .check) ss := by
        refine hclear.goto (by simp [clear]) ?_ ?_ ?_ <;>
          simp [hpoint, Point.handle, Point.unsent, Point.settled]
      cases hcaller : task.caller with
      | logout =>
        simp only [CallTask.invalidated, hcaller]
        exact (hcaller ▸ hclear).rest rfl rfl rfl rfl
      | unary | openStream | worker =>
        simp only [CallTask.invalidated, hcaller]
        exact hcaller ▸ hcheck
    | check =>
      simp only [Client.advance, hpoint, Option.some.injEq] at hadvance
      subst hadvance
      have hnewer := h.newer (by simp [hpoint, Point.asks])
      refine hmoved rfl (by simp [sends, ht, hpoint]) (h.goto (fun _ => hnewer) ?_ ?_ ?_) <;>
        split <;> simp [hpoint, Point.unsent, Point.settled, Point.handle]
    | connect =>
      simp only [Client.advance, hpoint, Option.some.injEq] at hadvance
      subst hadvance
      have hnewer := h.newer (by simp [hpoint, Point.asks])
      refine hmoved rfl (by simp [sends, ht, hpoint]) (h.goto (fun _ => hnewer) ?_ ?_ ?_) <;>
        simp [hpoint, Point.handle, Point.unsent, Point.settled]
    | install =>
      simp only [Client.advance, hpoint, Option.some.injEq] at hadvance
      subst hadvance
      have hinstalled : Asked (c.install t task.caller) t task ss :=
        h.beside (Nat.le_succ _) (fun s hs => .inr (Option.some.inj hs).le) fun _ hf => hf
      refine hmoved rfl (by simp [sends, ht, hpoint])
        (hinstalled.goto (fun _ s hs => ?_) ?_ ?_ ?_)
      · obtain rfl := Option.some.inj hs
        exact h.below
      · simp [Point.handle]
      · simp [hpoint, Point.unsent]
      · simp [hpoint, Point.settled, Point.unsent]
    | sendRequest =>
      cases hcell : c.session with
      | none =>
        simp only [Client.advance, hpoint, hcell, Option.some.injEq] at hadvance
        subst hadvance
        refine hmoved rfl (by simp [sends, hcell]) (h.fail true none fun _ => hfailed ?_)
        simp [hpoint, Point.settled, Point.unsent]
      | some s =>
        simp only [Client.advance, hpoint, hcell, Option.some.injEq] at hadvance
        subst hadvance
        refine ⟨_, rfl, ?_⟩
        have hsends : sessionsOf t (c.sends (.advance t .ok)) = [s] := by
          simp [sends, ht, hpoint, hcell, sessionsOf]
        rw [hsends]
        exact (h.sent hpoint hcell (hsession s hcell)).beside le_rfl (fun _ hs => .inl hs)
          fun _ hf => hf
    | exchange s =>
      simp only [Client.advance, hpoint, Option.some.injEq] at hadvance
      subst hadvance
      have hlast := h.handle s (by rw [hpoint]; rfl)
      refine hmoved rfl (by simp [sends, ht, hpoint]) ?_
      cases hcaller : task.caller with
      | worker =>
        simp only [CallTask.exchanged, hcaller]
        refine h.goto ?_ (fun s' hs' => Option.some.inj hs' ▸ hlast) ?_ ?_ <;>
          simp [Point.asks, Point.unsent, Point.settled]
      | unary | openStream | logout =>
        simp only [CallTask.exchanged, hcaller]
        exact h.rest rfl rfl rfl rfl
    | reset s =>
      simp only [Client.advance, hpoint, Option.some.injEq] at hadvance
      subst hadvance
      refine hmoved rfl (by simp [sends, ht, hpoint])
        (hclear.fail true (some s) fun _ => hfailed ?_)
      simp [hpoint, Point.settled]
    | live s | returned => simp [Client.advance, hpoint] at hadvance
  | transportError =>
    cases hpoint : task.point with
    | connect =>
      simp only [Client.advance, hpoint, Option.some.injEq] at hadvance
      subst hadvance
      refine hmoved rfl rfl (h.fail true none fun _ => hfailed ?_)
      simp [hpoint, Point.settled, Point.unsent]
    | exchange s =>
      simp only [Client.advance, hpoint, Option.some.injEq] at hadvance
      subst hadvance
      have hseen := h.observed (s := s) (by rw [hpoint]; rfl)
      refine hmoved rfl rfl ?_
      cases hcaller : task.caller with
      | unary =>
        simp only [CallTask.exchangeFailed, hcaller]
        exact ⟨h.ordered, h.below, by simp [CallTask.goto, Point.asks],
          by simp [CallTask.goto, Point.handle], fun hbudget => h.length_le hbudget,
          fun _ => by simpa [CallTask.goto, Point.settled] using hseen hcaller, h.once⟩
      | openStream | worker | logout =>
        simp only [CallTask.exchangeFailed, hcaller]
        exact (hobserve s).fail true (some s) fun _ => hseen
    | live s =>
      simp only [Client.advance, hpoint, Option.some.injEq] at hadvance
      subst hadvance
      exact hmoved rfl rfl ((hobserve s).fail true (some s) fun _ =>
        h.observed (by rw [hpoint]; rfl))
    | _ => simp [Client.advance, hpoint] at hadvance
  | otherError =>
    cases hpoint : task.point with
    | exchange s | live s =>
      simp only [Client.advance, hpoint, Option.some.injEq] at hadvance
      subst hadvance
      exact hmoved rfl rfl (h.fail false none (by simp))
    | _ => simp [Client.advance, hpoint] at hadvance
  | shutdown =>
    cases hpoint : task.point with
    | loopHead f | live s =>
      simp only [Client.advance, hpoint, Option.some.injEq] at hadvance
      subst hadvance
      exact hmoved rfl rfl (h.rest rfl rfl rfl rfl)
    | _ => simp [Client.advance, hpoint] at hadvance

/-- What another caller's step does to what a caller knows of itself. -/
theorem Asked.others (h : Asked c t task ss) {u : ℕ} {other : CallTask}
    (hadvanced : Advanced c u other c') : Asked c' t task ss := by
  cases hadvanced with
  | moved => exact h.beside le_rfl (fun _ hs => .inl hs) fun _ hf => hf
  | observed => exact h.beside le_rfl (fun _ hs => .inl hs) fun _ hf => List.mem_append_left _ hf
  | cleared => exact h.beside le_rfl nofun fun _ hf => hf
  | installed =>
    exact h.beside (Nat.le_succ _) (fun s hs => .inr (Option.some.inj hs).le) fun _ hf => hf

theorem sessionsOf_of_ne {t u : ℕ} (hne : t ≠ u) (reply : Reply) :
    sessionsOf t (c.sends (.advance u reply)) = [] := by
  have hforeign : ∀ sent ∈ c.sends (.advance u reply), sent.1 = u := by
    cases reply with
    | ok =>
      simp only [sends]
      split <;> simp
    | _ => simp [sends]
  have hnone : (c.sends (.advance u reply)).filter (fun sent => sent.1 = t) = [] := by
    rw [List.filter_eq_nil_iff]
    intro sent hsent heq
    exact hne ((of_decide_eq_true heq).symm.trans (hforeign sent hsent))
  rw [sessionsOf, hnone]
  rfl

/-- Every caller has asked as it stands, and a caller that has not begun has sent nothing. -/
structure Accounts (past : List (ℕ × ℕ)) (c : Client) : Prop where
  sound : Sound c
  asked : ∀ (t : ℕ) (task : CallTask), c.tasks[t]? = some task → Asked c t task (sessionsOf t past)
  begun : ∀ t, c.tasks.length ≤ t → sessionsOf t past = []

theorem accounts_new : Accounts [] new := ⟨sound_new, by simp [new], fun _ _ => rfl⟩

theorem Accounts.spawn {past : List (ℕ × ℕ)} (hc : Accounts past c) (caller : Caller) :
    Accounts past { c with tasks := c.tasks ++ [.start caller] } := by
  refine ⟨hc.sound.spawn caller, fun t task ht => ?_, fun t ht => hc.begun t ?_⟩
  · rw [List.getElem?_append] at ht
    split at ht
    · exact (hc.asked t task ht).beside le_rfl (fun _ hs => .inl hs) fun _ hf => hf
    · next hlt =>
      obtain rfl := List.mem_singleton.mp (List.mem_of_getElem? ht)
      rw [hc.begun t (Nat.le_of_not_lt hlt)]
      exact .spawned _ t caller
  · rw [List.length_append] at ht
    omega

theorem Accounts.step {past : List (ℕ × ℕ)} {action : ClientAction} (hc : Accounts past c)
    (h : c.step action = some c') : Accounts (past ++ c.sends action) c' := by
  cases action with
  | spawn caller =>
    obtain rfl := Option.some.inj h
    simpa [sends] using hc.spawn caller
  | advance u reply =>
    obtain ⟨other, hother, hadvance⟩ := Option.bind_eq_some_iff.mp h
    obtain ⟨other', htasks, hasked⟩ :=
      (hc.asked u other hother).advance hother hc.sound.session hadvance
    have hu := (List.getElem?_eq_some_iff.mp hother).1
    refine ⟨sound_step hc.sound h, fun t task ht => ?_, fun t ht => ?_⟩ <;> rw [sessionsOf_append]
    · by_cases hne : t = u
      · subst hne
        rw [htasks, List.getElem?_set_self hu, Option.some.injEq] at ht
        exact ht ▸ hasked
      · rw [htasks, List.getElem?_set_ne (Ne.symm hne)] at ht
        rw [sessionsOf_of_ne hne, List.append_nil]
        exact (hc.asked t task ht).others (advance_advanced hadvance)
    · rw [htasks, List.length_set] at ht
      rw [hc.begun t ht, sessionsOf_of_ne (by omega)]
      rfl

/-- **No session gets two requests of one caller.** In every run, however the callers interleave and
whoever drops or overwrites their sessions, each caller sends its requests on newer and newer
sessions. A unary call sends two at most, and the second only after it has seen the session of the
first one fail in transport; an open sends one. -/
theorem requests_renewed {as : List ClientAction} (h : Run.after Client.step new as = some c)
    (ht : c.tasks[t]? = some task) :
    (sessionsOf t (Run.output Client.step sends new as)).Pairwise (· < ·) ∧
      (task.caller = .unary →
        (sessionsOf t (Run.output Client.step sends new as)).length ≤ 2 ∧
        ∀ s ∈ (sessionsOf t (Run.output Client.step sends new as)).dropLast, (t, s) ∈ c.failures) ∧
      (task.caller = .openStream →
        (sessionsOf t (Run.output Client.step sends new as)).length ≤ 1) := by
  have hc : Accounts ([] ++ Run.output Client.step sends new as) c :=
    Run.output_invariant (I := Accounts) (fun _ _ _ _ hI hstep => hI.step hstep) accounts_new h
  have hasked := hc.asked t task ht
  rw [List.nil_append] at hasked
  refine ⟨hasked.ordered, fun hunary => ⟨?_, hasked.dropLast_failed hunary⟩, fun hopen => ?_⟩
  · have hle := hasked.length_le (.inl hunary)
    have hretried := Bool.toNat_le task.retried
    omega
  · simpa [hasked.once hopen] using hasked.length_le (.inr hopen)

/-- Two calls connect at once; the first loses its session to the second, sees it fail and goes on
with a third. -/
def renewedCall : List ClientAction :=
  overwrittenCall ++ [.advance 0 .transportError, .advance 1 .ok, .advance 0 .ok, .advance 0 .ok,
    .advance 0 .ok, .advance 0 .ok, .advance 0 .ok, .advance 0 .ok, .advance 0 .ok]

theorem requests_renewed_call :
    sessionsOf 0 (Run.output Client.step sends new renewedCall) = [0, 2] ∧
      [0, 2].Pairwise (· < ·) ∧ (0, 0) ∈ (Run.ending Client.step new renewedCall).failures := by
  have hrun : Run.after Client.step new renewedCall =
      some (Run.ending Client.step new renewedCall) := Run.after_ending_nil (by decide)
  have hsessions : sessionsOf 0 (Run.output Client.step sends new renewedCall) = [0, 2] := by decide
  have htask : (Run.ending Client.step new renewedCall).tasks[0]? =
      some ⟨.unary, true, .returned⟩ := by decide
  obtain ⟨hnewer, hunary, -⟩ := requests_renewed hrun htask
  rw [hsessions] at hnewer hunary
  exact ⟨hsessions, hnewer, (hunary rfl).2 0 (by decide)⟩

end Client

end Grpc
