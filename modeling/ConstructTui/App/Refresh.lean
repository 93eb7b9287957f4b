import ConstructTui.App.Restore

/-!
# Refresh tokens

A refresh token is good for one answer that brings another. Each successful authentication or
refresh starts a task that sleeps until the tokens expire and then presents the refresh token it was
started with, and a stream that is refused starts one that presents it at once. Nothing stops such a
task when the session gets another token, so that one can present a token that is no longer good.
This does not happen for as long as a task is started only when there is no other.

## Main definitions

* `Sys.presents`, `Sys.supersedes`: the token a step presents, and the one its answer makes useless.
* `Sys.PresentsCurrent`: only the session's own token is presented, and by one task.
* `Sys.refreshesAlone`: the condition on a step.
* `Account.Refreshing`: what holds while it is met.

## Main results

* `Sys.presents_current`: in a run whose steps all meet the condition, only current tokens are
  presented.
* `Sys.stale_token_presented`: a run in which another one is.
-/

variable {ε : Type}

open Account

/-- An answer with refreshed tokens. -/
def InternalEvent.isRefreshed : InternalEvent → Bool
  | .tokenRefresh (.refreshed _ _ _) => true
  | _ => false

/-- The refresh tokens that the tasks hold. -/
def Account.held (A : Account) : List String := A.tasks.filterMap fun r => r.task.refreshToken

/-- The number of answers with refreshed tokens that wait. -/
def Account.arrived (A : Account) : ℕ := A.events.countP InternalEvent.isRefreshed

/-- The refresh token with which the step sends a request. -/
def Sys.presents (s : Sys ε) : Label ε → Option String
  | .request k _ _ =>
    match s.tasks[k]? with
    | some ⟨task, false, _⟩ => task.refreshToken
    | _ => none
  | _ => none

/-- The refresh token for which the step answers a request with another one. -/
def Sys.supersedes (s : Sys ε) : Label ε → Option String
  | .finish k (.tokens _ _ newRefresh _) _ =>
    match s.tasks[k]? with
    | some ⟨task, true, _⟩ =>
      task.refreshToken.filter fun token => newRefresh ≠ "" ∧ newRefresh ≠ token
    | _ => none
  | _ => none

/-- The refresh tokens for which another one has been returned. -/
def superseded (past : List (Sys ε × Label ε)) : List String :=
  past.filterMap fun p => p.1.supersedes p.2

/-- If the step presents a refresh token, then it is the one of the session in memory, no other
request with it is under way, and none has returned another one. -/
def Sys.PresentsCurrent (past : List (Sys ε × Label ε)) (s : Sys ε) (a : Label ε) : Prop :=
  ∀ token, s.presents a = some token →
    (∃ session, s.app.currentSession = some session ∧ session.refreshToken = token) ∧
      (∀ r ∈ s.tasks, r.requested → r.task.refreshToken ≠ some token) ∧ token ∉ superseded past

/-- A task with a refresh token is started only when there is none, no answer with refreshed tokens
waits, and the token is still good; and a logout finds none. -/
def Sys.refreshesAlone (past : List (Sys ε × Label ε)) (s : Sys ε) : Label ε → Prop
  | .internal _ =>
    match s.account.events with
    | .auth (.success m) :: rest =>
      (s.account.held = [] ∧ rest.countP InternalEvent.isRefreshed = 0) ∧
        m.fullSession.refreshToken ∉ superseded past
    | .tokenRefresh (.refreshed _ refreshToken _) :: _ =>
      s.app.currentSession.isSome → refreshToken ∉ superseded past
    | .streamAuthRequired :: rest => s.app.currentSession.isSome →
      s.account.held = [] ∧ rest.countP InternalEvent.isRefreshed = 0
    | _ => True
  | .key key ans => LogsOut ans s (.key key) → s.account.held = []
  | _ => True

/-- The task that holds a refresh token holds the one of the session, and either there is one such
task or an answer to one waits, or neither. Without an answer that waits, the token of the session
is still good. -/
structure Account.Refreshing (past : List String) (A : Account) : Prop where
  current : ∀ token ∈ A.held, ∃ session, A.currentSession = some session ∧
    session.refreshToken = token
  alone : A.held.length + A.arrived ≤ 1
  good : A.arrived = 0 → ∀ session, A.currentSession = some session → session.refreshToken ∉ past

namespace Account

variable {A B : Account} {past : List String}

theorem held_append (A : Account) (extra : List Running) :
    held { A with tasks := A.tasks ++ extra } =
      A.held ++ extra.filterMap fun r => r.task.refreshToken := List.filterMap_append ..

/-- Tasks without credentials hold no refresh token. -/
theorem held_plain {extra : List Running} (h : ∀ r ∈ extra, r.task.plain) :
    (extra.filterMap fun r => r.task.refreshToken) = [] := by
  refine List.filterMap_eq_nil_iff.mpr fun r hr => ?_
  have hplain := h r hr
  cases htask : r.task <;> rw [htask] at hplain <;> first | rfl | cases hplain

theorem arrived_plain {es : List InternalEvent} (h : ∀ e ∈ es, e.bringsTokens = false) :
    es.countP InternalEvent.isRefreshed = 0 := by
  refine List.countP_eq_zero.mpr fun e he => ?_
  have hplain := h e he
  cases e with
  | tokenRefresh msg =>
    cases msg with
    | refreshed _ _ _ => cases hplain
    | _ => exact nofun
  | _ => exact nofun

theorem filterMap_cons_toList {α β : Type*} (f : α → Option β) (x : α) (l : List α) :
    (x :: l).filterMap f = (f x).toList ++ l.filterMap f := by
  cases h : f x with
  | none => rw [List.filterMap_cons_none h]; rfl
  | some y => rw [List.filterMap_cons_some h]; rfl

theorem filterMap_eraseIdx {α β : Type*} (f : α → Option β) {l : List α} {k : ℕ} {x : α}
    (h : l[k]? = some x) : ∃ before after, l.filterMap f = before ++ (f x).toList ++ after ∧
      (l.eraseIdx k).filterMap f = before ++ after := by
  induction l generalizing k with
  | nil => cases h
  | cons y l ih =>
    cases k with
    | zero =>
      cases Option.some.inj h
      exact ⟨[], l.filterMap f, filterMap_cons_toList f _ l, rfl⟩
    | succ k =>
      obtain ⟨before, after, hl, herase⟩ := ih h
      refine ⟨(f y).toList ++ before, after, ?_, ?_⟩
      · rw [filterMap_cons_toList, hl, List.append_assoc, List.append_assoc, List.append_assoc]
      · rw [List.eraseIdx_cons_succ, filterMap_cons_toList, herase, List.append_assoc]

/-- The tasks hold the same tokens, the session is the same, and no answer that matters has been
taken. -/
theorem Refreshing.congr (h : A.Refreshing past) (hheld : B.held = A.held)
    (hcurrent : B.currentSession = A.currentSession) (harrived : B.arrived = A.arrived) :
    B.Refreshing past := by
  refine ⟨?_, ?_, ?_⟩
  · rw [hheld, hcurrent]
    exact h.current
  · rw [hheld, harrived]
    exact h.alone
  · rw [harrived, hcurrent]
    exact h.good

/-- One task is started for a session whose token is good. -/
theorem Refreshing.single (session : Session) (hcurrent : A.currentSession = some session)
    (hheld : A.held = [session.refreshToken]) (harrived : A.arrived = 0)
    (hgood : session.refreshToken ∉ past) : A.Refreshing past := by
  refine ⟨?_, ?_, ?_⟩
  · rw [hheld]
    exact List.forall_mem_singleton.mpr ⟨session, hcurrent, rfl⟩
  · rw [hheld, harrived]
    exact le_rfl
  · rintro - session' hsession'
    obtain rfl : session = session' := Option.some.inj (hcurrent.symm.trans hsession')
    exact hgood

/-- There is no session, and no task holds a token. -/
theorem Refreshing.none (hcurrent : A.currentSession = .none) (hheld : A.held = [])
    (harrived : A.arrived ≤ 1) : A.Refreshing past := by
  refine ⟨?_, ?_, ?_⟩
  · rw [hheld]
    exact List.forall_mem_nil _
  · rw [hheld]
    simpa using harrived
  · rintro - session hsession
    cases hcurrent.symm.trans hsession

/-- A task that ends takes its token along, and an answer may arrive for that. -/
theorem Refreshing.ended (h : A.Refreshing past) {k : ℕ} {r : Running}
    (hr : A.tasks[k]? = some r) {es : List InternalEvent}
    (hes : es.countP InternalEvent.isRefreshed ≤ r.task.refreshToken.toList.length) :
    Refreshing past { A with tasks := A.tasks.eraseIdx k, events := A.events ++ es } := by
  obtain ⟨before, after, hheld, herase⟩ :=
    filterMap_eraseIdx (fun r : Running => r.task.refreshToken) hr
  have hheld' : A.held = before ++ r.task.refreshToken.toList ++ after := hheld
  have hlength : A.held.length =
      before.length + r.task.refreshToken.toList.length + after.length := by
    rw [hheld', List.length_append, List.length_append]
  have harrived : (A.events ++ es).countP InternalEvent.isRefreshed =
      A.arrived + es.countP InternalEvent.isRefreshed := List.countP_append
  refine ⟨fun token htoken => h.current token ?_, ?_, fun hnone => h.good ?_⟩
  · have htoken' : token ∈ (A.tasks.eraseIdx k).filterMap fun r => r.task.refreshToken := htoken
    rw [herase] at htoken'
    rw [hheld']
    obtain htoken | htoken := List.mem_append.mp htoken'
    · exact List.mem_append_left _ (List.mem_append_left _ htoken)
    · exact List.mem_append_right _ htoken
  · show (List.filterMap _ _).length + (A.events ++ es).countP _ ≤ 1
    rw [herase, harrived, List.length_append]
    have halone := h.alone
    omega
  · exact (Nat.add_eq_zero_iff.mp (harrived.symm.trans hnone)).1

theorem Quiet.refreshing (h : A.Quiet B) (hA : A.Refreshing past) : B.Refreshing past := by
  obtain ⟨extra, hextra, htasks⟩ := h.tasks
  have hheld : B.held = A.held := by
    rw [held, htasks]
    exact (held_append A extra).trans (by rw [held_plain hextra, List.append_nil])
  have hcurrent := h.creds.1
  obtain ⟨e, he, hdrop⟩ | ⟨es, hes, he⟩ := h.events
  · have harrived : A.arrived = B.arrived + if e.isRefreshed then 1 else 0 := by
      rw [arrived, he, List.countP_cons]
      rfl
    by_cases hrefreshed : e.isRefreshed = true
    · have hnone : A.currentSession = .none := by
        refine hdrop ?_
        cases e with
        | tokenRefresh msg => cases msg <;> first | rfl | cases hrefreshed
        | _ => cases hrefreshed
      rw [if_pos hrefreshed] at harrived
      have halone := hA.alone
      refine .none (hcurrent.trans hnone) ?_ (by omega)
      rw [hheld]
      exact List.eq_nil_of_length_eq_zero (by omega)
    · rw [if_neg hrefreshed] at harrived
      exact hA.congr hheld hcurrent harrived.symm
  · refine hA.congr hheld hcurrent ?_
    rw [arrived, he, List.countP_append, arrived_plain hes]
    rfl

end Account

namespace Sys

variable {E : AppExternals ε}

theorem superseded_append {past : List (Sys ε × Label ε)} {s : Sys ε} {a : Label ε}
    (h : s.supersedes a = none) : superseded (past ++ [(s, a)]) = superseded past := by
  have hnone : [(s, a)].filterMap (fun p => p.1.supersedes p.2) = [] :=
    List.filterMap_cons_none h
  rw [superseded, List.filterMap_append, hnone, List.append_nil]
  rfl

/-- The answer that brings another refresh token reaches the queue. -/
theorem arrived_of_supersedes {s s' : Sys ε} {a : Label ε} {token : String}
    (h : s.supersedes a = some token) (hs : step E s a = some s') : s'.account.arrived ≠ 0 := by
  have hconclude (k : ℕ) (userId accessToken newRefresh refreshToken : String) (expiresAt : ℤ) :
      (s.conclude k (refreshEvent refreshToken
        (.tokens userId accessToken newRefresh expiresAt))).account.arrived ≠ 0 := by
    show List.countP _ ((s.queue ++ [_]).map Queued.event) ≠ 0
    rw [List.map_append, List.countP_append]
    exact Nat.succ_ne_zero _
  unfold supersedes at h
  split at h
  · split at h
    · next k userId accessToken newRefresh expiresAt ans _ task session hr =>
      rw [step, hr] at hs
      have hsome : task.refreshToken.isSome := by
        cases htoken : task.refreshToken with
        | none =>
          rw [htoken] at h
          cases h
        | some _ => rfl
      obtain rfl := Option.some.inj hs
      cases task with
      | tokenRefresh deviceId refreshToken expiresAt' => exact hconclude _ _ _ _ _ _
      | tokenRefreshNow deviceId refreshToken => exact hconclude _ _ _ _ _ _
      | _ => cases hsome
    · cases h
  · cases h

/-- Once nothing is being restored, a step that meets the condition keeps it up. -/
theorem Acts.refreshing {s : Sys ε} {a : Label ε} {B : Account} (h : s.Acts E a B)
    {past : List (Sys ε × Label ε)} (hA : s.account.Refreshing (superseded past))
    (hguard : s.refreshesAlone past a) : B.Refreshing (superseded past) := by
  -- a task is started for a session whose token is good, and there is no other
  have hstarts {m : AuthSuccess} {rest : List InternalEvent} {ans : Answers ε}
      {extra : List Running} (hevents : s.account.events = .auth (.success m) :: rest)
      (hguard : s.refreshesAlone past (.internal ans)) (hextra : ∀ r ∈ extra, r.task.plain)
      (hB : B.tasks = s.tasks ++ m.fullSession.refreshLoop :: extra)
      (hcurrent : B.currentSession = some m.fullSession) (hB' : B.events = rest) :
      B.Refreshing (superseded past) := by
    unfold refreshesAlone at hguard
    rw [hevents] at hguard
    obtain ⟨⟨hheld, harrived⟩, hgood⟩ := hguard
    refine .single _ hcurrent ?_ ((congrArg (List.countP _) hB').trans harrived) hgood
    rw [held, hB]
    refine (held_append s.account _).trans ?_
    rw [hheld, filterMap_cons_toList, held_plain hextra]
    rfl
  cases h with
  | quiet h => exact h.refreshing hA
  | saved hevents hkey hsave hextra => exact hstarts hevents hguard hextra rfl rfl rfl
  | unsaved e hevents hkey hsave =>
    exact hstarts hevents hguard (List.forall_mem_nil _) rfl rfl rfl
  | waits hevents hkey hencrypt =>
    exact hstarts hevents hguard (List.forall_mem_nil _) rfl rfl rfl
  | @refreshed ans accessToken refreshToken expiresAt rest session updated hevents hcurrent
      hupdated =>
    have harrived : s.account.arrived = rest.countP InternalEvent.isRefreshed + 1 := by
      rw [arrived, hevents]
      exact List.countP_cons_of_pos rfl
    have halone := hA.alone
    have hheld : s.account.held = [] := List.eq_nil_of_length_eq_zero (by omega)
    unfold refreshesAlone at hguard
    rw [hevents] at hguard
    have hgood := hguard (by rw [hcurrent]; rfl)
    refine .single updated rfl ?_ (show rest.countP _ = 0 by omega) (by rw [hupdated]; exact hgood)
    refine (held_append s.account _).trans ?_
    rw [hheld]
    rfl
  | @wakes ans rest session hevents hcurrent =>
    unfold refreshesAlone at hguard
    rw [hevents] at hguard
    obtain ⟨hheld, hrest⟩ := hguard (by rw [hcurrent]; rfl)
    have harrived : s.account.arrived = 0 := by
      rw [arrived, hevents, List.countP_cons_of_neg Bool.false_ne_true]
      exact hrest
    refine .single session hcurrent ?_ hrest (hA.good harrived session hcurrent)
    refine (held_append s.account _).trans ?_
    rw [hheld]
    rfl
  | @reauthenticates ans e rest session hevents hcurrent =>
    refine hA.congr ?_ rfl ?_
    · exact (held_append s.account _).trans (List.append_nil _)
    · rw [arrived, arrived, hevents, List.countP_cons_of_neg Bool.false_ne_true]
  | invited hevents =>
    refine hA.congr rfl rfl ?_
    rw [arrived, arrived, hevents, List.countP_cons_of_neg Bool.false_ne_true]
  | unlocked msg hscreen hopen hload =>
    exact hA.congr ((held_append s.account _).trans (List.append_nil _)) rfl rfl
  | @sealed key ans session keys extra hscreen hkey htyped hpending hkeys hsave hextra =>
    refine hA.congr ?_ rfl rfl
    refine (held_append s.account extra).trans ?_
    rw [held_plain hextra, List.append_nil]
  | sealFailed hscreen hkey htyped hpending hkeys hsave => exact hA.congr rfl rfl rfl
  | loggedOut h =>
    have halone := hA.alone
    exact .none rfl (hguard h) (by
      show s.account.arrived ≤ 1
      omega)
  | stuck hscreen hclear => exact hA.congr rfl rfl rfl
  | @requested k fresh ans task session session' hr =>
    refine hA.congr ?_ rfl rfl
    have hmap (tasks : List Running) : (tasks.filterMap fun r => r.task.refreshToken) =
        (tasks.map Running.task).filterMap BackgroundTask.refreshToken := by
      rw [List.filterMap_map]
      rfl
    rw [held, held, hmap, hmap]
    exact congrArg _ (map_task_modify s.tasks k session')
  | @ended a k r es hr h =>
    refine hA.ended hr ?_
    cases h with
    | plain es h => exact (arrived_plain h).trans_le (Nat.zero_le _)
    | success m h => exact Nat.zero_le _
    | refreshed hr' ha =>
      rw [hr']
      exact le_rfl

/-- While a session may still be restored, there is nothing to refresh. -/
theorem Early.refreshing {s : Sys ε} (h : s.Early) (past : List String) :
    s.account.Refreshing past := by
  have hnone : s.account.held = [] ∧ s.account.arrived = 0 := by
    unfold held arrived account
    cases h.stage with
    | starting _ htasks hqueue => simp [htasks, hqueue]
    | restoring r _ htasks htask _ hqueue =>
      simp [htasks, hqueue, htask, BackgroundTask.refreshToken]
    | restored m _ htasks _ _ hqueue => simp [htasks, hqueue, InternalEvent.isRefreshed]
  exact .none h.creds.1 hnone.1 (hnone.2 ▸ Nat.zero_le 1)

/-- The restore is under way or over, and only the session's own token is held. -/
def Refreshes (past : List (Sys ε × Label ε)) (s : Sys ε) : Prop :=
  (s.Early ∨ s.account.Late) ∧ s.account.Refreshing (superseded past)

theorem Refreshes.next {past : List (Sys ε × Label ε)} {s s' : Sys ε} {a : Label ε}
    (h : s.Refreshes past) (hs : step E s a = some s') (hguard : s.refreshesAlone past a) :
    s'.Refreshes (past ++ [(s, a)]) := by
  have hphase : s'.Early ∨ s'.account.Late ∧ s'.account.Refreshing (superseded past) := by
    obtain ⟨hearly | hlate, hA⟩ := h
    · cases hearly.next hs with
      | stays h hdir => exact .inl h
      | leaves hlate hcreds hscreen htasks hevents hdir =>
        refine .inr ⟨hlate, .none hcreds.1 ?_ ?_⟩
        · rw [held]
          exact congrArg _ htasks
        · rw [arrived, arrived_plain hevents]
          exact Nat.zero_le 1
      | restores ans m extra ha hqueue hsave hloaded hextra haccount =>
        have hevents : s.account.events = [.auth (.success m)] := congrArg (List.map _) hqueue
        rw [ha] at hguard
        unfold refreshesAlone at hguard
        rw [hevents] at hguard
        refine .inr ⟨?_, ?_, ?_, ?_⟩
        · rw [haccount]
          exact ⟨fun r hr => ne_restore_of_plain (hextra r hr), nofun, nofun⟩
        · rw [haccount, held, held_plain hextra]
          exact List.forall_mem_nil _
        · rw [haccount, held, held_plain hextra]
          exact Nat.zero_le 1
        · rintro - session hsession
          rw [haccount] at hsession
          rw [← Option.some.inj hsession]
          exact hguard.2
    · have hacts := acts hlate hs
      exact .inr ⟨hacts.late hlate, hacts.refreshing hA hguard⟩
  obtain hearly | ⟨hlate, hA⟩ := hphase
  · exact ⟨.inl hearly, hearly.refreshing _⟩
  · refine ⟨.inr hlate, hA.current, hA.alone, fun harrived session hsession => ?_⟩
    cases hsuper : s.supersedes a with
    | none =>
      rw [superseded_append hsuper]
      exact hA.good harrived session hsession
    | some token => exact absurd harrived (arrived_of_supersedes hsuper hs)

/-- Two tasks that hold a token cannot both be there. -/
theorem eq_of_held {tasks : List Running} {f : Running → Option String}
    (h : (tasks.filterMap f).length ≤ 1) {r r' : Running} (hr : r ∈ tasks) (hr' : r' ∈ tasks)
    (hf : (f r).isSome) (hf' : (f r').isSome) : r = r' := by
  have hlength : (tasks.filter fun r => (f r).isSome).length ≤ 1 := by
    rwa [← List.countP_eq_length_filter, ← List.length_filterMap_eq_countP]
  have hmem : r ∈ tasks.filter fun r => (f r).isSome := List.mem_filter.mpr ⟨hr, hf⟩
  have hmem' : r' ∈ tasks.filter fun r => (f r).isSome := List.mem_filter.mpr ⟨hr', hf'⟩
  obtain ⟨x, hx⟩ := List.length_eq_one_iff.mp
    (le_antisymm hlength (List.length_pos_of_mem hmem))
  rw [hx] at hmem hmem'
  exact (List.mem_singleton.mp hmem).trans (List.mem_singleton.mp hmem').symm

theorem Refreshes.presentsCurrent {past : List (Sys ε × Label ε)} {s : Sys ε} {a : Label ε}
    (h : s.Refreshes past) : s.PresentsCurrent past a := by
  intro token htoken
  unfold presents at htoken
  split at htoken
  · split at htoken
    · next k fresh ans _ task session hr =>
      have hr' := List.mem_of_getElem? hr
      have hheld : token ∈ s.account.held := List.mem_filterMap.mpr ⟨_, hr', htoken⟩
      have halone := h.2.alone
      have hpos := List.length_pos_of_mem hheld
      obtain ⟨session', hsession', htoken'⟩ := h.2.current token hheld
      refine ⟨⟨session', hsession', htoken'⟩, fun r hrmem hrequested hrtoken => ?_, ?_⟩
      · have hsame : r = ⟨task, false, session⟩ := eq_of_held
          (f := fun r => r.task.refreshToken) (show s.account.held.length ≤ 1 by omega) hrmem hr'
          (by rw [hrtoken]; rfl) (by rw [htoken]; rfl)
        rw [hsame] at hrequested
        cases hrequested
      · rw [← htoken']
        exact h.2.good (by omega) session' hsession'
    · cases htoken
  · cases htoken

/-- In every run whose steps all meet the condition, every request with a refresh token carries the
current one, and none is presented twice or after it has been superseded. -/
theorem presents_current (E : AppExternals ε) (cfg : AppConfig) (dir : ConfigDir) (db : Storage)
    (as : List (Label ε))
    (hguard : Run.AlongPast (step E) refreshesAlone [] (start ε cfg dir db) as) :
    Run.AlongPast (step E) PresentsCurrent [] (start ε cfg dir db) as :=
  .imp (I := Refreshes) (fun _ _ _ _ hI hs hG => hI.next hs hG)
    (fun _ _ _ hI _ => hI.presentsCurrent)
    ⟨.inl (early_start cfg dir db), (early_start cfg dir db).refreshing _⟩ hguard

instance (past : List (Sys ε × Label ε)) (s : Sys ε) (a : Label ε) :
    Decidable (s.refreshesAlone past a) := by
  unfold refreshesAlone
  split <;> (try split) <;> infer_instance

/-- A registered client refreshes its tokens and presents the new ones. -/
theorem presents_refreshed : Run.AlongPast (step .quiet) PresentsCurrent [] fresh
    (registers ++ refreshes ++ refreshes.take 2) :=
  presents_current .quiet _ _ _ _ (by decide +revert)

/-! ### A stream that is refused -/

/-- The server refuses the stream, and the app hears of it. -/
def isRefused : List (Label Unit) :=
  [.worker 0 (.polled .empty), .worker 0 (.invalidated none),
    .worker 0 (.openEnded .unauthenticated), .relay 0, .internal .quiet]

/-- The task that this starts refreshes the tokens. -/
def refreshesNow : List (Label Unit) :=
  [.request 1 .zeros .quiet, .finish 1 (.tokens "me" "access2" "refresh2" 200) .quiet,
    .internal .quiet]

/-- A stream is refused, and the tokens are refreshed at once. When the task from the registration
wakes up, it presents the token from before. -/
theorem stale_token_presented : ¬Run.AlongPast (step .quiet) PresentsCurrent [] fresh
    (registers ++ isRefused ++ refreshesNow ++ [.request 0 .zeros .quiet]) := by
  intro h
  have ht : (Run.after (step .quiet) fresh (registers ++ isRefused ++ refreshesNow)).isSome := rfl
  obtain ⟨past, hcurrent⟩ := h.at (Option.some_get ht).symm
  obtain ⟨⟨session, hsession, htoken⟩, -⟩ := hcurrent "refresh1" rfl
  have hmemory : (Option.get _ ht).app.currentSession.map Session.refreshToken = some "refresh2" :=
    rfl
  rw [hsession] at hmemory
  exact absurd (htoken.symm.trans (Option.some.inj hmemory)) (by decide)

end Sys
