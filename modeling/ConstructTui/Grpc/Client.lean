import ConstructTui.Lib.Run
import Mathlib.Data.List.Basic

/-!
# The shared connection

Every clone of the client works on one cell that holds the live HTTP/2 session or nothing. A call
checks the cell, connects when it is empty, puts its session there, takes a handle on what it finds
there and exchanges; a call that fails empties the cell. Each of these is a step of its own: the
steps are the points where the code takes the lock of the cell or awaits an answer, and the steps
of concurrent calls interleave freely.

Sessions are numbered as they are put into the cell. The client keeps a history of the transport
failures its callers saw and of the sessions that left the cell.

## Main definitions

* `Grpc.Caller`, `Grpc.Point`, `Grpc.CallTask`: who uses the client, and where it stands.
* `Grpc.Client`, `Grpc.Client.step`: the cell, the callers and one step of one of them.
* `Grpc.Client.OwnFailuresOnly`: a session leaves the cell through a caller it failed, or a logout.
* `Grpc.Client.Matched`: a write to the cell finds it empty or finds the session that failed.

## Main results

* `Grpc.Client.ownFailuresOnly_iff`: only failed sessions are dropped in exactly the runs all of
  whose writes are matched.
-/

namespace Grpc

/-- The users of the client. A unary call tries twice, an open once; the stream worker opens again
and again; a logout invalidates. -/
inductive Caller
  | unary
  | openStream
  | worker
  | logout
  deriving DecidableEq, Repr

/-- Where a caller waits for the lock of the cell or for an answer. -/
inductive Point
  | loopHead (failedOn : Option ℕ)
  | invalidate (failedOn : Option ℕ)
  | check
  | connect
  | install
  | sendRequest
  | exchange (session : ℕ)
  | live (session : ℕ)
  | reset (session : ℕ)
  | returned
  deriving DecidableEq, Repr

/-- What a caller's wait ends with. A transport error is one that `is_retryable_transport`
accepts. -/
inductive Reply
  | ok
  | transportError
  | otherError
  | shutdown
  deriving DecidableEq, Repr

/-- A caller at work. -/
structure CallTask where
  caller : Caller
  retried : Bool
  point : Point
  deriving DecidableEq, Repr

namespace Point

/-- The session whose failure brought the caller here. -/
def failedOn : Point → Option ℕ
  | .loopHead failedOn | .invalidate failedOn => failedOn
  | .reset session => some session
  | _ => none

/-- The session the caller holds a handle on. -/
def handle : Point → Option ℕ
  | .exchange session | .live session => some session
  | _ => none

/-- The caller is about to empty the cell. -/
def clears : Point → Bool
  | .invalidate _ | .reset _ => true
  | _ => false

/-- The caller is about to write the cell. -/
def writes (point : Point) : Bool := point.clears || point == .install

end Point

namespace CallTask

def start : Caller → CallTask
  | .unary => ⟨.unary, false, .check⟩
  | .openStream => ⟨.openStream, false, .check⟩
  | .worker => ⟨.worker, false, .loopHead none⟩
  | .logout => ⟨.logout, false, .invalidate none⟩

def goto (task : CallTask) (point : Point) : CallTask := { task with point := point }

/-- The attempt ends with an error: a unary call tries once more after a transport error, the
worker goes round its loop, an open hands the error on. -/
def fail (task : CallTask) (retryable : Bool) (failedOn : Option ℕ) : CallTask :=
  match task.caller with
  | .unary =>
    if retryable ∧ ¬task.retried then { task with retried := true, point := .invalidate failedOn }
    else task.goto .returned
  | .worker => task.goto (.loopHead failedOn)
  | .openStream | .logout => task.goto .returned

/-- The cell has been emptied by `invalidate`. -/
def invalidated (task : CallTask) : CallTask :=
  match task.caller with
  | .logout => task.goto .returned
  | .unary | .openStream | .worker => task.goto .check

/-- The exchange on a session went through: the worker's stream is live, a call is done. -/
def exchanged (task : CallTask) (session : ℕ) : CallTask :=
  match task.caller with
  | .worker => task.goto (.live session)
  | .unary | .openStream | .logout => task.goto .returned

/-- The exchange on a session ended in a transport error: `unary_once` empties the cell before it
hands the error on, an open does not. -/
def exchangeFailed (task : CallTask) (session : ℕ) : CallTask :=
  match task.caller with
  | .unary => task.goto (.reset session)
  | .openStream | .worker | .logout => task.fail true (some session)

end CallTask

/-- A session that left the cell: through which task, and whether another one took its place. -/
structure DroppedSession where
  task : ℕ
  caller : Caller
  session : ℕ
  overwritten : Bool
  deriving DecidableEq, Repr

/-- The cell, the number of sessions put there so far, the callers, and the history. -/
structure Client where
  session : Option ℕ
  installed : ℕ
  tasks : List CallTask
  failures : List (ℕ × ℕ)
  dropped : List DroppedSession
  deriving DecidableEq, Repr

/-- What can happen next: a call begins, or one of the callers goes on. -/
inductive ClientAction
  | spawn (caller : Caller)
  | advance (task : ℕ) (reply : Reply)
  deriving DecidableEq, Repr

namespace Client

/-- `GrpcClient::new` opens no connection. -/
def new : Client := ⟨none, 0, [], [], []⟩

def move (c : Client) (t : ℕ) (task : CallTask) : Client := { c with tasks := c.tasks.set t task }

/-- A caller sees the session it uses fail. -/
def observe (c : Client) (t session : ℕ) : Client :=
  { c with failures := c.failures ++ [(t, session)] }

/-- The session in the cell leaves it. -/
def drops (c : Client) (t : ℕ) (caller : Caller) (overwritten : Bool) : List DroppedSession :=
  c.session.toList.map fun session => ⟨t, caller, session, overwritten⟩

/-- `*session.write().await = None`. -/
def clear (c : Client) (t : ℕ) (caller : Caller) : Client :=
  { c with session := none, dropped := c.dropped ++ c.drops t caller false }

/-- `*session.write().await = Some(session)`, whatever the cell holds by now. -/
def install (c : Client) (t : ℕ) (caller : Caller) : Client :=
  { c with
    session := some c.installed
    installed := c.installed + 1
    dropped := c.dropped ++ c.drops t caller true }

/-- A caller's wait has ended. -/
def advance (c : Client) (t : ℕ) (task : CallTask) : Reply → Option Client
  | .ok =>
    match task.point with
    | .loopHead failedOn => some (c.move t (task.goto (.invalidate failedOn)))
    | .invalidate _ => some ((c.clear t task.caller).move t task.invalidated)
    | .check => some (c.move t (task.goto (if c.session.isNone then .connect else .sendRequest)))
    | .connect => some (c.move t (task.goto .install))
    | .install => some ((c.install t task.caller).move t (task.goto .sendRequest))
    | .sendRequest =>
      match c.session with
      | some session => some (c.move t (task.goto (.exchange session)))
      | none => some (c.move t (task.fail true none))
    | .exchange session => some (c.move t (task.exchanged session))
    | .reset session => some ((c.clear t task.caller).move t (task.fail true (some session)))
    | .live _ | .returned => none
  | .transportError =>
    match task.point with
    | .connect => some (c.move t (task.fail true none))
    | .exchange session => some ((c.observe t session).move t (task.exchangeFailed session))
    | .live session => some ((c.observe t session).move t (task.fail true (some session)))
    | _ => none
  | .otherError =>
    match task.point with
    | .exchange _ | .live _ => some (c.move t (task.fail false none))
    | _ => none
  | .shutdown =>
    match task.point with
    | .loopHead _ | .live _ => some (c.move t (task.goto .returned))
    | _ => none

/-- One step of the client. -/
def step (c : Client) : ClientAction → Option Client
  | .spawn caller => some { c with tasks := c.tasks ++ [.start caller] }
  | .advance t reply => c.tasks[t]?.bind fun task => c.advance t task reply

/-- Every session that left the cell was dropped by a caller that had seen this very session fail,
or by a logout, and none was overwritten. -/
structure OwnFailuresOnly (c : Client) : Prop where
  drops : ∀ d ∈ c.dropped, d.caller = .logout ∨ (d.task, d.session) ∈ c.failures
  installs : ∀ d ∈ c.dropped, d.overwritten = false

/-- A caller that writes the cell finds it empty; or it empties it, and it is a logout or the
session there is the one whose failure brought it here. -/
def Matched (c : Client) : ClientAction → Prop
  | .spawn _ => True
  | .advance t _ => ∀ task ∈ c.tasks[t]?, ∀ session ∈ c.session, task.point ≠ .install ∧
      (task.point.clears → task.caller = .logout ∨ task.point.failedOn = some session)

instance (c : Client) : (action : ClientAction) → Decidable (c.Matched action)
  | .spawn _ => isTrue trivial
  | .advance t _ => inferInstanceAs (Decidable (∀ task ∈ c.tasks[t]?, ∀ session ∈ c.session,
      task.point ≠ .install ∧
        (task.point.clears → task.caller = .logout ∨ task.point.failedOn = some session)))

/-! ### What one step does -/

/-- What the end of a caller's wait does to the client: the caller moves on, with the cell as it
was; it sees its session fail; it empties the cell; or it puts its new session there. -/
inductive Advanced (c : Client) (t : ℕ) (task : CallTask) : Client → Prop
  | moved (task' : CallTask) (hwrites : task.point.writes = false)
      (hfailed : task'.point.failedOn = task.point.failedOn ∨ task'.point = .returned)
      (hhandle : ∀ s ∈ task'.point.handle, s ∈ task.point.handle ∨ s ∈ c.session) :
      Advanced c t task (c.move t task')
  | observed (task' : CallTask) (s : ℕ) (hs : task.point.handle = some s)
      (hfailed : task'.point.failedOn = some s ∨ task'.point = .returned)
      (hhandle : task'.point.handle = none) :
      Advanced c t task ((c.observe t s).move t task')
  | cleared (task' : CallTask) (hclears : task.point.clears = true)
      (hfailed : ∀ s ∈ task'.point.failedOn, task.point.failedOn = some s)
      (hhandle : task'.point.handle = none) :
      Advanced c t task ((c.clear t task.caller).move t task')
  | installed (hinstall : task.point = .install) :
      Advanced c t task ((c.install t task.caller).move t (task.goto .sendRequest))

theorem fail_failedOn (task : CallTask) (retryable : Bool) (f : Option ℕ) :
    (task.fail retryable f).point.failedOn = f ∨ (task.fail retryable f).point = .returned := by
  rcases task with ⟨caller, retried, point⟩
  cases caller <;> simp only [CallTask.fail, CallTask.goto] <;> grind [Point.failedOn]

theorem fail_handle (task : CallTask) (retryable : Bool) (f : Option ℕ) :
    (task.fail retryable f).point.handle = none := by
  rcases task with ⟨caller, retried, point⟩
  cases caller <;> simp only [CallTask.fail, CallTask.goto] <;> grind [Point.handle]

theorem exchangeFailed_failedOn (task : CallTask) (s : ℕ) :
    (task.exchangeFailed s).point.failedOn = some s ∨
      (task.exchangeFailed s).point = .returned := by
  cases hcaller : task.caller with
  | unary => simp [CallTask.exchangeFailed, hcaller, CallTask.goto, Point.failedOn]
  | openStream | worker | logout =>
    simpa [CallTask.exchangeFailed, hcaller] using fail_failedOn task true (some s)

theorem exchangeFailed_handle (task : CallTask) (s : ℕ) :
    (task.exchangeFailed s).point.handle = none := by
  cases hcaller : task.caller with
  | unary => simp [CallTask.exchangeFailed, hcaller, CallTask.goto, Point.handle]
  | openStream | worker | logout =>
    simpa [CallTask.exchangeFailed, hcaller] using fail_handle task true (some s)

theorem invalidated_point (task : CallTask) :
    task.invalidated.point.failedOn = none ∧ task.invalidated.point.handle = none := by
  cases hcaller : task.caller <;>
    simp [CallTask.invalidated, hcaller, CallTask.goto, Point.failedOn, Point.handle]

theorem exchanged_point (task : CallTask) (s : ℕ) :
    (task.exchanged s).point.failedOn = none ∧ ∀ s' ∈ (task.exchanged s).point.handle, s' = s := by
  cases hcaller : task.caller <;>
    simp [CallTask.exchanged, hcaller, CallTask.goto, Point.failedOn, Point.handle]

theorem advance_advanced {c c' : Client} {t : ℕ} {task : CallTask} {reply : Reply}
    (h : c.advance t task reply = some c') : Advanced c t task c' := by
  obtain ⟨caller, retried, point⟩ := task
  let task : CallTask := ⟨caller, retried, point⟩
  have hmoved (task' : CallTask) (hwrites : task.point.writes = false)
      (hfailed : task'.point.failedOn = task.point.failedOn ∨ task'.point = .returned)
      (hhandle : task'.point.handle = none) : Advanced c t task (c.move t task') :=
    .moved task' hwrites hfailed fun s hs => by simp [hhandle] at hs
  have hfail (retryable : Bool) (hwrites : task.point.writes = false)
      (hnone : task.point.failedOn = none) :
      Advanced c t task (c.move t (task.fail retryable none)) := by
    refine hmoved _ hwrites ?_ (fail_handle task retryable none)
    rw [hnone]
    exact fail_failedOn task retryable none
  cases reply with
  | ok =>
    cases point with
    | loopHead f =>
      obtain rfl := Option.some.inj h
      exact hmoved _ rfl (Or.inl rfl) rfl
    | invalidate f =>
      obtain rfl := Option.some.inj h
      obtain ⟨hfailed, hhandle⟩ := invalidated_point task
      exact .cleared _ rfl (fun s hs => by simp [task, hfailed] at hs) hhandle
    | check =>
      obtain rfl := Option.some.inj h
      by_cases hnone : c.session.isNone
      · rw [if_pos hnone]
        exact hmoved _ rfl (Or.inl rfl) rfl
      · rw [if_neg hnone]
        exact hmoved _ rfl (Or.inl rfl) rfl
    | connect =>
      obtain rfl := Option.some.inj h
      exact hmoved _ rfl (Or.inl rfl) rfl
    | install =>
      obtain rfl := Option.some.inj h
      exact .installed rfl
    | sendRequest =>
      cases hsession : c.session with
      | none =>
        simp only [advance, hsession, Option.some.injEq] at h
        subst h
        exact hfail true rfl rfl
      | some s =>
        simp only [advance, hsession, Option.some.injEq] at h
        subst h
        exact .moved _ rfl (Or.inl rfl) fun s' hs' => Or.inr (hsession.trans hs')
    | exchange s =>
      obtain rfl := Option.some.inj h
      obtain ⟨hfailed, hhandle⟩ := exchanged_point task s
      exact .moved _ rfl (Or.inl hfailed) fun s' hs' => Or.inl (congrArg some (hhandle s' hs').symm)
    | reset s =>
      obtain rfl := Option.some.inj h
      refine .cleared _ rfl (fun s' hs' => ?_) (fail_handle task true (some s))
      rcases fail_failedOn task true (some s) with hfailed | hreturned
      · exact hfailed.symm.trans hs'
      · simp [task, hreturned, Point.failedOn] at hs'
    | live _ | returned => cases h
  | transportError =>
    cases point with
    | connect =>
      obtain rfl := Option.some.inj h
      exact hfail true rfl rfl
    | exchange s =>
      obtain rfl := Option.some.inj h
      exact .observed _ s rfl (exchangeFailed_failedOn task s) (exchangeFailed_handle task s)
    | live s =>
      obtain rfl := Option.some.inj h
      exact .observed _ s rfl (fail_failedOn task true (some s)) (fail_handle task true (some s))
    | loopHead _ | invalidate _ | check | install | sendRequest | reset _ | returned => cases h
  | otherError =>
    cases point with
    | exchange _ | live _ =>
      obtain rfl := Option.some.inj h
      exact hfail false rfl rfl
    | loopHead _ | invalidate _ | check | connect | install | sendRequest | reset _ | returned =>
      cases h
  | shutdown =>
    cases point with
    | loopHead _ | live _ =>
      obtain rfl := Option.some.inj h
      exact hmoved _ rfl (Or.inr rfl) rfl
    | invalidate _ | check | connect | install | sendRequest | exchange _ | reset _ | returned =>
      cases h

/-! ### What callers know about the sessions that failed them -/

/-- The history of failures agrees with where a caller stands: a session that is in the cell
although it failed the caller is the one the caller is about to drop, unless it has returned. -/
structure Knows (c : Client) (t : ℕ) (task : CallTask) : Prop where
  handle : ∀ s ∈ task.point.handle, s < c.installed
  seen : ∀ s ∈ task.point.failedOn, (t, s) ∈ c.failures
  known : ∀ s, (t, s) ∈ c.failures → c.session = some s →
    task.point.failedOn = some s ∨ task.point = .returned

/-- Sessions in the cell and in the history were installed, and every caller knows which of them
failed it. -/
structure Sound (c : Client) : Prop where
  session : ∀ s ∈ c.session, s < c.installed
  failures : ∀ t s, (t, s) ∈ c.failures → t < c.tasks.length ∧ s < c.installed
  tasks : ∀ (t : ℕ) (task : CallTask), c.tasks[t]? = some task → Knows c t task

theorem sound_new : Sound new where
  session := by simp [new]
  failures := by simp [new]
  tasks := by simp [new]

theorem start_point (caller : Caller) :
    (CallTask.start caller).point.failedOn = none ∧
      (CallTask.start caller).point.handle = none := by
  cases caller <;> exact ⟨rfl, rfl⟩

theorem Sound.spawn {c : Client} (hc : Sound c) (caller : Caller) :
    Sound { c with tasks := c.tasks ++ [.start caller] } := by
  obtain ⟨hfailed, hhandle⟩ := start_point caller
  refine ⟨hc.session, fun t s hts => ?_, fun t task ht => ?_⟩
  · obtain ⟨ht, hs⟩ := hc.failures t s hts
    refine ⟨?_, hs⟩
    rw [List.length_append]
    exact Nat.lt_add_right 1 ht
  · rw [List.getElem?_append] at ht
    split at ht
    · have hold := hc.tasks t task ht
      exact ⟨hold.handle, hold.seen, hold.known⟩
    · next hlt =>
      -- no failure of a task that did not exist is on record
      obtain rfl := List.mem_singleton.mp (List.mem_of_getElem? ht)
      refine ⟨by simp [hhandle], by simp [hfailed], fun s hts => ?_⟩
      exact absurd (hc.failures t s hts).1 hlt

/-- A caller moves on after the cell or the history has changed: the others know what they knew, and
so does the caller. -/
theorem Sound.move {c : Client} {t : ℕ} {task' : CallTask} (ht : t < c.tasks.length)
    (hsession : ∀ s ∈ c.session, s < c.installed)
    (hfailures : ∀ u s, (u, s) ∈ c.failures → u < c.tasks.length ∧ s < c.installed)
    (hothers : ∀ (u : ℕ) (task : CallTask), u ≠ t → c.tasks[u]? = some task → Knows c u task)
    (hself : Knows c t task') : Sound (c.move t task') := by
  refine ⟨hsession, by simpa [Client.move] using hfailures, fun u task hu => ?_⟩
  by_cases hut : u = t
  · subst hut
    rw [Client.move, List.getElem?_set_self ht, Option.some.injEq] at hu
    subst hu
    exact ⟨hself.handle, hself.seen, hself.known⟩
  · rw [Client.move, List.getElem?_set_ne (Ne.symm hut)] at hu
    have hother := hothers u task hut hu
    exact ⟨hother.handle, hother.seen, hother.known⟩

theorem Sound.advanced {c c' : Client} {t : ℕ} {task : CallTask} (hc : Sound c)
    (ht : c.tasks[t]? = some task) (hreturned : task.point ≠ .returned)
    (h : Advanced c t task c') : Sound c' := by
  have hlt : t < c.tasks.length := (List.getElem?_eq_some_iff.mp ht).1
  have hself := hc.tasks t task ht
  cases h with
  | moved task' hwrites hfailed hhandle =>
    refine .move hlt hc.session hc.failures (fun u other _ hu => hc.tasks u other hu) ⟨?_, ?_, ?_⟩
    · exact fun s hs => (hhandle s hs).elim (hself.handle s) (hc.session s)
    · intro s hs
      rcases hfailed with hsame | hdone
      · exact hself.seen s (hsame ▸ hs)
      · simp [hdone, Point.failedOn] at hs
    · intro s hts hsession
      have hknown := (hself.known s hts hsession).resolve_right hreturned
      exact hfailed.imp (·.trans hknown) id
  | observed task' s hs hfailed hhandle =>
    have hold := hself.handle s hs
    have hmem {u s' : ℕ} : (u, s') ∈ c.failures ++ [(t, s)] ↔
        (u, s') ∈ c.failures ∨ u = t ∧ s' = s := by simp
    refine .move hlt hc.session (fun u s' hus => ?_) (fun u other hut hu => ?_) ⟨?_, ?_, ?_⟩
    · rcases hmem.mp hus with hus | ⟨rfl, rfl⟩
      · exact hc.failures u s' hus
      · exact ⟨hlt, hold⟩
    · have hother := hc.tasks u other hu
      refine ⟨hother.handle, fun s' hs' => hmem.mpr (Or.inl (hother.seen s' hs')), ?_⟩
      intro s' hus hsession
      exact hother.known s' ((hmem.mp hus).resolve_right fun h => hut h.1) hsession
    · simp [hhandle]
    · intro s' hs'
      rcases hfailed with hsame | hdone
      · exact hmem.mpr (Or.inr ⟨rfl, Option.some.inj (hs'.symm.trans hsame)⟩)
      · simp [hdone, Point.failedOn] at hs'
    · intro s' hts hsession
      rcases hmem.mp hts with hts | ⟨-, rfl⟩
      · -- a caller that uses a session has not seen the one in the cell fail
        have hknown := (hself.known s' hts hsession).resolve_right hreturned
        cases hpoint : task.point <;> simp [hpoint, Point.handle, Point.failedOn] at hs hknown
      · exact hfailed
  | cleared task' hclears hfailed hhandle =>
    refine .move hlt (by simp [clear]) hc.failures (fun u other _ hu => ?_) ⟨?_, ?_, ?_⟩
    · have hother := hc.tasks u other hu
      exact ⟨hother.handle, hother.seen, by simp [clear]⟩
    · simp [hhandle]
    · exact fun s hs => hself.seen s (hfailed s hs)
    · simp [clear]
  | installed hinstall =>
    have hfresh {u s : ℕ} (hus : (u, s) ∈ c.failures) (hs : some c.installed = some s) : False := by
      have hlt := (hc.failures u s hus).2
      exact absurd (Option.some.inj hs) (by omega)
    refine .move hlt (by simp [Client.install]) ?_ (fun u other _ hu => ?_) ⟨?_, ?_, ?_⟩
    · exact fun u s hus => ⟨(hc.failures u s hus).1, Nat.lt_succ_of_lt (hc.failures u s hus).2⟩
    · have hother := hc.tasks u other hu
      exact ⟨fun s hs => Nat.lt_succ_of_lt (hother.handle s hs), hother.seen,
        fun s hus hs => (hfresh hus hs).elim⟩
    · simp [CallTask.goto, Point.handle]
    · simp [CallTask.goto, Point.failedOn]
    · exact fun s hts hs => (hfresh hts hs).elim

theorem sound_step {c c' : Client} {action : ClientAction} (hc : Sound c)
    (h : c.step action = some c') : Sound c' := by
  cases action with
  | spawn caller => exact Option.some.inj h ▸ hc.spawn caller
  | advance t reply =>
    obtain ⟨task, ht, h⟩ := Option.bind_eq_some_iff.mp h
    refine hc.advanced ht (fun hreturned => ?_) (advance_advanced h)
    obtain ⟨caller, retried, point⟩ := task
    obtain rfl : point = .returned := hreturned
    cases reply <;> cases h

/-! ### Which sessions are dropped -/

theorem ownFailuresOnly_new : OwnFailuresOnly new where
  drops := by simp [new]
  installs := by simp [new]

theorem mem_drops {c : Client} {t : ℕ} {caller : Caller} {overwritten : Bool}
    {d : DroppedSession} : d ∈ c.drops t caller overwritten ↔
      ∃ s ∈ c.session, d = ⟨t, caller, s, overwritten⟩ := by
  simp [drops, eq_comm]

/-- A caller that empties the cell drops what stands there: this keeps the property exactly when it
is a logout or has seen that session fail. -/
theorem ownFailuresOnly_clear {c : Client} {t : ℕ} {caller : Caller} :
    OwnFailuresOnly (c.clear t caller) ↔ OwnFailuresOnly c ∧
      ∀ s ∈ c.session, caller = .logout ∨ (t, s) ∈ c.failures := by
  constructor
  · rintro ⟨hdrops, hinstalls⟩
    refine ⟨⟨fun d hd => hdrops d ?_, fun d hd => hinstalls d ?_⟩, fun s hs => ?_⟩
    · exact List.mem_append_left _ hd
    · exact List.mem_append_left _ hd
    · exact hdrops _ (List.mem_append_right _ (mem_drops.mpr ⟨s, hs, rfl⟩))
  · rintro ⟨hc, hown⟩
    refine ⟨fun d hd => ?_, fun d hd => ?_⟩ <;> rcases List.mem_append.mp hd with hd | hd
    · exact hc.drops d hd
    · obtain ⟨s, hs, rfl⟩ := mem_drops.mp hd
      exact hown s hs
    · exact hc.installs d hd
    · obtain ⟨s, -, rfl⟩ := mem_drops.mp hd
      rfl

/-- A caller that installs its session keeps the property exactly when the cell is empty. -/
theorem ownFailuresOnly_install {c : Client} {t : ℕ} {caller : Caller} :
    OwnFailuresOnly (c.install t caller) ↔ OwnFailuresOnly c ∧ c.session = none := by
  constructor
  · rintro ⟨hdrops, hinstalls⟩
    refine ⟨⟨fun d hd => hdrops d ?_, fun d hd => hinstalls d ?_⟩, ?_⟩
    · exact List.mem_append_left _ hd
    · exact List.mem_append_left _ hd
    · rw [Option.eq_none_iff_forall_not_mem]
      intro s hs
      have hover := hinstalls _ (List.mem_append_right _ (mem_drops.mpr ⟨s, hs, rfl⟩))
      exact Bool.noConfusion hover
  · rintro ⟨hc, hnone⟩
    have hsame : (c.install t caller).dropped = c.dropped := by simp [Client.install, drops, hnone]
    exact ⟨fun d hd => hc.drops d (hsame ▸ hd), fun d hd => hc.installs d (hsame ▸ hd)⟩

theorem ownFailuresOnly_move {c : Client} {t : ℕ} {task : CallTask} :
    OwnFailuresOnly (c.move t task) ↔ OwnFailuresOnly c :=
  ⟨fun h => ⟨h.drops, h.installs⟩, fun h => ⟨h.drops, h.installs⟩⟩

theorem OwnFailuresOnly.observe {c : Client} (h : OwnFailuresOnly c) (t s : ℕ) :
    OwnFailuresOnly (c.observe t s) :=
  ⟨fun d hd => (h.drops d hd).imp_right (List.mem_append_left _), h.installs⟩

/-- One step of a caller keeps the property exactly when its write is matched. -/
theorem ownFailuresOnly_step {c c' : Client} {action : ClientAction} (hc : Sound c)
    (h : c.step action = some c') (hown : OwnFailuresOnly c) :
    OwnFailuresOnly c' ↔ c.Matched action := by
  cases action with
  | spawn caller =>
    obtain rfl := Option.some.inj h
    exact iff_of_true ⟨hown.drops, hown.installs⟩ trivial
  | advance t reply =>
    obtain ⟨task, ht, h⟩ := Option.bind_eq_some_iff.mp h
    have hself := hc.tasks t task ht
    have hmatched : c.Matched (.advance t reply) ↔ ∀ s ∈ c.session, task.point ≠ .install ∧
        (task.point.clears → task.caller = .logout ∨ task.point.failedOn = some s) := by
      simp [Matched, ht]
    rw [hmatched]
    have hidle (hwrites : task.point.writes = false) :
        task.point ≠ .install ∧ task.point.clears = false := by
      simpa [Point.writes, and_comm] using hwrites
    cases advance_advanced h with
    | moved task' hwrites hfailed hhandle =>
      obtain ⟨hinstall, hclears⟩ := hidle hwrites
      refine iff_of_true (ownFailuresOnly_move.mpr hown) fun s _ => ⟨hinstall, fun h => ?_⟩
      simp [hclears] at h
    | observed task' s hs hfailed hhandle =>
      refine iff_of_true (ownFailuresOnly_move.mpr (hown.observe t s)) fun s' _ => ?_
      cases hpoint : task.point <;> simp [hpoint, Point.handle, Point.clears] at hs ⊢
    | cleared task' hclears hfailed hhandle =>
      rw [ownFailuresOnly_move, ownFailuresOnly_clear, and_iff_right hown]
      have hinstall : task.point ≠ .install := fun h => by simp [h, Point.clears] at hclears
      have hreturned : task.point ≠ .returned := fun h => by simp [h, Point.clears] at hclears
      refine forall₂_congr fun s hs => ?_
      rw [and_iff_right hinstall, imp_iff_right hclears]
      refine or_congr_right ⟨fun hseen => ?_, fun hfailed => hself.seen s hfailed⟩
      exact (hself.known s hseen hs).resolve_right hreturned
    | installed hinstall =>
      rw [ownFailuresOnly_move, ownFailuresOnly_install, and_iff_right hown,
        Option.eq_none_iff_forall_not_mem]
      exact forall₂_congr fun s _ => iff_of_false id fun h => h.1 hinstall

/-- **A session is dropped only by a caller it failed** or by a logout, and none is overwritten, in
exactly the runs all of whose writes are matched: whoever writes the cell finds it empty, or empties
it of the session whose failure brought it there. -/
theorem ownFailuresOnly_iff {c : Client} {actions : List ClientAction}
    (h : Run.after step new actions = some c) :
    Run.Always step OwnFailuresOnly new actions ↔ Run.Along step Matched new actions := by
  refine Run.always_iff_along (I := fun c => Sound c ∧ OwnFailuresOnly c) (fun c hc => hc.2) ?_ ?_
    ⟨sound_new, ownFailuresOnly_new⟩ h
  · rintro c action c' ⟨hc, hown⟩ hstep hmatched
    exact ⟨sound_step hc hstep, (ownFailuresOnly_step hc hstep hown).mpr hmatched⟩
  · rintro c action c' ⟨hc, hown⟩ hstep hown'
    exact (ownFailuresOnly_step hc hstep hown).mp hown'

/-- A unary call whose first exchange fails, and that is tried again on a new session. -/
def retriedCall : List ClientAction :=
  [.spawn .unary, .advance 0 .ok, .advance 0 .ok, .advance 0 .ok, .advance 0 .ok,
    .advance 0 .transportError, .advance 0 .ok, .advance 0 .ok, .advance 0 .ok, .advance 0 .ok,
    .advance 0 .ok, .advance 0 .ok, .advance 0 .ok]

theorem ownFailuresOnly_retriedCall :
    Run.Always step OwnFailuresOnly new retriedCall ∧
      (Run.ending step new retriedCall).failures = [(0, 0)] ∧
      (Run.ending step new retriedCall).dropped = [⟨0, .unary, 0, false⟩] ∧
      (Run.ending step new retriedCall).session = some 1 :=
  ⟨(ownFailuresOnly_iff (Run.after_ending_nil (by decide))).mpr (by decide), by decide, by decide,
    by decide⟩

/-- Two calls find the cell empty and connect both; the second session takes the place of the first
while the first call exchanges on it. -/
def overwrittenCall : List ClientAction :=
  [.spawn .unary, .spawn .unary, .advance 0 .ok, .advance 1 .ok, .advance 0 .ok, .advance 1 .ok,
    .advance 0 .ok, .advance 0 .ok, .advance 1 .ok]

theorem not_ownFailuresOnly_overwrittenCall :
    ¬ Run.Always step OwnFailuresOnly new overwrittenCall ∧
      (Run.ending step new overwrittenCall).failures = [] ∧
      (Run.ending step new overwrittenCall).tasks[0]? = some ⟨.unary, false, .exchange 0⟩ ∧
      (Run.ending step new overwrittenCall).dropped = [⟨1, .unary, 0, true⟩] := by
  refine ⟨fun h => ?_, by decide, by decide, by decide⟩
  have hend := h overwrittenCall _ (List.prefix_refl _) (Run.after_ending_nil (by decide))
  have hfalse := hend.installs ⟨1, .unary, 0, true⟩ (by decide)
  exact Bool.noConfusion hfalse

end Client

end Grpc
