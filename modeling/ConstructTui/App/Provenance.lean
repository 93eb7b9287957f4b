import ConstructTui.App.ContactList
import ConstructTui.App.Credentials
import ConstructTui.App.Search

/-!
# Where contacts come from

A contact is a user id and a name. The server says what the id is, in its answer to a search or to
an invite that is redeemed; the name is the one that was searched for, or the one of the invite.
From there the two go together through the queue of the app, the results on screen, the list of
chats and the database, from which the list is loaded again after a restart. Nothing that comes in
over the stream makes a contact, or gives one another id or another name.

## Main definitions

* `Sys.Introduces`: the step by which the server names a user.
* `Sys.Vouched`: all that the client knows of users is vouched for.

## Main results

* `App.vouched_handle`, `Sys.vouched_step`: only an introduction adds to that.
* `Sys.contacts_introduced`: every contact was in the database or has been introduced.
-/

variable {ε : Type} {E : AppExternals ε} {ans : Answers ε}

/-- The users of an event are vouched for, each by the name it goes by. -/
def InternalEvent.Vouched (P : String × String → Prop) : InternalEvent → Prop
  | .contactSearchResult results => ∀ r ∈ results, P (r.userId, r.username)
  | .inviteAccepted userId username => P (userId, username)
  | _ => True

theorem InternalEvent.vouched_of_notice {P : String × String → Prop} {e : InternalEvent}
    (h : e.Notice) : e.Vouched P := by
  cases h <;> trivial

/-- The database knows the user by that name. -/
def Storage.Lists (db : Storage) (user : String × String) : Prop :=
  ∃ c ∈ db.contacts.rows, (c.userId, c.displayName) = user

instance (db : Storage) (user : String × String) : Decidable (db.Lists user) :=
  inferInstanceAs (Decidable (∃ c ∈ db.contacts.rows, (c.userId, c.displayName) = user))

namespace Sys

variable (E) in
/-- The server names a user: it has found a name that can be searched for, or has accepted an invite
that was read and had not expired. -/
inductive Introduces (user : String × String) (s : Sys ε) : VaultLabel ε → Prop
  | found {k : ℕ} {session : Option Session} {ans : Answers ε} {raw : List Char}
      (hr : s.tasks[k]? = some ⟨.search user.2, true, session⟩)
      (hraw : user.2 = normalizeUsername raw) (hname : usernameIsSearchable user.2) :
      Introduces user s (.act (.finish k (.found (some user.1)) ans))
  | accepted {k : ℕ} {session : Option Session} {ans : Answers ε} {invite : Invite} {raw : String}
      {now : ℤ} (hr : s.tasks[k]? = some ⟨.redeem invite user.2, true, session⟩)
      (hinvite : E.parseInvite raw now = .ok invite) (hvalid : invite.isExpired now = false)
      (hname : user.2 = App.inviteUsername invite) :
      Introduces user s (.act (.finish k (.accepted user.1) ans))

/-- All that the client knows of users is vouched for, and its tasks have been checked. -/
structure Vouched (E : AppExternals ε) (P : String × String → Prop) (s : Sys ε) : Prop where
  rows : ∀ c ∈ s.db.contacts.rows, P (c.userId, c.displayName)
  list : ∀ c ∈ s.app.chatList.contacts, P (c.id, c.displayName)
  results : ∀ r ∈ s.app.contactSearch.results, P (r.userId, r.username)
  events : ∀ e ∈ s.queue.map Queued.event, e.Vouched P
  tasks : ∀ r ∈ s.tasks, r.task.Checked E

theorem Vouched.mono {P Q : String × String → Prop} {s : Sys ε} (hPQ : ∀ user, P user → Q user)
    (hs : s.Vouched E P) : s.Vouched E Q where
  rows c hc := hPQ _ (hs.rows c hc)
  list c hc := hPQ _ (hs.list c hc)
  results r hr := hPQ _ (hs.results r hr)
  events e he := by
    have h := hs.events e he
    cases e with
    | contactSearchResult results => exact fun r hr => hPQ _ (h r hr)
    | inviteAccepted userId username => exact hPQ _ h
    | _ => trivial
  tasks := hs.tasks

end Sys

/-! ### Inputs of the app -/

namespace App

open Sys

variable {P : String × String → Prop} {s : Sys ε}

/-- The results on screen after an input are those before it, none, or those that it brings. -/
theorem vouched_results (hs : s.Vouched E P) {input : Input}
    (hinput : ∀ e gone, input = .event e gone → e.Vouched P) :
    ∀ r ∈ (handle E ans s input).app.contactSearch.results, P (r.userId, r.username) := by
  by_cases hbrings : bringsNoResults input
  · cases boxMove_handle E ans hbrings s with
    | left hresults => exact hresults ▸ hs.results
    | cleared hnil =>
      rw [hnil]
      exact List.forall_mem_nil _
  · cases input with
    | key key => exact absurd trivial hbrings
    | event event gone =>
      cases event with
      | contactSearchResult results => exact hinput _ gone rfl
      | _ => exact absurd trivial hbrings

/-- Whoever an input adds is vouched for. -/
theorem vouched_adding (hs : s.Vouched E P) {input : Input}
    (hinput : ∀ e gone, input = .event e gone → e.Vouched P) {userId username : String}
    (hadd : adding s input = some (userId, username)) : P (userId, username) := by
  cases input with
  | key key =>
    rw [adding, Option.ite_none_right_eq_some] at hadd
    obtain ⟨r, hr, heq⟩ := Option.map_eq_some_iff.mp hadd.2
    obtain ⟨i, -, hi⟩ := Option.bind_eq_some_iff.mp hr
    exact heq ▸ hs.results r (List.mem_of_getElem? hi)
  | event event gone =>
    cases event with
    | inviteAccepted userId' username' =>
      obtain ⟨rfl, rfl⟩ := Prod.mk.inj (Option.some.inj hadd)
      exact hinput _ gone rfl
    | _ => cases hadd

/-- An input adds nobody to the contacts who is not vouched for. -/
theorem vouched_contacts (hs : s.Vouched E P) {input : Input}
    (hinput : ∀ e gone, input = .event e gone → e.Vouched P) :
    (∀ c ∈ (handle E ans s input).db.contacts.rows, P (c.userId, c.displayName)) ∧
      ∀ c ∈ (handle E ans s input).app.chatList.contacts, P (c.id, c.displayName) := by
  cases edit_handle E ans s input with
  | kept hlist _ hdb =>
    rw [hlist, hdb]
    exact ⟨hs.rows, hs.list⟩
  | started hmove =>
    have hlist := (congrArg Talk.chatList hmove.talk).trans (chatList_loadContacts ans s)
    refine ⟨hmove.db ▸ hs.rows, ?_⟩
    intro c (hc : c ∈ (handle E ans s input).talk.chatList.contacts)
    rw [hlist] at hc
    cases hstored : storedContacts ans s with
    | none =>
      rw [hstored] at hc
      exact hs.list c hc
    | some stored =>
      rw [hstored] at hc
      obtain ⟨row, hrow, rfl⟩ := List.mem_map.mp hc
      rw [storedContacts, Option.ite_none_left_eq_some] at hstored
      obtain ⟨-, rfl⟩ := hstored.imp_right Option.some.inj
      exact hs.rows row ((List.mem_insertionSort _).mp hrow)
  | loggedOut hmove =>
    refine ⟨?_, (congrArg (fun t => t.chatList.contacts) hmove.talk) ▸ List.forall_mem_nil _⟩
    obtain hdb | hdb := hmove.db <;> rw [hdb] <;> exact hs.rows
  | added userId username hadd h =>
    have huser := vouched_adding hs hinput hadd
    obtain ⟨t, u, rfl, -, happ, hadded⟩ := finishAddContact_eq ans userId username s
    obtain ⟨-, -, hdb, -⟩ := finishAddContact_spec ans userId username s
    have hlist : (finishAddContact ans userId username s).app.chatList.contacts =
        s.app.chatList.contacts ++ [⟨userId, username, 0, none⟩] := by
      rw [hadded]
      exact congrArg (fun a => a.chatList.contacts) happ
    rw [h, hdb, hlist]
    refine ⟨fun c hc => ?_, fun c hc => ?_⟩
    · split at hc
      · obtain ⟨hc, -⟩ | rfl := Table.mem_insertOrReplace.mp hc
        · exact hs.rows c hc
        · exact huser
      · exact hs.rows c hc
    · obtain hc | hc := List.mem_append.mp hc
      · exact hs.list c hc
      · exact List.mem_singleton.mp hc ▸ huser
  | deleted contactId key _ _ h =>
    obtain ⟨hrows, hlist⟩ := confirmDelete_subset ans s
    rw [h]
    exact ⟨fun c hc => hs.rows c (hrows hc), fun c hc => hs.list c (hlist hc)⟩

theorem vouched_handle (hs : s.Vouched E P) {input : Input}
    (hinput : ∀ e gone, input = .event e gone → e.Vouched P) :
    (handle E ans s input).Vouched E P := by
  have hevents : (handle E ans s input).queue.map Queued.event = s.queue.map Queued.event :=
    events_handle E ans s input
  refine ⟨(vouched_contacts hs hinput).1, (vouched_contacts hs hinput).2,
    vouched_results hs hinput, hevents ▸ hs.events, ?_⟩
  obtain ⟨ts, hchecked, htasks⟩ := tasks_handle E ans s input
  intro r hr
  rw [htasks] at hr
  obtain hr | hr := List.mem_append.mp hr
  · exact hs.tasks r hr
  · obtain ⟨task, htask, rfl⟩ := List.mem_map.mp hr
    exact hchecked task htask

end App

/-! ### Steps -/

namespace Sys

variable {P : String × String → Prop} {s s' : Sys ε}

theorem Vouched.congr (hs : s.Vouched E P) (hcontacts : s'.db.contacts = s.db.contacts)
    (hlist : s'.app.chatList = s.app.chatList)
    (hsearch : s'.app.contactSearch = s.app.contactSearch) (hqueue : s'.queue = s.queue)
    (htasks : s'.tasks = s.tasks) : s'.Vouched E P :=
  ⟨hcontacts ▸ hs.rows, hlist ▸ hs.list, hsearch ▸ hs.results, hqueue ▸ hs.events,
    htasks ▸ hs.tasks⟩

theorem Vouched.enqueue (hs : s.Vouched E P) {es : List InternalEvent}
    (hes : ∀ e ∈ es, e.Vouched P) :
    ∀ e ∈ (s.queue ++ es.map fun e => (⟨e, false⟩ : Queued)).map Queued.event, e.Vouched P := by
  intro e he
  rw [List.map_append, List.map_map] at he
  obtain he | he := List.mem_append.mp he
  · exact hs.events e he
  · obtain ⟨event, hevent, rfl⟩ := List.mem_map.mp he
    exact hes event hevent

theorem Vouched.conclude (hs : s.Vouched E P) (k : ℕ) {e : InternalEvent} (he : e.Vouched P) :
    (s.conclude k e).Vouched E P :=
  ⟨hs.rows, hs.list, hs.results, hs.enqueue (List.forall_mem_singleton.mpr he),
    fun r hr => hs.tasks r (List.mem_of_mem_eraseIdx hr)⟩

theorem Vouched.await (hs : s.Vouched E P) (k : ℕ) (session : Option Session) :
    (s.await k session).Vouched E P := by
  refine ⟨hs.rows, hs.list, hs.results, hs.events, fun r hr => ?_⟩
  have htask : r.task ∈ (s.await k session).tasks.map Running.task := List.mem_map_of_mem hr
  rw [show (s.await k session).tasks.map Running.task = s.tasks.map Running.task from
    map_task_modify s.tasks k session] at htask
  obtain ⟨r', hr', heq⟩ := List.mem_map.mp htask
  exact heq ▸ hs.tasks r' hr'

theorem vouched_beginRequest (hs : s.Vouched E P) (k : ℕ) (task : BackgroundTask)
    (fresh : Session) : (beginRequest E k task fresh ans s).Vouched E P := by
  have hdir : ({ s with dir := s.dir.sessionPath } : Sys ε).Vouched E P :=
    hs.congr rfl rfl rfl rfl rfl
  have hdevice {t : Sys ε} (ht : t.Vouched E P) (id : String) : (t.setDeviceId id).Vouched E P :=
    ht.congr rfl rfl rfl rfl rfl
  have hbegin {t : Sys ε} (ht : t.Vouched E P) (session : Session) (reauth : Bool) :
      (beginAuthenticate E k session reauth t).Vouched E P := by
    unfold beginAuthenticate
    split
    · exact ht.conclude k trivial
    · exact (hdevice ht _).await k _
  unfold beginRequest
  cases task with
  | restoreFromDisk =>
    dsimp only
    split
    · exact hdir.conclude k trivial
    · exact hdir.conclude k trivial
    · exact hbegin hdir _ _
  | authenticate session reauth => exact hbegin hs session reauth
  | search query => exact hs.await k none
  | redeem invite username => exact hs.await k none
  | _ => exact (hdevice hs _).await k _

/-- The answer to a search or to an invite introduces whom it names. -/
theorem vouched_finishRequest (hs : s.Vouched E P) {k : ℕ} {r : Running} (result : TaskResult)
    (hr : s.tasks[k]? = some r) (hrequested : r.requested = true) :
    (finishRequest k r result ans s).Vouched E fun user =>
      P user ∨ Introduces E user s (.act (.finish k result ans)) := by
  obtain ⟨task, requested, session⟩ := r
  obtain rfl : requested = true := hrequested
  have hchecked := hs.tasks _ (List.mem_of_getElem? hr)
  have hsame : s.Vouched E fun user =>
      P user ∨ Introduces E user s (.act (.finish k result ans)) := hs.mono fun _ => Or.inl
  have hdir (dir : ConfigDir) : ({ s with dir := dir } : Sys ε).Vouched E fun user =>
      P user ∨ Introduces E user s (.act (.finish k result ans)) := hsame.congr rfl rfl rfl rfl rfl
  cases task with
  | restoreFromDisk =>
    cases result with
    | tokens userId accessToken refreshToken expiresAt =>
      cases session with
      | none => exact hsame
      | some session =>
        unfold finishRequest
        dsimp only
        split <;> exact (hdir _).conclude k trivial
    | failed e | rejected e => exact hsame.conclude k trivial
    | _ => exact hsame
  | authenticate _ _ | register _ | link _ =>
    cases result with
    | tokens userId accessToken refreshToken expiresAt =>
      cases session with
      | none => exact hsame
      | some session => exact hsame.conclude k trivial
    | failed e | rejected e => exact hsame.conclude k trivial
    | _ => exact hsame
  | tokenRefresh _ _ _ | tokenRefreshNow _ _ =>
    cases result <;> exact hsame.conclude k trivial
  | uploadPreKeys deviceId keys =>
    have herased : ({ s with tasks := s.tasks.eraseIdx k } : Sys ε).Vouched E fun user =>
        P user ∨ Introduces E user s (.act (.finish k result ans)) :=
      ⟨hsame.rows, hsame.list, hsame.results, hsame.events,
        fun r hr => hsame.tasks r (List.mem_of_mem_eraseIdx hr)⟩
    cases result <;> exact herased
  | search query =>
    cases result with
    | found userId =>
      cases userId with
      | none => exact hsame.conclude k (List.forall_mem_nil _)
      | some userId =>
        obtain ⟨hname, raw, hraw⟩ := hchecked
        refine hsame.conclude k (List.forall_mem_singleton.mpr (.inr ?_))
        exact .found hr hraw hname
    | failed e | rejected e => exact hsame.conclude k trivial
    | _ => exact hsame
  | redeem invite username =>
    cases result with
    | accepted userId =>
      obtain ⟨hname, raw, now, hinvite, hvalid⟩ := hchecked
      exact hsame.conclude k (.inr (.accepted hr hinvite hvalid hname))
    | failed e | rejected e => exact hsame.conclude k trivial
    | _ => exact hsame

theorem vouched_startupCheck (hs : s.Vouched E P) : (App.startupCheck ans s).Vouched E P := by
  unfold App.startupCheck
  dsimp only
  split
  · exact hs.congr rfl rfl rfl rfl rfl
  · refine ⟨hs.rows, hs.list, hs.results, hs.events, List.forall_mem_append.mpr ⟨hs.tasks, ?_⟩⟩
    exact List.forall_mem_singleton.mpr trivial
  · exact hs.congr rfl rfl rfl rfl rfl

/-- A step adds to what is vouched for at most whom it introduces. -/
theorem vouched_step (hprograms : s.Programs OrchestratorTask.Runs) (hs : s.Vouched E P)
    {a : Label ε} (h : step E s a = some s') :
    s'.Vouched E fun user => P user ∨ Introduces E user s (.act a) := by
  have hsame : s.Vouched E fun user => P user ∨ Introduces E user s (.act a) :=
    hs.mono fun _ => Or.inl
  -- what a pipeline tells the app is about no user
  have hpipeline (i : ℕ) (p : Pipeline ε) {es : List InternalEvent} (hes : ∀ e ∈ es, e.Notice) :
      (s.movePipeline i p es).Vouched E fun user => P user ∨ Introduces E user s (.act a) :=
    ⟨hsame.rows, hsame.list, hsame.results,
      hsame.enqueue fun e he => InternalEvent.vouched_of_notice (hes e he), hsame.tasks⟩
  have henqueue (e : InternalEvent)
      (he : e.Vouched fun user => P user ∨ Introduces E user s (.act a)) :
      (s.enqueue e).Vouched E fun user => P user ∨ Introduces E user s (.act a) :=
    ⟨hsame.rows, hsame.list, hsame.results, hsame.enqueue (List.forall_mem_singleton.mpr he),
      hsame.tasks⟩
  cases stepped h with
  | startup => exact vouched_startupCheck hsame
  | @key key ans =>
    show (App.handle E ans s (.key key)).Vouched E _
    exact App.vouched_handle hsame nofun
  | @internal ans q queue _ hqueue =>
    have hevents := hsame.events
    rw [hqueue, List.map_cons] at hevents
    obtain ⟨hevent, hqueued⟩ := List.forall_mem_cons.mp hevents
    have hpopped : ({ s with queue := queue } : Sys ε).Vouched E fun user =>
        P user ∨ Introduces E user s (.act (.internal ans)) :=
      ⟨hsame.rows, hsame.list, hsame.results, hqueued, hsame.tasks⟩
    show (App.handle E ans { s with queue := queue } (.event q.event q.gone)).Vouched E _
    refine App.vouched_handle hpopped ?_
    rintro e gone ⟨⟩
    exact hevent
  | tick => exact henqueue .tick trivial
  | @registrationStep k reached => exact henqueue (.registrationStep reached) trivial
  | request => exact vouched_beginRequest hsame _ _ _
  | finish hr => exact vouched_finishRequest hs _ hr rfl
  | worker | take => exact hpipeline _ _ (List.forall_mem_nil _)
  | relay hp hr => exact hpipeline _ _ (Pipeline.notice_relayStep hr)
  | subTask hp hr => exact hpipeline _ _ (Pipeline.notice_subTaskStep hr)
  | orchestrator hp hs' =>
    obtain ⟨⟨program, world⟩, hstep, rfl⟩ := Option.map_eq_some_iff.mp hs'
    have hcontacts := ((hprograms _ (List.mem_of_getElem? hp)).step hstep).1.contacts
    refine ⟨fun c hc => hsame.rows c (hcontacts ▸ hc), hsame.list, hsame.results, fun e he => ?_,
      hsame.tasks⟩
    rw [List.map_append, List.map_map] at he
    obtain he | he := List.mem_append.mp he
    · exact hsame.events e he
    · obtain ⟨event, -, rfl⟩ := List.mem_map.mp he
      trivial

/-! ### Runs -/

theorem programs_stepOrRestart {l : VaultLabel ε} (hs : s.Programs OrchestratorTask.Runs)
    (h : stepOrRestart E s l = some s') : s'.Programs OrchestratorTask.Runs := by
  cases l with
  | act a => exact hs.runs h
  | restart cfg =>
    obtain rfl := Option.some.inj h
    exact programs_start _ _ _ _

/-- After a restart there is only the database. -/
theorem vouched_restart (hs : s.Vouched E P) (cfg : AppConfig) :
    (start ε cfg s.dir s.db).Vouched E P :=
  ⟨hs.rows, List.forall_mem_nil _, List.forall_mem_nil _, List.forall_mem_nil _,
    List.forall_mem_nil _⟩

theorem vouched_stepOrRestart {l : VaultLabel ε} (hprograms : s.Programs OrchestratorTask.Runs)
    (hs : s.Vouched E P) (h : stepOrRestart E s l = some s') :
    s'.Vouched E fun user => P user ∨ Introduces E user s l := by
  cases l with
  | act a => exact vouched_step hprograms hs h
  | restart cfg =>
    obtain rfl := Option.some.inj h
    exact (vouched_restart hs cfg).mono fun _ => Or.inl

/-- **Contacts are introduced.** Through any run and any restarts, every contact in the database
and in the list of chats was in the database from the start, under the same name, or the server
named it: as the user found for that name, which the user of the client searched for, or as the one
who accepted an invite that had not expired and bears that name. -/
theorem contacts_introduced (E : AppExternals ε) (cfg : AppConfig) (dir : ConfigDir) (db : Storage)
    {s : Sys ε} {ls : List (VaultLabel ε)}
    (h : Run.after (stepOrRestart E) (start ε cfg dir db) ls = some s) {user : String × String}
    (huser : s.db.Lists user ∨ user ∈ s.app.chatList.contacts.map fun c => (c.id, c.displayName)) :
    db.Lists user ∨ Run.Passes (stepOrRestart E) (Introduces E user) (start ε cfg dir db) ls := by
  have hs := (Run.known_after
    (I := fun P s => s.Programs OrchestratorTask.Runs ∧ s.Vouched E P)
    (U := fun user s l => Introduces E user s l)
    (fun _ _ _ hPQ => And.imp_right (Vouched.mono hPQ))
    (fun _ _ _ _ hs hstep =>
      ⟨programs_stepOrRestart hs.1 hstep, vouched_stepOrRestart hs.1 hs.2 hstep⟩)
    (P := db.Lists) ⟨programs_start _ _ _ _, ?_⟩ h).2
  · obtain ⟨c, hc, rfl⟩ | huser := huser
    · exact hs.rows c hc
    · obtain ⟨c, hc, rfl⟩ := List.mem_map.mp huser
      exact hs.list c hc
  · exact ⟨fun c hc => ⟨c, hc, rfl⟩, List.forall_mem_nil _, List.forall_mem_nil _,
      List.forall_mem_nil _, List.forall_mem_nil _⟩

/-- The user searches for somebody, adds them and starts the client again. -/
def addsAndReturns : List (VaultLabel Unit) :=
  (registers ++ searches [] ++ [Label.key (.plain .enter) .quiet]).map .act ++
    [.restart ⟨"http://localhost", "TLS", true, false⟩]

/-- Somebody who was found and added is in the database after a restart. -/
theorem contacts_introduced_found :
    (Run.ending (stepOrRestart .quiet) fresh addsAndReturns).db.Lists ("alice", "ali") ∧
      Run.Passes (stepOrRestart .quiet) (Introduces .quiet ("alice", "ali")) fresh
        addsAndReturns := by
  have hlists : (Run.ending (stepOrRestart .quiet) fresh addsAndReturns).db.Lists
      ("alice", "ali") := by decide +kernel
  have hrun : Run.after (stepOrRestart .quiet) fresh addsAndReturns =
      some (Run.ending (stepOrRestart .quiet) fresh addsAndReturns) :=
    Run.after_ending_nil (by decide +kernel)
  refine ⟨hlists, (contacts_introduced .quiet _ _ _ hrun (.inl hlists)).resolve_left ?_⟩
  rintro ⟨c, hc, -⟩
  cases hc

end Sys
