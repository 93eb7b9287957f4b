import ConstructTui.App.Contacts

/-!
# Sessions after a restart

Before a pipeline is spawned, the core is given the session material of the contacts, an archive and
a session for each row of `contacts`. The task stores session material of whatever peer the core
names, though, whether there is a row for the peer or not, and a deletion that stops between its
statements takes the row and leaves the material. What has no row is in the secure store and never
given back.

## Main definitions

* `App.startEvents`: what a start feeds the core before it spawns the stream worker.
* `App.RestoresSessions`: all session material there is, is fed.
* `Storage.SessionsNamed`: every peer with session material is a contact.
* `Sys.KeepsSessionsNamed`: a step stores session material of contacts only, and takes none of their
  rows without it.

## Main results

* `App.startOrchestrator_feeds`: the core of a new pipeline has been fed these events.
* `Sys.sessionsRestored_iff`: a start restores all sessions exactly when they can be read and every
  peer with session material is a contact, which is so throughout exactly the runs whose steps keep
  it so.
-/

variable {ε : Type} {E : AppExternals ε} {ans : Answers ε}

namespace Storage

/-- The keys of a peer's session material. -/
def sessionKeys (contactId : String) : List String := [archiveKey contactId, sessionKey contactId]

/-- The secure store has session material of the peer. -/
def HasSession (contactId : String) (s : Storage) : Prop :=
  ∃ key ∈ sessionKeys contactId, s.secureLoad key ≠ none

/-- Every peer with session material is a contact. -/
def SessionsNamed (s : Storage) : Prop :=
  ∀ contactId, s.HasSession contactId → s.getContactById contactId ≠ none

/-- A key is the key of one peer's session material. -/
theorem eq_of_mem_sessionKeys {a b key : String} (ha : key ∈ sessionKeys a)
    (hb : key ∈ sessionKeys b) : a = b := by
  have hne (c d : String) : archiveKey c ≠ sessionKey d := fun h => by
    have hlist := congrArg String.toList h
    rw [archiveKey, sessionKey, String.toList_append, String.toList_append] at hlist
    exact absurd (List.cons.inj hlist).1 (by decide)
  simp only [sessionKeys, List.mem_cons, List.not_mem_nil, or_false] at ha hb
  rcases ha with rfl | rfl
  · rcases hb with h | h
    · exact (String.append_right_inj _).mp h
    · exact absurd h (hne a b)
  · rcases hb with h | h
    · exact absurd h.symm (hne b a)
    · exact (String.append_right_inj _).mp h

theorem mem_map_userId_getContacts {contactId : String} {s : Storage} :
    contactId ∈ s.getContacts.map StoredContact.userId ↔ s.getContactById contactId ≠ none := by
  rw [getContactById, Option.ne_none_iff_exists', List.mem_map]
  refine exists_congr fun c => Iff.trans ?_ Table.find?_eq_some_iff.symm
  exact and_congr_left fun _ => (List.perm_insertionSort _ _).mem_iff

end Storage

/-! ### What a start feeds the core -/

namespace App

variable (E ans)

/-- The events that give the core the session material of the contacts, in order. -/
def sessionEvents (contactIds : List String) (db : Storage) : List IncomingEvent :=
  (contactIds.flatMap Storage.sessionKeys).map fun key => .sessionLoaded key (secureLoad ans key db)

/-- The ids of the contacts that a start reads. -/
def startIds (s : Sys ε) : List String :=
  ((storedContacts ans s).getD []).map StoredContact.userId

/-- What a start feeds the core before it spawns the stream worker. -/
def startEvents (s : Sys ε) : List IncomingEvent := sessionEvents ans (startIds ans s) s.db

/-- The core with its saved state. -/
def restoreState (db : Storage) (core : ε) : ε :=
  match secureLoad ans Storage.orchestratorStateKey db with
  | some state => if state.isEmpty then core else E.importOrchestratorState state core
  | none => core

/-- The core takes one event after the other. -/
def feed (events : List IncomingEvent) (core : ε) : ε :=
  events.foldl (fun core event => (E.core.handleEvent event core).2) core

theorem restoreSessions_eq (contactIds : List String) (db : Storage) (core : ε) :
    restoreSessions E ans contactIds db core =
      feed E (sessionEvents ans contactIds db) (restoreState E ans db core) := by
  unfold feed sessionEvents
  rw [List.foldl_map]
  rfl

/-- The core of a new pipeline has been fed these events, and the stream worker starts with the
contacts they are of. -/
theorem startOrchestrator_feeds {session : Session} {userId deviceId : String} {s : Sys ε}
    {identitySecret : Bytes} {core : ε}
    (h : prepareOrchestrator E ans session userId = .ok (identitySecret, core)) :
    ∃ p, (startOrchestrator E ans session userId deviceId s).pipelines = s.pipelines ++ [p] ∧
      p.world.ext =
        (E.generateOtpks (feed E (startEvents ans s) (restoreState E ans s.db core))).2 ∧
      p.worker = .start (startIds ans s) := by
  have hrest : (loadContacts ans s).db = s.db ∧ (loadContacts ans s).pipelines = s.pipelines := by
    unfold loadContacts
    split <;> exact ⟨rfl, rfl⟩
  refine ⟨newPipeline E ans userId deviceId (startIds ans s) identitySecret
    (E.generateOtpks (restoreSessions E ans (startIds ans s) s.db core)).2 s.db, ?_, ?_, rfl⟩
  · unfold startOrchestrator
    rw [h]
    show (spawnPipeline E ans userId deviceId (startIds ans s) identitySecret core
      (loadContacts ans s)).pipelines = _
    unfold spawnPipeline
    dsimp only
    rw [hrest.1]
    split <;> exact congrArg (· ++ _) hrest.2
  · show (E.generateOtpks (restoreSessions E ans (startIds ans s) s.db core)).2 = _
    rw [restoreSessions_eq]
    rfl

variable {E}

/-- All session material there is, is fed. -/
def RestoresSessions (s : Sys ε) : Prop :=
  ∀ contactId, ∀ key ∈ Storage.sessionKeys contactId, ∀ data, s.db.secureLoad key = some data →
    .sessionLoaded key (some data) ∈ startEvents ans s

/-- The session material there is can be read, and so can the contacts if there is any. -/
def SessionsReadable (db : Storage) : Prop :=
  ∀ contactId, ∀ key ∈ Storage.sessionKeys contactId, db.secureLoad key ≠ none →
    ans.sqlFails .getContacts = false ∧ ans.sqlFails (.secureLoad key) = false

/-- What a start feeds the core. -/
theorem mem_startEvents {s : Sys ε} {key : String} {data : Bytes} :
    .sessionLoaded key (some data) ∈ startEvents ans s ↔
      ans.sqlFails .getContacts = false ∧ ans.sqlFails (.secureLoad key) = false ∧
        s.db.secureLoad key = some data ∧
        ∃ contactId, s.db.getContactById contactId ≠ none ∧
          key ∈ Storage.sessionKeys contactId := by
  unfold startEvents sessionEvents startIds storedContacts secureLoad
  cases hcontacts : ans.sqlFails .getContacts with
  | true => simp
  | false =>
    simp only [Bool.false_eq_true, if_false, Option.getD_some, List.mem_map, List.mem_flatMap,
      IncomingEvent.sessionLoaded.injEq, true_and]
    constructor
    · rintro ⟨key', ⟨contactId, hcontact, hkey⟩, rfl, hdata⟩
      split at hdata
      · cases hdata
      · next hread =>
        exact ⟨Bool.not_eq_true _ ▸ hread, hdata, contactId,
          Storage.mem_map_userId_getContacts.mp (List.mem_map.mpr hcontact), hkey⟩
    · rintro ⟨hread, hdata, contactId, hcontact, hkey⟩
      refine ⟨key, ⟨contactId, ?_, hkey⟩, rfl, by rw [hread]; exact hdata⟩
      exact List.mem_map.mp (Storage.mem_map_userId_getContacts.mpr hcontact)

/-- A start restores all sessions exactly when they can be read and all their peers are contacts. -/
theorem restoresSessions_iff {s : Sys ε} :
    RestoresSessions ans s ↔ SessionsReadable ans s.db ∧ s.db.SessionsNamed := by
  constructor
  · intro h
    refine ⟨fun contactId key hkey hsome => ?_, fun contactId hsession => ?_⟩
    · obtain ⟨data, hdata⟩ := Option.ne_none_iff_exists'.mp hsome
      obtain ⟨hcontacts, hread, -⟩ := (mem_startEvents ans).mp (h contactId key hkey data hdata)
      exact ⟨hcontacts, hread⟩
    · obtain ⟨key, hkey, hsome⟩ := hsession
      obtain ⟨data, hdata⟩ := Option.ne_none_iff_exists'.mp hsome
      obtain ⟨-, -, -, other, hother, hkey'⟩ :=
        (mem_startEvents ans).mp (h contactId key hkey data hdata)
      exact Storage.eq_of_mem_sessionKeys hkey' hkey ▸ hother
  · rintro ⟨hreadable, hnamed⟩ contactId key hkey data hdata
    have hsome : s.db.secureLoad key ≠ none := by rw [hdata]; exact Option.some_ne_none data
    obtain ⟨hcontacts, hread⟩ := hreadable contactId key hkey hsome
    exact (mem_startEvents ans).mpr
      ⟨hcontacts, hread, hdata, contactId, hnamed contactId ⟨key, hkey, hsome⟩, hkey⟩

end App

/-! ### Along a run -/

namespace Sys

variable (E) in
/-- The step stores session material of contacts only, and deletes no contact whose session material
it leaves. -/
def KeepsSessionsNamed (s : Sys ε) (a : Label ε) : Prop := ∀ s' ∈ step E s a,
  (∀ contactId, s'.db.HasSession contactId →
    s.db.HasSession contactId ∨ s.db.getContactById contactId ≠ none) ∧
  ∀ contactId, s.db.getContactById contactId ≠ none → s'.db.getContactById contactId = none →
    ¬s'.db.HasSession contactId

variable (ans) in
/-- A deletion stores no secret. -/
theorem secureLoad_deleteContact_none (userId : String) {key : String} {db : Storage}
    (h : db.secureLoad key = none) : (App.deleteContact ans userId db).2.secureLoad key = none := by
  have hsecrets : (Storage.deleteContactSecrets userId db).secureLoad key = none := by
    unfold Storage.secureLoad at h ⊢
    rw [Option.map_eq_none_iff] at h ⊢
    refine Table.find?_eq_none_iff.mpr fun r hr => ?_
    exact Table.find?_eq_none_iff.mp h r (Table.mem_deleteWhere.mp hr).1
  obtain ⟨-, hdel⟩ | ⟨-, ⟨-, hdel⟩ | ⟨-, ⟨-, hdel⟩ | ⟨-, hdel⟩⟩⟩ :=
    App.deleteContact_cases ans userId db <;> rw [hdel]
  · exact h
  · exact h
  · exact h
  · exact hsecrets

/-- What the steps that are not of the tasks do to the database. -/
theorem db_step {s s' : Sys ε} {a : Label ε} (h : step E s a = some s')
    (ha : ∀ i, a ≠ .orchestrator i) :
    s'.db = s.db ∨ (∃ key, s'.db = s.db.secureDelete key) ∨
      (∃ (ans : Answers ε) (userId : String), s'.db = (App.deleteContact ans userId s.db).2) ∨
      ∃ contact, s'.db = s.db.upsertContact contact := by
  cases step_kind h with
  | input ans input queue _ hqueue h' =>
    subst h'
    cases App.handle_move E ans { s with queue := queue } input with
    | started _ hmove => exact .inl hmove.db
    | loggedOut _ hmove => exact hmove.db.imp_right fun hdb => .inl ⟨_, hdb⟩
    | changed _ _ hmove =>
      obtain ⟨base, hrest, rfl | ⟨contact, rfl⟩ | ⟨peerId, -, rfl⟩⟩ := hmove.rest
      · exact .inl hrest.db
      · exact .inr (.inr (.inr ⟨_, hrest.db⟩))
      · rw [hrest.db]
        obtain hsame | ⟨-, -, hdel⟩ :=
          App.deleteRows_cases ans peerId ({ s with queue := queue } : Sys ε).answered
        · exact .inl (by rw [hsame]; rfl)
        · exact .inr (.inr (.inl ⟨ans, peerId, by rw [hdel]; rfl⟩))
  | startup _ hlabel h' => exact .inl h'.db
  | behind _ hlabel h' => exact .inl h'.db
  | pipeline _ i hp hmove h' => exact .inl (by rw [h']; rfl)
  | orchestrator _ i hlabel hp h' => exact absurd hlabel (ha i)

/-- Only the tasks store secrets. -/
theorem secureLoad_step_none {s s' : Sys ε} {a : Label ε} (h : step E s a = some s')
    (ha : ∀ i, a ≠ .orchestrator i) {key : String} (hnone : s.db.secureLoad key = none) :
    s'.db.secureLoad key = none := by
  obtain hdb | ⟨key, hdb⟩ | ⟨ans, userId, hdb⟩ | ⟨contact, hdb⟩ := db_step h ha <;> rw [hdb]
  · exact hnone
  · exact Storage.secureLoad_secureDelete_none hnone
  · exact secureLoad_deleteContact_none ans userId hnone
  · exact hnone

/-- A step leaves the contacts alone, or stores no session material. -/
theorem contacts_or_sessions {s s' : Sys ε} {a : Label ε} (hs : s.Programs OrchestratorTask.Runs)
    (h : step E s a = some s') : s'.db.contacts = s.db.contacts ∨
      ∀ contactId, s'.db.HasSession contactId → s.db.HasSession contactId := by
  by_cases ha : ∃ i, a = .orchestrator i
  · obtain ⟨i, rfl⟩ := ha
    obtain ⟨p, hp, h'⟩ := Option.bind_eq_some_iff.mp h
    obtain ⟨⟨program, world⟩, hstep, rfl⟩ := Option.map_eq_some_iff.mp h'
    exact .inl ((hs _ (List.mem_of_getElem? hp)).step hstep).1.contacts
  · refine .inr fun contactId hsession => ?_
    obtain ⟨key, hkey, hsome⟩ := hsession
    exact ⟨key, hkey, mt (secureLoad_step_none h fun i hi => ha ⟨i, hi⟩) hsome⟩

/-- The condition on a step is what keeps the peers with session material contacts. -/
theorem sessionsNamed_step {s s' : Sys ε} {a : Label ε} (hs : s.Programs OrchestratorTask.Runs)
    (hnamed : s.db.SessionsNamed) (h : step E s a = some s') :
    s'.db.SessionsNamed ↔ s.KeepsSessionsNamed E a := by
  constructor
  · intro hnamed' t ht
    obtain rfl : s' = t := Option.some.inj (h.symm.trans ht)
    refine ⟨fun contactId hsession => ?_, fun contactId _ hnone hsession =>
      hnamed' contactId hsession hnone⟩
    obtain hcontacts | hsessions := contacts_or_sessions hs h
    · refine .inr ?_
      rw [Storage.getContactById, ← hcontacts]
      exact hnamed' contactId hsession
    · exact .inl (hsessions contactId hsession)
  · intro hkeeps contactId hsession hnone
    obtain ⟨hstores, hdeletes⟩ := hkeeps s' h
    have hcontact : s.db.getContactById contactId ≠ none := by
      obtain hbefore | hcontact := hstores contactId hsession
      · exact hnamed contactId hbefore
      · exact hcontact
    exact hdeletes contactId hcontact hnone hsession

/-- **Sessions after a restart.** After any run, a start restores all sessions exactly when they can
be read and every peer with session material is a contact; and every peer with session material is a
contact throughout exactly the runs that store session material of contacts only, and delete no
contact without it. -/
theorem sessionsRestored_iff {cfg : AppConfig} {dir : ConfigDir} {db : Storage}
    (hdb : db.SessionsNamed) {as : List (Label ε)} {s : Sys ε}
    (hs : Run.after (step E) (start ε cfg dir db) as = some s) :
    (∀ ans, App.RestoresSessions ans s ↔ App.SessionsReadable ans s.db ∧ s.db.SessionsNamed) ∧
      (Run.Always (step E) (fun t => t.db.SessionsNamed) (start ε cfg dir db) as ↔
        Run.Along (step E) (KeepsSessionsNamed E) (start ε cfg dir db) as) := by
  refine ⟨fun ans => App.restoresSessions_iff ans, ?_⟩
  refine Run.always_iff_along (I := fun t => t.Programs OrchestratorTask.Runs ∧ t.db.SessionsNamed)
    (fun _ h => h.2) (fun t a t' hI hstep hkeeps => ?_) (fun t a t' hI hstep hnamed' => ?_)
    ⟨programs_start _ _ _ _, hdb⟩ hs
  · exact ⟨hI.1.runs hstep, (sessionsNamed_step hI.1 hI.2 hstep).mpr hkeeps⟩
  · exact (sessionsNamed_step hI.1 hI.2 hstep).mp hnamed'

/-! ### A peer that is no contact -/

end Sys

/-- Surroundings in which the core saves the session of whoever writes. -/
def AppExternals.saving : AppExternals Unit :=
  { AppExternals.quiet with
    core := { Externals.quiet with
      handleEvent := fun event _ => (match event with
        | .messageReceived _ sender _ _ _ _ _ _ =>
          [.saveSessionToSecureStore (Storage.sessionKey sender) [1]]
        | _ => [], ()) }
    codec := { AppExternals.quiet.codec with unpack := fun _ => .ok ⟨1, none, 0⟩ } }

namespace Sys

/-- A message of a peer comes in over the stream, and the task handles it. -/
def hears (sender : String) : List (Label Unit) :=
  let envelope : WireEnvelope :=
    ⟨some (.messageId "first"), some sender, 1, Utf8.encode "hello", none⟩
  [.worker 0 (.incoming (some (some ⟨some (.message envelope), none⟩))), .relay 0, .take 0 true] ++
    List.replicate 6 (.orchestrator 0)

/-- A peer that is no contact writes first. Its session is saved, and a start does not restore
it. -/
theorem stranger_not_restored : ∃ s,
    Run.after (step .saving) fresh (registers ++ connects ++ hears "eve") = some s ∧
      s.db.secureLoad (Storage.sessionKey "eve") = some [1] ∧ ¬App.RestoresSessions .quiet s := by
  refine ⟨_, Run.after_ending_nil (by decide +kernel), by decide +kernel, fun h => ?_⟩
  have hmem := h "eve" (Storage.sessionKey "eve") (by decide) [1] (by decide +kernel)
  exact absurd hmem (by decide +kernel)

/-- The session of a contact that writes is restored. -/
theorem sessionsRestored_iff_acquainted :
    App.RestoresSessions .quiet (Run.ending (step .saving) acquainted
      (registers ++ connects ++ hears "alice")) := by
  have hdb : acquainted.db.SessionsNamed := fun contactId ⟨key, _, hsome⟩ => absurd rfl hsome
  have hs : Run.after (step .saving) acquainted (registers ++ connects ++ hears "alice") =
      some (Run.ending (step .saving) acquainted (registers ++ connects ++ hears "alice")) :=
    Run.after_ending_nil (by decide +kernel)
  refine ((sessionsRestored_iff hdb hs).1 .quiet).mpr ⟨fun _ _ _ _ => ⟨rfl, rfl⟩, ?_⟩
  rintro contactId ⟨key, hkey, hsome⟩
  obtain ⟨r, hr⟩ := Option.ne_none_iff_exists'.mp (mt (congrArg (Option.map Prod.snd)) hsome)
  obtain ⟨hmem, rfl⟩ := Table.find?_eq_some_iff.mp hr
  have hrows : (Run.ending (step .saving) acquainted
      (registers ++ connects ++ hears "alice")).db.secureStore.rows =
      [(Storage.sessionKey "alice", [1])] := by decide +kernel
  rw [hrows, List.mem_singleton] at hmem
  subst hmem
  have halice : contactId = "alice" :=
    Storage.eq_of_mem_sessionKeys hkey (show Storage.sessionKey "alice" ∈ _ by decide)
  rw [halice]
  decide +kernel

end Sys
