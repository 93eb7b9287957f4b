import ConstructTui.App.ContactList
import ConstructTui.App.RestoredSessions

/-!
# The two halves of a deletion

A contact is deleted by two tasks. The app deletes the rows and the secrets, and tells the
orchestrator task to forget the contact; the orchestrator task, when it comes to that command,
deletes the secrets once more and the time of the session, but no rows. So what it stores of a
secret in between goes, and what it stores of a message stays.

## Main definitions

* `Sys.ForgetsNow`: the part of a run in which the task takes the command and carries it out.
* `Pipeline.StoresMessageOf`, `Pipeline.StoresSecretOf`: what the task is about to store.
* `Sys.AddsNothingOf`: no task is about to store a message of the contact, and the app does not add
  it.

## Main results

* `OrchestratorTask.forgetContact_meets`: what the task leaves of a contact it forgets, whatever
  happens beside it.
* `Sys.deletion_complete`: nothing of the contact is left if no row of it was added meanwhile.
* `Sys.deletion_incomplete`: a run in which one was.
-/

variable {ε : Type} {E : AppExternals ε}

/-! ### What the task leaves -/

namespace OrchestratorTask

variable {X : Externals ε} {C : TaskConfig} {contactId : String}

/-- The task's table of sessions is as it was, and no secret of the contact is there that was
not. -/
def Beside (contactId : String) (w w' : TaskWorld ε) : Prop :=
  w'.sessionEstablishedAtMs = w.sessionEstablishedAtMs ∧
    ∀ key ∈ Storage.sessionKeys contactId, w.storage.secureLoad key = none →
      w'.storage.secureLoad key = none

theorem Beside.refl (w : TaskWorld ε) : Beside contactId w w := ⟨rfl, fun _ _ => id⟩

theorem Beside.trans {u v w : TaskWorld ε} (h : Beside contactId u v) (h' : Beside contactId v w) :
    Beside contactId u w :=
  ⟨h'.1.trans h.1, fun key hkey hnone => h'.2 key hkey (h.2 key hkey hnone)⟩

/-- The task has no time of a session with the contact. -/
def Unstamped (contactId : String) (w : TaskWorld ε) : Prop :=
  w.sessionEstablishedAtMs.find? contactId = none

/-- There is neither such a time nor a secret of the contact under the keys. -/
def Wiped (contactId : String) (keys : List String) (w : TaskWorld ε) : Prop :=
  Unstamped contactId w ∧ ∀ key ∈ keys, w.storage.secureLoad key = none

theorem Unstamped.beside {w w' : TaskWorld ε} (h : Beside contactId w w')
    (hw : Unstamped contactId w) : Unstamped contactId w' := by
  unfold Unstamped at hw ⊢
  rwa [h.1]

theorem Wiped.beside {keys : List String} {w w' : TaskWorld ε}
    (hkeys : keys ⊆ Storage.sessionKeys contactId)
    (h : Beside contactId w w') (hw : Wiped contactId keys w) : Wiped contactId keys w' :=
  ⟨hw.1.beside h, fun key hkey => h.2 key (hkeys hkey) (hw.2 key hkey)⟩

/-- Deleting one more secret leaves one less. -/
theorem exec_secureDelete_wiped (hsql : ∀ e, (X.sqlFails e).1 = false) {key : String}
    {keys : List String} (hkeys : keys ⊆ Storage.sessionKeys contactId) {w : TaskWorld ε}
    (hw : Wiped contactId keys w) :
    (exec X (Storage.secureDelete key)).Meets (Beside contactId) (fun _ => True)
      (fun _ => Wiped contactId (key :: keys)) w := by
  refine .act fun w' hw' => ⟨trivial, ?_⟩
  have hwiped := hw.beside hkeys hw'
  unfold sqlStep
  rw [hsql]
  refine ⟨hwiped.1, List.forall_mem_cons.mpr ⟨?_, fun key' hkey' => ?_⟩⟩
  · exact Storage.secureLoad_secureDelete_self key w'.storage
  · exact Storage.secureLoad_secureDelete_none (hwiped.2 key' hkey')

/-- Saving the core's state does not touch the times. -/
theorem saveOrchestratorState_unstamped :
    (saveOrchestratorState X).Keeps fun w w' => Unstamped contactId w → Unstamped contactId w' := by
  have hexec (f : Storage → Storage) : (exec X f).Keeps fun w w' =>
      Unstamped contactId w → Unstamped contactId w' := .act fun w hw => by
    unfold sqlStep
    split <;> exact hw
  refine .bind (.read (fun _ => id) _) fun r => ?_
  cases r with
  | ok state => exact .bind (hexec _) fun _ => .pure _
  | error e => exact .pure _

/-- A contact that the task forgets has neither a time nor a secret, whatever happens beside it. -/
theorem forgetContact_meets (hsql : ∀ e, (X.sqlFails e).1 = false) (w : TaskWorld ε) :
    (forgetContact X C contactId).Meets (Beside contactId) (fun _ => True)
      (fun _ => Wiped contactId (Storage.sessionKeys contactId)) w := by
  unfold forgetContact
  refine .bind (.trivial _ _) fun _ w _ => .bind (.trivial _ _) fun _ w _ => ?_
  have hremove : (removeEstablished contactId).Meets (Beside contactId) (fun _ => True)
      (fun _ => Unstamped contactId) w :=
    .act fun w' _ => ⟨trivial, Table.find?_deleteWhere_key_self _ _⟩
  refine .bind hremove fun _ w hw => ?_
  have hsave : (saveOrchestratorState X).Meets (Beside contactId) (fun _ => True)
      (fun _ => Unstamped contactId) w :=
    (Prog.Meets.of_keeps (fun _ _ h hw => hw.beside h) saveOrchestratorState_unstamped hw).mono_inv
      fun _ _ => trivial
  refine .bind hsave fun _ w hw => ?_
  refine .bind (exec_secureDelete_wiped hsql (List.nil_subset _) ⟨hw, nofun⟩) fun _ w hw => ?_
  refine .bind (exec_secureDelete_wiped hsql ?_ hw) fun _ w hw => .pure hw
  simp [Storage.sessionKeys]

end OrchestratorTask

/-! ### What happens beside it -/

namespace Pipeline

/-- No move of a pipeline by itself touches the times of its sessions. -/
theorem Moves.established {p p' : Pipeline ε} {i : ℕ} {a : Label ε} {events : List InternalEvent}
    (h : p.Moves E i a p' events) :
    p'.world.sessionEstablishedAtMs = p.world.sessionEstablishedAtMs := by
  obtain haside | ⟨b, -, htake, -⟩ := h.aside_or_takes
  · exact haside.established
  · obtain ⟨-, ⟨-, cmd, commands, -, rfl⟩ | ⟨-, event, rest, -, rfl⟩⟩ := take_cases htake
    · rfl
    · rfl

/-- The task's next step, on this database, writes a message of the contact. -/
def StoresMessageOf (p : Pipeline ε) (contactId : String) (db : Storage) : Prop :=
  ∃ r ∈ p.program.step { p.world with storage := db }, ∃ m ∈ r.2.storage.messages.rows,
    m.peerId = contactId ∧ m.id ∉ db.messages.rows.map StoredMessage.id

/-- The task's next step, on this database, writes a secret of the contact that is not there. -/
def StoresSecretOf (p : Pipeline ε) (contactId : String) (db : Storage) : Prop :=
  ∃ r ∈ p.program.step { p.world with storage := db }, ∃ key ∈ Storage.sessionKeys contactId,
    db.secureLoad key = none ∧ r.2.storage.secureLoad key ≠ none

instance (p : Pipeline ε) (contactId : String) (db : Storage) :
    Decidable (p.StoresMessageOf contactId db) :=
  inferInstanceAs (Decidable (∃ r ∈ p.program.step { p.world with storage := db },
    ∃ m ∈ r.2.storage.messages.rows,
      m.peerId = contactId ∧ m.id ∉ db.messages.rows.map StoredMessage.id))

instance (p : Pipeline ε) (contactId : String) (db : Storage) :
    Decidable (p.StoresSecretOf contactId db) :=
  inferInstanceAs (Decidable (∃ r ∈ p.program.step { p.world with storage := db },
    ∃ key ∈ Storage.sessionKeys contactId,
      db.secureLoad key = none ∧ r.2.storage.secureLoad key ≠ none))

end Pipeline

namespace Sys

open OrchestratorTask (Beside Wiped)

/-- However the task of the pipeline goes on, it leaves neither a time nor a secret of the
contact. -/
def Wiping (contactId : String) (i : ℕ) (s : Sys ε) : Prop :=
  ∃ p, s.pipelines[i]? = some p ∧ p.program.Meets (Beside contactId) (fun _ => True)
    (fun _ => Wiped contactId (Storage.sessionKeys contactId)) { p.world with storage := s.db }

/-- No other pipeline's task is about to store a secret of the contact. -/
def OthersStoreNothingOf (contactId : String) (i : ℕ) (s : Sys ε) : Label ε → Prop
  | .orchestrator j => j ≠ i → ∀ p ∈ s.pipelines[j]?, ¬p.StoresSecretOf contactId s.db
  | _ => True

/-- What happens beside the task does not keep it from that. -/
theorem Wiping.beside {s s' : Sys ε} {contactId : String} {i : ℕ} {p p' : Pipeline ε}
    (h : p.program.Meets (Beside contactId) (fun _ => True)
      (fun _ => Wiped contactId (Storage.sessionKeys contactId)) { p.world with storage := s.db })
    (hp' : s'.pipelines[i]? = some p') (hprogram : p'.program = p.program)
    (hworld : p'.world.sessionEstablishedAtMs = p.world.sessionEstablishedAtMs)
    (hdb : ∀ key ∈ Storage.sessionKeys contactId, s.db.secureLoad key = none →
      s'.db.secureLoad key = none) : s'.Wiping contactId i := by
  refine ⟨p', hp', ?_⟩
  have hbeside :
      Beside contactId { p.world with storage := s.db } { p'.world with storage := s'.db } :=
    ⟨hworld, hdb⟩
  rw [hprogram]
  exact h.interfere (fun _ _ _ => .trans) (fun _ _ _ => .beside (List.Subset.refl _)) hbeside

theorem Wiping.next {s s' : Sys ε} {contactId : String} {i : ℕ} {a : Label ε}
    (h : s.Wiping contactId i) (ha : ∀ b, a ≠ .take i b)
    (hothers : s.OthersStoreNothingOf contactId i a) (hstep : step E s a = some s') :
    s'.Wiping contactId i := by
  obtain ⟨p, hp, hmeets⟩ := h
  by_cases hown : a = .orchestrator i
  · subst hown
    obtain ⟨q, hq, hstep⟩ := Option.bind_eq_some_iff.mp hstep
    obtain rfl := Option.some.inj (hp.symm.trans hq)
    obtain ⟨⟨program, world⟩, hprogram, rfl⟩ := Option.map_eq_some_iff.mp hstep
    obtain ⟨-, hnext⟩ := hmeets.step (.refl _) hprogram
    refine ⟨_, List.getElem?_set_self (List.getElem?_eq_some_iff.mp hp).1, ?_⟩
    have hread : Beside contactId world { world with ui := [], storage := world.storage } :=
      ⟨rfl, fun _ _ => id⟩
    exact hnext.interfere (fun _ _ _ => .trans) (fun _ _ _ => .beside (List.Subset.refl _)) hread
  have hdb : ∀ key ∈ Storage.sessionKeys contactId, s.db.secureLoad key = none →
      s'.db.secureLoad key = none := by
    intro key hkey hnone
    by_cases hother : ∃ j, a = .orchestrator j
    · obtain ⟨j, rfl⟩ := hother
      obtain ⟨q, hq, hstep⟩ := Option.bind_eq_some_iff.mp hstep
      obtain ⟨⟨program, world⟩, hprogram, rfl⟩ := Option.map_eq_some_iff.mp hstep
      by_contra hsome
      exact hothers (fun hj => hown (hj ▸ rfl)) q hq ⟨_, hprogram, key, hkey, hnone, hsome⟩
    · exact secureLoad_step_none hstep (fun j hj => hother ⟨j, hj⟩) hnone
  cases step_kind hstep with
  | input ans input queue _ hqueue h' =>
    subst h'
    obtain ⟨p', hp', htended⟩ := (tended_handle E ans { s with queue := queue } input).getElem? hp
    obtain ⟨selfTx, streamTx, marks, -, hworld⟩ := htended.world
    exact .beside hmeets hp' htended.program (by rw [hworld]) hdb
  | startup _ hlabel h' => exact .beside hmeets (h'.pipelines ▸ hp) rfl rfl hdb
  | behind _ hlabel h' => exact .beside hmeets (h'.pipelines ▸ hp) rfl rfl hdb
  | pipeline _ j hq hmove h' =>
    subst h'
    by_cases hij : i = j
    · subst hij
      obtain rfl := Option.some.inj (hp.symm.trans hq)
      exact .beside hmeets (List.getElem?_set_self (List.getElem?_eq_some_iff.mp hp).1)
        (hmove.program_of_not_take ha) hmove.established hdb
    · exact .beside hmeets ((List.getElem?_set_ne (Ne.symm hij)).trans hp) rfl rfl hdb
  | orchestrator _ j hlabel hq h' =>
    obtain ⟨⟨program, world⟩, -, rfl⟩ := Option.map_eq_some_iff.mp h'
    have hij : i ≠ j := fun h => hown (h ▸ hlabel)
    exact .beside hmeets ((List.getElem?_set_ne (Ne.symm hij)).trans hp) rfl rfl hdb

/-! ### Both halves -/

/-- From `s` on, the task takes `n` commands, and then the next one, whose end it comes to in
`t`. -/
structure ForgetsNow (E : AppExternals ε) (i n : ℕ) (s : Sys ε) (waits handles : List (Label ε))
    (t : Sys ε) (p : Pipeline ε) : Prop where
  run : Run.after (step E) s (waits ++ .take i true :: handles) = some t
  turn : waits.countP (Label.takesAt i true) = n
  alone : ∀ a ∈ handles, ∀ b, a ≠ .take i b
  pipeline : t.pipelines[i]? = some p
  idle : p.program = .ret ()

/-- There is no row of the contact. -/
def NoRowsOf (contactId : String) (s : Sys ε) : Prop :=
  s.db.getContactById contactId = none ∧ ∀ m ∈ s.db.messages.rows, m.peerId ≠ contactId

/-- The contact whose row the app writes in the step. -/
def storesContact (s : Sys ε) (a : Label ε) : Option String :=
  match a with
  | .key _ ans | .internal ans =>
    if s.app.readStorage && !ans.sqlFails .upsertContact then (s.addedBy a).map Prod.fst else none
  | _ => none

/-- The step stores nothing of the contact: a task that goes on is not about to store a message of
it, and the app does not add it. -/
def AddsNothingOf (contactId : String) (s : Sys ε) : Label ε → Prop
  | .orchestrator i => ∀ p ∈ s.pipelines[i]?, ¬p.StoresMessageOf contactId s.db
  | a => contactId ∉ s.storesContact a

instance (contactId : String) (s : Sys ε) : (a : Label ε) → Decidable (s.AddsNothingOf contactId a)
  | .orchestrator i =>
    inferInstanceAs (Decidable (∀ p ∈ s.pipelines[i]?, ¬p.StoresMessageOf contactId s.db))
  | .startup ans => inferInstanceAs (Decidable (contactId ∉ s.storesContact (.startup ans)))
  | .key key ans => inferInstanceAs (Decidable (contactId ∉ s.storesContact (.key key ans)))
  | .internal ans => inferInstanceAs (Decidable (contactId ∉ s.storesContact (.internal ans)))
  | .tick | .registrationStep _ _ | .request _ _ _ | .finish _ _ _ | .worker _ _ | .relay _
  | .take _ _ | .subTask _ _ _ => inferInstanceAs (Decidable (contactId ∉ none))

/-- A deletion adds no message. -/
theorem messages_deleteContact_subset (ans : Answers ε) (userId : String) (db : Storage) :
    (App.deleteContact ans userId db).2.messages.rows ⊆ db.messages.rows := by
  have hdelete : (Storage.deleteContactMessages userId db).messages.rows ⊆ db.messages.rows :=
    fun m hm => (Table.mem_deleteWhere.mp hm).1
  obtain ⟨-, hdel⟩ | ⟨-, ⟨-, hdel⟩ | ⟨-, ⟨-, hdel⟩ | ⟨-, hdel⟩⟩⟩ :=
    App.deleteContact_cases ans userId db <;> rw [hdel]
  · exact List.Subset.refl _
  · exact List.Subset.refl _
  · exact hdelete
  · exact hdelete

/-- Only the tasks store messages. -/
theorem messages_step_subset {s s' : Sys ε} {a : Label ε} (h : step E s a = some s')
    (ha : ∀ i, a ≠ .orchestrator i) : s'.db.messages.rows ⊆ s.db.messages.rows := by
  obtain hdb | ⟨key, hdb⟩ | ⟨ans, userId, hdb⟩ | ⟨contact, hdb⟩ := db_step h ha <;> rw [hdb]
  · exact List.Subset.refl _
  · exact List.Subset.refl _
  · exact messages_deleteContact_subset ans userId s.db
  · exact List.Subset.refl _

/-- The app adds whoever it stores a row of. -/
theorem storesContact_of_takes {s : Sys ε} {a : Label ε} {ans : Answers ε} {input : Input}
    (h : s.Takes a ans input) : s.storesContact a =
      if s.app.readStorage && !ans.sqlFails .upsertContact then (App.adding s input).map Prod.fst
      else none := by
  rw [← addedBy_of_takes h]
  cases h <;> rfl

/-- Only the app stores contacts, and only those it adds. -/
theorem contact_step_none {s s' : Sys ε} {contactId : String} {a : Label ε}
    (h : step E s a = some s') (ha : ∀ i, a ≠ .orchestrator i)
    (hadds : contactId ∉ s.storesContact a) (hnone : s.db.getContactById contactId = none) :
    s'.db.getContactById contactId = none := by
  have hdeleted (db : Storage) (hrows : db.contacts.rows ⊆ s.db.contacts.rows) :
      db.getContactById contactId = none :=
    Table.find?_eq_none_iff.mpr fun c hc => Table.find?_eq_none_iff.mp hnone c (hrows hc)
  cases step_kind h with
  | input ans input queue htakes hqueue h' =>
    subst h'
    cases App.edit_handle E ans { s with queue := queue } input with
    | kept _ _ hdb => rwa [hdb]
    | started hmove => rwa [hmove.db]
    | loggedOut hmove =>
      obtain hdb | hdb := hmove.db <;> rw [hdb] <;> exact hnone
    | added userId username hadd heq =>
      rw [storesContact_of_takes htakes, show App.adding s input =
        some (userId, username) from hadd]
        at hadds
      rw [heq, (App.finishAddContact_spec ans userId username _).2.2.1]
      split
      · next hstored =>
        rw [if_pos hstored] at hadds
        refine (Table.find?_insertOrReplace_of_ne fun hne => hadds ?_).trans hnone
        exact congrArg some hne
      · exact hnone
    | deleted peerId key hinput hconfirm heq =>
      rw [heq]
      exact hdeleted _ (App.confirmDelete_subset ans _).1
  | startup _ hlabel h' => rwa [h'.db]
  | behind _ hlabel h' => rwa [h'.db]
  | pipeline _ i hp hmove h' => subst h'; exact hnone
  | orchestrator _ i hlabel hp h' => exact absurd hlabel (ha i)

/-- A step that adds nothing of the contact leaves it without rows. -/
theorem NoRowsOf.next {s s' : Sys ε} {contactId : String} {a : Label ε}
    (h : s.NoRowsOf contactId) (hs : s.Programs OrchestratorTask.Runs)
    (hadds : s.AddsNothingOf contactId a) (hstep : step E s a = some s') :
    s'.NoRowsOf contactId := by
  by_cases ha : ∃ i, a = .orchestrator i
  · obtain ⟨i, rfl⟩ := ha
    obtain ⟨p, hp, h'⟩ := Option.bind_eq_some_iff.mp hstep
    obtain ⟨⟨program, world⟩, hprogram, rfl⟩ := Option.map_eq_some_iff.mp h'
    have hstatement := ((hs _ (List.mem_of_getElem? hp)).step hprogram).1
    refine ⟨?_, fun m hm hpeer => ?_⟩
    · exact (congrArg (fun t => Table.find? t contactId) hstatement.contacts).trans h.1
    · obtain ⟨m', hm', -, hpeer'⟩ | hnew := hstatement.mem_messages hm
      · exact h.2 m' hm' (hpeer'.trans hpeer)
      · exact hadds p hp ⟨_, hprogram, m, hm, hpeer, hnew⟩
  · have happ (i : ℕ) : a ≠ .orchestrator i := fun hi => ha ⟨i, hi⟩
    have hstores : contactId ∉ s.storesContact a := by
      cases a with
      | orchestrator i => exact absurd rfl (happ i)
      | _ => exact hadds
    exact ⟨contact_step_none hstep happ hstores h.1,
      fun m hm => h.2 m (messages_step_subset hstep happ hm)⟩

/-- The app's half leaves nothing of the contact in the database. -/
theorem forgotten_of_deletes {s s' : Sys ε} {contactId : String} {i : ℕ} {a : Label ε} (hs : s.Held)
    (h : s.Deletes contactId i a) (hstep : step E s a = some s') : s'.db.Forgotten contactId := by
  obtain ⟨ans, t, hrows, rfl, -, -, hread⟩ := eq_of_deletes hs h hstep
  obtain ⟨list, -, -, hrest⟩ := App.talk_removeContact ans contactId t
  have hdelete : App.deleteRows ans contactId s.answered =
      ((App.deleteContact ans contactId s.db).1,
        App.markGone contactId
          { s.answered with db := (App.deleteContact ans contactId s.db).2 }) := by
    unfold App.deleteRows
    exact if_pos hread
  rw [hrows] at hdelete
  obtain ⟨hok, rfl⟩ := Prod.mk.inj hdelete
  rw [hrest.db]
  show (App.deleteContact ans contactId s.db).2.Forgotten contactId
  rw [App.deleteContact_ok hok.symm]
  exact Storage.forgotten_deleteContact contactId s.db

/-- Once the task takes the command, it is about to leave nothing of the contact. -/
theorem wiping_of_take (hsql : ∀ e, (E.core.sqlFails e).1 = false) {s s' : Sys ε}
    {contactId : String} {i : ℕ} (hhead : (s.commandsAt i).head? = some (.forgetContact contactId))
    (hstep : step E s (.take i true) = some s') : s'.Wiping contactId i := by
  obtain ⟨p, hp, hstep⟩ := Option.bind_eq_some_iff.mp hstep
  obtain ⟨q, htake, rfl⟩ := Option.map_eq_some_iff.mp hstep
  obtain ⟨-, ⟨-, cmd, commands, hcommands, rfl⟩ | ⟨hfalse, -⟩⟩ := Pipeline.take_cases htake
  · have hcmd : cmd = .forgetContact contactId := by
      have hfirst : p.commands.head? = some (.forgetContact contactId) := by
        rw [commandsAt, hp] at hhead
        exact hhead
      rw [hcommands] at hfirst
      exact Option.some.inj hfirst
    subst hcmd
    refine ⟨_, List.getElem?_set_self (List.getElem?_eq_some_iff.mp hp).1, ?_⟩
    exact OrchestratorTask.forgetContact_meets hsql _
  · cases hfalse

/-- **A deletion is complete.** Let a contact be deleted, and let the task take the command to
forget it and come to its end, whatever else happens in between. If the database does not fail, no
row of the contact is added meanwhile, and no other task stores a secret of it while this one
forgets it, then nothing of the contact is left. -/
theorem deletion_complete (hsql : ∀ e, (E.core.sqlFails e).1 = false) {cfg : AppConfig}
    {dir : ConfigDir} {db : Storage} {before waits handles : List (Label ε)} {delete : Label ε}
    {contactId : String} {i : ℕ} {s s' t : Sys ε} {p : Pipeline ε}
    (hs : Run.after (step E) (start ε cfg dir db) before = some s)
    (hdelete : s.Deletes contactId i delete) (hs' : step E s delete = some s')
    (ht : ForgetsNow E i (s.commandsAt i).length s' waits handles t p)
    (hrows : Run.Along (step E) (AddsNothingOf contactId) s' (waits ++ .take i true :: handles))
    (hothers : ∀ u, Run.after (step E) s' (waits ++ [.take i true]) = some u →
      Run.Along (step E) (OthersStoreNothingOf contactId i) u handles) :
    t.db.Forgotten contactId ∧ p.world.sessionEstablishedAtMs.find? contactId = none := by
  obtain ⟨hs₁, hheld⟩ := orderly_held_after hs
  obtain ⟨hs₁', -⟩ := orderly_held_next ⟨hs₁, hheld⟩ hs'
  have hbefore : s.Programs OrchestratorTask.Runs :=
    Run.invariant (fun _ _ _ h hs => Programs.runs h hs) (programs_start _ _ _ _) hs
  have hruns := hbefore.runs hs'
  have hforget : (s'.commandsAt i)[(s.commandsAt i).length]? = some (.forgetContact contactId) := by
    rw [commandsAt_of_deletes hheld hdelete hs']
    exact List.getElem?_concat_length
  have hgone := forgotten_of_deletes hheld hdelete hs'
  -- the rows stay away for the whole run
  have hstep (s : Sys ε) (a : Label ε) (s' : Sys ε)
      (h : s.Programs OrchestratorTask.Runs ∧ s.NoRowsOf contactId)
      (hadds : s.AddsNothingOf contactId a) (hs : step E s a = some s') :
      s'.Programs OrchestratorTask.Runs ∧ s'.NoRowsOf contactId :=
    ⟨h.1.runs hs, h.2.next h.1 hadds hs⟩
  obtain ⟨-, hcontact, hmessages⟩ : t.Programs OrchestratorTask.Runs ∧ t.NoRowsOf contactId :=
    Run.invariant_along hstep ⟨hruns, hgone.contact, hgone.messages⟩ hrows ht.run
  -- the secrets and the time go when the task comes to the command
  have hrun := ht.run
  rw [Run.after_append, Option.bind_eq_some_iff] at hrun
  obtain ⟨u, hu, hrun⟩ := hrun
  obtain ⟨v, hv, hrun⟩ := Run.after_cons hrun
  have hhead := (fifo_commandsAt E i).head hs₁' hu ht.turn hforget
  have htaken : Run.after (step E) s' (waits ++ [.take i true]) = some v := by
    rw [Run.after_append, hu, Option.bind_some, Run.after, hv]
    rfl
  have halone : Run.Along (step E) (fun _ a => ∀ b, a ≠ .take i b) v handles :=
    Run.along_iff_forall.mpr fun bs a cs _ has _ => ht.alone a (by rw [has]; simp)
  obtain ⟨q, hq, hmeets⟩ : t.Wiping contactId i :=
    Run.invariant_along (fun _ _ _ h hguard hstep => h.next hguard.2 hguard.1 hstep)
      (wiping_of_take hsql hhead hv) ((hothers v htaken).and halone) hrun
  obtain rfl := Option.some.inj (hq.symm.trans ht.pipeline)
  rw [ht.idle] at hmeets
  obtain ⟨hestablished, hsecrets⟩ := hmeets
  refine ⟨⟨hcontact, hmessages, ?_, ?_⟩, hestablished⟩
  · exact hsecrets _ (by simp [Storage.sessionKeys])
  · exact hsecrets _ (by simp [Storage.sessionKeys])

/-! ### A message between the two halves -/

/-- A task that cannot go on has nothing under way. -/
theorem idle_of_step_none {s : Sys ε} {i : ℕ} {p : Pipeline ε} (hp : s.pipelines[i]? = some p)
    (h : (step E s (.orchestrator i)).isNone) : p.program = .ret () := by
  rw [step, hp, Option.bind_some, orchestratorStep] at h
  cases hprogram : p.program with
  | ret a => rfl
  | atomic f k =>
    rw [hprogram] at h
    cases h

/-- A message waits for the task when the user is asked whether to delete the first contact. -/
def asksMeanwhile : List (Label Unit) :=
  registers ++ connects ++ (receives "alice" "m1" "hi").take 2 ++ [presses 'x']

/-- The task takes a command and carries it out in `n` steps. -/
def carriesOut (n : ℕ) : List (Label Unit) := .take 0 true :: List.replicate n (.orchestrator 0)

/-- A client that has a message of the first contact and a session with it. -/
def confided : Sys Unit :=
  { acquainted with
    db := (acquainted.db.storeInboundMessage
      ⟨"m0", "alice", "hello", .received, 1, ""⟩).secureSave (Storage.sessionKey "alice") [0] }

/-- The same after some steps, with a core that saves the session of whoever writes. -/
def confidedTo (as : List (Label Unit)) : Sys Unit := Run.ending (step .saving) confided as

/-- The message that waits meanwhile makes the task save the session once more, and that goes as
well. -/
theorem deletion_complete_meanwhile :
    (confidedTo (asksMeanwhile ++ [presses 'y'] ++ carriesOut 6)).db.secureLoad
        (Storage.sessionKey "alice") = some [1] ∧
      (confidedTo (asksMeanwhile ++ [presses 'y'] ++ (carriesOut 6 ++ carriesOut 7))).db.Forgotten
        "alice" := by
  let deleted := asksMeanwhile ++ [presses 'y']
  let t := confidedTo (deleted ++ (carriesOut 6 ++ carriesOut 7))
  have hs : Run.after (step .saving) confided asksMeanwhile = some (confidedTo asksMeanwhile) :=
    Run.after_ending_nil (by decide +kernel)
  have hdeletes : (confidedTo asksMeanwhile).Deletes "alice" 0 (presses 'y') :=
    .confirm _ _ (by decide +kernel) rfl (.inl rfl) (by decide +kernel) (by decide +kernel)
      (by decide +kernel)
  have hs' : step .saving (confidedTo asksMeanwhile) (presses 'y') = some (confidedTo deleted) :=
    Run.step_ending (by decide +kernel)
  have ht : Run.after (step .saving) (confidedTo deleted) (carriesOut 6 ++ carriesOut 7) = some t :=
    Run.after_ending (by decide +kernel)
  have hp : (t.pipelines[0]?).isSome := by decide +kernel
  have hidle := idle_of_step_none (E := .saving) (Option.some_get hp).symm (by decide +kernel)
  have hnone : Run.Along (step .saving) (AddsNothingOf "alice") (confidedTo deleted)
      (carriesOut 6 ++ carriesOut 7) := by decide +kernel
  refine ⟨by decide +kernel, (deletion_complete (fun _ => rfl) hs hdeletes hs'
    ⟨ht, by decide +kernel, by simp, (Option.some_get hp).symm, hidle⟩ hnone
    fun u _ => Run.along_iff_forall.mpr fun bs a cs v has _ => ?_).1⟩
  have hmem : a ∈ List.replicate 7 (Label.orchestrator 0) := by
    rw [has]
    simp
  obtain rfl := List.eq_of_mem_replicate hmem
  exact fun hne => absurd rfl hne

/-- A client that knows two contacts and decrypts what they write, after some steps. -/
def writtenTo (as : List (Label Unit)) : Sys Unit := Run.ending (step .decrypting) acquainted as

/-- A message of the contact waits while the contact is deleted. The task stores it before it comes
to the command to forget the contact, and then it stays. -/
theorem deletion_incomplete : ∃ s s' t p,
    Run.after (step .decrypting) acquainted (asksMeanwhile) = some s ∧
    s.Deletes "alice" 0 (presses 'y') ∧ step .decrypting s (presses 'y') = some s' ∧
    s'.db.Forgotten "alice" ∧
    ForgetsNow .decrypting 0 (s.commandsAt 0).length s' (carriesOut 10)
      (List.replicate 7 (.orchestrator 0)) t p ∧
    t.db.messages.rows.map (fun m => (m.peerId, m.text)) = [("alice", "hi")] ∧
    ¬t.db.Forgotten "alice" := by
  let deleted := asksMeanwhile ++ [presses 'y']
  let t := writtenTo (deleted ++ (carriesOut 10 ++ carriesOut 7))
  have hs : Run.after (step .decrypting) acquainted (asksMeanwhile) =
      some (writtenTo (asksMeanwhile)) := Run.after_ending_nil (by decide +kernel)
  have hs' : step .decrypting (writtenTo (asksMeanwhile)) (presses 'y') =
      some (writtenTo deleted) := Run.step_ending (by decide +kernel)
  have ht : Run.after (step .decrypting) (writtenTo deleted) (carriesOut 10 ++ carriesOut 7) =
      some t :=
    Run.after_ending (by decide +kernel)
  have hmessages : t.db.messages.rows.map (fun m => (m.peerId, m.text)) = [("alice", "hi")] := by
    decide +kernel
  have hp : (t.pipelines[0]?).isSome := by decide +kernel
  have hidle := idle_of_step_none (E := .decrypting) (Option.some_get hp).symm (by decide +kernel)
  have hdeletes : (writtenTo asksMeanwhile).Deletes "alice" 0 (presses 'y') :=
    .confirm _ _ (by decide +kernel) rfl (.inl rfl) (by decide +kernel) (by decide +kernel)
      (by decide +kernel)
  refine ⟨_, _, t, t.pipelines[0]?.get hp, hs, hdeletes, hs', ?_, ?_, hmessages,
    fun hforgotten => ?_⟩
  · exact ⟨by decide +kernel, by decide +kernel, by decide +kernel, by decide +kernel⟩
  · exact ⟨ht, by decide +kernel, by simp, (Option.some_get hp).symm, hidle⟩
  · have hmem : ("alice", "hi") ∈ t.db.messages.rows.map fun m => (m.peerId, m.text) := by
      rw [hmessages]
      exact List.mem_singleton_self _
    obtain ⟨m, hm, hpeer⟩ := List.mem_map.mp hmem
    exact hforgotten.messages m hm (congrArg Prod.fst hpeer)

end Sys
