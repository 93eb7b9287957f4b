import ConstructTui.App.Contacts
import ConstructTui.App.Deletion
import ConstructTui.App.Edits
import ConstructTui.App.ForgetFirst

/-!
# The contact list and the contacts table

The table of contacts is keyed by user id, and the list on screen is a plain list: adding a contact
replaces its row, but appends a line in any case, and deleting one deletes its row, but takes only
the first of its lines off the list. So the list follows the table until somebody is added who is on
it already.

## Main definitions

* `Sys.Mirrors`: the list names every stored contact, each once, and nobody else.
* `Sys.Resubscribes`: the worker is subscribed to those who are on the list.
* `Sys.addedBy`: the contact that a step adds.
* `Sys.AddsNew`: whoever is added is not on the list.

## Main results

* `App.finishAddContact_spec`, `App.confirmDelete_spec`: what the two edits do to both.
* `Sys.mirrors_iff`: the list mirrors the table throughout exactly the runs in which nobody is added
  twice, and while it does a new subscription names exactly the stored contacts.
* `Sys.added_twice`: a run in which somebody is, and stays on the list when they are deleted.
-/

variable {ε : Type} {E : AppExternals ε} {ans : Answers ε}

/-- The ids on the list, in order. -/
def ChatListPane.ids (p : ChatListPane) : List String := p.contacts.map Contact.id

/-- While the database is open, the list names every stored contact, each once, and nobody else. -/
def Sys.Mirrors (s : Sys ε) : Prop :=
  s.app.readStorage = true → s.db.contacts.ListedBy s.app.chatList.ids

/-- No statement of the app fails. -/
def Answers.NoSqlError (ans : Answers ε) : Prop := ∀ statement, ans.sqlFails statement = false

namespace ChatListPane

theorem ids_addContact (p : ChatListPane) (contact : Contact) :
    (p.addContact contact).ids = p.ids ++ [contact.id] := by simp [ids, addContact]

/-- Cutting the first line of a contact takes its first id away. -/
theorem ids_removeAt {p : ChatListPane} {userId : String} {i : ℕ}
    (h : (p.contacts.findIdx? fun c => c.id = userId) = some i) :
    (p.removeAt i).ids = p.ids.erase userId := by
  have herase : p.contacts.eraseIdx i = p.contacts.eraseP fun c => c.id = userId := by
    rw [List.eraseP_eq_eraseIdx, h]
  unfold ids
  rw [contacts_removeAt, herase, List.erase_eq_eraseP, List.eraseP_map]
  refine congrArg (fun p' => (List.eraseP p' p.contacts).map Contact.id) (funext fun c => ?_)
  rw [Function.comp_apply, beq_eq_decide, decide_eq_decide]
  exact eq_comm

theorem not_mem_ids {p : ChatListPane} {userId : String}
    (h : (p.contacts.findIdx? fun c => c.id = userId) = none) : userId ∉ p.ids := by
  simpa [ids] using h

end ChatListPane

namespace Sys

/-! ### The channels of the workers -/

/-- What waits in the channel of each worker. -/
def streams (s : Sys ε) : List (List StreamCmd) := s.pipelines.map fun p => p.world.streamTx

/-- The channels are left alone, or a subscription to the contacts that are on the list by then is
put into the one that the app holds. -/
def Resubscribes (s s' : Sys ε) : Prop :=
  s'.streams = s.streams ∨ ∃ i cursor, s.app.streamTx = some i ∧
    s'.streams = s.streams.modify i (· ++ [.subscribe s'.app.chatList.ids cursor])

theorem map_modify_eq {α β : Type*} (g : α → β) {f : α → α} {k : β → β}
    (h : ∀ x, g (f x) = k (g x)) (i : ℕ) (xs : List α) :
    (xs.modify i f).map g = (xs.map g).modify i k := by
  refine List.ext_getElem? fun j => ?_
  by_cases hij : i = j
  · subst hij
    simp [Function.comp_def, h]
  · simp [List.getElem?_modify_ne, hij]

/-- The channels are left alone by what leaves alone that of each pipeline. -/
theorem map_streamTx_modify {f : Pipeline ε → Pipeline ε}
    (h : ∀ p, (f p).world.streamTx = p.world.streamTx) (i : ℕ) (ps : List (Pipeline ε)) :
    (ps.modify i f).map (fun p => p.world.streamTx) = ps.map fun p => p.world.streamTx :=
  (map_modify_eq (fun p => p.world.streamTx) (k := id) h i ps).trans (List.modify_id i _)

theorem streams_orchSend (s : Sys ε) (handle : Option ℕ) (event : IncomingEvent) :
    (s.orchSend handle event).streams = s.streams := by
  cases handle with
  | none => rfl
  | some i =>
    refine map_streamTx_modify ?_ i s.pipelines
    exact fun _ => rfl

theorem streams_orchCommand (s : Sys ε) (handle : Option ℕ) (cmd : OrchestratorCommand) :
    (s.orchCommand handle cmd).streams = s.streams := by
  cases handle with
  | none => rfl
  | some i =>
    refine map_streamTx_modify ?_ i s.pipelines
    exact fun _ => rfl

theorem resubscribes_resubscribe (ans : Answers ε) (s : Sys ε) :
    s.Resubscribes (App.resubscribeStreamToContacts ans s) := by
  unfold Resubscribes
  rw [App.app_resubscribe]
  unfold App.resubscribeStreamToContacts
  cases htx : s.app.streamTx with
  | none => exact .inl rfl
  | some i =>
    cases ans.streamHasRoom with
    | false => exact .inl rfl
    | true =>
      refine .inr ⟨i, if s.app.readStorage then App.storedCursor ans s.db else none, rfl, ?_⟩
      exact map_modify_eq (fun p : Pipeline ε => p.world.streamTx) (fun _ => rfl) i s.pipelines

/-- What stands around the subscription does not matter, as long as it keeps to itself. -/
theorem Resubscribes.congr {s s' t t' : Sys ε} (h : t.Resubscribes t')
    (hstreams : t.streams = s.streams) (htx : t.app.streamTx = s.app.streamTx)
    (hstreams' : s'.streams = t'.streams) (hlist : s'.app.chatList = t'.app.chatList) :
    s.Resubscribes s' := by
  unfold Resubscribes at h ⊢
  rwa [hstreams', hlist, ← hstreams, ← htx]

end Sys

namespace App

/-! ### Adding a contact -/

/-- Whoever is added gets a row if the database is open and nothing fails, and a line in any case.
Then the worker is subscribed to all who are on the list. -/
theorem finishAddContact_spec (ans : Answers ε) (userId username : String) (s : Sys ε) :
    (finishAddContact ans userId username s).app.handles = s.app.handles ∧
      (finishAddContact ans userId username s).app.chatList.ids = s.app.chatList.ids ++ [userId] ∧
      (finishAddContact ans userId username s).db =
        (if s.app.readStorage && !ans.sqlFails .upsertContact
          then s.db.upsertContact ⟨userId, username, ""⟩ else s.db) ∧
      s.Resubscribes (finishAddContact ans userId username s) := by
  obtain ⟨t, u, ht, hu, happ, heq⟩ := finishAddContact_eq ans userId username s
  have hdb : u.db = t.db := by rw [hu, Sys.db_orchSend, (rest_resubscribe ans t).db]
  have hsub : t.Resubscribes u := by
    refine (Sys.resubscribes_resubscribe ans t).congr rfl rfl ?_ ?_
    · rw [hu, Sys.streams_orchSend]
    · rw [happ, app_resubscribe]
  rw [heq]
  refine ⟨?_, ?_, ?_, ?_⟩
  · show u.app.handles = _
    rw [happ, ht]
    rfl
  · show u.app.chatList.ids = _
    rw [happ, ht]
    exact ChatListPane.ids_addContact s.app.chatList _
  · show u.db = _
    rw [hdb, ht]
  · exact hsub.congr (by rw [ht]; rfl) (by rw [ht]) rfl rfl

/-! ### Deleting a contact -/

theorem streams_deleteRows (ans : Answers ε) (userId : String) (s : Sys ε) :
    (deleteRows ans userId s).2.streams = s.streams := by
  obtain h | ⟨-, -, h⟩ := deleteRows_cases ans userId s
  · rw [h]
  · rw [h]
    show (s.pipelines.map _).map _ = _
    rw [List.map_map]
    rfl

theorem deleteContact_subset (ans : Answers ε) (userId : String) (db : Storage) :
    (deleteContact ans userId db).2.contacts.rows ⊆ db.contacts.rows := by
  have hrow : (db.deleteContactRow userId).contacts.rows ⊆ db.contacts.rows :=
    fun c hc => (Table.mem_deleteWhere.mp hc).1
  obtain ⟨-, h⟩ | ⟨-, ⟨-, h⟩ | ⟨-, ⟨-, h⟩ | ⟨-, h⟩⟩⟩ := deleteContact_cases ans userId db <;> rw [h]
  · exact List.Subset.refl _
  all_goals exact hrow

/-- A deletion adds no contact. -/
theorem confirmDelete_subset (ans : Answers ε) (s : Sys ε) :
    (confirmDelete ans s).db.contacts.rows ⊆ s.db.contacts.rows ∧
      (confirmDelete ans s).app.chatList.contacts ⊆ s.app.chatList.contacts := by
  have hrows (peerId : String) : (deleteRows ans peerId s.answered).2.db.contacts.rows ⊆
      s.db.contacts.rows ∧ (deleteRows ans peerId s.answered).2.app.chatList = s.app.chatList := by
    obtain h | ⟨-, -, h⟩ := deleteRows_cases ans peerId s.answered <;> rw [h]
    · exact ⟨List.Subset.refl _, rfl⟩
    · exact ⟨deleteContact_subset ans peerId s.db, rfl⟩
  unfold confirmDelete
  split
  · exact ⟨List.Subset.refl _, List.Subset.refl _⟩
  · next peerId _ =>
    obtain ⟨hdb, hlist⟩ := hrows peerId
    dsimp only
    split
    · next base h =>
      rw [Sys.answered, h] at hdb hlist
      refine ⟨hdb, ?_⟩
      rw [← hlist]
      exact List.Subset.refl _
    · next base h =>
      rw [Sys.answered, h] at hdb hlist
      obtain ⟨list, hcut, htalk, hrest⟩ := talk_removeContact ans peerId base
      have hchats : (removeContact ans peerId base).app.chatList = list := by
        obtain ⟨htalk, -⟩ | htalk := htalk <;> exact congrArg Talk.chatList htalk
      refine ⟨hrest.db ▸ hdb, ?_⟩
      rw [hchats, ← hlist]
      obtain rfl | ⟨i, rfl⟩ := hcut
      · exact List.Subset.refl _
      · rw [ChatListPane.contacts_removeAt]
        exact List.eraseIdx_subset

/-- The contact is taken off the list, and then the worker is subscribed to those who are left. -/
theorem removeContact_spec (ans : Answers ε) (peerId : String) (s : Sys ε) :
    (removeContact ans peerId s).app.chatList.ids = s.app.chatList.ids.erase peerId ∧
      s.Resubscribes (removeContact ans peerId s) := by
  obtain ⟨u, hu, v, rfl, heq⟩ := removeContact_eq ans peerId s
  have happ := app_resubscribe ans u
  obtain ⟨hchats, hlast⟩ : (removeContact ans peerId s).app.chatList = u.app.chatList ∧
      (removeContact ans peerId s).streams = (resubscribeStreamToContacts ans u).streams := by
    rw [heq, ← happ]
    split <;> exact ⟨rfl, rfl⟩
  obtain ⟨hids, htx, hstreams⟩ : u.app.chatList.ids = s.app.chatList.ids.erase peerId ∧
      u.app.streamTx = s.app.streamTx ∧ u.streams = s.streams := by
    obtain ⟨hnone, rfl⟩ | ⟨i, hi, rfl⟩ := hu
    · rw [Sys.app_orchCommand]
      exact ⟨(List.erase_of_not_mem (ChatListPane.not_mem_ids hnone)).symm, rfl,
        Sys.streams_orchCommand s _ _⟩
    · refine ⟨?_, ?_, Sys.streams_orchCommand s _ _⟩
      · show ((s.orchCommand _ _).app.chatList.removeAt i).ids = _
        rw [Sys.app_orchCommand]
        exact ChatListPane.ids_removeAt hi
      · show (s.orchCommand _ _).app.streamTx = _
        rw [Sys.app_orchCommand]
  rw [hchats]
  exact ⟨hids, (Sys.resubscribes_resubscribe ans u).congr hstreams htx hlast
    (hchats.trans (congrArg chatList happ).symm)⟩

/-- While the database is open and nothing fails, a contact whose deletion is confirmed loses its
row, and one line. -/
theorem confirmDelete_spec (ans : Answers ε) {s : Sys ε} {peerId : String}
    (hask : s.app.deleteConfirm = some peerId) :
    (confirmDelete ans s).app.handles = s.app.handles ∧ s.Resubscribes (confirmDelete ans s) ∧
      (s.app.readStorage = true → ans.NoSqlError →
        (confirmDelete ans s).app.chatList.ids = s.app.chatList.ids.erase peerId ∧
          (confirmDelete ans s).db.contacts =
            s.db.contacts.deleteWhere fun c => c.userId = peerId) := by
  let t := (deleteRows ans peerId s.answered).2
  have hhandles : t.app.handles = s.app.handles := handles_deleteRows ans peerId s.answered
  have hstreams : t.streams = s.streams := streams_deleteRows ans peerId s.answered
  have hchats : t.app.chatList = s.app.chatList := by
    obtain ⟨messages, htalk, -⟩ := talk_deleteRows ans peerId s.answered
    exact congrArg Talk.chatList htalk
  have hrows (hread : s.app.readStorage = true) (hsql : ans.NoSqlError) :
      (deleteRows ans peerId s.answered).1 = .ok () ∧
        t.db.contacts = s.db.contacts.deleteWhere fun c => c.userId = peerId := by
    have hok : (deleteContact ans peerId s.db).1 = .ok () := by
      simp [deleteContact, deleteContactFrom, hsql _]
    have hread' : s.answered.app.readStorage = true := hread
    simp only [t, deleteRows, if_pos hread']
    refine ⟨hok, ?_⟩
    show (deleteContact ans peerId s.db).2.contacts = _
    rw [deleteContact_ok hok]
    rfl
  unfold confirmDelete
  rw [hask]
  dsimp only
  split
  · next e u hfailed =>
    have hfailed : deleteRows ans peerId s.answered = (.error e, u) := hfailed
    obtain rfl : t = u := congrArg Prod.snd hfailed
    refine ⟨hhandles, .inl hstreams, fun hread hsql => ?_⟩
    have hok := (hrows hread hsql).1
    rw [hfailed] at hok
    cases hok
  · next u hdone =>
    have hdone : deleteRows ans peerId s.answered = (.ok (), u) := hdone
    obtain rfl : t = u := congrArg Prod.snd hdone
    obtain ⟨-, -, -, hrest⟩ := talk_removeContact ans peerId t
    obtain ⟨hids, hsub⟩ := removeContact_spec ans peerId t
    refine ⟨hrest.handles.trans hhandles, hsub.congr hstreams ?_ rfl rfl, fun hread hsql => ?_⟩
    · exact congrArg Prod.fst hhandles
    · rw [hids, hchats, hrest.db]
      exact ⟨rfl, (hrows hread hsql).2⟩

end App

namespace Sys

/-! ### Runs -/

/-- The contact that a step adds. -/
def addedBy (s : Sys ε) (a : Label ε) : Option (String × String) :=
  match a with
  | .key key _ => App.adding s (.key key)
  | .internal _ => s.queue.head?.bind fun q => App.adding s (.event q.event q.gone)
  | _ => none

/-- While the database is open, whoever the step adds is not on the list. -/
def AddsNew (s : Sys ε) (a : Label ε) : Prop :=
  s.app.readStorage = true → ∀ x ∈ s.addedBy a, x.1 ∉ s.app.chatList.ids

end Sys

/-- No statement fails that the app runs in the step. -/
def Label.NoSqlError : Label ε → Prop
  | .startup ans | .key _ ans | .internal ans | .request _ _ ans | .finish _ _ ans => ans.NoSqlError
  | _ => True

namespace Sys

theorem addedBy_of_takes {s : Sys ε} {a : Label ε} {input : Input} (h : s.Takes a ans input) :
    s.addedBy a = App.adding s input := by
  cases h with
  | key key => rfl
  | event ans hq =>
    unfold addedBy
    rw [hq]
    rfl

theorem addedBy_of_not_takes {s : Sys ε} {a : Label ε} (h : ∀ ans input, ¬s.Takes a ans input) :
    s.addedBy a = none := by
  cases a with
  | key key ans => exact absurd (.key key ans) (h _ _)
  | internal ans =>
    cases hq : s.queue with
    | nil =>
      unfold addedBy
      rw [hq]
      rfl
    | cons q queue => exact absurd (.event ans hq) (h _ _)
  | _ => rfl

theorem noSqlError_of_takes {s : Sys ε} {a : Label ε} {input : Input} (h : s.Takes a ans input)
    (ha : a.NoSqlError) : ans.NoSqlError := by
  cases h with
  | key key => exact ha
  | event ans hq => exact ha

/-- A step that leaves the list and the table alone. -/
theorem Mirrors.congr {s s' : Sys ε} (hs : s.Mirrors)
    (hlist : s'.app.chatList.contacts = s.app.chatList.contacts)
    (hread : s'.app.readStorage = s.app.readStorage) (hdb : s'.db.contacts = s.db.contacts) :
    s'.Mirrors := by
  intro hopen
  have hids : s'.app.chatList.ids = s.app.chatList.ids := congrArg (List.map Contact.id) hlist
  rw [hdb, hids]
  exact hs (hread ▸ hopen)

/-- A start lists the stored contacts, and a deletion takes one off the list and out of the
table. -/
theorem Mirrors.edit {s s' : Sys ε} {input : Input} (hs : s.Mirrors) (hsql : ans.NoSqlError)
    (hadd : App.adding s input = none) (h : App.Edit E ans s input s') : s'.Mirrors := by
  cases h with
  | kept hlist hhandles hdb =>
    exact hs.congr hlist (congrArg (fun t => t.2.2) hhandles) (congrArg Storage.contacts hdb)
  | started hmove =>
    intro _
    have hstored : App.storedContacts ans s = some s.db.getContacts :=
      if_neg (by simp [hsql .getContacts])
    have hlist :
        s'.app.chatList = s.app.chatList.setContacts (s.db.getContacts.map App.contactOf) := by
      have hloaded := App.chatList_loadContacts ans s
      rw [hstored] at hloaded
      exact (congrArg Talk.chatList hmove.talk).trans hloaded
    have hids : s'.app.chatList.ids = s.db.getContacts.map StoredContact.userId := by
      rw [hlist]
      exact List.map_map
    rw [hmove.db, hids]
    exact Table.listedBy_of_perm ((List.perm_insertionSort _ s.db.contacts.rows).map _)
  | loggedOut hmove =>
    intro hopen
    have hclosed : s'.app.readStorage = false := congrArg (fun t => t.2.2) hmove.handles
    cases hopen.symm.trans hclosed
  | added userId username hadd' => cases hadd.symm.trans hadd'
  | deleted contactId key _ hconfirm h' =>
    subst h'
    obtain ⟨hhandles, -, hdelete⟩ := App.confirmDelete_spec ans hconfirm.2.2.2
    intro hopen
    have hread : s.app.readStorage = true := (congrArg (fun t => t.2.2) hhandles).symm.trans hopen
    obtain ⟨hids, hcontacts⟩ := hdelete hread hsql
    rw [hids, hcontacts]
    exact (hs hread).deleteWhere_key contactId

/-- Adding somebody keeps the list the mirror of the table exactly when they are not on it. -/
theorem mirrors_finishAddContact {s : Sys ε} (hs : s.Mirrors) (hsql : ans.NoSqlError)
    (userId username : String) : (App.finishAddContact ans userId username s).Mirrors ↔
      (s.app.readStorage = true → userId ∉ s.app.chatList.ids) := by
  obtain ⟨hhandles, hids, hdb, -⟩ := App.finishAddContact_spec ans userId username s
  have hread : (App.finishAddContact ans userId username s).app.readStorage = s.app.readStorage :=
    congrArg (fun t => t.2.2) hhandles
  unfold Mirrors
  rw [hread, hids, hdb]
  refine forall_congr' fun hopen => ?_
  have hstored : (s.app.readStorage && !ans.sqlFails .upsertContact) = true := by
    simp [hopen, hsql .upsertContact]
  rw [if_pos hstored]
  constructor
  · intro hlisted hmem
    exact (List.nodup_append.mp hlisted.nodup).2.2 _ hmem _ (List.mem_singleton_self _) rfl
  · exact (hs hopen).insertOrReplace (x := ⟨userId, username, ""⟩)

/-- A step without an error keeps the list the mirror of the table exactly when nobody is added who
is on it. -/
theorem mirrors_step {s s' : Sys ε} {a : Label ε} (hprograms : s.Programs OrchestratorTask.Runs)
    (hs : s.Mirrors) (hsql : a.NoSqlError) (h : step E s a = some s') :
    s'.Mirrors ↔ s.AddsNew a := by
  have hbeside (hno : ∀ ans input, ¬s.Takes a ans input) (hmirrors : s'.Mirrors) :
      s'.Mirrors ↔ s.AddsNew a := by
    refine iff_of_true hmirrors fun _ x hx => ?_
    rw [addedBy_of_not_takes hno] at hx
    cases hx
  cases step_kind h with
  | input ans input queue ha hqueue h' =>
    have hsql' := noSqlError_of_takes ha hsql
    have ht : Mirrors { s with queue := queue } := hs
    unfold AddsNew
    rw [h', addedBy_of_takes ha]
    cases hadd : App.adding s input with
    | none =>
      refine iff_of_true (ht.edit hsql' hadd (App.edit_handle E ans _ input)) fun _ x hx => ?_
      cases hx
    | some x =>
      have hhandle := App.handle_of_adding E ans (s := { s with queue := queue }) hadd
      rw [hhandle, mirrors_finishAddContact ht hsql']
      simp
  | startup hno _ hstill =>
    refine hbeside hno (hs.congr ?_ ?_ (congrArg Storage.contacts hstill.db))
    · exact congrArg (fun t => t.chatList.contacts) hstill.talk
    · exact congrArg (fun t => t.2.2) hstill.handles
  | behind hno _ hbehind =>
    refine hbeside hno (hs.congr ?_ ?_ (congrArg Storage.contacts hbehind.db)) <;> rw [hbehind.app]
  | pipeline hno i hp hmove h' =>
    subst h'
    exact hbeside hno (hs.congr rfl rfl rfl)
  | orchestrator hno i hlabel hp h' =>
    obtain ⟨⟨program, world⟩, hstep, rfl⟩ := Option.map_eq_some_iff.mp h'
    have hcontacts := ((hprograms _ (List.mem_of_getElem? hp)).step hstep).1.contacts
    exact hbeside hno (hs.congr rfl rfl hcontacts)

/-- Whoever edits the list keeps the handles, and subscribes the worker to those who are on it
then. -/
theorem resubscribes_step {s s' : Sys ε} {a : Label ε} (h : step E s a = some s')
    (hedit : (s.addedBy a).isSome ∨ ∃ contactId, s.ConfirmsDeletion contactId a) :
    s'.app.handles = s.app.handles ∧ s.Resubscribes s' := by
  obtain hadd | ⟨contactId, hconfirm⟩ := hedit
  · obtain ⟨⟨userId, username⟩, hadd⟩ := Option.isSome_iff_exists.mp hadd
    by_cases htakes : ∃ ans input, s.Takes a ans input
    · obtain ⟨ans, input, ha⟩ := htakes
      rw [addedBy_of_takes ha] at hadd
      obtain ⟨queue, -, rfl⟩ := step_of_takes ha h
      rw [App.handle_of_adding E ans (s := { s with queue := queue }) hadd]
      obtain ⟨hhandles, -, -, hsub⟩ :=
        App.finishAddContact_spec ans userId username { s with queue := queue }
      exact ⟨hhandles, hsub⟩
    · push Not at htakes
      rw [addedBy_of_not_takes htakes] at hadd
      cases hadd
  · cases a with
    | key key ans =>
      obtain ⟨hscreen, hpress, hcode, hask⟩ := hconfirm
      cases stepped h
      rw [App.handleEvent_confirms E ans hscreen hpress hcode (by rw [hask]; rfl)]
      obtain ⟨hhandles, hsub, -⟩ := App.confirmDelete_spec ans hask
      exact ⟨hhandles, hsub⟩
    | _ => exact hconfirm.elim

/-- **The list mirrors the table throughout exactly the runs in which nobody is added who is on
it.** While it does, a step that edits the list subscribes the worker to exactly the stored
contacts, if to any. -/
theorem mirrors_iff (E : AppExternals ε) {cfg : AppConfig} {dir : ConfigDir} {db : Storage}
    {as : List (Label ε)} {s : Sys ε} (h : Run.after (step E) (start ε cfg dir db) as = some s)
    (hsql : ∀ a ∈ as, a.NoSqlError) :
    (Run.Always (step E) Mirrors (start ε cfg dir db) as ↔
      Run.Along (step E) AddsNew (start ε cfg dir db) as) ∧
    ∀ (a : Label ε) (s' : Sys ε), step E s a = some s' →
      (s.addedBy a).isSome ∨ (∃ contactId, s.ConfirmsDeletion contactId a) → s'.Mirrors →
      s'.streams = s.streams ∨ ∃ i ids cursor,
        s'.streams = s.streams.modify i (· ++ [.subscribe ids cursor]) ∧
          s'.db.contacts.ListedBy ids := by
  refine ⟨?_, fun a s' hstep hedit hmirrors => ?_⟩
  · have hsql' : Run.Along (step E) (fun _ a => a.NoSqlError) (start ε cfg dir db) as := by
      refine Run.along_iff_forall.mpr fun bs a cs t has _ => hsql a ?_
      simp [has]
    have hstart : (start ε cfg dir db).Mirrors ∧
        (start ε cfg dir db).Programs OrchestratorTask.Runs := ⟨nofun, programs_start _ cfg dir db⟩
    have hnext (t : Sys ε) (a : Label ε) (t' : Sys ε)
        (ht : t.Mirrors ∧ t.Programs OrchestratorTask.Runs) (ha : a.NoSqlError)
        (hstep : step E t a = some t') (hnew : t.AddsNew a) :
        t'.Mirrors ∧ t'.Programs OrchestratorTask.Runs :=
      ⟨(mirrors_step ht.2 ht.1 ha hstep).mpr hnew, ht.2.runs hstep⟩
    exact Run.always_iff_along_given (fun _ ht => ht.1) hnext
      (fun _ _ _ ht ha hstep => (mirrors_step ht.2 ht.1 ha hstep).mp) hstart hsql' h
  · obtain ⟨hhandles, hsame | ⟨i, cursor, htx, hsub⟩⟩ := resubscribes_step hstep hedit
    · exact .inl hsame
    · refine .inr ⟨i, _, cursor, hsub, hmirrors ?_⟩
      obtain ⟨handle, hheld, -⟩ := (orderly_held_after h).2
      have hhandle : s.app.streamTx = handle := congrArg Prod.fst hheld
      have hread : s'.app.readStorage = handle.isSome :=
        congrArg (fun t => t.2.2) (hhandles.trans hheld)
      rw [hread, ← hhandle, htx]
      rfl

instance (s : Sys ε) (a : Label ε) : Decidable (s.AddsNew a) :=
  inferInstanceAs (Decidable (s.app.readStorage = true →
    ∀ x ∈ s.addedBy a, x.1 ∉ s.app.chatList.ids))

theorem noSqlError_quiet : (Answers.quiet : Answers Unit).NoSqlError := fun _ => rfl

/-- A user who adds one contact. -/
theorem mirrors_added_once :
    Run.Always (step .quiet) Mirrors fresh (registers ++ finds ++ [adds]) := by
  have h : Run.after (step .quiet) fresh (registers ++ finds ++ [adds]) =
      some (Run.ending (step .quiet) fresh (registers ++ finds ++ [adds])) :=
    Run.after_ending_nil (by decide +kernel)
  have hsql : ∀ a ∈ registers ++ finds ++ [adds], a.NoSqlError := by
    simp [registers, finds, adds, presses, Label.NoSqlError, noSqlError_quiet]
  exact (mirrors_iff .quiet h hsql).1.mpr (by decide +kernel)

/-- A user who adds the same contact twice has it on the list twice, and keeps one line, and the
subscription to it, when the contact is deleted. -/
theorem added_twice : ∃ s t,
    Run.after (step .quiet) fresh (registers ++ finds ++ [adds] ++ (finds ++ [adds])) = some s ∧
    (∀ a ∈ registers ++ finds ++ [adds] ++ (finds ++ [adds]), a.NoSqlError) ∧
    s.app.readStorage = true ∧ s.app.chatList.ids = ["alice", "alice"] ∧ ¬s.Mirrors ∧
    Run.after (step .quiet) s [presses 'x', presses 'y'] = some t ∧
    t.app.readStorage = true ∧ t.app.chatList.ids = ["alice"] ∧ t.db.contacts.rows = [] ∧
    t.streams.map List.getLast? = [some (.subscribe ["alice"] none)] ∧ ¬t.Mirrors := by
  let twice := registers ++ finds ++ [adds] ++ (finds ++ [adds])
  let s := Run.ending (step .quiet) fresh twice
  let t := Run.ending (step .quiet) fresh (twice ++ [presses 'x', presses 'y'])
  have hsql : ∀ a ∈ twice, a.NoSqlError := by
    simp [twice, registers, finds, adds, presses, Label.NoSqlError, noSqlError_quiet]
  have hopen : s.app.readStorage = true ∧ t.app.readStorage = true := by decide +kernel
  have htwice : s.app.chatList.ids = ["alice", "alice"] := by decide +kernel
  have honce : t.app.chatList.ids = ["alice"] ∧ t.db.contacts.rows = [] := by decide +kernel
  refine ⟨s, t, Run.after_ending_nil (by decide +kernel), hsql, hopen.1, htwice, fun h => ?_,
    Run.after_ending (by decide +kernel), hopen.2, honce.1, honce.2, by decide +kernel, fun h => ?_⟩
  · have hnodup := (h hopen.1).nodup
    rw [htwice] at hnodup
    exact absurd hnodup (by decide)
  · obtain ⟨row, hrow, -⟩ := ((h hopen.2).mem_iff "alice").mp (by rw [honce.1]; decide)
    rw [honce.2] at hrow
    cases hrow

end Sys
