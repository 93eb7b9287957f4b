import ConstructTui.App.Contacts
import ConstructTui.App.Edits
import ConstructTui.App.Identity
import ConstructTui.Lib.Fifo

/-!
# Deletions are confirmed

The rows of a contact and its messages stay in the database for as long as the user does not delete
the contact. That takes two keys on the chats, with no other between them: `x` with the contact
selected, which asks, and `y`, which confirms. Nothing that comes in over the stream, no background
task and no restart takes them away.

## Main definitions

* `Sys.asksToDelete`: the contact that a key on the chats asks to delete.
* `Sys.chatKeys`: the keys that the chats take in a step.
* `Storage.Keeps`: the rows of all contacts but one are kept.

## Main results

* `App.deleteConfirm_handle`: what an input does to the question.
* `Sys.keeps_step`: only a confirmed deletion takes rows away.
* `Sys.deletes_confirmed`: and it was asked for by the key before.
-/

variable {ε : Type} {E : AppExternals ε} {ans : Answers ε}

namespace Sys

/-- The contact that a key asks to delete, if no question is open. -/
def asksToDelete (s : Sys ε) (key : KeyEvent) : Option String :=
  if s.app.deleteConfirm = none ∧ s.app.focus = .contactList ∧ key.code = .char 'x' ∧
      key.modifiers = .none
  then s.app.chatList.selectedContact.map Contact.id else none

/-- The key goes to the chats. -/
def OnChats (s : Sys ε) (key : KeyEvent) : Prop :=
  s.app.screen = .main ∧ key.isPress ∧ ¬(key.code = .char 'c' ∧ key.modifiers = .control)

instance (s : Sys ε) (key : KeyEvent) : Decidable (s.OnChats key) :=
  inferInstanceAs (Decidable (_ ∧ _ ∧ ¬_))

/-- The key that the chats take in a step, as the contact it asks to delete. -/
def chatKeys (s : Sys ε) : VaultLabel ε → List (Option String)
  | .act (.key key _) => if s.OnChats key then [s.asksToDelete key] else []
  | _ => []

end Sys

namespace App

open Sys

variable (E ans)

/-! ### The question -/

@[simp] theorem deleteConfirm_setFocus (f : Focus) (s : Sys ε) :
    (setFocus f s).app.deleteConfirm = s.app.deleteConfirm := rfl

theorem deleteConfirm_openConversation (c : Contact) (s : Sys ε) :
    (openConversation ans c s).app.deleteConfirm = s.app.deleteConfirm := by
  simp [openConversation, modApp]

theorem deleteConfirm_sendCompose (s : Sys ε) :
    (sendCompose ans s).app.deleteConfirm = s.app.deleteConfirm := by
  unfold sendCompose
  dsimp only
  split
  · rfl
  · split <;> simp [modApp]

/-- A confirmed deletion closes the question, whatever becomes of it. -/
theorem deleteConfirm_confirmDelete (s : Sys ε) :
    (confirmDelete ans s).app.deleteConfirm = none := by
  have hrows (peerId : String) : (deleteRows ans peerId s.answered).2.app.deleteConfirm = none := by
    obtain h | ⟨-, -, h⟩ := deleteRows_cases ans peerId s.answered <;> rw [h] <;> rfl
  unfold confirmDelete
  split
  · next h => exact h
  · next peerId _ =>
    have hbase := hrows peerId
    dsimp only
    split
    · next h =>
      rw [answered, h] at hbase
      exact hbase
    · next base h =>
      rw [answered, h] at hbase
      obtain ⟨list, -, ⟨htalk, -⟩ | htalk, -⟩ := talk_removeContact ans peerId base
      · exact (congrArg Talk.deleteConfirm htalk).trans hbase
      · exact (congrArg Talk.deleteConfirm htalk).trans hbase

/-- A key on the list asks to delete the selected contact, or leaves the question alone. -/
theorem deleteConfirm_handleContactListKey {key : KeyEvent} {s : Sys ε}
    (hask : s.app.deleteConfirm = none) (hfocus : s.app.focus = .contactList) :
    (handleContactListKey ans key s).app.deleteConfirm = s.asksToDelete key := by
  have hother (hcode : key.code ≠ .char 'x') : s.asksToDelete key = none :=
    if_neg fun h => hcode h.2.2.1
  have hopen : (setFocus .chatView ((s.app.chatList.selectedContact.map fun c =>
      openConversation ans c s).getD s)).app.deleteConfirm = none := by
    rw [deleteConfirm_setFocus]
    cases s.app.chatList.selectedContact with
    | none => exact hask
    | some c => exact (deleteConfirm_openConversation ans c s).trans hask
  unfold handleContactListKey
  split
  case h_5 hcode =>
    unfold asksToDelete
    cases hselected : s.app.chatList.selectedContact with
    | none => simpa using hask
    | some c =>
      dsimp only
      by_cases hmodifiers : key.modifiers = .none
      · rw [if_pos hmodifiers, if_pos ⟨hask, hfocus, hcode, hmodifiers⟩]
        rfl
      · rw [if_neg hmodifiers, if_neg fun h => hmodifiers h.2.2.2]
        exact hask
  case h_6 hcode | h_7 hcode =>
    rw [hother (by rw [hcode]; decide)]
    cases hselected : s.app.chatList.selectedContact with
    | none => exact hask
    | some c =>
      rw [hselected] at hopen
      exact hopen
  case h_8 hcode | h_9 hcode | h_10 hcode =>
    rw [hother (by rw [hcode]; decide)]
    split <;> exact hask
  case h_11 hx _ _ _ _ _ _ => exact hask.trans (hother (by assumption)).symm
  all_goals
    rename_i hcode
    rw [hother (by rw [hcode]; decide)]
    exact hask

theorem deleteConfirm_handleMain (key : KeyEvent) (s : Sys ε) :
    (handleMain ans key s).app.deleteConfirm = s.asksToDelete key := by
  cases hask : s.app.deleteConfirm with
  | some contactId =>
    have hasks : s.asksToDelete key = none := if_neg fun h => by
      rw [hask] at h
      cases h.1
    unfold handleMain
    rw [hask, Option.isSome_some, if_pos rfl, hasks]
    split
    · exact deleteConfirm_confirmDelete ans s
    · rfl
  | none =>
    have hother (hcode : ¬(s.app.focus = .contactList ∧ key.code = .char 'x')) :
        s.asksToDelete key = none := if_neg fun h => hcode ⟨h.2.1, h.2.2.1⟩
    unfold handleMain
    rw [hask, Option.isSome_none, if_neg Bool.false_ne_true]
    split
    · next hquit =>
      rw [hother]
      · exact hask
      · rintro ⟨-, hcode⟩
        simp [isQuit, hcode] at hquit
    · cases hfocus : s.app.focus with
      | contactList => exact deleteConfirm_handleContactListKey ans hask hfocus
      | chatView =>
        rw [hother (by simp [hfocus])]
        dsimp only
        unfold handleChatViewKey
        dsimp only
        split <;> exact hask
      | compose =>
        rw [hother (by simp [hfocus])]
        dsimp only
        unfold handleComposeKey
        split
        case h_2 => exact (deleteConfirm_sendCompose ans s).trans hask
        all_goals exact hask

theorem deleteConfirm_handleContactSearch (key : KeyEvent) (s : Sys ε) :
    (handleContactSearch E ans key s).app.deleteConfirm = s.app.deleteConfirm := by
  have hadd (userId username : String) :
      (finishAddContact ans userId username s).app.deleteConfirm = s.app.deleteConfirm := by
    obtain ⟨t, u, ht, -, happ, heq⟩ := finishAddContact_eq ans userId username s
    rw [heq]
    show u.app.deleteConfirm = s.app.deleteConfirm
    rw [happ, ht]
  have hselected : (addSelectedSearchResult ans s).app.deleteConfirm = s.app.deleteConfirm := by
    unfold addSelectedSearchResult
    split
    · rfl
    · exact hadd _ _
  unfold handleContactSearch
  dsimp only
  split
  case h_6 =>
    split
    · exact hselected
    · exact congrArg Talk.deleteConfirm (still_submitContactSearch E ans s).talk
  case h_8 =>
    split
    · exact hselected
    · rfl
  all_goals rfl

theorem handleEvent_onChats {key : KeyEvent} {s : Sys ε} (h : s.OnChats key) :
    handleEvent E ans key s = handleMain ans key s := by
  obtain ⟨hscreen, hpress, hcontrol⟩ := h
  have hcontrol' : (key.code = .char 'c' && key.modifiers = .control) = false := by
    simpa using hcontrol
  unfold handleEvent
  simp only [hpress, hcontrol', hscreen, Bool.not_true, Bool.false_eq_true, if_false]

/-- Only the keys on the chats open and close the question. -/
theorem deleteConfirm_handleEvent (key : KeyEvent) (s : Sys ε) :
    (handleEvent E ans key s).app.deleteConfirm =
      if s.OnChats key then s.asksToDelete key else s.app.deleteConfirm := by
  by_cases hchats : s.OnChats key
  · rw [if_pos hchats, handleEvent_onChats E ans hchats]
    exact deleteConfirm_handleMain ans key s
  · rw [if_neg hchats]
    cases handle_move E ans s (.key key) with
    | started _ h => exact congrArg Talk.deleteConfirm h.talk
    | loggedOut _ h => exact congrArg Talk.deleteConfirm h.talk
    | changed hstart hlogout _ =>
      obtain hstill | ⟨hpress, ⟨hscreen, heq⟩ | ⟨-, heq⟩⟩ := handleEvent_cases E ans hstart hlogout
      · exact congrArg Talk.deleteConfirm hstill.talk
      · have hcontrol : key.code = .char 'c' ∧ key.modifiers = .control :=
          not_not.mp fun h => hchats ⟨hscreen, hpress, h⟩
        unfold handleEvent
        simp [hpress, hcontrol, modApp]
      · rw [heq]
        exact deleteConfirm_handleContactSearch E ans key s

/-- No event opens or closes it. -/
theorem deleteConfirm_handleInternal (event : InternalEvent) (gone : Bool) (s : Sys ε) :
    (handleInternal E ans event gone s).app.deleteConfirm = s.app.deleteConfirm := by
  cases handle_move E ans s (.event event gone) with
  | started _ h => exact congrArg Talk.deleteConfirm h.talk
  | loggedOut _ h => exact congrArg Talk.deleteConfirm h.talk
  | changed hstart _ _ =>
    cases event with
    | bridge event =>
      cases event with
      | streamStatus connected => cases connected <;> rfl
      | _ => rfl
    | inviteAccepted userId username =>
      obtain ⟨t, u, ht, -, happ, heq⟩ := finishAddContact_eq ans userId username s
      show (finishAddContact ans userId username s).app.deleteConfirm = s.app.deleteConfirm
      rw [heq]
      show u.app.deleteConfirm = s.app.deleteConfirm
      rw [happ, ht]
    | _ => exact congrArg Talk.deleteConfirm (still_handleInternal E ans hstart nofun nofun).talk

end App

/-! ### The rows -/

/-- The contacts and the messages are kept, all but those of one contact; the delivery status of a
message may change. -/
structure Storage.Keeps (lost : Option String) (db db' : Storage) : Prop where
  contacts : ∀ c ∈ db.contacts.rows, lost ≠ some c.userId →
    ∃ c' ∈ db'.contacts.rows, c'.userId = c.userId
  messages : ∀ m ∈ db.messages.rows, lost ≠ some m.peerId →
    ∃ m' ∈ db'.messages.rows, m'.content = m.content

namespace Storage.Keeps

variable {lost : Option String} {db db' db'' : Storage}

theorem of_eq (hcontacts : db'.contacts = db.contacts) (hmessages : db'.messages = db.messages) :
    Keeps lost db db' where
  contacts c hc _ := ⟨c, hcontacts ▸ hc, rfl⟩
  messages m hm _ := ⟨m, hmessages ▸ hm, rfl⟩

theorem refl (db : Storage) : Keeps lost db db := of_eq rfl rfl

theorem upsertContact (db : Storage) (contact : StoredContact) :
    Keeps lost db (db.upsertContact contact) where
  contacts c hc _ := by
    by_cases hid : c.userId = contact.userId
    · exact ⟨contact, Table.mem_insertOrReplace.mpr (.inr rfl), hid.symm⟩
    · exact ⟨c, Table.mem_insertOrReplace.mpr (.inl ⟨hc, hid⟩), rfl⟩
  messages m hm _ := ⟨m, hm, rfl⟩

/-- Every statement of the task keeps the rows. -/
theorem statement (h : db.Statement db') : Keeps lost db db' := by
  refine ⟨fun c hc _ => ⟨c, h.contacts ▸ hc, rfl⟩, fun m hm _ => ?_⟩
  cases h with
  | storeInboundMessage msg => exact ⟨m, Table.mem_insertOrIgnore.mpr (.inl hm), rfl⟩
  | markDelivered messageId =>
    exact ⟨_, List.mem_map_of_mem hm, StoredMessage.content_deliveredIf m messageId⟩
  | _ => exact ⟨m, hm, rfl⟩

/-- A deletion, however far it comes, takes rows of its contact. -/
theorem deleteContact (ans : Answers ε) (userId : String) (db : Storage) :
    Keeps (some userId) db (App.deleteContact ans userId db).2 := by
  have hcontact {c : StoredContact} (hc : c ∈ db.contacts.rows)
      (hlost : some userId ≠ some c.userId) : c ∈ (db.deleteContactRow userId).contacts.rows :=
    Table.mem_deleteWhere.mpr ⟨hc, by simpa using fun h : c.userId = userId => hlost (by rw [h])⟩
  have hmessage {m : StoredMessage} (hm : m ∈ db.messages.rows)
      (hlost : some userId ≠ some m.peerId) : m ∈ (db.deleteContactMessages userId).messages.rows :=
    Table.mem_deleteWhere.mpr ⟨hm, by simpa using fun h : m.peerId = userId => hlost (by rw [h])⟩
  obtain ⟨-, hdel⟩ | ⟨-, ⟨-, hdel⟩ | ⟨-, ⟨-, hdel⟩ | ⟨-, hdel⟩⟩⟩ :=
    App.deleteContact_cases ans userId db <;> rw [hdel]
  · exact .refl db
  · exact ⟨fun c hc h => ⟨c, hcontact hc h, rfl⟩, fun m hm _ => ⟨m, hm, rfl⟩⟩
  · exact ⟨fun c hc h => ⟨c, hcontact hc h, rfl⟩, fun m hm h => ⟨m, hmessage hm h, rfl⟩⟩
  · exact ⟨fun c hc h => ⟨c, hcontact hc h, rfl⟩, fun m hm h => ⟨m, hmessage hm h, rfl⟩⟩

end Storage.Keeps

namespace Sys

/-- An input keeps all rows but those of a contact whose deletion it confirms. -/
theorem keeps_handle (E : AppExternals ε) (ans : Answers ε) (s : Sys ε) (input : Input) :
    ∃ lost, s.db.Keeps lost (App.handle E ans s input).db ∧ ∀ contactId, lost = some contactId →
      ∃ key, input = .key key ∧ s.ConfirmsDeletion contactId (.key key ans) := by
  have hkept {db' : Storage} (h : s.db.Keeps none db') : ∃ lost, s.db.Keeps lost db' ∧
      ∀ contactId, lost = some contactId →
        ∃ key, input = .key key ∧ s.ConfirmsDeletion contactId (.key key ans) := ⟨none, h, nofun⟩
  cases App.edit_handle E ans s input with
  | kept _ _ hdb => exact hkept (hdb ▸ .refl _)
  | started h => exact hkept (h.db ▸ .refl _)
  | loggedOut h =>
    obtain hdb | hdb := h.db <;> rw [hdb]
    · exact hkept (.refl _)
    · exact hkept (.of_eq rfl rfl)
  | added userId username _ h =>
    obtain ⟨t, u, ht, hu, -, heq⟩ := App.finishAddContact_eq ans userId username s
    rw [h, heq]
    have hdb : u.db = t.db := by
      rw [hu]
      exact ((App.rest_resubscribe ans t).trans (.orchSend _ _ _)).db
    show ∃ lost, s.db.Keeps lost u.db ∧ _
    rw [hdb, ht]
    dsimp only
    split
    · exact hkept (.upsertContact _ _)
    · exact hkept (.refl _)
  | deleted contactId key hinput hconfirm h =>
    refine ⟨some contactId, ?_, fun _ hlost => ⟨key, hinput, Option.some.inj hlost ▸ hconfirm⟩⟩
    obtain ⟨-, -, -, hask⟩ := hconfirm
    have hdb : (App.confirmDelete ans s).db = (App.deleteRows ans contactId s.answered).2.db := by
      unfold App.confirmDelete
      rw [hask]
      dsimp only
      split
      · next hrows =>
        rw [answered, hrows]
        rfl
      · next base hrows =>
        obtain ⟨_, -, -, hrest⟩ := App.talk_removeContact ans contactId base
        rw [answered, hrows]
        exact hrest.db
    rw [h, hdb]
    obtain hsame | ⟨-, -, hgone⟩ := App.deleteRows_cases ans contactId s.answered
    · rw [hsame]
      exact .refl _
    · rw [hgone]
      exact .deleteContact ans contactId s.db

/-- Only a confirmed deletion takes rows away, and only those of its contact. -/
theorem keeps_step {s s' : Sys ε} {a : Label ε} (hs : s.Programs OrchestratorTask.Runs)
    (h : step E s a = some s') : ∃ lost, s.db.Keeps lost s'.db ∧
      ∀ contactId, lost = some contactId → s.ConfirmsDeletion contactId a := by
  have hkept (hdb : s'.db = s.db) : ∃ lost, s.db.Keeps lost s'.db ∧
      ∀ contactId, lost = some contactId → s.ConfirmsDeletion contactId a :=
    ⟨none, hdb ▸ .refl _, nofun⟩
  cases step_kind h with
  | input ans input queue ha hqueue h' =>
    subst h'
    obtain ⟨lost, hkeeps, hlost⟩ := keeps_handle E ans { s with queue := queue } input
    refine ⟨lost, hkeeps, fun contactId hid => ?_⟩
    obtain ⟨key, rfl, hconfirm⟩ := hlost contactId hid
    cases ha
    exact hconfirm
  | startup ha hlabel h' => exact hkept h'.db
  | behind ha hlabel h' => exact hkept h'.db
  | pipeline ha i hp hmove h' => exact hkept (by rw [h']; rfl)
  | orchestrator ha i hlabel hp h' =>
    obtain ⟨⟨program, world⟩, hstep, rfl⟩ := Option.map_eq_some_iff.mp h'
    have hruns := ((hs _ (List.mem_of_getElem? hp)).step hstep).1
    exact ⟨none, .statement hruns, nofun⟩

/-! ### The keys before -/

/-- The question that is open is the one that the last key on the chats asked. -/
def Asked (past : List (Option String)) (s : Sys ε) : Prop :=
  ∀ contactId, s.app.deleteConfirm = some contactId → past.getLast? = some (some contactId)

theorem chatKeys_of_not_takes {s : Sys ε} {a : Label ε} (h : ∀ ans input, ¬s.Takes a ans input) :
    s.chatKeys (.act a) = [] := by
  cases a with
  | key key ans => exact absurd (.key key ans) (h ans (.key key))
  | _ => rfl

/-- What leaves the question alone and is no key on the chats. -/
theorem Asked.kept {past ks : List (Option String)} {s s' : Sys ε} (hs : Asked past s)
    (hkeys : ks = []) (h : s'.app.deleteConfirm = s.app.deleteConfirm) : Asked (past ++ ks) s' := by
  subst hkeys
  intro contactId hask
  rw [List.append_nil]
  exact hs contactId (h ▸ hask)

theorem asked_step {past : List (Option String)} {s s' : Sys ε} {a : Label ε} (hs : Asked past s)
    (h : step E s a = some s') : Asked (past ++ s.chatKeys (.act a)) s' := by
  cases step_kind h with
  | input ans input queue ha hqueue h' =>
    subst h'
    cases ha with
    | key key =>
      have hconfirm := App.deleteConfirm_handleEvent E ans key { s with queue := queue }
      by_cases hchats : s.OnChats key
      · intro contactId hask
        have hasks : s.asksToDelete key = some contactId := by
          rw [← hask]
          exact (hconfirm.trans (if_pos hchats)).symm
        simp [chatKeys, hchats, hasks]
      · exact hs.kept (if_neg hchats) (hconfirm.trans (if_neg hchats))
    | @event q _ _ _ =>
      exact hs.kept rfl (App.deleteConfirm_handleInternal E ans q.event q.gone { s with queue })
  | startup ha hlabel h' =>
    exact hs.kept (chatKeys_of_not_takes ha) (congrArg Talk.deleteConfirm h'.talk)
  | behind ha hlabel h' => exact hs.kept (chatKeys_of_not_takes ha) (by rw [h'.app])
  | pipeline ha i hp hmove h' => exact hs.kept (chatKeys_of_not_takes ha) (by rw [h']; rfl)
  | orchestrator ha i hlabel hp h' =>
    obtain ⟨r, -, rfl⟩ := Option.map_eq_some_iff.mp h'
    exact hs.kept (chatKeys_of_not_takes ha) rfl

/-- Through any run and any restarts, an open question is the one asked by the last key. -/
theorem asked_after (past : List (Option String)) {s s' : Sys ε} {ls : List (VaultLabel ε)}
    (hs : s.Programs OrchestratorTask.Runs ∧ Asked past s)
    (h : Run.after (stepOrRestart E) s ls = some s') :
    s'.Programs OrchestratorTask.Runs ∧
      Asked (past ++ Run.output (stepOrRestart E) chatKeys s ls) s' := by
  refine Run.output_invariant (I := fun past s => s.Programs OrchestratorTask.Runs ∧ Asked past s)
    (fun past s l s' hI hstep => ?_) hs h
  cases l with
  | act a => exact ⟨hI.1.runs hstep, asked_step hI.2 hstep⟩
  | restart cfg =>
    obtain rfl := Option.some.inj hstep
    exact ⟨programs_start _ cfg s.dir s.db, nofun⟩

/-- **Deletions are confirmed.** Through any run and any restarts, whatever else happens, a step
that takes the row of a contact away, or a message, is the key that confirms the deletion of that
contact; and of all keys on the chats, the one before asked to delete it. -/
theorem deletes_confirmed {cfg : AppConfig} {dir : ConfigDir} {db : Storage}
    {ls : List (VaultLabel ε)} {l : VaultLabel ε} {s s' : Sys ε} {contactId : String}
    (hs : Run.after (stepOrRestart E) (start ε cfg dir db) ls = some s)
    (h : stepOrRestart E s l = some s')
    (hgone : (∃ c ∈ s.db.contacts.rows, c.userId = contactId ∧
        ∀ c' ∈ s'.db.contacts.rows, c'.userId ≠ contactId) ∨
      ∃ m ∈ s.db.messages.rows, m.peerId = contactId ∧
        ∀ m' ∈ s'.db.messages.rows, m'.content ≠ m.content) :
    (∃ a, l = .act a ∧ s.ConfirmsDeletion contactId a) ∧
      (Run.output (stepOrRestart E) chatKeys (start ε cfg dir db) ls).getLast? =
        some (some contactId) := by
  have hlost (lost : Option String) (hkeeps : s.db.Keeps lost s'.db) : lost = some contactId := by
    obtain ⟨c, hc, rfl, hgone⟩ | ⟨m, hm, rfl, hgone⟩ := hgone <;> by_contra hne
    · obtain ⟨c', hc', hid⟩ := hkeeps.contacts c hc hne
      exact hgone c' hc' hid
    · obtain ⟨m', hm', hcontent⟩ := hkeeps.messages m hm hne
      exact hgone m' hm' hcontent
  obtain ⟨hprograms, hasked⟩ := asked_after [] ⟨programs_start _ cfg dir db, nofun⟩ hs
  cases l with
  | restart cfg =>
    obtain rfl := Option.some.inj h
    cases hlost none (.refl s.db)
  | act a =>
    obtain ⟨lost, hkeeps, hconfirmed⟩ := keeps_step hprograms h
    have hconfirm := hconfirmed contactId (hlost lost hkeeps)
    refine ⟨⟨a, rfl, hconfirm⟩, hasked contactId ?_⟩
    cases a with
    | key key ans => exact hconfirm.2.2.2
    | _ => exact hconfirm.elim

/-- The user asks for the first of two contacts after a restart, and confirms. -/
def asksForAlice : List (VaultLabel Unit) :=
  (registers ++ [presses 'x']).map .act ++ [.restart ⟨"http://localhost", "TLS", true, false⟩] ++
    (restores ++ [presses 'x']).map .act

theorem deletes_confirmed_alice : ∃ s s',
    Run.after (stepOrRestart .quiet) acquainted asksForAlice = some s ∧
    stepOrRestart .quiet s (.act (presses 'y')) = some s' ∧
    (∃ a, VaultLabel.act (presses 'y') = .act a ∧ s.ConfirmsDeletion "alice" a) ∧
      (Run.output (stepOrRestart .quiet) chatKeys acquainted asksForAlice).getLast? =
        some (some "alice") := by
  have hrun : ((Run.after (stepOrRestart .quiet) acquainted asksForAlice).map fun s =>
      s.db.contacts.rows.map StoredContact.userId) = some ["alice", "bob"] := by decide +kernel
  have hgone : ((Run.after (stepOrRestart .quiet) acquainted
      (asksForAlice ++ [.act (presses 'y')])).map fun s =>
      s.db.contacts.rows.map StoredContact.userId) = some ["bob"] := by decide +kernel
  obtain ⟨s, hs, hrows⟩ := Option.map_eq_some_iff.mp hrun
  obtain ⟨s', hs', hrows'⟩ := Option.map_eq_some_iff.mp hgone
  have hstep : stepOrRestart .quiet s (.act (presses 'y')) = some s' := by
    rw [Run.after_append, hs] at hs'
    obtain ⟨t, ht, hnil⟩ := Run.after_cons hs'
    exact ht.trans hnil
  obtain ⟨c, hc, hid⟩ := List.mem_map.mp (show "alice" ∈
    s.db.contacts.rows.map StoredContact.userId by rw [hrows]; decide)
  refine ⟨s, s', hs, hstep, deletes_confirmed hs hstep (.inl ⟨c, hc, hid, fun c' hc' hid' => ?_⟩)⟩
  have hmem : "alice" ∈ ["bob"] := hrows' ▸ List.mem_map.mpr ⟨c', hc', hid'⟩
  exact absurd hmem (by decide)

end Sys
