import ConstructTui.App.Runs

/-!
# Who a typed message goes to

A message typed in the compose box goes to the contact selected in the list, while the view shows
the conversation that was opened. While the focus is off the list the two agree, unless the list
changes under the user: a reload selects its first contact, and a contact added to an empty list is
selected.

## Main definitions

* `Sys.SendsToOpened`: what Enter in the compose box does in a state.
* `Talk.Agrees`: the selected contact is the one whose conversation is open.
* `Sys.KeepsRecipient`: the steps that do not change the list under the user.

## Main results

* `Sys.sends_to_opened`: a run of such steps always sends to the open conversation.
* `Sys.reload_changes_recipient`: a run that sends to somebody else.
-/

variable {ε : Type} {E : AppExternals ε} {ans : Answers ε}

/-- The events that a typed text becomes when it is meant for a contact. -/
def Sys.outgoing (ans : Answers ε) (s : Sys ε) : Option String → List IncomingEvent
  | some contactId =>
    [.outgoingMessage contactId ans.messageId
      (Utf8.encode (String.ofList s.app.chatView.compose)) 0]
  | none => []

/-- In the compose box Enter sends a text that is not blank to the contact whose conversation is
open, over the pipeline the app holds, and to nobody else. -/
def Sys.SendsToOpened (E : AppExternals ε) (s : Sys ε) : Prop :=
  s.app.screen = .main → s.app.focus = .compose →
    ∀ ans key, key.isPress → key.code = .enter → trimChars s.app.chatView.compose ≠ [] → ∀ i,
      ((App.handleEvent E ans key s).pipelines[i]?).map (fun p => p.world.selfTx) =
        (s.pipelines[i]?).map fun p => p.world.selfTx ++
          if s.app.orchHandle = some i then s.outgoing ans s.opened else []

/-! ### What Enter sends -/

theorem selfTx_orchSend (s : Sys ε) (handle : Option ℕ) (event : IncomingEvent) (i : ℕ) :
    ((s.orchSend handle event).pipelines[i]?).map (fun p => p.world.selfTx) =
      (s.pipelines[i]?).map fun p => p.world.selfTx ++ if handle = some i then [event] else [] := by
  cases handle with
  | none => simp [Sys.orchSend]
  | some j =>
    simp only [Sys.orchSend, List.getElem?_modify, Option.some.injEq]
    cases s.pipelines[i]? with
    | none => rfl
    | some p => by_cases hij : j = i <;> simp [hij]

/-- Enter sends to the contact selected in the list. -/
theorem selfTx_sendCompose {s : Sys ε} (hblank : trimChars s.app.chatView.compose ≠ []) (i : ℕ) :
    ((App.sendCompose ans s).pipelines[i]?).map (fun p => p.world.selfTx) =
      (s.pipelines[i]?).map fun p => p.world.selfTx ++
        if s.app.orchHandle = some i then
          s.outgoing ans (s.app.chatList.selectedContact.map Contact.id) else [] := by
  have hblank' : trimChars s.app.chatView.takeCompose.1.toList ≠ [] := by
    simpa [ChatViewPane.takeCompose] using hblank
  unfold App.sendCompose
  dsimp only
  rw [if_neg hblank']
  cases hsel : s.app.chatList.selectedContact with
  | none =>
    simp [Sys.modApp, hsel, Sys.outgoing]
  | some c =>
    have hsend := selfTx_orchSend (s.modApp fun a =>
      { a with chatView := s.app.chatView.takeCompose.2 }) s.app.orchHandle
        (.outgoingMessage c.id ans.messageId (Utf8.encode s.app.chatView.takeCompose.1) 0) i
    simp only [Sys.modApp, hsel]
    exact hsend

/-! ### The invariant -/

/-- While the focus is off the list, the selected contact is the one whose conversation is open. -/
structure Talk.Agrees (t : Talk) : Prop where
  valid : t.chatList.Valid
  empty : t.chatList.contacts = [] → t.opened = none
  agrees : t.focus ≠ .contactList → t.selected.map Contact.id = t.opened
  asked : t.deleteConfirm.isSome → t.focus = .contactList

theorem Talk.Agrees.sendsToOpened {s : Sys ε} (h : s.talk.Agrees) : s.SendsToOpened E := by
  intro hscreen hfocus ans key hpress hcode hblank i
  have hask : s.app.deleteConfirm = none := by
    cases hd : s.app.deleteConfirm with
    | none => rfl
    | some peerId =>
      have hlist : s.app.focus = .contactList :=
        h.asked (show s.app.deleteConfirm.isSome = true by rw [hd]; rfl)
      rw [hfocus] at hlist
      cases hlist
  have hsel : s.app.chatList.selectedContact.map Contact.id = s.opened :=
    h.agrees (show s.app.focus ≠ .contactList by simp [hfocus])
  have heq : App.handleEvent E ans key s = App.sendCompose ans s := by
    simp [App.handleEvent, hpress, hcode, hscreen, App.handleMain, hask, isQuit, hfocus,
      App.handleComposeKey]
  rw [heq, selfTx_sendCompose hblank, hsel]

/-- A reload does not select another contact than the one whose conversation is open, and no
contact is added to an empty list, while the focus is off the list; the list is not reloaded empty
beside an open conversation. -/
def Sys.KeepsRecipient (E : AppExternals ε) (s : Sys ε) (a : Label ε) : Prop :=
  ∀ ans input, s.Takes a ans input →
    (Starts E ans s input → ∀ stored, App.storedContacts ans s = some stored →
      s.app.focus ≠ .contactList ∨ stored = [] →
        stored.head?.map StoredContact.userId = s.opened) ∧
    ((∃ userId username gone, input = .event (.inviteAccepted userId username) gone) ∨
        s.app.screen = .contactSearch →
      s.app.chatList.contacts = [] → s.app.focus = .contactList)

namespace Talk.Agrees

theorem talkMove {t t' : Talk} (h : t.Agrees) (hmove : TalkMove t t') : t'.Agrees := by
  cases hmove with
  | same => exact h
  | navigate list hfocus hcontacts hvalid =>
    exact ⟨hvalid h.valid, fun hnil => h.empty (hcontacts ▸ hnil), fun hf => absurd hfocus hf,
      h.asked⟩
  | ask contactId hfocus => exact ⟨h.valid, h.empty, h.agrees, fun _ => hfocus⟩
  | cancel => exact ⟨h.valid, h.empty, h.agrees, fun hd => by cases hd⟩
  | focus f b hfocus hask =>
    refine ⟨h.valid, h.empty, fun hf => ?_, fun hd => by simp [hask] at hd⟩
    rcases hfocus hf with hfocus | hsel
    · exact h.agrees hfocus
    · have hnil := h.valid.selectedContact_eq_none.mp hsel
      show t.selected.map Contact.id = t.opened
      rw [hsel, h.empty hnil]
      rfl

/-- Removing a contact while the focus is on the list keeps the agreement if the open conversation
is one of a contact that is left. -/
theorem remove {t : Talk} (h : t.Agrees) (hfocus : t.focus = .contactList) {list : ChatListPane}
    (hlist : list = t.chatList ∨ ∃ i, list = t.chatList.removeAt i) {opened : Option String}
    (hopened : list.contacts = [] → opened = none) (messages : List ChatMessage) :
    Talk.Agrees ⟨list, messages, t.focus, none, opened⟩ where
  valid := by
    obtain rfl | ⟨i, rfl⟩ := hlist
    · exact h.valid
    · exact h.valid.removeAt i
  empty := hopened
  agrees hf := absurd hfocus hf
  asked hd := by cases hd

theorem change {s s' : Sys ε} {input : Input} (h : s.talk.Agrees) (hmove : Change ans s input s')
    (hadd : (∃ userId username gone, input = .event (.inviteAccepted userId username) gone) ∨
        s.app.screen = .contactSearch →
      s.app.chatList.contacts = [] → s.app.focus = .contactList) : s'.talk.Agrees := by
  cases hmove with
  | talked htalk hrest => exact h.talkMove htalk
  | opened c hask hsel htalk hrest =>
    rw [htalk]
    refine ⟨h.valid, fun hnil => ?_, fun _ => ?_,
      fun hd => by simp [Sys.talk, App.talk, hask] at hd⟩
    · have hnone := h.valid.selectedContact_eq_none.mpr hnil
      rw [Talk.selected, hnone] at hsel
      cases hsel
    · exact congrArg (Option.map Contact.id) hsel
  | sent text hfocus hask htext hblank hinput htalk hrest =>
    rw [htalk]
    exact ⟨h.valid, h.empty, h.agrees, h.asked⟩
  | received peerId messageId text timestampMs gone hinput htalk hrest =>
    rw [htalk]
    exact ⟨h.valid, h.empty, h.agrees, h.asked⟩
  | added contact db hdb hinput htalk hrest =>
    rw [htalk]
    refine ⟨h.valid.addContact contact, fun hnil => ?_, fun hf => ?_, h.asked⟩
    · simp [ChatListPane.addContact] at hnil
    · have hne : s.app.chatList.contacts ≠ [] := fun hnil => hf (hadd hinput hnil)
      have hsel := h.valid.selectedContact_addContact hne contact
      exact (congrArg (Option.map Contact.id) hsel).trans (h.agrees hf)
  | deleteFailed peerId e base hask hrows htalk hrest =>
    have hfocus : s.app.focus = .contactList := h.asked (Option.isSome_iff_exists.mpr ⟨_, hask⟩)
    obtain ⟨messages, hbase, -⟩ := App.talk_deleteRows ans peerId s.answered
    rw [hrows] at hbase
    rw [htalk, hbase]
    exact h.remove hfocus (.inl rfl) h.empty messages
  | deleted peerId base list hask hrows hlist htalk hrest =>
    have hfocus : s.app.focus = .contactList := h.asked (Option.isSome_iff_exists.mpr ⟨_, hask⟩)
    obtain ⟨messages, hbase, -⟩ := App.talk_deleteRows ans peerId s.answered
    rw [hrows] at hbase
    obtain ⟨htalk, hne⟩ | htalk := htalk
    · rw [htalk, hbase]
      exact h.remove hfocus hlist (fun hnil => absurd hnil hne) messages
    · rw [htalk, hbase]
      refine h.remove hfocus hlist (fun hnil => ?_) []
      simp [ChatListPane.selectedContact, hnil]

end Talk.Agrees

namespace Sys

theorem agrees_start (cfg : AppConfig) (dir : ConfigDir) (db : Storage) :
    (start ε cfg dir db).talk.Agrees :=
  ⟨ChatListPane.valid_new, fun _ => rfl, fun hf => absurd rfl hf, fun hd => by cases hd⟩

/-- A step that leaves the list under the user alone keeps the agreement. -/
theorem agrees_step {s s' : Sys ε} {a : Label ε} (h : s.talk.Agrees) (hG : s.KeepsRecipient E a)
    (hs : step E s a = some s') : s'.talk.Agrees := by
  obtain ⟨ans, input, queue, ha, hmove⟩ | ⟨-, haside⟩ := step_cases hs
  · obtain ⟨hreload, hadd⟩ := hG ans input ha
    cases hmove with
    | started hinput hmove =>
      rw [hmove.talk, App.chatList_loadContacts]
      cases hstored : App.storedContacts ans s with
      | none =>
        have hstored' : App.storedContacts ans { s with queue := queue } = none := hstored
        rw [hstored']
        exact ⟨h.valid, h.empty, h.agrees, h.asked⟩
      | some stored =>
        have hstored' : App.storedContacts ans { s with queue := queue } = some stored := hstored
        have hkeep := hreload hinput stored hstored
        rw [hstored']
        refine ⟨.setContacts _, fun hnil => ?_, fun hf => ?_, h.asked⟩
        · have hnil : stored = [] := List.map_eq_nil_iff.mp hnil
          have hhead := hkeep (.inr hnil)
          rw [hnil] at hhead
          exact hhead.symm
        · have hhead := hkeep (.inl hf)
          show ((s.app.chatList.setContacts (stored.map App.contactOf)).selectedContact).map
            Contact.id = s.opened
          rw [ChatListPane.selectedContact_setContacts, ← hhead, List.head?_map, Option.map_map]
          rfl
    | loggedOut hinput hmove =>
      rw [hmove.talk]
      refine ⟨ChatListPane.valid_new, fun _ => rfl, fun _ => rfl, h.asked⟩
    | changed hstart hlogout hmove =>
      exact Talk.Agrees.change (s := { s with queue := queue }) h hmove hadd
  · rw [haside.talk]
    exact h

/-- In a run that leaves the list under the user alone, whatever is typed goes to the contact whose
conversation is open, and to nobody else. -/
theorem sends_to_opened (E : AppExternals ε) (cfg : AppConfig) (dir : ConfigDir) (db : Storage)
    {as : List (Label ε)} (h : Run.Along (step E) (fun t a => t.KeepsRecipient E a)
      (start ε cfg dir db) as) :
    Run.Always (step E) (fun t => t.SendsToOpened E) (start ε cfg dir db) as := by
  have hagrees : Run.Always (step E) (fun t => t.talk.Agrees) (start ε cfg dir db) as :=
    Run.always_of_along (fun _ _ _ hI hG hs => agrees_step hI hG hs) (agrees_start cfg dir db) h
  exact fun bs t hbs ht => (hagrees bs t hbs ht).sendsToOpened

/-- Steps that cannot change the list under the user. -/
def leavesList (s : Sys ε) : Label ε → Bool
  | .key _ _ => s.app.screen ≠ .setPassphrase && s.app.screen ≠ .contactSearch
  | .internal _ => s.app.focus = .contactList && !s.db.getContacts.isEmpty
  | _ => true

theorem keepsRecipient_of_leavesList {s : Sys ε} {a : Label ε} (h : s.leavesList a) :
    s.KeepsRecipient E a := by
  intro ans input ha
  cases ha with
  | key key ans =>
    obtain ⟨hpass, hsearch⟩ : s.app.screen ≠ .setPassphrase ∧ s.app.screen ≠ .contactSearch := by
      simpa [leavesList] using h
    refine ⟨fun hstart => absurd hstart.1 hpass, ?_⟩
    rintro (⟨_, _, _, hinput⟩ | hscreen)
    · cases hinput
    · exact absurd hscreen hsearch
  | event ans hqueue =>
    obtain ⟨hfocus, hdb⟩ : s.app.focus = .contactList ∧ s.db.getContacts ≠ [] := by
      simpa [leavesList] using h
    refine ⟨fun _ stored hstored hcase => ?_, fun _ _ => hfocus⟩
    unfold App.storedContacts at hstored
    split at hstored
    · cases hstored
    · obtain rfl := Option.some.inj hstored
      rcases hcase with hcase | hcase
      · exact absurd hfocus hcase
      · exact absurd hcase hdb

/-- The user opens a conversation and starts to type. -/
def types : List (Label Unit) :=
  opensSecond ++ [.key (.plain .tab) .quiet, .key (.plain (.char 'h')) .quiet]

theorem typed_text_goes_to_opened :
    Run.Always (step .quiet) (fun t => t.SendsToOpened .quiet) acquainted (registers ++ types) := by
  have h : Run.Along (step .quiet) (fun t a => t.leavesList a) acquainted (registers ++ types) := by
    decide
  exact sends_to_opened .quiet _ _ _ (h.mono fun _ _ => keepsRecipient_of_leavesList)

/-- The list is reloaded while the user types a message for the second contact: it goes to the
first. -/
theorem reload_changes_recipient :
    ¬Run.Always (step .quiet) (fun t => t.SendsToOpened .quiet) acquainted
      (registers ++ types ++ reauthenticates) := by
  intro h
  have hrun : (Run.after (step .quiet) acquainted (registers ++ types ++ reauthenticates)).map
      (fun s => ((s.app.screen, s.app.focus), s.app.chatView.compose, s.opened,
        ((App.handleEvent .quiet .quiet (.plain .enter) s).pipelines[1]?).map
          (fun p => p.world.selfTx),
        (s.pipelines[1]?).map fun p => p.world.selfTx ++
          if s.app.orchHandle = some 1 then s.outgoing .quiet s.opened else [])) =
      some ((.main, .compose), ['h'], some "bob",
        some [.appLaunched, .outgoingMessage "alice" "m" [104] 0],
        some [.appLaunched, .outgoingMessage "bob" "m" [104] 0]) := rfl
  obtain ⟨s, hs, heq⟩ := Option.map_eq_some_iff.mp hrun
  simp only [Prod.mk.injEq] at heq
  obtain ⟨⟨hscreen, hfocus⟩, hcompose, -, hsent, hwanted⟩ := heq
  have hmeant := h _ s (List.prefix_refl _) hs hscreen hfocus .quiet (.plain .enter) rfl rfl
    (by rw [hcompose]; decide) 1
  rw [hsent, hwanted] at hmeant
  exact absurd hmeant (by decide)

end Sys
