import ConstructTui.App.Inputs

/-!
# Inputs that edit the contacts

A contact is added when it accepted an invite or is selected among the results of a search, and it
is deleted when the user confirms that. Besides, the list is loaded when a pipeline is started, and
emptied by a logout. No other input touches the list on screen, the handles or the database.

## Main definitions

* `Sys.ConfirmsDeletion`: the step by which the user confirms the deletion of a contact.
* `App.adding`: the contact that an input adds.
* `App.Edit`: what an input does to the contacts.

## Main results

* `App.edit_handle`: every input makes one of these edits.
-/

variable {ε : Type}

/-- The user confirms that a contact is to be deleted. -/
def Sys.ConfirmsDeletion (s : Sys ε) (contactId : String) : Label ε → Prop
  | .key key _ => s.app.screen = .main ∧ key.isPress ∧
      (key.code = .char 'y' ∨ key.code = .char 'Y') ∧ s.app.deleteConfirm = some contactId
  | _ => False

instance (s : Sys ε) (contactId : String) :
    (a : Label ε) → Decidable (s.ConfirmsDeletion contactId a)
  | .key key _ => inferInstanceAs (Decidable (s.app.screen = .main ∧ key.isPress ∧
      (key.code = .char 'y' ∨ key.code = .char 'Y') ∧ s.app.deleteConfirm = some contactId))
  | .startup _ | .internal _ | .tick | .registrationStep _ _ | .request _ _ _ | .finish _ _ _
  | .worker _ _ | .relay _ | .take _ _ | .orchestrator _ | .subTask _ _ _ =>
    inferInstanceAs (Decidable False)

namespace App

/-- The contact that an input adds: whoever accepted an invite, or the selected result of a
search. -/
def adding (s : Sys ε) : Input → Option (String × String)
  | .key key =>
    if s.app.screen = .contactSearch ∧ key.isPress ∧
        (key.code = .enter ∨ key.code = .char 'a' ∧ key.modifiers = .control)
    then s.app.contactSearch.selected.map fun r => (r.userId, r.username) else none
  | .event (.inviteAccepted userId username) _ => some (userId, username)
  | .event _ _ => none

variable (E : AppExternals ε) (ans : Answers ε)

/-- The list, the handles and the database are left alone, or the input makes one of four edits. -/
inductive Edit (s : Sys ε) (input : Input) (s' : Sys ε) : Prop
  | kept (hlist : s'.app.chatList.contacts = s.app.chatList.contacts)
      (hhandles : s'.app.handles = s.app.handles) (hdb : s'.db = s.db)
  | started (h : Started E ans s s')
  | loggedOut (h : LoggedOut ans s s')
  | added (userId username : String) (hadd : adding s input = some (userId, username))
      (h : s' = finishAddContact ans userId username s)
  | deleted (contactId : String) (key : KeyEvent) (hinput : input = .key key)
      (hconfirm : s.ConfirmsDeletion contactId (.key key ans)) (h : s' = confirmDelete ans s)

theorem handle_of_adding {s : Sys ε} {input : Input} {userId username : String}
    (h : adding s input = some (userId, username)) :
    handle E ans s input = finishAddContact ans userId username s := by
  cases input with
  | key key =>
    rw [adding, Option.ite_none_right_eq_some] at h
    obtain ⟨⟨hscreen, hpress, hcode⟩, hselected⟩ := h
    obtain ⟨r, hr, heq⟩ := Option.map_eq_some_iff.mp hselected
    obtain ⟨rfl, rfl⟩ := Prod.mk.inj heq
    exact handleEvent_adds E ans hscreen hpress hcode hr
  | event event gone =>
    cases event with
    | inviteAccepted userId' username' =>
      obtain ⟨rfl, rfl⟩ := Prod.mk.inj (Option.some.inj h)
      rfl
    | _ => cases h

variable {E ans}

theorem Edit.of_still {s s' : Sys ε} {input : Input} (h : Still s s') : Edit E ans s input s' :=
  .kept (congrArg (fun t => t.chatList.contacts) h.talk) h.handles h.db

theorem contacts_of_talkMove {t t' : Talk} (h : TalkMove t t') :
    t'.chatList.contacts = t.chatList.contacts := by
  cases h with
  | navigate list hfocus hcontacts hvalid => exact hcontacts
  | _ => rfl

variable (E ans)

/-- Among the chats only a confirmed deletion edits the contacts. -/
theorem edit_handleMain {key : KeyEvent} {s : Sys ε} (hscreen : s.app.screen = .main)
    (hpress : key.isPress) : Edit E ans s (.key key) (handleMain ans key s) := by
  cases hask : s.app.deleteConfirm with
  | some contactId =>
    unfold handleMain
    rw [hask, Option.isSome_some, if_pos rfl]
    by_cases hcode : key.code = .char 'y' ∨ key.code = .char 'Y'
    · rw [if_pos (by simpa using hcode)]
      exact .deleted contactId key rfl ⟨hscreen, hpress, hcode, hask⟩ rfl
    · rw [if_neg (by simpa using hcode)]
      exact .kept rfl rfl rfl
  | none =>
    have hkept {t : Talk} (hlist : t.chatList.contacts = s.app.chatList.contacts)
        (htalk : (handleMain ans key s).talk = t) (hrest : Rest s (handleMain ans key s)) :
        Edit E ans s (.key key) (handleMain ans key s) :=
      .kept ((congrArg (fun t => t.chatList.contacts) htalk).trans hlist) hrest.handles hrest.db
    have hno {contactId : String} (h : s.app.deleteConfirm = some contactId) : False := by
      rw [hask] at h
      cases h
    cases change_handleMain ans hscreen hpress with
    | talked htalk hrest => exact hkept (contacts_of_talkMove htalk) rfl hrest
    | opened _ _ _ htalk hrest => exact hkept rfl htalk hrest
    | sent _ _ _ _ _ _ htalk hrest => exact hkept rfl htalk hrest
    | received _ _ _ _ _ _ htalk hrest => exact hkept rfl htalk hrest
    | added _ _ _ hinput =>
      obtain ⟨_, _, _, hinput⟩ | hsearch := hinput
      · cases hinput
      · exact Screen.noConfusion (hscreen.symm.trans hsearch)
    | deleteFailed _ _ _ hdelete => exact (hno hdelete).elim
    | deleted _ _ _ hdelete => exact (hno hdelete).elim

theorem edit_handleContactSearch {key : KeyEvent} {s : Sys ε}
    (hscreen : s.app.screen = .contactSearch) (hpress : key.isPress) :
    Edit E ans s (.key key) (handleContactSearch E ans key s) := by
  by_cases hcode : key.code = .enter ∨ key.code = .char 'a' ∧ key.modifiers = .control
  · cases hselected : s.app.contactSearch.selected with
    | none => exact .of_still (still_handleContactSearch E ans fun _ => hselected)
    | some r =>
      refine .added r.userId r.username ?_ (handleContactSearch_adds E ans hcode hselected)
      rw [adding, if_pos ⟨hscreen, hpress, hcode⟩, hselected]
      rfl
  · exact .of_still (still_handleContactSearch E ans fun h => absurd h hcode)

/-- Every input leaves the contacts alone or makes one of the edits. -/
theorem edit_handle (s : Sys ε) (input : Input) : Edit E ans s input (handle E ans s input) := by
  cases handle_move E ans s input with
  | started _ hmove => exact .started hmove
  | loggedOut _ hmove => exact .loggedOut hmove
  | changed hstart hlogout _ =>
    cases input with
    | key key =>
      show Edit E ans s (.key key) (handleEvent E ans key s)
      obtain hstill | ⟨hpress, ⟨hscreen, heq⟩ | ⟨hscreen, heq⟩⟩ :=
        handleEvent_cases E ans hstart hlogout
      · exact .of_still hstill
      · rw [heq]
        exact edit_handleMain E ans hscreen hpress
      · rw [heq]
        exact edit_handleContactSearch E ans hscreen hpress
    | event event gone =>
      show Edit E ans s (.event event gone) (handleInternal E ans event gone s)
      cases event with
      | bridge event =>
        cases event with
        | streamStatus connected => cases connected <;> exact .kept rfl rfl rfl
        | _ => exact .kept rfl rfl rfl
      | inviteAccepted userId username => exact .added userId username rfl rfl
      | _ => exact .of_still (still_handleInternal E ans hstart nofun nofun)

end App
