import ConstructTui.App.ContactList
import ConstructTui.App.Panes

/-!
# The window of the open conversation

The view shows as many messages as there are rows, ending as many messages before the last one as it
is scrolled. It can always be drawn, and there is something in it as long as it is not scrolled past
the first message. Scrolling stops there, and a message that arrives pushes the offset along. But
the offset also survives when other messages take the place of those on screen.

## Main definitions

* `ChatViewPane.visible`: the messages in the window.
* `ChatViewPane.Fits`, `ChatViewPane.WindowSound`: the view is not scrolled past the first message,
  and something is in the window.
* `Sys.refills`: what a step puts in place of the messages on screen.

## Main results

* `ChatViewPane.Fits.windowSound`: what fits is seen.
* `Sys.step_window`: every step refills the view, or keeps it fitting.
* `Sys.windowSound_iff`: the runs in which there is always something in the window.
* `Sys.blank_reopened`: a run to a conversation that is hidden.
-/

namespace ChatViewPane

/-- The slice of the messages that a pane with so many rows shows; none when its bounds are
wrong. -/
def visible (v : ChatViewPane) (msgAreaHeight : ℕ) : Option (List ChatMessage) :=
  let last := v.messages.length - v.scrollOffset
  let first := last - msgAreaHeight
  if first ≤ last ∧ last ≤ v.messages.length then some ((v.messages.take last).drop first)
  else none

/-- The view is not scrolled past the first message. -/
def Fits (v : ChatViewPane) : Prop := v.scrollOffset ≤ v.messages.length - 1

instance (v : ChatViewPane) : Decidable v.Fits := inferInstanceAs (Decidable (_ ≤ _))

/-- The view is not scrolled past the first message, and there is something in a window of any
height when there are messages. -/
structure WindowSound (v : ChatViewPane) : Prop where
  fits : v.Fits
  drawn : ∀ height, 1 ≤ height →
    ∃ shown, v.visible height = some shown ∧ (v.messages ≠ [] → shown ≠ [])

/-- The bounds of the window are always in order. -/
theorem visible_eq (v : ChatViewPane) (height : ℕ) : v.visible height =
    some ((v.messages.take (v.messages.length - v.scrollOffset)).drop
      (v.messages.length - v.scrollOffset - height)) :=
  if_pos ⟨Nat.sub_le _ _, Nat.sub_le _ _⟩

/-- The number of messages in the window. -/
theorem length_visible {v : ChatViewPane} {height : ℕ} {shown : List ChatMessage}
    (h : v.visible height = some shown) :
    shown.length = min height (v.messages.length - v.scrollOffset) := by
  obtain rfl := Option.some.inj ((visible_eq v height).symm.trans h)
  rw [List.length_drop, List.length_take]
  omega

namespace Fits

variable {v : ChatViewPane}

theorem windowSound (h : v.Fits) : v.WindowSound := by
  refine ⟨h, fun height hpos => ⟨_, v.visible_eq height, fun hne hnil => ?_⟩⟩
  have hcount := length_visible (v.visible_eq height)
  have hlen := List.length_pos_iff.mpr hne
  unfold Fits at h
  rw [hnil, List.length_nil] at hcount
  omega

theorem scrollUp (n : ℕ) : (v.scrollUp n).Fits := Nat.min_le_right _ _

theorem scrollDown (h : v.Fits) (n : ℕ) : (v.scrollDown n).Fits := (Nat.sub_le _ _).trans h

theorem scrollToTop : v.scrollToTop.Fits := Nat.le_refl _

theorem scrollToBottom : v.scrollToBottom.Fits := Nat.zero_le _

theorem push (h : v.Fits) (m : ChatMessage) : (v.push m).Fits := by
  unfold Fits at *
  simp only [ChatViewPane.push, List.length_append, List.length_singleton]
  omega

/-- A message that arrives moves the offset of a reader by one. -/
theorem onNewMessage_push (h : v.Fits) (m : ChatMessage) : (v.push m).onNewMessage.Fits := by
  unfold ChatViewPane.onNewMessage
  split
  · exact h.push m
  · next hne =>
    unfold Fits at *
    simp only [ChatViewPane.push, List.length_append, List.length_singleton] at hne ⊢
    omega

end Fits

end ChatViewPane

variable {ε : Type} {E : AppExternals ε} {ans : Answers ε}

namespace Sys

/-- A view that fits still fits. -/
def KeepsWindow (s s' : Sys ε) : Prop := s.app.chatView.Fits → s'.app.chatView.Fits

theorem KeepsWindow.of_view {s s' : Sys ε} (h : s'.app.chatView = s.app.chatView) :
    s.KeepsWindow s' := fun hs => h ▸ hs

/-- The same messages, or as many, at the same offset. -/
theorem KeepsWindow.of_shown {s s' : Sys ε}
    (hlength : s'.app.chatView.messages.length = s.app.chatView.messages.length)
    (hoffset : s'.app.chatView.scrollOffset = s.app.chatView.scrollOffset) : s.KeepsWindow s' := by
  intro hs
  unfold ChatViewPane.Fits at *
  rwa [hlength, hoffset]

theorem KeepsWindow.trans {s t u : Sys ε} (h : s.KeepsWindow t) (h' : t.KeepsWindow u) :
    s.KeepsWindow u := fun hs => h' (h hs)

/-- Deleting a contact empties the view when the contact is on screen, or is not listed twice. -/
def EmptiesView (s : Sys ε) (peerId : String) : Prop :=
  s.app.chatView.contactName = peerId ∨ s.app.chatList.ids.count peerId ≤ 1

instance (s : Sys ε) (peerId : String) : Decidable (s.EmptiesView peerId) :=
  inferInstanceAs (Decidable (_ ∨ _))

/-- The messages that a key among the chats puts in place of those on screen: the history of a
conversation that is opened, or none when a confirmed deletion empties the view. -/
def refillsMain (ans : Answers ε) (key : KeyEvent) (s : Sys ε) : Option (List ChatMessage) :=
  match s.app.deleteConfirm with
  | some peerId =>
    if (key.code = .char 'y' ∨ key.code = .char 'Y') ∧
        (App.deleteRows ans peerId s.answered).1 = .ok () ∧ s.EmptiesView peerId
    then some [] else none
  | none =>
    if s.app.focus = .contactList ∧ (key.code = .enter ∨ key.code = .tab)
    then s.app.chatList.selectedContact.map fun c => App.history ans c.id s else none

/-- The messages that a step puts in place of those on screen. -/
def refills (s : Sys ε) : Label ε → Option (List ChatMessage)
  | .key key ans => if s.app.screen = .main ∧ key.isPress then s.refillsMain ans key else none
  | _ => none

/-- What takes the place of the messages on screen is not shorter than the view is scrolled. -/
def RefillsFit (s : Sys ε) (a : Label ε) : Prop :=
  ∀ messages ∈ s.refills a, s.app.chatView.scrollOffset ≤ messages.length - 1

instance (s : Sys ε) (a : Label ε) : Decidable (s.RefillsFit a) :=
  inferInstanceAs (Decidable (∀ messages ∈ s.refills a, _ ≤ _))

/-- Other messages took the place of those on screen, or a view that fits still fits. -/
def Windowed (s s' : Sys ε) : Option (List ChatMessage) → Prop
  | some messages => s'.app.chatView.messages = messages ∧
      s'.app.chatView.scrollOffset = s.app.chatView.scrollOffset
  | none => s.KeepsWindow s'

theorem Windowed.fits_iff {s s' : Sys ε} {r : Option (List ChatMessage)} (h : s.Windowed s' r)
    (hs : s.app.chatView.Fits) : s'.app.chatView.Fits ↔
      ∀ messages ∈ r, s.app.chatView.scrollOffset ≤ messages.length - 1 := by
  cases r with
  | none => exact iff_of_true (h hs) nofun
  | some messages =>
    obtain ⟨hmessages, hoffset⟩ := h
    unfold ChatViewPane.Fits
    rw [hmessages, hoffset]
    simp

end Sys

open Sys (KeepsWindow Windowed)

namespace App

variable (E ans)

/-! ### Keys of the chat screens -/

theorem view_openConversation (c : Contact) (s : Sys ε) :
    (openConversation ans c s).app.chatView.messages = history ans c.id s ∧
      (openConversation ans c s).app.chatView.scrollOffset = s.app.chatView.scrollOffset := by
  simp [openConversation, Sys.modApp, history]

/-- Enter and Tab in the list open the conversation of the selected contact. -/
theorem windowed_handleContactListKey (key : KeyEvent) (s : Sys ε) :
    s.Windowed (handleContactListKey ans key s) (if key.code = .enter ∨ key.code = .tab
      then s.app.chatList.selectedContact.map fun c => history ans c.id s else none) := by
  by_cases hcode : key.code = .enter ∨ key.code = .tab
  · rw [if_pos hcode]
    unfold handleContactListKey
    cases s.app.chatList.selectedContact with
    | none => obtain hcode | hcode := hcode <;> rw [hcode] <;> exact KeepsWindow.of_shown rfl rfl
    | some c => obtain hcode | hcode := hcode <;> rw [hcode] <;> exact view_openConversation ans c s
  · rw [if_neg hcode]
    unfold handleContactListKey
    split
    · exact .of_view rfl
    · exact .of_view rfl
    · exact .of_view rfl
    · exact .of_view rfl
    · split
      · split <;> exact .of_view rfl
      · exact .of_view rfl
    · next henter => exact absurd (.inl henter) hcode
    · next htab => exact absurd (.inr htab) hcode
    · split <;> exact .of_view rfl
    · split <;> exact .of_view rfl
    · split <;> exact .of_view rfl
    · exact .of_view rfl

/-- The keys of the open conversation scroll it no further than to its first message. -/
theorem keepsWindow_handleChatViewKey (key : KeyEvent) (s : Sys ε) :
    s.KeepsWindow (handleChatViewKey key s) := by
  unfold handleChatViewKey
  dsimp only
  split
  · exact .of_shown rfl rfl
  · exact .of_shown rfl rfl
  · exact .of_shown rfl rfl
  · exact .of_shown rfl rfl
  · exact fun _ => .scrollUp 10
  · exact fun _ => .scrollUp 10
  · exact fun hs => hs.scrollDown 10
  · exact fun hs => hs.scrollDown 10
  · exact fun _ => .scrollUp 1
  · exact fun _ => .scrollUp 1
  · exact fun hs => hs.scrollDown 1
  · exact fun hs => hs.scrollDown 1
  · exact fun _ => .scrollToTop
  · exact fun _ => .scrollToBottom
  · exact .of_view rfl

/-- A message that is sent joins the view, which is not scrolled. -/
theorem keepsWindow_sendCompose (s : Sys ε) : s.KeepsWindow (sendCompose ans s) := by
  unfold sendCompose
  dsimp only
  split
  · exact .of_shown rfl rfl
  · have htaken : s.KeepsWindow
        (s.modApp fun a => { a with chatView := s.app.chatView.takeCompose.2 }) := .of_shown rfl rfl
    refine htaken.trans ?_
    split
    · intro hs
      simp only [Sys.modApp, Sys.app_orchSend]
      exact hs.push _
    · exact fun hs => hs.push _

theorem keepsWindow_handleComposeKey (key : KeyEvent) (s : Sys ε) :
    s.KeepsWindow (handleComposeKey ans key s) := by
  unfold handleComposeKey
  split
  · exact .of_shown rfl rfl
  · exact keepsWindow_sendCompose ans s
  · exact .of_shown rfl rfl
  · exact .of_shown rfl rfl
  · exact .of_view rfl

/-! ### Deletions -/

/-- Deleting rows leaves all that matters here alone. -/
theorem view_deleteRows (userId : String) (s : Sys ε) :
    (deleteRows ans userId s).2.app.chatView.contactName = s.app.chatView.contactName ∧
      (deleteRows ans userId s).2.app.chatView.scrollOffset = s.app.chatView.scrollOffset ∧
      (deleteRows ans userId s).2.app.chatView.messages.length =
        s.app.chatView.messages.length ∧
      (deleteRows ans userId s).2.app.chatList = s.app.chatList := by
  obtain h | ⟨-, -, h⟩ := deleteRows_cases ans userId s <;> rw [h]
  · exact ⟨rfl, rfl, rfl, rfl⟩
  · exact ⟨rfl, rfl, List.length_map _, rfl⟩

/-- Taking a contact out of the list empties the view, or leaves it alone. -/
theorem windowed_removeContact (peerId : String) (s : Sys ε) :
    s.Windowed (removeContact ans peerId s) (if s.EmptiesView peerId then some [] else none) := by
  obtain ⟨u, hu, v, hv, heq⟩ := removeContact_eq ans peerId s
  obtain ⟨hview, hids⟩ : u.app.chatView = s.app.chatView ∧
      u.app.chatList.ids = s.app.chatList.ids.erase peerId := by
    obtain ⟨hnone, rfl⟩ | ⟨i, hi, rfl⟩ := hu
    · rw [Sys.app_orchCommand, List.erase_of_not_mem (ChatListPane.not_mem_ids hnone)]
      exact ⟨rfl, rfl⟩
    · simp only [Sys.modApp, Sys.app_orchCommand]
      exact ⟨trivial, ChatListPane.ids_removeAt hi⟩
  have happ : v.app = u.app := by rw [hv, app_resubscribe]
  have hempties : (v.app.chatView.contactName = peerId ||
      v.app.chatList.contacts.all fun c => c.id ≠ peerId) = true ↔ s.EmptiesView peerId := by
    have hall : (∀ c ∈ u.app.chatList.contacts, c.id ≠ peerId) ↔ peerId ∉ u.app.chatList.ids := by
      simp [ChatListPane.ids]
    unfold Sys.EmptiesView
    rw [happ, hview, Bool.or_eq_true, decide_eq_true_iff, List.all_eq_true]
    simp only [decide_eq_true_eq]
    rw [hall, hids, ← List.count_eq_zero, List.count_erase_self]
    exact or_congr_right (by omega)
  rw [heq]
  by_cases hs : s.EmptiesView peerId
  · rw [if_pos hs, if_pos (hempties.mpr hs)]
    refine ⟨rfl, ?_⟩
    show v.app.chatView.scrollOffset = s.app.chatView.scrollOffset
    rw [happ, hview]
  · rw [if_neg hs, if_neg (mt hempties.mp hs)]
    refine KeepsWindow.of_view ?_
    show v.app.chatView = s.app.chatView
    rw [happ, hview]

theorem windowed_confirmDelete {peerId : String} {s : Sys ε}
    (hask : s.app.deleteConfirm = some peerId) : s.Windowed (confirmDelete ans s)
      (if (deleteRows ans peerId s.answered).1 = .ok () ∧ s.EmptiesView peerId
        then some [] else none) := by
  obtain ⟨hname, hoffset, hlength, hlist⟩ := view_deleteRows ans peerId s.answered
  unfold confirmDelete
  rw [hask]
  dsimp only
  split
  · next e t hrows =>
    have hrows : deleteRows ans peerId s.answered = (.error e, t) := hrows
    rw [hrows] at hoffset hlength ⊢
    rw [if_neg (by simp)]
    exact KeepsWindow.of_shown hlength hoffset
  · next t hrows =>
    have hrows : deleteRows ans peerId s.answered = (.ok (), t) := hrows
    rw [hrows] at hname hoffset hlength hlist ⊢
    have hempties : t.EmptiesView peerId ↔ s.EmptiesView peerId := by
      unfold Sys.EmptiesView
      rw [hname, hlist]
      rfl
    have hremoved := windowed_removeContact ans peerId t
    by_cases hs : s.EmptiesView peerId
    · rw [if_pos (hempties.mpr hs)] at hremoved
      rw [if_pos ⟨rfl, hs⟩]
      exact ⟨hremoved.1, hremoved.2.trans hoffset⟩
    · rw [if_neg (mt hempties.mp hs)] at hremoved
      rw [if_neg fun h => hs h.2]
      exact (KeepsWindow.of_shown hlength hoffset).trans hremoved

/-! ### Every input -/

theorem windowed_handleMain (key : KeyEvent) (s : Sys ε) :
    s.Windowed (handleMain ans key s) (s.refillsMain ans key) := by
  unfold Sys.refillsMain handleMain
  cases hask : s.app.deleteConfirm with
  | some peerId =>
    rw [if_pos (Option.isSome_some (a := peerId))]
    dsimp only
    by_cases hcode : key.code = .char 'y' ∨ key.code = .char 'Y'
    · rw [if_pos (by simpa using hcode)]
      simp only [hcode, true_and]
      exact windowed_confirmDelete ans hask
    · rw [if_neg (by simpa using hcode), if_neg fun h => hcode h.1]
      exact KeepsWindow.of_view rfl
  | none =>
    rw [if_neg (by simp)]
    dsimp only
    split
    · next hquit =>
      rw [if_neg]
      · exact KeepsWindow.of_view rfl
      · rintro ⟨-, hcode | hcode⟩ <;> simp [isQuit, hcode] at hquit
    · cases hfocus : s.app.focus with
      | contactList =>
        simp only [true_and]
        exact windowed_handleContactListKey ans key s
      | chatView => exact keepsWindow_handleChatViewKey key s
      | compose => exact keepsWindow_handleComposeKey ans key s

theorem view_finishAddContact (userId username : String) (s : Sys ε) :
    (finishAddContact ans userId username s).app.chatView = s.app.chatView := by
  obtain ⟨t, u, ht, -, happ, heq⟩ := finishAddContact_eq ans userId username s
  rw [heq]
  show u.app.chatView = s.app.chatView
  rw [happ, ht]

theorem view_handleContactSearch (key : KeyEvent) (s : Sys ε) :
    (handleContactSearch E ans key s).app.chatView = s.app.chatView := by
  have hadd : (addSelectedSearchResult ans s).app.chatView = s.app.chatView := by
    unfold addSelectedSearchResult
    split
    · rfl
    · exact view_finishAddContact ans _ _ s
  have hsubmit : (submitContactSearch E ans s).app.chatView = s.app.chatView := by
    unfold submitContactSearch
    dsimp only
    split
    · unfold redeemPastedInvite
      split
      · rfl
      · split <;> rfl
    · split <;> rfl
  unfold handleContactSearch
  dsimp only
  split
  · rfl
  · rfl
  · rfl
  · rfl
  · rfl
  · split
    · exact hadd
    · exact hsubmit
  · rfl
  · split
    · exact hadd
    · rfl
  · rfl

/-- A logout opens a new view. -/
theorem keepsWindow_handleSettings (key : KeyEvent) (s : Sys ε) :
    s.KeepsWindow (handleSettings E ans key s) := by
  obtain hapart | hlogout := settings_cases E ans key s
  · exact .of_view hapart.view
  · rw [hlogout]
    unfold doLogout
    split
    · exact .of_view rfl
    · exact fun _ => Nat.zero_le _

/-- Only the keys among the chats refill the view. -/
theorem windowed_handleEvent (key : KeyEvent) (s : Sys ε) :
    s.Windowed (handleEvent E ans key s) (s.refills (.key key ans)) := by
  have hnone {t : Sys ε} (hrefills : s.refills (.key key ans) = none) (hkeeps : s.KeepsWindow t) :
      s.Windowed t (s.refills (.key key ans)) := hrefills ▸ hkeeps
  have hscreen (h : s.app.screen ≠ .main) : s.refills (.key key ans) = none :=
    if_neg fun hmain => h hmain.1
  unfold handleEvent
  split
  · next hpress =>
    exact hnone (if_neg fun hmain => by simp [hmain.2] at hpress) (.of_view rfl)
  · next hpress =>
    split
    · next hctrl =>
      refine hnone ?_ (.of_view rfl)
      have hcode : key.code = .char 'c' := by simpa using (Bool.and_eq_true_iff.mp hctrl).1
      have hmain : s.refillsMain ans key = none := by
        unfold Sys.refillsMain
        split <;> exact if_neg (by simp [hcode])
      show (if s.app.screen = .main ∧ key.isPress then s.refillsMain ans key else none) = none
      rw [hmain, ite_self]
    · split <;> rename_i hs
      · exact hnone (hscreen (by simp [hs])) (.of_view rfl)
      · exact hnone (hscreen (by simp [hs])) (.of_view rfl)
      · exact hnone (hscreen (by simp [hs])) (.of_view rfl)
      · refine hnone (hscreen (by simp [hs])) ?_
        split <;> exact .of_view rfl
      · exact hnone (hscreen (by simp [hs])) (.of_view (apart_handleUnlock E ans key s).view)
      · exact hnone (hscreen (by simp [hs])) (.of_view (apart_handleSetPassphrase E ans key s).view)
      · exact hnone (hscreen (by simp [hs])) (.of_view (apart_handleOnboarding key s).view)
      · exact hnone (hscreen (by simp [hs])) (.of_view (apart_handleDeviceLink key s).view)
      · have hrefills : s.refills (.key key ans) = s.refillsMain ans key :=
          if_pos ⟨hs, by simpa using hpress⟩
        rw [hrefills]
        exact windowed_handleMain ans key s
      · exact hnone (hscreen (by simp [hs])) (keepsWindow_handleSettings E ans key s)
      · exact hnone (hscreen (by simp [hs])) (.of_view (view_handleContactSearch E ans key s))
      · exact hnone (hscreen (by simp [hs])) (.of_view rfl)
      · exact hnone (hscreen (by simp [hs])) (.of_view rfl)

theorem keepsWindow_handleBridgeEvent (event : BridgeEvent) (gone : Bool) (s : Sys ε) :
    s.KeepsWindow (handleBridgeEvent ans event gone s) := by
  cases event with
  | newMessage peerId messageId text timestampMs => exact fun hs => hs.onNewMessage_push _
  | streamStatus connected => cases connected <;> exact .of_view rfl
  | _ => exact .of_view rfl

theorem keepsWindow_handleInternal (event : InternalEvent) (gone : Bool) (s : Sys ε) :
    s.KeepsWindow (handleInternal E ans event gone s) := by
  cases event with
  | auth msg =>
    unfold handleInternal
    dsimp only
    refine .trans ?_ (.of_view (apart_handleAuthMsg E ans msg _).view)
    split <;> exact .of_view rfl
  | tokenRefresh msg => exact .of_view (apart_handleTokenRefreshMsg ans msg s).view
  | bridge event => exact keepsWindow_handleBridgeEvent ans event gone s
  | inviteAccepted userId username => exact .of_view (view_finishAddContact ans userId username s)
  | tick =>
    unfold handleInternal
    dsimp only
    split <;> exact .of_view rfl
  | streamAuthRequired => exact .of_view (apart_refreshTokenNow s).view
  | p2pStatus peerId connected latencyMs isRelay =>
    exact .of_view (apart_handleP2pStatus peerId connected latencyMs isRelay s).view
  | contactSearchResult results => exact .of_view rfl
  | contactSearchError msg => exact .of_view rfl
  | registrationStep reached => exact .of_view rfl

end App

namespace Sys

/-! ### Runs -/

/-- A step refills the view, or keeps it fitting. -/
theorem step_window {s s' : Sys ε} {a : Label ε} (h : step E s a = some s') :
    s.Windowed s' (s.refills a) := by
  cases stepped h with
  | startup => exact KeepsWindow.of_view (App.apart_startupCheck _ s).view
  | @key key ans => exact App.windowed_handleEvent E ans key s
  | @internal ans q queue _ _ =>
    exact KeepsWindow.trans (t := { s with queue := queue }) (.of_view rfl)
      (App.keepsWindow_handleInternal E ans q.event q.gone _)
  | _ => exact KeepsWindow.of_view (congrArg App.chatView (app_of_beside rfl h))

/-- Something is in the window of the open conversation when there are messages. -/
def WindowSound (s : Sys ε) : Prop := s.app.chatView.WindowSound

/-- **There is something in the window throughout exactly the runs in which the messages that take
the place of others are not fewer than the view is scrolled.** -/
theorem windowSound_iff (E : AppExternals ε) {cfg : AppConfig} {dir : ConfigDir} {db : Storage}
    {as : List (Label ε)} {s : Sys ε} (h : Run.after (step E) (start ε cfg dir db) as = some s) :
    Run.Always (step E) WindowSound (start ε cfg dir db) as ↔
      Run.Along (step E) RefillsFit (start ε cfg dir db) as := by
  have hstart : (start ε cfg dir db).app.chatView.Fits := Nat.zero_le _
  refine Run.always_iff_along (I := fun s : Sys ε => s.app.chatView.Fits)
    (fun _ hs => hs.windowSound) (fun _ _ _ hs hstep => ((step_window hstep).fits_iff hs).mpr)
    (fun _ _ _ hs hstep hsound => ((step_window hstep).fits_iff hs).mp hsound.fits) hstart h

/-- The user writes a letter and sends it. -/
def writesLetter : List (Label Unit) := [presses 'h', .key (.plain .enter) .quiet]

/-- The user writes twice to the second contact, and scrolls back by one message. -/
def scrollsBack : List (Label Unit) :=
  registers ++ opensSecond ++ [presses 'i'] ++ writesLetter ++ writesLetter ++
    [.key (.plain .esc) .quiet, presses 'k']

theorem window_scrolled_back : Run.Always (step .quiet) WindowSound acquainted scrollsBack := by
  have h : Run.after (step .quiet) acquainted scrollsBack =
      some (Run.ending (step .quiet) acquainted scrollsBack) :=
    Run.after_ending_nil (by decide +kernel)
  exact (windowSound_iff .quiet h).mpr (by decide +kernel)

/-- The user opens the conversation again, and writes once more. -/
def writesOn : List (Label Unit) :=
  [.key (.plain .esc) .quiet, .key (.plain .enter) .quiet, presses 'i'] ++ writesLetter

/-- The conversation that is opened again stays scrolled back: what is written then is not shown, in
a pane of any height. -/
theorem blank_reopened :
    ¬Run.Always (step .quiet) WindowSound acquainted (scrollsBack ++ writesOn) ∧
    ∃ s, Run.after (step .quiet) acquainted (scrollsBack ++ writesOn) = some s ∧
      s.app.chatView.messages.length = 1 ∧ ∀ height, s.app.chatView.visible height = some [] := by
  let s := Run.ending (step .quiet) acquainted (scrollsBack ++ writesOn)
  have hs : Run.after (step .quiet) acquainted (scrollsBack ++ writesOn) = some s :=
    Run.after_ending_nil (by decide +kernel)
  have hview : s.app.chatView.messages.length = 1 ∧ s.app.chatView.scrollOffset = 1 := by
    decide +kernel
  refine ⟨fun h => ?_, s, hs, hview.1, fun height => ?_⟩
  · have hfits : s.app.chatView.Fits := (h _ s (List.prefix_refl _) hs).fits
    unfold ChatViewPane.Fits at hfits
    omega
  · rw [ChatViewPane.visible_eq, hview.1, hview.2, Nat.sub_self, List.take_zero, List.drop_nil]

end Sys
