import ConstructTui.App.Handlers

/-!
# Handlers beside the panes

The search box and the open conversation are edited by the keys of their own screens, by messages
and search results that arrive, by a contact that is added, and by a logout. Whatever else the app
does leaves both alone.

## Main definitions

* `Sys.Apart`: both panes are left alone, and the search is not put on screen.

## Main results

* `App.settings_cases`: a key of the settings leaves the panes alone, or logs out.
* `App.apart_handleAuthMsg`, `App.apart_handleTokenRefreshMsg`: so does what the server answers.
-/

variable {ε : Type} {E : AppExternals ε} {ans : Answers ε}

/-- The search box and the open conversation are left alone, and the search is not put on screen. -/
structure Sys.Apart (s s' : Sys ε) : Prop where
  view : s'.app.chatView = s.app.chatView
  search : s'.app.contactSearch = s.app.contactSearch
  screen : s'.app.screen = .contactSearch → s.app.screen = .contactSearch

namespace Sys.Apart

variable {s t u : Sys ε}

theorem of_app (h : t.app = s.app) : s.Apart t := by
  refine ⟨?_, ?_, ?_⟩ <;> rw [h]
  exact id

theorem refl (s : Sys ε) : s.Apart s := of_app rfl

theorem trans (h : s.Apart t) (h' : t.Apart u) : s.Apart u :=
  ⟨h'.view.trans h.view, h'.search.trans h.search, fun hu => h.screen (h'.screen hu)⟩

theorem setScreen {screen : Screen} (h : screen ≠ .contactSearch) : s.Apart (s.setScreen screen) :=
  ⟨rfl, rfl, fun hscreen => absurd hscreen h⟩

end Sys.Apart

namespace App

variable (E ans)

/-! ### Keys before there is a session -/

theorem apart_startupCheck (s : Sys ε) : s.Apart (startupCheck ans s) := by
  unfold startupCheck
  dsimp only
  split <;> exact ⟨rfl, rfl, nofun⟩

theorem apart_handleOnboarding (key : KeyEvent) (s : Sys ε) :
    s.Apart (handleOnboarding key s) := by
  unfold handleOnboarding
  split
  · exact ⟨rfl, rfl, nofun⟩
  · exact ⟨rfl, rfl, nofun⟩
  · exact ⟨rfl, rfl, nofun⟩
  · exact ⟨rfl, rfl, id⟩
  · split <;> exact ⟨rfl, rfl, id⟩
  · exact .refl s

theorem apart_unlock (passphrase : Bytes) (s : Sys ε) : s.Apart (unlock E ans passphrase s) := by
  unfold unlock
  dsimp only
  split
  · exact ⟨rfl, rfl, id⟩
  · split
    · split
      · exact ⟨rfl, rfl, nofun⟩
      · exact ⟨rfl, rfl, id⟩
      · exact ⟨rfl, rfl, id⟩
    · exact ⟨rfl, rfl, id⟩
    · exact ⟨rfl, rfl, id⟩

theorem apart_handleUnlock (key : KeyEvent) (s : Sys ε) :
    s.Apart (handleUnlock E ans key s) := by
  unfold handleUnlock
  cases key.code with
  | backspace => exact ⟨rfl, rfl, id⟩
  | char c => exact ⟨rfl, rfl, id⟩
  | enter =>
    dsimp only
    split
    · exact ⟨rfl, rfl, id⟩
    · have htaken : s.Apart (s.modApp fun a =>
          { a with unlockScreen := s.app.unlockScreen.takePassphrase.2 }) := ⟨rfl, rfl, id⟩
      exact htaken.trans (apart_unlock E ans _ _)
  | _ => exact .refl s

theorem apart_handleDeviceLink (key : KeyEvent) (s : Sys ε) :
    s.Apart (handleDeviceLink key s) := by
  unfold handleDeviceLink
  split
  · split
    · exact .setScreen nofun
    · exact .refl s
  · dsimp only
    split
    · exact ⟨rfl, rfl, id⟩
    · exact ⟨rfl, rfl, nofun⟩
  · exact ⟨rfl, rfl, id⟩
  · split
    · exact .setScreen nofun
    · split <;> exact ⟨rfl, rfl, id⟩
  · exact .refl s

/-- A new pipeline leaves the panes alone. -/
theorem apart_startOrchestrator (session : Session) (userId deviceId : String) (s : Sys ε) :
    s.Apart (startOrchestrator E ans session userId deviceId s) := by
  have hload : s.Apart (loadContacts ans s) := by
    unfold loadContacts
    split <;> exact ⟨rfl, rfl, id⟩
  unfold startOrchestrator
  split
  · exact ⟨rfl, rfl, id⟩
  · refine hload.trans ?_
    unfold spawnPipeline
    dsimp only
    split <;> exact ⟨rfl, rfl, id⟩

theorem apart_protect (passphrase : Bytes) (session : Session) (s : Sys ε) :
    s.Apart (protect E ans passphrase session s) := by
  unfold protect
  split
  · exact ⟨rfl, rfl, id⟩
  · dsimp only
    split
    · exact ⟨rfl, rfl, id⟩
    · split
      · refine .trans (.trans ?_ (apart_startOrchestrator E ans _ _ _ _)) (.setScreen nofun)
        exact ⟨rfl, rfl, id⟩
      · exact ⟨rfl, rfl, nofun⟩

theorem apart_handleSetPassphrase (key : KeyEvent) (s : Sys ε) :
    s.Apart (handleSetPassphrase E ans key s) := by
  unfold handleSetPassphrase
  cases key.code with
  | backspace => exact ⟨rfl, rfl, id⟩
  | char c => exact ⟨rfl, rfl, id⟩
  | enter =>
    dsimp only
    split
    · exact ⟨rfl, rfl, id⟩
    · split
      · exact ⟨rfl, rfl, id⟩
      · have htaken : s.Apart (s.modApp fun a =>
            { a with unlockScreen := s.app.unlockScreen.takePassphrase.2 }) := ⟨rfl, rfl, id⟩
        exact htaken.trans (apart_protect E ans _ _ _)
  | _ => exact .refl s

/-! ### Settings, contacts and invites -/

/-- A key of the settings leaves the panes alone, or logs out. -/
theorem settings_cases (key : KeyEvent) (s : Sys ε) :
    s.Apart (handleSettings E ans key s) ∨ handleSettings E ans key s = doLogout ans s := by
  have hsafety : s.Apart (openSafetyNumberScreen E ans s) := by
    unfold openSafetyNumberScreen
    split
    · exact ⟨rfl, rfl, id⟩
    · split
      · exact ⟨rfl, rfl, id⟩
      · exact ⟨rfl, rfl, nofun⟩
  have hexport : s.Apart (exportIdentityKey ans s) := by
    unfold exportIdentityKey
    split
    · exact ⟨rfl, rfl, id⟩
    · split <;> exact ⟨rfl, rfl, id⟩
  unfold handleSettings
  split
  · exact .inl (.setScreen nofun)
  · exact .inl ⟨rfl, rfl, id⟩
  · exact .inl ⟨rfl, rfl, id⟩
  · exact .inl ⟨rfl, rfl, id⟩
  · exact .inl ⟨rfl, rfl, id⟩
  · split
    · next action _ =>
      cases action with
      | back => exact .inl (.setScreen nofun)
      | logout => exact .inr rfl
      | showSafetyNumber => exact .inl hsafety
      | exportKeys => exact .inl hexport
      | showMyQr => exact .inl (.setScreen nofun)
    · exact .inl (.refl s)
  · exact .inr rfl
  · exact .inr rfl
  · exact .inl (.setScreen nofun)
  · exact .inl (.setScreen nofun)
  · exact .inl hsafety
  · exact .inl hsafety
  · exact .inl (.refl s)

/-! ### Answers of the server -/

theorem apart_enterMain (m : AuthSuccess) (s : Sys ε) : s.Apart (enterMain E ans m s) :=
  (apart_startOrchestrator E ans _ _ _ s).trans (.setScreen nofun)

theorem apart_saveAndEnter (m : AuthSuccess) (session : Session) (s : Sys ε) :
    s.Apart (saveAndEnter E ans m session s) := by
  unfold saveAndEnter
  split
  · have hsave : s.Apart (saveSession ans session s).2 := ⟨rfl, rfl, id⟩
    split
    · next t h =>
      rw [h] at hsave
      exact hsave.trans (apart_enterMain E ans m t)
    · next e t h =>
      rw [h] at hsave
      exact hsave.trans (.setScreen nofun)
  · exact ⟨rfl, rfl, nofun⟩

/-- An authentication shows another screen. -/
theorem apart_handleAuthMsg (msg : AuthMsg) (s : Sys ε) : s.Apart (handleAuthMsg E ans msg s) := by
  cases msg with
  | success m =>
    have hadopt : s.Apart (adoptSession m s) := ⟨rfl, rfl, id⟩
    unfold handleAuthMsg
    dsimp only
    split
    · next session _ =>
      have hrefresh : s.Apart (startTokenRefresh session (adoptSession m s)) := ⟨rfl, rfl, id⟩
      exact hrefresh.trans (apart_saveAndEnter E ans m session _)
    · exact hadopt.trans (apart_enterMain E ans m _)
  | failure msg =>
    obtain ⟨screen, hscreen, heq⟩ := handleAuthMsg_failure E ans msg s
    rw [heq]
    obtain rfl | rfl := hscreen <;> exact ⟨rfl, rfl, nofun⟩

theorem apart_handleTokenRefreshMsg (msg : TokenRefreshMsg) (s : Sys ε) :
    s.Apart (handleTokenRefreshMsg ans msg s) := by
  have hkeep (session : Session) (t : Sys ε) :
      t.Apart (persistSessionBackground ans session t) := by
    unfold persistSessionBackground
    dsimp only
    split <;> exact ⟨rfl, rfl, id⟩
  unfold handleTokenRefreshMsg
  split
  · dsimp only
    split
    · exact ⟨rfl, rfl, id⟩
    · refine .trans ?_ (hkeep _ _)
      exact ⟨rfl, rfl, id⟩
  · exact .refl s
  · unfold startDeviceReauth
    split <;> exact ⟨rfl, rfl, id⟩

theorem apart_refreshTokenNow (s : Sys ε) : s.Apart (refreshTokenNow s) := by
  unfold refreshTokenNow
  split
  · exact .refl s
  · exact ⟨rfl, rfl, id⟩

theorem apart_handleP2pStatus (peerId : String) (connected : Bool) (latencyMs : Option ℕ)
    (isRelay : Bool) (s : Sys ε) :
    s.Apart (handleP2pStatus peerId connected latencyMs isRelay s) := by
  unfold handleP2pStatus
  cases connected <;> cases isRelay <;> exact ⟨rfl, rfl, id⟩

end App
