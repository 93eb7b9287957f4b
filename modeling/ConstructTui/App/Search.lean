import ConstructTui.App.Panes
import ConstructTui.App.Runs

/-!
# The search for a contact

A search is a task of its own, and its answer does not say which search box it belongs to: the app
shows whatever results arrive. Typing clears the results on screen, and so does leaving the screen,
but neither stops a search that is under way.

## Main definitions

* `ContactSearchScreen.Current`: the results belong to what is in the search box.
* `Sys.BoxMove`: what a step does to the search box when no results arrive.
* `Sys.arriving`: the results that a step takes from the queue.

## Main results

* `App.boxMove_handle`: every input that brings no results leaves the box alone, or clears it.
* `Sys.resultsCurrent_iff`: the runs in which the results always belong to what is in the box.
* `Sys.late_answer_adds`: a run in which Enter adds somebody else.
-/

variable {ε : Type} {E : AppExternals ε} {ans : Answers ε}

/-- Every result was found for the name in the search box. -/
def ContactSearchScreen.Current (p : ContactSearchScreen) : Prop :=
  ∀ r ∈ p.results, r.username = normalizeUsername p.query

instance (p : ContactSearchScreen) : Decidable p.Current :=
  inferInstanceAs (Decidable (∀ r ∈ p.results, r.username = normalizeUsername p.query))

/-! ### Steps without results -/

/-- The box and the screen are left alone, another screen is shown, or the results are cleared. -/
inductive Sys.BoxMove (s s' : Sys ε) : Prop
  | left (hresults : s'.app.contactSearch.results = s.app.contactSearch.results)
      (hquery : s'.app.contactSearch.query = s.app.contactSearch.query)
      (hscreen : s'.app.screen = .contactSearch → s.app.screen = .contactSearch)
  | cleared (h : s'.app.contactSearch.results = [])

namespace Sys.BoxMove

variable {s t u : Sys ε}

theorem of_apart (h : s.Apart t) : s.BoxMove t :=
  .left (congrArg _ h.search) (congrArg _ h.search) h.screen

theorem of_app (h : t.app = s.app) : s.BoxMove t := of_apart (.of_app h)

theorem refl (s : Sys ε) : s.BoxMove s := of_app rfl

theorem trans (h : s.BoxMove t) (h' : t.BoxMove u) : s.BoxMove u := by
  cases h' with
  | cleared hu => exact .cleared hu
  | left hresults' hquery' hscreen' =>
    cases h with
    | cleared ht => exact .cleared (hresults'.trans ht)
    | left hresults hquery hscreen =>
      exact .left (hresults'.trans hresults) (hquery'.trans hquery) fun hu => hscreen (hscreen' hu)

theorem setScreen {screen : Screen} (h : screen ≠ .contactSearch) :
    s.BoxMove (s.setScreen screen) :=
  .of_apart (.setScreen h)

end Sys.BoxMove

open Sys (BoxMove)

namespace App

variable (E ans)

/-! ### The handlers -/

/-- A logout clears the box. -/
theorem boxMove_doLogout (s : Sys ε) : s.BoxMove (doLogout ans s) := by
  unfold doLogout
  split
  · exact .left rfl rfl id
  · exact .cleared rfl

theorem boxMove_handleSettings (key : KeyEvent) (s : Sys ε) :
    s.BoxMove (handleSettings E ans key s) := by
  obtain hapart | hlogout := settings_cases E ans key s
  · exact .of_apart hapart
  · rw [hlogout]
    exact boxMove_doLogout ans s

/-- A contact that is added clears the box. -/
theorem boxMove_finishAddContact (userId username : String) (s : Sys ε) :
    s.BoxMove (finishAddContact ans userId username s) := .cleared rfl

theorem boxMove_addSelectedSearchResult (s : Sys ε) :
    s.BoxMove (addSelectedSearchResult ans s) := by
  unfold addSelectedSearchResult
  split
  · exact .refl s
  · exact boxMove_finishAddContact ans _ _ s

theorem boxMove_submitContactSearch (s : Sys ε) : s.BoxMove (submitContactSearch E ans s) := by
  unfold submitContactSearch
  dsimp only
  split
  · unfold redeemPastedInvite
    split
    · exact .left rfl rfl id
    · split <;> exact .left rfl rfl id
  · split <;> exact .left rfl rfl id

/-- Every edit of the name clears the results. -/
theorem boxMove_handleContactSearch (key : KeyEvent) (s : Sys ε) :
    s.BoxMove (handleContactSearch E ans key s) := by
  have hnext : s.BoxMove (s.modApp fun a => { a with contactSearch := a.contactSearch.next }) := by
    unfold ContactSearchScreen.next
    refine .left ?_ ?_ id
    all_goals
      dsimp only [Sys.modApp]
      split <;> rfl
  unfold handleContactSearch
  dsimp only
  split
  · exact .cleared rfl
  · exact hnext
  · exact hnext
  · exact .left rfl rfl id
  · exact .left rfl rfl id
  · split
    · exact boxMove_addSelectedSearchResult ans s
    · exact boxMove_submitContactSearch E ans s
  · exact .cleared rfl
  · split
    · exact boxMove_addSelectedSearchResult ans s
    · exact .cleared rfl
  · exact .refl s

theorem boxMove_openConversation (c : Contact) (s : Sys ε) :
    s.BoxMove (openConversation ans c s) := by
  have happ := Sys.app_orchSend s s.app.orchHandle (.activeChatChanged c.id true)
  exact .trans (.of_app happ) (.left rfl rfl id)

theorem boxMove_sendCompose (s : Sys ε) : s.BoxMove (sendCompose ans s) := by
  unfold sendCompose
  dsimp only
  split
  · exact .left rfl rfl id
  · refine .trans (t := s.modApp fun a => { a with chatView := s.app.chatView.takeCompose.2 })
      (.left rfl rfl id) ?_
    split
    · exact .trans (.of_app (Sys.app_orchSend _ _ _)) (.left rfl rfl id)
    · exact .left rfl rfl id

theorem boxMove_deleteRows (userId : String) (s : Sys ε) :
    s.BoxMove (deleteRows ans userId s).2 := by
  unfold deleteRows
  split
  · exact .left rfl rfl id
  · exact .refl s

theorem boxMove_removeContact (peerId : String) (s : Sys ε) :
    s.BoxMove (removeContact ans peerId s) := by
  have hcommand : s.BoxMove (s.orchCommand s.app.orchHandle (.forgetContact peerId)) :=
    .of_app (Sys.app_orchCommand s _ _)
  have hsubscribe (t : Sys ε) : t.BoxMove (resubscribeStreamToContacts ans t) :=
    .of_app (Sys.app_streamTrySend t _ _ _)
  unfold removeContact
  dsimp only
  split
  · next i _ =>
    let t : Sys ε := (s.orchCommand s.app.orchHandle (.forgetContact peerId)).modApp fun a =>
      { a with chatList := a.chatList.removeAt i }
    have ht : s.BoxMove t := hcommand.trans (.left rfl rfl id)
    refine (ht.trans (hsubscribe t)).trans ?_
    split <;> exact .left rfl rfl id
  · refine (hcommand.trans (hsubscribe _)).trans ?_
    split <;> exact .left rfl rfl id

theorem boxMove_confirmDelete (s : Sys ε) : s.BoxMove (confirmDelete ans s) := by
  unfold confirmDelete
  split
  · exact .refl s
  · next peerId _ =>
    have hrows : s.BoxMove (deleteRows ans peerId s.answered).2 :=
      .trans (t := s.answered) (.left rfl rfl id) (boxMove_deleteRows ans peerId _)
    dsimp only
    split
    · next h =>
      rw [Sys.answered, h] at hrows
      exact hrows.trans (.left rfl rfl id)
    · next h =>
      rw [Sys.answered, h] at hrows
      exact hrows.trans (boxMove_removeContact ans peerId _)

theorem boxMove_handleMain (key : KeyEvent) (s : Sys ε) : s.BoxMove (handleMain ans key s) := by
  unfold handleMain
  split
  · split
    · exact boxMove_confirmDelete ans s
    · exact .left rfl rfl id
  · split
    · exact .left rfl rfl id
    · split
      · unfold handleContactListKey
        split
        · exact .left rfl rfl id
        · exact .left rfl rfl id
        · exact .left rfl rfl id
        · exact .left rfl rfl id
        · split
          · split
            · exact .left rfl rfl id
            · exact .refl s
          · exact .refl s
        · split
          · exact (boxMove_openConversation ans _ s).trans (.left rfl rfl id)
          · exact .left rfl rfl id
        · split
          · exact (boxMove_openConversation ans _ s).trans (.left rfl rfl id)
          · exact .left rfl rfl id
        · split
          · exact .setScreen nofun
          · exact .refl s
        · split
          · exact .cleared rfl
          · exact .refl s
        · split
          · exact .cleared rfl
          · exact .refl s
        · exact .refl s
      · unfold handleChatViewKey
        dsimp only
        split <;> exact .left rfl rfl id
      · unfold handleComposeKey
        split
        · exact .left rfl rfl id
        · exact boxMove_sendCompose ans s
        · exact .left rfl rfl id
        · exact .left rfl rfl id
        · exact .refl s

theorem boxMove_handleEvent (key : KeyEvent) (s : Sys ε) : s.BoxMove (handleEvent E ans key s) := by
  unfold handleEvent
  split
  · exact .refl s
  · split
    · exact .left rfl rfl id
    · split
      · exact .refl s
      · exact .refl s
      · exact .refl s
      · split
        · exact .left rfl rfl nofun
        · exact .setScreen nofun
      · exact .of_apart (apart_handleUnlock E ans key s)
      · exact .of_apart (apart_handleSetPassphrase E ans key s)
      · exact .of_apart (apart_handleOnboarding key s)
      · exact .of_apart (apart_handleDeviceLink key s)
      · exact boxMove_handleMain ans key s
      · exact boxMove_handleSettings E ans key s
      · exact boxMove_handleContactSearch E ans key s
      · exact .setScreen nofun
      · exact .setScreen nofun

theorem boxMove_handleBridgeEvent (event : BridgeEvent) (gone : Bool) (s : Sys ε) :
    s.BoxMove (handleBridgeEvent ans event gone s) := by
  cases event with
  | streamStatus connected => cases connected <;> exact .left rfl rfl id
  | _ => exact .left rfl rfl id

/-- The input brings no results of a search. -/
def bringsNoResults : Input → Prop
  | .event (.contactSearchResult _) _ => False
  | _ => True

/-- Every input that brings no results leaves the box alone, shows another screen, or clears the
results. -/
theorem boxMove_handle {input : Input} (hinput : bringsNoResults input) (s : Sys ε) :
    s.BoxMove (handle E ans s input) := by
  cases input with
  | key key => exact boxMove_handleEvent E ans key s
  | event event gone =>
    show s.BoxMove (handleInternal E ans event gone s)
    cases event with
    | auth msg =>
      unfold handleInternal
      dsimp only
      refine .trans ?_ (.of_apart (apart_handleAuthMsg E ans msg _))
      split <;> exact .left rfl rfl id
    | tokenRefresh msg => exact .of_apart (apart_handleTokenRefreshMsg ans msg s)
    | bridge event => exact boxMove_handleBridgeEvent ans event gone s
    | contactSearchResult results => exact hinput.elim
    | contactSearchError msg => exact .left rfl rfl id
    | inviteAccepted userId username => exact boxMove_finishAddContact ans userId username s
    | registrationStep reached => exact .left rfl rfl id
    | tick =>
      unfold handleInternal
      dsimp only
      split
      · exact .left rfl rfl id
      · exact .refl s
    | streamAuthRequired => exact .of_apart (apart_refreshTokenNow s)
    | p2pStatus peerId connected latencyMs isRelay =>
      exact .of_apart (apart_handleP2pStatus peerId connected latencyMs isRelay s)

end App

namespace Sys

/-! ### Runs -/

/-- The results of a search that a step takes from the queue. -/
def arriving (s : Sys ε) (a : Label ε) : Option (List SearchResult) :=
  match a, s.queue with
  | .internal _, ⟨.contactSearchResult results, _⟩ :: _ => some results
  | _, _ => none

/-- What a step does to the search box: it shows results that arrive, or it brings none. -/
theorem step_box {s s' : Sys ε} {a : Label ε} (h : step E s a = some s') :
    (∃ results, s.arriving a = some results ∧ s'.app.screen = s.app.screen ∧
        s'.app.contactSearch = s.app.contactSearch.setResults results) ∨
      s.arriving a = none ∧ s.BoxMove s' := by
  cases stepped h with
  | startup => exact .inr ⟨rfl, .of_apart (App.apart_startupCheck _ s)⟩
  | @key key ans => exact .inr ⟨rfl, App.boxMove_handleEvent E ans key s⟩
  | @internal ans q queue _ hqueue =>
    obtain ⟨event, gone⟩ := q
    unfold arriving
    rw [hqueue]
    have hbox (event : InternalEvent) (hinput : App.bringsNoResults (.event event gone)) :
        s.BoxMove (App.handleInternal E ans event gone { s with queue := queue }) :=
      .trans (t := { s with queue := queue }) (.of_app rfl) (App.boxMove_handle E ans hinput _)
    cases event with
    | contactSearchResult results => exact .inl ⟨results, rfl, rfl, rfl⟩
    | _ =>
      refine .inr ⟨rfl, hbox _ ?_⟩
      trivial
  | _ => exact .inr ⟨rfl, .of_app (app_of_beside rfl h)⟩

/-- The search box is on screen, or it does not matter whether it is. -/
def ShowsBox (onScreen : Bool) (s : Sys ε) : Prop :=
  onScreen = true → s.app.screen = .contactSearch

/-- Results that arrive were found for the name that is in the box by then. -/
def ArriveCurrent (onScreen : Bool) (s : Sys ε) (a : Label ε) : Prop :=
  s.ShowsBox onScreen → ∀ results ∈ s.arriving a, ∀ r ∈ results,
    r.username = normalizeUsername s.app.contactSearch.query

/-- The results on screen belong to what is in the box. -/
def ResultsCurrent (onScreen : Bool) (s : Sys ε) : Prop :=
  s.ShowsBox onScreen → s.app.contactSearch.Current

theorem BoxMove.resultsCurrent {onScreen : Bool} {s s' : Sys ε} (h : s.BoxMove s')
    (hs : s.ResultsCurrent onScreen) : s'.ResultsCurrent onScreen := by
  intro hshows
  cases h with
  | left hresults hquery hscreen =>
    have hcurrent := hs fun hon => hscreen (hshows hon)
    unfold ContactSearchScreen.Current at hcurrent ⊢
    rwa [hresults, hquery]
  | cleared hnil =>
    unfold ContactSearchScreen.Current
    rw [hnil]
    exact List.forall_mem_nil _

/-- A step keeps the results current exactly when those it shows are. -/
theorem step_resultsCurrent {onScreen : Bool} {s s' : Sys ε} {a : Label ε}
    (hs : s.ResultsCurrent onScreen) (h : step E s a = some s') :
    s'.ResultsCurrent onScreen ↔ s.ArriveCurrent onScreen a := by
  obtain ⟨results, harrive, hscreen, hbox⟩ | ⟨harrive, hmove⟩ := step_box h
  · unfold ResultsCurrent ArriveCurrent ShowsBox ContactSearchScreen.Current
    rw [harrive, hscreen, hbox]
    simp [ContactSearchScreen.setResults]
  · refine iff_of_true (hmove.resultsCurrent hs) fun _ results hresults => ?_
    rw [harrive] at hresults
    cases hresults

/-- **The results of a search belong to what is in the search box throughout exactly the runs in
which they do when they arrive.** Then Enter adds nobody who was found for another name. -/
theorem resultsCurrent_iff (E : AppExternals ε) {cfg : AppConfig} {dir : ConfigDir} {db : Storage}
    {as : List (Label ε)} {s : Sys ε} (h : Run.after (step E) (start ε cfg dir db) as = some s) :
    (∀ onScreen, Run.Always (step E) (ResultsCurrent onScreen) (start ε cfg dir db) as ↔
      Run.Along (step E) (ArriveCurrent onScreen) (start ε cfg dir db) as) ∧
    ∀ (t : Sys ε) (ans : Answers ε) (key : KeyEvent) (r : SearchResult),
      t.ResultsCurrent true → t.app.screen = .contactSearch → key.isPress → key.code = .enter →
      t.app.contactSearch.selected = some r →
      App.handleEvent E ans key t = App.finishAddContact ans r.userId r.username t ∧
        r.username = normalizeUsername t.app.contactSearch.query := by
  refine ⟨fun onScreen => ?_, fun t ans key r hcurrent hscreen hpress hcode hselected => ?_⟩
  · have hstart : (start ε cfg dir db).ResultsCurrent onScreen := fun _ => List.forall_mem_nil _
    exact Run.always_iff_along (fun _ hs => hs)
      (fun _ _ _ hs hstep => (step_resultsCurrent hs hstep).mpr)
      (fun _ _ _ hs hstep => (step_resultsCurrent hs hstep).mp) hstart h
  · refine ⟨App.handleEvent_adds E ans hscreen hpress (.inl hcode) hselected, ?_⟩
    obtain ⟨i, -, hi⟩ := Option.bind_eq_some_iff.mp hselected
    exact hcurrent (fun _ => hscreen) r (List.mem_of_getElem? hi)

instance (onScreen : Bool) (s : Sys ε) (a : Label ε) : Decidable (s.ArriveCurrent onScreen a) :=
  inferInstanceAs (Decidable ((onScreen = true → s.app.screen = .contactSearch) →
    ∀ results ∈ s.arriving a, ∀ r ∈ results,
      r.username = normalizeUsername s.app.contactSearch.query))

/-- The user searches for a name, and the answer comes after some more keys. -/
def searches (meanwhile : List (Label Unit)) : List (Label Unit) :=
  [presses 'n', presses 'a', presses 'l', presses 'i', .key (.plain .enter) .quiet] ++ meanwhile ++
    [.request 1 .zeros .quiet, .finish 1 (.found (some "alice")) .quiet, .internal .quiet]

/-- A user who waits for the answer. -/
theorem results_current_waiting :
    Run.Always (step .quiet) (ResultsCurrent true) fresh (registers ++ searches []) := by
  have h : Run.after (step .quiet) fresh (registers ++ searches []) =
      some (Run.ending (step .quiet) fresh (registers ++ searches [])) :=
    Run.after_ending_nil (by decide +kernel)
  exact ((resultsCurrent_iff .quiet h).1 true).mpr (by decide +kernel)

/-- A user who types on is shown somebody else, and Enter adds them. -/
theorem late_answer_adds : ∃ s s', Run.after (step .quiet) fresh
      (registers ++ searches [presses 'x']) = some s ∧
    ¬s.ResultsCurrent true ∧ step .quiet s (.key (.plain .enter) .quiet) = some s' ∧
    s.app.contactSearch.query = ['a', 'l', 'i', 'x'] ∧
    s'.app.chatList.contacts = [⟨"alice", "ali", 0, none⟩] := by
  let s := Run.ending (step .quiet) fresh (registers ++ searches [presses 'x'])
  have hscreen : s.app.screen = .contactSearch := by decide +kernel
  have hlate : ¬s.app.contactSearch.Current := by decide +kernel
  refine ⟨s, _, Run.after_ending_nil (by decide +kernel), fun h => hlate (h fun _ => hscreen),
    Run.step_ending (by decide +kernel), by decide +kernel, by decide +kernel⟩

end Sys
