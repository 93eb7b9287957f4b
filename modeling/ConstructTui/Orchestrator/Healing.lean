import ConstructTui.Orchestrator.Walk

/-!
# Healing a session

A heal asks for the peer's bundle and sets the session up again: as initiator after resetting the
peer, as responder with the first message of the peer that the core has queued. How a heal ends is
read off what the surroundings answer. A heal that fails has reset the peer, or taken the queued
message, before it asked for the bundle.

## Main definitions

* `OrchestratorTask.HealOutcome`, `OrchestratorTask.healOutcome`: how a heal ends.
* `OrchestratorTask.HealSpared`: what is left when a heal does not act.
* `OrchestratorTask.HealFails`, `OrchestratorTask.HealUndone`: a heal that fails, and that nothing
  comes of it.

## Main results

* `OrchestratorTask.healSpared_of_acts`, `OrchestratorTask.dispatch_heal_of_initiator`,
  `OrchestratorTask.dispatch_heal_of_responder`: what a heal leaves.
* `OrchestratorTask.failedHeal_undone_iff`: nothing comes of a heal that fails exactly when it was
  to reset the peer and there was no room for it.
-/

namespace OrchestratorTask

variable {ε : Type} (X : Externals ε) (C : TaskConfig)

/-! ### What the surroundings answer -/

/-- The bundle of a peer, as text. -/
def bundleAnswer (contactId : String) (e : ε) : Except String String :=
  (X.getPreKeyBundle contactId e).1.bind X.bundleToJson

/-- What the core makes of a bundle, as initiator. -/
def initiatorAnswer (contactId bundleJson : String) (e : ε) : Except String String × ε :=
  match X.bundleOfJson bundleJson with
  | .error error => (.error error, e)
  | .ok bundle => X.initSessionWithBundle contactId bundle e

/-- The outside after a peer has been sent a reset. -/
def resetExt (e : ε) : ε := (X.streamHasRoom (X.randomBytes e).2).2

/-- How a heal ends. -/
inductive HealOutcome
  | skipped
  | noPayload
  | fetchFailed
  | initFailed
  | established
  deriving DecidableEq, Repr

/-- The end of a heal as initiator. -/
def initiatorOutcome (contactId : String) (e : ε) : HealOutcome :=
  match bundleAnswer X contactId (resetExt X e) with
  | .error _ => .fetchFailed
  | .ok bundleJson =>
    match (initiatorAnswer X contactId bundleJson
      (X.getPreKeyBundle contactId (resetExt X e)).2).1 with
    | .error _ => .initFailed
    | .ok _ => .established

/-- The end of a heal as responder. -/
def responderOutcome (contactId : String) (e : ε) : HealOutcome :=
  match X.takeHealPayload contactId e with
  | (none, _) => .noPayload
  | (some wire, e') =>
    match bundleAnswer X contactId e' with
    | .error _ => .fetchFailed
    | .ok bundleJson =>
      match (X.initReceivingSessionFromWirePayload contactId (Utf8.encode bundleJson) wire
        (X.getPreKeyBundle contactId e').2).1 with
      | .error _ => .initFailed
      | .ok _ => .established

/-- How a heal ends that is to be carried out in a world. -/
def healOutcome (contactId role : String) (w : TaskWorld ε) : HealOutcome :=
  if contactId ∈ w.sessionInited then .skipped
  else if role = "Initiator" then initiatorOutcome X contactId w.ext
  else responderOutcome X contactId w.ext

/-- The heal sends a reset, asks for a bundle, takes the queued message or sets the session up. -/
def HealOutcome.acts : HealOutcome → Bool
  | .skipped | .noPayload => false
  | .fetchFailed | .initFailed | .established => true

/-- The bundle cannot be fetched, or cannot be used as initiator. -/
def HealFails (contactId role : String) (w : TaskWorld ε) : Prop :=
  healOutcome X contactId role w = .fetchFailed ∨
    role = "Initiator" ∧ healOutcome X contactId role w = .initFailed

/-! ### What a heal leaves -/

variable {X C}

@[simp] theorem fetchBundleJson_run (contactId : String) (w : TaskWorld ε) :
    (fetchBundleJson X contactId).run w = (bundleAnswer X contactId w.ext,
      { w with ext := (X.getPreKeyBundle contactId w.ext).2 }) := by
  unfold bundleAnswer fetchBundleJson external
  rw [Prog.run_bind]
  dsimp only [Prog.run_act]
  cases (X.getPreKeyBundle contactId w.ext).1 <;> rfl

@[simp] theorem initInitiatorFromJson_run (contactId bundleJson : String) (w : TaskWorld ε) :
    (initInitiatorFromJson X contactId bundleJson).run w =
      ((initiatorAnswer X contactId bundleJson w.ext).1,
        { w with ext := (initiatorAnswer X contactId bundleJson w.ext).2 }) := by
  unfold initInitiatorFromJson initiatorAnswer
  cases X.bundleOfJson bundleJson <;> rfl

/-- A reset goes to the stream if it has room. -/
theorem sendSessionReset_run (contactId : String) (w : TaskWorld ε) : ∃ reset,
    ((sendSessionReset X C contactId).run w).2 =
      { w with
        ext := resetExt X w.ext
        streamTx := if (X.streamHasRoom (X.randomBytes w.ext).2).1 then
          w.streamTx ++ [.send reset] else w.streamTx } := ⟨_, rfl⟩

/-- What a heal does, by the set of contacts whose session was set up in the same cycle. -/
theorem dispatch_heal (contactId role : String) (w : TaskWorld ε) :
    (dispatch X C (.sessionHealNeeded contactId role)).run w =
      (if contactId ∈ w.sessionInited then (pure () : Prog (TaskWorld ε) Unit)
        else if role = "Initiator" then healAsInitiator X C contactId
        else healAsResponder X C contactId).run w := rfl

/-- What a heal as responder does with the bundle of the peer and its queued message. -/
def healWithBundle (X : Externals ε) (C : TaskConfig) (contactId bundleJson : String)
    (wire : Bytes) : Prog (TaskWorld ε) Unit := do
  match ← external (X.initReceivingSessionFromWirePayload contactId
      (Utf8.encode bundleJson) wire) with
  | .ok (_, firstPlaintext) =>
    let firstMessageId ← popFirst X contactId
    observe (.popped firstMessageId)
    surfaceFirst X C contactId firstMessageId firstPlaintext
    pushFollowUp (.sessionInitCompleted contactId [])
  | .error _ => sendSessionReset X C contactId

/-- How a heal as responder gets to both. -/
theorem healAsResponder_run (contactId : String) (w : TaskWorld ε) :
    (healAsResponder X C contactId).run w =
      match X.takeHealPayload contactId w.ext with
      | (none, e) => ((), { w with ext := e })
      | (some wire, e) =>
        match bundleAnswer X contactId e with
        | .error _ => ((), { w with ext := (X.getPreKeyBundle contactId e).2 })
        | .ok bundleJson => (healWithBundle X C contactId bundleJson wire).run
            { w with ext := (X.getPreKeyBundle contactId e).2 } := by
  unfold healAsResponder external
  rw [Prog.run_bind]
  dsimp only [Prog.run_act]
  cases X.takeHealPayload contactId w.ext with
  | mk payload e =>
    cases payload with
    | none => rfl
    | some wire =>
      dsimp only
      rw [Prog.run_bind, fetchBundleJson_run]
      cases bundleAnswer X contactId e <;> rfl

theorem initiatorOutcome_ne_skipped (contactId : String) (e : ε) :
    initiatorOutcome X contactId e ≠ .skipped := by
  unfold initiatorOutcome
  split
  · exact HealOutcome.noConfusion
  · split <;> exact HealOutcome.noConfusion

theorem responderOutcome_ne_skipped (contactId : String) (e : ε) :
    responderOutcome X contactId e ≠ .skipped := by
  unfold responderOutcome
  split
  · exact HealOutcome.noConfusion
  · split
    · exact HealOutcome.noConfusion
    · split <;> exact HealOutcome.noConfusion

/-- A heal is skipped for the contacts whose session was set up in the same cycle. -/
theorem healOutcome_eq_skipped {contactId role : String} {w : TaskWorld ε} :
    healOutcome X contactId role w = .skipped ↔ contactId ∈ w.sessionInited := by
  unfold healOutcome
  by_cases hmem : contactId ∈ w.sessionInited
  · exact iff_of_true (if_pos hmem) hmem
  · rw [if_neg hmem]
    refine iff_of_false ?_ hmem
    split
    · exact initiatorOutcome_ne_skipped contactId w.ext
    · exact responderOutcome_ne_skipped contactId w.ext

/-- Then it does nothing. -/
theorem dispatch_heal_of_skipped {contactId role : String} {w : TaskWorld ε}
    (h : healOutcome X contactId role w = .skipped) :
    (dispatch X C (.sessionHealNeeded contactId role)).run w = ((), w) := by
  rw [dispatch_heal, if_pos (healOutcome_eq_skipped.mp h)]
  rfl

/-- A heal that finds no queued message is one as responder, and there is none. -/
theorem responder_of_noPayload {contactId role : String} {w : TaskWorld ε}
    (h : healOutcome X contactId role w = .noPayload) : contactId ∉ w.sessionInited ∧
      role ≠ "Initiator" ∧ (X.takeHealPayload contactId w.ext).1 = none := by
  have hmem : contactId ∉ w.sessionInited := fun hmem => by
    cases (healOutcome_eq_skipped.mpr hmem).symm.trans h
  unfold healOutcome at h
  rw [if_neg hmem] at h
  have hrole : role ≠ "Initiator" := by
    rintro rfl
    rw [if_pos rfl] at h
    unfold initiatorOutcome at h
    split at h
    · cases h
    · split at h <;> cases h
  rw [if_neg hrole] at h
  unfold responderOutcome at h
  refine ⟨hmem, hrole, ?_⟩
  cases htake : X.takeHealPayload contactId w.ext with
  | mk payload e =>
    rw [htake] at h
    cases payload with
    | none => rfl
    | some wire =>
      dsimp only at h
      split at h
      · cases h
      · split at h <;> cases h

/-- A heal as responder without a queued message only asks for one. -/
theorem dispatch_heal_of_noPayload {contactId role : String} {w : TaskWorld ε}
    (h : healOutcome X contactId role w = .noPayload) :
    (dispatch X C (.sessionHealNeeded contactId role)).run w =
      ((), { w with ext := (X.takeHealPayload contactId w.ext).2 }) := by
  obtain ⟨hmem, hrole, hnone⟩ := responder_of_noPayload h
  rw [dispatch_heal, if_neg hmem, if_neg hrole, healAsResponder_run]
  cases htake : X.takeHealPayload contactId w.ext with
  | mk payload e =>
    rw [htake] at hnone
    obtain rfl := hnone
    rfl

/-- Nothing is sent, no queued message is taken and no session changes: the core is left alone, or
asked for a queued message that it does not have. Nothing else of the world changes. -/
structure HealSpared (X : Externals ε) (contactId : String) (w w' : TaskWorld ε) : Prop where
  sent : w'.streamTx = w.streamTx
  payload : w'.ext = w.ext ∨ X.takeHealPayload contactId w.ext = (none, w'.ext)
  sessions : ∀ {σ : Type} (sessions : ε → σ),
    (∀ e, (X.takeHealPayload contactId e).1 = none →
      sessions (X.takeHealPayload contactId e).2 = sessions e) → sessions w'.ext = sessions w.ext
  rest : w' = { w with ext := w'.ext }

/-- So it is after a heal that does not act. -/
theorem healSpared_of_acts {contactId role : String} {w : TaskWorld ε}
    (h : (healOutcome X contactId role w).acts = false) :
    HealSpared X contactId w ((dispatch X C (.sessionHealNeeded contactId role)).run w).2 := by
  cases houtcome : healOutcome X contactId role w with
  | skipped =>
    rw [dispatch_heal_of_skipped houtcome]
    exact ⟨rfl, .inl rfl, fun _ _ => rfl, rfl⟩
  | noPayload =>
    have hnone := (responder_of_noPayload houtcome).2.2
    rw [dispatch_heal_of_noPayload houtcome]
    exact ⟨rfl, .inr (Prod.ext hnone rfl), fun _ hkept => hkept w.ext hnone, rfl⟩
  | fetchFailed | initFailed | established =>
    rw [houtcome] at h
    cases h

/-- A heal as initiator that fails has sent a reset all the same. -/
theorem dispatch_heal_of_initiator {contactId : String} {w : TaskWorld ε}
    (h : HealFails X contactId "Initiator" w) : ∃ reset e,
    ((dispatch X C (.sessionHealNeeded contactId "Initiator")).run w).2 =
      { w with
        ext := e
        streamTx := if (X.streamHasRoom (X.randomBytes w.ext).2).1 then
          w.streamTx ++ [.send reset] else w.streamTx } ∧
    (e = (X.getPreKeyBundle contactId (resetExt X w.ext)).2 ∨
      ∃ bundleJson error, initiatorAnswer X contactId bundleJson
        (X.getPreKeyBundle contactId (resetExt X w.ext)).2 = (.error error, e)) := by
  have hmem : contactId ∉ w.sessionInited := by
    intro hmem
    obtain h | ⟨-, h⟩ := h <;> cases (healOutcome_eq_skipped.mpr hmem).symm.trans h
  have houtcome : initiatorOutcome X contactId w.ext = .fetchFailed ∨
      initiatorOutcome X contactId w.ext = .initFailed := by
    unfold HealFails healOutcome at h
    rw [if_neg hmem, if_pos rfl] at h
    exact h.imp_right And.right
  obtain ⟨reset, hreset⟩ := sendSessionReset_run (X := X) (C := C) contactId w
  rw [dispatch_heal, if_neg hmem, if_pos rfl]
  unfold healAsInitiator
  rw [Prog.run_bind, hreset, Prog.run_bind, fetchBundleJson_run]
  unfold initiatorOutcome at houtcome
  cases hbundle : bundleAnswer X contactId (resetExt X w.ext) with
  | error error => exact ⟨reset, _, rfl, .inl rfl⟩
  | ok bundleJson =>
    rw [hbundle] at houtcome
    dsimp only at houtcome ⊢
    rw [Prog.run_bind, initInitiatorFromJson_run]
    cases hinit : initiatorAnswer X contactId bundleJson
      (X.getPreKeyBundle contactId (resetExt X w.ext)).2 with
    | mk answer e =>
      rw [hinit] at houtcome
      cases answer with
      | error error => exact ⟨reset, e, rfl, .inr ⟨bundleJson, error, hinit⟩⟩
      | ok sessionId => obtain h | h := houtcome <;> cases h

/-- A heal as responder that fails has taken the queued message all the same. -/
theorem dispatch_heal_of_responder {contactId role : String} {w : TaskWorld ε}
    (hrole : role ≠ "Initiator") (h : HealFails X contactId role w) : ∃ wire e,
    X.takeHealPayload contactId w.ext = (some wire, e) ∧
    ((dispatch X C (.sessionHealNeeded contactId role)).run w).2 =
      { w with ext := (X.getPreKeyBundle contactId e).2 } := by
  replace h := h.resolve_right fun h => hrole h.1
  have hmem : contactId ∉ w.sessionInited := fun hmem => by
    cases (healOutcome_eq_skipped.mpr hmem).symm.trans h
  unfold healOutcome responderOutcome at h
  rw [if_neg hmem, if_neg hrole] at h
  rw [dispatch_heal, if_neg hmem, if_neg hrole, healAsResponder_run]
  cases htake : X.takeHealPayload contactId w.ext with
  | mk payload e =>
    rw [htake] at h
    cases payload with
    | none => cases h
    | some wire =>
      refine ⟨wire, e, rfl, ?_⟩
      dsimp only at h ⊢
      cases hbundle : bundleAnswer X contactId e with
      | error error => rfl
      | ok bundleJson =>
        rw [hbundle] at h
        dsimp only at h
        split at h <;> cases h

/-! ### What comes of a heal that fails -/

/-- The sessions are the same, and the same messages are queued. -/
def SameCore {σ : Type} (X : Externals ε) (sessions : ε → σ) (e e' : ε) : Prop :=
  sessions e' = sessions e ∧ ∀ contactId, (X.takeHealPayload contactId e').1 =
    (X.takeHealPayload contactId e).1

/-- The network, the random source and the channel leave the core alone, and so does a set-up that
fails. A queued message that is taken is not there again. -/
structure HealLaws {σ : Type} (X : Externals ε) (sessions : ε → σ) : Prop where
  randomBytes (e : ε) : SameCore X sessions e (X.randomBytes e).2
  streamHasRoom (e : ε) : SameCore X sessions e (X.streamHasRoom e).2
  getPreKeyBundle (contactId : String) (e : ε) :
    SameCore X sessions e (X.getPreKeyBundle contactId e).2
  initSessionWithBundle (contactId : String) (bundle : SessionInitBundle) (e : ε) (error : String) :
    (X.initSessionWithBundle contactId bundle e).1 = .error error →
      SameCore X sessions e (X.initSessionWithBundle contactId bundle e).2
  takeHealPayload (contactId : String) (e : ε) (wire : Bytes) :
    (X.takeHealPayload contactId e).1 = some wire →
      (X.takeHealPayload contactId (X.takeHealPayload contactId e).2).1 ≠ some wire

/-- No reset was sent, the queued message is still there, and no session, row or follow-up has
changed. -/
structure HealUndone {σ : Type} (X : Externals ε) (sessions : ε → σ) (contactId : String)
    (w w' : TaskWorld ε) : Prop where
  sent : w'.streamTx = w.streamTx
  payload : (X.takeHealPayload contactId w'.ext).1 = (X.takeHealPayload contactId w.ext).1
  sessions : sessions w'.ext = sessions w.ext
  storage : w'.storage = w.storage
  followUps : w'.followUps = w.followUps

section Undone

variable {σ : Type} {sessions : ε → σ}

theorem SameCore.refl (e : ε) : SameCore X sessions e e := ⟨rfl, fun _ => rfl⟩

theorem SameCore.trans {e e' e'' : ε} (h : SameCore X sessions e e')
    (h' : SameCore X sessions e' e'') : SameCore X sessions e e'' :=
  ⟨h'.1.trans h.1, fun contactId => (h'.2 contactId).trans (h.2 contactId)⟩

/-- Asking for a bundle after a reset leaves the core alone. -/
theorem HealLaws.fetched (laws : HealLaws X sessions) (contactId : String) (e : ε) :
    SameCore X sessions e (X.getPreKeyBundle contactId (resetExt X e)).2 :=
  ((laws.randomBytes e).trans (laws.streamHasRoom _)).trans (laws.getPreKeyBundle contactId _)

theorem HealLaws.initiatorAnswer (laws : HealLaws X sessions) {contactId bundleJson error : String}
    {e e' : ε}
    (h : OrchestratorTask.initiatorAnswer X contactId bundleJson e = (.error error, e')) :
    SameCore X sessions e e' := by
  unfold OrchestratorTask.initiatorAnswer at h
  cases hbundle : X.bundleOfJson bundleJson with
  | error error' =>
    rw [hbundle] at h
    obtain rfl := (Prod.mk.inj h).2
    exact .refl e
  | ok bundle =>
    rw [hbundle] at h
    have hsame := laws.initSessionWithBundle contactId bundle e error (congrArg Prod.fst h)
    rwa [show (X.initSessionWithBundle contactId bundle e).2 = e' from congrArg Prod.snd h] at hsame

/-- **A heal that fails, because the bundle cannot be fetched or cannot be used as initiator, leaves
the peer and the task as they were exactly when it was to send a reset and there was no room.** -/
theorem failedHeal_undone_iff (laws : HealLaws X sessions) {contactId role : String}
    {w : TaskWorld ε} (h : HealFails X contactId role w) : HealUndone X sessions contactId w
      ((dispatch X C (.sessionHealNeeded contactId role)).run w).2 ↔
    role = "Initiator" ∧ (X.streamHasRoom (X.randomBytes w.ext).2).1 = false := by
  by_cases hrole : role = "Initiator"
  · subst hrole
    rw [eq_self, true_and]
    obtain ⟨reset, e, hleft, hext⟩ := dispatch_heal_of_initiator (C := C) h
    have hcore : SameCore X sessions w.ext e := by
      obtain rfl | ⟨bundleJson, error, hinit⟩ := hext
      · exact laws.fetched contactId w.ext
      · exact (laws.fetched contactId w.ext).trans (laws.initiatorAnswer hinit)
    rw [hleft]
    cases hroom : (X.streamHasRoom (X.randomBytes w.ext).2).1 with
    | false => exact iff_of_true ⟨rfl, hcore.2 contactId, hcore.1, rfl, rfl⟩ rfl
    | true =>
      refine iff_of_false (fun hundone => ?_) Bool.noConfusion
      have hlength := congrArg List.length hundone.sent
      simp at hlength
  · refine iff_of_false (fun hundone => ?_) fun hinitiator => hrole hinitiator.1
    obtain ⟨wire, e, htake, hleft⟩ := dispatch_heal_of_responder (C := C) hrole h
    have hpayload := hundone.payload
    rw [hleft] at hpayload
    have hgone := laws.takeHealPayload contactId w.ext wire (congrArg Prod.fst htake)
    rw [htake] at hgone hpayload
    exact hgone (((laws.getPreKeyBundle contactId e).2 contactId).symm.trans hpayload)

end Undone

/-! ### A peer whose bundle cannot be fetched -/

/-- A core that has a message of the peer queued, and a network that answers nothing. -/
def deadNetwork (room : Bool) : Externals (Option Bytes) where
  handleEvent _ e := ([], e)
  hasActiveSession _ _ := false
  pendingMessageCount _ _ := 0
  peekFirstPendingWirePayload _ _ := none
  popFirstPending _ e := (none, e)
  initReceivingSessionFromWirePayload _ _ _ e := (.error "", e)
  initSessionWithBundle _ _ e := (.error "", e)
  takeHealPayload _ e := (e, none)
  forgetContactState _ e := e
  exportOrchestratorStateCfe _ := .error ""
  getPreKeyBundle _ e := (.error "unreachable", e)
  bundleToJson _ := .error ""
  bundleOfJson _ := .error ""
  millis e := (0, e)
  randomBytes e := ((Externals.quiet.randomBytes ()).1, e)
  sqlFails e := (false, e)
  streamHasRoom e := (room, e)

theorem deadNetwork_laws (room : Bool) : HealLaws (deadNetwork room) fun _ => () where
  randomBytes _ := ⟨rfl, fun _ => rfl⟩
  streamHasRoom _ := ⟨rfl, fun _ => rfl⟩
  getPreKeyBundle _ _ := ⟨rfl, fun _ => rfl⟩
  initSessionWithBundle _ _ _ _ _ := ⟨rfl, fun _ => rfl⟩
  takeHealPayload _ _ _ _ h := by cases h

/-- With no room for the reset, the peer and the task are as they were. -/
theorem failedHeal_undone_full : HealUndone (deadNetwork false) (fun _ => ()) "bob"
    (.start (some [7]) .init)
    ((dispatch (deadNetwork false) ⟨.tagged, "me", "phone"⟩
      (.sessionHealNeeded "bob" "Initiator")).run
      (.start (some [7]) .init)).2 :=
  (failedHeal_undone_iff (deadNetwork_laws false) (.inl (by decide))).mpr ⟨rfl, rfl⟩

/-- As responder, the queued message is gone when the bundle cannot be fetched. -/
theorem failedHeal_taken :
    HealFails (deadNetwork true) "bob" "Responder" (.start (some [7]) .init) ∧
    ¬HealUndone (deadNetwork true) (fun _ => ()) "bob" (.start (some [7]) .init)
      ((dispatch (deadNetwork true) ⟨.tagged, "me", "phone"⟩
        (.sessionHealNeeded "bob" "Responder")).run (.start (some [7]) .init)).2 := by
  refine ⟨.inl (by decide), fun hundone => ?_⟩
  have hpayload := hundone.payload
  revert hpayload
  decide

end OrchestratorTask
