import ConstructTui.Orchestrator.Task

/-!
# Showing or suppressing a decrypted plaintext

A decrypted plaintext reaches the user on three paths. The two responder paths test its text
before they store and show it, and the action `messageDecrypted` does not: the paths agree, and
keep control messages out of the transcript, for exactly the plaintexts whose text passes the test.

## Main definitions

* `OrchestratorTask.Path`, `OrchestratorTask.Brings`: an action that brings a plaintext to the user.
* `OrchestratorTask.Shown`, `OrchestratorTask.Suppressed`, `OrchestratorTask.SurfacesAlike`.

## Main results

* `OrchestratorTask.dispatch_brings`: what each path does with a plaintext.
* `OrchestratorTask.surfacesAlike_iff`.
-/

namespace OrchestratorTask

variable {ε : Type} {X : Externals ε} {C : TaskConfig}

/-! ### The three paths -/

/-- The paths on which a decrypted plaintext reaches the user. -/
inductive Path
  | messageDecrypted
  | initResponder
  | healResponder
  deriving DecidableEq, Repr

/-- In the world `w` the action brings the plaintext of a message to the user, on the given path:
on a responder path because the core establishes the session with that plaintext. -/
inductive Brings (X : Externals ε) (w : TaskWorld ε) :
    Path → String → String → Bytes → CoreAction → Prop
  | messageDecrypted (contactId messageId : String) (plaintext : Bytes) :
      Brings X w .messageDecrypted contactId messageId plaintext
        (.messageDecrypted contactId messageId plaintext)
  | initResponder {contactId bundleJson session : String} {plaintext wire : Bytes} {e : ε}
      (hcount : 0 < X.pendingMessageCount contactId w.ext)
      (hpeek : X.peekFirstPendingWirePayload contactId w.ext = some wire)
      (hinit : X.initReceivingSessionFromWirePayload contactId (Utf8.encode bundleJson) wire
        w.ext = (.ok (session, plaintext), e)) :
      Brings X w .initResponder contactId ((popFirst X contactId).run { w with ext := e }).1
        plaintext (.initSession contactId bundleJson)
  | healResponder {contactId role bundleJson session : String} {bundle : SessionInitBundle}
      {plaintext wire : Bytes} {e₁ e₂ e₃ : ε}
      (hrole : role ≠ "Initiator") (hinited : contactId ∉ w.sessionInited)
      (htake : X.takeHealPayload contactId w.ext = (some wire, e₁))
      (hfetch : X.getPreKeyBundle contactId e₁ = (.ok bundle, e₂))
      (hjson : X.bundleToJson bundle = .ok bundleJson)
      (hinit : X.initReceivingSessionFromWirePayload contactId (Utf8.encode bundleJson) wire
        e₂ = (.ok (session, plaintext), e₃)) :
      Brings X w .healResponder contactId ((popFirst X contactId).run { w with ext := e₃ }).1
        plaintext (.sessionHealNeeded contactId role)

/-! ### Outcomes -/

/-- The messages shown so far. -/
def shown (w : TaskWorld ε) : List BridgeEvent := w.ui.filter BridgeEvent.isNewMessage

/-- One message was shown, and its row inserted if the statement ran. -/
def Shown (X : Externals ε) (contactId messageId text : String) (w w' : TaskWorld ε) : Prop :=
  ∃ ts, shown w' = shown w ++ [.newMessage contactId messageId text ts] ∧
    ((∀ e, (X.sqlFails e).1 = false) → w'.storage.messages = w.storage.messages.insertOrIgnore
      ⟨messageId, contactId, text, .received, ts, ""⟩)

/-- No row was written and no message shown. -/
def Suppressed (w w' : TaskWorld ε) : Prop :=
  shown w' = shown w ∧ w'.storage.messages = w.storage.messages

theorem Suppressed.refl (w : TaskWorld ε) : Suppressed w w := ⟨rfl, rfl⟩

theorem Suppressed.trans {w w' w'' : TaskWorld ε} (h : Suppressed w w') (h' : Suppressed w' w'') :
    Suppressed w w'' := ⟨h'.1.trans h.1, h'.2.trans h.2⟩

/-- A suppressing program around one that shows a message shows the same message. -/
theorem Shown.of_suppressed {contactId messageId text : String} {w₀ w₁ w₂ w₃ : TaskWorld ε}
    (h₀ : Suppressed w₀ w₁) (h : Shown X contactId messageId text w₁ w₂)
    (h₃ : Suppressed w₂ w₃) : Shown X contactId messageId text w₀ w₃ := by
  obtain ⟨ts, hs, hrow⟩ := h
  exact ⟨ts, by rw [h₃.1, hs, h₀.1], fun hsql => by rw [h₃.2, hrow hsql, h₀.2]⟩

theorem not_suppressed_of_shown {contactId messageId text : String} {w w' : TaskWorld ε}
    (h : Shown X contactId messageId text w w') : ¬Suppressed w w' := by
  rintro ⟨hs, -⟩
  obtain ⟨ts, hs', -⟩ := h
  simp [hs] at hs'

/-! ### Steps that show nothing -/

theorem external_suppressed {α : Type} (f : ε → α × ε) : (external f).Keeps Suppressed :=
  .act fun w => .refl w

theorem popFirst_suppressed (contactId : String) : (popFirst X contactId).Keeps Suppressed := by
  refine .bind (external_suppressed _) fun id => ?_
  cases id with
  | some id => exact .pure id
  | none => exact .bind (external_suppressed _) fun _ => .pure _

theorem finishInit_suppressed (contactId : String) : (finishInit X contactId).Keeps Suppressed :=
  .bind (.update fun w => .refl w) fun _ =>
    .bind (.bind (external_suppressed _) fun _ => .pure _) fun _ =>
      .bind (.update fun w => .refl w) fun _ => .update fun w => .refl w

theorem observe_suppressed (o : Obs) : (observe o).Keeps (Suppressed (ε := ε)) :=
  .update fun w => .refl w

theorem markPopped_suppressed (contactId messageId : String) :
    (observe (.popped messageId) >>= fun _ => markInited contactId).Keeps
      (Suppressed (ε := ε)) :=
  .bind (observe_suppressed _) fun _ => .update fun w => .refl w

theorem pushFollowUp_suppressed (event : IncomingEvent) :
    (pushFollowUp event).Keeps (Suppressed (ε := ε)) := .update fun w => .refl w

theorem run_suppressed {α : Type} {p : Prog (TaskWorld ε) α} (h : p.Keeps Suppressed)
    (w : TaskWorld ε) : Suppressed w (p.run w).2 :=
  h.run .refl (fun _ _ _ => .trans) w

/-! ### Storing and showing -/

theorem sql_suppressed {α : Type} {f : Storage → α × Storage}
    (h : ∀ s, (f s).2.messages = s.messages) : (sql X f).Keeps Suppressed := .act fun w => by
  unfold sqlStep
  split
  · exact .refl w
  · exact ⟨rfl, h _⟩

/-- Moving the watermark touches no message and shows none. -/
theorem commit_suppressed (messageId : String) :
    (CursorTracker.commit X messageId).Keeps Suppressed := by
  refine .bind (.act fun w => .refl w) fun cursor => ?_
  cases cursor with
  | none => exact .pure _
  | some c =>
    exact CursorTracker.persist_keeps X c (sql_suppressed fun _ => rfl)
      (fun _ => sql_suppressed fun _ => rfl) fun w => .refl w

theorem persistInbound_run (messageId : String) (msg : StoredMessage) (w : TaskWorld ε) :
    shown ((persistInbound X messageId msg).run w).2 = shown w ∧
      ((∀ e, (X.sqlFails e).1 = false) →
        ((persistInbound X messageId msg).run w).2.storage.messages =
        w.storage.messages.insertOrIgnore msg) := by
  have hc (w' : TaskWorld ε) := run_suppressed (commit_suppressed (X := X) messageId) w'
  simp only [persistInbound, Prog.run_bind_snd, exec, sql, Prog.run_act,
    observe, Prog.run_update, sqlStep]
  by_cases hf : (X.sqlFails w.ext).1 = true
  · simp only [hf, if_true, Option.isSome_none, Bool.false_eq_true, if_false]
    exact ⟨rfl, fun hsql => by simp [hsql] at hf⟩
  · simp only [hf]
    exact ⟨(hc _).1, fun _ => (hc _).2⟩

/-- What is stored and shown is one message, with its row. -/
theorem storeAndNotify_shown (contactId messageId text : String) (w : TaskWorld ε) :
    Shown X contactId messageId text w ((storeAndNotify X contactId messageId text).run w).2 := by
  simp only [storeAndNotify, Prog.run_bind_snd]
  generalize ((external X.millis).run w).1 = n
  obtain ⟨hs, hrow⟩ := persistInbound_run (X := X) messageId
    ⟨messageId, contactId, text, .received, millisI64 n, ""⟩ ((external X.millis).run w).2
  refine ⟨millisI64 n, ?_, hrow⟩
  simp only [sendUi, Prog.run_update, shown, List.filter_append]
  exact congrArg (· ++ _) hs

theorem surfaceFirst_run (contactId messageId : String) (plaintext : Bytes) (w : TaskWorld ε) :
    if isUserContent (Knst.decodeText C.proto plaintext) then
      Shown X contactId messageId (Knst.decodeText C.proto plaintext) w
        ((surfaceFirst X C contactId messageId plaintext).run w).2
    else Suppressed w ((surfaceFirst X C contactId messageId plaintext).run w).2 := by
  simp only [surfaceFirst]
  split
  · exact storeAndNotify_shown _ _ _ w
  · exact .refl w

/-- A first message between steps that show nothing. -/
theorem surfaceFirst_between {contactId messageId : String} {plaintext : Bytes}
    {w w₁ w' : TaskWorld ε} (h : Suppressed w w₁)
    (h' : Suppressed ((surfaceFirst X C contactId messageId plaintext).run w₁).2 w') :
    if isUserContent (Knst.decodeText C.proto plaintext) then
      Shown X contactId messageId (Knst.decodeText C.proto plaintext) w w'
    else Suppressed w w' := by
  have hrun := surfaceFirst_run (X := X) (C := C) contactId messageId plaintext w₁
  by_cases hc : isUserContent (Knst.decodeText C.proto plaintext)
  · rw [if_pos hc] at hrun ⊢
    exact hrun.of_suppressed h h'
  · rw [if_neg hc] at hrun ⊢
    exact h.trans (hrun.trans h')

/-- A plaintext is shown under its text: always on the path of `messageDecrypted`, and on a
responder path when it is user content; otherwise nothing is stored or shown. -/
theorem dispatch_brings {w : TaskWorld ε} {path : Path} {contactId messageId : String}
    {plaintext : Bytes} {action : CoreAction}
    (h : Brings X w path contactId messageId plaintext action) :
    if path = .messageDecrypted ∨ isUserContent (Knst.decodeText C.proto plaintext) then
      Shown X contactId messageId (Knst.decodeText C.proto plaintext) w
        ((dispatch X C action).run w).2
    else Suppressed w ((dispatch X C action).run w).2 := by
  cases h with
  | messageDecrypted => simpa [dispatch] using storeAndNotify_shown _ _ _ w
  | @initResponder contactId bundleJson session plaintext wire e hcount hpeek hinit =>
    simp only [dispatch, initSession, Prog.run_bind_snd, query, Prog.run_read, hcount, if_true,
      hpeek, external, Prog.run_act, hinit, reduceCtorEq, false_or]
    have hpop : Suppressed w _ :=
      run_suppressed (popFirst_suppressed (X := X) contactId) { w with ext := e }
    generalize (popFirst X contactId).run _ = popped at hpop ⊢
    have hmark := hpop.trans (run_suppressed (markPopped_suppressed contactId popped.1) popped.2)
    exact surfaceFirst_between hmark (run_suppressed (finishInit_suppressed contactId) _)
  | @healResponder contactId role bundleJson session bundle plaintext wire e₁ e₂ e₃ hrole hinited
      htake hfetch hjson hinit =>
    have hbundle : (fetchBundleJson X contactId).run { w with ext := e₁ } =
        (.ok bundleJson, { w with ext := e₂ }) := by
      rw [fetchBundleJson, Prog.run_bind]
      simp only [external, Prog.run_act, hfetch, hjson]
      rfl
    simp only [dispatch, sessionHealNeeded, Prog.run_bind_snd, Prog.run_read, hinited, if_false,
      hrole, healAsResponder, external, Prog.run_act, htake, hbundle, hinit, reduceCtorEq, false_or]
    have hpop : Suppressed w _ :=
      run_suppressed (popFirst_suppressed (X := X) contactId) { w with ext := e₃ }
    generalize (popFirst X contactId).run _ = popped at hpop ⊢
    have hmark := hpop.trans (run_suppressed (observe_suppressed (.popped popped.1)) popped.2)
    exact surfaceFirst_between hmark (run_suppressed (pushFollowUp_suppressed _) _)

/-! ### Agreement of the paths -/

/-- A plaintext that belongs in no transcript: a frame of a silent control type, or the heartbeat
of this client. -/
def IsControl (P : Proto) (plaintext : Bytes) : Prop :=
  (Knst.isFrame plaintext ∧ Knst.disposition P (plaintext.getD 5 0) = .silentControl) ∨
    plaintext = heartbeatPlaintext

/-- The plaintext meets the outcome on every path, in every world and whatever surrounds it. -/
def OnEveryPath (P : Proto) (plaintext : Bytes)
    (outcome : {ε : Type} → Externals ε → String → String → TaskWorld ε → TaskWorld ε → Prop) :
    Prop :=
  ∀ (ε : Type) (X : Externals ε) (me device : String) (w : TaskWorld ε) (path : Path)
    (contactId messageId : String) (action : CoreAction),
    Brings X w path contactId messageId plaintext action →
      outcome X contactId messageId w ((dispatch X ⟨P, me, device⟩ action).run w).2

/-- The plaintext is shown under its text on every path. -/
def AlwaysShown (P : Proto) (plaintext : Bytes) : Prop :=
  OnEveryPath P plaintext fun X contactId messageId w w' =>
    Shown X contactId messageId (Knst.decodeText P plaintext) w w'

/-- The plaintext leaves no row and shows nothing on any path. -/
def NeverShown (P : Proto) (plaintext : Bytes) : Prop :=
  OnEveryPath P plaintext fun _ _ _ w w' => Suppressed w w'

/-- Control plaintexts are never shown, and the paths decide alike. -/
def SurfacesAlike (P : Proto) (plaintext : Bytes) : Prop :=
  (IsControl P plaintext → NeverShown P plaintext) ∧
    (AlwaysShown P plaintext ∨ NeverShown P plaintext)

/-- Control plaintexts fail the test for user content. -/
theorem not_isUserContent_of_isControl {P : Proto} {plaintext : Bytes}
    (h : IsControl P plaintext) : ¬isUserContent (Knst.decodeText P plaintext) := by
  rcases h with ⟨hf, hs⟩ | rfl
  · rw [Knst.decodeText_of_silent P hf hs]
    decide
  · rw [show heartbeatPlaintext = Utf8.encode "\x00HEARTBEAT\x00" by decide,
      Knst.decodeText_encode P (by decide)]
    decide

/-- A core that establishes every session from one waiting first message. -/
def firstMessageWaiting (plaintext : Bytes) : Externals Unit :=
  { Externals.quiet with
    pendingMessageCount := fun _ _ => 1
    peekFirstPendingWirePayload := fun _ _ => some []
    initReceivingSessionFromWirePayload := fun _ _ _ _ => (.ok ("", plaintext), ()) }

/-- The paths agree on a plaintext, and keep it out of the transcript when it is a control message,
exactly when its text is user content by the test of the responder paths. -/
theorem surfacesAlike_iff (P : Proto) (plaintext : Bytes) :
    SurfacesAlike P plaintext ↔ isUserContent (Knst.decodeText P plaintext) := by
  constructor
  · rintro ⟨-, hshown | hnever⟩
    · -- a responder path shows only user content
      by_contra hc
      have hb : Brings (firstMessageWaiting plaintext) (.start () .init) .initResponder _ _
          plaintext (.initSession "" "") := .initResponder Nat.one_pos rfl rfl
      have h := dispatch_brings (C := ⟨P, "", ""⟩) hb
      rw [if_neg (by simpa using hc)] at h
      exact not_suppressed_of_shown (hshown _ _ "" "" _ _ _ _ _ hb) h
    · -- `messageDecrypted` shows everything
      have hb : Brings Externals.quiet (.start () .init) .messageDecrypted "" "" plaintext _ :=
        .messageDecrypted "" "" plaintext
      have h := dispatch_brings (C := ⟨P, "", ""⟩) hb
      rw [if_pos (Or.inl rfl)] at h
      exact absurd (hnever _ _ "" "" _ _ _ _ _ hb) (not_suppressed_of_shown h)
  · intro hc
    refine ⟨fun h => absurd hc (not_isUserContent_of_isControl h), Or.inl ?_⟩
    intro ε X me device w path contactId messageId action hb
    have h := dispatch_brings (C := ⟨P, me, device⟩) hb
    rwa [if_pos (Or.inr hc)] at h

/-- A heartbeat and a session ping that arrive as `messageDecrypted` are stored and shown. -/
theorem control_messages_shown :
    let arrive (plaintext : Bytes) := ((dispatch Externals.quiet ⟨.tagged, "me", "phone"⟩
      (.messageDecrypted "peer" "m1" plaintext)).run (.start () .init)).2
    ((arrive heartbeatPlaintext).storage.getMessages "peer" 50).map StoredMessage.text =
        ["\x00HEARTBEAT\x00"] ∧
      (arrive heartbeatPlaintext).ui = [.newMessage "peer" "m1" "\x00HEARTBEAT\x00" 0] ∧
      ((arrive (Knst.encodeSessionPing .tagged "m1")).storage.getMessages "peer" 50).map
        StoredMessage.text = [""] ∧
      (arrive (Knst.encodeSessionPing .tagged "m1")).ui = [.newMessage "peer" "m1" "" 0] := by
  decide

end OrchestratorTask
