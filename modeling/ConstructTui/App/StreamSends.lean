import ConstructTui.App.Channels
import ConstructTui.Orchestrator.Healing
import ConstructTui.Stream.Subscriptions

/-!
# Commands for the stream worker

The orchestrator task and the app put commands into the worker's channel, which has 64 slots, and
neither waits for one. Whether there was room changes nothing but the channel: no caller looks at
the answer of `try_send`, so a command that finds the channel full is gone and nobody hears of it.

## Main definitions

* `Pipeline.hasRoom`: what `try_send` answers.
* `Accounted`: what a call sends is in the channel, or its loss shows.
* `OrchestratorTask.Sends`: the actions of the core that send an envelope.

## Main results

* `OrchestratorTask.sendsOne_of_sends`, `OrchestratorTask.dispatchWith_of_not_sends`: what the
  answer changes when an action is carried out.
* `streamCmds_accounted_iff`: what a call sends is accounted for exactly when there is room.
* `Pipeline.tracked_workerStep`: the worker's end of the channel.
-/

variable {ε : Type}

/-- The slots of the worker's channel. -/
def streamCmdSlots : ℕ := 64

/-- What `try_send` answers: a slot is free, and the worker has not returned. -/
def Pipeline.hasRoom (p : Pipeline ε) : Bool :=
  p.world.streamTx.length < streamCmdSlots && p.worker.phase ≠ .exited

/-- A call is given by what it leaves, in the channel and elsewhere, for either answer of
`try_send`. Under an answer its command is accounted for: it stands in the channel behind what was
there, or else its loss shows somewhere. -/
def Accounted {R : Type*} (channel : List StreamCmd) (call : Bool → List StreamCmd × R)
    (room : Bool) : Prop :=
  ∃ cmd, (call true).1 = channel ++ [cmd] ∧
    ((call room).1 = channel ++ [cmd] ∨ (call room).2 ≠ (call true).2)

/-- The answer decides over the channel, and over nothing else. -/
structure Unheeded {R : Type*} (channel : List StreamCmd) (call : Bool → List StreamCmd × R)
    (cmd : StreamCmd) : Prop where
  sent : (call true).1 = channel ++ [cmd]
  lost : (call false).1 = channel
  rest : (call false).2 = (call true).2

/-- What a call sends whose answer is not heeded is accounted for exactly when there is room. -/
theorem Unheeded.accounted_iff {R : Type*} {channel : List StreamCmd}
    {call : Bool → List StreamCmd × R} {cmd : StreamCmd} (h : Unheeded channel call cmd)
    (room : Bool) : Accounted channel call room ↔ room = true := by
  cases room with
  | true => exact iff_of_true ⟨cmd, h.sent, .inl h.sent⟩ rfl
  | false =>
    refine iff_of_false ?_ Bool.false_ne_true
    rintro ⟨cmd', -, heq | hne⟩
    · simpa using congrArg List.length (h.lost.symm.trans heq)
    · exact hne h.rest

/-! ### The orchestrator task -/

/-- The same surroundings, with the answer of `try_send` given. -/
def Externals.withRoom (X : Externals ε) (room : Bool) : Externals ε :=
  { X with streamHasRoom := fun e => (room, (X.streamHasRoom e).2) }

namespace OrchestratorTask

variable {X : Externals ε} {C : TaskConfig}

/-- The world without the channel. -/
def besideChannel (w : TaskWorld ε) : List StreamCmd × TaskWorld ε :=
  (w.streamTx, { w with streamTx := [] })

/-- Carry out an action of the core, with the answer of `try_send` given. -/
def dispatchWith (X : Externals ε) (C : TaskConfig) (action : CoreAction) (w : TaskWorld ε)
    (room : Bool) : List StreamCmd × TaskWorld ε :=
  besideChannel ((dispatch (X.withRoom room) C action).run w).2

/-- The actions of the core that send an envelope: a message, the end of a session, and a heal that
resets the peer. -/
def Sends (X : Externals ε) (w : TaskWorld ε) : CoreAction → Prop
  | .sendEncryptedMessage _ _ _ _ | .sendEndSession _ => True
  | .sessionHealNeeded contactId role => contactId ∉ w.sessionInited ∧
      (role = "Initiator" ∨ healOutcome X contactId role w = .initFailed)
  | _ => False

/-- The second world has another channel, and is the first otherwise. -/
def ApartFromStream (channel channel' : List StreamCmd) (u v : TaskWorld ε) : Prop :=
  u.streamTx = channel ∧ v = { u with streamTx := channel' }

variable {channel channel' : List StreamCmd}

/-- A step that neither reads nor writes the channel. -/
theorem couples_of_blind {α : Type} {f : TaskWorld ε → α × TaskWorld ε}
    (hf : ∀ u channel, f { u with streamTx := channel } =
      ((f u).1, { (f u).2 with streamTx := channel })) :
    (Prog.act f).Couples (ApartFromStream channel channel') := by
  rintro u v ⟨hu, rfl⟩
  have hself : f u = ((f u).1, { (f u).2 with streamTx := u.streamTx }) := hf u u.streamTx
  refine ⟨?_, ?_, ?_⟩
  · rw [Prog.run_act, Prog.run_act, hf u channel']
  · rw [Prog.run_act, hself]
    exact hu
  · rw [Prog.run_act, Prog.run_act, hf u channel']

theorem fetchBundleJson_couples (contactId : String) :
    (fetchBundleJson X contactId).Couples (ApartFromStream channel channel') := by
  refine .bind (couples_of_blind fun _ _ => rfl) fun bundle => ?_
  cases bundle <;> exact .pure _

theorem initInitiatorFromJson_couples (contactId bundleJson : String) :
    (initInitiatorFromJson X contactId bundleJson).Couples (ApartFromStream channel channel') := by
  unfold initInitiatorFromJson
  cases X.bundleOfJson bundleJson with
  | error e => exact .pure _
  | ok bundle => exact couples_of_blind fun _ _ => rfl

/-- The action sends an envelope, and its answer is not heeded. -/
def SendsOne (X : Externals ε) (C : TaskConfig) (action : CoreAction) (w : TaskWorld ε) : Prop :=
  ∃ envelope, Unheeded w.streamTx (dispatchWith X C action w) (.send envelope)

theorem sendsOne_iff {action : CoreAction} {w : TaskWorld ε} : SendsOne X C action w ↔
    ∃ envelope, (dispatchWith X C action w true).1 = w.streamTx ++ [.send envelope] ∧
      (dispatchWith X C action w false).1 = w.streamTx ∧
      (dispatchWith X C action w false).2 = (dispatchWith X C action w true).2 :=
  exists_congr fun _ => ⟨fun h => ⟨h.sent, h.lost, h.rest⟩, fun h => ⟨h.1, h.2.1, h.2.2⟩⟩

/-- What a heal as initiator does once its reset is sent. -/
def healAfterReset (X : Externals ε) (C : TaskConfig) (contactId : String) :
    Prog (TaskWorld ε) Unit := do
  match ← fetchBundleJson X contactId with
  | .error _ => return
  | .ok bundleJson =>
    match ← initInitiatorFromJson X contactId bundleJson with
    | .error _ => return
    | .ok _ =>
      pushFollowUp (.sessionInitCompleted contactId [])
      let pingId ← uuidV4 X
      pushFollowUp (.outgoingMessage contactId pingId
        (Knst.encodeSessionPing C.proto pingId) 0)

theorem healAfterReset_couples (contactId : String) :
    (healAfterReset X C contactId).Couples (ApartFromStream channel channel') := by
  refine .bind (fetchBundleJson_couples contactId) fun bundle => ?_
  cases bundle with
  | error e => exact .pure _
  | ok bundleJson =>
    refine .bind (initInitiatorFromJson_couples contactId bundleJson) fun session => ?_
    cases session with
    | error e => exact .pure _
    | ok sessionId =>
      refine .bind (couples_of_blind fun _ _ => rfl) fun _ => ?_
      exact .bind (.bind (couples_of_blind fun _ _ => rfl) fun _ => .pure _) fun _ =>
        couples_of_blind fun _ _ => rfl

/-- A heal as initiator sends its reset first, and does not look back. -/
theorem sendsOne_heal_of_initiator {contactId : String} {w : TaskWorld ε}
    (h : contactId ∉ w.sessionInited) :
    SendsOne X C (.sessionHealNeeded contactId "Initiator") w := by
  have hrun (room : Bool) : (dispatch (X.withRoom room) C
      (.sessionHealNeeded contactId "Initiator")).run w = (healAfterReset X C contactId).run
        ((sendSessionReset (X.withRoom room) C contactId).run w).2 := by
    rw [dispatch_heal, if_neg h, if_pos rfl]
    exact Prog.run_bind _ (sendSessionReset (X.withRoom room) C contactId) w
  obtain ⟨reset, hreset⟩ : ∃ reset, ((sendSessionReset (X.withRoom true) C contactId).run w).2 =
      { ((sendSessionReset (X.withRoom false) C contactId).run w).2 with
        streamTx := w.streamTx ++ [.send reset] } := ⟨_, rfl⟩
  obtain ⟨-, hlost, hsent⟩ := healAfterReset_couples (X := X) (C := C) contactId
    ((sendSessionReset (X.withRoom false) C contactId).run w).2 _ ⟨rfl, hreset⟩
  refine ⟨reset, ?_, ?_, ?_⟩
  · show ((dispatch (X.withRoom true) C _).run w).2.streamTx = _
    rw [hrun, hsent]
  · show ((dispatch (X.withRoom false) C _).run w).2.streamTx = _
    rw [hrun, hlost]
    rfl
  · show { ((dispatch (X.withRoom false) C _).run w).2 with streamTx := [] } =
      { ((dispatch (X.withRoom true) C _).run w).2 with streamTx := [] }
    rw [hrun, hrun, hsent]

/-- A heal as responder sends a reset if the session cannot be set up, and nothing otherwise. -/
theorem heal_of_responder {contactId role : String} {w : TaskWorld ε}
    (h : contactId ∉ w.sessionInited) (hrole : role ≠ "Initiator") :
    healOutcome X contactId role w = .initFailed ∧
        SendsOne X C (.sessionHealNeeded contactId role) w ∨
      healOutcome X contactId role w ≠ .initFailed ∧
        dispatchWith X C (.sessionHealNeeded contactId role) w false =
          dispatchWith X C (.sessionHealNeeded contactId role) w true := by
  have hrun (room : Bool) :
      (dispatch (X.withRoom room) C (.sessionHealNeeded contactId role)).run w =
      (healAsResponder (X.withRoom room) C contactId).run w := by
    rw [dispatch_heal, if_neg h, if_neg hrole]
  -- the answer of `try_send` is no part of what the core and the network answer
  have htake (room : Bool) : (X.withRoom room).takeHealPayload = X.takeHealPayload := rfl
  have hbundle (room : Bool) : bundleAnswer (X.withRoom room) = bundleAnswer X := rfl
  have hfetch (room : Bool) : (X.withRoom room).getPreKeyBundle = X.getPreKeyBundle := rfl
  rw [sendsOne_iff]
  unfold healOutcome responderOutcome dispatchWith
  rw [if_neg h, if_neg hrole, hrun, hrun, healAsResponder_run, healAsResponder_run]
  simp only [htake, hbundle, hfetch]
  cases X.takeHealPayload contactId w.ext with
  | mk payload e =>
    cases payload with
    | none => exact .inr ⟨HealOutcome.noConfusion, rfl⟩
    | some wire =>
      dsimp only
      cases bundleAnswer X contactId e with
      | error error => exact .inr ⟨HealOutcome.noConfusion, rfl⟩
      | ok bundleJson =>
        dsimp only
        unfold healWithBundle
        rw [Prog.run_bind, Prog.run_bind]
        unfold external
        dsimp only [Prog.run_act, Externals.withRoom]
        cases X.initReceivingSessionFromWirePayload contactId (Utf8.encode bundleJson) wire
            (X.getPreKeyBundle contactId e).2 with
        | mk answer e' =>
          cases answer with
          | ok session => exact .inr ⟨HealOutcome.noConfusion, rfl⟩
          | error error => exact .inl ⟨rfl, _, rfl, rfl, rfl⟩

theorem sendsOne_of_sends {action : CoreAction} {w : TaskWorld ε} (h : Sends X w action) :
    SendsOne X C action w := by
  match action, h with
  | .sendEncryptedMessage _ _ _ _, _ => exact ⟨_, ⟨rfl, rfl, rfl⟩⟩
  | .sendEndSession _, _ => exact ⟨_, ⟨rfl, rfl, rfl⟩⟩
  | .sessionHealNeeded contactId role, ⟨hmem, hends⟩ =>
    by_cases hrole : role = "Initiator"
    · subst hrole
      exact sendsOne_heal_of_initiator hmem
    · obtain ⟨-, hsends⟩ | ⟨hne, -⟩ := heal_of_responder (X := X) (C := C) hmem hrole
      · exact hsends
      · exact absurd (hends.resolve_left hrole) hne

/-- No other action sends anything. -/
theorem dispatchWith_of_not_sends {action : CoreAction} {w : TaskWorld ε} (h : ¬Sends X w action) :
    dispatchWith X C action w false = dispatchWith X C action w true := by
  cases action with
  | sendEncryptedMessage _ _ _ _ => exact absurd trivial h
  | sendEndSession _ => exact absurd trivial h
  | sessionHealNeeded contactId role =>
    by_cases hmem : contactId ∈ w.sessionInited
    · unfold dispatchWith
      rw [dispatch_heal, dispatch_heal, if_pos hmem, if_pos hmem]
    · by_cases hrole : role = "Initiator"
      · exact absurd ⟨hmem, .inl hrole⟩ h
      · obtain ⟨hfailed, -⟩ | ⟨-, heq⟩ := heal_of_responder (X := X) (C := C) hmem hrole
        · exact absurd ⟨hmem, .inr hfailed⟩ h
        · exact heq
  | _ => rfl

end OrchestratorTask

/-! ### The app -/

/-- A pipeline without the channel of its worker, and without the mark that the worker was told to
shut down. -/
def Pipeline.withoutChannel (p : Pipeline ε) : Pipeline ε :=
  { p with world := { p.world with streamTx := [] }, shutDown := false }

namespace Sys

/-- The client without the channel of one of its workers. -/
def besideChannel (i : ℕ) (s : Sys ε) : List StreamCmd × Sys ε :=
  (((s.pipelines[i]?).map fun p => p.world.streamTx).getD [],
    { s with pipelines := s.pipelines.modify i Pipeline.withoutChannel })

variable {s : Sys ε} {i : ℕ} {p : Pipeline ε}

theorem besideChannel_fst (hp : s.pipelines[i]? = some p) :
    (s.besideChannel i).1 = p.world.streamTx := by
  unfold besideChannel
  rw [hp]
  rfl

/-- A command that the app sends stands behind what was there. -/
theorem streamTrySend_fst (hp : s.pipelines[i]? = some p) (cmd : StreamCmd) :
    ((s.streamTrySend (some i) true cmd).besideChannel i).1 = p.world.streamTx ++ [cmd] := by
  refine besideChannel_fst (p := { p with
    world := { p.world with streamTx := p.world.streamTx ++ [cmd] }
    shutDown := p.shutDown || cmd = .shutdown }) ?_
  show (s.pipelines.modify i _)[i]? = _
  rw [List.getElem?_modify_eq, hp]
  rfl

/-- It changes nothing else. -/
theorem modify_streamTrySend (cmd : StreamCmd) :
    (s.streamTrySend (some i) true cmd).pipelines.modify i Pipeline.withoutChannel =
      s.pipelines.modify i Pipeline.withoutChannel := by
  show (s.pipelines.modify i _).modify i _ = _
  rw [List.modify_modify_eq]
  exact congrArg (s.pipelines.modify i) (funext fun _ => rfl)

/-- A new subscription of the stream is sent, and the answer is not heeded. -/
theorem unheeded_resubscribe (ans : Answers ε) (hp : s.pipelines[i]? = some p)
    (htx : s.app.streamTx = some i) : ∃ cmd, Unheeded p.world.streamTx
      (fun room => (App.resubscribeStreamToContacts { ans with streamHasRoom := room }
        s).besideChannel i) cmd := by
  unfold App.resubscribeStreamToContacts
  rw [htx]
  refine ⟨_, streamTrySend_fst hp _, besideChannel_fst hp, ?_⟩
  exact congrArg (fun ps => { s with pipelines := ps }) (modify_streamTrySend _).symm

/-- A logout shuts the worker down, and the answer is not heeded. -/
theorem unheeded_logout (ans : Answers ε) (hp : s.pipelines[i]? = some p)
    (htx : s.app.streamTx = some i) (hclear : (s.dir.clearSession ans.clear).1 = .ok ()) :
    Unheeded p.world.streamTx (fun room => (App.doLogout { ans with streamHasRoom := room }
      s).besideChannel i) .shutdown := by
  obtain ⟨dir, hclear⟩ : ∃ dir, s.dir.clearSession ans.clear = (.ok (), dir) :=
    ⟨_, Prod.ext hclear rfl⟩
  obtain ⟨t, ht⟩ : ∃ t : Sys ε, ∀ room, App.doLogout { ans with streamHasRoom := room } s =
      { t with pipelines := (s.streamTrySend (some i) room .shutdown).pipelines } := by
    refine ⟨App.doLogout { ans with streamHasRoom := false } s, fun room => ?_⟩
    unfold App.doLogout
    dsimp only
    rw [hclear, htx]
    cases room <;> rfl
  simp only [ht]
  refine ⟨streamTrySend_fst hp _, besideChannel_fst hp, ?_⟩
  exact congrArg (fun ps => { t with pipelines := ps }) (modify_streamTrySend _).symm

end Sys

/-! ### Every call -/

/-- **What a call sends to a stream worker is accounted for exactly when there is room.** The calls
are the actions of the core that send an envelope, a new subscription, and a logout that clears the
session. -/
theorem streamCmds_accounted_iff (E : AppExternals ε) (s : Sys ε) {i : ℕ} {p : Pipeline ε}
    (hp : s.pipelines[i]? = some p) :
    (∀ action, OrchestratorTask.Sends E.core p.world action →
      (Accounted p.world.streamTx (OrchestratorTask.dispatchWith E.core p.config action p.world)
        p.hasRoom ↔ p.hasRoom = true)) ∧
    (s.app.streamTx = some i → ∀ ans : Answers ε,
      (Accounted p.world.streamTx (fun room =>
        (App.resubscribeStreamToContacts { ans with streamHasRoom := room } s).besideChannel i)
        p.hasRoom ↔ p.hasRoom = true) ∧
      ((s.dir.clearSession ans.clear).1 = .ok () →
        (Accounted p.world.streamTx (fun room =>
          (App.doLogout { ans with streamHasRoom := room } s).besideChannel i)
          p.hasRoom ↔ p.hasRoom = true))) := by
  refine ⟨fun action hsends => ?_, fun htx ans => ⟨?_, fun hclear => ?_⟩⟩
  · obtain ⟨envelope, h⟩ := OrchestratorTask.sendsOne_of_sends (C := p.config) hsends
    exact h.accounted_iff p.hasRoom
  · obtain ⟨cmd, h⟩ := Sys.unheeded_resubscribe ans hp htx
    exact h.accounted_iff p.hasRoom
  · exact (Sys.unheeded_logout ans hp htx hclear).accounted_iff p.hasRoom

/-- A message whose ratchet step the core has taken. -/
def encrypted : CoreAction := .sendEncryptedMessage "bob" [1, 2, 3] "m" 0

/-- A pipeline whose worker waits for its stream to open, once the core has sent some messages. -/
def outage (sent : ℕ) : Pipeline Unit :=
  let p := App.newPipeline .quiet .quiet "me" "phone" ["bob"] [] () .init
  { p with
    world := ((OrchestratorTask.dispatchAll .quiet p.config (List.replicate sent encrypted)).run
      p.world).2
    worker := Run.ending StreamWorker.step (.start ["bob"]) [.polled .empty, .invalidated none] }

/-- The first message of an outage waits in the channel. -/
theorem accounted_first_message : Accounted (outage 0).world.streamTx
    (OrchestratorTask.dispatchWith .quiet (outage 0).config encrypted (outage 0).world)
    (outage 0).hasRoom :=
  ((streamCmds_accounted_iff (i := 0) .quiet { Sys.fresh with pipelines := [outage 0] } rfl).1
    encrypted trivial).mpr (by decide)

/-- The sixty-fifth is gone, and nobody is told. -/
theorem not_accounted_full_channel : ¬Accounted (outage 64).world.streamTx
    (OrchestratorTask.dispatchWith .quiet (outage 64).config encrypted (outage 64).world)
    (outage 64).hasRoom := by
  have hroom : (outage 64).hasRoom = false := rfl
  obtain ⟨envelope, h⟩ : OrchestratorTask.SendsOne .quiet (outage 64).config encrypted
      (outage 64).world := OrchestratorTask.sendsOne_of_sends trivial
  rw [h.accounted_iff, hroom]
  exact Bool.false_ne_true

/-! ### The worker's end -/

/-- What the worker takes from the channel, and the watermark it reads, are the moves of a worker
beside the watermark in memory. -/
theorem Pipeline.tracked_workerStep {p p' : Pipeline ε} {answer : StreamWorker.Answer}
    (h : p.workerStep answer = some p') :
    StreamWorker.Tracked.step ⟨p.worker, p.world.committed⟩ (.answer answer) =
      some ⟨p'.worker, p'.world.committed⟩ := by
  unfold workerStep at h
  split at h
  · rename_i channel worker hchannel hworker
    split at h
    · rename_i hsince
      obtain rfl := Option.some.inj h
      have hreads : answer.readsFrom p.world.committed = true := by
        cases answer <;> exact hsince
      show (if answer.readsFrom p.world.committed = true then
        (StreamWorker.step p.worker answer).map _ else none) = _
      rw [if_pos hreads, hworker]
      rfl
    · cases h
  · cases h
