import ConstructTui.Orchestrator.Walk

/-!
# What an atomic step of the task can do

Every atomic step of the dispatcher, apart from the ones that store and show a decrypted message,
does one of the things `Effect` lists; the drivers add those of `DriverEffect`. So the programs of
the task are of every kind that composition stays in and that these effects are of. An invariant of
the task is checked against the lists once, and `deliver_safe` and its companions carry it through
the programs.

## Main definitions

* `OrchestratorTask.Effect`, `OrchestratorTask.DriverEffect`, `OrchestratorTask.StoreEffect`.

## Main results

* `OrchestratorTask.dispatch_closed`, `OrchestratorTask.deliver_closed`,
  `OrchestratorTask.handleRx_closed`, `OrchestratorTask.forgetContact_closed`.
* `OrchestratorTask.dispatch_safe`, `OrchestratorTask.deliver_safe`,
  `OrchestratorTask.handleRx_safe`, `OrchestratorTask.forgetContact_safe`.
-/

namespace OrchestratorTask

variable {ε : Type} {X : Externals ε} {C : TaskConfig}

/-- The effects of the dispatcher's atomic steps. -/
inductive Effect : TaskWorld ε → TaskWorld ε → Prop
  | tables (w : TaskWorld ε) (ext : ε) (streamTx : List StreamCmd) (selfTx : List IncomingEvent)
      (timers : Dict ℕ) (spawned : List Spawned) (aborted : List ℕ) (established : Dict ℕ)
      (inited : List String) (hself : w.selfTx <+: selfTx) :
      Effect w { w with
        ext := ext, streamTx := streamTx, selfTx := selfTx, timers := timers, spawned := spawned,
        aborted := aborted, sessionEstablishedAtMs := established, sessionInited := inited }
  | statement (w : TaskWorld ε) (ext : ε) (s : Storage) (h : w.storage.Alike s) :
      Effect w { w with ext := ext, storage := s }
  | saved (w : TaskWorld ε) (ext : ε) (key : String) (s : Storage)
      (h : s = w.storage ∨ ∃ data, s = w.storage.secureSaveOrDelete key data) :
      Effect w { w with ext := ext, storage := s, log := w.log ++ [.saved key] }
  | ui (w : TaskWorld ε) (event : BridgeEvent) (h : event.isNewMessage = false) :
      Effect w { w with ui := w.ui ++ [event] }
  | notified (w : TaskWorld ε) (chatId : String) (event : BridgeEvent) :
      Effect w { w with ui := w.ui ++ [event], log := w.log ++ [.notified chatId] }
  | pushed (w : TaskWorld ε) (event : IncomingEvent) :
      Effect w { w with followUps := w.followUps ++ [event], log := w.log ++ [.pushed event] }
  | queued (w : TaskWorld ε) (messageId : String) :
      Effect w { w with log := w.log ++ [.queued messageId] }
  | popped (w : TaskWorld ε) (messageId : String) :
      Effect w { w with log := w.log ++ [.popped messageId] }

/-- What the drivers do besides dispatching. -/
inductive DriverEffect : TaskWorld ε → TaskWorld ε → Prop
  | effect {w w' : TaskWorld ε} (h : Effect w w') : DriverEffect w w'
  | handled (w : TaskWorld ε) (ext : ε) (event : IncomingEvent) :
      DriverEffect w { w with ext := ext, log := w.log ++ [.handled event] }
  | cycle (w : TaskWorld ε) (followUps : List IncomingEvent) (inited : List String) :
      DriverEffect w { w with followUps := followUps, sessionInited := inited }

/-- What storing and showing a message does, told no finer than who is touched. -/
inductive StoreEffect : TaskWorld ε → TaskWorld ε → Prop
  | data (w : TaskWorld ε) (ext : ε) (s : Storage) (committed : Option String)
      (pendingCursors : Dict String) (ui : List BridgeEvent) :
      StoreEffect w { w with
        ext := ext, storage := s, committed := committed, pendingCursors := pendingCursors,
        ui := ui }
  | decrypted (w : TaskWorld ε) (messageId peerId text : String) :
      StoreEffect w { w with log := w.log ++ [.decrypted messageId peerId text] }

/-! ### Atomic steps -/

theorem Effect.refl (w : TaskWorld ε) : Effect w w :=
  .tables w w.ext w.streamTx w.selfTx w.timers w.spawned w.aborted w.sessionEstablishedAtMs
    w.sessionInited List.prefix_rfl

theorem query_keeps {α : Type} (f : ε → α) : (query f).Keeps Effect :=
  .read .refl _

theorem external_keeps {α : Type} (f : ε → α × ε) : (external f).Keeps Effect :=
  .act fun w => .tables w _ _ _ _ _ _ _ _ List.prefix_rfl

theorem sql_keeps {α : Type} {f : Storage → α × Storage} (h : ∀ s : Storage, s.Alike (f s).2) :
    (sql X f).Keeps Effect := .act fun w => by
  unfold sqlStep
  split
  · exact .statement w _ w.storage (.refl _)
  · exact .statement w _ _ (h _)

theorem exec_keeps {f : Storage → Storage} (h : ∀ s : Storage, s.Alike (f s)) :
    (exec X f).Keeps Effect := sql_keeps h

theorem sendUi_keeps {event : BridgeEvent} (h : event.isNewMessage = false) :
    (sendUi event).Keeps (Effect (ε := ε)) := .update fun w => .ui w event h

theorem sendSelf_keeps (event : IncomingEvent) : (sendSelf event).Keeps (Effect (ε := ε)) :=
  .update fun w => .tables w _ _ _ _ _ _ _ _ (List.prefix_append _ _)

theorem trySend_keeps (cmd : StreamCmd) : (trySend X cmd).Keeps Effect :=
  .update fun w => .tables w _ _ _ _ _ _ _ _ List.prefix_rfl

theorem spawn_keeps (task : Spawned) : (spawn task).Keeps (Effect (ε := ε)) :=
  .act fun w => .tables w _ _ _ _ _ _ _ _ List.prefix_rfl

theorem pushFollowUp_keeps (event : IncomingEvent) : (pushFollowUp event).Keeps (Effect (ε := ε)) :=
  .update fun w => .pushed w event

theorem markInited_keeps (contactId : String) : (markInited contactId).Keeps (Effect (ε := ε)) :=
  .update fun w => .tables w _ _ _ _ _ _ _ _ List.prefix_rfl

theorem setEstablished_keeps (contactId : String) (atMs : ℕ) :
    (setEstablished contactId atMs).Keeps (Effect (ε := ε)) :=
  .update fun w => .tables w _ _ _ _ _ _ _ _ List.prefix_rfl

theorem removeEstablished_keeps (contactId : String) :
    (removeEstablished contactId).Keeps (Effect (ε := ε)) :=
  .update fun w => .tables w _ _ _ _ _ _ _ _ List.prefix_rfl

theorem insertTimer_keeps (timerId : String) (handle : ℕ) :
    (insertTimer timerId handle).Keeps (Effect (ε := ε)) :=
  .update fun w => .tables w _ _ _ _ _ _ _ _ List.prefix_rfl

theorem abortTimer_keeps (timerId : String) : (abortTimer timerId).Keeps (Effect (ε := ε)) :=
  .update fun w => by
    split
    · exact .tables w _ _ _ _ _ _ _ _ List.prefix_rfl
    · exact .refl w

theorem applySecureStoreSave_keeps (key : String) (data : Bytes) :
    (applySecureStoreSave X key data).Keeps Effect := .update fun w => by
  dsimp only [sqlStep]
  split
  · exact .saved w _ key w.storage (Or.inl rfl)
  · exact .saved w _ key _ (Or.inr ⟨data, rfl⟩)

/-! ### Storing and showing a message -/

theorem sql_storeKeeps {α : Type} (f : Storage → α × Storage) : (sql X f).Keeps StoreEffect :=
  .act fun w => by
    unfold sqlStep
    split
    · exact .data w _ _ _ _ _
    · exact .data w _ _ _ _ _

theorem note_storeKeeps (messageId : String) (cursor : Option String) :
    (CursorTracker.note messageId cursor).Keeps (StoreEffect (ε := ε)) := by
  unfold CursorTracker.note
  split
  · exact .pure _
  · exact .update fun w => .data w _ _ _ _ _

theorem persist_storeKeeps (cursor : Option String) :
    (CursorTracker.persist X cursor).Keeps StoreEffect := by
  cases cursor with
  | none => exact .pure _
  | some c =>
    exact CursorTracker.persist_keeps X c (sql_storeKeeps _) (fun _ => sql_storeKeeps _)
      fun w => .data w _ _ _ _ _

theorem storeAndNotify_keeps (contactId messageId text : String) :
    (storeAndNotify X contactId messageId text).Keeps StoreEffect := by
  refine .bind (.act fun w => .data w _ _ _ _ _) fun n => .bind ?_ fun _ =>
    .update fun w => .data w _ _ _ _ _
  refine .bind (.update fun w => .decrypted w messageId contactId text) fun _ =>
    .bind (sql_storeKeeps _) fun stored => ?_
  split
  · exact .bind (.act fun w => .data w _ _ _ _ _) fun cursor => persist_storeKeeps cursor
  · exact .pure _

/-! ### What the dispatcher can do -/

theorem TaskStatement.alike {f : Storage → Storage} (h : TaskStatement f) (s : Storage) :
    s.Alike (f s) := by
  cases h with
  | persistRecord json => exact .of_eq rfl rfl
  | storeAck messageId timestampMs => exact .of_eq rfl rfl
  | pruneAcks cutoffMs => exact .of_eq rfl rfl
  | markDelivered messageId => exact .markDelivered _ s
  | saveArchive contactId bytes => exact .secureSave (Storage.archiveKey_ne _) _ s
  | deleteSession contactId => exact .secureDelete (Storage.sessionKey_ne _) s
  | deleteArchive contactId => exact .secureDelete (Storage.archiveKey_ne _) s
  | saveState state => exact .secureSaveOrDelete Storage.orchestratorStateKey_ne _ s

section Dispatcher

variable {P : (α : Type) → Prog (TaskWorld ε) α → Prop} (hP : Prog.Closed P)
  (hE : ∀ (α : Type) (p : Prog (TaskWorld ε) α), p.Keeps Effect → P α p)
  (hS : ∀ contactId messageId text, P Unit (storeAndNotify X contactId messageId text))

include hP hE hS

/-- A kind that the effects, and the showing of a message, are of has the steps of the
dispatcher. -/
theorem actionSteps : ActionSteps X (fun _ => True) P where
  toClosed := hP
  query _ := hE _ _ (query_keeps _)
  external _ := hE _ _ (external_keeps _)
  inited := hE _ _ (.read .refl _)
  queued id := hE _ _ (.update fun w => .queued w id)
  popped id := hE _ _ (.update fun w => .popped w id)
  sendUi _ h := hE _ _ (sendUi_keeps h)
  notifyUi chatId _ _ := hE _ _ (.update fun w => .notified w chatId _)
  sendOutgoing _ _ _ _ := hE _ _ (sendSelf_keeps _)
  trySend _ := hE _ _ (trySend_keeps _)
  spawn _ _ := hE _ _ (spawn_keeps _)
  startTimer _ _ := hE _ _ (spawn_keeps _)
  insertTimer _ _ := hE _ _ (insertTimer_keeps _ _)
  abortTimer _ := hE _ _ (abortTimer_keeps _)
  pushFollowUp _ := hE _ _ (pushFollowUp_keeps _)
  exec _ h := hE _ _ (exec_keeps h.alike)
  hasAck _ := hE _ _ (sql_keeps fun s => .refl s)
  secureLoad _ _ := hE _ _ (sql_keeps fun s => .refl s)
  secureStoreSave _ _ := hE _ _ (applySecureStoreSave_keeps _ _)
  storeAndNotify := hS
  markInited _ := hE _ _ (markInited_keeps _)
  setEstablished _ _ := hE _ _ (setEstablished_keeps _ _)
  removeEstablished _ := hE _ _ (removeEstablished_keeps _)

/-- Dispatching an action is of every kind that the effects, and the showing of a message, are
of. -/
theorem dispatch_closed (action : CoreAction) : P Unit (dispatch X C action) :=
  (actionSteps hP hE hS).dispatch (loadsOnly_true action)

end Dispatcher

/-! ### What the drivers can do -/

section Drivers

variable {P : (α : Type) → Prog (TaskWorld ε) α → Prop} (hP : Prog.Closed P)
  (hD : ∀ (α : Type) (p : Prog (TaskWorld ε) α), p.Keeps DriverEffect → P α p)
  (hS : ∀ contactId messageId text, P Unit (storeAndNotify X contactId messageId text))

theorem handleEvent_keeps (event : IncomingEvent) : (handleEvent X event).Keeps DriverEffect :=
  .act fun w => .handled w _ event

include hP hD hS

/-- A kind that the effects of the drivers are of has the steps of the drivers. -/
theorem driverSteps : DriverSteps X (fun _ => True) P where
  toActionSteps := actionSteps hP (fun α p h => hD α p (h.mono fun _ _ => .effect)) hS
  startCycle := hD _ _ (.update fun w => .cycle w _ _)
  takeFollowUps := hD _ _ (.act fun w => .cycle w _ w.sessionInited)
  dropFollowUps := hD _ _ (.update fun w => .cycle w _ w.sessionInited)
  handleEvent event _ h := hP.bind (hD _ _ (handleEvent_keeps event)) fun actions =>
    h actions fun action _ => loadsOnly_true action

theorem deliver_closed (event : IncomingEvent) : P Unit (deliver X C event) :=
  (driverSteps hP hD hS).deliver event

/-- Handling an event of the run loop is of every kind that the effects of the drivers, and the
showing of a message, are of. -/
theorem handleRx_closed (event : IncomingEvent) : P Unit (handleRx X C event) :=
  (driverSteps hP hD hS).handleRx event

/-- So is forgetting a contact. -/
theorem forgetContact_closed (contactId : String) : P Unit (forgetContact X C contactId) :=
  (driverSteps hP hD hS).forgetContact contactId

variable (hO : ∀ o, P Unit (observe o))
  (hN : ∀ messageId cursor, P Unit (CursorTracker.note messageId cursor))
  (hM : ∀ cursor, P Unit (CursorTracker.persist X cursor))

include hO hN hM

/-- Handling an inbound message is of every kind that the moves of the watermark are of as well. -/
theorem streamMessage_closed (event : IncomingEvent) (context : StreamMessageContext) :
    P Unit (streamMessage X C event context) :=
  (driverSteps hP hD hS).streamMessage hO (hD _ _ (.read (fun w => .effect (.refl w)) _)) hN hM
    event context

theorem handleCommand_closed (cmd : OrchestratorCommand) : P Unit (handleCommand X C cmd) := by
  cases cmd with
  | forgetContact contactId => exact forgetContact_closed hP hD hS contactId
  | streamMessage event context => exact streamMessage_closed hP hD hS hO hN hM event context

end Drivers

/-! ### Invariants -/

section Safe

variable {R : TaskWorld ε → TaskWorld ε → Prop} {I : TaskWorld ε → Prop}
  (hR : ∀ w w', R w w' → I w → I w')

include hR

/-- An invariant that survives every effect, and the showing of a message, survives dispatch. -/
theorem dispatch_safe (hE : ∀ w w', Effect w w' → I w → I w')
    (hS : ∀ contactId messageId text, Prog.Safe R I (storeAndNotify X contactId messageId text))
    (action : CoreAction) : Prog.Safe R I (dispatch X C action) :=
  dispatch_closed (Prog.closed_safe R I) (fun _ _ => .of_keeps hR hE) hS action

variable (hE : ∀ w w', DriverEffect w w' → I w → I w')
  (hS : ∀ contactId messageId text, Prog.Safe R I (storeAndNotify X contactId messageId text))

include hE hS

theorem deliver_safe (event : IncomingEvent) : Prog.Safe R I (deliver X C event) :=
  deliver_closed (Prog.closed_safe R I) (fun _ _ => .of_keeps hR hE) hS event

/-- An invariant of the drivers survives an event of the run loop. -/
theorem handleRx_safe (event : IncomingEvent) : Prog.Safe R I (handleRx X C event) :=
  handleRx_closed (Prog.closed_safe R I) (fun _ _ => .of_keeps hR hE) hS event

/-- An invariant of the drivers survives forgetting a contact. -/
theorem forgetContact_safe (contactId : String) :
    Prog.Safe R I (forgetContact X C contactId) :=
  forgetContact_closed (Prog.closed_safe R I) (fun _ _ => .of_keeps hR hE) hS contactId

end Safe

end OrchestratorTask
