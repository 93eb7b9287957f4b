import ConstructTui.Orchestrator.Walk

/-!
# The statements of the task

Every atomic step of the orchestrator task runs at most one statement on the database, and only
statements of a few kinds: it writes messages, acknowledgements, records and values of the secure
store. A frame property of the database is checked against these statements once.

## Main definitions

* `Storage.Statement`: the statements the task runs.
* `OrchestratorTask.Runs`: a step runs at most one of them.

## Main results

* `OrchestratorTask.handleCommand_runs`, `OrchestratorTask.handleRx_runs`: so does every step of the
  task, whatever it handles.
* `Storage.Statement.contacts`: none of them touches the contacts.
-/

/-- What the task does to the database in one step. -/
inductive Storage.Statement (s : Storage) : Storage → Prop
  | nothing : Statement s s
  | storeInboundMessage (msg : StoredMessage) : Statement s (s.storeInboundMessage msg)
  | markDelivered (messageId : String) : Statement s (s.markDelivered messageId)
  | storeAck (messageId : String) (timestampMs : ℤ) : Statement s (s.storeAck messageId timestampMs)
  | pruneAcks (cutoffMs : ℤ) : Statement s (s.pruneAcks cutoffMs)
  | persistRecord (tableName json : String) : Statement s (s.persistRecord tableName json)
  | secureSave (key : String) (value : Bytes) : Statement s (s.secureSave key value)
  | secureDelete (key : String) : Statement s (s.secureDelete key)

namespace Storage.Statement

theorem secureSaveOrDelete (key : String) (value : Bytes) (s : Storage) :
    s.Statement (s.secureSaveOrDelete key value) := by
  unfold Storage.secureSaveOrDelete
  split
  · exact .secureDelete key
  · exact .secureSave key value

/-- The task writes no contact. -/
theorem contacts {s s' : Storage} (h : s.Statement s') : s'.contacts = s.contacts := by
  cases h <;> rfl

/-- Every message was there before, with the same peer, or has a new id. -/
theorem mem_messages {s s' : Storage} (h : s.Statement s') {m : StoredMessage}
    (hm : m ∈ s'.messages.rows) : (∃ m' ∈ s.messages.rows, m'.id = m.id ∧ m'.peerId = m.peerId) ∨
      m.id ∉ s.messages.rows.map StoredMessage.id := by
  cases h with
  | storeInboundMessage msg =>
    obtain hold | ⟨rfl, hnew⟩ := Table.mem_insertOrIgnore.mp hm
    · exact .inl ⟨m, hold, rfl, rfl⟩
    · exact .inr hnew
  | markDelivered messageId =>
    obtain ⟨m', hm', rfl⟩ := List.mem_map.mp hm
    refine .inl ⟨m', hm', (m'.id_deliveredIf messageId).symm, ?_⟩
    unfold StoredMessage.deliveredIf
    split <;> rfl
  | _ => exact .inl ⟨m, hm, rfl, rfl⟩

end Storage.Statement

namespace OrchestratorTask

variable {ε : Type} {X : Externals ε} {C : TaskConfig}

/-- The step runs at most one statement. -/
def Runs (w w' : TaskWorld ε) : Prop := w.storage.Statement w'.storage

/-! ### Atomic steps -/

theorem runs_of_eq {w w' : TaskWorld ε} (h : w'.storage = w.storage) : Runs w w' := by
  unfold Runs
  rw [h]
  exact .nothing

theorem external_runs {α : Type} (f : ε → α × ε) : (external f).Keeps Runs :=
  .act fun _ => runs_of_eq rfl

theorem sqlStep_runs {α : Type} {f : Storage → α × Storage} (h : ∀ s : Storage, s.Statement (f s).2)
    (w : TaskWorld ε) : Runs w (sqlStep X f w).2 := by
  unfold sqlStep
  split
  · exact runs_of_eq rfl
  · exact h w.storage

theorem sql_runs {α : Type} {f : Storage → α × Storage} (h : ∀ s : Storage, s.Statement (f s).2) :
    (sql X f).Keeps Runs := .act fun w => sqlStep_runs h w

theorem exec_runs {f : Storage → Storage} (h : ∀ s : Storage, s.Statement (f s)) :
    (exec X f).Keeps Runs := sql_runs h

theorem TaskStatement.statement {f : Storage → Storage} (h : TaskStatement f) (s : Storage) :
    s.Statement (f s) := by
  cases h with
  | persistRecord json => exact .persistRecord _ _
  | storeAck messageId timestampMs => exact .storeAck _ _
  | pruneAcks cutoffMs => exact .pruneAcks _
  | markDelivered messageId => exact .markDelivered _
  | saveArchive contactId bytes => exact .secureSave _ _
  | deleteSession contactId => exact .secureDelete _
  | deleteArchive contactId => exact .secureDelete _
  | saveState state => exact .secureSaveOrDelete _ _ s

/-! ### The watermark -/

theorem persist_runs (cursor : Option String) : (CursorTracker.persist X cursor).Keeps Runs := by
  cases cursor with
  | none => exact .pure _
  | some c =>
    exact CursorTracker.persist_keeps X c (sql_runs fun s => .nothing)
      (fun _ => exec_runs fun s => .secureSave _ _) fun _ => runs_of_eq rfl

theorem note_runs (messageId : String) (cursor : Option String) :
    (CursorTracker.note messageId cursor).Keeps (Runs (ε := ε)) := by
  unfold CursorTracker.note
  split
  · exact .pure _
  · exact .update fun _ => runs_of_eq rfl

theorem storeAndNotify_runs (contactId messageId text : String) :
    (storeAndNotify X contactId messageId text).Keeps Runs := by
  refine .bind (external_runs _) fun n => .bind ?_ fun _ => .update fun _ => runs_of_eq rfl
  refine .bind (.update fun _ => runs_of_eq rfl) fun _ =>
    .bind (exec_runs fun s => .storeInboundMessage _) fun stored => ?_
  split
  · exact .bind (.act fun _ => runs_of_eq rfl) fun cursor => persist_runs cursor
  · exact .pure _

/-! ### The task -/

/-- Every step of the task runs at most one statement. -/
theorem driverSteps_runs : DriverSteps X (fun _ => True) fun _ p => p.Keeps (Runs (ε := ε)) where
  toClosed := Prog.closed_keeps Runs
  query _ := .read (fun _ => runs_of_eq rfl) _
  external f := external_runs f
  inited := .read (fun _ => runs_of_eq rfl) _
  queued _ := .update fun _ => runs_of_eq rfl
  popped _ := .update fun _ => runs_of_eq rfl
  sendUi _ _ := .update fun _ => runs_of_eq rfl
  notifyUi _ _ _ := .update fun _ => runs_of_eq rfl
  sendOutgoing _ _ _ _ := .update fun _ => runs_of_eq rfl
  trySend _ := .update fun _ => runs_of_eq rfl
  spawn _ _ := .act fun _ => runs_of_eq rfl
  startTimer _ _ := .act fun _ => runs_of_eq rfl
  insertTimer _ _ := .update fun _ => runs_of_eq rfl
  abortTimer _ := .update fun w => by split <;> exact runs_of_eq rfl
  pushFollowUp _ := .update fun _ => runs_of_eq rfl
  exec _ h := exec_runs h.statement
  hasAck _ := sql_runs fun _ => .nothing
  secureLoad _ _ := sql_runs fun _ => .nothing
  secureStoreSave key data := .update fun w =>
    sqlStep_runs (fun s => .secureSaveOrDelete key data s) w
  storeAndNotify := storeAndNotify_runs
  markInited _ := .update fun _ => runs_of_eq rfl
  setEstablished _ _ := .update fun _ => runs_of_eq rfl
  removeEstablished _ := .update fun _ => runs_of_eq rfl
  startCycle := .update fun _ => runs_of_eq rfl
  takeFollowUps := .act fun _ => runs_of_eq rfl
  dropFollowUps := .update fun _ => runs_of_eq rfl
  handleEvent _ _ h := .bind (.act fun _ => runs_of_eq rfl) fun actions =>
    h actions fun action _ => loadsOnly_true action

/-- Every step of handling an event runs at most one statement. -/
theorem handleRx_runs (event : IncomingEvent) : (handleRx X C event).Keeps Runs :=
  driverSteps_runs.handleRx event

/-- Every step of handling a command runs at most one statement. -/
theorem handleCommand_runs (cmd : OrchestratorCommand) : (handleCommand X C cmd).Keeps Runs :=
  driverSteps_runs.handleCommand (fun _ => .update fun _ => runs_of_eq rfl)
    (.read (fun _ => runs_of_eq rfl) _) note_runs persist_runs cmd

end OrchestratorTask
