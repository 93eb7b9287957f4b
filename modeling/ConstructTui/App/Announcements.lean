import ConstructTui.App.Step
import ConstructTui.Orchestrator.Effects
import ConstructTui.Orchestrator.Statements

/-!
# What the task announces is stored

The task stores a decrypted message before it tells the app. Between the two the app may delete the
contact, and a row that has the message's id may stand for another message; a preview that the core
asks to announce has no row at all. In every other case there is a row when the app is told.

## Main definitions

* `Line`, `Storage.lines`: what a row is shown as, and all that rows are shown as.
* `OrchestratorTask.underWay`: the message that the task has just decrypted.
* `OrchestratorTask.NoClash`: no row has its id but one of the same message.
* `OrchestratorTask.Announced`: what the app is told is stored.

## Main results

* `OrchestratorTask.handleRx_announces`, `OrchestratorTask.handleCommand_announces`: so it is after
  every step of the task, whatever happens beside it.
-/

variable {ε : Type}

/-- A line of a conversation: who wrote it, with whom, and what. -/
structure Line where
  kind : MessageKind
  peerId : String
  text : String
  deriving DecidableEq, Repr

/-- The line that a row is shown as. -/
def StoredMessage.line (m : StoredMessage) : Line := ⟨(App.shownMessage m).kind, m.peerId, m.text⟩

namespace Storage

/-- The lines that there are rows of. -/
def lines (s : Storage) : List Line := s.messages.rows.map StoredMessage.line

variable {s s' : Storage}

theorem lines_subset (h : s.messages.rows ⊆ s'.messages.rows) : s.lines ⊆ s'.lines := by
  intro line hline
  obtain ⟨m, hm, rfl⟩ := List.mem_map.mp hline
  exact List.mem_map_of_mem (h hm)

theorem lines_of_eq (h : s'.messages = s.messages) : s'.lines = s.lines :=
  congrArg (fun t : Table StoredMessage.id => t.rows.map StoredMessage.line) h

/-- The status of a delivery is not part of a line. -/
theorem line_deliveredIf (messageId : String) (m : StoredMessage) :
    (m.deliveredIf messageId).line = m.line := by
  unfold StoredMessage.deliveredIf
  split <;> rfl

/-- No statement of the task loses a line. -/
theorem Statement.lines_subset (h : s.Statement s') : s.lines ⊆ s'.lines := by
  cases h with
  | storeInboundMessage msg =>
    exact Storage.lines_subset fun m hm => Table.mem_insertOrIgnore.mpr (.inl hm)
  | markDelivered messageId =>
    intro line hline
    obtain ⟨m, hm, rfl⟩ := List.mem_map.mp hline
    rw [← line_deliveredIf messageId m]
    exact List.mem_map_of_mem (List.mem_map_of_mem hm)
  | _ => exact List.Subset.refl _

end Storage

/-- The app has deleted a contact. -/
def Obs.isDeletion : Obs → Bool
  | .contactDeleted _ => true
  | _ => false

namespace OrchestratorTask

variable {X : Externals ε} {C : TaskConfig}

/-! ### The message under way -/

/-- The message that was decrypted last, with its id, if nothing but deletions happened since. -/
def underWay (log : List Obs) : Option (String × Line) :=
  match (log.reverse.dropWhile Obs.isDeletion).head? with
  | some (.decrypted messageId peerId text) => some (messageId, ⟨.received, peerId, text⟩)
  | _ => none

/-- Every row that has the id of the message under way is one of that message. -/
def NoClash (log : List Obs) (db : Storage) : Prop :=
  ∀ r ∈ underWay log, ∀ m ∈ db.messages.rows, m.id = r.1 → m.line = r.2

instance (log : List Obs) (db : Storage) : Decidable (NoClash log db) :=
  inferInstanceAs
    (Decidable (∀ r ∈ underWay log, ∀ m ∈ db.messages.rows, m.id = r.1 → m.line = r.2))

/-- A history that ends with a message that was decrypted, and with the deletions since. -/
def decryptedThen (before : List Obs) (messageId peerId text : String) (deleted : List String) :
    List Obs := before ++ .decrypted messageId peerId text :: deleted.map .contactDeleted

theorem underWay_decryptedThen (before : List Obs) (messageId peerId text : String)
    (deleted : List String) : underWay (decryptedThen before messageId peerId text deleted) =
      some (messageId, ⟨.received, peerId, text⟩) := by
  have hdeletions : ∀ o ∈ (deleted.map Obs.contactDeleted).reverse, o.isDeletion = true := by
    intro o ho
    obtain ⟨contactId, -, rfl⟩ := List.mem_map.mp (List.mem_reverse.mp ho)
    rfl
  unfold underWay decryptedThen
  rw [List.reverse_append, List.reverse_cons, List.append_assoc,
    List.dropWhile_append_of_pos hdeletions]
  rfl

/-- The deletions since are what is found since the message was decrypted. -/
theorem mem_sinceDecrypted {before : List Obs} {messageId peerId text contactId : String}
    {deleted : List String} (h : contactId ∈ deleted) : .contactDeleted contactId ∈
      sinceDecrypted (decryptedThen before messageId peerId text deleted) := by
  unfold sinceDecrypted decryptedThen
  rw [List.reverse_append, List.reverse_cons, List.append_assoc]
  rw [List.takeWhile_append_of_pos]
  · refine List.mem_append_left _ (List.mem_reverse.mpr ?_)
    exact List.mem_map_of_mem h
  · intro o ho
    obtain ⟨c, -, rfl⟩ := List.mem_map.mp (List.mem_reverse.mp ho)
    rfl

/-! ### What happens beside the task -/

/-- The app may delete contacts, and nothing else loses a line. -/
def Spares (w w' : TaskWorld ε) : Prop :=
  ∃ deleted : List String, w'.log = w.log ++ deleted.map .contactDeleted ∧
    ∀ line ∈ w.storage.lines, line ∈ w'.storage.lines ∨ line.peerId ∈ deleted

theorem Spares.of_eq {w w' : TaskWorld ε} (hlog : w'.log = w.log)
    (hlines : w'.storage.lines = w.storage.lines) : Spares w w' :=
  ⟨[], by rw [hlog, List.map_nil, List.append_nil], fun _ hline => .inl (hlines ▸ hline)⟩

theorem Spares.refl (w : TaskWorld ε) : Spares w w := .of_eq rfl rfl

theorem Spares.trans {u v w : TaskWorld ε} (h : Spares u v) (h' : Spares v w) : Spares u w := by
  obtain ⟨deleted, hlog, hkept⟩ := h
  obtain ⟨deleted', hlog', hkept'⟩ := h'
  refine ⟨deleted ++ deleted', ?_, fun line hline => ?_⟩
  · rw [hlog', hlog, List.map_append, List.append_assoc]
  · rw [List.mem_append]
    obtain hline | hdeleted := hkept line hline
    · exact (hkept' line hline).imp_right .inr
    · exact .inr (.inl hdeleted)

/-- The task goes on after that: the app has taken what it was told, and no row clashes with the
message under way. -/
def Resumes (w w' : TaskWorld ε) : Prop :=
  Spares w w' ∧ w'.ui = [] ∧ NoClash w'.log w'.storage

/-! ### What the app is told -/

/-- A message that the app is told of is stored, unless its contact was deleted after it had been
decrypted, or the core asked to announce it without a row. -/
def Announced (w : TaskWorld ε) : Prop :=
  ∀ peerId messageId text timestampMs, .newMessage peerId messageId text timestampMs ∈ w.ui →
    ⟨.received, peerId, text⟩ ∈ w.storage.lines ∨
      .contactDeleted peerId ∈ sinceDecrypted w.log ∨
      ∃ chatId, w.log.getLast? = some (.notified chatId)

theorem announced_of_nil {w : TaskWorld ε} (h : w.ui = []) : Announced w := by
  intro peerId messageId text timestampMs hmem
  rw [h] at hmem
  cases hmem

/-- Apart from storing and showing a message, the task tells of one only when the core asks for
it. -/
theorem announced_of_driverEffect {w w' : TaskWorld ε} (hui : w.ui = []) (h : DriverEffect w w') :
    Announced w' := by
  cases h with
  | effect h =>
    cases h with
    | ui event hevent =>
      intro peerId messageId text timestampMs hmem
      have hmem : BridgeEvent.newMessage peerId messageId text timestampMs ∈ w.ui ++ [event] := hmem
      rw [hui, List.nil_append, List.mem_singleton] at hmem
      subst hmem
      cases hevent
    | notified chatId event =>
      exact fun _ _ _ _ _ => .inr (.inr ⟨chatId, List.getLast?_concat⟩)
    | _ => exact announced_of_nil hui
  | handled => exact announced_of_nil hui
  | cycle => exact announced_of_nil hui

/-- Whatever the program does goes on being announced. -/
def Announces {α : Type} (p : Prog (TaskWorld ε) α) : Prop :=
  ∀ w, p.Meets Resumes Announced (fun _ _ => True) w

/-- What was to be announced is still so after that. -/
theorem meets_of_spares {α : Type} {p : Prog (TaskWorld ε) α} {w w' : TaskWorld ε}
    (h : p.Meets Resumes Announced (fun _ _ => True) w) (hw : Spares w w') :
    p.Meets Resumes Announced (fun _ _ => True) w' :=
  h.interfere (fun _ _ _ huv hvw => ⟨Spares.trans huv hvw.1, hvw.2⟩) (fun _ _ _ _ => id) hw

theorem announces_of_keeps {α : Type} {p : Prog (TaskWorld ε) α}
    {G : TaskWorld ε → TaskWorld ε → Prop} (hG : ∀ w w', G w w' → w'.ui = w.ui) (h : p.Keeps G) :
    Announces p :=
  .of_steps (fun _ v w hv hw => announced_of_nil ((hG v w hw).trans hv.2.1)) h

/-! ### Storing and showing a message -/

/-- The message was decrypted last, and is stored unless its contact was deleted since. -/
def Stored (messageId peerId text : String) (w : TaskWorld ε) : Prop :=
  ∃ before deleted, w.log = decryptedThen before messageId peerId text deleted ∧
    (⟨.received, peerId, text⟩ ∈ w.storage.lines ∨ peerId ∈ deleted)

theorem Stored.spares {messageId peerId text : String} {w w' : TaskWorld ε} (h : Spares w w')
    (hw : Stored messageId peerId text w) : Stored messageId peerId text w' := by
  obtain ⟨before, deleted, hlog, hstored⟩ := hw
  obtain ⟨deleted', hlog', hkept⟩ := h
  refine ⟨before, deleted ++ deleted', ?_, ?_⟩
  · rw [hlog', hlog, decryptedThen, decryptedThen, List.map_append, List.append_assoc,
      List.cons_append]
  · rw [List.mem_append]
    obtain hstored | hdeleted := hstored
    · exact (hkept _ hstored).imp_right .inr
    · exact .inr (.inl hdeleted)

/-- The statement that stores a message does so if no row clashes with it. -/
theorem line_mem_storeInboundMessage {msg : StoredMessage} {db : Storage}
    (hfree : ∀ m ∈ db.messages.rows, m.id = msg.id → m.line = msg.line) :
    msg.line ∈ (db.storeInboundMessage msg).lines := by
  by_cases htaken : msg.id ∈ db.messages.rows.map StoredMessage.id
  · obtain ⟨m, hm, hid⟩ := List.mem_map.mp htaken
    rw [← hfree m hm hid]
    exact List.mem_map_of_mem (Table.mem_insertOrIgnore.mpr (.inl hm))
  · exact List.mem_map_of_mem (Table.mem_insertOrIgnore.mpr (.inr ⟨rfl, htaken⟩))

/-- Moving the watermark leaves the history, the messages and the app alone. -/
structure Quietly (w w' : TaskWorld ε) : Prop where
  log : w'.log = w.log
  messages : w'.storage.messages = w.storage.messages
  ui : w'.ui = w.ui

theorem sql_quietly {α : Type} {f : Storage → α × Storage}
    (h : ∀ s : Storage, (f s).2.messages = s.messages) : (sql X f).Keeps Quietly := .act fun w => by
  unfold sqlStep
  split
  · exact ⟨rfl, rfl, rfl⟩
  · exact ⟨rfl, h w.storage, rfl⟩

theorem persist_quietly (cursor : Option String) :
    (CursorTracker.persist X cursor).Keeps Quietly := by
  cases cursor with
  | none => exact .pure _
  | some c =>
    exact CursorTracker.persist_keeps X c (sql_quietly fun _ => rfl)
      (fun _ => sql_quietly fun _ => rfl) fun _ => ⟨rfl, rfl, rfl⟩

theorem commit_quietly (messageId : String) : (CursorTracker.commit X messageId).Keeps Quietly :=
  .bind (.act fun _ => ⟨rfl, rfl, rfl⟩) fun cursor => persist_quietly cursor

/-- A message is stored before the app is told of it, if the database does not fail. -/
theorem storeAndNotify_announces (hsql : ∀ e, (X.sqlFails e).1 = false)
    (contactId messageId text : String) :
    Announces (storeAndNotify X contactId messageId text) := by
  let J (w : TaskWorld ε) : Prop := Stored messageId contactId text w ∧ w.ui = []
  have hspared (u v : TaskWorld ε) (h : Resumes u v) (hu : J u) : J v := ⟨hu.1.spares h.1, h.2.1⟩
  intro w
  have hclock : Announces (external X.millis) :=
    announces_of_keeps (fun _ _ h => h) (.act fun _ => rfl : (external X.millis).Keeps fun w w' =>
      w'.ui = w.ui)
  refine .bind (hclock w) fun n w _ => .bind (P := fun _ => J) ?_ fun _ w hw => ?_
  · let decrypted (w : TaskWorld ε) : Prop :=
      ∃ before deleted, w.log = decryptedThen before messageId contactId text deleted
    have hobserve : (observe (.decrypted messageId contactId text)).Meets Resumes Announced
        (fun _ => decrypted) w := .act fun v hv => ⟨announced_of_nil hv.2.1, v.log, [], rfl⟩
    refine .bind hobserve fun _ w hw => ?_
    have hstore : (exec X (Storage.storeInboundMessage ⟨messageId, contactId, text, .received,
        millisI64 n, ""⟩)).Meets Resumes Announced (fun _ => J) w := by
      refine .act fun v hv => ?_
      obtain ⟨before, deleted, hlog⟩ := hw
      obtain ⟨⟨deleted', hlog', -⟩, hui, hfree⟩ := hv
      have hlog : v.log = decryptedThen before messageId contactId text (deleted ++ deleted') := by
        rw [hlog', hlog, decryptedThen, decryptedThen, List.map_append, List.append_assoc,
          List.cons_append]
      have hway : underWay v.log = some (messageId, ⟨.received, contactId, text⟩) := by
        rw [hlog, underWay_decryptedThen]
      let msg : StoredMessage := ⟨messageId, contactId, text, .received, millisI64 n, ""⟩
      have hstored : msg.line ∈ (v.storage.storeInboundMessage msg).lines :=
        line_mem_storeInboundMessage (hfree (messageId, msg.line) hway)
      unfold sqlStep
      rw [hsql]
      exact ⟨announced_of_nil hui, ⟨before, _, hlog, .inl hstored⟩, hui⟩
    refine .bind hstore fun stored w hw => ?_
    have hquiet (u v : TaskWorld ε) (h : Quietly u v) (hu : J u) : J v :=
      ⟨hu.1.spares (.of_eq h.log (Storage.lines_of_eq h.messages)), h.ui.trans hu.2⟩
    split
    · exact (Prog.Meets.of_keeps hspared ((commit_quietly messageId).mono hquiet) hw).mono_inv
        fun _ hw => announced_of_nil hw.2
    · exact .pure hw
  · refine .act fun v hv => ⟨?_, trivial⟩
    obtain ⟨⟨before, deleted, hlog, hstored⟩, hui⟩ := hspared w v hv hw
    intro peerId messageId' text' timestampMs hmem
    have hmem : BridgeEvent.newMessage peerId messageId' text' timestampMs ∈
        v.ui ++ [.newMessage contactId messageId text (millisI64 n)] := hmem
    rw [hui, List.nil_append, List.mem_singleton] at hmem
    obtain ⟨rfl, rfl, rfl, rfl⟩ := BridgeEvent.newMessage.inj hmem
    obtain hstored | hdeleted := hstored
    · exact .inl hstored
    · refine .inr (.inl ?_)
      show _ ∈ sinceDecrypted v.log
      rw [hlog]
      exact mem_sinceDecrypted hdeleted

/-! ### The task -/

section Task

variable (hsql : ∀ e, (X.sqlFails e).1 = false)

theorem announces_of_driverEffect {α : Type} {p : Prog (TaskWorld ε) α} (h : p.Keeps DriverEffect) :
    Announces p :=
  .of_steps (fun _ _ _ hv hw => announced_of_driverEffect hv.2.1 hw) h

include hsql

/-- Whatever event the task handles, it announces only messages that are stored. -/
theorem handleRx_announces (event : IncomingEvent) : Announces (handleRx X C event) :=
  handleRx_closed (Prog.closed_meets Resumes Announced) (fun _ _ => announces_of_driverEffect)
    (storeAndNotify_announces hsql) event

/-- So it does whatever command it handles. -/
theorem handleCommand_announces (cmd : OrchestratorCommand) :
    Announces (handleCommand X C cmd) := by
  refine handleCommand_closed (Prog.closed_meets Resumes Announced)
    (fun _ _ => announces_of_driverEffect) (storeAndNotify_announces hsql) (fun o => ?_)
    (fun messageId cursor => ?_) (fun cursor => ?_) cmd
  · exact announces_of_keeps (fun _ _ h => h) (.update fun _ => rfl : (observe o).Keeps fun w w' =>
      w'.ui = w.ui)
  · refine announces_of_keeps (G := fun w w' => w'.ui = w.ui) (fun _ _ h => h) ?_
    unfold CursorTracker.note
    split
    · exact .pure _
    · exact .update fun _ => rfl
  · exact announces_of_keeps (fun _ _ h => h.ui) (persist_quietly cursor)

end Task

end OrchestratorTask
