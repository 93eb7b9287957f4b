import ConstructTui.Orchestrator.Effects
import ConstructTui.Stream.Relay

/-!
# Inbound messages that suppress others

An inbound message is inserted unless its identifier is taken, and the insert reports success either
way. The identifier comes from the sender, and a message of a group has none, so that one message
can keep another out of the table.

## Main definitions

* `OrchestratorTask.insertInbound`: the statement that stores an inbound message.
* `OrchestratorTask.Retained`: the message is in the table, unless it is a replay.
* `OrchestratorTask.Unclashing`: its identifier is not taken by another message.
* `OrchestratorTask.Unmatched`: no message of another peer has had its identifier.

## Main results

* `OrchestratorTask.remembered_iff`: in all runs, messages are kept exactly when they do not clash.
* `OrchestratorTask.runTask_remembered`: every row comes from a message of the history.
* `OrchestratorTask.unclashing_of_unmatched`: a condition on the history alone.
* `OrchestratorTask.second_group_message_lost`: two messages of a group.
-/

namespace OrchestratorTask

variable {ε : Type} (X : Externals ε) (C : TaskConfig)

/-- The statement of `persist_inbound`. -/
def insertInbound (msg : StoredMessage) (w : TaskWorld ε) : TaskWorld ε :=
  (sqlStep X (fun s => ((), s.storeInboundMessage msg)) w).2

/-- A row of the peer with the text is there. -/
def Present (msg : StoredMessage) (s : Storage) : Prop :=
  ∃ m ∈ s.messages.rows, m.peerId = msg.peerId ∧ m.text = msg.text

/-- A row of the peer with the identifier, which is not empty, is there. -/
def Replayed (msg : StoredMessage) (s : Storage) : Prop :=
  msg.id ≠ "" ∧ ∃ m ∈ s.messages.rows, m.id = msg.id ∧ m.peerId = msg.peerId

/-- What the insert leaves of a message. -/
def Retained (msg : StoredMessage) (w : TaskWorld ε) : Prop :=
  Replayed msg w.storage ∨ Present msg (insertInbound X msg w).storage

/-- A row with the identifier is one of the same peer, and the identifier is not empty; or the text
is there already. -/
def Unclashing (msg : StoredMessage) (s : Storage) : Prop :=
  (∀ m ∈ s.messages.rows, m.id = msg.id → m.peerId = msg.peerId ∧ msg.id ≠ "") ∨ Present msg s

variable {X C}

theorem storage_insertInbound {msg : StoredMessage} {w : TaskWorld ε}
    (h : (X.sqlFails w.ext).1 = false) :
    (insertInbound X msg w).storage = w.storage.storeInboundMessage msg := by
  rw [insertInbound, sqlStep, if_neg (by simp [h])]

theorem present_storeInboundMessage {msg : StoredMessage} {s : Storage} :
    Present msg (s.storeInboundMessage msg) ↔
      Present msg s ∨ ∀ m ∈ s.messages.rows, m.id ≠ msg.id := by
  unfold Present Storage.storeInboundMessage
  simp only [Table.mem_insertOrIgnore]
  constructor
  · rintro ⟨m, hm | ⟨rfl, hfree⟩, hpeer, htext⟩
    · exact .inl ⟨m, hm, hpeer, htext⟩
    · exact .inr fun m hm hid => hfree (List.mem_map.mpr ⟨m, hm, hid⟩)
  · rintro (⟨m, hm, hpeer, htext⟩ | hfree)
    · exact ⟨m, .inl hm, hpeer, htext⟩
    · refine ⟨msg, .inr ⟨rfl, fun hmem => ?_⟩, rfl, rfl⟩
      obtain ⟨m, hm, hid⟩ := List.mem_map.mp hmem
      exact hfree m hm hid

/-- An insert that reports success keeps the message exactly when it does not clash. -/
theorem retained_iff_unclashing {msg : StoredMessage} {w : TaskWorld ε}
    (h : (X.sqlFails w.ext).1 = false) : Retained X msg w ↔ Unclashing msg w.storage := by
  unfold Retained
  rw [storage_insertInbound h, present_storeInboundMessage]
  constructor
  · rintro (⟨hne, m, hm, hid, hpeer⟩ | hpresent | hfree)
    · refine .inl fun m' hm' hid' => ?_
      -- the identifiers are the key of the table
      have heq : m' = m :=
        List.inj_on_of_nodup_map w.storage.messages.nodup hm' hm (hid'.trans hid.symm)
      exact ⟨heq ▸ hpeer, hne⟩
    · exact .inr hpresent
    · exact .inl fun m hm hid => absurd hid (hfree m hm)
  · rintro (hall | hpresent)
    · by_cases htaken : ∃ m ∈ w.storage.messages.rows, m.id = msg.id
      · obtain ⟨m, hm, hid⟩ := htaken
        obtain ⟨hpeer, hne⟩ := hall m hm hid
        exact .inl ⟨hne, m, hm, hid, hpeer⟩
      · exact .inr (.inr fun m hm hid => htaken ⟨m, hm, hid⟩)
    · exact .inr (.inl hpresent)

/-- In all runs of the task, with whatever else happens between its steps, the inbound messages
whose inserts report success are kept if and only if none of them clashes. -/
theorem remembered_iff (X : Externals ε) (C : TaskConfig) (R : TaskWorld ε → TaskWorld ε → Prop)
    (inputs : List TaskInput) (w : TaskWorld ε) :
    (∀ msg v, (runTask X C inputs).Executes R (insertInbound X msg) v w →
        (X.sqlFails v.ext).1 = false → Retained X msg v) ↔
      ∀ msg v, (runTask X C inputs).Executes R (insertInbound X msg) v w →
        (X.sqlFails v.ext).1 = false → Unclashing msg v.storage := by
  refine forall₂_congr fun msg v => forall₂_congr fun _ hreport => ?_
  exact retained_iff_unclashing hreport

/-! ### Two messages of a group -/

/-- A core that decrypts every message. -/
def decrypting : Externals Unit :=
  { Externals.quiet with
    handleEvent := fun event _ =>
      (match event with
        | .messageReceived messageId sender data .. => [.messageDecrypted sender messageId data]
        | _ => [], ()) }

/-- What the orchestrator is given for a message `hi` to a group. -/
def groupMessage (sender cursor : String) : List TaskInput :=
  let codec : EnvelopeCodec :=
    ⟨fun _ => .error "", fun _ _ => .error "", fun _ => .error "", fun _ => .ok ⟨1, none, 0⟩⟩
  let envelope : WireEnvelope := ⟨some .groupMessageId, some sender, 1, Utf8.encode "hi", none⟩
  ((inboundCommand codec [] envelope (some cursor)).map .command).toList

/-- Of two messages of a group the second is decrypted and acknowledged by the watermark, and is
nowhere in the table, though no statement fails. -/
theorem second_group_message_lost :
    let w := ((runTask decrypting ⟨.tagged, "me", "phone"⟩
      (groupMessage "alice" "1-0" ++ groupMessage "bob" "2-0")).run (.start () .init)).2
    .decrypted "" "bob" "hi" ∈ w.log ∧ w.storage.loadStreamCursor = some "2-0" ∧
      ¬∃ m ∈ w.storage.messages.rows, m.peerId = "bob" ∧ m.text = "hi" := by
  decide

/-! ### What the table comes from -/

theorem eq_of_content {m m' : StoredMessage} (h : m'.content = m.content) :
    m'.id = m.id ∧ m'.peerId = m.peerId ∧ m'.text = m.text :=
  ⟨(congrArg StoredMessage.id h :), (congrArg StoredMessage.peerId h :),
    (congrArg StoredMessage.text h :)⟩

/-- The rows are at most rewritten in their delivery status, and the history grows. -/
structure Shrinks (w w' : TaskWorld ε) : Prop where
  rows : ∀ m ∈ w'.storage.messages.rows, ∃ m' ∈ w.storage.messages.rows, m'.content = m.content
  log : ∀ o ∈ w.log, o ∈ w'.log

/-- Every row was there at the start or is a message of the history. -/
def Remembered (start : Storage) (w : TaskWorld ε) : Prop :=
  ∀ m ∈ w.storage.messages.rows, (∃ m' ∈ start.messages.rows, m'.content = m.content) ∨
    .decrypted m.id m.peerId m.text ∈ w.log

namespace Shrinks

theorem of_eq {w w' : TaskWorld ε} (hrows : w'.storage.messages = w.storage.messages)
    (hlog : ∀ o ∈ w.log, o ∈ w'.log) : Shrinks w w' :=
  ⟨fun m hm => ⟨m, hrows ▸ hm, rfl⟩, hlog⟩

theorem of_alike {w : TaskWorld ε} {s : Storage} (h : w.storage.Alike s) (ext : ε) :
    Shrinks w { w with ext := ext, storage := s } := by
  refine ⟨fun m hm => ?_, fun _ => id⟩
  have hmem : m.content ∈ w.storage.messages.rows.map StoredMessage.content :=
    h.messages ▸ List.mem_map_of_mem hm
  exact List.mem_map.mp hmem

theorem of_effect {w w' : TaskWorld ε} (h : DriverEffect w w') : Shrinks w w' := by
  cases h with
  | effect h =>
    cases h with
    | tables | ui => exact of_eq rfl fun _ => id
    | statement ext s hs => exact of_alike hs ext
    | saved ext key s hs =>
      refine of_eq ?_ fun _ => List.mem_append_left _
      obtain rfl | ⟨data, rfl⟩ := hs
      · rfl
      · show (w.storage.secureSaveOrDelete key data).messages = _
        unfold Storage.secureSaveOrDelete
        split <;> rfl
    | notified | pushed | queued | popped => exact of_eq rfl fun _ => List.mem_append_left _
  | handled => exact of_eq rfl fun _ => List.mem_append_left _
  | cycle => exact of_eq rfl fun _ => id

end Shrinks

theorem Remembered.of_shrinks {start : Storage} {w w' : TaskWorld ε} (h : Remembered start w)
    (hw : Shrinks w w') : Remembered start w' := by
  intro m hm
  obtain ⟨m', hm', heq⟩ := hw.rows m hm
  obtain ⟨hid, hpeer, htext⟩ := eq_of_content heq
  obtain ⟨m₀, hm₀, h₀⟩ | hlog := h m' hm'
  · exact .inl ⟨m₀, hm₀, h₀.trans heq⟩
  · exact .inr (hw.log _ (by rwa [hid, hpeer, htext] at hlog))

section Remembered

variable {R : TaskWorld ε → TaskWorld ε → Prop} (hR : ∀ w w', R w w' → Shrinks w w')
  {start : Storage}

theorem sql_shrinks {α : Type} {f : Storage → α × Storage}
    (hf : ∀ s, s.messages = (f s).2.messages) : (sql X f).Keeps Shrinks := .act fun w => by
  unfold sqlStep
  split
  · exact .of_eq rfl fun _ => id
  · exact .of_eq (hf _).symm fun _ => id

theorem persist_shrinks (cursor : Option String) :
    (CursorTracker.persist X cursor).Keeps Shrinks := by
  cases cursor with
  | none => exact .pure _
  | some c =>
    exact CursorTracker.persist_keeps X c (sql_shrinks fun _ => rfl)
      (fun _ => sql_shrinks fun _ => rfl)
      fun w => .of_eq rfl fun _ => id

include hR

theorem safe_of_shrinks {α : Type} {p : Prog (TaskWorld ε) α} (h : p.Keeps Shrinks) :
    Prog.Safe R (Remembered start) p :=
  .of_keeps (fun _ _ hw h => h.of_shrinks (hR _ _ hw)) (fun _ _ hw h => h.of_shrinks hw) h

theorem storeAndNotify_remembered (contactId messageId text : String) :
    Prog.Safe R (Remembered start) (storeAndNotify X contactId messageId text) := by
  refine .bind (safe_of_shrinks hR (.act fun w => .of_eq rfl fun _ => id)) fun n =>
    .bind ?_ fun _ => safe_of_shrinks hR (.update fun w => .of_eq rfl fun _ => id)
  intro w hw
  -- from here on the message is in the history
  let J (w : TaskWorld ε) : Prop := Remembered start w ∧ .decrypted messageId contactId text ∈ w.log
  have hJ {w w' : TaskWorld ε} (h : Shrinks w w') (hw : J w) : J w' :=
    ⟨hw.1.of_shrinks h, h.log _ hw.2⟩
  refine .bind (P := fun _ => J) (.act fun w' hw' => ?_) fun _ w₁ hw₁ =>
    .bind (P := fun _ => J) (.act fun w' hw' => ?_) fun stored w₂ hw₂ => ?_
  · have hlog : Shrinks w' { w' with log := w'.log ++ [.decrypted messageId contactId text] } :=
      .of_eq rfl fun _ => List.mem_append_left _
    have hgrown := (hw.of_shrinks (hR _ _ hw')).of_shrinks hlog
    exact ⟨hgrown, hgrown, List.mem_append_right _ List.mem_cons_self⟩
  · have hbefore := hJ (hR _ _ hw') hw₁
    suffices hafter : J (sqlStep X _ w').2 from ⟨hafter.1, hafter⟩
    unfold sqlStep
    split
    · exact hJ (.of_eq rfl fun _ => id) hbefore
    · refine ⟨fun m hm => ?_, hbefore.2⟩
      obtain hm | ⟨rfl, -⟩ := Table.mem_insertOrIgnore.mp hm
      · exact hbefore.1 m hm
      · exact .inr hbefore.2
  · split
    · refine .bind (safe_of_shrinks hR (.act fun w => .of_eq rfl fun _ => id) w₂ hw₂.1)
        fun cursor w₃ hw₃ => ?_
      exact safe_of_shrinks hR (persist_shrinks cursor) w₃ hw₃
    · exact .pure hw₂.1

theorem handleInput_remembered (input : TaskInput) :
    Prog.Safe R (Remembered start) (handleInput X C input) := by
  match input with
  | .event event =>
    exact handleRx_safe (fun _ _ hw h => h.of_shrinks (hR _ _ hw))
      (fun _ _ he h => h.of_shrinks (.of_effect he)) (storeAndNotify_remembered hR) event
  | .command (.forgetContact contactId) =>
    exact forgetContact_safe (fun _ _ hw h => h.of_shrinks (hR _ _ hw))
      (fun _ _ he h => h.of_shrinks (.of_effect he)) (storeAndNotify_remembered hR) contactId
  | .command (.streamMessage event context) =>
    have keeps {α : Type} {p : Prog (TaskWorld ε) α} (h : p.Keeps Shrinks) :
        Prog.Safe R (Remembered start) p := safe_of_shrinks hR h
    refine streamMessage_closed (Prog.closed_safe R (Remembered start))
      (fun _ _ h => keeps (h.mono fun _ _ => .of_effect)) (storeAndNotify_remembered hR)
      (fun o => keeps (.update fun w => .of_eq rfl fun _ => List.mem_append_left _))
      (fun messageId cursor => keeps ?_) (fun cursor => keeps (persist_shrinks cursor))
        event context
    unfold CursorTracker.note
    split
    · exact .pure _
    · exact .update fun w => .of_eq rfl fun _ => id

/-- In all runs of the task, every row was there at the start or is a message of the history. -/
theorem runTask_remembered (inputs : List TaskInput) :
    Prog.Safe R (Remembered start) (runTask X C inputs) :=
  .each (handleInput_remembered hR) inputs

/-- No row of the start and no other message of the history has the identifier, but for one of the
same peer. -/
structure Unmatched (start : Storage) (log : List Obs) (msg : StoredMessage) : Prop where
  start : ∀ m ∈ start.messages.rows, m.id = msg.id → m.peerId = msg.peerId ∧ msg.id ≠ ""
  log : ∀ peerId text, .decrypted msg.id peerId text ∈ log →
    peerId = msg.peerId ∧ (msg.id ≠ "" ∨ text = msg.text)

/-- A message whose identifier no other has had does not clash. -/
theorem unclashing_of_unmatched {inputs : List TaskInput} {w v : TaskWorld ε} {msg : StoredMessage}
    (h : (runTask X C inputs).Executes R (insertInbound X msg) v w)
    (hmsg : Unmatched w.storage v.log msg) : Unclashing msg v.storage := by
  have hstart : Remembered w.storage w := fun m hm => .inl ⟨m, hm, rfl⟩
  have hv := (runTask_remembered hR inputs w hstart).executes
    (fun _ _ hw h => h.of_shrinks (hR _ _ hw)) hstart h
  by_cases hpresent : Present msg v.storage
  · exact .inr hpresent
  · refine .inl fun m hm hid => ?_
    obtain ⟨m', hm', heq⟩ | hlog := hv m hm
    · obtain ⟨hid', hpeer, -⟩ := eq_of_content heq
      rw [← hpeer]
      exact hmsg.start m' hm' (hid'.trans hid)
    · obtain ⟨hpeer, hne | htext⟩ := hmsg.log m.peerId m.text (hid ▸ hlog)
      · exact ⟨hpeer, hne⟩
      · exact absurd ⟨m, hm, hpeer, htext⟩ hpresent

end Remembered

end OrchestratorTask
