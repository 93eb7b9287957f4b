import ConstructTui.Orchestrator.ReplayGuard

/-!
# Runs with dropped replays in them

Two worlds are the same apart from the cursor when they differ at most in the watermark, stored and
remembered, and in the history. Nothing that the task does reads more than that of a watermark: from
two such worlds it gives the same answers and ends in two such worlds again. A dropped replay moves
only the watermark, so a run with dropped replays in it ends apart from the cursor as the run
without them does.

## Main definitions

* `Storage.ApartFromCursor`, `OrchestratorTask.ApartFromCursor`.
* `OrchestratorTask.Inserted`: a run with stream messages in it that the guard drops.

## Main results

* `OrchestratorTask.driverSteps_couples`: the steps of the task keep two such worlds.
* `OrchestratorTask.inserted_apart`: the two runs end in such worlds.
-/

/-! ### Databases -/

/-- The databases differ at most in the stored watermark. -/
structure Storage.ApartFromCursor (s t : Storage) : Prop where
  messages : t.messages = s.messages
  contacts : t.contacts = s.contacts
  pendingAcks : t.pendingAcks = s.pendingAcks
  records : t.records = s.records
  secureLoad (key : String) (h : key ≠ streamCursorKey) : t.secureLoad key = s.secureLoad key

namespace Storage.ApartFromCursor

variable {s t : Storage}

theorem refl (s : Storage) : s.ApartFromCursor s := ⟨rfl, rfl, rfl, rfl, fun _ _ => rfl⟩

theorem symm (h : s.ApartFromCursor t) : t.ApartFromCursor s :=
  ⟨h.messages.symm, h.contacts.symm, h.pendingAcks.symm, h.records.symm,
    fun key hkey => (h.secureLoad key hkey).symm⟩

theorem trans {r : Storage} (h : r.ApartFromCursor s) (h' : s.ApartFromCursor t) :
    r.ApartFromCursor t :=
  ⟨h'.messages.trans h.messages, h'.contacts.trans h.contacts,
    h'.pendingAcks.trans h.pendingAcks, h'.records.trans h.records,
    fun key hkey => (h'.secureLoad key hkey).trans (h.secureLoad key hkey)⟩

theorem saveCursor (value : Bytes) (s : Storage) :
    s.ApartFromCursor (s.secureSave streamCursorKey value) :=
  ⟨rfl, rfl, rfl, rfl, fun _ hkey => secureLoad_secureSave_of_ne (Ne.symm hkey) value s⟩

theorem secureSave (h : s.ApartFromCursor t) (key : String) (value : Bytes) :
    (s.secureSave key value).ApartFromCursor (t.secureSave key value) where
  messages := h.messages
  contacts := h.contacts
  pendingAcks := h.pendingAcks
  records := h.records
  secureLoad key' hkey' := by
    by_cases hkey : key = key'
    · rw [← hkey, secureLoad_secureSave_self, secureLoad_secureSave_self]
    · rw [secureLoad_secureSave_of_ne hkey, secureLoad_secureSave_of_ne hkey,
        h.secureLoad key' hkey']

theorem secureDelete (h : s.ApartFromCursor t) (key : String) :
    (s.secureDelete key).ApartFromCursor (t.secureDelete key) where
  messages := h.messages
  contacts := h.contacts
  pendingAcks := h.pendingAcks
  records := h.records
  secureLoad key' hkey' := by
    by_cases hkey : key = key'
    · rw [← hkey, secureLoad_secureDelete_self, secureLoad_secureDelete_self]
    · rw [secureLoad_secureDelete_of_ne hkey, secureLoad_secureDelete_of_ne hkey,
        h.secureLoad key' hkey']

theorem secureSaveOrDelete (h : s.ApartFromCursor t) (key : String) (value : Bytes) :
    (s.secureSaveOrDelete key value).ApartFromCursor (t.secureSaveOrDelete key value) := by
  unfold Storage.secureSaveOrDelete
  split
  · exact h.secureDelete key
  · exact h.secureSave key value

theorem storeInboundMessage (h : s.ApartFromCursor t) (msg : StoredMessage) :
    (s.storeInboundMessage msg).ApartFromCursor (t.storeInboundMessage msg) where
  messages := by
    show t.messages.insertOrIgnore msg = s.messages.insertOrIgnore msg
    rw [h.messages]
  contacts := h.contacts
  pendingAcks := h.pendingAcks
  records := h.records
  secureLoad := h.secureLoad

end Storage.ApartFromCursor

namespace OrchestratorTask

variable {ε : Type} {X : Externals ε} {C : TaskConfig}

theorem TaskStatement.apart {f : Storage → Storage} (hf : TaskStatement f) {s t : Storage}
    (h : s.ApartFromCursor t) : (f s).ApartFromCursor (f t) := by
  cases hf with
  | persistRecord json =>
    exact ⟨h.messages, h.contacts, h.pendingAcks, congrArg (· ++ [("msg", json)]) h.records,
      h.secureLoad⟩
  | storeAck messageId timestampMs =>
    exact ⟨h.messages, h.contacts,
      congrArg (fun acks : Dict ℤ => acks.insertOrIgnore (messageId, timestampMs)) h.pendingAcks,
      h.records, h.secureLoad⟩
  | pruneAcks cutoffMs =>
    exact ⟨h.messages, h.contacts,
      congrArg (Table.deleteWhere fun a : String × ℤ => decide (a.2 < cutoffMs)) h.pendingAcks,
      h.records, h.secureLoad⟩
  | markDelivered messageId =>
    have hupdate (messages : Table StoredMessage.id) (hm : messages = s.messages) :
        messages.update _ (StoredMessage.id_deliveredIf messageId) =
          s.messages.update _ (StoredMessage.id_deliveredIf messageId) := by rw [hm]
    exact ⟨hupdate t.messages h.messages, h.contacts, h.pendingAcks, h.records, h.secureLoad⟩
  | saveArchive contactId bytes => exact h.secureSave _ _
  | deleteSession contactId => exact h.secureDelete _
  | deleteArchive contactId => exact h.secureDelete _
  | saveState state => exact h.secureSaveOrDelete _ _

/-! ### Worlds -/

/-- The worlds differ at most in the watermark and the history. -/
structure ApartFromCursor (u v : TaskWorld ε) : Prop where
  ext : v.ext = u.ext
  storage : u.storage.ApartFromCursor v.storage
  pendingCursors : v.pendingCursors = u.pendingCursors
  streamTx : v.streamTx = u.streamTx
  ui : v.ui = u.ui
  selfTx : v.selfTx = u.selfTx
  timers : v.timers = u.timers
  spawned : v.spawned = u.spawned
  aborted : v.aborted = u.aborted
  sessionEstablishedAtMs : v.sessionEstablishedAtMs = u.sessionEstablishedAtMs
  followUps : v.followUps = u.followUps
  sessionInited : v.sessionInited = u.sessionInited

namespace ApartFromCursor

variable {u v : TaskWorld ε}

theorem refl (u : TaskWorld ε) : ApartFromCursor u u :=
  ⟨rfl, .refl _, rfl, rfl, rfl, rfl, rfl, rfl, rfl, rfl, rfl, rfl⟩

theorem symm (u v : TaskWorld ε) (h : ApartFromCursor u v) : ApartFromCursor v u :=
  ⟨h.ext.symm, h.storage.symm, h.pendingCursors.symm, h.streamTx.symm, h.ui.symm, h.selfTx.symm,
    h.timers.symm, h.spawned.symm, h.aborted.symm, h.sessionEstablishedAtMs.symm,
    h.followUps.symm, h.sessionInited.symm⟩

theorem trans (u v w : TaskWorld ε) (h : ApartFromCursor u v) (h' : ApartFromCursor v w) :
    ApartFromCursor u w :=
  ⟨h'.ext.trans h.ext, h.storage.trans h'.storage, h'.pendingCursors.trans h.pendingCursors,
    h'.streamTx.trans h.streamTx, h'.ui.trans h.ui, h'.selfTx.trans h.selfTx,
    h'.timers.trans h.timers, h'.spawned.trans h.spawned, h'.aborted.trans h.aborted,
    h'.sessionEstablishedAtMs.trans h.sessionEstablishedAtMs, h'.followUps.trans h.followUps,
    h'.sessionInited.trans h.sessionInited⟩

/-- What is left when the watermark and the history are left out. -/
theorem eq_of (h : ApartFromCursor u v) : v =
    { u with storage := v.storage, committed := v.committed, log := v.log } := by
  cases u
  cases v
  obtain ⟨rfl, -, rfl, rfl, rfl, rfl, rfl, rfl, rfl, rfl, rfl, rfl⟩ := h
  rfl

end ApartFromCursor

/-! ### Steps -/

/-- A step that neither reads nor writes the database, the watermark or the history couples two
worlds; it may add to the history. -/
theorem couples_of_frame {α : Type} {f : TaskWorld ε → α × TaskWorld ε}
    (hf : ∀ u s c l, ∃ l', f { u with storage := s, committed := c, log := l } =
      ((f u).1, { (f u).2 with storage := s, committed := c, log := l' }))
    (hstorage : ∀ u, (f u).2.storage = u.storage) :
    (Prog.act f).Couples ApartFromCursor := fun u v h => by
  obtain ⟨l', hv⟩ := hf u v.storage v.committed v.log
  rw [← h.eq_of] at hv
  rw [Prog.run_act, Prog.run_act, hv]
  refine ⟨rfl, rfl, ?_, rfl, rfl, rfl, rfl, rfl, rfl, rfl, rfl, rfl, rfl⟩
  rw [hstorage u]
  exact h.storage

/-- A statement couples two worlds when its answer and its effect are the same apart from the
watermark. -/
theorem couples_sql {α : Type} {f : Storage → α × Storage}
    (hf : ∀ s t : Storage, s.ApartFromCursor t → (f s).1 = (f t).1 ∧
      (f s).2.ApartFromCursor (f t).2) :
    (sql X f).Couples ApartFromCursor := fun u v h => by
  obtain ⟨hanswer, hstorage⟩ := hf u.storage v.storage h.storage
  have hsame : ∀ s t : Storage, s.ApartFromCursor t → ApartFromCursor
      { u with ext := (X.sqlFails u.ext).2, storage := s }
      { v with ext := (X.sqlFails v.ext).2, storage := t } := fun s t hst =>
    ⟨congrArg (fun e => (X.sqlFails e).2) h.ext, hst, h.pendingCursors, h.streamTx, h.ui, h.selfTx,
      h.timers, h.spawned, h.aborted, h.sessionEstablishedAtMs, h.followUps, h.sessionInited⟩
  show (sqlStep X f u).1 = (sqlStep X f v).1 ∧ ApartFromCursor (sqlStep X f u).2 (sqlStep X f v).2
  unfold sqlStep
  rw [h.ext]
  split
  · exact ⟨rfl, h.ext ▸ hsame _ _ h.storage⟩
  · exact ⟨congrArg some hanswer, h.ext ▸ hsame _ _ hstorage⟩

/-- What is relied on: a statement changes nothing outside the database, and the core does not load
the watermark. -/
structure CursorLaws (X : Externals ε) : Prop where
  sqlFails (e : ε) : (X.sqlFails e).2 = e
  loads (event : IncomingEvent) (e : ε) : ∀ action ∈ (X.handleEvent event e).1,
    LoadsOnly (· ≠ Storage.streamCursorKey) action

section Laws

variable (laws : CursorLaws X)

include laws

/-- A move of the watermark moves nothing else. -/
theorem persist_apart (cursor : Option String) :
    (CursorTracker.persist X cursor).Keeps ApartFromCursor := by
  have hsql {α : Type} (f : Storage → α × Storage)
      (hf : ∀ s : Storage, s.ApartFromCursor (f s).2) : (sql X f).Keeps ApartFromCursor :=
    .act fun w => by
      unfold sqlStep
      rw [laws.sqlFails]
      split
      · exact .refl w
      · exact ⟨rfl, hf w.storage, rfl, rfl, rfl, rfl, rfl, rfl, rfl, rfl, rfl, rfl⟩
  cases cursor with
  | none => exact .pure _
  | some c =>
    exact CursorTracker.persist_keeps X c (hsql _ .refl) (fun _ => hsql _ (.saveCursor _))
      fun w => ⟨rfl, .refl _, rfl, rfl, rfl, rfl, rfl, rfl, rfl, rfl, rfl, rfl⟩

theorem persist_couples (cursor : Option String) :
    (CursorTracker.persist X cursor).Couples ApartFromCursor :=
  .of_keeps .refl ApartFromCursor.symm ApartFromCursor.trans (persist_apart laws cursor)

theorem storeAndNotify_couples (contactId messageId text : String) :
    (storeAndNotify X contactId messageId text).Couples ApartFromCursor := by
  refine .bind (couples_of_frame (fun _ _ _ _ => ⟨_, rfl⟩) fun _ => rfl) fun n => .bind ?_ fun _ =>
    couples_of_frame (fun _ _ _ _ => ⟨_, rfl⟩) fun _ => rfl
  refine .bind (couples_of_frame (fun _ _ _ _ => ⟨_, rfl⟩) fun _ => rfl) fun _ =>
    .bind (couples_sql fun _ _ h => ⟨rfl, h.storeInboundMessage _⟩) fun stored => ?_
  split
  · exact .bind (couples_of_frame (fun _ _ _ _ => ⟨_, rfl⟩) fun _ => rfl) fun cursor =>
      persist_couples laws cursor
  · exact .pure _

/-- Every step of the task couples two worlds. -/
theorem driverSteps_couples : DriverSteps X (· ≠ Storage.streamCursorKey)
    fun _ p => p.Couples (ApartFromCursor (ε := ε)) where
  toClosed := Prog.closed_couples ApartFromCursor
  query _ := couples_of_frame (fun _ _ _ _ => ⟨_, rfl⟩) fun _ => rfl
  external _ := couples_of_frame (fun _ _ _ _ => ⟨_, rfl⟩) fun _ => rfl
  inited := couples_of_frame (fun _ _ _ _ => ⟨_, rfl⟩) fun _ => rfl
  queued _ := couples_of_frame (fun _ _ _ _ => ⟨_, rfl⟩) fun _ => rfl
  popped _ := couples_of_frame (fun _ _ _ _ => ⟨_, rfl⟩) fun _ => rfl
  sendUi _ _ := couples_of_frame (fun _ _ _ _ => ⟨_, rfl⟩) fun _ => rfl
  notifyUi _ _ _ := couples_of_frame (fun _ _ _ _ => ⟨_, rfl⟩) fun _ => rfl
  sendOutgoing _ _ _ _ := couples_of_frame (fun _ _ _ _ => ⟨_, rfl⟩) fun _ => rfl
  trySend _ := couples_of_frame (fun _ _ _ _ => ⟨_, rfl⟩) fun _ => rfl
  spawn _ _ := couples_of_frame (fun _ _ _ _ => ⟨_, rfl⟩) fun _ => rfl
  startTimer _ _ := couples_of_frame (fun _ _ _ _ => ⟨_, rfl⟩) fun _ => rfl
  insertTimer _ _ := couples_of_frame (fun _ _ _ _ => ⟨_, rfl⟩) fun _ => rfl
  abortTimer timerId := couples_of_frame (fun u _ _ _ => by
    dsimp only
    cases u.timers.find? timerId <;> exact ⟨_, rfl⟩) fun u => by
    dsimp only
    cases u.timers.find? timerId <;> rfl
  pushFollowUp _ := couples_of_frame (fun _ _ _ _ => ⟨_, rfl⟩) fun _ => rfl
  exec _ hf := couples_sql fun _ _ h => ⟨rfl, hf.apart h⟩
  hasAck messageId := couples_sql fun s t h =>
    ⟨by show (s.pendingAcks.find? messageId).isSome = (t.pendingAcks.find? messageId).isSome
        rw [h.pendingAcks], h⟩
  secureLoad key hkey := couples_sql fun _ _ h => ⟨(h.secureLoad key hkey).symm, h⟩
  secureStoreSave key data := by
    refine fun u v h => ⟨rfl, ?_⟩
    have hsql := (couples_sql (X := X) (f := fun s => ((), s.secureSaveOrDelete key data))
      (fun _ _ h => ⟨rfl, h.secureSaveOrDelete key data⟩) u v h).2
    exact ⟨hsql.ext, hsql.storage, hsql.pendingCursors, hsql.streamTx, hsql.ui, hsql.selfTx,
      hsql.timers, hsql.spawned, hsql.aborted, hsql.sessionEstablishedAtMs, hsql.followUps,
      hsql.sessionInited⟩
  storeAndNotify := storeAndNotify_couples laws
  markInited _ := couples_of_frame (fun _ _ _ _ => ⟨_, rfl⟩) fun _ => rfl
  setEstablished _ _ := couples_of_frame (fun _ _ _ _ => ⟨_, rfl⟩) fun _ => rfl
  removeEstablished _ := couples_of_frame (fun _ _ _ _ => ⟨_, rfl⟩) fun _ => rfl
  startCycle := couples_of_frame (fun _ _ _ _ => ⟨_, rfl⟩) fun _ => rfl
  takeFollowUps := couples_of_frame (fun _ _ _ _ => ⟨_, rfl⟩) fun _ => rfl
  dropFollowUps := couples_of_frame (fun _ _ _ _ => ⟨_, rfl⟩) fun _ => rfl
  handleEvent event g hg := fun u v h => by
    have hhandle : (handleEvent X event).Couples ApartFromCursor :=
      couples_of_frame (fun _ _ _ _ => ⟨_, rfl⟩) fun _ => rfl
    obtain ⟨hanswer, hworld⟩ := hhandle u v h
    rw [Prog.run_bind, Prog.run_bind, ← hanswer]
    exact hg _ (laws.loads event u.ext) _ _ hworld

/-- Handling an input couples two worlds. -/
theorem handleInput_couples (input : TaskInput) :
    (handleInput X C input).Couples ApartFromCursor := by
  have frame {α : Type} {f : TaskWorld ε → α × TaskWorld ε}
      (hf : ∀ u s c l, ∃ l', f { u with storage := s, committed := c, log := l } =
        ((f u).1, { (f u).2 with storage := s, committed := c, log := l' }))
      (hstorage : ∀ u, (f u).2.storage = u.storage) := couples_of_frame hf hstorage
  cases input with
  | event event => exact (driverSteps_couples laws).handleRx event
  | command cmd =>
    refine (driverSteps_couples laws).handleCommand
      (fun _ => frame (fun _ _ _ _ => ⟨_, rfl⟩) fun _ => rfl)
      (frame (fun _ _ _ _ => ⟨_, rfl⟩) fun _ => rfl) (fun messageId cursor => ?_)
      (persist_couples laws) cmd
    unfold CursorTracker.note
    split
    · exact .pure _
    · exact frame (fun _ _ _ _ => ⟨_, rfl⟩) fun _ => rfl

end Laws

/-! ### Runs -/

/-- The second list is the first with stream messages in it that the guard drops, in a run from the
world. -/
inductive Inserted (X : Externals ε) (C : TaskConfig) :
    TaskWorld ε → List TaskInput → List TaskInput → Prop
  | nil (v : TaskWorld ε) : Inserted X C v [] []
  | common {v : TaskWorld ε} {inputs inputs' : List TaskInput} (input : TaskInput)
      (h : Inserted X C ((handleInput X C input).run v).2 inputs inputs') :
      Inserted X C v (input :: inputs) (input :: inputs')
  | dropped {v : TaskWorld ε} {inputs inputs' : List TaskInput} (event : IncomingEvent)
      (context : StreamMessageContext)
      (hstale : shouldDropStaleSessionReplay context v.sessionEstablishedAtMs = true)
      (h : Inserted X C ((handleCommand X C (.streamMessage event context)).run v).2 inputs
        inputs') :
      Inserted X C v inputs (.command (.streamMessage event context) :: inputs')

/-- A dropped replay moves at most the watermark. -/
theorem dropped_apart (laws : CursorLaws X) (event : IncomingEvent) {context : StreamMessageContext}
    {v : TaskWorld ε} (h : shouldDropStaleSessionReplay context v.sessionEstablishedAtMs = true) :
    ApartFromCursor v ((handleCommand X C (.streamMessage event context)).run v).2 := by
  show ApartFromCursor v ((streamMessage X C event context).run v).2
  rw [streamMessage_run_of_stale h]
  have hlog (l : List Obs) : ApartFromCursor v { v with log := l } :=
    ⟨rfl, .refl _, rfl, rfl, rfl, rfl, rfl, rfl, rfl, rfl, rfl, rfl⟩
  exact .trans _ _ _ (hlog _)
    ((persist_apart laws _).run ApartFromCursor.refl ApartFromCursor.trans _)

theorem Inserted.apart (laws : CursorLaws X) {v : TaskWorld ε} {inputs inputs' : List TaskInput}
    (h : Inserted X C v inputs inputs') : ∀ u, ApartFromCursor u v →
      ApartFromCursor ((runTask X C inputs).run u).2 ((runTask X C inputs').run v).2 := by
  induction h with
  | nil v => exact fun u huv => huv
  | common input _ ih =>
    intro u huv
    show ApartFromCursor ((handleInput X C input >>= fun _ => _).run u).2
      ((handleInput X C input >>= fun _ => _).run _).2
    rw [Prog.run_bind, Prog.run_bind]
    exact ih _ (handleInput_couples laws input u _ huv).2
  | dropped event context hstale _ ih =>
    intro u huv
    show ApartFromCursor _
      ((handleInput X C (.command (.streamMessage event context)) >>= fun _ => _).run _).2
    rw [Prog.run_bind]
    exact ih u (huv.trans _ _ _ (dropped_apart laws event hstale))

/-- **A run with stream messages in it that the guard drops ends with the same state of the core and
of the task, the same database and the same things sent as the run without them, apart from the
watermark.** -/
theorem inserted_apart (laws : CursorLaws X) {w : TaskWorld ε} {inputs inputs' : List TaskInput}
    (h : Inserted X C w inputs inputs') :
    ApartFromCursor ((runTask X C inputs).run w).2 ((runTask X C inputs').run w).2 :=
  h.apart laws w (.refl w)

theorem initAtThousand_laws : CursorLaws initAtThousand where
  sqlFails _ := rfl
  loads event e action haction := by
    have hactions : (initAtThousand.handleEvent event e).1 =
        if event = .appLaunched then [.initSession "bob" "bundle"] else [] := rfl
    rw [hactions] at haction
    split at haction
    · rw [List.mem_singleton.mp haction]
      exact trivial
    · cases haction

/-- A session is set up at 1000, and a replay from 700 is dropped. -/
theorem inserted_apart_lateMessage : ApartFromCursor
    ((runTask initAtThousand ⟨.tagged, "me", "phone"⟩ [.event .appLaunched]).run
      (.start () .init)).2
    ((runTask initAtThousand ⟨.tagged, "me", "phone"⟩
      [.event .appLaunched, .command (.streamMessage bobMessage lateMessage)]).run
        (.start () .init)).2 :=
  inserted_apart initAtThousand_laws
    (.common _ (.dropped bobMessage lateMessage (by decide) (.nil _)))

end OrchestratorTask
