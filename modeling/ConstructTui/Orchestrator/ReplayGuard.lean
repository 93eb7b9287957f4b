import ConstructTui.Orchestrator.Establishment
import ConstructTui.Orchestrator.FollowUps

/-!
# The guard against replays

A message that could undo a session, and whose cursor is older than the session, is dropped. The
cursor holds the clock of the server, the session is stamped with the local one. So the guard drops
nothing but replays exactly when the clocks differ by less than what lies between the session and
the message.

## Main definitions

* `OrchestratorTask.Dropped`: a message that the guard drops.
* `OrchestratorTask.StampedBy`, `OrchestratorTask.Fresh`: messages of a server with another clock,
  and those that are no replays.

## Main results

* `OrchestratorTask.dropped_iff`: what the guard drops.
* `OrchestratorTask.fresh_kept_iff`: no fresh message of a run is dropped exactly when every session
  is older than the message by the clock of the server as well.
* `OrchestratorTask.fresh_kept_of_ahead`: so it is when the server's clock is not behind.
-/

namespace OrchestratorTask

variable {ε : Type} {X : Externals ε} {C : TaskConfig}

/-! ### What is dropped -/

/-- The message is received and dropped. -/
def Dropped (X : Externals ε) (C : TaskConfig) (event : IncomingEvent)
    (context : StreamMessageContext) (u : TaskWorld ε) : Prop :=
  ((handleCommand X C (.streamMessage event context)).run u).2.log =
    u.log ++ [.received context.messageId context.streamCursor, .dropped context.messageId]

theorem persist_log (cursor : Option String) :
    (CursorTracker.persist X cursor).Keeps fun w w' : TaskWorld ε => w'.log = w.log := by
  have hsql {α : Type} (f : Storage → α × Storage) :
      (sql X f).Keeps fun w w' : TaskWorld ε => w'.log = w.log := .act fun w => by
    unfold sqlStep
    split <;> rfl
  cases cursor with
  | none => exact .pure _
  | some c => exact CursorTracker.persist_keeps X c (hsql _) (fun _ => hsql _) fun _ => rfl

/-- A stale replay is recorded and moves the watermark. -/
theorem streamMessage_run_of_stale {event : IncomingEvent} {context : StreamMessageContext}
    {u : TaskWorld ε}
    (h : shouldDropStaleSessionReplay context u.sessionEstablishedAtMs = true) :
    (streamMessage X C event context).run u =
      (CursorTracker.commitDirect X context.streamCursor).run { u with log := u.log ++
        [.received context.messageId context.streamCursor, .dropped context.messageId] } := by
  simp only [streamMessage, Prog.run_bind, Prog.run_read, observe, Prog.run_update, h, if_true,
    List.append_assoc]
  rfl

/-- The guard alone decides what is dropped. -/
theorem dropped_iff {event : IncomingEvent} {context : StreamMessageContext} {u : TaskWorld ε} :
    Dropped X C event context u ↔
      shouldDropStaleSessionReplay context u.sessionEstablishedAtMs = true := by
  cases hstale : shouldDropStaleSessionReplay context u.sessionEstablishedAtMs with
  | false =>
    refine iff_of_false (fun h => ?_) Bool.false_ne_true
    obtain ⟨L, ⟨A, B, rfl, -⟩, hlog⟩ := streamMessage_log (X := X) (C := C) event context u hstale
    have hrest := List.append_cancel_left (h.symm.trans hlog)
    cases hrest
  | true =>
    refine iff_of_true ?_ rfl
    show ((streamMessage X C event context).run u).2.log = _
    rw [streamMessage_run_of_stale hstale]
    exact Prog.Keeps.run (G := fun w w' : TaskWorld ε => w'.log = w.log) (fun _ => rfl)
      (fun _ _ _ h h' => h'.trans h) (persist_log _) _

/-! ### Two clocks -/

/-- The server's clock is `δ` ahead of the local one, and a cursor holds its time at the message. -/
def StampedBy (δ : ℤ) (appendedAt : StreamMessageContext → ℕ) (context : StreamMessageContext) :
    Prop :=
  ∀ t, streamCursorMillis context.streamCursor = some t → (t : ℤ) = appendedAt context + δ

/-- The message was sent after the session was set up, and has not been received before. -/
structure Fresh (appendedAt : StreamMessageContext → ℕ) (context : StreamMessageContext)
    (u : TaskWorld ε) : Prop where
  after (row : String × ℕ) : u.sessionEstablishedAtMs.find? context.contactId = some row →
    row.2 ≤ appendedAt context
  new (cursor : Option String) : .received context.messageId cursor ∉ u.log

/-- By the clock of the server as well, the message was sent after the session was set up. -/
def AfterByServer (δ : ℤ) (appendedAt : StreamMessageContext → ℕ) (context : StreamMessageContext)
    (u : TaskWorld ε) : Prop :=
  context.isReplaySensitive = true → (streamCursorMillis context.streamCursor).isSome →
    ∀ row, u.sessionEstablishedAtMs.find? context.contactId = some row →
      (row.2 : ℤ) ≤ appendedAt context + δ

theorem shouldDrop_eq_false_iff {δ : ℤ} {appendedAt : StreamMessageContext → ℕ}
    {context : StreamMessageContext} (h : StampedBy δ appendedAt context) (u : TaskWorld ε) :
    shouldDropStaleSessionReplay context u.sessionEstablishedAtMs = false ↔
      AfterByServer δ appendedAt context u := by
  unfold shouldDropStaleSessionReplay AfterByServer
  cases context.isReplaySensitive with
  | false => exact iff_of_true rfl fun h => Bool.noConfusion h
  | true =>
    rw [Bool.true_and, imp_iff_right rfl]
    cases hcursor : streamCursorMillis context.streamCursor with
    | none =>
      refine iff_of_true ?_ fun h => Bool.noConfusion h
      cases u.sessionEstablishedAtMs.find? context.contactId <;> rfl
    | some t =>
      have ht := h t hcursor
      refine Iff.trans ?_ (imp_iff_right (rfl : (some t).isSome = true)).symm
      cases u.sessionEstablishedAtMs.find? context.contactId with
      | none => exact iff_of_true rfl fun _ h => by cases h
      | some row =>
        dsimp only
        rw [decide_eq_false_iff_not]
        refine ⟨fun hlt row' hrow => ?_, fun hle => ?_⟩
        · obtain rfl := Option.some.inj hrow
          omega
        · have := hle row rfl
          omega

/-! ### Runs -/

/-- The world in which an input of a run is handled. -/
def worldAt (X : Externals ε) (C : TaskConfig) (before : List TaskInput) (w : TaskWorld ε) :
    TaskWorld ε := ((runTask X C before).run w).2

/-- **In a run whose messages are stamped by a server with another clock, no fresh message is
dropped exactly when each of them that could undo a session was sent after it by the server's clock
as well.** -/
theorem fresh_kept_iff (X : Externals ε) (C : TaskConfig) (inputs : List TaskInput)
    (w : TaskWorld ε) (δ : ℤ) (appendedAt : StreamMessageContext → ℕ)
    (hclock : ∀ event context, .command (.streamMessage event context) ∈ inputs →
      StampedBy δ appendedAt context) :
    (∀ before event context after,
      inputs = before ++ .command (.streamMessage event context) :: after →
      Fresh appendedAt context (worldAt X C before w) →
        ¬Dropped X C event context (worldAt X C before w)) ↔
    ∀ before event context after,
      inputs = before ++ .command (.streamMessage event context) :: after →
      Fresh appendedAt context (worldAt X C before w) →
        AfterByServer δ appendedAt context (worldAt X C before w) := by
  refine forall_congr' fun before => forall_congr' fun event => forall_congr' fun context =>
    forall_congr' fun after => forall_congr' fun hinputs => forall_congr' fun _ => ?_
  have hstamped := hclock event context (hinputs ▸ List.mem_append_right _ List.mem_cons_self)
  rw [dropped_iff, Bool.not_eq_true]
  exact shouldDrop_eq_false_iff hstamped _

/-- A server whose clock is not behind drops nothing but replays. -/
theorem fresh_kept_of_ahead {δ : ℤ} (hδ : 0 ≤ δ) {appendedAt : StreamMessageContext → ℕ}
    {context : StreamMessageContext} {u : TaskWorld ε} (h : Fresh appendedAt context u) :
    AfterByServer δ appendedAt context u := fun _ _ row hrow => by
  have := h.after row hrow
  omega

/-! ### A server whose clock lags -/

/-- The core of `initOnce` with a clock at 1000. -/
def initAtThousand : Externals Unit := { initOnce with millis := fun _ => (1000, ()) }

/-- The first message of a new chain. -/
def bobMessage : IncomingEvent := .messageReceived "m1" "bob" [1] 0 [] 0 false 0

/-- What a server that is 500 behind says of it, when it is sent at 1200. -/
def lateMessage : StreamMessageContext := ⟨"bob", "m1", some "700-0", 0, 0⟩

/-- What a server that is not behind says. -/
def timelyMessage : StreamMessageContext := ⟨"bob", "m1", some "1200-0", 0, 0⟩

theorem not_mem_log_initAtThousand (cursor : Option String) : .received "m1" cursor ∉
    (worldAt initAtThousand ⟨.tagged, "me", "phone"⟩ [.event .appLaunched]
      (.start () .init)).log := by
  have hlog : (worldAt initAtThousand ⟨.tagged, "me", "phone"⟩ [.event .appLaunched]
      (.start () .init)).log =
        [.handled .appLaunched, .pushed (.sessionInitCompleted "bob" []),
          .handled (.sessionInitCompleted "bob" [])] := by decide
  rw [hlog]
  simp

theorem establishedAt_initAtThousand (row : String × ℕ) (hrow : (worldAt initAtThousand
    ⟨.tagged, "me", "phone"⟩ [.event .appLaunched] (.start () .init)).sessionEstablishedAtMs.find?
      "bob" = some row) : row = ("bob", 1000) := by
  have hstamp : (worldAt initAtThousand ⟨.tagged, "me", "phone"⟩ [.event .appLaunched]
      (.start () .init)).sessionEstablishedAtMs.find? "bob" = some ("bob", 1000) := by decide
  exact Option.some.inj (hrow.symm.trans hstamp)

/-- Through a server that is not behind, the message is kept. -/
theorem fresh_kept_timelyMessage : ¬Dropped initAtThousand ⟨.tagged, "me", "phone"⟩ bobMessage
    timelyMessage
      (worldAt initAtThousand ⟨.tagged, "me", "phone"⟩ [.event .appLaunched]
        (.start () .init)) := by
  have hfresh : Fresh (fun _ => 1200) timelyMessage
      (worldAt initAtThousand ⟨.tagged, "me", "phone"⟩ [.event .appLaunched] (.start () .init)) :=
    ⟨fun row hrow => by rw [establishedAt_initAtThousand row hrow]; decide,
      not_mem_log_initAtThousand⟩
  refine (fresh_kept_iff initAtThousand ⟨.tagged, "me", "phone"⟩
    [.event .appLaunched, .command (.streamMessage bobMessage timelyMessage)] (.start () .init) 0
    (fun _ => 1200) fun event context hmem => ?_).mpr
      (fun _ _ _ _ _ h => fresh_kept_of_ahead le_rfl h) [.event .appLaunched] _ _ [] rfl hfresh
  obtain ⟨-, rfl⟩ : event = bobMessage ∧ context = timelyMessage := by simpa using hmem
  intro t ht
  obtain rfl : 1200 = t := Option.some.inj ((by decide :
    streamCursorMillis timelyMessage.streamCursor = some 1200).symm.trans ht)
  rfl

/-- Through one that lags, the message is dropped although it is fresh. -/
theorem dropped_lateMessage :
    StampedBy (-500) (fun _ => 1200) lateMessage ∧
      Fresh (fun _ => 1200) lateMessage
        (worldAt initAtThousand ⟨.tagged, "me", "phone"⟩ [.event .appLaunched] (.start () .init)) ∧
      Dropped initAtThousand ⟨.tagged, "me", "phone"⟩ bobMessage lateMessage
        (worldAt initAtThousand ⟨.tagged, "me", "phone"⟩ [.event .appLaunched]
          (.start () .init)) := by
  refine ⟨fun t ht => ?_, ⟨fun row hrow => ?_, not_mem_log_initAtThousand⟩,
    dropped_iff.mpr (by decide)⟩
  · obtain rfl : 700 = t := Option.some.inj ((by decide :
      streamCursorMillis lateMessage.streamCursor = some 700).symm.trans ht)
    rfl
  · rw [establishedAt_initAtThousand row hrow]
    decide

end OrchestratorTask
