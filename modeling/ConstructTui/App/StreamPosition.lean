import ConstructTui.App.StreamSends
import ConstructTui.Orchestrator.StoredCursors

/-!
# The position of the stream

Two parties ask the server for what comes after the watermark: the stream worker when it opens a
stream again, from the copy in memory, and the app when the contacts change, from the database. A
call that moves the watermark moves both, and any other call moves neither, so the two agree as long
as they agreed when the tracker was loaded. A tracker whose database could not be read starts
without a watermark, whatever is stored.

## Main definitions

* `CursorTracker.load`, `CursorTracker.Call`: the calls on the tracker.
* `CursorTracker.Agrees`: memory and storage agree.
* `CursorTracker.SamePosition`: the worker and the app ask for the same.

## Main results

* `CursorTracker.agrees_always_iff`: when memory and storage agree throughout.
* `CursorTracker.disagrees_unread`: a stored watermark that could not be read.
-/

namespace CursorTracker

open OrchestratorTask Prog

variable {ε : Type} (X : Externals ε)

/-- Read the stored watermark; one that cannot be read counts as missing. -/
def load : Prog (TaskWorld ε) Unit := do
  let committed ← sql X fun s => (s.loadStreamCursor, s)
  Prog.update fun w => { w with committed := committed.join, pendingCursors := Table.empty }

/-- The calls on a tracker, and what happens between them: anything, but that nobody else writes the
watermark. -/
inductive Call (ε : Type)
  | note (messageId : String) (cursor : Option String)
  | commit (messageId : String)
  | commitDirect (cursor : Option String)
  | elsewhere (w : TaskWorld ε)

def call (w : TaskWorld ε) : Call ε → Option (TaskWorld ε)
  | .note messageId cursor => some ((CursorTracker.note messageId cursor).run w).2
  | .commit messageId => some ((CursorTracker.commit X messageId).run w).2
  | .commitDirect cursor => some ((CursorTracker.commitDirect X cursor).run w).2
  | .elsewhere w' =>
    if w'.committed = w.committed ∧ w'.storage.loadStreamCursor = w.storage.loadStreamCursor then
      some w'
    else none

/-- Memory and storage agree on the watermark. -/
def Agrees (w : TaskWorld ε) : Prop := w.committed = w.storage.loadStreamCursor

variable {X}

/-! ### One call -/

/-- A call of `save_stream_cursor` leaves the copy in memory to its caller. -/
theorem committed_saveStreamCursor (cursor : String) (w : TaskWorld ε) :
    ((saveStreamCursor X cursor).run w).2.committed = w.committed := by
  have hsql {α : Type} (f : Storage → α × Storage) :
      (sql X f).Keeps fun u v => v.committed = u.committed := by
    refine .act fun u => ?_
    unfold sqlStep
    split <;> rfl
  refine Keeps.run (G := fun u v : TaskWorld ε => v.committed = u.committed) (fun _ => rfl)
    (fun _ _ _ huv hvw => hvw.trans huv) ?_ w
  unfold saveStreamCursor
  split
  · exact .pure _
  · refine .bind (hsql _) fun old => ?_
    cases old with
    | none => exact .pure _
    | some old =>
      dsimp only
      split
      · exact .pure _
      · refine .bind (hsql _) fun r => ?_
        cases r with
        | none => exact .pure _
        | some _ => exact .pure _

/-- A move of the watermark moves both copies, or neither. -/
theorem Agrees.persist {w : TaskWorld ε} (hw : Agrees w) (cursor : Option String) :
    Agrees ((persist X cursor).run w).2 := by
  cases cursor with
  | none => exact hw
  | some c =>
    unfold CursorTracker.persist
    rw [run_bind]
    obtain ⟨hmoves, hanswer, hstorage⟩ | ⟨-, hanswer, hstorage⟩ :=
      StoredCursors.saveStreamCursor_run X c w
    · rw [hanswer]
      show some c = ((saveStreamCursor X c).run w).2.storage.loadStreamCursor
      rw [hstorage]
      exact (Storage.loadStreamCursor_secureSave_cursor hmoves.1 _).symm
    · have hanswer : ¬(((saveStreamCursor X c).run w).1.getD false) = true := by
        intro h
        cases hr : ((saveStreamCursor X c).run w).1 with
        | none => rw [hr] at h; cases h
        | some moved =>
          rw [hr] at h
          exact hanswer (hr.trans (congrArg some h))
      rw [if_neg hanswer]
      show ((saveStreamCursor X c).run w).2.committed = _
      rw [committed_saveStreamCursor, run_pure, hstorage]
      exact hw

/-- A call keeps the two copies in agreement. -/
theorem Agrees.call {w w' : TaskWorld ε} {c : Call ε} (hw : Agrees w)
    (h : call X w c = some w') : Agrees w' := by
  cases c with
  | note messageId cursor =>
    obtain rfl := Option.some.inj h
    unfold CursorTracker.note
    split
    · exact hw
    · exact hw
  | commit messageId =>
    obtain rfl := Option.some.inj h
    exact Agrees.persist (w := ((takePending messageId).run w).2) hw _
  | commitDirect cursor =>
    obtain rfl := Option.some.inj h
    exact hw.persist _
  | elsewhere v =>
    obtain ⟨⟨hcommitted, hstored⟩, hv⟩ := Option.ite_none_right_eq_some.mp h
    obtain rfl := Option.some.inj hv
    exact hcommitted.trans (hw.trans hstored.symm)

/-! ### Loading -/

/-- The copies of a tracker that has just been loaded. -/
theorem load_run (w : TaskWorld ε) :
    ((load X).run w).2.committed =
        (if (X.sqlFails w.ext).1 then none else w.storage.loadStreamCursor) ∧
      ((load X).run w).2.storage = w.storage := by
  unfold load
  rw [run_bind]
  show ((sqlStep X (fun s => (s.loadStreamCursor, s)) w).1).join = _ ∧
    (sqlStep X (fun s => (s.loadStreamCursor, s)) w).2.storage = _
  unfold sqlStep
  by_cases hfails : (X.sqlFails w.ext).1 = true
  · rw [if_pos hfails, if_pos hfails]
    exact ⟨rfl, rfl⟩
  · rw [if_neg hfails, if_neg hfails]
    exact ⟨rfl, rfl⟩

/-- A tracker starts in agreement when its read is carried out, or when nothing is stored. -/
theorem agrees_load_iff (w : TaskWorld ε) : Agrees ((load X).run w).2 ↔
    (X.sqlFails w.ext).1 = false ∨ w.storage.loadStreamCursor = none := by
  obtain ⟨hcommitted, hstorage⟩ := load_run (X := X) w
  unfold Agrees
  rw [hcommitted, hstorage]
  cases hfails : (X.sqlFails w.ext).1 with
  | false => simp
  | true => simp [eq_comm]

/-! ### Runs -/

/-- Where the worker opens its stream from, and where the app subscribes from when its read is
carried out. -/
def SamePosition (w : TaskWorld ε) : Prop :=
  ∀ (p p' : Pipeline ε) (since : Option String), p.world = w →
    p.workerStep (.invalidated since) = some p' →
    ∀ (ans : Answers ε) (s : Sys ε), s.db = w.storage → s.app.readStorage = true →
      ans.sqlFails .loadStreamCursor = false →
      App.resubscribeStreamToContacts ans s = s.streamTrySend s.app.streamTx ans.streamHasRoom
        (.subscribe (s.app.chatList.contacts.map Contact.id) since)

theorem Agrees.samePosition {w : TaskWorld ε} (hw : Agrees w) : SamePosition w := by
  rintro p p' since rfl h ans s hdb hopen hread
  have hsince : since = p.world.storage.loadStreamCursor := by
    have hreads := Pipeline.tracked_workerStep h
    rw [← hw]
    unfold StreamWorker.Tracked.step at hreads
    exact of_decide_eq_true (Option.ite_none_right_eq_some.mp hreads).1
  unfold App.resubscribeStreamToContacts
  rw [if_pos hopen, App.storedCursor, if_neg (by rw [hread]; exact Bool.false_ne_true), hdb, hsince]

/-- **Memory and storage agree on the watermark** throughout exactly when the read at loading is
carried out, or nothing is stored; then the worker and the app ask for the same position. -/
theorem agrees_always_iff (X : Externals ε) (w : TaskWorld ε) (calls : List (Call ε)) :
    (Run.Always (call X) Agrees ((load X).run w).2 calls ↔
        (X.sqlFails w.ext).1 = false ∨ w.storage.loadStreamCursor = none) ∧
      (Run.Always (call X) Agrees ((load X).run w).2 calls →
        Run.Always (call X) SamePosition ((load X).run w).2 calls) := by
  refine ⟨⟨fun h => (agrees_load_iff w).mp h.start, fun h => ?_⟩, fun h => ?_⟩
  · intro pre t _ ht
    exact Run.invariant (fun _ _ _ => Agrees.call) ((agrees_load_iff w).mpr h) ht
  · exact h.mono fun _ => Agrees.samePosition

/-- A database that is busy at its first statement. -/
def busyOnce : Externals Bool where
  handleEvent _ busy := ([], busy)
  hasActiveSession _ _ := false
  pendingMessageCount _ _ := 0
  peekFirstPendingWirePayload _ _ := none
  popFirstPending _ busy := (none, busy)
  initReceivingSessionFromWirePayload _ _ _ busy := (.error "", busy)
  initSessionWithBundle _ _ busy := (.error "", busy)
  takeHealPayload _ busy := (none, busy)
  forgetContactState _ busy := busy
  exportOrchestratorStateCfe _ := .error ""
  getPreKeyBundle _ busy := (.error "", busy)
  bundleToJson _ := .error ""
  bundleOfJson _ := .error ""
  millis busy := (0, busy)
  randomBytes busy := ((Externals.quiet.randomBytes ()).1, busy)
  sqlFails busy := (busy, false)
  streamHasRoom busy := (true, busy)

/-- A tracker loaded while the database is busy has no watermark, and the next read finds one. -/
theorem disagrees_unread :
    let stored := Storage.init.secureSave Storage.streamCursorKey (Utf8.encode "5-0")
    let loaded := ((load busyOnce).run (TaskWorld.start true stored)).2
    ¬Run.Always (call busyOnce) Agrees loaded [] ∧ loaded.committed = none ∧
      ((sql busyOnce fun s => (s.loadStreamCursor, s)).run loaded).1 = some (some "5-0") := by
  refine ⟨fun h => ?_, rfl, by decide +kernel⟩
  exact absurd h.start (by unfold Agrees; decide +kernel)

end CursorTracker
