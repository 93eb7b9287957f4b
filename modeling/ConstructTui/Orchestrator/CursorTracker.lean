import ConstructTui.Orchestrator.World

/-!
# The stream watermark

The cursor up to which inbound messages are durable. It stands in the database for the next start
and in memory for the next reconnect; cursors of messages under way wait under their message id.

## Main definitions

* `OrchestratorTask.saveStreamCursor`: move the stored watermark, only ever forwards.
* `CursorTracker.note`, `CursorTracker.commit`, `CursorTracker.commitDirect`.

## Main results

* `CursorTracker.persist_keeps`: a relation kept by every move of the watermark.
-/

namespace OrchestratorTask

variable {ε : Type} (X : Externals ε)

/-- `Storage::save_stream_cursor`: store a cursor only if it is strictly after the stored one, and
tell whether the watermark moved. No answer when a statement fails. -/
def saveStreamCursor (cursor : String) : Prog (TaskWorld ε) (Option Bool) := do
  if cursor = "" then
    return some false
  match ← sql X fun s => (s.loadStreamCursor, s) with
  | none => return none
  | some old =>
    if old.any fun o => !cursorAfter cursor o then
      return some false
    match ← exec X (Storage.secureSave Storage.streamCursorKey (Utf8.encode cursor)) with
    | none => return none
    | some () => return some true

end OrchestratorTask

namespace CursorTracker

open OrchestratorTask

variable {ε : Type} (X : Externals ε)

/-- Remember the cursor of a message under way. -/
def note (messageId : String) (cursor : Option String) : Prog (TaskWorld ε) Unit :=
  match cursor.filter fun c => c ≠ "" with
  | none => pure ()
  | some c => Prog.update fun w =>
    { w with pendingCursors := w.pendingCursors.insertOrReplace (messageId, c) }

/-- Take the cursor of a message out of those under way. -/
def takePending (messageId : String) : Prog (TaskWorld ε) (Option String) :=
  Prog.act fun w => ((w.pendingCursors.find? messageId).map Prod.snd,
    { w with pendingCursors := w.pendingCursors.deleteWhere fun r => r.1 = messageId })

/-- Move the watermark, in the database first. -/
def persist (cursor : Option String) : Prog (TaskWorld ε) Unit :=
  match cursor with
  | none => pure ()
  | some c => do
    if (← saveStreamCursor X c).getD false then
      Prog.update fun w => { w with committed := some c }

def commit (messageId : String) : Prog (TaskWorld ε) Unit := do
  let cursor ← takePending messageId
  persist X cursor

def commitDirect (cursor : Option String) : Prog (TaskWorld ε) Unit :=
  persist X (cursor.filter fun c => c ≠ "")

/-- A relation kept by the two statements and by the move of the watermark in memory is kept by
`persist`. -/
theorem persist_keeps {G : TaskWorld ε → TaskWorld ε → Prop} (c : String)
    (hload : (sql X fun s => (s.loadStreamCursor, s)).Keeps G)
    (hsave : c ≠ "" →
      (exec X (Storage.secureSave Storage.streamCursorKey (Utf8.encode c))).Keeps G)
    (hset : ∀ w, G w { w with committed := some c }) : (persist X (some c)).Keeps G := by
  refine .bind ?_ fun moved => ?_
  · unfold saveStreamCursor
    split
    · exact .pure _
    · rename_i hc
      refine .bind hload fun old => ?_
      cases old with
      | none => exact .pure _
      | some old =>
        dsimp only
        split
        · exact .pure _
        · refine .bind (hsave hc) fun r => ?_
          cases r with
          | none => exact .pure _
          | some _ => exact .pure _
  · split
    · exact .update hset
    · exact .pure _

end CursorTracker
