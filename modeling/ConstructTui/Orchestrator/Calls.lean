import ConstructTui.Lib.Traced
import ConstructTui.Orchestrator.Walk

/-!
# The actions a run carries out

The drivers again, with a mark at each action they have carried out and at each contact they forget.
Without the marks they are the drivers. What the marks do not show, what happens between them, is
what the drivers do besides dispatching.

## Main definitions

* `OrchestratorTask.Mark`: an action that is carried out in a world, or a contact forgotten in it.
* `OrchestratorTask.deliverMarked`, `OrchestratorTask.runTaskMarked`: the drivers with marks.

## Main results

* `OrchestratorTask.deliverMarked_prog`, `OrchestratorTask.runTaskMarked_prog`: they are the
  drivers.
* `OrchestratorTask.deliverMarked_follows`, `OrchestratorTask.runTaskMarked_follows`: a relation
  that the steps between the marks keep links the marks.
-/

namespace OrchestratorTask

variable {ε : Type} (X : Externals ε) (C : TaskConfig)

/-- An action is carried out, or the time of a contact's session is forgotten. -/
inductive Mark (ε : Type)
  | dispatched (action : CoreAction) (w : TaskWorld ε)
  | forgot (contactId : String) (w : TaskWorld ε)

/-- The world before. -/
def Mark.start : Mark ε → TaskWorld ε
  | .dispatched _ w => w
  | .forgot _ w => w

/-- The world after. -/
def Mark.stop : Mark ε → TaskWorld ε
  | .dispatched action w => ((dispatch X C action).run w).2
  | .forgot contactId w => ((removeEstablished contactId).run w).2

/-! ### The drivers -/

abbrev Marked (ε α : Type) := Traced (TaskWorld ε) (Mark ε) α

def dispatchMarked (action : CoreAction) : Marked ε Unit :=
  .mark (.dispatched action) (dispatch X C action)

def deliverShallowMarked (event : IncomingEvent) : Marked ε Unit := do
  let actions ← .plain (handleEvent X event)
  .plain startCycle
  .each (dispatchMarked X C) actions

def deliverFollowUpMarked (followUp : IncomingEvent) : Marked ε Unit := do
  let more ← .plain (handleEvent X followUp)
  .each (fun action => do .plain dropFollowUps; dispatchMarked X C action) more

def deliverMarked (event : IncomingEvent) : Marked ε Unit := do
  deliverShallowMarked X C event
  let followUps ← .plain takeFollowUps
  .each (deliverFollowUpMarked X C) followUps

def establishSessionMarked (contactId : String) : Marked ε (Except String Bool) := do
  if ← .plain (query (X.hasActiveSession contactId)) then
    return .ok false
  match ← .plain (fetchBundleJson X contactId) with
  | .error e => return .error ("GetPreKeyBundle: " ++ e)
  | .ok bundleJson =>
    deliverMarked X C (.keyBundleFetched contactId bundleJson)
    let created ← .plain (query (X.hasActiveSession contactId))
    return if created then .ok true else .error "no session after InitSession"

def prepareActiveChatMarked (contactId : String) : Marked ε Unit := do
  let hadInbound := 0 < (← .plain (query (X.pendingMessageCount contactId)))
  match ← establishSessionMarked X C contactId with
  | .ok true =>
    if !hadInbound then
      let pingId ← .plain (uuidV4 X)
      deliverShallowMarked X C (.outgoingMessage contactId pingId
        (Knst.encodeSessionPing C.proto pingId) 0)
  | .ok false => pure ()
  | .error e => .plain (sendUi (.error ("[SESSION_INIT_FAILED] " ++ e)))

def prepareOutgoingMarked : IncomingEvent → Marked ε (Option IncomingEvent)
  | .activeChatChanged contactId true => do
    prepareActiveChatMarked X C contactId
    return some (.activeChatChanged contactId true)
  | .outgoingMessage contactId messageId plaintext contentType => do
    let event :=
      .outgoingMessage contactId messageId (outgoingPlaintext C messageId plaintext) contentType
    if ← .plain (query (X.hasActiveSession contactId)) then
      return some event
    match ← establishSessionMarked X C contactId with
    | .ok _ => return some event
    | .error e =>
      .plain (sendUi (.error ("[SESSION_INIT_FAILED] " ++ e)))
      return none
  | other => return some other

def forgetContactMarked (contactId : String) : Marked ε Unit := do
  deliverShallowMarked X C (.activeChatChanged contactId false)
  .plain (external fun e => ((), X.forgetContactState contactId e))
  .mark (.forgot contactId) (removeEstablished contactId)
  .plain (saveOrchestratorState X)
  let _ ← .plain (exec X (Storage.secureDelete (Storage.sessionKey contactId)))
  let _ ← .plain (exec X (Storage.secureDelete (Storage.archiveKey contactId)))

def streamMessageMarked (event : IncomingEvent) (context : StreamMessageContext) :
    Marked ε Unit := do
  .plain (observe (.received context.messageId context.streamCursor))
  if shouldDropStaleSessionReplay context
      (← .plain (Prog.read TaskWorld.sessionEstablishedAtMs)) then
    .plain (observe (.dropped context.messageId))
    .plain (CursorTracker.commitDirect X context.streamCursor)
  else
    .plain (CursorTracker.note context.messageId context.streamCursor)
    deliverMarked X C event

def handleCommandMarked : OrchestratorCommand → Marked ε Unit
  | .forgetContact contactId => forgetContactMarked X C contactId
  | .streamMessage event context => streamMessageMarked X C event context

def handleRxMarked (event : IncomingEvent) : Marked ε Unit := do
  match ← prepareOutgoingMarked X C event with
  | some event => deliverMarked X C event
  | none => pure ()

def handleInputMarked : TaskInput → Marked ε Unit
  | .command cmd => handleCommandMarked X C cmd
  | .event event => handleRxMarked X C event

def runTaskMarked (inputs : List TaskInput) : Marked ε Unit :=
  .each (handleInputMarked X C) inputs

/-! ### Without the marks -/

variable {X C}

theorem deliverShallowMarked_prog (event : IncomingEvent) :
    (deliverShallowMarked X C event).prog = deliverShallow X C event := by
  unfold deliverShallowMarked deliverShallow dispatchAll
  refine bind_congr fun actions => bind_congr fun _ => ?_
  exact Traced.prog_each (fun _ => rfl) actions

theorem deliverFollowUpMarked_prog (followUp : IncomingEvent) :
    (deliverFollowUpMarked X C followUp).prog = deliverFollowUp X C followUp := by
  unfold deliverFollowUpMarked deliverFollowUp
  exact bind_congr fun more => Traced.prog_each (fun _ => rfl) more

/-- Without the marks, a delivery is a delivery. -/
theorem deliverMarked_prog (event : IncomingEvent) :
    (deliverMarked X C event).prog = deliver X C event := by
  unfold deliverMarked deliver
  rw [Traced.prog_bind, deliverShallowMarked_prog]
  exact bind_congr fun _ => bind_congr fun followUps =>
    Traced.prog_each deliverFollowUpMarked_prog followUps

theorem establishSessionMarked_prog (contactId : String) :
    (establishSessionMarked X C contactId).prog = establishSession X C contactId := by
  unfold establishSessionMarked establishSession
  refine bind_congr fun active => ?_
  cases active with
  | true => rfl
  | false =>
    refine bind_congr fun r => ?_
    cases r with
    | error e => rfl
    | ok bundleJson =>
      dsimp only
      rw [Traced.prog_bind, deliverMarked_prog]
      rfl

theorem prepareActiveChatMarked_prog (contactId : String) :
    (prepareActiveChatMarked X C contactId).prog = prepareActiveChat X C contactId := by
  unfold prepareActiveChatMarked prepareActiveChat
  refine bind_congr fun count => ?_
  dsimp only
  rw [Traced.prog_bind, establishSessionMarked_prog]
  refine bind_congr fun r => ?_
  match r with
  | .ok true =>
    dsimp only
    split
    · exact bind_congr fun _ => deliverShallowMarked_prog _
    · rfl
  | .ok false => rfl
  | .error e => rfl

theorem prepareOutgoingMarked_prog (event : IncomingEvent) :
    (prepareOutgoingMarked X C event).prog = prepareOutgoing X C event := by
  cases event with
  | activeChatChanged contactId active =>
    cases active with
    | true =>
      unfold prepareOutgoingMarked prepareOutgoing
      rw [Traced.prog_bind, prepareActiveChatMarked_prog]
      rfl
    | false => rfl
  | outgoingMessage contactId messageId plaintext contentType =>
    unfold prepareOutgoingMarked prepareOutgoing
    refine bind_congr fun active => ?_
    cases active with
    | true => rfl
    | false =>
      dsimp only
      refine (Traced.prog_bind _ _).trans ?_
      rw [establishSessionMarked_prog]
      refine bind_congr fun r => ?_
      cases r <;> rfl
  | _ => rfl

theorem handleRxMarked_prog (event : IncomingEvent) :
    (handleRxMarked X C event).prog = handleRx X C event := by
  unfold handleRxMarked handleRx
  rw [Traced.prog_bind, prepareOutgoingMarked_prog]
  refine bind_congr fun r => ?_
  cases r with
  | some event => exact deliverMarked_prog event
  | none => rfl

theorem handleCommandMarked_prog (cmd : OrchestratorCommand) :
    (handleCommandMarked X C cmd).prog = handleCommand X C cmd := by
  cases cmd with
  | forgetContact contactId =>
    show (forgetContactMarked X C contactId).prog = forgetContact X C contactId
    unfold forgetContactMarked forgetContact
    rw [Traced.prog_bind, deliverShallowMarked_prog]
    rfl
  | streamMessage event context =>
    show (streamMessageMarked X C event context).prog = streamMessage X C event context
    unfold streamMessageMarked streamMessage
    refine bind_congr fun _ => bind_congr fun established => ?_
    show Traced.prog (if shouldDropStaleSessionReplay context established then _ else _) =
      if shouldDropStaleSessionReplay context established then _ else _
    by_cases hstale : shouldDropStaleSessionReplay context established = true
    · rw [if_pos hstale, if_pos hstale]
      rfl
    · rw [if_neg hstale, if_neg hstale]
      exact bind_congr fun _ => deliverMarked_prog event

/-- Without the marks, the run loop is the run loop. -/
theorem runTaskMarked_prog (inputs : List TaskInput) :
    (runTaskMarked X C inputs).prog = runTask X C inputs := by
  refine Traced.prog_each (fun input => ?_) inputs
  cases input with
  | command cmd => exact handleCommandMarked_prog cmd
  | event event => exact handleRxMarked_prog event

/-! ### Between the marks -/

/-- A preorder that the steps of a delivery between its marks keep, once it has begun. -/
structure Between (X : Externals ε) (R : TaskWorld ε → TaskWorld ε → Prop) : Prop where
  refl (w : TaskWorld ε) : R w w
  trans (u v w : TaskWorld ε) : R u v → R v w → R u w
  handleEvent (event : IncomingEvent) : (handleEvent X event).Keeps R
  takeFollowUps : takeFollowUps.Keeps R
  dropFollowUps : dropFollowUps.Keeps R

variable {R : TaskWorld ε → TaskWorld ε → Prop}

theorem dispatchMarked_follows (hrefl : ∀ w, R w w) (action : CoreAction) :
    (dispatchMarked X C action).Follows R Mark.start (Mark.stop X C) :=
  .mark hrefl (fun _ => rfl) fun _ => rfl

theorem deliverFollowUpMarked_follows (h : Between X R) (followUp : IncomingEvent) :
    (deliverFollowUpMarked X C followUp).Follows R Mark.start (Mark.stop X C) :=
  .bind h.trans (.plain h.refl h.trans (h.handleEvent followUp)) fun more =>
    .each h.refl h.trans (fun action => .bind h.trans (.plain h.refl h.trans h.dropFollowUps)
      fun _ => dispatchMarked_follows h.refl action) more

/-- The world in which the first action of an answer is carried out. -/
def cycleStart (X : Externals ε) (event : IncomingEvent) (w : TaskWorld ε) : TaskWorld ε :=
  (startCycle.run ((handleEvent X event).run w).2).2

/-- The actions of a delivery are linked from the start of its cycle on. -/
theorem deliverMarked_linked (h : Between X R) (event : IncomingEvent) (w : TaskWorld ε) :
    Linked R Mark.start (Mark.stop X C) (cycleStart X event w) ((deliverMarked X C event).marks w)
      ((deliver X C event).run w).2 := by
  have hshallow : Linked R Mark.start (Mark.stop X C) (cycleStart X event w)
      ((deliverShallowMarked X C event).marks w)
        ((deliverShallowMarked X C event).prog.run w).2 := by
    unfold deliverShallowMarked
    rw [Traced.prog_bind, Prog.run_bind]
    exact Traced.Follows.each h.refl h.trans (dispatchMarked_follows h.refl)
      ((handleEvent X event).run w).1 (cycleStart X event w)
  have hrest : (Traced.plain takeFollowUps >>= fun followUps =>
      Traced.each (deliverFollowUpMarked X C) followUps).Follows R Mark.start (Mark.stop X C) :=
    .bind h.trans (.plain h.refl h.trans h.takeFollowUps) fun followUps =>
      .each h.refl h.trans (deliverFollowUpMarked_follows h) followUps
  rw [← deliverMarked_prog]
  unfold deliverMarked
  rw [Traced.prog_bind, Prog.run_bind]
  exact (hrest _).append h.trans hshallow

/-- A preorder that everything the drivers do besides dispatching keeps. -/
structure Besides (X : Externals ε) (R : TaskWorld ε → TaskWorld ε → Prop) : Prop
    extends Between X R where
  steps : Steps X (fun _ => True) fun _ p => p.Keeps R
  startCycle : startCycle.Keeps R
  observe (o : Obs) : (observe o).Keeps R
  note (messageId : String) (cursor : Option String) : (CursorTracker.note messageId cursor).Keeps R
  persist (cursor : Option String) : (CursorTracker.persist X cursor).Keeps R

theorem Besides.plain (h : Besides X R) {α : Type} {p : Prog (TaskWorld ε) α} (hp : p.Keeps R) :
    (Traced.plain p : Marked ε α).Follows R Mark.start (Mark.stop X C) := .plain h.refl h.trans hp

theorem deliverShallowMarked_follows (h : Besides X R) (event : IncomingEvent) :
    (deliverShallowMarked X C event).Follows R Mark.start (Mark.stop X C) :=
  .bind h.trans (h.plain (h.handleEvent event)) fun actions =>
    .bind h.trans (h.plain h.startCycle) fun _ =>
      .each h.refl h.trans (dispatchMarked_follows h.refl) actions

theorem deliverMarked_follows (h : Besides X R) (event : IncomingEvent) :
    (deliverMarked X C event).Follows R Mark.start (Mark.stop X C) :=
  .bind h.trans (deliverShallowMarked_follows h event) fun _ =>
    .bind h.trans (h.plain h.takeFollowUps) fun followUps =>
      .each h.refl h.trans (deliverFollowUpMarked_follows h.toBetween) followUps

theorem establishSessionMarked_follows (h : Besides X R) (contactId : String) :
    (establishSessionMarked X C contactId).Follows R Mark.start (Mark.stop X C) := by
  refine .bind h.trans (h.plain (h.steps.query _)) fun active => ?_
  cases active with
  | true => exact .pure h.refl _
  | false =>
    refine .bind h.trans (h.plain (h.steps.fetchBundleJson _)) fun r => ?_
    cases r with
    | error e => exact .pure h.refl _
    | ok bundleJson =>
      exact .bind h.trans (deliverMarked_follows h _) fun _ =>
        .bind h.trans (h.plain (h.steps.query _)) fun _ => .pure h.refl _

theorem prepareActiveChatMarked_follows (h : Besides X R) (contactId : String) :
    (prepareActiveChatMarked X C contactId).Follows R Mark.start (Mark.stop X C) := by
  refine .bind h.trans (h.plain (h.steps.query _)) fun count =>
    .bind h.trans (establishSessionMarked_follows h contactId) fun r => ?_
  match r with
  | .ok true =>
    dsimp only
    split
    · exact .bind h.trans (h.plain h.steps.uuidV4) fun _ => deliverShallowMarked_follows h _
    · exact .pure h.refl _
  | .ok false => exact .pure h.refl _
  | .error e => exact h.plain (h.steps.sendUi _ rfl)

theorem prepareOutgoingMarked_follows (h : Besides X R) (event : IncomingEvent) :
    (prepareOutgoingMarked X C event).Follows R Mark.start (Mark.stop X C) := by
  unfold prepareOutgoingMarked
  split
  · exact .bind h.trans (prepareActiveChatMarked_follows h _) fun _ => .pure h.refl _
  · refine .bind h.trans (h.plain (h.steps.query _)) fun active => ?_
    split
    · exact .pure h.refl _
    · refine .bind h.trans (establishSessionMarked_follows h _) fun r => ?_
      cases r with
      | ok _ => exact .pure h.refl _
      | error e =>
        exact .bind h.trans (h.plain (h.steps.sendUi _ rfl)) fun _ => .pure h.refl _
  · exact .pure h.refl _

theorem handleRxMarked_follows (h : Besides X R) (event : IncomingEvent) :
    (handleRxMarked X C event).Follows R Mark.start (Mark.stop X C) := by
  refine .bind h.trans (prepareOutgoingMarked_follows h event) fun r => ?_
  cases r with
  | some event => exact deliverMarked_follows h event
  | none => exact .pure h.refl _

theorem forgetContactMarked_follows (h : Besides X R) (contactId : String) :
    (forgetContactMarked X C contactId).Follows R Mark.start (Mark.stop X C) :=
  .bind h.trans (deliverShallowMarked_follows h _) fun _ =>
    .bind h.trans (h.plain (h.steps.external _)) fun _ =>
      .bind h.trans (.mark h.refl (fun _ => rfl) fun _ => rfl) fun _ =>
        .bind h.trans (h.plain h.steps.saveOrchestratorState) fun _ =>
          .bind h.trans (h.plain (h.steps.exec _ (.deleteSession _))) fun _ =>
            .bind h.trans (h.plain (h.steps.exec _ (.deleteArchive _))) fun _ => .pure h.refl _

theorem streamMessageMarked_follows (h : Besides X R) (event : IncomingEvent)
    (context : StreamMessageContext) :
    (streamMessageMarked X C event context).Follows R Mark.start (Mark.stop X C) := by
  refine .bind h.trans (h.plain (h.observe _)) fun _ =>
    .bind h.trans (h.plain (.read h.refl _)) fun established => ?_
  split
  · exact .bind h.trans (h.plain (h.observe _)) fun _ => h.plain (h.persist _)
  · exact .bind h.trans (h.plain (h.note _ _)) fun _ => deliverMarked_follows h event

/-- The marks of a run are linked by what the drivers keep besides dispatching. -/
theorem runTaskMarked_follows (h : Besides X R) (inputs : List TaskInput) :
    (runTaskMarked X C inputs).Follows R Mark.start (Mark.stop X C) := by
  refine .each h.refl h.trans (fun input => ?_) inputs
  match input with
  | .command (.forgetContact contactId) => exact forgetContactMarked_follows h contactId
  | .command (.streamMessage event context) => exact streamMessageMarked_follows h event context
  | .event event => exact handleRxMarked_follows h event

end OrchestratorTask
