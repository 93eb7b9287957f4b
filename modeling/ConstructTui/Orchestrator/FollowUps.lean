import ConstructTui.Orchestrator.Effects

/-!
# Follow-up events

While it carries actions out, the dispatcher pushes follow-up events for the core. Read off the
history of a run: the run loop, an inbound stream message and the session set-up hand over, once
each and in order, exactly the events pushed for the actions of the event they deliver. What the
actions of a follow-up push is dropped: one level is what these drivers process.

## Main definitions

* `OrchestratorTask.handles`, `OrchestratorTask.pushes`, `OrchestratorTask.Delivered`.

## Main results

* `OrchestratorTask.deliver_log`: the history of one delivery.
* `OrchestratorTask.followUps_delivered`: the drivers.
* `OrchestratorTask.nested_followUp_lost`: a follow-up of a follow-up that the core never sees.
-/

namespace OrchestratorTask

variable {ε : Type} {X : Externals ε} {C : TaskConfig}

/-! ### Histories -/

/-- The events handed to the core, in order. -/
def handles : List Obs → List IncomingEvent :=
  List.filterMap fun | .handled event => some event | _ => none

/-- The follow-ups pushed by the dispatcher, in order. -/
def pushes : List Obs → List IncomingEvent :=
  List.filterMap fun | .pushed event => some event | _ => none

@[simp] theorem handles_append (L M : List Obs) : handles (L ++ M) = handles L ++ handles M :=
  List.filterMap_append

@[simp] theorem pushes_append (L M : List Obs) : pushes (L ++ M) = pushes L ++ pushes M :=
  List.filterMap_append

/-- The history of a delivery: the event, the history `A` of carrying out its actions, and the
history `B` in which the core is handed what was pushed in `A`, in that order and nothing else. -/
def Delivered (event : IncomingEvent) (L : List Obs) : Prop :=
  ∃ A B, L = .handled event :: (A ++ B) ∧ handles A = [] ∧ handles B = pushes A

/-- The world moved on through dispatching alone: the core was handed nothing, and the vector of
follow-ups grew by what was pushed. -/
def Dispatched (w w' : TaskWorld ε) : Prop :=
  ∃ A, w'.log = w.log ++ A ∧ handles A = [] ∧ w'.followUps = w.followUps ++ pushes A

theorem Dispatched.refl (w : TaskWorld ε) : Dispatched w w := ⟨[], by simp, rfl, by simp [pushes]⟩

theorem Dispatched.append {w w' w'' : TaskWorld ε} {A : List Obs} (h : Dispatched w w')
    (hlog : w''.log = w'.log ++ A) (hA : handles A = [])
    (hf : w''.followUps = w'.followUps ++ pushes A) : Dispatched w w'' := by
  obtain ⟨L, hL, hhL, hfL⟩ := h
  exact ⟨L ++ A, by rw [hlog, hL, List.append_assoc], by rw [handles_append, hhL, hA]; rfl,
    by rw [hf, hfL, pushes_append, List.append_assoc]⟩

theorem Dispatched.of_effect {w w' w'' : TaskWorld ε} (h : Dispatched w w')
    (he : Effect w' w'') : Dispatched w w'' := by
  cases he with
  | tables | statement | ui => exact h.append (A := []) (by simp) rfl (by simp [pushes])
  | saved ext key => exact h.append (A := [.saved key]) rfl rfl (by simp [pushes])
  | notified chatId => exact h.append (A := [.notified chatId]) rfl rfl (by simp [pushes])
  | pushed event => exact h.append (A := [.pushed event]) rfl rfl rfl
  | queued id => exact h.append (A := [.queued id]) rfl rfl (by simp [pushes])
  | popped id => exact h.append (A := [.popped id]) rfl rfl (by simp [pushes])

theorem Dispatched.of_storeEffect {w w' w'' : TaskWorld ε} (h : Dispatched w w')
    (he : StoreEffect w' w'') : Dispatched w w'' := by
  cases he with
  | data => exact h.append (A := []) (by simp) rfl (by simp [pushes])
  | decrypted id peerId text =>
    exact h.append (A := [.decrypted id peerId text]) rfl rfl (by simp [pushes])

/-! ### Dispatching hands the core nothing -/

theorem dispatch_safe_dispatched (w : TaskWorld ε) (action : CoreAction) :
    Prog.Safe Eq (Dispatched w) (dispatch X C action) :=
  dispatch_safe (fun _ _ h => h ▸ id) (fun _ _ he h => h.of_effect he)
    (fun contactId messageId text =>
    .of_keeps (fun _ _ h => h ▸ id) (fun _ _ he h => Dispatched.of_storeEffect h he)
      (storeAndNotify_keeps contactId messageId text)) action

theorem dispatchAll_dispatched (actions : List CoreAction) (w : TaskWorld ε) :
    Dispatched w ((dispatchAll X C actions).run w).2 :=
  Prog.Meets.run (fun _ => rfl)
    (Prog.Safe.each (dispatch_safe_dispatched w) actions w (.refl w))

/-! ### Deliveries -/

/-- A delivery up to its follow-ups: the vector then holds what was pushed. -/
theorem deliverShallow_log (event : IncomingEvent) (w : TaskWorld ε) :
    ∃ A, ((deliverShallow X C event).run w).2.log = w.log ++ .handled event :: A ∧
      handles A = [] ∧ ((deliverShallow X C event).run w).2.followUps = pushes A := by
  simp only [deliverShallow, Prog.run_bind_snd]
  obtain ⟨A, hlog, hA, hf⟩ := dispatchAll_dispatched (X := X) (C := C)
    ((handleEvent X event).run w).1 ((startCycle.run ((handleEvent X event).run w).2).2)
  refine ⟨A, ?_, hA, by simpa [startCycle] using hf⟩
  rw [hlog]
  simp [startCycle, handleEvent]

theorem deliverFollowUp_log (followUp : IncomingEvent) (w : TaskWorld ε) :
    ∃ A, ((deliverFollowUp X C followUp).run w).2.log = w.log ++ .handled followUp :: A ∧
      handles A = [] := by
  simp only [deliverFollowUp, Prog.run_bind_snd]
  generalize ((handleEvent X followUp).run w).1 = more
  have hw : ((handleEvent X followUp).run w).2.log = w.log ++ [.handled followUp] := rfl
  generalize ((handleEvent X followUp).run w).2 = w₁ at hw
  suffices h : ∃ A, ((Prog.each (fun action => do dropFollowUps; dispatch X C action)
      more).run w₁).2.log = w₁.log ++ A ∧ handles A = [] by
    obtain ⟨A, hlog, hA⟩ := h
    exact ⟨A, by rw [hlog, hw, List.append_assoc]; rfl, hA⟩
  clear hw
  induction more generalizing w₁ with
  | nil => exact ⟨[], by simp [Prog.each], rfl⟩
  | cons action more ih =>
    simp only [Prog.each, Prog.run_bind_snd]
    obtain ⟨A, hlog, hA, -⟩ := Prog.Meets.run (fun _ => rfl)
      (dispatch_safe_dispatched (X := X) (C := C) _ action _ (.refl (dropFollowUps.run w₁).2))
    obtain ⟨B, hlog', hB⟩ := ih ((dispatch X C action).run (dropFollowUps.run w₁).2).2
    exact ⟨A ++ B, by rw [hlog', hlog, List.append_assoc]; rfl, by rw [handles_append, hA, hB]; rfl⟩

theorem each_deliverFollowUp_log (followUps : List IncomingEvent) (w : TaskWorld ε) :
    ∃ B, ((Prog.each (deliverFollowUp X C) followUps).run w).2.log = w.log ++ B ∧
      handles B = followUps := by
  induction followUps generalizing w with
  | nil => exact ⟨[], by simp [Prog.each], rfl⟩
  | cons followUp followUps ih =>
    simp only [Prog.each, Prog.run_bind_snd]
    obtain ⟨A, hlog, hA⟩ := deliverFollowUp_log (X := X) (C := C) followUp w
    obtain ⟨B, hlog', hB⟩ := ih ((deliverFollowUp X C followUp).run w).2
    refine ⟨.handled followUp :: A ++ B, by rw [hlog', hlog, List.append_assoc], ?_⟩
    rw [handles_append, hB, show handles (.handled followUp :: A) = followUp :: handles A from rfl,
      hA]
    rfl

/-- A full delivery hands the core the event, and then what its own actions pushed. -/
theorem deliver_log (event : IncomingEvent) (w : TaskWorld ε) :
    ∃ L, ((deliver X C event).run w).2.log = w.log ++ L ∧ Delivered event L := by
  simp only [deliver, Prog.run_bind_snd]
  obtain ⟨A, hlog, hA, hf⟩ := deliverShallow_log (X := X) (C := C) event w
  generalize ((deliverShallow X C event).run w).2 = w₁ at hlog hf
  obtain ⟨B, hlog', hB⟩ := each_deliverFollowUp_log (X := X) (C := C)
    (takeFollowUps.run w₁).1 (takeFollowUps.run w₁).2
  refine ⟨.handled event :: (A ++ B), ?_, A, B, rfl, hA, hB.trans hf⟩
  rw [hlog', show (takeFollowUps.run w₁).2.log = w₁.log from rfl, hlog, List.append_assoc]
  rfl

/-! ### The drivers -/

/-- An event of the run loop that is left after its preparation is delivered. -/
theorem handleRx_log (event : IncomingEvent) (w : TaskWorld ε) :
    match ((prepareOutgoing X C event).run w).1 with
    | some event' => ∃ L, Delivered event' L ∧ ((handleRx X C event).run w).2.log =
        ((prepareOutgoing X C event).run w).2.log ++ L
    | none => ((handleRx X C event).run w).2.log =
        ((prepareOutgoing X C event).run w).2.log := by
  simp only [handleRx, Prog.run_bind_snd]
  cases ((prepareOutgoing X C event).run w).1 with
  | none => rfl
  | some event' =>
    obtain ⟨L, hlog, hL⟩ := deliver_log (X := X) (C := C) event'
      ((prepareOutgoing X C event).run w).2
    exact ⟨L, hL, hlog⟩

theorem note_log (messageId : String) (cursor : Option String) (w : TaskWorld ε) :
    ((CursorTracker.note messageId cursor).run w).2.log = w.log := by
  unfold CursorTracker.note
  split <;> rfl

/-- An inbound message that is no stale replay is delivered. -/
theorem streamMessage_log (event : IncomingEvent) (context : StreamMessageContext)
    (w : TaskWorld ε)
    (h : shouldDropStaleSessionReplay context w.sessionEstablishedAtMs = false) :
    ∃ L, Delivered event L ∧ ((streamMessage X C event context).run w).2.log =
      w.log ++ .received context.messageId context.streamCursor :: L := by
  simp only [streamMessage, Prog.run_bind_snd, Prog.run_read, observe, Prog.run_update, h,
    Bool.false_eq_true, if_false]
  obtain ⟨L, hlog, hL⟩ := deliver_log (X := X) (C := C) event
    ((CursorTracker.note context.messageId context.streamCursor).run
      { w with log := w.log ++ [.received context.messageId context.streamCursor] }).2
  refine ⟨L, hL, ?_⟩
  rw [hlog, note_log, List.append_assoc]
  rfl

/-- A session is set up by delivering the bundle that was fetched. -/
theorem establishSession_log (contactId bundleJson : String) (w : TaskWorld ε)
    (ha : X.hasActiveSession contactId w.ext = false)
    (hb : ((fetchBundleJson X contactId).run w).1 = .ok bundleJson) :
    ∃ L, Delivered (.keyBundleFetched contactId bundleJson) L ∧
      ((establishSession X C contactId).run w).2.log =
        ((fetchBundleJson X contactId).run w).2.log ++ L := by
  simp only [establishSession, Prog.run_bind_snd, query, Prog.run_read, ha, Bool.false_eq_true,
    if_false, hb]
  obtain ⟨L, hlog, hL⟩ := deliver_log (X := X) (C := C)
    (.keyBundleFetched contactId bundleJson) ((fetchBundleJson X contactId).run w).2
  exact ⟨L, hL, hlog⟩

/-- On the run loop, for an inbound stream message and in the session set-up, the follow-ups pushed
for the actions of the delivered event reach the core once each and in order, and no others do. -/
theorem followUps_delivered (X : Externals ε) (C : TaskConfig) (w : TaskWorld ε) :
    (∀ event event', ((prepareOutgoing X C event).run w).1 = some event' →
      ∃ L, Delivered event' L ∧ ((handleRx X C event).run w).2.log =
        ((prepareOutgoing X C event).run w).2.log ++ L) ∧
    (∀ event context, shouldDropStaleSessionReplay context w.sessionEstablishedAtMs = false →
      ∃ L, Delivered event L ∧
        ((handleCommand X C (.streamMessage event context)).run w).2.log =
          w.log ++ .received context.messageId context.streamCursor :: L) ∧
    (∀ contactId bundleJson, X.hasActiveSession contactId w.ext = false →
      ((fetchBundleJson X contactId).run w).1 = .ok bundleJson →
      ∃ L, Delivered (.keyBundleFetched contactId bundleJson) L ∧
        ((establishSession X C contactId).run w).2.log =
          ((fetchBundleJson X contactId).run w).2.log ++ L) := by
  refine ⟨fun event event' h => ?_, fun event context => streamMessage_log event context w,
    fun contactId bundleJson => establishSession_log contactId bundleJson w⟩
  have hlog := handleRx_log (X := X) (C := C) event w
  rwa [h] at hlog

/-! ### One level is what they process -/

/-- A core that asks for an acknowledgement at launch, and for another one when told of it. -/
def askTwice : Externals Unit :=
  { Externals.quiet with
    handleEvent := fun event _ =>
      (match event with
        | .appLaunched => [.checkAckInDb "a"]
        | .ackDbResult "a" _ => [.checkAckInDb "b"]
        | _ => [], ()) }

/-- The answer to the second question is pushed, and never handed to the core. -/
theorem nested_followUp_lost :
    let log := ((handleRx askTwice ⟨.tagged, "me", "phone"⟩ .appLaunched).run
      (.start () .init)).2.log
    pushes log = [.ackDbResult "a" false, .ackDbResult "b" false] ∧
      handles log = [.appLaunched, .ackDbResult "a" false] ∧
      ¬∀ event ∈ pushes log, event ∈ handles log := by
  decide

end OrchestratorTask
