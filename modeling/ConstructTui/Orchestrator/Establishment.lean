import ConstructTui.Orchestrator.Calls
import ConstructTui.Orchestrator.Healing

/-!
# Setting sessions up

A session is set up by `InitSession`, and by a heal that succeeds. The first puts the contact into
the set of its cycle and stamps the session with the time; the second does neither. So a heal is
skipped in a cycle exactly after an `InitSession` of the contact, and the stamps are those of the
current sessions as long as no heal succeeds.

## Main definitions

* `OrchestratorTask.initSets`: whether an `InitSession` sets the session up.
* `OrchestratorTask.Mark.inits`, `OrchestratorTask.Mark.healed`,
  `OrchestratorTask.Mark.establishes`, `OrchestratorTask.Mark.ends`: what an action does to a
  contact's session.
* `OrchestratorTask.HealedOnce`, `OrchestratorTask.Timely`.

## Main results

* `OrchestratorTask.initSession_spec`: what `InitSession` does to the set and the stamps.
* `OrchestratorTask.deliver_healedOnce_iff`: a cycle heals a session at most once exactly when no
  heal comes after one that succeeded, but for an `InitSession` in between.
* `OrchestratorTask.runTask_timely`: the stamps are those of the current sessions in all runs in
  which no heal succeeds.
-/

namespace OrchestratorTask

variable {ε : Type} (X : Externals ε) (C : TaskConfig)

/-! ### What an action does to a session -/

/-- The core sets the session up when it is told to by `InitSession`. -/
def initSets (contactId bundleJson : String) (e : ε) : Bool :=
  if 0 < X.pendingMessageCount contactId e then
    match X.peekFirstPendingWirePayload contactId e with
    | some wire =>
      (X.initReceivingSessionFromWirePayload contactId (Utf8.encode bundleJson) wire e).1.toBool
    | none => (initiatorAnswer X contactId bundleJson e).1.toBool
  else (initiatorAnswer X contactId bundleJson e).1.toBool

/-- An `InitSession` of the contact that sets the session up. -/
def Mark.inits (contactId : String) : Mark ε → Bool
  | .dispatched (.initSession c bundleJson) w => c = contactId && initSets X c bundleJson w.ext
  | _ => false

/-- How a heal of the contact ends. -/
def Mark.healed (contactId : String) : Mark ε → Option HealOutcome
  | .dispatched (.sessionHealNeeded c role) w =>
    if c = contactId then some (healOutcome X c role w) else none
  | _ => none

/-- The contact's session is established or replaced. -/
def Mark.establishes (contactId : String) (m : Mark ε) : Prop :=
  m.inits X contactId = true ∨ m.healed X contactId = some .established

/-- The contact's session ends, or the contact is forgotten. -/
def Mark.ends (contactId : String) : Mark ε → Bool
  | .dispatched (.sessionTerminated c _) _ => c = contactId
  | .forgot c _ => c = contactId
  | _ => false

/-! ### The tables of the sessions -/

variable {X C}

/-- Neither the stamps nor the set of the cycle has changed. -/
def SameTables (w w' : TaskWorld ε) : Prop :=
  w'.sessionEstablishedAtMs = w.sessionEstablishedAtMs ∧ w'.sessionInited = w.sessionInited

namespace SameTables

theorem refl (w : TaskWorld ε) : SameTables w w := ⟨rfl, rfl⟩

theorem trans (u v w : TaskWorld ε) (h : SameTables u v) (h' : SameTables v w) : SameTables u w :=
  ⟨h'.1.trans h.1, h'.2.trans h.2⟩

end SameTables

theorem sqlStep_same {α : Type} (f : Storage → α × Storage) (w : TaskWorld ε) :
    SameTables w (sqlStep X f w).2 := by
  unfold sqlStep
  split
  · exact ⟨rfl, rfl⟩
  · exact ⟨rfl, rfl⟩

theorem sql_same {α : Type} (f : Storage → α × Storage) : (sql X f).Keeps SameTables :=
  .act (sqlStep_same f)

theorem persist_same (cursor : Option String) :
    (CursorTracker.persist X cursor).Keeps SameTables := by
  cases cursor with
  | none => exact .pure _
  | some c =>
    exact CursorTracker.persist_keeps X c (sql_same _) (fun _ => sql_same _) fun _ => ⟨rfl, rfl⟩

theorem note_same (messageId : String) (cursor : Option String) :
    (CursorTracker.note messageId cursor).Keeps (SameTables (ε := ε)) := by
  unfold CursorTracker.note
  split
  · exact .pure _
  · exact .update fun _ => ⟨rfl, rfl⟩

theorem storeAndNotify_same (contactId messageId text : String) :
    (storeAndNotify X contactId messageId text).Keeps SameTables := by
  refine .bind (.act fun _ => ⟨rfl, rfl⟩) fun n => .bind ?_ fun _ => .update fun _ => ⟨rfl, rfl⟩
  refine .bind (.update fun _ => ⟨rfl, rfl⟩) fun _ => .bind (sql_same _) fun stored => ?_
  split
  · exact .bind (.act fun _ => ⟨rfl, rfl⟩) fun cursor => persist_same cursor
  · exact .pure _

/-- Only `InitSession`, the end of a session and the drivers write the tables. -/
theorem steps_of_same {G : TaskWorld ε → TaskWorld ε → Prop}
    (hG : ∀ w w', SameTables w w' → G w w') : Steps X (fun _ => True) fun _ p => p.Keeps G where
  toClosed := Prog.closed_keeps G
  query _ := .read (fun w => hG w w (.refl w)) _
  external _ := .act fun _ => hG _ _ ⟨rfl, rfl⟩
  inited := .read (fun w => hG w w (.refl w)) _
  queued _ := .update fun _ => hG _ _ ⟨rfl, rfl⟩
  popped _ := .update fun _ => hG _ _ ⟨rfl, rfl⟩
  sendUi _ _ := .update fun _ => hG _ _ ⟨rfl, rfl⟩
  notifyUi _ _ _ := .update fun _ => hG _ _ ⟨rfl, rfl⟩
  sendOutgoing _ _ _ _ := .update fun _ => hG _ _ ⟨rfl, rfl⟩
  trySend _ := .update fun _ => hG _ _ ⟨rfl, rfl⟩
  spawn _ _ := .act fun _ => hG _ _ ⟨rfl, rfl⟩
  pushFollowUp _ := .update fun _ => hG _ _ ⟨rfl, rfl⟩
  exec _ _ := (sql_same _).mono hG
  hasAck _ := (sql_same _).mono hG
  secureLoad _ _ := (sql_same _).mono hG
  secureStoreSave key data := .update fun w =>
    hG _ _ (sqlStep_same (X := X) (fun s => ((), s.secureSaveOrDelete key data)) w)
  storeAndNotify contactId messageId text := (storeAndNotify_same contactId messageId text).mono hG

theorem steps_same : Steps X (fun _ => True) fun _ p => p.Keeps (SameTables (ε := ε)) :=
  steps_of_same fun _ _ => id

/-- What ran without writing the tables. -/
theorem run_same {α : Type} {p : Prog (TaskWorld ε) α} (h : p.Keeps SameTables)
    (w : TaskWorld ε) : SameTables w (p.run w).2 := h.run .refl SameTables.trans w

/-! ### `InitSession` -/

/-- The program ends as `finishInit` does from a world with the same stamps, in whose set at most
the contact has been put. -/
def EndsInFinish (X : Externals ε) (contactId : String) (p : Prog (TaskWorld ε) Unit)
    (w : TaskWorld ε) : Prop :=
  ∃ w₁, w₁.sessionEstablishedAtMs = w.sessionEstablishedAtMs ∧
    (∀ c ≠ contactId, c ∈ w₁.sessionInited ↔ c ∈ w.sessionInited) ∧
    p.run w = (finishInit X contactId).run w₁ ∧
    ∀ u ∈ (finishInit X contactId).visited w₁, u ∈ p.visited w

/-- What came before left the tables alone, but for the contact in the set. -/
theorem EndsInFinish.bind {α : Type} {contactId : String} {p : Prog (TaskWorld ε) α}
    {g : α → Prog (TaskWorld ε) Unit} {w : TaskWorld ε}
    (hp : (p.run w).2.sessionEstablishedAtMs = w.sessionEstablishedAtMs ∧
      ∀ c ≠ contactId, c ∈ (p.run w).2.sessionInited ↔ c ∈ w.sessionInited)
    (hg : EndsInFinish X contactId (g (p.run w).1) (p.run w).2) :
    EndsInFinish X contactId (p >>= g) w := by
  obtain ⟨w₁, hstamps, hinited, hrun, hvisited⟩ := hg
  refine ⟨w₁, hstamps.trans hp.1, fun c hc => (hinited c hc).trans (hp.2 c hc), ?_, fun u hu => ?_⟩
  · rw [Prog.run_bind, hrun]
  · rw [Prog.visited_bind]
    exact List.mem_append_right _ (hvisited u hu)

theorem EndsInFinish.bind_same {α : Type} {contactId : String} {p : Prog (TaskWorld ε) α}
    {g : α → Prog (TaskWorld ε) Unit} {w : TaskWorld ε} (hp : p.Keeps SameTables)
    (hg : EndsInFinish X contactId (g (p.run w).1) (p.run w).2) :
    EndsInFinish X contactId (p >>= g) w := by
  obtain ⟨hstamps, hinited⟩ := run_same hp w
  exact .bind ⟨hstamps, fun c _ => by rw [hinited]⟩ hg

theorem endsInFinish_finishInit (contactId : String) (w : TaskWorld ε) :
    EndsInFinish X contactId (finishInit X contactId) w :=
  ⟨w, rfl, fun _ _ => Iff.rfl, rfl, fun _ hu => hu⟩

theorem mem_markInited {contactId c : String} {w : TaskWorld ε} :
    c ∈ ((markInited contactId).run w).2.sessionInited ↔ c ∈ w.sessionInited ∨ c = contactId := by
  show c ∈ (if contactId ∈ w.sessionInited then _ else _ : List String) ↔ _
  split
  · next hmem => exact ⟨.inl, fun h => h.elim id fun h => h ▸ hmem⟩
  · simp

/-- The program sets the contact's session up as `finishInit` does, or leaves the tables alone. -/
def Sets (X : Externals ε) (contactId : String) (p : Prog (TaskWorld ε) Unit) (w : TaskWorld ε)
    (sets : Bool) : Prop :=
  if sets then EndsInFinish X contactId p w else SameTables w (p.run w).2

theorem Sets.bind {α : Type} {contactId : String} {p : Prog (TaskWorld ε) α}
    {g : α → Prog (TaskWorld ε) Unit} {w : TaskWorld ε} {sets : Bool} (hp : p.Keeps SameTables)
    (hg : Sets X contactId (g (p.run w).1) (p.run w).2 sets) :
    Sets X contactId (p >>= g) w sets := by
  cases sets with
  | false =>
    show SameTables w _
    rw [Prog.run_bind]
    exact (run_same hp w).trans _ _ _ hg
  | true => exact .bind_same hp hg

theorem initAsInitiator_spec (contactId bundleJson : String) (w : TaskWorld ε) :
    Sets X contactId (initAsInitiator X contactId bundleJson) w
      (initiatorAnswer X contactId bundleJson w.ext).1.toBool := by
  refine .bind (steps_same.initInitiatorFromJson contactId bundleJson) ?_
  rw [initInitiatorFromJson_run]
  cases (initiatorAnswer X contactId bundleJson w.ext).1 with
  | error error => exact ⟨rfl, rfl⟩
  | ok sessionId => exact endsInFinish_finishInit contactId _

/-- What the responder branch does once the core has set the session up. -/
theorem endsInFinish_responder (contactId : String) (firstPlaintext : Bytes) (w : TaskWorld ε) :
    EndsInFinish X contactId (do
      let firstMessageId ← popFirst X contactId
      observe (.popped firstMessageId)
      markInited contactId
      surfaceFirst X C contactId firstMessageId firstPlaintext
      finishInit X contactId) w := by
  refine .bind_same (steps_same.popFirst contactId) (.bind_same (.update fun _ => ⟨rfl, rfl⟩)
    (.bind ⟨rfl, fun c hc => mem_markInited.trans (or_iff_left hc)⟩ ?_))
  exact .bind_same (steps_same.surfaceFirst _ _ _) (endsInFinish_finishInit contactId _)

/-- What `InitSession` does to the tables: nothing, or what `finishInit` does. -/
theorem initSession_spec (contactId bundleJson : String) (w : TaskWorld ε) :
    Sets X contactId (dispatch X C (.initSession contactId bundleJson)) w
      (initSets X contactId bundleJson w.ext) := by
  have hinitiator := initAsInitiator_spec (X := X) contactId bundleJson w
  show Sets X contactId (initSession X C contactId bundleJson) w _
  refine .bind (.read .refl _) ?_
  show Sets X contactId (if 0 < X.pendingMessageCount contactId w.ext then _ else _) w _
  unfold initSets
  by_cases hpending : 0 < X.pendingMessageCount contactId w.ext
  · rw [if_pos hpending, if_pos hpending]
    refine .bind (.read .refl _) ?_
    rw [query, Prog.run_read]
    cases X.peekFirstPendingWirePayload contactId w.ext with
    | none => exact hinitiator
    | some wire =>
      refine .bind (.act fun _ => ⟨rfl, rfl⟩) ?_
      rw [external, Prog.run_act]
      dsimp only
      cases (X.initReceivingSessionFromWirePayload contactId (Utf8.encode bundleJson) wire
        w.ext).1 with
      | error error => exact ⟨rfl, rfl⟩
      | ok answer => exact endsInFinish_responder contactId answer.2 _
  · rw [if_neg hpending, if_neg hpending]
    exact hinitiator

/-- Who is in the set of the cycle once `InitSession` is carried out. -/
theorem mem_sessionInited_initSession {contactId bundleJson c : String} {w : TaskWorld ε} :
    c ∈ ((dispatch X C (.initSession contactId bundleJson)).run w).2.sessionInited ↔
      c ∈ w.sessionInited ∨ c = contactId ∧ initSets X contactId bundleJson w.ext = true := by
  have hspec := initSession_spec (X := X) (C := C) contactId bundleJson w
  cases hsets : initSets X contactId bundleJson w.ext with
  | false =>
    rw [hsets] at hspec
    rw [hspec.2]
    simp
  | true =>
    rw [hsets] at hspec
    obtain ⟨w₁, -, hinited, hrun, -⟩ := hspec
    have hfinish : c ∈ ((finishInit X contactId).run w₁).2.sessionInited ↔
        c ∈ w₁.sessionInited ∨ c = contactId := mem_markInited
    rw [hrun, hfinish]
    by_cases hc : c = contactId
    · simp [hc]
    · simp [hc, hinited c hc]

/-- An `InitSession` that succeeds stamps the session with a reading of the clock, and no other. -/
theorem find?_stamp_initSession {contactId bundleJson : String} {w : TaskWorld ε}
    (h : initSets X contactId bundleJson w.ext = true) :
    (∃ u ∈ (dispatch X C (.initSession contactId bundleJson)).visited w,
      ((dispatch X C (.initSession contactId bundleJson)).run w).2.sessionEstablishedAtMs.find?
        contactId = some (contactId, min (X.millis u.ext).1 (2 ^ 64 - 1))) ∧
    ∀ c ≠ contactId,
      ((dispatch X C (.initSession contactId bundleJson)).run w).2.sessionEstablishedAtMs.find? c =
        w.sessionEstablishedAtMs.find? c := by
  have hspec := initSession_spec (X := X) (C := C) contactId bundleJson w
  rw [h] at hspec
  obtain ⟨w₁, hstamps, -, hrun, hvisited⟩ := hspec
  have hfinish : ((finishInit X contactId).run w₁).2.sessionEstablishedAtMs =
      w₁.sessionEstablishedAtMs.insertOrReplace
        (contactId, min (X.millis w₁.ext).1 (2 ^ 64 - 1)) := rfl
  rw [hrun, hfinish]
  refine ⟨⟨((markInited contactId).run w₁).2, hvisited _ List.mem_cons_self, ?_⟩, fun c hc => ?_⟩
  · exact Table.find?_insertOrReplace_self _ (contactId, min (X.millis w₁.ext).1 (2 ^ 64 - 1))
  · rw [Table.find?_insertOrReplace_of_ne (Ne.symm hc), hstamps]

/-! ### The other actions -/

theorem dispatch_same {action : CoreAction}
    (hinit : ∀ c bundleJson, action ≠ .initSession c bundleJson)
    (hend : ∀ c bytes, action ≠ .sessionTerminated c bytes) :
    (dispatch X C action).Keeps SameTables :=
  steps_same.dispatch (loadsOnly_true action) (fun c bundleJson h => absurd h (hinit c bundleJson))
    (fun c bytes h => absurd h (hend c bytes))
    (fun _ _ _ => .bind (.act fun _ => ⟨rfl, rfl⟩) fun _ => .update fun _ => ⟨rfl, rfl⟩)
    fun _ _ => .update fun w => by split <;> exact ⟨rfl, rfl⟩

/-- An action begins a session, ends one, or does neither. -/
theorem session_cases (action : CoreAction) : (∃ c bundleJson, action = .initSession c bundleJson) ∨
    (∃ c bytes, action = .sessionTerminated c bytes) ∨
    (∀ c bundleJson, action ≠ .initSession c bundleJson) ∧
      ∀ c bytes, action ≠ .sessionTerminated c bytes := by
  cases action with
  | initSession c bundleJson => exact .inl ⟨c, bundleJson, rfl⟩
  | sessionTerminated c bytes => exact .inr (.inl ⟨c, bytes, rfl⟩)
  | _ => exact .inr (.inr ⟨fun _ _ => CoreAction.noConfusion, fun _ _ => CoreAction.noConfusion⟩)

theorem inits_of_ne {action : CoreAction} (h : ∀ c bundleJson, action ≠ .initSession c bundleJson)
    (contactId : String) (w : TaskWorld ε) :
    Mark.inits X contactId (.dispatched action w) = false := by
  cases action with
  | initSession c bundleJson => exact absurd rfl (h c bundleJson)
  | _ => rfl

theorem ends_of_ne {action : CoreAction} (h : ∀ c bytes, action ≠ .sessionTerminated c bytes)
    (contactId : String) (w : TaskWorld ε) :
    Mark.ends contactId (.dispatched action w) = false := by
  cases action with
  | sessionTerminated c bytes => exact absurd rfl (h c bytes)
  | _ => rfl

theorem run_sessionTerminated (contactId : String) (bytes : Bytes) (w : TaskWorld ε) : ∃ w₁,
    SameTables w w₁ ∧ ((dispatch X C (.sessionTerminated contactId bytes)).run w).2 =
      ((removeEstablished contactId).run w₁).2 := by
  refine ⟨((applySessionTerminated X contactId bytes).run w).2,
    run_same (steps_same.applySessionTerminated contactId bytes) w, ?_⟩
  show ((applySessionTerminated X contactId bytes >>= fun _ =>
    removeEstablished contactId).run w).2 = _
  rw [Prog.run_bind]

/-- Who is in the set of the cycle after a mark. -/
theorem Mark.mem_sessionInited_stop {contactId : String} (m : Mark ε) :
    contactId ∈ (m.stop X C).sessionInited ↔
      contactId ∈ m.start.sessionInited ∨ m.inits X contactId = true := by
  cases m with
  | forgot c w => exact (or_iff_left Bool.false_ne_true).symm
  | dispatched action w =>
    obtain ⟨c, bundleJson, rfl⟩ | ⟨c, bytes, rfl⟩ | ⟨hinit, hend⟩ := session_cases action
    · refine mem_sessionInited_initSession.trans (or_congr_right ?_)
      rw [Mark.inits, Bool.and_eq_true, decide_eq_true_iff]
      exact and_congr_left fun _ => eq_comm
    · obtain ⟨w₁, hsame, hstop⟩ := run_sessionTerminated (X := X) (C := C) c bytes w
      refine Iff.trans ?_ (or_iff_left Bool.false_ne_true).symm
      show contactId ∈ ((dispatch X C (.sessionTerminated c bytes)).run w).2.sessionInited ↔
        contactId ∈ w.sessionInited
      rw [hstop, ← hsame.2]
      rfl
    · have hsame := run_same (dispatch_same (X := X) (C := C) hinit hend) w
      rw [inits_of_ne hinit, or_iff_left Bool.false_ne_true]
      show contactId ∈ ((dispatch X C action).run w).2.sessionInited ↔ contactId ∈ w.sessionInited
      rw [hsame.2]

/-! ### Heals in one cycle -/

/-- Once the contact's session is established, no later heal of the contact acts: none sends a
reset, asks for a bundle, takes the queued message or touches the session. -/
def HealedOnce (X : Externals ε) (C : TaskConfig) (contactId : String) (ms : List (Mark ε)) :
    Prop :=
  ∀ before m between n after, ms = before ++ m :: (between ++ n :: after) →
    m.establishes X contactId → ∀ outcome, n.healed X contactId = some outcome →
      outcome.acts = false ∧ HealSpared X contactId n.start (n.stop X C)

/-- What happens between the actions of a delivery leaves the set of the cycle alone. -/
theorem between_inited :
    Between X fun w w' : TaskWorld ε => w'.sessionInited = w.sessionInited where
  refl _ := rfl
  trans _ _ _ h h' := h'.trans h
  handleEvent _ := .act fun _ => rfl
  takeFollowUps := .act fun _ => rfl
  dropFollowUps := .update fun _ => rfl

/-- At each action of a delivery, the set of the cycle has the contacts that `InitSession` has set
up before. -/
theorem deliver_mem_sessionInited (event : IncomingEvent) (w : TaskWorld ε) (contactId : String)
    {before : List (Mark ε)} {m : Mark ε} {after : List (Mark ε)}
    (h : (deliverMarked X C event).marks w = before ++ m :: after) :
    contactId ∈ m.start.sessionInited ↔ ∃ i ∈ before, i.inits X contactId = true := by
  have hlinked := deliverMarked_linked (X := X) (C := C) between_inited event w
  have hstart : contactId ∈ (cycleStart X event w).sessionInited ↔
      ∃ i ∈ ([] : List (Mark ε)), i.inits X contactId = true := by simp [cycleStart, startCycle]
  have hinvariant := hlinked.invariant
    (J := fun past u => contactId ∈ u.sessionInited ↔ ∃ i ∈ past, i.inits X contactId = true)
    (fun past u v huv hu => by rw [huv]; exact hu)
    (fun past i hi => by
      rw [Mark.mem_sessionInited_stop, hi]
      simp only [List.mem_append, List.mem_singleton, or_and_right, exists_or, exists_eq_left])
    hstart
  simpa using hinvariant.2 before m after h

theorem healed_eq_some {contactId : String} {m : Mark ε} {outcome : HealOutcome}
    (h : m.healed X contactId = some outcome) : ∃ role w,
    m = .dispatched (.sessionHealNeeded contactId role) w ∧
      healOutcome X contactId role w = outcome := by
  match m, h with
  | .dispatched (.sessionHealNeeded c role) w, h =>
    obtain ⟨rfl, houtcome⟩ := Option.ite_none_right_eq_some.mp h
    exact ⟨role, w, rfl, Option.some.inj houtcome⟩

theorem healed_eq_skipped {contactId : String} {m : Mark ε} {outcome : HealOutcome}
    (h : m.healed X contactId = some outcome) :
    outcome = .skipped ↔ contactId ∈ m.start.sessionInited := by
  obtain ⟨role, w, rfl, rfl⟩ := healed_eq_some h
  exact healOutcome_eq_skipped

theorem acts_eq_false {outcome : HealOutcome} :
    outcome.acts = false ↔ outcome = .skipped ∨ outcome = .noPayload := by
  cases outcome <;> simp [HealOutcome.acts]

/-- A heal of the contact that does not act leaves the world as it is. -/
theorem spared_of_healed {contactId : String} {n : Mark ε} {outcome : HealOutcome}
    (h : n.healed X contactId = some outcome) (hacts : outcome.acts = false) :
    HealSpared X contactId n.start (n.stop X C) := by
  obtain ⟨role, w, rfl, rfl⟩ := healed_eq_some h
  exact healSpared_of_acts hacts

/-- **In a cycle, a session that is established is not healed again, exactly when after each heal
that succeeds the next one for the contact finds no queued message, or an `InitSession` of the
contact has succeeded in between.** -/
theorem deliver_healedOnce_iff (X : Externals ε) (C : TaskConfig) (event : IncomingEvent)
    (w : TaskWorld ε) (contactId : String) :
    HealedOnce X C contactId ((deliverMarked X C event).marks w) ↔
      ∀ before m between n after,
        (deliverMarked X C event).marks w = before ++ m :: (between ++ n :: after) →
        m.healed X contactId = some .established → (n.healed X contactId).isSome →
          n.healed X contactId = some .noPayload ∨ ∃ i ∈ between, i.inits X contactId = true := by
  constructor
  · intro h before m between n after hms hm hn
    obtain ⟨outcome, houtcome⟩ := Option.isSome_iff_exists.mp hn
    obtain hskipped | hempty := acts_eq_false.mp
      (h before m between n after hms (.inr hm) outcome houtcome).1
    · refine .inr ?_
      have hnot : contactId ∉ m.start.sessionInited := fun hmem => by
        cases (healed_eq_skipped hm).mpr hmem
      rw [deliver_mem_sessionInited event w contactId hms] at hnot
      have hmem := (healed_eq_skipped houtcome).mp hskipped
      have hsplit : (deliverMarked X C event).marks w = (before ++ m :: between) ++ n :: after := by
        rw [hms, List.append_assoc, List.cons_append]
      rw [deliver_mem_sessionInited event w contactId hsplit] at hmem
      obtain ⟨i, hi, hinits⟩ := hmem
      rcases List.mem_append.mp hi with hi | hi
      · exact absurd ⟨i, hi, hinits⟩ hnot
      · rcases List.mem_cons.mp hi with rfl | hi
        · obtain ⟨role, u, rfl, -⟩ := healed_eq_some hm
          cases hinits
        · exact ⟨i, hi, hinits⟩
    · exact .inl (hempty ▸ houtcome)
  · intro h before m between n after hms hm outcome houtcome
    suffices hacts : outcome.acts = false from ⟨hacts, spared_of_healed houtcome hacts⟩
    have hskipped (hi : ∃ i ∈ before ++ m :: between, i.inits X contactId = true) :
        outcome.acts = false := by
      refine acts_eq_false.mpr (.inl ((healed_eq_skipped houtcome).mpr ?_))
      have hsplit : (deliverMarked X C event).marks w = (before ++ m :: between) ++ n :: after := by
        rw [hms, List.append_assoc, List.cons_append]
      exact (deliver_mem_sessionInited event w contactId hsplit).mpr hi
    rcases hm with hm | hm
    · exact hskipped ⟨m, by simp, hm⟩
    · obtain hempty | ⟨i, hi, hinits⟩ := h before m between n after hms hm
        (Option.isSome_iff_exists.mpr ⟨outcome, houtcome⟩)
      · obtain rfl := Option.some.inj (houtcome.symm.trans hempty)
        rfl
      · exact hskipped ⟨i, by simp [hi], hinits⟩

/-- A core that asks for two heals of the same session, and a network that answers. -/
def healTwice : Externals Unit :=
  { Externals.quiet with
    handleEvent := fun event _ =>
      (if event = .appLaunched then
        [.sessionHealNeeded "bob" "Initiator", .sessionHealNeeded "bob" "Initiator"] else [], ())
    getPreKeyBundle := fun _ _ => (.ok ⟨[], none, none, none⟩, ())
    bundleToJson := fun _ => .ok "bundle"
    bundleOfJson := fun _ => .ok ⟨[], none, none, none⟩
    initSessionWithBundle := fun _ _ _ => (.ok "session", ()) }

/-- The second heal replaces the session that the first has established. -/
theorem not_healedOnce_healTwice : ¬HealedOnce healTwice ⟨.tagged, "me", "phone"⟩ "bob"
    ((deliverMarked healTwice ⟨.tagged, "me", "phone"⟩ .appLaunched).marks (.start () .init)) := by
  let heal : TaskWorld Unit → Mark Unit := .dispatched (.sessionHealNeeded "bob" "Initiator")
  let w := cycleStart healTwice .appLaunched (.start () .init)
  have hms :
      (deliverMarked healTwice ⟨.tagged, "me", "phone"⟩ .appLaunched).marks (.start () .init) =
      [] ++ heal w :: ([] ++ heal ((heal w).stop healTwice ⟨.tagged, "me", "phone"⟩) :: []) := rfl
  intro h
  obtain ⟨hacts, -⟩ := h _ _ _ _ _ hms (.inr (by decide)) .established (by decide)
  cases hacts

/-! ### The stamps in a run -/

/-- The worlds that the run of a mark passes through. -/
def Mark.visited (X : Externals ε) (C : TaskConfig) : Mark ε → List (TaskWorld ε)
  | .dispatched action w => (dispatch X C action).visited w
  | .forgot contactId w => (removeEstablished contactId).visited w

/-- What a mark does to the contact's session, it does to the stamp. -/
structure Timely (X : Externals ε) (C : TaskConfig) (contactId : String) (m : Mark ε) : Prop where
  stamped : m.establishes X contactId → ∃ u ∈ m.visited X C,
    (m.stop X C).sessionEstablishedAtMs.find? contactId =
      some (contactId, min (X.millis u.ext).1 (2 ^ 64 - 1))
  cleared : m.ends contactId = true → (m.stop X C).sessionEstablishedAtMs.find? contactId = none
  kept : ¬m.establishes X contactId → m.ends contactId = false →
    (m.stop X C).sessionEstablishedAtMs.find? contactId =
      m.start.sessionEstablishedAtMs.find? contactId

theorem find?_removeEstablished (contactId c : String) (w : TaskWorld ε) :
    ((removeEstablished contactId).run w).2.sessionEstablishedAtMs.find? c =
      if contactId = c then none else w.sessionEstablishedAtMs.find? c := by
  show (w.sessionEstablishedAtMs.deleteWhere fun r => r.1 = contactId).find? c = _
  by_cases hc : contactId = c
  · rw [if_pos hc, hc, Table.find?_deleteWhere_key_self]
  · rw [if_neg hc, Table.find?_deleteWhere_key_of_ne hc]

/-- A world in which the stamp of the contact is removed. -/
theorem timely_of_removed {contactId c : String} {m : Mark ε} {w : TaskWorld ε}
    (hinits : m.inits X contactId = false) (hhealed : m.healed X contactId = none)
    (hends : m.ends contactId = decide (c = contactId))
    (hstop : m.stop X C = ((removeEstablished c).run w).2)
    (hstart : w.sessionEstablishedAtMs = m.start.sessionEstablishedAtMs) :
    Timely X C contactId m := by
  have hnot : ¬m.establishes X contactId := by
    rintro (h | h)
    · rw [hinits] at h
      cases h
    · rw [hhealed] at h
      cases h
  refine ⟨fun h => absurd h hnot, fun h => ?_, fun _ h => ?_⟩
  · rw [hstop, find?_removeEstablished, if_pos (of_decide_eq_true (hends.symm.trans h))]
  · rw [hstop, find?_removeEstablished, if_neg (of_decide_eq_false (hends.symm.trans h)), hstart]

/-- Every mark is timely, but for a heal of the contact that succeeds. -/
theorem Mark.timely {contactId : String} (m : Mark ε)
    (hheal : m.healed X contactId ≠ some .established) : Timely X C contactId m := by
  cases m with
  | forgot c w => exact timely_of_removed rfl rfl rfl rfl rfl
  | dispatched action w =>
    obtain ⟨c, bundleJson, rfl⟩ | ⟨c, bytes, rfl⟩ | ⟨hinit, hend⟩ := session_cases action
    · have hestablishes : Mark.establishes X contactId (.dispatched (.initSession c bundleJson) w) ↔
          c = contactId ∧ initSets X c bundleJson w.ext = true := by
        rw [establishes, or_iff_left hheal, inits, Bool.and_eq_true, decide_eq_true_iff]
      refine ⟨fun h => ?_, fun h => Bool.noConfusion h, fun h _ => ?_⟩
      · obtain ⟨rfl, hsets⟩ := hestablishes.mp h
        exact (find?_stamp_initSession hsets).1
      · rw [hestablishes] at h
        cases hsets : initSets X c bundleJson w.ext with
        | true => exact (find?_stamp_initSession hsets).2 contactId fun hc => h ⟨hc.symm, hsets⟩
        | false =>
          have hspec := initSession_spec (X := X) (C := C) c bundleJson w
          rw [hsets] at hspec
          show ((dispatch X C (.initSession c bundleJson)).run w).2.sessionEstablishedAtMs.find?
            contactId = w.sessionEstablishedAtMs.find? contactId
          rw [hspec.1]
    · obtain ⟨w₁, hsame, hstop⟩ := run_sessionTerminated (X := X) (C := C) c bytes w
      exact timely_of_removed rfl rfl rfl hstop hsame.1
    · have hsame := run_same (dispatch_same (X := X) (C := C) hinit hend) w
      have hnot : ¬Mark.establishes X contactId (.dispatched action w) := by
        rw [establishes, or_iff_left hheal, inits_of_ne hinit]
        exact Bool.false_ne_true
      refine ⟨fun h => absurd h hnot, fun h => ?_, fun _ _ => ?_⟩
      · rw [ends_of_ne hend] at h
        cases h
      · show ((dispatch X C action).run w).2.sessionEstablishedAtMs.find? contactId =
          w.sessionEstablishedAtMs.find? contactId
        rw [hsame.1]

/-- What the drivers do besides dispatching leaves the stamps alone. -/
theorem besides_stamps : Besides X fun w w' : TaskWorld ε =>
    w'.sessionEstablishedAtMs = w.sessionEstablishedAtMs where
  refl _ := rfl
  trans _ _ _ h h' := h'.trans h
  handleEvent _ := .act fun _ => rfl
  takeFollowUps := .act fun _ => rfl
  dropFollowUps := .update fun _ => rfl
  steps := steps_of_same fun _ _ => And.left
  startCycle := .update fun _ => rfl
  observe _ := .update fun _ => rfl
  note messageId cursor := (note_same messageId cursor).mono fun _ _ => And.left
  persist cursor := (persist_same cursor).mono fun _ _ => And.left

/-- **In every run in which no heal of the contact succeeds, every action and every `ForgetContact`
does to the stamp of the contact what it does to the session, and nothing else touches the
stamp.** -/
theorem runTask_timely (X : Externals ε) (C : TaskConfig) (inputs : List TaskInput)
    (w : TaskWorld ε) (contactId : String)
    (hheal : ∀ m ∈ (runTaskMarked X C inputs).marks w, m.healed X contactId ≠ some .established) :
    (∀ m ∈ (runTaskMarked X C inputs).marks w, Timely X C contactId m) ∧
      Linked (fun u v => v.sessionEstablishedAtMs = u.sessionEstablishedAtMs) Mark.start
        (Mark.stop X C) w ((runTaskMarked X C inputs).marks w) ((runTask X C inputs).run w).2 := by
  have hlinked := runTaskMarked_follows (C := C) (besides_stamps (X := X)) inputs w
  rw [runTaskMarked_prog] at hlinked
  exact ⟨fun m hm => m.timely (hheal m hm), hlinked⟩

/-- A core that asks for a session at launch, and a network that answers. -/
def initOnce : Externals Unit :=
  { healTwice with
    handleEvent := fun event _ =>
      (if event = .appLaunched then [.initSession "bob" "bundle"] else [], ())
    millis := fun _ => (7, ()) }

/-- The stamp of a session that `InitSession` sets up at launch. -/
theorem runTask_timely_initOnce : Timely initOnce ⟨.tagged, "me", "phone"⟩ "bob"
    (.dispatched (.initSession "bob" "bundle")
      (cycleStart initOnce .appLaunched (.start () .init))) := by
  have hms : (runTaskMarked initOnce ⟨.tagged, "me", "phone"⟩ [.event .appLaunched]).marks
      (.start () .init) = [.dispatched (.initSession "bob" "bundle")
        (cycleStart initOnce .appLaunched (.start () .init))] := rfl
  refine (runTask_timely initOnce ⟨.tagged, "me", "phone"⟩ [.event .appLaunched] (.start () .init)
    "bob" fun m hm => ?_).1 _ (by rw [hms]; exact List.mem_cons_self)
  rw [hms, List.mem_singleton] at hm
  rw [hm]
  intro h
  cases h

/-- The heals of the core that asks for two leave no stamp. -/
theorem not_timely_healTwice : ¬∀ m ∈ (runTaskMarked healTwice ⟨.tagged, "me", "phone"⟩
    [.event .appLaunched]).marks (.start () .init),
      Timely healTwice ⟨.tagged, "me", "phone"⟩ "bob" m := by
  intro h
  let m : Mark Unit := .dispatched (.sessionHealNeeded "bob" "Initiator")
    (cycleStart healTwice .appLaunched (.start () .init))
  have hm : m ∈ (runTaskMarked healTwice ⟨.tagged, "me", "phone"⟩ [.event .appLaunched]).marks
      (.start () .init) := List.mem_cons_self
  obtain ⟨u, -, hstamp⟩ := (h m hm).stamped (.inr (by decide))
  have hnone : (m.stop healTwice ⟨.tagged, "me", "phone"⟩).sessionEstablishedAtMs.find? "bob" =
      none := by decide
  cases hnone.symm.trans hstamp

end OrchestratorTask
