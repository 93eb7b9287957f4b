import ConstructTui.App.Channels

/-!
# A contact that is deleted and added again

A deletion tells the orchestrator task by a command to forget the contact, and adding it again opens
its session by an event. The task selects between the two channels as it likes, so the event may
overtake the command, which then wipes the session that was just opened.

## Main definitions

* `Sys.Deletes`, `Sys.Adds`: a step deletes a contact, or adds it.
* `Sys.ForgetsFirst`: however the run goes on, the task forgets the contact before it opens it
  again.

## Main results

* `Sys.exists_idle`: a task that is left alone comes to the end of what it has under way.
* `Sys.forgets_first_iff`: this is so exactly when the command has been taken before the contact is
  added.
* `Sys.session_wiped`: a run in which it has not, and the session is lost.
-/

variable {ε : Type} {E : AppExternals ε}

namespace Sys

/-! ### What the user does -/

/-- The user confirms a deletion, the rows go, and the task of a pipeline is told. -/
inductive Deletes (s : Sys ε) (contactId : String) (i : ℕ) : Label ε → Prop
  | confirm (key : KeyEvent) (ans : Answers ε)
      (hscreen : s.app.screen = .main) (hpress : key.isPress)
      (hcode : key.code = .char 'y' ∨ key.code = .char 'Y')
      (hask : s.app.deleteConfirm = some contactId)
      (hrows : (App.deleteRows ans contactId s.answered).1 = .ok ())
      (horch : s.app.orchHandle = some i) : Deletes s contactId i (.key key ans)

/-- A contact is added, because it accepted an invite or was found by a search, and the task of a
pipeline is told. -/
inductive Adds (s : Sys ε) (contactId : String) (i : ℕ) : Label ε → Prop
  | accepted {q : Queued} {queue : List Queued} {username : String} (ans : Answers ε)
      (hqueue : s.queue = q :: queue) (hevent : q.event = .inviteAccepted contactId username)
      (horch : s.app.orchHandle = some i) : Adds s contactId i (.internal ans)
  | found {result : SearchResult} (key : KeyEvent) (ans : Answers ε)
      (hscreen : s.app.screen = .contactSearch) (hpress : key.isPress)
      (hcode : key.code = .enter ∨ key.code = .char 'a' ∧ key.modifiers = .control)
      (hselected : s.app.contactSearch.selected = some result) (hid : result.userId = contactId)
      (horch : s.app.orchHandle = some i) : Adds s contactId i (.key key ans)

/-! ### What it puts in the channels -/

theorem commandsAt_orchCommand {s : Sys ε} {i : ℕ} (hi : i < s.pipelines.length)
    (cmd : OrchestratorCommand) :
    (s.orchCommand (some i) cmd).commandsAt i = s.commandsAt i ++ [cmd] := by
  simp [commandsAt, orchCommand, hi]

theorem eventsAt_orchSend {s : Sys ε} {i : ℕ} (hi : i < s.pipelines.length)
    (event : IncomingEvent) :
    (s.orchSend (some i) event).eventsAt i = s.eventsAt i ++ [event] := by
  simp [eventsAt, orchSend, hi]

/-- A command of the stream leaves both channels alone. -/
theorem channels_streamTrySend (s : Sys ε) (handle : Option ℕ) (hasRoom : Bool) (cmd : StreamCmd)
    (i : ℕ) : (s.streamTrySend handle hasRoom cmd).commandsAt i = s.commandsAt i ∧
      (s.streamTrySend handle hasRoom cmd).eventsAt i = s.eventsAt i := by
  cases handle with
  | none => exact ⟨rfl, rfl⟩
  | some j =>
    cases hasRoom with
    | false => exact ⟨rfl, rfl⟩
    | true =>
      by_cases hij : i = j
      · subst hij
        by_cases hi : i < s.pipelines.length
        · simp [commandsAt, eventsAt, streamTrySend, hi]
        · simp [commandsAt, eventsAt, streamTrySend, hi]
      · simp [commandsAt, eventsAt, streamTrySend, Ne.symm hij]

/-- So does the deletion of rows. -/
theorem commandsAt_deleteRows (ans : Answers ε) (userId : String) (s : Sys ε) (i : ℕ) :
    (App.deleteRows ans userId s).2.commandsAt i = s.commandsAt i := by
  obtain h | ⟨-, -, h⟩ := App.deleteRows_cases ans userId s
  · rw [h]
  · rw [h]
    simp [commandsAt, App.markGone, Function.comp_def]

theorem commandsAt_resubscribe (ans : Answers ε) (s : Sys ε) (i : ℕ) :
    (App.resubscribeStreamToContacts ans s).commandsAt i = s.commandsAt i :=
  (channels_streamTrySend s _ _ _ i).1

theorem eventsAt_resubscribe (ans : Answers ε) (s : Sys ε) (i : ℕ) :
    (App.resubscribeStreamToContacts ans s).eventsAt i = s.eventsAt i :=
  (channels_streamTrySend s _ _ _ i).2

/-- Of all that the removal from the list does, only the command reaches the channel. -/
theorem commandsAt_removeContact (ans : Answers ε) (peerId : String) (s : Sys ε) (i : ℕ) :
    (App.removeContact ans peerId s).commandsAt i =
      (s.orchCommand s.app.orchHandle (.forgetContact peerId)).commandsAt i := by
  obtain ⟨u, hu, v, hv, heq⟩ := App.removeContact_eq ans peerId s
  have hlast : (App.removeContact ans peerId s).commandsAt i = v.commandsAt i := by
    rw [heq]
    split <;> rfl
  rw [hlast, hv, commandsAt_resubscribe]
  obtain ⟨-, rfl⟩ | ⟨i, -, rfl⟩ := hu <;> rfl

/-- A confirmed deletion deletes the rows, and then takes the contact out of the list. -/
theorem eq_of_deletes {s s' : Sys ε} {contactId : String} {i : ℕ} {a : Label ε} (hs : s.Held)
    (h : s.Deletes contactId i a) (hstep : step E s a = some s') : ∃ ans t,
      App.deleteRows ans contactId s.answered = (.ok (), t) ∧
        s' = App.removeContact ans contactId t ∧ s.app.orchHandle = some i ∧
        i < s.pipelines.length ∧ s.app.readStorage = true := by
  cases h with
  | confirm key ans hscreen hpress hcode hask hrows horch =>
    obtain ⟨hi, hread⟩ := hs.orchHandle horch
    cases stepped hstep
    rw [App.handleEvent_confirms E ans hscreen hpress hcode (by rw [hask]; rfl)]
    let t := (App.deleteRows ans contactId s.answered).2
    have ht : App.deleteRows ans contactId s.answered = (.ok (), t) := Prod.ext hrows rfl
    refine ⟨ans, t, ht, ?_, horch, hi, hread⟩
    unfold App.confirmDelete
    rw [hask]
    dsimp only
    rw [show App.deleteRows ans contactId (s.modApp fun a => { a with deleteConfirm := none }) =
      (.ok (), t) from ht]

/-- A confirmed deletion sends the command to forget the contact. -/
theorem commandsAt_of_deletes {s s' : Sys ε} {contactId : String} {i : ℕ} {a : Label ε}
    (hs : s.Held) (h : s.Deletes contactId i a) (hstep : step E s a = some s') :
    s'.commandsAt i = s.commandsAt i ++ [.forgetContact contactId] := by
  obtain ⟨ans, t, hrows, rfl, horch, hi, -⟩ := eq_of_deletes hs h hstep
  obtain rfl : (App.deleteRows ans contactId s.answered).2 = t := congrArg Prod.snd hrows
  have htorch : (App.deleteRows ans contactId s.answered).2.app.orchHandle = some i := by
    have hhandles := App.handles_deleteRows ans contactId s.answered
    exact (congrArg (fun u => u.2.1) hhandles).trans horch
  have htlength : i < (App.deleteRows ans contactId s.answered).2.pipelines.length := by
    have hlength := (tended_deleteRows ans contactId s.answered).length_eq
    exact hlength ▸ hi
  rw [commandsAt_removeContact, htorch, commandsAt_orchCommand htlength]
  exact congrArg (· ++ _) (commandsAt_deleteRows ans contactId s.answered i)

/-- Adding a contact sends the event that opens its session. -/
theorem eventsAt_finishAddContact (ans : Answers ε) (userId username : String) {s : Sys ε} {i : ℕ}
    (hi : i < s.pipelines.length) (horch : s.app.orchHandle = some i) :
    (App.finishAddContact ans userId username s).eventsAt i =
      s.eventsAt i ++ [.activeChatChanged userId true] := by
  obtain ⟨t, u, ht, hu, -, heq⟩ := App.finishAddContact_eq ans userId username s
  have hlength : i < (App.resubscribeStreamToContacts ans t).pipelines.length := by
    rw [← (App.rest_resubscribe ans t).fed.length_eq, ht]
    exact hi
  have hevents : u.eventsAt i = s.eventsAt i ++ [.activeChatChanged userId true] := by
    rw [hu, horch, eventsAt_orchSend hlength, eventsAt_resubscribe, ht]
    rfl
  rw [heq]
  exact hevents

theorem eventsAt_of_adds {s s' : Sys ε} {contactId : String} {i : ℕ} {a : Label ε} (hs : s.Held)
    (h : s.Adds contactId i a) (hstep : step E s a = some s') :
    s'.eventsAt i = s.eventsAt i ++ [.activeChatChanged contactId true] := by
  cases h with
  | accepted ans hqueue hevent horch =>
    obtain ⟨hi, -⟩ := hs.orchHandle horch
    cases stepped hstep with
    | internal _ hqueue' =>
      obtain ⟨rfl, rfl⟩ := List.cons.inj (hqueue.symm.trans hqueue')
      rw [hevent]
      exact eventsAt_finishAddContact ans contactId _ (s := { s with queue := _ }) hi horch
  | found key ans hscreen hpress hcode hselected hid horch =>
    obtain ⟨hi, -⟩ := hs.orchHandle horch
    cases stepped hstep
    subst hid
    rw [App.handleEvent_adds E ans hscreen hpress hcode hselected]
    exact eventsAt_finishAddContact ans _ _ hi horch

/-! ### A task that is left alone -/

/-- A task that is left alone comes to the end of what it has under way. -/
theorem exists_idle {s : Sys ε} {i : ℕ} {p : Pipeline ε} (hp : s.pipelines[i]? = some p) :
    ∃ n t q, Run.after (step E) s (List.replicate n (.orchestrator i)) = some t ∧
      t.pipelines[i]? = some q ∧ q.program = .ret () := by
  generalize hprogram : p.program = program
  induction program generalizing s p with
  | ret a => exact ⟨0, s, p, rfl, hp, hprogram⟩
  | atomic f k ih =>
    let w : TaskWorld ε := { p.world with storage := s.db }
    let q : Pipeline ε := { p with program := k (f w).1, world := { (f w).2 with ui := [] } }
    let t : Sys ε := { s with
      db := (f w).2.storage
      pipelines := s.pipelines.set i q
      queue := s.queue ++ (f w).2.ui.map fun event =>
        ⟨.bridge event, goneAlready (f w).2.log event⟩ }
    have hstep : step E s (.orchestrator i) = some t := by
      rw [step, hp, Option.bind_some, orchestratorStep, hprogram]
      rfl
    have hq : t.pipelines[i]? = some q :=
      List.getElem?_set_self (List.getElem?_eq_some_iff.mp hp).1
    obtain ⟨n, u, r, hu, hr, hidle⟩ := ih (f w).1 hq rfl
    refine ⟨n + 1, u, r, ?_, hr, hidle⟩
    rw [List.replicate_succ, Run.after, hstep]
    exact hu

/-- A task that has nothing under way can take an event that waits. -/
theorem step_take {s : Sys ε} {i : ℕ} {p : Pipeline ε} {event : IncomingEvent}
    (hp : s.pipelines[i]? = some p) (hidle : p.program = .ret ())
    (hhead : (s.eventsAt i).head? = some event) :
    ∃ q, step E s (.take i false) = some (s.movePipeline i q []) := by
  rw [eventsAt, hp] at hhead
  obtain ⟨events, hevents⟩ := List.head?_eq_some_iff.mp hhead
  have htake : ∃ q, p.take E false = some q := ⟨_, by
    unfold Pipeline.take
    rw [hidle, show p.world.selfTx = _ from hevents]⟩
  obtain ⟨q, hq⟩ := htake
  refine ⟨q, ?_⟩
  rw [step, hp, Option.bind_some, hq]
  rfl

/-- So it can take all the events that wait, and no command. -/
theorem exists_taken {s : Sys ε} (hs : s.Orderly) {i n : ℕ} (hi : i < s.pipelines.length)
    (hn : n ≤ (s.eventsAt i).length) :
    ∃ as t p, Run.after (step E) s as = some t ∧ as.countP (Label.takesAt i false) = n ∧
      as.countP (Label.takesAt i true) = 0 ∧ t.pipelines[i]? = some p ∧ p.program = .ret () := by
  have hcount (m : ℕ) (b : Bool) :
      (List.replicate m (.orchestrator i : Label ε)).countP (Label.takesAt i b) = 0 := by
    rw [List.countP_replicate]
    exact if_neg Bool.false_ne_true
  induction n with
  | zero =>
    obtain ⟨m, t, q, ht, hq, hidle⟩ := exists_idle (E := E) (List.getElem?_eq_getElem hi)
    exact ⟨_, t, q, ht, hcount m false, hcount m true, hq, hidle⟩
  | succ n ih =>
    obtain ⟨as, t, p, ht, htaken, hnone, hp, hidle⟩ := ih (Nat.le_of_succ_le hn)
    have hhead := (fifo_eventsAt E i).head hs ht htaken (List.getElem?_eq_getElem hn)
    obtain ⟨q, hstep⟩ := step_take (E := E) hp hidle hhead
    have hq' : (t.movePipeline i q []).pipelines[i]? = some q :=
      List.getElem?_set_self (List.getElem?_eq_some_iff.mp hp).1
    obtain ⟨m, u, r, hu, hr, hidle'⟩ := exists_idle (E := E) hq'
    refine ⟨as ++ .take i false :: List.replicate m (.orchestrator i), u, r, ?_, ?_, ?_, hr, hidle'⟩
    · rw [Run.after_append, ht, Option.bind_some, Run.after, hstep]
      exact hu
    · simp [htaken, hcount, Label.takesAt]
    · simp [hnone, hcount, Label.takesAt]

/-! ### The order of the two -/

/-- However the run goes on from `t`, when the task comes to take the event at the place `k` of its
channel, that is the one that opens the contact's session, and since `s` the task has taken the
command at the place `n` of its channel, which is to forget the contact. -/
def ForgetsFirst (E : AppExternals ε) (contactId : String) (i n k : ℕ) (s : Sys ε)
    (past : List (Label ε)) (t : Sys ε) : Prop :=
  ∀ as u, Run.after (step E) t as = some u → as.countP (Label.takesAt i false) = k →
    (step E u (.take i false)).isSome →
    (u.eventsAt i).head? = some (.activeChatChanged contactId true) ∧
      Run.Gets (step E) (commandsAt i) (Label.takesAt i true) s (past ++ as) n
        (.forgetContact contactId)

/-- The steps of the app take nothing from the channels of a task. -/
theorem countP_adds {s : Sys ε} {contactId : String} {i : ℕ} {a : Label ε}
    (h : s.Adds contactId i a) (b : Bool) : [a].countP (Label.takesAt i b) = 0 := by
  cases h <;> rfl

/-- Let a contact be deleted, and added again later. Then however the run goes on, the task forgets
the contact before it opens its session again, if and only if it has taken the command to forget it
when the contact is added. -/
theorem forgets_first_iff (E : AppExternals ε) {cfg : AppConfig} {dir : ConfigDir} {db : Storage}
    {before between : List (Label ε)} {delete add : Label ε} {contactId : String} {i : ℕ}
    {s s' t t' : Sys ε} (hs : Run.after (step E) (start ε cfg dir db) before = some s)
    (hdelete : s.Deletes contactId i delete) (hs' : step E s delete = some s')
    (ht : Run.after (step E) s' between = some t)
    (hadd : t.Adds contactId i add) (ht' : step E t add = some t') :
    ForgetsFirst E contactId i (s.commandsAt i).length (t.eventsAt i).length
      s' (between ++ [add]) t' ↔
      (s.commandsAt i).length < between.countP (Label.takesAt i true) := by
  have hheld := orderly_held_after hs
  have hheld' := orderly_held_next hheld hs'
  have htheld := Run.invariant (fun _ _ _ => orderly_held_next) hheld' ht
  obtain ⟨ht₁', -⟩ := orderly_held_next htheld ht'
  have hforget : (s'.commandsAt i)[(s.commandsAt i).length]? = some (.forgetContact contactId) := by
    rw [commandsAt_of_deletes hheld.2 hdelete hs']
    exact List.getElem?_concat_length
  have hopen : (t'.eventsAt i)[(t.eventsAt i).length]? =
      some (.activeChatChanged contactId true) := by
    rw [eventsAt_of_adds htheld.2 hadd ht']
    exact List.getElem?_concat_length
  -- the whole run since the deletion
  have hrun {as : List (Label ε)} {u : Sys ε} (hu : Run.after (step E) t' as = some u) :
      Run.after (step E) s' (between ++ [add] ++ as) = some u := by
    rw [List.append_assoc, Run.after_append, ht, Option.bind_some, List.singleton_append, Run.after,
      ht']
    exact hu
  have hcount (as : List (Label ε)) : (between ++ [add] ++ as).countP (Label.takesAt i true) =
      between.countP (Label.takesAt i true) + as.countP (Label.takesAt i true) := by
    rw [List.countP_append, List.countP_append, countP_adds hadd, Nat.add_zero]
  constructor
  · intro hfirst
    -- the task may take the event without taking a command
    have hlength : i < t'.pipelines.length := by
      by_contra hi
      have hnil : t'.eventsAt i = [] := by
        rw [eventsAt, List.getElem?_eq_none (not_lt.mp hi)]
        rfl
      rw [hnil] at hopen
      cases hopen
    have hle : (t.eventsAt i).length ≤ (t'.eventsAt i).length :=
      (List.getElem?_eq_some_iff.mp hopen).1.le
    obtain ⟨as, u, p, hu, htaken, hnone, hp, hidle⟩ := exists_taken (E := E) ht₁' hlength hle
    have hhead := (fifo_eventsAt E i).head ht₁' hu htaken hopen
    obtain ⟨q, hstep⟩ := step_take (E := E) hp hidle hhead
    obtain ⟨-, hgets⟩ := hfirst as u hu htaken (by rw [hstep]; rfl)
    rwa [(fifo_commandsAt E i).gets_iff hheld'.1 (hrun hu) hforget, hcount, hnone,
      Nat.add_zero] at hgets
  · intro hlt as u hu htaken _
    refine ⟨(fifo_eventsAt E i).head ht₁' hu htaken hopen, ?_⟩
    rw [(fifo_commandsAt E i).gets_iff hheld'.1 (hrun hu) hforget, hcount]
    exact hlt.trans_le (Nat.le_add_right _ _)

/-! ### An event that overtakes the command -/

/-- Surroundings in which a session that is opened is saved at once. -/
def opening : AppExternals Unit :=
  { AppExternals.quiet with
    core := { Externals.quiet with
      handleEvent := fun event _ => (match event with
        | .activeChatChanged contactId true =>
          [.saveSessionToSecureStore (Storage.sessionKey contactId) [1]]
        | _ => [], ()) } }

/-- The user finds a contact by a search. -/
def finds : List (Label Unit) :=
  [presses 'n', presses 'a', presses 'l', presses 'i', .key (.plain .enter) .quiet,
    .request 1 .zeros .quiet, .finish 1 (.found (some "alice")) .quiet, .internal .quiet]

/-- The task takes a command and carries it out. -/
def forgets : List (Label Unit) := .take 0 true :: List.replicate 6 (.orchestrator 0)

/-- The user adds the contact that was found. -/
def adds : Label Unit := .key (.plain .enter) .quiet

/-- A client that knows two contacts, after some steps. -/
def known (as : List (Label Unit)) : Sys Unit := Run.ending (step opening) acquainted as

/-- The user is asked whether the first contact is to be deleted. -/
def asks : List (Label Unit) := registers ++ [presses 'x']

theorem asks_deletes : (known asks).Deletes "alice" 0 (presses 'y') :=
  .confirm _ _ (by decide +kernel) rfl (.inl rfl) (by decide +kernel) (by decide +kernel)
    (by decide +kernel)

/-- The contact is deleted, the task forgets it, and it is added again. -/
theorem forgets_before_added : ∃ s s' t t', Run.after (step opening) acquainted asks = some s ∧
    s.Deletes "alice" 0 (presses 'y') ∧ step opening s (presses 'y') = some s' ∧
    Run.after (step opening) s' (forgets ++ finds) = some t ∧ t.Adds "alice" 0 adds ∧
    step opening t adds = some t' ∧
    ForgetsFirst opening "alice" 0 (s.commandsAt 0).length (t.eventsAt 0).length s'
      (forgets ++ finds ++ [adds]) t' := by
  have hs : Run.after (step opening) acquainted asks = some (known asks) :=
    Run.after_ending_nil (by decide +kernel)
  have hs' : step opening (known asks) (presses 'y') = some (known (asks ++ [presses 'y'])) :=
    Run.step_ending (by decide +kernel)
  have ht : Run.after (step opening) (known (asks ++ [presses 'y'])) (forgets ++ finds) =
      some (known (asks ++ [presses 'y'] ++ (forgets ++ finds))) :=
    Run.after_ending (by decide +kernel)
  have ht' : step opening (known (asks ++ [presses 'y'] ++ (forgets ++ finds))) adds =
      some (known (asks ++ [presses 'y'] ++ (forgets ++ finds) ++ [adds])) :=
    Run.step_ending (by decide +kernel)
  have hadd : (known (asks ++ [presses 'y'] ++ (forgets ++ finds))).Adds "alice" 0 adds :=
    .found _ _ (by decide +kernel) rfl (.inl rfl)
      (show _ = some (⟨"alice", "ali", "ali"⟩ : SearchResult) by decide +kernel) rfl
      (by decide +kernel)
  exact ⟨_, _, _, _, hs, asks_deletes, hs', ht, hadd, ht',
    (forgets_first_iff opening hs asks_deletes hs' ht hadd ht').mpr (by decide +kernel)⟩

/-- The task takes the two events that wait, and opens the session with the second. -/
def overtakes : List (Label Unit) :=
  .take 0 false :: List.replicate 3 (.orchestrator 0) ++
    .take 0 false :: List.replicate 8 (.orchestrator 0)

/-- The contact is added again while the command to forget it waits. The event overtakes the
command, which then wipes the session that the event has opened. -/
theorem session_wiped : ∃ s s' t t' u v, Run.after (step opening) acquainted asks = some s ∧
    s.Deletes "alice" 0 (presses 'y') ∧ step opening s (presses 'y') = some s' ∧
    Run.after (step opening) s' finds = some t ∧ t.Adds "alice" 0 adds ∧
    step opening t adds = some t' ∧
    ¬ForgetsFirst opening "alice" 0 (s.commandsAt 0).length (t.eventsAt 0).length s'
      (finds ++ [adds]) t' ∧
    Run.after (step opening) t' overtakes = some u ∧
    u.db.secureLoad (Storage.sessionKey "alice") = some [1] ∧
    Run.after (step opening) u forgets = some v ∧
    v.db.secureLoad (Storage.sessionKey "alice") = none := by
  let deleted := asks ++ [presses 'y']
  let added := deleted ++ finds ++ [adds]
  have hs : Run.after (step opening) acquainted asks = some (known asks) :=
    Run.after_ending_nil (by decide +kernel)
  have hs' : step opening (known asks) (presses 'y') = some (known deleted) :=
    Run.step_ending (by decide +kernel)
  have ht : Run.after (step opening) (known deleted) finds = some (known (deleted ++ finds)) :=
    Run.after_ending (by decide +kernel)
  have ht' : step opening (known (deleted ++ finds)) adds = some (known added) :=
    Run.step_ending (by decide +kernel)
  have hu : Run.after (step opening) (known added) overtakes = some (known (added ++ overtakes)) :=
    Run.after_ending (by decide +kernel)
  have hv : Run.after (step opening) (known (added ++ overtakes)) forgets =
      some (known (added ++ overtakes ++ forgets)) := Run.after_ending (by decide +kernel)
  have hadd : (known (deleted ++ finds)).Adds "alice" 0 adds :=
    .found _ _ (by decide +kernel) rfl (.inl rfl)
      (show _ = some (⟨"alice", "ali", "ali"⟩ : SearchResult) by decide +kernel) rfl
      (by decide +kernel)
  -- just before it takes the second event
  have hbefore : Run.after (step opening) (known added) (overtakes.take 4) =
      some (known (added ++ overtakes.take 4)) := Run.after_ending (by decide +kernel)
  refine ⟨_, _, _, _, _, _, hs, asks_deletes, hs', ht, hadd, ht', fun hfirst => ?_, hu,
    by decide +kernel, hv, by decide +kernel⟩
  obtain ⟨-, hgets⟩ := hfirst _ _ hbefore (by decide +kernel) (by decide +kernel)
  exact absurd hgets.lt_countP (by decide +kernel)

end Sys
