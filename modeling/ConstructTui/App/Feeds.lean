import ConstructTui.App.Runs
import ConstructTui.Lib.Fifo
import ConstructTui.Stream.Exchange

/-!
# What the app gives its pipelines

The app holds the sending ends of three channels of a pipeline: the events and the commands of its
task, and the commands of its worker. An input of the app puts in them what it has to say and
nothing else: to the task, that a contact is to be forgotten; to the worker, whom to subscribe to,
or that it is to stop. The worker, the relay and the program of the task are not the app's to
change.

## Main definitions

* `Pipeline.Given`: a pipeline that the app may have given inputs.
* `Sys.Gives`: every pipeline is given inputs at most, and new ones may have been spawned.
* `Pipeline.Next`: what a step can do to a pipeline.

## Main results

* `App.gives_handle`: what an input gives the pipelines.
* `Sys.step_gives`, `Sys.pipeline_of_step`: what a step does to the pipelines.
* `Sys.pipeline_invariant`: an invariant over a pipeline and its output.
-/

variable {ε : Type} {E : AppExternals ε}

/-- A pipeline that has at most been given inputs by the app: events, contacts to forget, and
commands for its worker that carry no envelope. -/
structure Pipeline.Given (p p' : Pipeline ε) : Prop where
  config : p'.config = p.config
  identitySecret : p'.identitySecret = p.identitySecret
  program : p'.program = p.program
  worker : p'.worker = p.worker
  relayed : p'.relayed = p.relayed
  commands : ∃ ids : List String, p'.commands = p.commands ++ ids.map .forgetContact
  streamTx : ∃ cmds : List StreamCmd, (∀ cmd ∈ cmds, cmd.envelope? = none) ∧
    p'.world.streamTx = p.world.streamTx ++ cmds

namespace Pipeline

theorem Given.refl (p : Pipeline ε) : p.Given p where
  config := rfl
  identitySecret := rfl
  program := rfl
  worker := rfl
  relayed := rfl
  commands := ⟨[], by simp⟩
  streamTx := ⟨[], by simp⟩

theorem Given.trans {p q r : Pipeline ε} (h : p.Given q) (h' : q.Given r) : p.Given r where
  config := h'.config.trans h.config
  identitySecret := h'.identitySecret.trans h.identitySecret
  program := h'.program.trans h.program
  worker := h'.worker.trans h.worker
  relayed := h'.relayed.trans h.relayed
  commands := by
    obtain ⟨ids, hids⟩ := h.commands
    obtain ⟨ids', hids'⟩ := h'.commands
    exact ⟨ids ++ ids', by rw [hids', hids, List.map_append, List.append_assoc]⟩
  streamTx := by
    obtain ⟨cmds, hcmds, htx⟩ := h.streamTx
    obtain ⟨cmds', hcmds', htx'⟩ := h'.streamTx
    refine ⟨cmds ++ cmds', fun cmd hcmd => ?_, by rw [htx', htx, List.append_assoc]⟩
    exact (List.mem_append.mp hcmd).elim (hcmds cmd) (hcmds' cmd)

/-- Only the world has changed, and the channel of the worker not even that. -/
theorem Given.of_world (p : Pipeline ε) {world : TaskWorld ε}
    (h : world.streamTx = p.world.streamTx) : p.Given { p with world := world } where
  config := rfl
  identitySecret := rfl
  program := rfl
  worker := rfl
  relayed := rfl
  commands := ⟨[], by simp⟩
  streamTx := ⟨[], by simp [h]⟩

theorem Given.of_command (p : Pipeline ε) (contactId : String) :
    p.Given { p with commands := p.commands ++ [.forgetContact contactId] } where
  config := rfl
  identitySecret := rfl
  program := rfl
  worker := rfl
  relayed := rfl
  commands := ⟨[contactId], rfl⟩
  streamTx := ⟨[], by simp⟩

theorem Given.of_streamCmd (p : Pipeline ε) {cmd : StreamCmd} (h : cmd.envelope? = none)
    (shutDown : Bool) : p.Given { p with
      world := { p.world with streamTx := p.world.streamTx ++ [cmd] }, shutDown := shutDown } where
  config := rfl
  identitySecret := rfl
  program := rfl
  worker := rfl
  relayed := rfl
  commands := ⟨[], by simp⟩
  streamTx := ⟨[cmd], by simpa using h, rfl⟩

end Pipeline

theorem forall₂_given_refl (ps : List (Pipeline ε)) : List.Forall₂ Pipeline.Given ps ps :=
  List.forall₂_same.mpr fun p _ => .refl p

theorem forall₂_given_trans {ps qs rs : List (Pipeline ε)}
    (h : List.Forall₂ Pipeline.Given ps qs) (h' : List.Forall₂ Pipeline.Given qs rs) :
    List.Forall₂ Pipeline.Given ps rs := by
  induction h generalizing rs with
  | nil => exact h'
  | cons hp _ ih =>
    cases h' with
    | cons hq h' => exact .cons (hp.trans hq) (ih h')

theorem forall₂_given_modify {f : Pipeline ε → Pipeline ε} (hf : ∀ p : Pipeline ε, p.Given (f p))
    (i : ℕ) (ps : List (Pipeline ε)) : List.Forall₂ Pipeline.Given ps (ps.modify i f) := by
  induction ps generalizing i with
  | nil => cases i <;> exact .nil
  | cons p ps ih =>
    cases i with
    | zero => exact .cons (hf p) (forall₂_given_refl ps)
    | succ i => exact .cons (.refl p) (ih i)

/-- A pipeline as it is when it is spawned. -/
def Pipeline.Launched (E : AppExternals ε) (p : Pipeline ε) : Prop :=
  ∃ ans userId deviceId contactIds identitySecret core db,
    p = App.newPipeline E ans userId deviceId contactIds identitySecret core db

namespace Sys

/-- No pipeline is spawned, and each is given inputs at most. -/
def Hands (s s' : Sys ε) : Prop := List.Forall₂ Pipeline.Given s.pipelines s'.pipelines

/-- Every pipeline is given inputs at most, and new ones may have been spawned. -/
def Gives (E : AppExternals ε) (s s' : Sys ε) : Prop :=
  ∃ kept fresh : List (Pipeline ε), s'.pipelines = kept ++ fresh ∧
    List.Forall₂ Pipeline.Given s.pipelines kept ∧
    ∀ p ∈ fresh, p.Launched E

theorem Hands.of_eq {s s' : Sys ε} (h : s'.pipelines = s.pipelines) : s.Hands s' := by
  rw [Hands, h]
  exact forall₂_given_refl _

theorem Hands.refl (s : Sys ε) : s.Hands s := .of_eq rfl

theorem Hands.trans {s t u : Sys ε} (h : s.Hands t) (h' : t.Hands u) : s.Hands u :=
  forall₂_given_trans h h'

theorem Hands.modApp {s t : Sys ε} (h : s.Hands t) (f : App → App) : s.Hands (t.modApp f) := h

theorem Hands.gives {s s' : Sys ε} (h : s.Hands s') : s.Gives E s' :=
  ⟨s'.pipelines, [], (List.append_nil _).symm, h, nofun⟩

theorem hands_orchSend (s : Sys ε) (handle : Option ℕ) (event : IncomingEvent) :
    s.Hands (s.orchSend handle event) := by
  cases handle with
  | none => exact .refl s
  | some i =>
    have hf (p : Pipeline ε) :
        p.Given { p with world := { p.world with selfTx := p.world.selfTx ++ [event] } } :=
      .of_world p rfl
    exact forall₂_given_modify hf i _

theorem hands_forgetContact (s : Sys ε) (handle : Option ℕ) (contactId : String) :
    s.Hands (s.orchCommand handle (.forgetContact contactId)) := by
  cases handle with
  | none => exact .refl s
  | some i => exact forall₂_given_modify (fun p => .of_command p contactId) i _

theorem hands_streamTrySend (s : Sys ε) (handle : Option ℕ) (hasRoom : Bool) {cmd : StreamCmd}
    (h : cmd.envelope? = none) : s.Hands (s.streamTrySend handle hasRoom cmd) := by
  cases handle with
  | none => exact .refl s
  | some i =>
    cases hasRoom with
    | false => exact .refl s
    | true => exact forall₂_given_modify (fun p => .of_streamCmd p h _) i _

/-- A pipeline that is there has been given inputs at most. -/
theorem Gives.getElem? {s s' : Sys ε} (h : s.Gives E s') {i : ℕ} {p : Pipeline ε}
    (hp : s.pipelines[i]? = some p) : ∃ p', s'.pipelines[i]? = some p' ∧ p.Given p' := by
  obtain ⟨kept, fresh, heq, hkept, -⟩ := h
  obtain ⟨hi, rfl⟩ := List.getElem?_eq_some_iff.mp hp
  have hi' : i < kept.length := hkept.length_eq ▸ hi
  refine ⟨kept[i], ?_, hkept.get hi hi'⟩
  rw [heq, List.getElem?_append_left hi', List.getElem?_eq_getElem hi']

/-- A pipeline that was not there has just been spawned. -/
theorem Gives.spawned {s s' : Sys ε} (h : s.Gives E s') {i : ℕ} {p : Pipeline ε}
    (hnone : s.pipelines[i]? = none) (hp : s'.pipelines[i]? = some p) :
    p.Launched E := by
  obtain ⟨kept, fresh, heq, hkept, hfresh⟩ := h
  have hi : kept.length ≤ i := hkept.length_eq ▸ List.getElem?_eq_none_iff.mp hnone
  rw [heq, List.getElem?_append_right hi] at hp
  exact hfresh p (List.mem_of_getElem? hp)

end Sys

theorem Still.hands {s s' : Sys ε} (h : Still s s') : s.Hands s' := .of_eq h.pipelines

namespace App

variable (E) (ans : Answers ε)

theorem hands_resubscribe (s : Sys ε) : s.Hands (resubscribeStreamToContacts ans s) :=
  Sys.hands_streamTrySend s _ _ rfl

theorem hands_finishAddContact (userId username : String) (s : Sys ε) :
    s.Hands (finishAddContact ans userId username s) := by
  obtain ⟨t, u, ht, hu, -, heq⟩ := finishAddContact_eq ans userId username s
  have hst : s.Hands t := .of_eq (by rw [ht])
  have htu : t.Hands u := hu ▸ (hands_resubscribe ans t).trans (Sys.hands_orchSend _ _ _)
  rw [heq]
  exact hst.trans (htu.trans (.of_eq rfl))

/-- A deletion is noted in the histories only. -/
theorem hands_deleteRows (userId : String) (s : Sys ε) :
    s.Hands (deleteRows ans userId s).2 := by
  obtain h | ⟨-, -, h⟩ := deleteRows_cases ans userId s
  · exact .of_eq (congrArg Sys.pipelines h)
  · rw [h]
    show List.Forall₂ _ s.pipelines (s.pipelines.map _)
    rw [List.forall₂_map_right_iff]
    refine List.forall₂_same.mpr fun p _ => ?_
    let world : TaskWorld ε := { p.world with log := p.world.log ++ [.contactDeleted userId] }
    have hgiven : p.Given { p with world := world } := Pipeline.Given.of_world p rfl
    exact hgiven

theorem hands_removeContact (peerId : String) (s : Sys ε) :
    s.Hands (removeContact ans peerId s) := by
  obtain ⟨u, hu, v, hv, heq⟩ := removeContact_eq ans peerId s
  have hsu : s.Hands u := by
    obtain ⟨-, rfl⟩ | ⟨i, -, rfl⟩ := hu <;> exact Sys.hands_forgetContact s _ peerId
  have hsv : s.Hands v := hv ▸ hsu.trans (hands_resubscribe ans u)
  rw [heq]
  refine hsv.trans (.of_eq ?_)
  split <;> rfl

theorem hands_confirmDelete (s : Sys ε) : s.Hands (confirmDelete ans s) := by
  unfold confirmDelete
  split
  · exact .refl s
  · next peerId _ =>
    have hrows : s.Hands (deleteRows ans peerId s.answered).2 :=
      hands_deleteRows ans peerId s.answered
    rw [Sys.answered] at hrows
    dsimp only
    split
    · next e t h => exact (h ▸ hrows).trans (.of_eq rfl)
    · next t h => exact (h ▸ hrows).trans (hands_removeContact ans peerId t)

theorem hands_openConversation (c : Contact) (s : Sys ε) :
    s.Hands (openConversation ans c s) :=
  (Sys.hands_orchSend s s.app.orchHandle (.activeChatChanged c.id true)).trans (.of_eq rfl)

theorem hands_sendCompose (s : Sys ε) : s.Hands (sendCompose ans s) := by
  unfold sendCompose
  dsimp only
  split
  · exact .of_eq rfl
  · refine Sys.Hands.modApp ?_ _
    split
    · exact Sys.hands_orchSend (s.modApp fun a =>
        { a with chatView := s.app.chatView.takeCompose.2 }) _ _
    · exact .of_eq rfl

theorem hands_handleContactListKey (key : KeyEvent) (s : Sys ε) :
    s.Hands (handleContactListKey ans key s) := by
  unfold handleContactListKey
  split
  case h_6 | h_7 =>
    split
    · exact (hands_openConversation ans _ s).trans (.of_eq rfl)
    · exact .of_eq rfl
  all_goals first
    | exact .of_eq rfl
    | (split <;> first | exact .of_eq rfl | (split <;> exact .of_eq rfl))

theorem hands_handleMain (key : KeyEvent) (s : Sys ε) : s.Hands (handleMain ans key s) := by
  unfold handleMain
  split
  · split
    · exact hands_confirmDelete ans s
    · exact .of_eq rfl
  · split
    · exact .of_eq rfl
    · split
      · exact hands_handleContactListKey ans key s
      · unfold handleChatViewKey
        dsimp only
        split <;> exact .of_eq rfl
      · unfold handleComposeKey
        split
        · exact .of_eq rfl
        · exact hands_sendCompose ans s
        all_goals exact .of_eq rfl

theorem hands_handleContactSearch (key : KeyEvent) (s : Sys ε) :
    s.Hands (handleContactSearch E ans key s) := by
  by_cases hcode : key.code = .enter ∨ key.code = .char 'a' ∧ key.modifiers = .control
  · cases hselected : s.app.contactSearch.selected with
    | none => exact (still_handleContactSearch E ans fun _ => hselected).hands
    | some r =>
      rw [handleContactSearch_adds E ans hcode hselected]
      exact hands_finishAddContact ans _ _ s
  · exact (still_handleContactSearch E ans fun h => absurd h hcode).hands

/-- An input that spawns nothing. -/
theorem hands_handle {s : Sys ε} {input : Input} (hstart : ¬Starts E ans s input)
    (hlogout : ¬LogsOut ans s input) : s.Hands (handle E ans s input) := by
  cases input with
  | key key =>
    obtain hstill | ⟨-, ⟨-, heq⟩ | ⟨-, heq⟩⟩ := handleEvent_cases E ans hstart hlogout
    · exact hstill.hands
    · rw [handle, heq]
      exact hands_handleMain ans key s
    · rw [handle, heq]
      exact hands_handleContactSearch E ans key s
  | event event gone =>
    cases event with
    | bridge event =>
      refine .of_eq ?_
      cases event <;> rfl
    | inviteAccepted userId username => exact hands_finishAddContact ans userId username s
    | _ => exact (still_handleInternal E ans hstart nofun nofun).hands

/-- What an input gives the pipelines. -/
theorem gives_handle (s : Sys ε) (input : Input) : s.Gives E (handle E ans s input) := by
  cases handle_move E ans s input with
  | started _ h =>
    obtain ⟨userId, deviceId, contactIds, identitySecret, core, hp⟩ := h.pipelines
    refine ⟨s.pipelines, _, hp, forall₂_given_refl _, fun p hmem => ?_⟩
    exact ⟨ans, userId, deviceId, contactIds, identitySecret, core, s.db,
      List.mem_singleton.mp hmem⟩
  | loggedOut _ h =>
    have hhands : s.Hands (s.streamTrySend s.app.streamTx ans.streamHasRoom .shutdown) :=
      Sys.hands_streamTrySend s _ _ rfl
    exact (hhands.trans (.of_eq h.pipelines)).gives
  | changed hstart hlogout _ => exact (hands_handle E ans hstart hlogout).gives

end App

/-! ### Pipelines in a run -/

/-- What a step can do to a pipeline: give it inputs, or let it move by itself, or let its task work
on the database. -/
inductive Pipeline.Next (E : AppExternals ε) (p : Pipeline ε) (i : ℕ) (a : Label ε) :
    Pipeline ε → Prop
  | given {p' : Pipeline ε} (hlabel : a.pipeline ≠ some i) (h : p.Given p') : Next E p i a p'
  | moved {p' : Pipeline ε} {events : List InternalEvent} (h : p.Moves E i a p' events) :
      Next E p i a p'
  | worked (hlabel : a = .orchestrator i) (db : Storage) {program : Prog (TaskWorld ε) Unit}
      {world : TaskWorld ε} (h : p.program.step { p.world with storage := db } =
        some (program, world)) :
      Next E p i a { p with program := program, world := { world with ui := [] } }

theorem Pipeline.Moves.pipeline_eq {p p' : Pipeline ε} {i : ℕ} {a : Label ε}
    {events : List InternalEvent} (h : p.Moves E i a p' events) : a.pipeline = some i := by
  cases h <;> rfl

namespace Sys

variable {s s' : Sys ε} {a : Label ε}

/-- A step gives every pipeline inputs, or it is a step of one of them. -/
theorem step_gives (h : step E s a = some s') : a.pipeline = none ∧ s.Gives E s' ∨
    ∃ i p p', a.pipeline = some i ∧ s.pipelines[i]? = some p ∧ p.Next E i a p' ∧
      s'.pipelines = s.pipelines.set i p' := by
  cases step_kind h with
  | input ans input queue ha hqueue h' =>
    refine .inl ⟨?_, ?_⟩
    · cases ha <;> rfl
    · rw [h']
      exact App.gives_handle E ans { s with queue := queue } input
  | startup ha hlabel h' => exact .inl ⟨hlabel, h'.hands.gives⟩
  | behind ha hlabel h' => exact .inl ⟨hlabel, (Hands.of_eq h'.pipelines).gives⟩
  | pipeline ha i hp hmove h' =>
    exact .inr ⟨i, _, _, hmove.pipeline_eq, hp, .moved hmove, congrArg Sys.pipelines h'⟩
  | orchestrator ha i hlabel hp h' =>
    obtain ⟨⟨program, world⟩, hstep, rfl⟩ := Option.map_eq_some_iff.mp h'
    exact .inr ⟨i, _, _, by rw [hlabel]; rfl, hp, .worked hlabel s.db hstep, rfl⟩

/-- A pipeline after a step has just been spawned, or it was there before. -/
theorem pipeline_of_step (h : step E s a = some s') {i : ℕ} {p' : Pipeline ε}
    (hp' : s'.pipelines[i]? = some p') :
    s.pipelines[i]? = none ∧ a.pipeline = none ∧ p'.Launched E ∨
      ∃ p, s.pipelines[i]? = some p ∧ p.Next E i a p' := by
  obtain ⟨hlabel, hgives⟩ | ⟨j, p, q, hlabel, hp, hnext, hset⟩ := step_gives h
  · cases hp : s.pipelines[i]? with
    | none => exact .inl ⟨rfl, hlabel, hgives.spawned hp hp'⟩
    | some p =>
      obtain ⟨q, hq, hgiven⟩ := hgives.getElem? hp
      obtain rfl := Option.some.inj (hq.symm.trans hp')
      exact .inr ⟨p, rfl, .given (by simp [hlabel]) hgiven⟩
  · obtain ⟨hj, rfl⟩ := List.getElem?_eq_some_iff.mp hp
    right
    rw [hset] at hp'
    by_cases hij : i = j
    · subst hij
      rw [List.getElem?_set_self hj] at hp'
      exact ⟨_, hp, Option.some.inj hp' ▸ hnext⟩
    · rw [List.getElem?_set_ne (Ne.symm hij)] at hp'
      exact ⟨p', hp', .given (by simpa [hlabel] using Ne.symm hij) (.refl p')⟩

/-- A pipeline stays. -/
theorem pipeline_stays (h : step E s a = some s') {i : ℕ} {p : Pipeline ε}
    (hp : s.pipelines[i]? = some p) : ∃ p', s'.pipelines[i]? = some p' := by
  obtain ⟨-, hgives⟩ | ⟨j, q, q', -, -, -, hset⟩ := step_gives h
  · obtain ⟨p', hp', -⟩ := hgives.getElem? hp
    exact ⟨p', hp'⟩
  · have hi : i < (s.pipelines.set j q').length := by
      rw [List.length_set]
      exact (List.getElem?_eq_some_iff.mp hp).1
    exact ⟨_, by rw [hset, List.getElem?_eq_getElem hi]⟩

/-- What the steps of a pipeline put out. -/
def outputAt {M : Type} (i : ℕ) (out : Pipeline ε → Label ε → List M) (s : Sys ε) (a : Label ε) :
    List M := ((s.pipelines[i]?).map fun p => out p a).getD []

/-- An invariant over a pipeline and what its steps have put out: it holds of a spawned pipeline
that has put out nothing, and all that can happen to a pipeline keeps it. -/
theorem pipeline_invariant {M : Type} (out : Pipeline ε → Label ε → List M)
    {J : List M → Pipeline ε → Prop} {i : ℕ} (hspawned : ∀ p, p.Launched E → J [] p)
    (hnext : ∀ past p a p', J past p → p.Next E i a p' → J (past ++ out p a) p') {cfg : AppConfig}
    {dir : ConfigDir} {db : Storage} {as : List (Label ε)}
    (h : Run.after (step E) (start ε cfg dir db) as = some s) {p : Pipeline ε}
    (hp : s.pipelines[i]? = some p) :
    J (Run.output (step E) (outputAt i out) (start ε cfg dir db) as) p := by
  let I : List M → Sys ε → Prop := fun past s =>
    (s.pipelines[i]? = none → past = []) ∧ ∀ p, s.pipelines[i]? = some p → J past p
  have hstart : I [] (start ε cfg dir db) := ⟨fun _ => rfl, fun _ hp => by cases hp⟩
  refine (Run.output_invariant (fun past s a s' hs hstep => ?_) hstart h).2 p hp
  obtain ⟨hnone, hsome⟩ := hs
  refine ⟨fun hnone' => ?_, fun p' hp' => ?_⟩
  · cases hp : s.pipelines[i]? with
    | none => rw [hnone hp, outputAt, hp]; rfl
    | some p =>
      obtain ⟨p', hp'⟩ := pipeline_stays hstep hp
      rw [hnone'] at hp'
      cases hp'
  · obtain ⟨hp, -, hnew⟩ | ⟨p, hp, hn⟩ := pipeline_of_step hstep hp'
    · rw [hnone hp, outputAt, hp]
      exact hspawned p' hnew
    · rw [outputAt, hp]
      exact hnext past p a p' (hsome p hp) hn

end Sys
