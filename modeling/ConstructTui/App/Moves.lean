import ConstructTui.App.Step

/-!
# What an input does to the app

The parts of the app that its conversations and its pipelines depend on, and the ways an input can
change them. Most inputs leave both parts alone; the others are listed in `Move`, once, and every
invariant of the app is checked against that list.

## Main definitions

* `Talk`, `Sys.talk`: the contact list, the open conversation and the focus.
* `Sys.wiring`: the stream channel the app holds, and which pipelines were told to shut down.
* `Rest`, `Still`: nothing but the talk changes, or not even that.
* `Input`, `Starts`, `LogsOut`: the inputs of the app, those that spawn a pipeline, those that log
  out.
* `Change`, `Move`.
-/

/-! ### The parts of the app -/

/-- What conversations depend on. -/
structure Talk where
  chatList : ChatListPane
  messages : List ChatMessage
  focus : Focus
  deleteConfirm : Option String
  opened : Option String

/-- The contact that is selected in the list. -/
def Talk.selected (t : Talk) : Option Contact := t.chatList.selectedContact

def App.talk (a : App) (opened : Option String) : Talk :=
  ⟨a.chatList, a.chatView.messages, a.focus, a.deleteConfirm, opened⟩

variable {ε : Type}

def Sys.talk (s : Sys ε) : Talk := s.app.talk s.opened

/-- The channel the app holds, and which pipelines were told to shut down. -/
def Sys.wiring (s : Sys ε) : Option ℕ × List Bool :=
  (s.app.streamTx, s.pipelines.map Pipeline.shutDown)

/-- The channels and the database that the app holds. -/
def App.handles (a : App) : Option ℕ × Option ℕ × Bool := (a.streamTx, a.orchHandle, a.readStorage)

/-- A pipeline that has at most been given inputs. -/
structure Pipeline.Fed (p p' : Pipeline ε) : Prop where
  program : p'.program = p.program
  config : p'.config = p.config
  shutDown : p'.shutDown = p.shutDown
  world : ∃ selfTx streamTx, p'.world = { p.world with selfTx := selfTx, streamTx := streamTx }
  events : p.world.selfTx <+: p'.world.selfTx
  commands : p.commands <+: p'.commands

theorem Pipeline.Fed.refl (p : Pipeline ε) : p.Fed p :=
  ⟨rfl, rfl, rfl, ⟨_, _, rfl⟩, List.prefix_rfl, List.prefix_rfl⟩

theorem Pipeline.Fed.trans {p q r : Pipeline ε} (h : p.Fed q) (h' : q.Fed r) : p.Fed r := by
  obtain ⟨selfTx, streamTx, hw⟩ := h.world
  obtain ⟨selfTx', streamTx', hw'⟩ := h'.world
  exact ⟨h'.program.trans h.program, h'.config.trans h.config, h'.shutDown.trans h.shutDown,
    ⟨selfTx', streamTx', by rw [hw', hw]⟩, h.events.trans h'.events, h.commands.trans h'.commands⟩

/-- Everything but the talk is left alone, up to inputs for the pipelines. -/
structure Rest (s s' : Sys ε) : Prop where
  handles : s'.app.handles = s.app.handles
  db : s'.db = s.db
  queue : s'.queue = s.queue
  fed : List.Forall₂ Pipeline.Fed s.pipelines s'.pipelines

theorem forall₂_fed_refl (ps : List (Pipeline ε)) : List.Forall₂ Pipeline.Fed ps ps :=
  List.forall₂_same.mpr fun p _ => Pipeline.Fed.refl p

theorem forall₂_fed_trans {ps qs rs : List (Pipeline ε)} (h : List.Forall₂ Pipeline.Fed ps qs)
    (h' : List.Forall₂ Pipeline.Fed qs rs) : List.Forall₂ Pipeline.Fed ps rs := by
  induction h generalizing rs with
  | nil => exact h'
  | cons hp _ ih =>
    cases h' with
    | cons hq h' => exact .cons (hp.trans hq) (ih h')

theorem forall₂_fed_modify {f : Pipeline ε → Pipeline ε} (hf : ∀ p : Pipeline ε, p.Fed (f p))
    (i : ℕ) (ps : List (Pipeline ε)) : List.Forall₂ Pipeline.Fed ps (ps.modify i f) := by
  induction ps generalizing i with
  | nil => cases i <;> exact .nil
  | cons p ps ih =>
    cases i with
    | zero => exact .cons (hf p) (forall₂_fed_refl ps)
    | succ i => exact .cons (.refl p) (ih i)

theorem map_shutDown_eq {ps qs : List (Pipeline ε)} (h : List.Forall₂ Pipeline.Fed ps qs) :
    qs.map Pipeline.shutDown = ps.map Pipeline.shutDown := by
  induction h with
  | nil => rfl
  | cons hp _ ih => rw [List.map_cons, List.map_cons, hp.shutDown, ih]

namespace Rest

theorem refl (s : Sys ε) : Rest s s := ⟨rfl, rfl, rfl, forall₂_fed_refl _⟩

theorem streamTx {s s' : Sys ε} (h : Rest s s') : s'.app.streamTx = s.app.streamTx :=
  congrArg Prod.fst h.handles

theorem trans {s t u : Sys ε} (h : Rest s t) (h' : Rest t u) : Rest s u :=
  ⟨h'.handles.trans h.handles, h'.db.trans h.db, h'.queue.trans h.queue,
    forall₂_fed_trans h.fed h'.fed⟩

theorem wiring {s s' : Sys ε} (h : Rest s s') : s'.wiring = s.wiring :=
  Prod.ext h.streamTx (map_shutDown_eq h.fed)

theorem modApp {s : Sys ε} {f : App → App} (h : (f s.app).handles = s.app.handles) :
    Rest s (s.modApp f) := ⟨h, rfl, rfl, forall₂_fed_refl _⟩

theorem orchSend (s : Sys ε) (handle : Option ℕ) (event : IncomingEvent) :
    Rest s (s.orchSend handle event) := by
  cases handle with
  | none => exact .refl s
  | some i =>
    have hf (p : Pipeline ε) :
        p.Fed { p with world := { p.world with selfTx := p.world.selfTx ++ [event] } } :=
      ⟨rfl, rfl, rfl, ⟨_, _, rfl⟩, List.prefix_append _ _, List.prefix_rfl⟩
    exact ⟨rfl, rfl, rfl, forall₂_fed_modify hf i _⟩

theorem orchCommand (s : Sys ε) (handle : Option ℕ) (cmd : OrchestratorCommand) :
    Rest s (s.orchCommand handle cmd) := by
  cases handle with
  | none => exact .refl s
  | some i =>
    have hf (p : Pipeline ε) : p.Fed { p with commands := p.commands ++ [cmd] } :=
      ⟨rfl, rfl, rfl, ⟨_, _, rfl⟩, List.prefix_rfl, List.prefix_append _ _⟩
    exact ⟨rfl, rfl, rfl, forall₂_fed_modify hf i _⟩

/-- Any command but a shutdown. -/
theorem streamTrySend (s : Sys ε) (handle : Option ℕ) (hasRoom : Bool) {cmd : StreamCmd}
    (hcmd : cmd ≠ .shutdown) : Rest s (s.streamTrySend handle hasRoom cmd) := by
  cases handle with
  | none => exact .refl s
  | some i =>
    cases hasRoom with
    | false => exact .refl s
    | true =>
      have hf (p : Pipeline ε) : p.Fed { p with
          world := { p.world with streamTx := p.world.streamTx ++ [cmd] }
          shutDown := p.shutDown || cmd = .shutdown } :=
        ⟨rfl, rfl, by simp [hcmd], ⟨_, _, rfl⟩, List.prefix_rfl, List.prefix_rfl⟩
      exact ⟨rfl, rfl, rfl, forall₂_fed_modify hf i _⟩

end Rest

@[simp] theorem Sys.app_orchSend (s : Sys ε) (handle : Option ℕ) (event : IncomingEvent) :
    (s.orchSend handle event).app = s.app := by cases handle <;> rfl

@[simp] theorem Sys.opened_orchSend (s : Sys ε) (handle : Option ℕ) (event : IncomingEvent) :
    (s.orchSend handle event).opened = s.opened := by cases handle <;> rfl

@[simp] theorem Sys.db_orchSend (s : Sys ε) (handle : Option ℕ) (event : IncomingEvent) :
    (s.orchSend handle event).db = s.db := by cases handle <;> rfl

@[simp] theorem Sys.app_orchCommand (s : Sys ε) (handle : Option ℕ) (cmd : OrchestratorCommand) :
    (s.orchCommand handle cmd).app = s.app := by cases handle <;> rfl

@[simp] theorem Sys.opened_orchCommand (s : Sys ε) (handle : Option ℕ)
    (cmd : OrchestratorCommand) : (s.orchCommand handle cmd).opened = s.opened := by
  cases handle <;> rfl

@[simp] theorem Sys.app_streamTrySend (s : Sys ε) (handle : Option ℕ) (hasRoom : Bool)
    (cmd : StreamCmd) : (s.streamTrySend handle hasRoom cmd).app = s.app := by
  cases handle <;> cases hasRoom <;> rfl

@[simp] theorem Sys.opened_streamTrySend (s : Sys ε) (handle : Option ℕ) (hasRoom : Bool)
    (cmd : StreamCmd) : (s.streamTrySend handle hasRoom cmd).opened = s.opened := by
  cases handle <;> cases hasRoom <;> rfl

/-! ### Inputs that change neither -/

/-- The talk, the handles, the database, the queue and the pipelines are left alone. -/
structure Still (s s' : Sys ε) : Prop where
  talk : s'.talk = s.talk
  handles : s'.app.handles = s.app.handles
  db : s'.db = s.db
  queue : s'.queue = s.queue
  pipelines : s'.pipelines = s.pipelines

namespace Still

theorem refl (s : Sys ε) : Still s s := ⟨rfl, rfl, rfl, rfl, rfl⟩

theorem trans {s t u : Sys ε} (h : Still s t) (h' : Still t u) : Still s u :=
  ⟨h'.talk.trans h.talk, h'.handles.trans h.handles, h'.db.trans h.db, h'.queue.trans h.queue,
    h'.pipelines.trans h.pipelines⟩

theorem rest {s s' : Sys ε} (h : Still s s') : Rest s s' :=
  ⟨h.handles, h.db, h.queue, h.pipelines ▸ forall₂_fed_refl _⟩

/-- A change of the app that leaves the talk and the handles alone. -/
theorem modApp {s : Sys ε} {f : App → App}
    (h : (f s.app).talk s.opened = s.app.talk s.opened ∧ (f s.app).handles = s.app.handles) :
    Still s (s.modApp f) := ⟨h.1, h.2, rfl, rfl, rfl⟩

theorem setStatus (s : Sys ε) (status : String) : Still s (s.setStatus status) := modApp ⟨rfl, rfl⟩

theorem setScreen (s : Sys ε) (screen : Screen) : Still s (s.setScreen screen) := modApp ⟨rfl, rfl⟩

theorem spawn (s : Sys ε) (task : BackgroundTask) : Still s (s.spawn task) :=
  ⟨rfl, rfl, rfl, rfl, rfl⟩

end Still

/-! ### Starting a pipeline and logging out -/

/-- What the app's loop takes. -/
inductive Input
  | key (key : KeyEvent)
  | event (event : InternalEvent) (gone : Bool)

variable (E : AppExternals ε) (ans : Answers ε)

/-- Nothing keeps `start_orchestrator` from its spawn: the keys decode, the core can be built from
them, and the database opens. -/
def Ready (session : Session) (userId : String) : Prop :=
  ∃ r, App.prepareOrchestrator E ans session userId = .ok r

/-- A passphrase has been typed for a session that waits for one, and the session file can be
written under it. -/
def Protects (s : Sys ε) : Prop :=
  s.app.unlockScreen.takePassphrase.1 ≠ [] ∧ s.app.pendingSession.isSome ∧
    (∃ keys, E.deriveKeys s.app.unlockScreen.takePassphrase.1 ans.masterSalt = .ok keys) ∧
    ans.save = .saved

/-- The inputs that spawn a pipeline: an authentication that needs no passphrase any more, or the
choice of one. -/
def Starts (s : Sys ε) : Input → Prop
  | .event (.auth (.success m)) _ =>
    (m.pendingSave.isSome → (s.app.sessionKey.isSome ∨ s.app.noEncrypt) ∧ ans.save = .saved) ∧
      Ready E ans m.fullSession m.userId
  | .key key => s.app.screen = .setPassphrase ∧ key.isPress ∧ key.code = .enter ∧
      Protects E ans s ∧ ∃ full, s.app.currentSession = some full ∧ Ready E ans full s.app.userId
  | _ => False

/-- What an input that spawns a pipeline does. -/
structure Started (s s' : Sys ε) : Prop where
  talk : s'.talk = { s.talk with chatList := (App.loadContacts ans s).app.chatList }
  handles : s'.app.handles = (some s.pipelines.length, some s.pipelines.length, true)
  db : s'.db = s.db
  queue : s'.queue = s.queue
  pipelines : ∃ userId deviceId contactIds identitySecret core, s'.pipelines = s.pipelines ++
    [App.newPipeline E ans userId deviceId contactIds identitySecret core s.db]

/-- The keys that log out, when the session file can be cleared. -/
def LogsOut (s : Sys ε) : Input → Prop
  | .key key => s.app.screen = .settings ∧ key.isPress ∧
      ¬(key.code = .char 'c' ∧ key.modifiers = .control) ∧
      (key.code = .char 'l' ∨ key.code = .char 'L' ∨
        key.code = .enter ∧ s.app.settingsScreen.confirm = some .logout) ∧
      (s.dir.clearSession ans.clear).1 = .ok ()
  | .event _ _ => False

instance decidableLogsOut (s : Sys ε) : (input : Input) → Decidable (LogsOut ans s input)
  | .key key => inferInstanceAs (Decidable (s.app.screen = .settings ∧ key.isPress ∧
      ¬(key.code = .char 'c' ∧ key.modifiers = .control) ∧
      (key.code = .char 'l' ∨ key.code = .char 'L' ∨
        key.code = .enter ∧ s.app.settingsScreen.confirm = some .logout) ∧
      (s.dir.clearSession ans.clear).1 = .ok ()))
  | .event _ _ => inferInstanceAs (Decidable False)

/-- What a logout does. -/
structure LoggedOut (s s' : Sys ε) : Prop where
  talk : s'.talk = ⟨.new, [], s.app.focus, s.app.deleteConfirm, none⟩
  handles : s'.app.handles = (none, none, false)
  db : s'.db = s.db ∨ s'.db = s.db.clearStreamCursor
  queue : s'.queue = s.queue
  pipelines : s'.pipelines =
    (s.streamTrySend s.app.streamTx ans.streamHasRoom .shutdown).pipelines

/-! ### Moves -/

/-- Changes of the talk by navigation alone. -/
inductive TalkMove (t : Talk) : Talk → Prop
  | same : TalkMove t t
  | navigate (list : ChatListPane) (hfocus : t.focus = .contactList)
      (hcontacts : list.contacts = t.chatList.contacts) (hvalid : t.chatList.Valid → list.Valid) :
      TalkMove t { t with chatList := list }
  | ask (contactId : String) (hfocus : t.focus = .contactList) :
      TalkMove t { t with deleteConfirm := some contactId }
  | cancel : TalkMove t { t with deleteConfirm := none }
  | focus (f : Focus) (b : Bool)
      (hfocus : f ≠ .contactList → t.focus ≠ .contactList ∨ t.selected = none)
      (hask : t.deleteConfirm = none) :
      TalkMove t { t with chatList := { t.chatList with focused := b }, focus := f }

/-- What is on screen of a message that just arrived. -/
def receivedMessage (peerId text : String) (gone : Bool) : ChatMessage :=
  ⟨ans.messageId, .received, text, hhmm ans.nowSecs, some peerId, gone⟩

/-- What is on screen of a message that was just typed. -/
def sentMessage (text : String) (peer : Option String) : ChatMessage :=
  ⟨ans.messageId, .sent, text, hhmm ans.nowSecs, peer, false⟩

/-- A confirmed deletion starts by forgetting the question. -/
def Sys.answered (s : Sys ε) : Sys ε := s.modApp fun a => { a with deleteConfirm := none }

/-- The ways an input that neither starts a pipeline nor logs out changes the app. -/
inductive Change (s : Sys ε) (input : Input) (s' : Sys ε) : Prop
  | talked (htalk : TalkMove s.talk s'.talk) (hrest : Rest s s')
  | opened (c : Contact) (hask : s.app.deleteConfirm = none) (hsel : s.talk.selected = some c)
      (htalk : s'.talk = { s.talk with
        chatList := { s.app.chatList with focused := false }
        messages := App.history ans c.id s
        focus := .chatView
        opened := some c.id })
      (hrest : Rest s s')
  | sent (text : String) (hfocus : s.app.focus = .compose) (hask : s.app.deleteConfirm = none)
      (htext : text = String.ofList s.app.chatView.compose) (hblank : trimChars text.toList ≠ [])
      (hinput : s.app.screen = .main ∧ ∃ key, input = .key key ∧ key.isPress ∧ key.code = .enter)
      (htalk : s'.talk = { s.talk with
        messages := s.app.chatView.messages ++ [sentMessage ans text s.opened] })
      (hrest : Rest s s')
  | received (peerId messageId text : String) (timestampMs : ℤ) (gone : Bool)
      (hinput : input = .event (.bridge (.newMessage peerId messageId text timestampMs)) gone)
      (htalk : s'.talk = { s.talk with
        messages := s.app.chatView.messages ++ [receivedMessage ans peerId text gone] })
      (hrest : Rest s s')
  | added (contact : Contact) (db : Storage)
      (hdb : db = s.db ∨ db = s.db.upsertContact ⟨contact.id, contact.displayName, ""⟩)
      (hinput : (∃ userId username gone, input = .event (.inviteAccepted userId username) gone) ∨
        s.app.screen = .contactSearch)
      (htalk : s'.talk = { s.talk with chatList := s.app.chatList.addContact contact })
      (hrest : Rest { s with db := db } s')
  | deleteFailed (peerId e : String) (base : Sys ε) (hask : s.app.deleteConfirm = some peerId)
      (hrows : App.deleteRows ans peerId s.answered = (.error e, base))
      (htalk : s'.talk = base.talk) (hrest : Rest base s')
  | deleted (peerId : String) (base : Sys ε) (list : ChatListPane)
      (hask : s.app.deleteConfirm = some peerId)
      (hrows : App.deleteRows ans peerId s.answered = (.ok (), base))
      (hlist : list = s.app.chatList ∨ ∃ i, list = s.app.chatList.removeAt i)
      (htalk : s'.talk = { base.talk with chatList := list } ∧ list.contacts ≠ [] ∨
        s'.talk = { base.talk with
          chatList := list
          messages := []
          opened := list.selectedContact.map Contact.id })
      (hrest : Rest base s')

theorem Change.of_still {s s' : Sys ε} {input : Input} (h : Still s s') :
    Change ans s input s' := .talked (h.talk ▸ .same) h.rest

/-- Apart from the talk, a change gives inputs to the pipelines, after the contact was stored or its
rows were deleted. -/
theorem Change.rest {s s' : Sys ε} {input : Input} (h : Change ans s input s') :
    ∃ base : Sys ε, Rest base s' ∧ (base = s ∨
      (∃ contact : Contact, base =
        { s with db := s.db.upsertContact ⟨contact.id, contact.displayName, ""⟩ }) ∨
      ∃ peerId, s.app.deleteConfirm = some peerId ∧
        base = (App.deleteRows ans peerId s.answered).2) := by
  cases h with
  | talked _ hrest => exact ⟨s, hrest, .inl rfl⟩
  | opened _ _ _ _ hrest => exact ⟨s, hrest, .inl rfl⟩
  | sent _ _ _ _ _ _ _ hrest => exact ⟨s, hrest, .inl rfl⟩
  | received _ _ _ _ _ _ _ hrest => exact ⟨s, hrest, .inl rfl⟩
  | added contact db hdb _ _ hrest =>
    obtain rfl | rfl := hdb
    · exact ⟨s, hrest, .inl rfl⟩
    · exact ⟨_, hrest, .inr (.inl ⟨contact, rfl⟩)⟩
  | deleteFailed peerId _ base hask hrows _ hrest =>
    exact ⟨base, hrest, .inr (.inr ⟨peerId, hask, (congrArg Prod.snd hrows).symm⟩)⟩
  | deleted peerId base _ hask hrows _ _ hrest =>
    exact ⟨base, hrest, .inr (.inr ⟨peerId, hask, (congrArg Prod.snd hrows).symm⟩)⟩

/-- The ways an input changes the app. -/
inductive Move (s : Sys ε) (input : Input) (s' : Sys ε) : Prop
  | started (hinput : Starts E ans s input) (h : Started E ans s s')
  | loggedOut (hinput : LogsOut ans s input) (h : LoggedOut ans s s')
  | changed (hstart : ¬Starts E ans s input) (hlogout : ¬LogsOut ans s input)
      (h : Change ans s input s')
