import ConstructTui.App.Transcript

/-!
# Opening a conversation again

What is on screen of a conversation comes from its rows, from the messages that the tasks announce
and from what the user types. A task stores what it announces, as far as it is a message that it has
decrypted and no other message has its id. What the user types is stored by nobody, and is not there
when the conversation is opened again.

## Main definitions

* `Pipeline.Announces`: what the task has under way announces only what is stored.
* `Sys.Backed`: every line on screen or on the way there is stored, and so will the next ones be.
* `Sys.KeepsTranscript`: the steps that keep it so.

## Main results

* `Storage.mem_getMessages`: what is read of a conversation are its most recent rows.
* `Sys.transcript_reopened`: in a run of such steps whatever was shown is shown again.
* `Sys.sent_message_lost`: a message that was sent is not.
-/

variable {ε : Type} {E : AppExternals ε} {ans : Answers ε}

/-! ### Reading a conversation -/

namespace Storage

/-- An element of a sorted list is among the first `n` if at most `n` elements do not come after
it. -/
theorem mem_take_of_sorted {α : Type} {r : α → α → Prop} [DecidableRel r] {l : List α}
    (hl : l.Pairwise r) (hrefl : ∀ a, r a a) {x : α} (hx : x ∈ l) {n : ℕ}
    (hn : (l.filter fun y => r y x).length ≤ n) : x ∈ l.take n := by
  rw [← List.take_append_drop n l] at hl hx hn
  rcases List.mem_append.mp hx with hx | hx
  · exact hx
  · have htake : (l.take n).filter (fun y => r y x) = l.take n :=
      List.filter_eq_self.mpr fun y hy =>
      decide_eq_true ((List.pairwise_append.mp hl).2.2 y hy x hx)
    have hself : x ∈ (l.drop n).filter fun y => r y x :=
      List.mem_filter.mpr ⟨hx, by simpa using hrefl x⟩
    have hdrop : 0 < (l.drop n).length := List.length_pos_of_mem hx
    have hpos := List.length_pos_of_mem hself
    rw [List.filter_append, htake, List.length_append, List.length_take] at hn
    rw [List.length_drop] at hdrop
    omega

/-- The rows of a row's conversation that are at least as recent. -/
def asRecent (row : StoredMessage) (s : Storage) : List StoredMessage :=
  s.messages.rows.filter fun m => m.peerId = row.peerId ∧ row.timestampMs ≤ m.timestampMs

/-- A row is among the most recent ones that are read if at most as many are as recent. -/
theorem mem_getMessages {row : StoredMessage} {limit : ℕ} {s : Storage}
    (hrow : row ∈ s.messages.rows) (hrecent : (s.asRecent row).length ≤ limit) :
    row ∈ s.getMessages row.peerId limit := by
  let newer (a b : StoredMessage) : Prop := b.timestampMs ≤ a.timestampMs
  have : Std.Total newer := ⟨fun a b => le_total b.timestampMs a.timestampMs⟩
  have : IsTrans StoredMessage newer := ⟨fun a b c hab hbc => le_trans hbc hab⟩
  let rows := s.messages.rows.filter fun m => m.peerId = row.peerId
  have hsorted : (rows.insertionSort newer).Pairwise newer := List.pairwise_insertionSort newer rows
  have hmem : row ∈ rows.insertionSort newer :=
    (List.mem_insertionSort newer).mpr (List.mem_filter.mpr ⟨hrow, decide_eq_true rfl⟩)
  have hcount : ((rows.insertionSort newer).filter fun m => newer m row).length ≤ limit := by
    rw [((List.perm_insertionSort newer rows).filter _).length_eq, List.filter_filter]
    refine le_trans (le_of_eq (congrArg List.length (List.filter_congr fun m _ => ?_))) hrecent
    simp [newer, Bool.and_comm]
  unfold getMessages
  dsimp only
  rw [List.mem_reverse]
  split
  · exact mem_take_of_sorted hsorted (fun a => le_refl a.timestampMs) hmem hcount
  · exact hmem

end Storage

/-! ### Pipelines -/

/-- The core asked to announce a message. -/
def Obs.isPreview : Obs → Bool
  | .notified _ => true
  | _ => false

namespace Pipeline

open OrchestratorTask (Announced Resumes Spares)

/-- The app has taken what the task told it, and the task goes on to announce only what is
stored. -/
structure Announces (db : Storage) (p : Pipeline ε) : Prop where
  told : p.world.ui = []
  meets : p.program.Meets Resumes Announced (fun _ _ => True) { p.world with storage := db }

/-- The next step of the task announces a message that is only a preview. -/
def Previews (db : Storage) (p : Pipeline ε) : Prop :=
  ∃ r ∈ p.program.step { p.world with storage := db }, ∃ o ∈ r.2.log.getLast?, o.isPreview = true

instance (db : Storage) (p : Pipeline ε) : Decidable (p.Previews db) :=
  inferInstanceAs (Decidable (∃ r ∈ p.program.step { p.world with storage := db },
    ∃ o ∈ r.2.log.getLast?, o.isPreview = true))

theorem Announces.spares {db db' : Storage} {p p' : Pipeline ε} (h : p.Announces db)
    (hprogram : p'.program = p.program) (hui : p'.world.ui = p.world.ui)
    (hspares : Spares { p.world with storage := db } { p'.world with storage := db' }) :
    p'.Announces db' where
  told := hui.trans h.told
  meets := by
    rw [hprogram]
    exact OrchestratorTask.meets_of_spares h.meets hspares

/-- A task that has nothing under way. -/
theorem announces_idle {db : Storage} {p : Pipeline ε} (hprogram : p.program = .ret ())
    (hui : p.world.ui = []) : p.Announces db := ⟨hui, by rw [hprogram]; trivial⟩

/-- A move of a pipeline by itself tells the app of no message. -/
theorem Moves.line_eq_none {p p' : Pipeline ε} {i : ℕ} {a : Label ε} {events : List InternalEvent}
    (h : p.Moves E i a p' events) : ∀ event ∈ events, Queued.line ⟨event, false⟩ = none :=
  fun event hevent => by cases h.notice event hevent <;> rfl

/-- It tells the app nothing through the task, and the task of no deletion. -/
theorem Moves.silent {p p' : Pipeline ε} {i : ℕ} {a : Label ε} {events : List InternalEvent}
    (h : p.Moves E i a p' events) : p'.world.log = p.world.log ∧ p'.world.ui = p.world.ui := by
  obtain haside | ⟨b, -, htake, -⟩ := h.aside_or_takes
  · exact ⟨haside.log, haside.ui⟩
  · obtain ⟨-, ⟨-, cmd, commands, -, rfl⟩ | ⟨-, event, rest, -, rfl⟩⟩ := take_cases htake
    · exact ⟨rfl, rfl⟩
    · exact ⟨rfl, rfl⟩

/-- Whatever a pipeline takes on, it announces only what is stored. -/
theorem Announces.move (hsql : ∀ e, (E.core.sqlFails e).1 = false) {db : Storage}
    {p p' : Pipeline ε} {i : ℕ} {a : Label ε} {events : List InternalEvent} (h : p.Announces db)
    (hmove : p.Moves E i a p' events) : p'.Announces db := by
  obtain ⟨hlog, hui⟩ := hmove.silent
  obtain hprogram | ⟨cmd, hprogram⟩ | ⟨event, hprogram⟩ := hmove.program
  · exact h.spares hprogram hui (.of_eq hlog rfl)
  · refine ⟨hui.trans h.told, ?_⟩
    rw [hprogram]
    exact OrchestratorTask.handleCommand_announces hsql cmd _
  · refine ⟨hui.trans h.told, ?_⟩
    rw [hprogram]
    exact OrchestratorTask.handleRx_announces hsql event _

end Pipeline

/-! ### Steps -/

namespace Sys

open OrchestratorTask (NoClash)

/-- Every line on screen or on the way there is stored, and so are those that the tasks announce. -/
structure Backed (s : Sys ε) : Prop where
  runs : s.Programs OrchestratorTask.Runs
  stored : s.lines ⊆ s.db.lines
  announces : ∀ p ∈ s.pipelines, p.Announces s.db

/-- The step shows nothing but what is stored: it sends nothing, unless the same was sent and stored
before; and if a task goes on, no row clashes with the message it has just decrypted, and it does
not announce a preview. -/
def KeepsTranscript (s : Sys ε) : Label ε → Prop
  | .key key ans => ∀ contactId ∈ s.opened, s.SendsTo contactId (.key key ans) →
      s.typed contactId ∈ s.db.lines
  | .orchestrator i => ∀ p ∈ s.pipelines[i]?, NoClash p.world.log s.db ∧ ¬p.Previews s.db
  | _ => True

instance (s : Sys ε) : (a : Label ε) → Decidable (s.KeepsTranscript a)
  | .key key ans => inferInstanceAs (Decidable (∀ contactId ∈ s.opened,
      s.SendsTo contactId (.key key ans) → s.typed contactId ∈ s.db.lines))
  | .orchestrator i => inferInstanceAs (Decidable
      (∀ p ∈ s.pipelines[i]?, NoClash p.world.log s.db ∧ ¬p.Previews s.db))
  | .startup _ | .internal _ | .tick | .registrationStep _ _ | .request _ _ _ | .finish _ _ _
  | .worker _ _ | .relay _ | .take _ _ | .subTask _ _ _ => inferInstanceAs (Decidable True)

theorem backed_start (cfg : AppConfig) (dir : ConfigDir) (db : Storage) :
    (start ε cfg dir db).Backed :=
  ⟨programs_start _ _ _ _, List.nil_subset _, nofun⟩

/-- An input of the app keeps it so. -/
theorem Backed.input {s s' : Sys ε} {input : Input} {queue : List Queued} (h : s.Backed)
    (hruns : s'.Programs OrchestratorTask.Runs)
    (hqueue : queue = s.queue ∨ ∃ q, s.queue = q :: queue)
    (hsent : ∀ contactId key, input = .key key → s.SendsTo contactId (.key key ans) →
      s.typed contactId ∈ s.db.lines)
    (hreceived : ∀ event gone line, input = .event event gone →
      Queued.line ⟨event, gone⟩ = some line → line ∈ s.db.lines)
    (h' : s' = App.handle E ans { s with queue := queue } input) : s'.Backed := by
  obtain ⟨deleted, hcarries⟩ :=
    carries_handle E { s with queue := queue } input hsent hreceived
  rw [← h'] at hcarries
  refine ⟨hruns, fun line hline => ?_, fun p' hp' => ?_⟩
  · obtain hstored | ⟨hold, hkept⟩ := hcarries.shown line hline
    · exact hstored
    · have hmem : line ∈ s.lines := by
        rw [mem_lines] at hold ⊢
        refine hold.imp_right fun ⟨q, hq, hline⟩ => ⟨q, ?_, hline⟩
        obtain rfl | ⟨first, hfirst⟩ := hqueue
        · exact hq
        · rw [hfirst]
          exact List.mem_cons_of_mem _ hq
      exact (hcarries.stored line (h.stored hmem)).resolve_right hkept
  · obtain ⟨p, hp, htold⟩ | ⟨hprogram, hui⟩ := hcarries.pipelines p' hp'
    · exact (h.announces p hp).spares htold.program htold.ui ⟨deleted, htold.log, hcarries.stored⟩
    · exact Pipeline.announces_idle hprogram hui

/-- A step beside the app that tells it of no message keeps it so. -/
theorem Backed.beside {s s' : Sys ε} (h : s.Backed) (hruns : s'.Programs OrchestratorTask.Runs)
    (htalk : s'.talk = s.talk) (hdb : s'.db = s.db) {events : List InternalEvent}
    (hqueue : s'.queue = s.queue ++ events.map fun event => ⟨event, false⟩)
    (hsilent : ∀ event ∈ events, Queued.line ⟨event, false⟩ = none)
    (hpipelines : ∀ p ∈ s'.pipelines, p.Announces s.db) : s'.Backed := by
  refine ⟨hruns, ?_, hdb ▸ hpipelines⟩
  have hmessages : s'.app.chatView.messages = s.app.chatView.messages :=
    congrArg Talk.messages htalk
  have hlines : s'.lines = s.lines := by
    have hnone : (events.map fun event => (⟨event, false⟩ : Queued)).filterMap Queued.line = [] :=
      List.filterMap_eq_nil_iff.mpr fun q hq => by
        obtain ⟨event, hevent, rfl⟩ := List.mem_map.mp hq
        exact hsilent event hevent
    rw [lines, lines, hmessages, hqueue, List.filterMap_append, hnone, List.append_nil]
  rw [hlines, hdb]
  exact h.stored

/-- A step of a task keeps it so. -/
theorem Backed.orchestrator {s s' : Sys ε} {i : ℕ} {p : Pipeline ε} (h : s.Backed)
    (hruns : s'.Programs OrchestratorTask.Runs) (hp : s.pipelines[i]? = some p)
    (hfree : NoClash p.world.log s.db) (hpreview : ¬p.Previews s.db)
    (hstep : s.orchestratorStep i p = some s') : s'.Backed := by
  obtain ⟨⟨program, world⟩, hprogram, rfl⟩ := Option.map_eq_some_iff.mp hstep
  have hmem := List.mem_of_getElem? hp
  have hkept : s.db.lines ⊆ world.storage.lines :=
    ((h.runs p hmem).step hprogram).1.lines_subset
  obtain ⟨hannounced, hnext⟩ := (h.announces p hmem).meets.step
    ⟨.refl _, (h.announces p hmem).told, hfree⟩ hprogram
  refine ⟨hruns, fun line hline => ?_, fun q hq => ?_⟩
  · obtain ⟨m, hm, hline⟩ | ⟨q, hq, hline⟩ := mem_lines.mp hline
    · exact hkept (h.stored (mem_lines.mpr (.inl ⟨m, hm, hline⟩)))
    rcases List.mem_append.mp hq with hq | hq
    · exact hkept (h.stored (mem_lines.mpr (.inr ⟨q, hq, hline⟩)))
    -- the task has just announced it
    obtain ⟨event, hevent, rfl⟩ := List.mem_map.mp hq
    unfold Queued.line at hline
    split at hline
    · next peerId messageId text timestampMs heq hgone =>
      obtain rfl : event = _ := InternalEvent.bridge.inj heq
      obtain rfl := Option.some.inj hline
      obtain hstored | hdeleted | ⟨chatId, hlast⟩ := hannounced _ _ _ _ hevent
      · exact hstored
      · exact absurd hdeleted (of_decide_eq_false hgone)
      · exact absurd ⟨_, hprogram, _, hlast, rfl⟩ hpreview
    · cases hline
  · rcases List.mem_or_eq_of_mem_set hq with hq | rfl
    · refine (h.announces q hq).spares rfl rfl ⟨[], (List.append_nil _).symm, fun line hline => ?_⟩
      exact .inl (hkept hline)
    · exact ⟨rfl, OrchestratorTask.meets_of_spares hnext (.of_eq rfl rfl)⟩

/-- Every step that shows nothing but what is stored keeps it so. -/
theorem Backed.next (hsql : ∀ e, (E.core.sqlFails e).1 = false) {s s' : Sys ε} {a : Label ε}
    (h : s.Backed) (hkeeps : s.KeepsTranscript a) (hstep : step E s a = some s') : s'.Backed := by
  have hruns := h.runs.runs hstep
  cases step_kind hstep with
  | input ans input queue ha hqueue h' =>
    refine h.input hruns hqueue (fun contactId key hinput hsends => ?_)
      (fun event gone line hinput hline => ?_) h'
    · subst hinput
      cases ha
      exact hkeeps contactId hsends.2.2.2.2.2.2 hsends
    · subst hinput
      generalize hevent : Input.event event gone = input at ha
      cases ha with
      | key => cases hevent
      | @event q queue ans hq =>
        obtain ⟨rfl, rfl⟩ := Input.event.inj hevent
        exact h.stored (mem_lines.mpr (.inr ⟨q, hq ▸ List.mem_cons_self, hline⟩))
  | startup _ _ h' =>
    refine h.beside hruns h'.talk h'.db ?_ (List.forall_mem_nil _) ?_
    · rw [h'.queue, List.map_nil, List.append_nil]
    · rw [h'.pipelines]
      exact h.announces
  | behind _ _ h' =>
    obtain ⟨events, hno, hqueue⟩ := h'.queue
    refine h.beside hruns ?_ h'.db hqueue (fun event hevent => ?_) (h'.pipelines ▸ h.announces)
    · rw [talk, h'.app, h'.opened]
      rfl
    · unfold Queued.line
      split
      · next heq _ => exact absurd heq (hno event hevent _)
      · rfl
  | pipeline _ i hp hmove h' =>
    subst h'
    refine h.beside hruns rfl rfl rfl hmove.line_eq_none fun q hq => ?_
    rcases List.mem_or_eq_of_mem_set hq with hq | rfl
    · exact h.announces q hq
    · exact (h.announces _ (List.mem_of_getElem? hp)).move hsql hmove
  | orchestrator _ i hlabel hp h' =>
    subst hlabel
    obtain ⟨hfree, hpreview⟩ := hkeeps _ hp
    exact h.orchestrator hruns hp hfree hpreview h'

/-- A line stays stored until the user confirms the deletion of its contact. -/
theorem line_mem_next {s s' : Sys ε} {a : Label ε} {line : Line}
    (hs : s.Programs OrchestratorTask.Runs) (hno : ¬s.ConfirmsDeletion line.peerId a)
    (hline : line ∈ s.db.lines) (hstep : step E s a = some s') : line ∈ s'.db.lines := by
  cases step_kind hstep with
  | input ans input queue ha hqueue h' =>
    subst h'
    obtain hline | ⟨key, rfl, hconfirms⟩ :=
      App.lines_handle E ans { s with queue := queue } input hline
    · exact hline
    · cases ha
      exact absurd hconfirms hno
  | startup _ _ h' => exact h'.db ▸ hline
  | behind _ _ h' => exact h'.db ▸ hline
  | pipeline _ i hp hmove h' => exact h' ▸ hline
  | orchestrator _ i hlabel hp h' =>
    obtain ⟨⟨program, world⟩, hprogram, rfl⟩ := Option.map_eq_some_iff.mp h'
    exact ((hs _ (List.mem_of_getElem? hp)).step hprogram).1.lines_subset hline

/-! ### Opening a conversation again -/

/-- Opening a conversation shows its most recent rows. -/
theorem shown_openConversation {s : Sys ε} {row : StoredMessage} {contact : Contact}
    (hread : s.app.readStorage = true) (hans : ans.sqlFails .getMessages = false)
    (hcontact : contact.id = row.peerId) (hrow : row ∈ s.db.messages.rows)
    (hrecent : (s.db.asRecent row).length ≤ 50) :
    App.shownMessage row ∈ (App.openConversation ans contact s).app.chatView.messages := by
  have hmessages : (App.openConversation ans contact s).app.chatView.messages =
      App.history ans contact.id s := by
    simp [App.openConversation, App.history, modApp]
  have hhistory :
      App.history ans contact.id s = (s.db.getMessages row.peerId 50).map App.shownMessage := by
    unfold App.history
    rw [if_pos (by rw [hread, hans]; rfl), hcontact]
  rw [hmessages, hhistory]
  exact List.mem_map_of_mem (Storage.mem_getMessages hrow hrecent)

/-- **The transcript is shown again.** Let every step of a run show nothing but what is stored, and
let the database not fail. Then whatever was on screen of a contact at any time has a row of that
contact with the same text and direction, until the user confirms the contact's deletion; and if the
row is among the 50 most recent ones, opening the conversation shows it. -/
theorem transcript_reopened (hsql : ∀ e, (E.core.sqlFails e).1 = false) {cfg : AppConfig}
    {dir : ConfigDir} {db : Storage} {before since : List (Label ε)} {t u : Sys ε}
    (hkeeps : Run.Along (step E) KeepsTranscript (start ε cfg dir db) (before ++ since))
    (ht : Run.after (step E) (start ε cfg dir db) before = some t)
    (hu : Run.after (step E) t since = some u) {m : ChatMessage} {contactId : String}
    (hm : m ∈ t.app.chatView.messages) (hpeer : m.peer = some contactId) (hgone : m.gone = false)
    (hno : Run.Along (step E) (fun s a => ¬s.ConfirmsDeletion contactId a) t since) :
    ∃ row ∈ u.db.messages.rows, row.peerId = contactId ∧ row.text = m.text ∧
      (App.shownMessage row).kind = m.kind ∧
      ((u.db.asRecent row).length ≤ 50 → u.app.readStorage = true →
        ∀ ans : Answers ε, ans.sqlFails .getMessages = false → ∀ contact : Contact,
          contact.id = contactId →
          App.shownMessage row ∈ (App.openConversation ans contact u).app.chatView.messages) := by
  have hbacked : t.Backed := Run.invariant_along (fun _ _ _ h hk hstep => h.next hsql hk hstep)
    (backed_start cfg dir db) (hkeeps.of_isPrefix (List.prefix_append before since)) ht
  let line : Line := ⟨m.kind, contactId, m.text⟩
  have hline : m.line = some line := by
    unfold ChatMessage.line
    rw [hgone, hpeer]
    rfl
  have hstored : line ∈ t.db.lines := hbacked.stored (mem_lines.mpr (.inl ⟨m, hm, hline⟩))
  have hstays (s : Sys ε) (a : Label ε) (s' : Sys ε)
      (h : s.Programs OrchestratorTask.Runs ∧ line ∈ s.db.lines)
      (hno : ¬s.ConfirmsDeletion line.peerId a) (hstep : step E s a = some s') :
      s'.Programs OrchestratorTask.Runs ∧ line ∈ s'.db.lines :=
    ⟨h.1.runs hstep, line_mem_next h.1 hno h.2 hstep⟩
  have hlater := Run.invariant_along hstays ⟨hbacked.runs, hstored⟩ hno hu
  obtain ⟨row, hrow, heq⟩ := List.mem_map.mp hlater.2
  obtain ⟨hkind, hpeerId, htext⟩ := Line.mk.inj heq
  refine ⟨row, hrow, hpeerId, htext, hkind, fun hrecent hread ans hans contact hcontact => ?_⟩
  exact shown_openConversation hread hans (hcontact.trans hpeerId.symm) hrow hrecent

/-! ### A message that is received, and one that is sent -/

/-- The user opens the conversation with the first contact instead of the second. -/
def opensFirst : List (Label Unit) :=
  [.key (.plain .esc) .quiet, .key (.plain .up) .quiet, .key (.plain .enter) .quiet]

/-- The second contact has written `hi`, and the message is on screen. -/
def heardSecond : List (Label Unit) :=
  registers ++ connects ++ opensSecond ++ receives "bob" "m1" "hi"

/-- A message that was received is shown again after another conversation was opened. -/
theorem transcript_reopened_heard :
    ∃ row ∈ (Run.ending (step .decrypting) acquainted (heardSecond ++ opensFirst)).db.messages.rows,
      row.text = "hi" ∧
      App.shownMessage row ∈ (App.openConversation Answers.quiet ⟨"bob", "bob", 0, none⟩
        (Run.ending (step .decrypting) acquainted
          (heardSecond ++ opensFirst))).app.chatView.messages := by
  have ht : Run.after (step .decrypting) acquainted heardSecond =
      some (Run.ending (step .decrypting) acquainted heardSecond) :=
    Run.after_ending_nil (by decide +kernel)
  have hu : Run.after (step .decrypting) (Run.ending (step .decrypting) acquainted heardSecond)
      opensFirst = some (Run.ending (step .decrypting) acquainted (heardSecond ++ opensFirst)) :=
    Run.after_ending (by decide +kernel)
  have hm : (⟨"m", .received, "hi", "00:00", some "bob", false⟩ : ChatMessage) ∈
      (Run.ending (step .decrypting) acquainted heardSecond).app.chatView.messages := by
    decide +kernel
  obtain ⟨row, hrow, hpeer, htext, -, hopens⟩ := transcript_reopened (fun _ => rfl)
    (by decide +kernel) ht hu hm rfl rfl (by decide +kernel)
  have hrows : (Run.ending (step .decrypting) acquainted
      (heardSecond ++ opensFirst)).db.messages.rows.length = 1 := by decide +kernel
  refine ⟨row, hrow, htext, hopens ?_ (by decide +kernel) .quiet rfl _ rfl⟩
  have hrecent := List.length_filter_le (fun m : StoredMessage =>
    m.peerId = row.peerId ∧ row.timestampMs ≤ m.timestampMs)
      (Run.ending (step .decrypting) acquainted
      (heardSecond ++ opensFirst)).db.messages.rows
  rw [hrows] at hrecent
  exact hrecent.trans (by decide)

end Sys

/-- Surroundings in which there are sessions, and the core asks to persist whatever is sent. -/
def AppExternals.recording : AppExternals Unit :=
  { AppExternals.quiet with
    core := { Externals.quiet with
      hasActiveSession := fun _ _ => true
      handleEvent := fun event _ => (match event with
        | .outgoingMessage contactId messageId plaintext _ =>
          [.persistMessage "hi", .sendEncryptedMessage contactId plaintext messageId 0]
        | _ => [], ()) } }

namespace Sys

/-- The user types `hi` to the second contact and sends it. -/
def writesSecond : List (Label Unit) :=
  registers ++ connects ++ opensSecond ++
    [presses 'i', presses 'h', presses 'i', .key (.plain .enter) .quiet]

/-- The task handles all that waits for it, the message last. -/
def handlesFour : List (Label Unit) :=
  [3, 3, 5, 6].flatMap fun n => .take 0 false :: List.replicate n (.orchestrator 0)

/-- A message that was sent is handed to the stream, and the core's record of it is kept, but no row
is stored: nothing is shown when the conversation is opened again. -/
theorem sent_message_lost : ∃ t u,
    Run.after (step .recording) acquainted writesSecond = some t ∧
      ⟨"m", .sent, "hi", "00:00", some "bob", false⟩ ∈ t.app.chatView.messages ∧
      Run.after (step .recording) t handlesFour = some u ∧
      Run.Along (step .recording) (fun s a => ¬s.ConfirmsDeletion "bob" a) t handlesFour ∧
      u.pipelines.map (fun p => (p.world.selfTx, p.world.streamTx.length)) = [([], 1)] ∧
      u.db.records = [("msg", "hi")] ∧ u.app.readStorage = true ∧ u.db.messages.rows = [] ∧
      (App.openConversation Answers.quiet ⟨"bob", "bob", 0, none⟩ u).app.chatView.messages = [] :=
  ⟨_, _, Run.after_ending_nil (by decide +kernel), by decide +kernel,
    Run.after_ending (by decide +kernel), by decide +kernel, by decide +kernel, by decide +kernel,
    by decide +kernel, by decide +kernel, by decide +kernel⟩

end Sys
