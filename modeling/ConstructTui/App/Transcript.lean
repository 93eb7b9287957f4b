import ConstructTui.App.Announcements
import ConstructTui.App.Edits
import ConstructTui.App.RestoredSessions

/-!
# Lines on screen and in the database

What is on screen of a conversation, or on the way there, are lines, and so are the rows of the
database. A line that an input of the app brings on screen is a row of the history, an event of the
queue or a text that the user has typed; a line that the app loses is one of a contact whose
deletion the user has confirmed.

## Main definitions

* `ChatMessage.line`, `Queued.line`, `Sys.lines`: the lines on screen and on the way there.
* `Sys.SendsTo`: the user sends a text.
* `Sys.Carries`: no line is lost but of some contacts, and no line is new that is not stored.

## Main results

* `App.messagesKept_handle`: only a confirmed deletion touches the messages.
* `Sys.carries_handle`: what an input does to the lines and to the pipelines.
-/

variable {ε : Type} {E : AppExternals ε} {ans : Answers ε}

/-! ### What an input does to the messages -/

namespace App

/-- The messages are as they were, or the input confirmed a deletion. -/
def MessagesKept (ans : Answers ε) (s : Sys ε) (input : Input) (s' : Sys ε) : Prop :=
  s'.db.messages = s.db.messages ∨ ∃ contactId key, input = .key key ∧
    s.ConfirmsDeletion contactId (.key key ans) ∧ s' = confirmDelete ans s

variable (ans) in
theorem messages_finishAddContact (userId username : String) (s : Sys ε) :
    (finishAddContact ans userId username s).db.messages = s.db.messages := by
  obtain ⟨t, u, ht, hu, -, heq⟩ := finishAddContact_eq ans userId username s
  rw [heq]
  show u.db.messages = _
  rw [hu, Sys.db_orchSend, (rest_resubscribe ans t).db, ht]
  dsimp only
  split <;> rfl

variable (E ans) in
/-- Only a confirmed deletion touches the messages. -/
theorem messagesKept_handle (s : Sys ε) (input : Input) :
    MessagesKept ans s input (handle E ans s input) := by
  cases edit_handle E ans s input with
  | kept _ _ hdb => exact .inl (congrArg Storage.messages hdb)
  | started hmove => exact .inl (congrArg Storage.messages hmove.db)
  | loggedOut hmove =>
    refine .inl ?_
    obtain hdb | hdb := hmove.db <;> rw [hdb]
    rfl
  | added userId username _ h =>
    rw [h]
    exact .inl (messages_finishAddContact ans userId username s)
  | deleted contactId key hinput hconfirm h => exact .inr ⟨contactId, key, hinput, hconfirm, h⟩

end App

/-! ### Lines -/

/-- The line of a message on screen, unless its contact was deleted after it had been stored. -/
def ChatMessage.line (m : ChatMessage) : Option Line :=
  if m.gone then none else m.peer.map fun peerId => ⟨m.kind, peerId, m.text⟩

/-- The line that an event brings on screen. -/
def Queued.line (q : Queued) : Option Line :=
  match q.event, q.gone with
  | .bridge (.newMessage peerId _ text _), false => some ⟨.received, peerId, text⟩
  | _, _ => none

/-- The lines on screen and on the way there. -/
def Sys.lines (s : Sys ε) : List Line :=
  s.app.chatView.messages.filterMap ChatMessage.line ++ s.queue.filterMap Queued.line

/-- A row is shown as its line. -/
theorem line_shownMessage (m : StoredMessage) : (App.shownMessage m).line = some m.line := rfl

namespace Sys

theorem mem_lines {s : Sys ε} {line : Line} : line ∈ s.lines ↔
    (∃ m ∈ s.app.chatView.messages, m.line = some line) ∨ ∃ q ∈ s.queue, q.line = some line := by
  unfold lines
  rw [List.mem_append, List.mem_filterMap, List.mem_filterMap]

/-- What is marked loses its line. -/
theorem mem_lines_markGone {contactId : String} {s : Sys ε} {line : Line}
    (h : line ∈ (App.markGone contactId s).lines) : line ∈ s.lines ∧ line.peerId ≠ contactId := by
  rw [mem_lines] at h ⊢
  obtain ⟨m', hm', hline⟩ | ⟨q', hq', hline⟩ := h
  · obtain ⟨m, hm, rfl⟩ := List.mem_map.mp hm'
    obtain ⟨hgone, hpeer⟩ := Option.ite_none_left_eq_some.mp hline
    rw [Bool.or_eq_true, not_or, decide_eq_true_iff] at hgone
    have hsame : m.line = some line := (if_neg hgone.1).trans hpeer
    obtain ⟨peerId, hp, rfl⟩ := Option.map_eq_some_iff.mp hpeer
    exact ⟨.inl ⟨m, hm, hsame⟩, fun h => hgone.2 (hp.trans (congrArg some h))⟩
  · obtain ⟨⟨event, gone⟩, hq, rfl⟩ := List.mem_map.mp hq'
    unfold Queued.line at hline
    split at hline
    · next peerId messageId text timestampMs hevent hgone =>
      obtain rfl : event = _ := hevent
      obtain rfl := Option.some.inj hline
      obtain ⟨hgone, hne⟩ := Bool.or_eq_false_iff.mp hgone
      obtain rfl : gone = false := hgone
      exact ⟨.inr ⟨_, hq, rfl⟩, of_decide_eq_false hne⟩
    · cases hline

end Sys

namespace App

variable (ans) in
/-- A deletion takes lines of its contact only. -/
theorem lines_deleteContact (userId : String) {db : Storage} {line : Line} (h : line ∈ db.lines) :
    line ∈ (deleteContact ans userId db).2.lines ∨ line.peerId = userId := by
  have hdelete : line ∈ (Storage.deleteContactMessages userId db).lines ∨ line.peerId = userId := by
    obtain ⟨m, hm, rfl⟩ := List.mem_map.mp h
    by_cases hpeer : m.peerId = userId
    · exact .inr hpeer
    · exact .inl (List.mem_map_of_mem (Table.mem_deleteWhere.mpr ⟨hm, decide_eq_false hpeer⟩))
  obtain ⟨-, hdel⟩ | ⟨-, ⟨-, hdel⟩ | ⟨-, ⟨-, hdel⟩ | ⟨-, hdel⟩⟩⟩ :=
    deleteContact_cases ans userId db <;> rw [hdel]
  · exact .inl h
  · exact .inl h
  · exact hdelete
  · exact hdelete

/-- Lines are lost only while the user is asked whether to delete their contact. -/
theorem lines_of_change {s s' : Sys ε} {input : Input} (h : Change ans s input s') {line : Line}
    (hline : line ∈ s.db.lines) :
    line ∈ s'.db.lines ∨ s.app.deleteConfirm = some line.peerId := by
  obtain ⟨base, hrest, hbase⟩ := h.rest
  rw [hrest.db]
  obtain rfl | ⟨contact, rfl⟩ | ⟨peerId, hask, rfl⟩ := hbase
  · exact .inl hline
  · exact .inl hline
  · rw [hask]
    obtain h | ⟨-, -, h⟩ := deleteRows_cases ans peerId s.answered
    · rw [h]
      exact .inl hline
    · rw [h]
      exact (lines_deleteContact ans peerId hline).imp_right fun hpeer => by rw [hpeer]

variable (E ans) in
/-- Only a confirmed deletion takes lines, and only those of its contact. -/
theorem lines_handle (s : Sys ε) (input : Input) {line : Line} (hline : line ∈ s.db.lines) :
    line ∈ (handle E ans s input).db.lines ∨
      ∃ key, input = .key key ∧ s.ConfirmsDeletion line.peerId (.key key ans) := by
  obtain hsame | ⟨contactId, key, rfl, hconfirms, heq⟩ := messagesKept_handle E ans s input
  · exact .inl (Storage.lines_of_eq hsame ▸ hline)
  · rw [heq]
    have hchange : Change ans s (.key key) (confirmDelete ans s) := change_confirmDelete ans
    refine (lines_of_change hchange hline).imp_right fun hask => ?_
    obtain rfl : contactId = line.peerId :=
      Option.some.inj (hconfirms.2.2.2.symm.trans hask)
    exact ⟨key, rfl, hconfirms⟩

end App

/-! ### What an input does to them -/

/-- A pipeline that may have been given inputs, and that was told of the deletions. -/
structure Pipeline.Told (deleted : List String) (p p' : Pipeline ε) : Prop where
  program : p'.program = p.program
  ui : p'.world.ui = p.world.ui
  log : p'.world.log = p.world.log ++ deleted.map .contactDeleted

namespace Pipeline.Told

variable {deleted : List String} {p q r : Pipeline ε}

theorem refl (p : Pipeline ε) : p.Told [] p := ⟨rfl, rfl, (List.append_nil _).symm⟩

/-- The inputs it is given afterwards do not matter. -/
theorem fed (h : p.Told deleted q) (hfed : q.Fed r) : p.Told deleted r := by
  obtain ⟨selfTx, streamTx, hworld⟩ := hfed.world
  exact ⟨hfed.program.trans h.program, by rw [hworld]; exact h.ui, by rw [hworld]; exact h.log⟩

end Pipeline.Told

/-- No line is lost but of the contacts deleted, every line is an old one or stored, and new
pipelines have nothing under way. -/
structure Sys.Carries (deleted : List String) (s s' : Sys ε) : Prop where
  stored : ∀ line ∈ s.db.lines, line ∈ s'.db.lines ∨ line.peerId ∈ deleted
  shown : ∀ line ∈ s'.lines, line ∈ s'.db.lines ∨ line ∈ s.lines ∧ line.peerId ∉ deleted
  pipelines : ∀ p' ∈ s'.pipelines, (∃ p ∈ s.pipelines, p.Told deleted p') ∨
    p'.program = .ret () ∧ p'.world.ui = []

theorem exists_mem_of_forall₂ {α β : Type*} {R : α → β → Prop} {as : List α} {bs : List β}
    (h : List.Forall₂ R as bs) {b : β} (hb : b ∈ bs) : ∃ a ∈ as, R a b := by
  obtain ⟨i, hi, rfl⟩ := List.mem_iff_getElem.mp hb
  have hi' : i < as.length := h.length_eq ▸ hi
  exact ⟨as[i], List.getElem_mem hi', h.get hi' hi⟩

namespace Sys

theorem Carries.refl (s : Sys ε) : s.Carries [] s where
  stored _ := .inl
  shown _ h := .inr ⟨h, List.not_mem_nil⟩
  pipelines p hp := .inl ⟨p, hp, .refl p⟩

/-- The messages of the database are as they were. -/
theorem carries_db {s : Sys ε} {db : Storage} (hlines : db.lines = s.db.lines) :
    s.Carries [] { s with db := db } where
  stored line hline := .inl (show line ∈ db.lines from hlines ▸ hline)
  shown _ hline := .inr ⟨hline, List.not_mem_nil⟩
  pipelines := (Carries.refl s).pipelines

/-- Nothing but the talk changes after that. -/
theorem Carries.rest {deleted : List String} {s t s' : Sys ε} (h : s.Carries deleted t)
    (hrest : Rest t s') (hshown : ∀ m ∈ s'.talk.messages, ∀ line, m.line = some line →
      line ∈ t.db.lines ∨ m ∈ t.talk.messages) : s.Carries deleted s' where
  stored line hline := by
    rw [hrest.db]
    exact h.stored line hline
  shown line hline := by
    rw [hrest.db]
    obtain ⟨m, hm, hline⟩ | ⟨q, hq, hline⟩ := mem_lines.mp hline
    · obtain hstored | hm := hshown m hm line hline
      · exact .inl hstored
      · exact h.shown line (mem_lines.mpr (.inl ⟨m, hm, hline⟩))
    · exact h.shown line (mem_lines.mpr (.inr ⟨q, hrest.queue ▸ hq, hline⟩))
  pipelines p' hp' := by
    obtain ⟨q, hq, hfed⟩ := exists_mem_of_forall₂ hrest.fed hp'
    obtain ⟨p, hp, htold⟩ | ⟨hprogram, hui⟩ := h.pipelines q hq
    · exact .inl ⟨p, hp, htold.fed hfed⟩
    · obtain ⟨selfTx, streamTx, hworld⟩ := hfed.world
      exact .inr ⟨hfed.program.trans hprogram, by rw [hworld]; exact hui⟩

variable (ans) in
/-- Deleting the rows of a contact takes its lines, and the pipelines are told. -/
theorem carries_deleteRows (contactId : String) (s : Sys ε) :
    ∃ deleted, s.Carries deleted (App.deleteRows ans contactId s.answered).2 := by
  obtain h | ⟨-, -, h⟩ := App.deleteRows_cases ans contactId s.answered
  · rw [h]
    exact ⟨[], (Carries.refl s).stored, (Carries.refl s).shown, (Carries.refl s).pipelines⟩
  · rw [h]
    refine ⟨[contactId], fun line hline => ?_, fun line hline => .inr ?_, fun p' hp' => .inl ?_⟩
    · rw [List.mem_singleton]
      exact App.lines_deleteContact ans contactId hline
    · rw [List.mem_singleton]
      exact mem_lines_markGone hline
    · obtain ⟨p, hp, rfl⟩ := List.mem_map.mp hp'
      exact ⟨p, hp, rfl, rfl, rfl⟩

/-- The user sends a text in the open conversation. -/
def SendsTo (s : Sys ε) (contactId : String) : Label ε → Prop
  | .key key _ => s.app.screen = .main ∧ key.isPress ∧ key.code = .enter ∧
      s.app.deleteConfirm = none ∧ s.app.focus = .compose ∧
      trimChars s.app.chatView.compose ≠ [] ∧ s.opened = some contactId
  | _ => False

instance (s : Sys ε) (contactId : String) : (a : Label ε) → Decidable (s.SendsTo contactId a)
  | .key key _ => inferInstanceAs (Decidable (s.app.screen = .main ∧ key.isPress ∧
      key.code = .enter ∧ s.app.deleteConfirm = none ∧ s.app.focus = .compose ∧
      trimChars s.app.chatView.compose ≠ [] ∧ s.opened = some contactId))
  | .startup _ | .internal _ | .tick | .registrationStep _ _ | .request _ _ _ | .finish _ _ _
  | .worker _ _ | .relay _ | .take _ _ | .orchestrator _ | .subTask _ _ _ =>
    inferInstanceAs (Decidable False)

/-- The line it is shown as. -/
def typed (s : Sys ε) (contactId : String) : Line :=
  ⟨.sent, contactId, String.ofList s.app.chatView.compose⟩

/-- The rows of a conversation are stored. -/
theorem line_mem_of_mem_history {contactId : String} {s : Sys ε} {m : ChatMessage} {line : Line}
    (h : m ∈ App.history ans contactId s) (hline : m.line = some line) : line ∈ s.db.lines := by
  unfold App.history at h
  split at h
  · obtain ⟨row, hrow, rfl⟩ := List.mem_map.mp h
    rw [line_shownMessage] at hline
    exact Option.some.inj hline ▸ List.mem_map_of_mem (Storage.mem_of_mem_getMessages hrow).1
  · cases h

/-- What an input brings on screen is stored, if what it was told or given is. -/
theorem carries_change {s s' : Sys ε} {input : Input} (h : Change ans s input s')
    (hsent : ∀ contactId key, input = .key key → s.SendsTo contactId (.key key ans) →
      s.typed contactId ∈ s.db.lines)
    (hreceived : ∀ event gone line, input = .event event gone →
      Queued.line ⟨event, gone⟩ = some line → line ∈ s.db.lines) :
    ∃ deleted, s.Carries deleted s' := by
  have hold {t : Sys ε} {deleted : List String} (hcarries : s.Carries deleted t) (hrest : Rest t s')
      (hmessages : s'.talk.messages ⊆ t.talk.messages) : ∃ deleted, s.Carries deleted s' :=
    ⟨deleted, hcarries.rest hrest fun m hm _ _ => .inr (hmessages hm)⟩
  have hdelete {peerId : String} {result : Except String Unit} {base : Sys ε}
      (hrows : App.deleteRows ans peerId s.answered = (result, base)) :
      ∃ deleted, s.Carries deleted base := by
    have hcarries := carries_deleteRows ans peerId s
    rwa [hrows] at hcarries
  cases h with
  | talked htalk hrest =>
    refine hold (.refl s) hrest ?_
    generalize s'.talk = t at htalk
    cases htalk <;> exact List.Subset.refl _
  | opened c hask hsel htalk hrest =>
    refine ⟨[], (Carries.refl s).rest hrest fun m hm line hline => .inl ?_⟩
    rw [htalk] at hm
    exact line_mem_of_mem_history hm hline
  | sent text hfocus hask htext hblank hinput htalk hrest =>
    refine ⟨[], (Carries.refl s).rest hrest fun m hm line hline => ?_⟩
    rw [htalk] at hm
    rcases List.mem_append.mp hm with hm | hm
    · exact .inr hm
    · obtain rfl := List.mem_singleton.mp hm
      obtain ⟨contactId, hopened, rfl⟩ := Option.map_eq_some_iff.mp hline
      obtain ⟨hscreen, key, hkey, hpress, hcode⟩ := hinput
      subst htext
      rw [String.toList_ofList] at hblank
      exact .inl (hsent contactId key hkey ⟨hscreen, hpress, hcode, hask, hfocus, hblank, hopened⟩)
  | received peerId messageId text timestampMs gone hinput htalk hrest =>
    refine ⟨[], (Carries.refl s).rest hrest fun m hm line hline => ?_⟩
    rw [htalk] at hm
    rcases List.mem_append.mp hm with hm | hm
    · exact .inr hm
    · obtain rfl := List.mem_singleton.mp hm
      refine .inl (hreceived _ gone line hinput ?_)
      cases gone with
      | true => cases hline
      | false => exact hline
  | added contact db hdb hinput htalk hrest =>
    have hlines : db.lines = s.db.lines := by
      obtain rfl | rfl := hdb <;> rfl
    refine hold (carries_db hlines) hrest ?_
    rw [htalk]
    exact List.Subset.refl _
  | deleteFailed peerId e base hask hrows htalk hrest =>
    obtain ⟨deleted, hcarries⟩ := hdelete hrows
    refine hold hcarries hrest ?_
    rw [htalk]
    exact List.Subset.refl _
  | deleted peerId base list hask hrows hlist htalk hrest =>
    obtain ⟨deleted, hcarries⟩ := hdelete hrows
    refine hold hcarries hrest ?_
    obtain ⟨htalk, -⟩ | htalk := htalk
    · rw [htalk]
      exact List.Subset.refl _
    · rw [htalk]
      exact List.nil_subset _

theorem carries_started {s s' : Sys ε} (h : Started E ans s s') : s.Carries [] s' where
  stored line hline := by
    rw [h.db]
    exact .inl hline
  shown line hline := by
    refine .inr ⟨?_, List.not_mem_nil⟩
    have hmessages : s'.app.chatView.messages = s.app.chatView.messages :=
      congrArg Talk.messages h.talk
    rw [lines, hmessages, h.queue] at hline
    exact hline
  pipelines p' hp' := by
    obtain ⟨userId, deviceId, contactIds, identitySecret, core, hpipelines⟩ := h.pipelines
    rw [hpipelines] at hp'
    rcases List.mem_append.mp hp' with hp' | hp'
    · exact .inl ⟨p', hp', .refl p'⟩
    · rw [List.mem_singleton.mp hp']
      exact .inr ⟨rfl, rfl⟩

/-- A logout empties the view; one pipeline may be told to shut down. -/
theorem carries_loggedOut {s s' : Sys ε} (h : LoggedOut ans s s') : s.Carries [] s' where
  stored line hline := by
    obtain hdb | hdb := h.db <;> rw [hdb] <;> exact .inl hline
  shown line hline := by
    have hmessages : s'.app.chatView.messages = [] := congrArg Talk.messages h.talk
    rw [lines, hmessages, h.queue, List.filterMap_nil, List.nil_append] at hline
    exact .inr ⟨List.mem_append_right _ hline, List.not_mem_nil⟩
  pipelines p' hp' := by
    rw [h.pipelines] at hp'
    refine .inl ?_
    unfold streamTrySend at hp'
    split at hp'
    · exact ⟨p', hp', .refl p'⟩
    · split at hp'
      · obtain ⟨j, hj⟩ := List.mem_iff_getElem?.mp hp'
        rw [List.getElem?_modify] at hj
        obtain ⟨p, hp, rfl⟩ := Option.map_eq_some_iff.mp hj
        refine ⟨p, List.mem_of_getElem? hp, ?_⟩
        split
        · exact ⟨rfl, rfl, (List.append_nil _).symm⟩
        · exact .refl p
      · exact ⟨p', hp', .refl p'⟩

variable (E) in
/-- What an input brings on screen is stored, if what it was told or given is. -/
theorem carries_handle (s : Sys ε) (input : Input)
    (hsent : ∀ contactId key, input = .key key → s.SendsTo contactId (.key key ans) →
      s.typed contactId ∈ s.db.lines)
    (hreceived : ∀ event gone line, input = .event event gone →
      Queued.line ⟨event, gone⟩ = some line → line ∈ s.db.lines) :
    ∃ deleted, s.Carries deleted (App.handle E ans s input) := by
  cases App.handle_move E ans s input with
  | started _ h => exact ⟨[], carries_started h⟩
  | loggedOut _ h => exact ⟨[], carries_loggedOut h⟩
  | changed _ _ h => exact carries_change h hsent hreceived

end Sys
