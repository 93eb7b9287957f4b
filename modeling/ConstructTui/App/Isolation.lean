import ConstructTui.App.Runs

/-!
# Messages of the open conversation

A received message on screen comes from the history of the conversation that was opened, or it
arrived since. The history has rows of one peer only; an arriving message is shown whatever
conversation is open.

## Main definitions

* `Sys.Isolated`: every received message on screen is from the contact whose conversation is open.
* `Sys.deliversOpen`: the steps that deliver no message from anybody else.

## Main results

* `Sys.isolated_iff`: the runs in which the view never shows anybody else's message.
* `Sys.message_in_wrong_conversation`: a run in which it does.
-/

variable {ε : Type} {E : AppExternals ε} {ans : Answers ε}

/-- A message that nobody else than the contact can have written. -/
def ChatMessage.From (opened : Option String) (m : ChatMessage) : Prop :=
  m.kind = .received → ∃ c, opened = some c ∧ m.peer = some c

/-- The messages are from the contact whose conversation is open, if they were received. -/
def Talk.Isolated (t : Talk) : Prop := ∀ m ∈ t.messages, m.From t.opened

def Sys.Isolated (s : Sys ε) : Prop := s.talk.Isolated

/-- No message is delivered but of the contact whose conversation is open. -/
def Sys.deliversOpen (s : Sys ε) (a : Label ε) : Bool :=
  match a, s.queue with
  | .internal _, ⟨.bridge (.newMessage peerId _ _ _), _⟩ :: _ => s.opened = some peerId
  | _, _ => true

theorem Sys.deliversOpen_iff {s : Sys ε} {a : Label ε} :
    s.deliversOpen a ↔ ∀ ans peerId messageId text timestampMs gone,
      s.Takes a ans (.event (.bridge (.newMessage peerId messageId text timestampMs)) gone) →
        s.opened = some peerId := by
  unfold Sys.deliversOpen
  split
  · next ans peerId messageId text timestampMs gone queue hqueue =>
    rw [decide_eq_true_iff]
    constructor
    · intro h ans' peerId' messageId' text' timestampMs' gone' ha
      have hinput := (ha.unique (.event ans hqueue)).2
      simp only [Input.event.injEq, InternalEvent.bridge.injEq,
        BridgeEvent.newMessage.injEq] at hinput
      rw [h, hinput.1.1]
    · exact fun h => h ans peerId messageId text timestampMs gone (.event ans hqueue)
  · next hno =>
    refine iff_of_true rfl fun ans peerId messageId text timestampMs gone ha => ?_
    generalize hinput :
      Input.event (.bridge (.newMessage peerId messageId text timestampMs)) gone = input at ha
    cases ha with
    | key key ans => cases hinput
    | @event q queue ans hqueue =>
      obtain ⟨event, gone'⟩ := q
      obtain ⟨rfl, rfl⟩ := Input.event.inj hinput
      exact (hno ans peerId messageId text timestampMs gone queue rfl hqueue).elim

/-- The history of a conversation is all of one peer. -/
theorem peer_of_mem_history {contactId : String} {s : Sys ε} {m : ChatMessage}
    (h : m ∈ App.history ans contactId s) : m.peer = some contactId := by
  unfold App.history at h
  split at h
  · obtain ⟨row, hrow, rfl⟩ := List.mem_map.mp h
    exact congrArg some (Storage.mem_of_mem_getMessages hrow).2
  · cases h

namespace Talk.Isolated

/-- Only the kinds and the peers of the messages matter. -/
theorem congr {t t' : Talk} (h : t.Isolated) (hopened : t'.opened = t.opened)
    (hm : t'.messages.map (fun m => (m.kind, m.peer)) =
      t.messages.map fun m => (m.kind, m.peer)) : t'.Isolated := by
  intro m' hm'
  have hmem : (m'.kind, m'.peer) ∈ t.messages.map fun m => (m.kind, m.peer) :=
    hm ▸ List.mem_map_of_mem hm'
  obtain ⟨m, hm, heq⟩ := List.mem_map.mp hmem
  obtain ⟨hkind, hpeer⟩ := Prod.mk.inj heq
  unfold ChatMessage.From
  rw [hopened, ← hkind, ← hpeer]
  exact h m hm

theorem talkMove {t t' : Talk} (h : t.Isolated) (hmove : TalkMove t t') : t'.Isolated := by
  cases hmove <;> exact h

/-- A change of the talk keeps it isolated if what arrives belongs there. -/
theorem change {s s' : Sys ε} {input : Input} (h : s.Isolated) (hmove : Change ans s input s')
    (harrives : ∀ peerId messageId text timestampMs gone,
      input = .event (.bridge (.newMessage peerId messageId text timestampMs)) gone →
        s.opened = some peerId) : s'.Isolated := by
  unfold Sys.Isolated
  cases hmove with
  | talked htalk hrest => exact h.talkMove htalk
  | opened c hask hsel htalk hrest =>
    rw [htalk]
    exact fun m hm _ => ⟨c.id, rfl, peer_of_mem_history hm⟩
  | sent text hfocus hask htext hblank hinput htalk hrest =>
    rw [htalk]
    intro m hm
    rcases List.mem_append.mp hm with hm | hm
    · exact h m hm
    · rw [List.mem_singleton.mp hm]
      exact fun hkind => MessageKind.noConfusion hkind
  | received peerId messageId text timestampMs gone hinput htalk hrest =>
    rw [htalk]
    intro m hm
    rcases List.mem_append.mp hm with hm | hm
    · exact h m hm
    · rw [List.mem_singleton.mp hm]
      exact fun _ => ⟨peerId, harrives _ _ _ _ _ hinput, rfl⟩
  | added contact db hdb hinput htalk hrest =>
    rw [htalk]
    exact h
  | deleteFailed peerId e base hask hrows htalk hrest =>
    obtain ⟨messages, hbase, hm⟩ := App.talk_deleteRows ans peerId s.answered
    rw [hrows] at hbase
    rw [htalk, hbase]
    exact h.congr rfl hm
  | deleted peerId base list hask hrows hlist htalk hrest =>
    obtain ⟨messages, hbase, hm⟩ := App.talk_deleteRows ans peerId s.answered
    rw [hrows] at hbase
    obtain ⟨htalk, -⟩ | htalk := htalk
    · rw [htalk, hbase]
      exact h.congr rfl hm
    · rw [htalk]
      exact fun m hm => by cases hm

end Talk.Isolated

namespace Sys

theorem isolated_start (cfg : AppConfig) (dir : ConfigDir) (db : Storage) :
    (start ε cfg dir db).Isolated := fun m hm => by cases hm

/-- A step that delivers nobody else's message keeps the view isolated. -/
theorem Isolated.next {s s' : Sys ε} {a : Label ε} (h : s.Isolated) (hs : step E s a = some s')
    (hG : s.deliversOpen a) : s'.Isolated := by
  obtain ⟨ans, input, queue, ha, hmove⟩ | ⟨-, haside⟩ := step_cases hs
  · cases hmove with
    | started hinput hmove =>
      unfold Isolated
      rw [hmove.talk]
      exact h
    | loggedOut hinput hmove =>
      unfold Isolated
      rw [hmove.talk]
      exact fun m hm => by cases hm
    | changed hstart hlogout hmove =>
      refine Talk.Isolated.change (s := { s with queue := queue }) h hmove ?_
      rintro peerId messageId text timestampMs gone rfl
      exact deliversOpen_iff.mp hG ans peerId messageId text timestampMs gone ha
  · unfold Isolated
    rw [haside.talk]
    exact h

/-- A message of somebody else breaks the isolation at once. -/
theorem Isolated.deliversOpen {s s' : Sys ε} {a : Label ε} (hs : step E s a = some s')
    (h : s'.Isolated) : s.deliversOpen a := by
  refine deliversOpen_iff.mpr ?_
  intro ans peerId messageId text timestampMs gone ha
  obtain ⟨queue, -, rfl⟩ := step_of_takes ha hs
  have htalk := App.talk_newMessage ans peerId messageId text timestampMs gone
    { s with queue := queue }
  have hmem : receivedMessage ans peerId text gone ∈
      (App.handleBridgeEvent ans (.newMessage peerId messageId text timestampMs) gone
        { s with queue := queue }).talk.messages := by
    rw [htalk]
    exact List.mem_append_right _ (List.mem_singleton_self _)
  obtain ⟨c, hopened, hpeer⟩ := h _ hmem rfl
  exact hopened.trans hpeer.symm

/-- Throughout a run every received message on screen is from the contact whose conversation is
open, if and only if every message arrives while the conversation of its sender is open. -/
theorem isolated_iff (E : AppExternals ε) {cfg : AppConfig} {dir : ConfigDir} {db : Storage}
    {as : List (Label ε)} {s : Sys ε} (h : Run.after (step E) (start ε cfg dir db) as = some s) :
    Run.Always (step E) Isolated (start ε cfg dir db) as ↔
      Run.Along (step E) (fun t a => t.deliversOpen a) (start ε cfg dir db) as :=
  Run.always_iff_along (fun _ h => h) (fun _ _ _ hI hs hG => hI.next hs hG)
    (fun _ _ _ _ hs hP => Isolated.deliversOpen hs hP) (isolated_start cfg dir db) h

/-- A message of the contact whose conversation is open. -/
theorem message_in_open_conversation :
    Run.Always (step .decrypting) Isolated acquainted
      (registers ++ connects ++ opensSecond ++ receives "bob" "m1" "hi") := by
  obtain ⟨s, hs⟩ : ∃ s, Run.after (step .decrypting) acquainted
      (registers ++ connects ++ opensSecond ++ receives "bob" "m1" "hi") = some s := ⟨_, rfl⟩
  exact (isolated_iff .decrypting hs).mpr (by decide)

/-- A message of one contact appears in the conversation with another. -/
theorem message_in_wrong_conversation :
    ¬Run.Always (step .decrypting) Isolated acquainted
      (registers ++ connects ++ opensSecond ++ receives "alice" "m1" "hi") := by
  intro h
  have hrun : (Run.after (step .decrypting) acquainted
      (registers ++ connects ++ opensSecond ++ receives "alice" "m1" "hi")).map
        (fun s => (s.app.chatView.messages, s.opened)) =
      some ([⟨"m", .received, "hi", "00:00", some "alice", false⟩], some "bob") := rfl
  obtain ⟨s, hs, heq⟩ := Option.map_eq_some_iff.mp hrun
  obtain ⟨hmessages, hopened⟩ := Prod.mk.inj heq
  obtain ⟨c, hc, hpeer⟩ := h _ s (List.prefix_refl _) hs _
    (show _ ∈ s.app.chatView.messages by rw [hmessages]; exact List.mem_singleton_self _) rfl
  have hbob : some "bob" = some c := hopened.symm.trans hc
  exact absurd (hpeer.trans hbob.symm) (by decide)

end Sys
