import ConstructTui.Orchestrator.Surfacing

/-!
# User text from end to end

The sender decides from the bytes of a text whether to wrap it, and the receiver decides from the
text whether to show it. A text typed by the user arrives as it was typed exactly when it is no
frame itself, passes the test of the responder paths where one of them brings it, and finds no
other row under its message id.

## Main definitions

* `OrchestratorTask.Kept`: the text was stored under its message and shown.

## Main results

* `OrchestratorTask.prepareOutgoing_plaintext`: what the sender encrypts.
* `OrchestratorTask.kept_iff`.
-/

namespace OrchestratorTask

variable {ε ε' : Type}

/-! ### The sender -/

/-- A message that leaves its preparation carries the outgoing form of its text. -/
theorem prepareOutgoing_plaintext {X : Externals ε} {C : TaskConfig} {w : TaskWorld ε}
    {contactId messageId : String} {bytes : Bytes} {contentType : UInt8} {event : IncomingEvent}
    (h : ((prepareOutgoing X C (.outgoingMessage contactId messageId bytes contentType)).run
      w).1 = some event) :
    event = .outgoingMessage contactId messageId (outgoingPlaintext C messageId bytes)
      contentType := by
  simp only [prepareOutgoing, Prog.run_bind_fst, query, Prog.run_read] at h
  by_cases ha : X.hasActiveSession contactId w.ext = true
  · simp only [ha, if_true, Prog.run_pure] at h
    exact (Option.some.inj h).symm
  · simp only [ha, Bool.false_eq_true, if_false, Prog.run_bind_fst] at h
    cases hr : ((establishSession X C contactId).run w).1 with
    | ok created =>
      simp only [hr, Prog.run_pure] at h
      exact (Option.some.inj h).symm
    | error e =>
      simp only [hr, Prog.run_bind_fst, Prog.run_pure] at h
      cases h

/-- The text a receiver reads from the outgoing form of a text. -/
theorem decodeText_outgoingPlaintext {C : TaskConfig} {text messageId : String}
    (hsize : (C.proto.encodeMessageContent text).length < 2 ^ 32)
    (hf : Knst.isFrame (Utf8.encode text) = false) :
    Knst.decodeText C.proto (outgoingPlaintext C messageId (Utf8.encode text)) = text := by
  unfold outgoingPlaintext
  split
  · exact Knst.decodeText_encode C.proto hf
  · rw [Utf8.decodeLossy_encode]
    exact Knst.decodeText_encodeText C.proto hsize

theorem decodeText_outgoingPlaintext_ne {C : TaskConfig} {text messageId : String}
    (hf : Knst.isFrame (Utf8.encode text)) :
    Knst.decodeText C.proto (outgoingPlaintext C messageId (Utf8.encode text)) ≠ text := by
  unfold outgoingPlaintext
  rw [if_pos (by simp [hf])]
  exact Knst.decodeText_ne_of_isFrame C.proto hf

/-! ### The receiver -/

/-- The text stands in the row of its message, under its peer, and was shown once. -/
def Kept (contactId messageId text : String) (w w' : TaskWorld ε) : Prop :=
  (∃ m ∈ w'.storage.messages.rows, m.id = messageId ∧ m.peerId = contactId ∧ m.text = text) ∧
    ∃ ts, shown w' = shown w ++ [.newMessage contactId messageId text ts]

theorem not_kept_of_suppressed {contactId messageId text : String} {w w' : TaskWorld ε}
    (h : Suppressed w w') : ¬Kept contactId messageId text w w' := by
  rintro ⟨-, ts, hs⟩
  simp [h.1] at hs

/-- What was shown under one text is kept under another only if they are the same, and if no row
was in the way. -/
theorem kept_iff_of_shown {X : Externals ε} {contactId messageId text shownText : String}
    {w w' : TaskWorld ε} (hsql : ∀ e, (X.sqlFails e).1 = false)
    (h : Shown X contactId messageId shownText w w') :
    Kept contactId messageId text w w' ↔ shownText = text ∧
      ∀ m ∈ w.storage.messages.rows, m.id = messageId → m.peerId = contactId ∧ m.text = text := by
  obtain ⟨ts, hs, hrow⟩ := h
  have hrows := hrow hsql
  constructor
  · rintro ⟨⟨m, hm, rfl, hpeer, htext⟩, ts', hs'⟩
    rw [hs] at hs'
    have heq : shownText = text ∧ ts = ts' := by simpa using List.append_cancel_left hs'
    refine ⟨heq.1, fun m' hm' hid => ?_⟩
    -- the table has one row under the id, and a row that was there stays
    have hmem : m' ∈ w'.storage.messages.rows := by
      rw [hrows]
      exact Table.mem_insertOrIgnore.mpr (Or.inl hm')
    rw [List.inj_on_of_nodup_map w'.storage.messages.nodup hmem hm hid]
    exact ⟨hpeer, htext⟩
  · rintro ⟨rfl, hfree⟩
    refine ⟨?_, ts, hs⟩
    rw [hrows]
    by_cases hid : messageId ∈ w.storage.messages.rows.map StoredMessage.id
    · obtain ⟨m, hm, rfl⟩ := List.mem_map.mp hid
      exact ⟨m, Table.mem_insertOrIgnore.mpr (Or.inl hm), rfl, hfree m hm rfl⟩
    · exact ⟨_, Table.mem_insertOrIgnore.mpr (Or.inr ⟨rfl, hid⟩), rfl, rfl, rfl⟩

/-! ### From end to end -/

/-- A text that a client of this kind sent, and that the core of another brings to its user, is
stored and shown as it was typed exactly when it is no frame, passes the test for user content
unless it comes as `messageDecrypted`, and meets no other row under its id. -/
theorem kept_iff {Xs : Externals ε'} {X : Externals ε} {P : Proto} {me device me' device' : String}
    {ws : TaskWorld ε'} {w : TaskWorld ε} {path : Path} {recipient sentId text : String}
    {contactId messageId : String} {plaintext : Bytes} {contentType : UInt8} {action : CoreAction}
    (hsize : (P.encodeMessageContent text).length < 2 ^ 32)
    (hsend : ((prepareOutgoing Xs ⟨P, me', device'⟩
      (.outgoingMessage recipient sentId (Utf8.encode text) contentType)).run ws).1 =
        some (.outgoingMessage recipient sentId plaintext contentType))
    (hbring : Brings X w path contactId messageId plaintext action)
    (hsql : ∀ e, (X.sqlFails e).1 = false) :
    Kept contactId messageId text w ((dispatch X ⟨P, me, device⟩ action).run w).2 ↔
      Knst.isFrame (Utf8.encode text) = false ∧
        (path = .messageDecrypted ∨ isUserContent text) ∧
        ∀ m ∈ w.storage.messages.rows, m.id = messageId →
          m.peerId = contactId ∧ m.text = text := by
  have hp : plaintext = outgoingPlaintext ⟨P, me', device'⟩ sentId (Utf8.encode text) := by
    have h := prepareOutgoing_plaintext hsend
    simpa using h
  have hrun := dispatch_brings (C := ⟨P, me, device⟩) hbring
  by_cases hf : Knst.isFrame (Utf8.encode text)
  · -- a frame is read as some other text, shown or not
    have hne : Knst.decodeText P plaintext ≠ text := by
      rw [hp]
      exact decodeText_outgoingPlaintext_ne (C := ⟨P, me', device'⟩) hf
    simp only [hf, Bool.true_eq_false, false_and, iff_false]
    split at hrun
    · exact fun hk => hne ((kept_iff_of_shown hsql hrun).mp hk).1
    · exact not_kept_of_suppressed hrun
  · have hd : Knst.decodeText P plaintext = text := by
      rw [hp]
      exact decodeText_outgoingPlaintext (C := ⟨P, me', device'⟩) hsize (by simpa using hf)
    rw [hd] at hrun
    simp only [hf, true_and]
    split at hrun
    · rename_i hc
      rw [kept_iff_of_shown hsql hrun]
      simp [hc]
    · rename_i hc
      simp only [hc, false_and, iff_false]
      exact not_kept_of_suppressed hrun

/-- A core that has a session with everyone. -/
def allSessions : Externals Unit := { Externals.quiet with hasActiveSession := fun _ _ => true }

theorem kept_hello :
    let plaintext := outgoingPlaintext ⟨.tagged, "alice", "phone"⟩ "m1" (Utf8.encode "hello")
    Kept "alice" "m1" "hello" (.start () .init)
      ((dispatch (firstMessageWaiting plaintext) ⟨.tagged, "bob", "laptop"⟩
        (.messageDecrypted "alice" "m1" plaintext)).run (.start () .init)).2 := by
  intro plaintext
  have hsend : ((prepareOutgoing allSessions ⟨.tagged, "alice", "phone"⟩
      (.outgoingMessage "bob" "m1" (Utf8.encode "hello") 0)).run (.start () .init)).1 =
        some (.outgoingMessage "bob" "m1" plaintext 0) := by decide
  exact (kept_iff (by decide) hsend (.messageDecrypted "alice" "m1" plaintext)
    (fun _ => rfl)).mpr ⟨by decide, Or.inl rfl, by decide⟩

/-- A text that holds a heartbeat marker is sent as chat, and lost where it is a first message. -/
theorem heartbeat_text_lost :
    let plaintext :=
      outgoingPlaintext ⟨.tagged, "alice", "phone"⟩ "m1" (Utf8.encode "see __heartbeat__ here")
    let w := ((dispatch (firstMessageWaiting plaintext) ⟨.tagged, "bob", "laptop"⟩
      (.initSession "alice" "")).run (.start () .init)).2
    ((prepareOutgoing allSessions ⟨.tagged, "alice", "phone"⟩
      (.outgoingMessage "bob" "m1" (Utf8.encode "see __heartbeat__ here") 0)).run
        (.start () .init)).1 = some (.outgoingMessage "bob" "m1" plaintext 0) ∧
      w.storage.getMessages "alice" 50 = [] ∧ w.ui = [] := by
  decide

end OrchestratorTask
