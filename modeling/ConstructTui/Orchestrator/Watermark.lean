import Mathlib.Data.List.Pairwise
import ConstructTui.Orchestrator.Effects

/-!
# The watermark and the messages that wait

The watermark only ever holds a cursor of a completed message: one that was decrypted or dropped as
a stale replay. It says nothing about the messages before that one. A message the core has queued
stays behind the watermark, so that the server sends it again, as long as the core completes
messages in the order of their arrival; when a later message is completed first, the watermark
passes the queued one.

## Main definitions

* `OrchestratorTask.arrivals`, `OrchestratorTask.QueuedOnly`, `OrchestratorTask.InOrder`.
* `OrchestratorTask.Accounted`: the invariant of the watermark.
* `OrchestratorTask.WillResend`.

## Main results

* `OrchestratorTask.runTask_accounted`: the invariant over a whole run.
* `OrchestratorTask.watermark_before_queued`: in runs in order, a queued message is sent again.
* `OrchestratorTask.queued_message_passed`: a run out of order in which it is not.
-/

namespace OrchestratorTask

variable {ε : Type} {X : Externals ε} {C : TaskConfig}

/-! ### Reading a history -/

/-- The arrival of a message that has a cursor. -/
def arrival : Obs → Option (String × String)
  | .received messageId cursor => (cursor.filter fun c => c ≠ "").map fun c => (messageId, c)
  | _ => none

/-- The messages that arrived, with their cursors, in order. -/
def arrivals (L : List Obs) : List (String × String) := L.filterMap arrival

@[simp] theorem arrivals_append (L M : List Obs) : arrivals (L ++ M) = arrivals L ++ arrivals M :=
  List.filterMap_append

/-- The observation completes the message: it was decrypted, or dropped as a stale replay. -/
def Completes (o : Obs) (messageId : String) : Prop :=
  match o with
  | .decrypted id _ _ | .dropped id => id = messageId
  | _ => False

/-- The core has queued the message, and nothing more has happened to it. -/
def QueuedOnly (L : List Obs) (messageId : String) : Prop :=
  .queued messageId ∈ L ∧ .popped messageId ∉ L ∧ ∀ o ∈ L, ¬Completes o messageId

instance (o : Obs) (messageId : String) : Decidable (Completes o messageId) :=
  match o with
  | .decrypted id _ _ | .dropped id => inferInstanceAs (Decidable (id = messageId))
  | .handled _ | .pushed _ | .received _ _ | .queued _ | .popped _ | .saved _ | .notified _
  | .contactDeleted _ => inferInstanceAs (Decidable False)

instance (L : List Obs) (messageId : String) : Decidable (QueuedOnly L messageId) :=
  inferInstanceAs (Decidable (_ ∧ _ ∧ _))

/-- The first message arrived before the second. -/
def Earlier (L : List Obs) (messageId later : String) : Prop :=
  [messageId, later].Sublist ((arrivals L).map Prod.fst)

instance (L : List Obs) (messageId later : String) : Decidable (Earlier L messageId later) :=
  inferInstanceAs (Decidable (List.Sublist _ _))

/-- The next observation keeps to the order of arrival: no message is completed while an earlier
one is only queued, and none is queued when a later one is already completed. The core does not
write the watermark itself. -/
def KeepsOrder (L : List Obs) (o : Obs) : Prop :=
  (∀ messageId later, Completes o later → QueuedOnly L messageId → ¬Earlier L messageId later) ∧
    (∀ messageId later, o = .queued messageId → (∃ o' ∈ L, Completes o' later) →
      ¬Earlier L messageId later) ∧
    o ≠ .saved Storage.streamCursorKey

/-- Every observation of the history keeps to the order of arrival. -/
def InOrder (L : List Obs) : Prop := ∀ L₁ o L₂, L = L₁ ++ o :: L₂ → KeepsOrder L₁ o

theorem InOrder.snoc {L : List Obs} {o : Obs} (h : InOrder L) (ho : KeepsOrder L o) :
    InOrder (L ++ [o]) := by
  intro L₁ o' L₂ heq
  rcases List.eq_nil_or_concat L₂ with rfl | ⟨M, x, rfl⟩
  · obtain ⟨rfl, hx⟩ := List.append_inj' heq rfl
    rwa [← (List.cons.inj hx).1]
  · rw [List.concat_eq_append, ← List.cons_append, ← List.append_assoc] at heq
    exact h L₁ o' M (List.append_inj' heq rfl).1

/-- An observation that completes nothing, queues nothing and saves nothing keeps to any order. -/
theorem keepsOrder_of_neutral {L : List Obs} {o : Obs} (hc : ∀ messageId, ¬Completes o messageId)
    (hq : ∀ messageId, o ≠ .queued messageId) (hs : o ≠ .saved Storage.streamCursorKey) :
    KeepsOrder L o :=
  ⟨fun _ later h => absurd h (hc later), fun messageId _ h => absurd h (hq messageId), hs⟩

/-- The cursor belongs to a message that was completed after it had arrived with it. -/
def CompletedAt (L : List Obs) (messageId cursor : String) : Prop :=
  ∃ L₁ o L₂, L = L₁ ++ o :: L₂ ∧ Completes o messageId ∧ (messageId, cursor) ∈ arrivals L₁

theorem CompletedAt.append {L : List Obs} {messageId cursor : String}
    (h : CompletedAt L messageId cursor) (M : List Obs) :
    CompletedAt (L ++ M) messageId cursor := by
  obtain ⟨L₁, o, L₂, rfl, ho, hc⟩ := h
  exact ⟨L₁, o, L₂ ++ M, by simp, ho, hc⟩

theorem CompletedAt.of_completes {L : List Obs} {o : Obs} {messageId cursor : String}
    (ho : Completes o messageId) (hc : (messageId, cursor) ∈ arrivals L) :
    CompletedAt (L ++ [o]) messageId cursor := ⟨L, o, [], rfl, ho, hc⟩

theorem CompletedAt.mem_arrivals {L : List Obs} {messageId cursor : String}
    (h : CompletedAt L messageId cursor) : (messageId, cursor) ∈ arrivals L := by
  obtain ⟨L₁, o, L₂, rfl, -, hc⟩ := h
  rw [arrivals_append]
  exact List.mem_append_left _ hc

/-! ### Order in a list -/

/-- Of two members of a list one stands before the other. -/
theorem sublist_or_sublist {α : Type} {l : List α} {a b : α} (ha : a ∈ l) (hb : b ∈ l)
    (hne : a ≠ b) : [a, b].Sublist l ∨ [b, a].Sublist l := by
  have hl : l.Pairwise fun a b => [a, b].Sublist l ∨ [b, a].Sublist l :=
    List.pairwise_iff_forall_sublist.mpr fun h => Or.inl h
  have : Std.Symm fun a b => [a, b].Sublist l ∨ [b, a].Sublist l := ⟨fun _ _ h => h.symm⟩
  exact hl.forall ha hb hne

/-- What stands before a member of the first part stands in the first part. -/
theorem sublist_of_sublist_append {α : Type} {l m : List α} {a b : α}
    (h : [a, b].Sublist (l ++ m)) (hb : b ∉ m) : [a, b].Sublist l := by
  obtain ⟨l₁, l₂, heq, hl, hm⟩ := List.sublist_append_iff.mp h
  match l₁, heq with
  | [], heq =>
    rw [List.nil_append] at heq
    exact absurd (hm.subset (heq ▸ by simp)) hb
  | [x], heq =>
    rw [List.singleton_append, List.cons.injEq] at heq
    exact absurd (hm.subset (heq.2 ▸ by simp)) hb
  | x :: y :: l₁, heq =>
    simp only [List.cons_append, List.cons.injEq, List.nil_eq, List.append_eq_nil_iff] at heq
    obtain ⟨rfl, rfl, rfl, -⟩ := heq
    exact hl

/-! ### Runs in order -/

/-- In a history in order, no message completed so far arrived after one that is only queued. -/
theorem not_earlier_of_inOrder {L : List Obs} {messageId later cursor : String}
    (hnodup : ((arrivals L).map Prod.fst).Nodup) (hord : InOrder L) (hq : QueuedOnly L messageId)
    (hc : CompletedAt L later cursor) : ¬Earlier L messageId later := by
  intro he
  obtain ⟨L₁, o, L₂, rfl, ho, hmem⟩ := hc
  have hmem₁ : later ∈ (arrivals L₁).map Prod.fst := List.mem_map_of_mem hmem
  -- both messages arrived before the later one was completed
  have he₁ : Earlier L₁ messageId later := by
    rw [Earlier, arrivals_append, List.map_append] at he
    rw [arrivals_append, List.map_append, List.nodup_append] at hnodup
    exact sublist_of_sublist_append he fun h => hnodup.2.2 later hmem₁ later h rfl
  rcases List.mem_append.mp hq.1 with hq₁ | hq₂
  · refine (hord L₁ o L₂ rfl).1 messageId later ho ⟨hq₁, ?_, ?_⟩ he₁
    · exact fun h => hq.2.1 (List.mem_append_left _ h)
    · exact fun o' h => hq.2.2 o' (List.mem_append_left _ h)
  · rcases List.mem_cons.mp hq₂ with rfl | hq₂
    · exact ho.elim
    · obtain ⟨M, N, rfl⟩ := List.append_of_mem hq₂
      refine (hord (L₁ ++ o :: M) (.queued messageId) N (by simp)).2.1 messageId later rfl
        ⟨o, by simp, ho⟩ ?_
      rw [Earlier, arrivals_append, List.map_append]
      exact he₁.trans (List.sublist_append_left ..)

/-- In a history in order, completed messages have earlier cursors than queued ones. -/
theorem cursorAfter_of_inOrder {L : List Obs} {messageId cursor later cursor' : String}
    (hnodup : ((arrivals L).map Prod.fst).Nodup)
    (hinc : (arrivals L).Pairwise fun a b => cursorAfter b.2 a.2) (hord : InOrder L)
    (hq : QueuedOnly L messageId) (hmem : (messageId, cursor) ∈ arrivals L)
    (hc : CompletedAt L later cursor') : cursorAfter cursor cursor' := by
  have hne : messageId ≠ later := by
    rintro rfl
    obtain ⟨L₁, o, L₂, rfl, ho, -⟩ := hc
    exact hq.2.2 o (by simp) ho
  rcases sublist_or_sublist hmem hc.mem_arrivals (fun h => hne (Prod.mk.inj h).1) with h | h
  · exact absurd (h.map Prod.fst) (not_earlier_of_inOrder hnodup hord hq hc)
  · have hearlier := List.pairwise_iff_forall_sublist.mp hinc h
    exact hearlier

/-! ### The invariant of the watermark -/

/-- The watermark, in the database or in memory. -/
def IsWatermark (w : TaskWorld ε) (s : String) : Prop :=
  w.storage.loadStreamCursor = some s ∨ w.committed = some s

/-- The messages `A` have arrived, cursors under way are theirs, and the watermark is the one at
the start, the cursor of a completed message, or what the core wrote under its key. -/
structure Accounted (s₀ : Option String) (A : List (String × String)) (w : TaskWorld ε) : Prop where
  arrivals : arrivals w.log = A
  pending : ∀ r ∈ w.pendingCursors.rows, r ∈ A
  watermark : ∀ s, IsWatermark w s →
    s₀ = some s ∨ (∃ messageId, CompletedAt w.log messageId s) ∨
      .saved Storage.streamCursorKey ∈ w.log

namespace Accounted

variable {s₀ : Option String} {A : List (String × String)}

/-- The history grew by something that is no arrival, and the watermark did not move. -/
theorem grow {w w' : TaskWorld ε} (h : Accounted s₀ A w) (M : List Obs)
    (hlog : w'.log = w.log ++ M) (hM : OrchestratorTask.arrivals M = [])
    (hpending : ∀ r ∈ w'.pendingCursors.rows, r ∈ w.pendingCursors.rows)
    (hmark : ∀ s, IsWatermark w' s → IsWatermark w s) : Accounted s₀ A w' where
  arrivals := by rw [hlog, arrivals_append, hM, List.append_nil, h.arrivals]
  pending r hr := h.pending r (hpending r hr)
  watermark s hs := by
    rw [hlog]
    rcases h.watermark s (hmark s hs) with h₀ | ⟨id, hc⟩ | hsaved
    · exact Or.inl h₀
    · exact Or.inr (Or.inl ⟨id, hc.append M⟩)
    · exact Or.inr (Or.inr (List.mem_append_left _ hsaved))

theorem of_effect {w w' : TaskWorld ε} (h : Accounted s₀ A w) (he : Effect w w') :
    Accounted s₀ A w' := by
  cases he with
  | tables | ui => exact h.grow [] (by simp) rfl (fun _ => id) fun _ => id
  | statement ext s hs =>
    refine h.grow [] (by simp) rfl (fun _ => id) fun c hc => ?_
    rwa [IsWatermark, hs.cursor] at hc
  | notified chatId => exact h.grow [.notified chatId] rfl rfl (fun _ => id) fun _ => id
  | pushed event => exact h.grow [.pushed event] rfl rfl (fun _ => id) fun _ => id
  | queued messageId => exact h.grow [.queued messageId] rfl rfl (fun _ => id) fun _ => id
  | popped messageId => exact h.grow [.popped messageId] rfl rfl (fun _ => id) fun _ => id
  | saved ext key s hs =>
    by_cases hkey : key = Storage.streamCursorKey
    · exact ⟨by rw [arrivals_append, h.arrivals]; exact List.append_nil A, h.pending,
        fun c _ => Or.inr (Or.inr (by simp [hkey]))⟩
    · have hext : w.storage.Alike s := by
        rcases hs with rfl | ⟨data, rfl⟩
        · exact .refl _
        · exact .secureSaveOrDelete hkey data _
      refine h.grow [.saved key] rfl rfl (fun _ => id) fun c hc => ?_
      rwa [IsWatermark, hext.cursor] at hc

theorem of_driverEffect {w w' : TaskWorld ε} (h : Accounted s₀ A w) (he : DriverEffect w w') :
    Accounted s₀ A w' := by
  cases he with
  | effect he => exact h.of_effect he
  | handled ext event => exact h.grow [.handled event] rfl rfl (fun _ => id) fun _ => id
  | cycle => exact h.grow [] (by simp) rfl (fun _ => id) fun _ => id

/-- A cursor of a completed message may become the watermark. -/
theorem of_watermark {w w' : TaskWorld ε} (h : Accounted s₀ A w) {messageId c : String}
    (hc : CompletedAt w.log messageId c) (hlog : w'.log = w.log)
    (hpending : w'.pendingCursors = w.pendingCursors)
    (hmark : ∀ s, IsWatermark w' s → IsWatermark w s ∨ s = c) : Accounted s₀ A w' where
  arrivals := by rw [hlog, h.arrivals]
  pending := by rw [hpending]; exact h.pending
  watermark s hs := by
    rw [hlog]
    rcases hmark s hs with hs | rfl
    · exact h.watermark s hs
    · exact Or.inr (Or.inl ⟨messageId, hc⟩)

end Accounted

/-! ### Completing a message -/

variable {s₀ : Option String} {A : List (String × String)}

/-- A statement that leaves the watermark keeps the account, and adds nothing to the history. -/
theorem sql_accounted {α : Type} {f : Storage → α × Storage}
    (hf : ∀ s, (f s).2.loadStreamCursor = s.loadStreamCursor) {P : List Obs → Dict String → Prop} :
    (sql X f).Keeps fun w w' => Accounted s₀ A w ∧ P w.log w.pendingCursors →
      Accounted s₀ A w' ∧ P w'.log w'.pendingCursors := .act fun w hw => by
  have hlog : (sqlStep X f w).2.log = w.log := by
    unfold sqlStep
    split <;> rfl
  have hpending : (sqlStep X f w).2.pendingCursors = w.pendingCursors := by
    unfold sqlStep
    split <;> rfl
  have hmark (s : String) : IsWatermark (sqlStep X f w).2 s → IsWatermark w s := by
    unfold sqlStep IsWatermark
    split
    · exact id
    · simp only [hf]
      exact id
  rw [hlog, hpending]
  exact ⟨hw.1.grow [] (by simpa using hlog) rfl (fun _ => hpending ▸ id) hmark, hw.2⟩

/-- Moving the watermark to the cursor of a completed message keeps the account. -/
theorem persist_accounted {w : TaskWorld ε} {messageId : String} {cursor : Option String}
    (h : Accounted s₀ A w) (hc : ∀ c, cursor = some c → CompletedAt w.log messageId c) :
    (CursorTracker.persist X cursor).Meets Eq (Accounted s₀ A) (fun _ => Accounted s₀ A) w := by
  cases cursor with
  | none => exact .pure h
  | some c =>
    -- the message stays completed while its cursor is saved
    let I (w : TaskWorld ε) : Prop := Accounted s₀ A w ∧ CompletedAt w.log messageId c
    suffices hk : (CursorTracker.persist X (some c)).Keeps fun w w' => I w → I w' from
      .mono (fun _ _ hI => hI.1) (.mono_inv (fun _ hI => hI.1)
        (Prog.Meets.of_keeps (R := Eq) (I := I) (fun _ _ h => h ▸ id) hk ⟨h, hc c rfl⟩))
    refine CursorTracker.persist_keeps X c
      (sql_accounted (P := fun L _ => CompletedAt L messageId c) fun s => rfl) ?_ ?_
    · refine fun hne => .act fun w hw => ?_
      unfold sqlStep
      split
      · exact ⟨hw.1.grow [] (by simp) rfl (fun _ => id) fun _ => id, hw.2⟩
      · refine ⟨hw.1.of_watermark hw.2 rfl rfl fun s hs => ?_, hw.2⟩
        rcases hs with hs | hs
        · rw [Storage.loadStreamCursor_secureSave_cursor hne] at hs
          exact Or.inr (Option.some.inj hs).symm
        · exact Or.inl (Or.inr hs)
    · refine fun w hw => ⟨hw.1.of_watermark hw.2 rfl rfl fun s hs => ?_, hw.2⟩
      rcases hs with hs | hs
      · exact Or.inl (Or.inl hs)
      · exact Or.inr (Option.some.inj hs).symm

/-- Storing and showing a message keeps the account: only its own cursor is committed. -/
theorem storeAndNotify_accounted (contactId messageId text : String) :
    Prog.Safe Eq (Accounted s₀ A) (storeAndNotify X contactId messageId text) := by
  have keeps {α : Type} {p : Prog (TaskWorld ε) α} (h : p.Keeps Effect) :
      Prog.Safe Eq (Accounted s₀ A) p :=
    .of_keeps (fun _ _ h => h ▸ id) (fun _ _ he h => h.of_effect he) h
  refine .bind (keeps (external_keeps _)) fun n => .bind ?_ fun _ => fun w hw => ?_
  · intro w hw
    -- from here on the message is completed with whatever cursor it has under way
    let J (w : TaskWorld ε) : Prop := Accounted s₀ A w ∧
      ∀ r ∈ w.pendingCursors.rows, r.1 = messageId → CompletedAt w.log messageId r.2
    have hJ : J { w with log := w.log ++ [.decrypted messageId contactId text] } :=
      ⟨hw.grow [.decrypted messageId contactId text] rfl rfl (fun _ => id) fun _ => id,
        fun r hr hid => .of_completes rfl (by rw [hw.arrivals]; exact hid ▸ hw.pending r hr)⟩
    refine .bind (P := fun _ => J) (.act fun w' hw' => ?_) fun _ w₁ hw₁ => .bind (P := fun _ => J)
      (.mono_inv (fun _ hI => hI.1) (.of_keeps (fun _ _ h => h ▸ id)
        (sql_accounted (P := fun L d => ∀ r ∈ d.rows, r.1 = messageId →
          CompletedAt L messageId r.2) fun s => rfl) hw₁)) fun stored w₂ hw₂ => ?_
    · subst hw'
      exact ⟨hJ.1, hJ⟩
    split
    · refine .bind (P := fun cursor w => Accounted s₀ A w ∧
        ∀ c, cursor = some c → CompletedAt w.log messageId c) (.act fun w' hw' => ?_)
        fun cursor w₃ hw₃ => persist_accounted hw₃.1 hw₃.2
      subst hw'
      have hacc : Accounted s₀ A { w₂ with
          pendingCursors := w₂.pendingCursors.deleteWhere fun r => r.1 = messageId } :=
        hw₂.1.grow [] (by simp) rfl (fun _ hr => (Table.mem_deleteWhere.mp hr).1) fun _ => id
      refine ⟨hacc, hacc, fun c hc => ?_⟩
      obtain ⟨r, hr, rfl⟩ := Option.map_eq_some_iff.mp hc
      obtain ⟨hmem, hid⟩ := Table.find?_eq_some_iff.mp hr
      exact hw₂.2 r hmem hid
    · exact .pure hw₂.1
  · refine .act fun w' hw' => ?_
    subst hw'
    have h (ui : List BridgeEvent) : Accounted s₀ A { w with ui := ui } :=
      hw.grow [] (by simp) rfl (fun _ => id) fun _ => id
    exact ⟨h _, h _⟩

/-! ### Runs -/

/-- The messages among the inputs that come with a cursor. -/
def inputArrivals : List TaskInput → List (String × String) :=
  List.filterMap fun
    | .command (.streamMessage _ context) =>
      arrival (.received context.messageId context.streamCursor)
    | _ => none

theorem deliver_accounted (event : IncomingEvent) :
    Prog.Safe Eq (Accounted s₀ A) (deliver X C event) :=
  deliver_safe (fun _ _ h => h ▸ id) (fun _ _ he h => h.of_driverEffect he)
    storeAndNotify_accounted event

theorem note_accounted {messageId : String} {cursor : Option String} {w : TaskWorld ε}
    (h : Accounted s₀ A w) (hmem : ∀ p, arrival (.received messageId cursor) = some p → p ∈ A) :
    (CursorTracker.note messageId cursor).Meets Eq (Accounted s₀ A) (fun _ => Accounted s₀ A)
      w := by
  unfold CursorTracker.note
  split
  · exact .pure h
  · rename_i c hc
    refine .act fun w' hw' => ?_
    subst hw'
    have hnote : Accounted s₀ A
        { w with pendingCursors := w.pendingCursors.insertOrReplace (messageId, c) } := by
      refine ⟨h.arrivals, fun r hr => ?_, h.watermark⟩
      rcases Table.mem_insertOrReplace.mp hr with ⟨hr, -⟩ | rfl
      · exact h.pending r hr
      · exact hmem _ (by rw [arrival, hc]; rfl)
    exact ⟨hnote, hnote⟩

/-- An inbound message adds its arrival, and whatever becomes of it keeps the account. -/
theorem streamMessage_accounted {event : IncomingEvent} {context : StreamMessageContext}
    {w : TaskWorld ε} (h : Accounted s₀ A w) :
    let A' := A ++ (arrival (.received context.messageId context.streamCursor)).toList
    (streamMessage X C event context).Meets Eq (Accounted s₀ A') (fun _ => Accounted s₀ A') w := by
  intro A'
  have hmem (p : String × String)
      (hp : arrival (.received context.messageId context.streamCursor) = some p) : p ∈ A' := by
    simp [A', hp]
  have hreceived : Accounted s₀ A'
      { w with log := w.log ++ [.received context.messageId context.streamCursor] } := by
    refine ⟨?_, fun r hr => List.mem_append_left _ (h.pending r hr), fun s hs => ?_⟩
    · rw [arrivals_append, h.arrivals]
      cases hr : arrival (.received context.messageId context.streamCursor) <;>
        simp [A', arrivals, hr]
    · rcases h.watermark s hs with h₀ | ⟨id, hc⟩ | hsaved
      · exact Or.inl h₀
      · exact Or.inr (Or.inl ⟨id, hc.append _⟩)
      · exact Or.inr (Or.inr (List.mem_append_left _ hsaved))
  refine .bind (P := fun _ => Accounted s₀ A') (.act fun w' hw' => hw' ▸ ⟨hreceived, hreceived⟩)
    fun _ w₁ hw₁ => .bind (P := fun _ => Accounted s₀ A') (.act fun w' hw' => hw' ▸ ⟨hw₁, hw₁⟩)
      fun established w₂ hw₂ => ?_
  split
  · -- a stale replay is completed with the cursor it just arrived with
    refine .bind (P := fun _ w => Accounted s₀ A' w ∧ ∀ c,
      (context.streamCursor.filter fun c => c ≠ "") = some c →
        CompletedAt w.log context.messageId c) (.act fun w' hw' => ?_)
      fun _ w₃ hw₃ => persist_accounted hw₃.1 hw₃.2
    subst hw'
    have hdropped : Accounted s₀ A' { w₂ with log := w₂.log ++ [.dropped context.messageId] } :=
      hw₂.grow [.dropped context.messageId] rfl rfl (fun _ => id) fun _ => id
    refine ⟨hdropped, hdropped, fun c hc => .of_completes rfl ?_⟩
    rw [hw₂.arrivals]
    exact hmem _ (by rw [arrival, hc]; rfl)
  · exact .bind (note_accounted hw₂ hmem) fun _ w₃ hw₃ => deliver_accounted event w₃ hw₃

/-- What an input adds to the arrivals. -/
theorem handleInput_accounted (input : TaskInput) {w : TaskWorld ε} (h : Accounted s₀ A w) :
    (handleInput X C input).Meets Eq
      (fun w => ∃ B, B <+: inputArrivals [input] ∧ Accounted s₀ (A ++ B) w)
      (fun _ => Accounted s₀ (A ++ inputArrivals [input])) w := by
  have other {p : Prog (TaskWorld ε) Unit} (hi : inputArrivals [input] = [])
      (hp : p.Meets Eq (Accounted s₀ A) (fun _ => Accounted s₀ A) w) :
      p.Meets Eq (fun w => ∃ B, B <+: inputArrivals [input] ∧ Accounted s₀ (A ++ B) w)
        (fun _ => Accounted s₀ (A ++ inputArrivals [input])) w := by
    rw [hi, List.append_nil]
    exact hp.mono_inv fun w hw => ⟨[], List.nil_prefix, by rwa [List.append_nil]⟩
  match input with
  | .event event =>
    exact other rfl (handleRx_safe (fun _ _ h => h ▸ id) (fun _ _ he h => h.of_driverEffect he)
      storeAndNotify_accounted event w h)
  | .command (.forgetContact contactId) =>
    exact other rfl (forgetContact_safe (fun _ _ h => h ▸ id)
      (fun _ _ he h => h.of_driverEffect he) storeAndNotify_accounted contactId w h)
  | .command (.streamMessage event context) =>
    have hi : inputArrivals [.command (.streamMessage event context)] =
        (arrival (.received context.messageId context.streamCursor)).toList := by
      cases hr : arrival (.received context.messageId context.streamCursor) <;>
        simp [inputArrivals, hr]
    rw [hi]
    exact (streamMessage_accounted h).mono_inv fun w hw => ⟨_, List.prefix_refl _, hw⟩

/-- Over a whole run the account holds with the messages that have arrived so far. -/
theorem runTask_accounted (inputs : List TaskInput) {w : TaskWorld ε} (h : Accounted s₀ A w) :
    (runTask X C inputs).Meets Eq
      (fun w => ∃ B, B <+: inputArrivals inputs ∧ Accounted s₀ (A ++ B) w)
      (fun _ => Accounted s₀ (A ++ inputArrivals inputs)) w := by
  induction inputs generalizing A w with
  | nil => exact .pure (by rwa [show inputArrivals [] = [] from rfl, List.append_nil])
  | cons input inputs ih =>
    have hsplit : inputArrivals (input :: inputs) = inputArrivals [input] ++ inputArrivals inputs :=
      List.filterMap_append (l := [input])
    refine .bind ((handleInput_accounted input h).mono_inv ?_) fun _ w' hw' => ?_
    · rintro w ⟨B, hB, hw⟩
      exact ⟨B, hsplit ▸ hB.trans (List.prefix_append ..), hw⟩
    · have hrun := ih hw'
      rw [hsplit, ← List.append_assoc]
      refine hrun.mono_inv ?_
      rintro w ⟨B, hB, hw⟩
      exact ⟨inputArrivals [input] ++ B, (List.prefix_append_right_inj _).mpr hB, by
        rwa [← List.append_assoc]⟩

/-! ### The watermark before a queued message -/

/-- The server sends a message again after a reconnect and after a restart: both watermarks are
strictly before its cursor. -/
def WillResend (w : TaskWorld ε) (cursor : String) : Prop :=
  ∀ s, IsWatermark w s → cursorAfter cursor s

/-- In every world of a run whose messages arrive with increasing cursors past the stored one, and
whose history is in order, a message that is only queued is sent again. -/
theorem watermark_before_queued (X : Externals ε) (C : TaskConfig) (ext : ε) (storage : Storage)
    (inputs : List TaskInput) (hids : ((inputArrivals inputs).map Prod.fst).Nodup)
    (hinc : (inputArrivals inputs).Pairwise fun a b => cursorAfter b.2 a.2)
    (hstart : ∀ s, storage.loadStreamCursor = some s →
      ∀ r ∈ inputArrivals inputs, cursorAfter r.2 s)
    (w : TaskWorld ε) (hw : w ∈ (runTask X C inputs).visited (.start ext storage))
    (hord : InOrder w.log) (messageId cursor : String)
    (hmem : (messageId, cursor) ∈ arrivals w.log) (hq : QueuedOnly w.log messageId) :
    WillResend w cursor := by
  have hacc : Accounted storage.loadStreamCursor [] (TaskWorld.start ext storage) :=
    ⟨rfl, by simp [TaskWorld.start, Table.empty], fun s hs => Or.inl (hs.elim id id)⟩
  obtain ⟨B, hB, hacc⟩ :=
    (runTask_accounted (X := X) (C := C) inputs hacc).visited (fun _ => rfl) w hw
  rw [List.nil_append] at hacc
  have harr := hacc.arrivals
  intro s hs
  rcases hacc.watermark s hs with h₀ | ⟨later, hc⟩ | hsaved
  · have hpast := hstart s h₀ (messageId, cursor) (hB.subset (harr ▸ hmem))
    exact hpast
  · refine cursorAfter_of_inOrder ?_ ?_ hord hq hmem hc
    · rw [harr]
      exact hids.sublist (hB.sublist.map _)
    · rw [harr]
      exact hinc.sublist hB.sublist
  · obtain ⟨M, N, hlog⟩ := List.append_of_mem hsaved
    exact absurd rfl (hord M _ N hlog).2.2

/-! ### Two runs -/

/-- A core that queues one message and decrypts every other. -/
def queueing (queued : String) : Externals Unit :=
  { Externals.quiet with
    handleEvent := fun event _ =>
      (match event with
        | .messageReceived messageId sender data .. =>
          if messageId = queued then [.messageQueuedPendingInit sender messageId]
          else [.messageDecrypted sender messageId data]
        | _ => [], ()) }

/-- A message from the stream, as the relay passes it on. -/
def inbound (sender messageId cursor : String) : TaskInput :=
  .command (.streamMessage
    (.messageReceived messageId sender (Utf8.encode "hi") 1 [] 0 false ContentType.e2eeSignal)
    ⟨sender, messageId, some cursor, ContentType.e2eeSignal, 1⟩)

/-- The world after two messages, the first from Alice and the second from Bob, of which the core
queues one. -/
def afterTwo (queued : String) : TaskWorld Unit :=
  ((runTask (queueing queued) ⟨.tagged, "me", "phone"⟩
    [inbound "alice" "m1" "1-0", inbound "bob" "m2" "2-0"]).run (.start () .init)).2

/-- The first message decrypted, the second queued: the server will send the second one again. -/
theorem second_queued_resent : WillResend (afterTwo "m2") "2-0" := by
  have hlog : (afterTwo "m2").log =
      [] ++ [.received "m1" (some "1-0")] ++
        [.handled (.messageReceived "m1" "alice" (Utf8.encode "hi") 1 [] 0 false 1)] ++
        [.decrypted "m1" "alice" "hi"] ++ [.received "m2" (some "2-0")] ++
        [.handled (.messageReceived "m2" "bob" (Utf8.encode "hi") 1 [] 0 false 1)] ++
        [.queued "m2"] := by decide
  have hord : InOrder (afterTwo "m2").log := by
    rw [hlog]
    refine .snoc (.snoc (.snoc (.snoc (.snoc (.snoc ?_ ?_) ?_) ?_) ?_) ?_) ?_
    · intro L₁ o L₂ h
      simp at h
    · exact keepsOrder_of_neutral (by simp [Completes]) (by simp) (by simp)
    · exact keepsOrder_of_neutral (by simp [Completes]) (by simp) (by simp)
    · exact ⟨fun _ _ _ hq => absurd hq.1 (by simp), by simp, by simp⟩
    · exact keepsOrder_of_neutral (by simp [Completes]) (by simp) (by simp)
    · exact keepsOrder_of_neutral (by simp [Completes]) (by simp) (by simp)
    · refine ⟨by simp [Completes], ?_, by simp⟩
      rintro _ later ⟨⟩ ⟨o, ho, hc⟩
      obtain rfl : later = "m1" := by
        grind [Completes]
      decide
  exact watermark_before_queued (queueing "m2") ⟨.tagged, "me", "phone"⟩ () .init
    [inbound "alice" "m1" "1-0", inbound "bob" "m2" "2-0"] (by decide) (by decide)
    (fun s h => absurd h (by simp [show Storage.init.loadStreamCursor = none by decide]))
    (afterTwo "m2") (Prog.run_mem_visited _ _ (by simp [runTask, Prog.each, Prog.step]; decide))
    hord "m2" "2-0" (by decide) (by decide)

/-- The first message queued, the second decrypted: both watermarks pass the queued message, whose
text is nowhere in the database. -/
theorem queued_message_passed :
    let w := afterTwo "m1"
    ("m1", "1-0") ∈ arrivals w.log ∧ QueuedOnly w.log "m1" ∧
      w.storage.loadStreamCursor = some "2-0" ∧ w.committed = some "2-0" ∧
      cursorAfter "1-0" "2-0" = false ∧ w.storage.getMessages "alice" 50 = [] := by
  decide

end OrchestratorTask
