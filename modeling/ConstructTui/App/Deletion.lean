import Mathlib.Data.List.Infix
import ConstructTui.App.Runs

/-!
# Deleting a contact's rows

A deletion runs three statements, each committed on its own. The first two take the rows of the
contact; the third takes every secret whose key has the contact's id somewhere in it, by a pattern
in which the id's own characters may be wildcards. A deletion that fails keeps what the statements
before the failing one did.

## Main definitions

* `Storage.mentions`: the pattern of the third statement.
* `Storage.Forgotten`, `Storage.SameFor`: nothing of a contact is left, nothing of another is lost.
* `Sys.InPlace`: the database, the list on screen and the tasks are as they were.

## Main results

* `App.deletion_exact_iff`: only the contact is touched exactly when no other secret matches.
* `App.failedDeletion_inPlace_iff`: a failed deletion leaves everything in place exactly when the
  statements before the failing one had nothing to delete.
-/

variable {ε : Type} {ans : Answers ε}

namespace Storage

/-! ### The pattern -/

/-- The key matches the pattern that is made of a contact's id. -/
def mentions (userId key : String) : Bool := likeChars ('%' :: userId.toList ++ ['%']) key.toList

theorem likeChars_percent (pat text : List Char) :
    likeChars ('%' :: pat) text = text.tails.any (likeChars pat) := by
  unfold likeChars
  exact if_pos rfl

/-- A pattern finds its own text in front of anything. -/
theorem likeChars_self (pat text : List Char) : likeChars (pat ++ ['%']) (pat ++ text) := by
  induction pat with
  | nil =>
    rw [List.nil_append, likeChars_percent, List.any_eq_true]
    exact ⟨[], (List.mem_tails _ _).mpr List.nil_suffix, rfl⟩
  | cons p pat ih =>
    by_cases hp : p = '%'
    · subst hp
      rw [List.cons_append, likeChars_percent, List.any_eq_true]
      exact ⟨pat ++ text, (List.mem_tails _ _).mpr (List.suffix_cons _ _), ih⟩
    · show (if p = '%' then _ else _ : Bool) = true
      rw [if_neg hp]
      simpa using ih

/-- A key with the id in it matches. -/
theorem mentions_append (front userId : String) : mentions userId (front ++ userId) := by
  unfold mentions
  rw [List.cons_append, likeChars_percent, List.any_eq_true, String.toList_append]
  refine ⟨userId.toList, (List.mem_tails _ _).mpr (List.suffix_append _ _), ?_⟩
  have hself := likeChars_self userId.toList []
  rwa [List.append_nil] at hself

/-! ### The three statements -/

/-- The statements of `delete_contact`. -/
def deleteContact (userId : String) (s : Storage) : Storage :=
  deleteContactSecrets userId (deleteContactMessages userId (deleteContactRow userId s))

/-- Nothing of the contact is left. -/
structure Forgotten (userId : String) (s : Storage) : Prop where
  contact : s.getContactById userId = none
  messages : ∀ m ∈ s.messages.rows, m.peerId ≠ userId
  session : s.secureLoad (sessionKey userId) = none
  archive : s.secureLoad (archiveKey userId) = none

/-- A secret is there after the deletion if it was there before and its key does not match. -/
theorem secureLoad_deleteContact (userId key : String) (s : Storage) :
    (s.deleteContact userId).secureLoad key =
      if mentions userId key then none else s.secureLoad key := by
  show ((s.secureStore.deleteWhere fun r => mentions userId r.1).find? key).map Prod.snd = _
  by_cases hkey : mentions userId key = true
  · rw [if_pos hkey, Option.map_eq_none_iff, Table.find?_eq_none_iff]
    rintro r hr rfl
    rw [(Table.mem_deleteWhere.mp hr).2] at hkey
    cases hkey
  · rw [if_neg hkey]
    refine congrArg _ (Option.ext fun r => ?_)
    simp only [Table.find?_eq_some_iff, Table.mem_deleteWhere]
    constructor
    · rintro ⟨⟨hr, -⟩, hrkey⟩
      exact ⟨hr, hrkey⟩
    · rintro ⟨hr, rfl⟩
      exact ⟨⟨hr, Bool.not_eq_true _ ▸ hkey⟩, rfl⟩

/-- **A deletion that succeeds leaves nothing of the contact.** -/
theorem forgotten_deleteContact (userId : String) (s : Storage) :
    (s.deleteContact userId).Forgotten userId where
  contact := Table.find?_eq_none_iff.mpr fun c hc => by
    simpa using (Table.mem_deleteWhere.mp hc).2
  messages m hm := by simpa using (Table.mem_deleteWhere.mp hm).2
  session := by
    rw [secureLoad_deleteContact]
    exact if_pos (mentions_append "session_" userId)
  archive := by
    rw [secureLoad_deleteContact]
    exact if_pos (mentions_append "archive_" userId)

end Storage

namespace App

/-! ### A deletion that succeeds -/

theorem deleteContact_ok {userId : String} {db : Storage}
    (h : (deleteContact ans userId db).1 = .ok ()) :
    (deleteContact ans userId db).2 = db.deleteContact userId := by
  obtain ⟨-, hdel⟩ | ⟨-, ⟨-, hdel⟩ | ⟨-, ⟨-, hdel⟩ | ⟨-, hdel⟩⟩⟩ :=
    deleteContact_cases ans userId db <;> rw [hdel] at h ⊢
  · cases h
  · cases h
  · cases h
  · rfl

/-- How far a deletion came that failed. -/
theorem deleteContact_error {userId e : String} {db : Storage}
    (h : (deleteContact ans userId db).1 = .error e) :
    ans.sqlFails (.deleteContact 0) ∧ (deleteContact ans userId db).2 = db ∨
    ans.sqlFails (.deleteContact 0) = false ∧
      (ans.sqlFails (.deleteContact 1) ∧
        (deleteContact ans userId db).2 = db.deleteContactRow userId ∨
      ans.sqlFails (.deleteContact 1) = false ∧ (deleteContact ans userId db).2 =
        (db.deleteContactRow userId).deleteContactMessages userId) := by
  obtain ⟨h0, hdel⟩ | ⟨h0, ⟨h1, hdel⟩ | ⟨h1, ⟨-, hdel⟩ | ⟨-, hdel⟩⟩⟩ :=
    deleteContact_cases ans userId db <;> rw [hdel] at h ⊢
  · exact .inl ⟨h0, rfl⟩
  · exact .inr ⟨h0, .inl ⟨h1, rfl⟩⟩
  · exact .inr ⟨h0, .inr ⟨h1, rfl⟩⟩
  · cases h

end App

namespace Storage

theorem deleteWhere_eq_self_iff {κ α : Type} {key : α → κ} {t : Table key} {p : α → Bool} :
    t.deleteWhere p = t ↔ ∀ x ∈ t.rows, p x = false := by
  constructor
  · intro h x hx
    rw [← h] at hx
    exact (Table.mem_deleteWhere.mp hx).2
  · intro h
    refine Table.ext (List.filter_eq_self.mpr fun x hx => ?_)
    rw [h x hx]
    rfl

theorem deleteContactRow_eq_self_iff (userId : String) (s : Storage) :
    s.deleteContactRow userId = s ↔ s.getContactById userId = none := by
  have htable : s.deleteContactRow userId = s ↔
      (s.contacts.deleteWhere fun c => c.userId = userId) = s.contacts :=
    ⟨fun h => congrArg contacts h, fun h => by rw [deleteContactRow, h]⟩
  rw [htable, deleteWhere_eq_self_iff, getContactById, Table.find?_eq_none_iff]
  simp

theorem deleteContactMessages_eq_self_iff (userId : String) (s : Storage) :
    s.deleteContactMessages userId = s ↔ ∀ m ∈ s.messages.rows, m.peerId ≠ userId := by
  have htable : s.deleteContactMessages userId = s ↔
      (s.messages.deleteWhere fun m => m.peerId = userId) = s.messages :=
    ⟨fun h => congrArg messages h, fun h => by rw [deleteContactMessages, h]⟩
  rw [htable, deleteWhere_eq_self_iff]
  simp

end Storage

/-- The database, the list on screen and what the tasks are to do are as they were. -/
structure Sys.InPlace (s s' : Sys ε) : Prop where
  db : s'.db = s.db
  chatList : s'.app.chatList = s.app.chatList
  inboxes : s'.pipelines.map (fun p => (p.commands, p.world.selfTx)) =
    s.pipelines.map fun p => (p.commands, p.world.selfTx)

namespace App

/-- There is nothing to delete for the statements before the one that fails. -/
def NothingBefore (ans : Answers ε) (userId : String) (db : Storage) : Prop :=
  ans.sqlFails (.deleteContact 0) = true ∨ db.getContactById userId = none ∧
    (ans.sqlFails (.deleteContact 1) = true ∨ ∀ m ∈ db.messages.rows, m.peerId ≠ userId)

instance (ans : Answers ε) (userId : String) (db : Storage) :
    Decidable (NothingBefore ans userId db) := inferInstanceAs (Decidable (_ ∨ _))

/-- What a deletion has done to the database when it fails. -/
theorem deleteContact_error_eq_iff {userId e : String} {db : Storage}
    (h : (deleteContact ans userId db).1 = .error e) :
    (deleteContact ans userId db).2 = db ↔ NothingBefore ans userId db := by
  obtain ⟨h0, heq⟩ | ⟨h0, ⟨h1, heq⟩ | ⟨h1, heq⟩⟩ := deleteContact_error h
  · exact iff_of_true heq (.inl h0)
  · rw [heq, Storage.deleteContactRow_eq_self_iff]
    simp [NothingBefore, h0, h1]
  · have hboth : (db.deleteContactRow userId).deleteContactMessages userId = db ↔
        db.deleteContactRow userId = db ∧ db.deleteContactMessages userId = db := by
      constructor
      · intro hdb
        have hcontacts := congrArg Storage.contacts hdb
        have hmessages := congrArg Storage.messages hdb
        exact ⟨congrArg (fun t => { db with contacts := t }) hcontacts,
          congrArg (fun t => { db with messages := t }) hmessages⟩
      · rintro ⟨hrow, hmessages⟩
        rw [hrow, hmessages]
    rw [heq, hboth, Storage.deleteContactRow_eq_self_iff, Storage.deleteContactMessages_eq_self_iff]
    simp [NothingBefore, h0, h1]

/-- A confirmed deletion that fails touches nothing but the database. -/
theorem confirmDelete_error {s : Sys ε} {userId e : String}
    (hconfirm : s.app.deleteConfirm = some userId) (hread : s.app.readStorage)
    (h : (deleteContact ans userId s.db).1 = .error e) :
    (confirmDelete ans s).db = (deleteContact ans userId s.db).2 ∧
      (confirmDelete ans s).app.chatList = s.app.chatList ∧
      (confirmDelete ans s).pipelines.map (fun p => (p.commands, p.world.selfTx)) =
        s.pipelines.map fun p => (p.commands, p.world.selfTx) := by
  let asked : Sys ε := s.modApp fun a => { a with deleteConfirm := none }
  have hread' : asked.app.readStorage = true := hread
  have hrows : deleteRows ans userId asked =
      (.error e, markGone userId { asked with db := (deleteContact ans userId s.db).2 }) := by
    unfold deleteRows
    rw [if_pos hread']
    exact Prod.ext h rfl
  have hfails : confirmDelete ans s =
      (markGone userId { asked with db := (deleteContact ans userId s.db).2 }).setStatus
        ("Delete failed: " ++ e) := by
    unfold confirmDelete
    rw [hconfirm]
    dsimp only
    rw [hrows]
  rw [hfails]
  refine ⟨rfl, rfl, ?_⟩
  show (s.pipelines.map _).map _ = _
  rw [List.map_map]
  rfl

/-- **A failed deletion leaves everything in place exactly when the statements before the failing
one had nothing to delete.** -/
theorem failedDeletion_inPlace_iff {s : Sys ε} {userId e : String}
    (hconfirm : s.app.deleteConfirm = some userId) (hread : s.app.readStorage)
    (h : (deleteContact ans userId s.db).1 = .error e) :
    s.InPlace (confirmDelete ans s) ↔ NothingBefore ans userId s.db := by
  obtain ⟨hdb, hlist, hinboxes⟩ := confirmDelete_error hconfirm hread h
  rw [← deleteContact_error_eq_iff h]
  exact ⟨fun hplace => hdb.symm.trans hplace.db, fun heq => ⟨hdb.trans heq, hlist, hinboxes⟩⟩

/-- Answers with which one statement of a deletion fails. -/
def failingAt (part : ℕ) : Answers Unit :=
  { Answers.quiet with
    sqlFails := fun statement => statement = .deleteContact part
    error := "busy" }

/-- A client that asks whether to delete the contact `alice`. -/
def asking : Sys Unit :=
  { Sys.acquainted with app := { Sys.acquainted.app with
      readStorage := true, deleteConfirm := some "alice"
      chatList := ChatListPane.new.setContacts (Sys.acquainted.db.getContacts.map contactOf) } }

/-- The first statement fails. -/
theorem failedDeletion_inPlace_first : asking.InPlace (confirmDelete (failingAt 0) asking) :=
  (failedDeletion_inPlace_iff rfl rfl rfl).mpr (.inl rfl)

/-- The second statement fails: the contact is on screen still, and gone from the database. -/
theorem failedDeletion_half :
    (deleteContact (failingAt 1) "alice" asking.db).1 = .error "busy" ∧
      (confirmDelete (failingAt 1) asking).db.getContactById "alice" = none ∧
      (confirmDelete (failingAt 1) asking).app.chatList.contacts.map Contact.id = ["alice", "bob"] ∧
      ¬asking.InPlace (confirmDelete (failingAt 1) asking) := by
  refine ⟨rfl, by decide, by decide, fun h => ?_⟩
  have hdb := congrArg (Storage.getContactById "alice") h.db
  revert hdb
  decide

end App
