import Mathlib.Algebra.Order.Ring.Int
import Mathlib.Data.List.Sort
import ConstructTui.Lib.Table
import ConstructTui.Lib.Utf8

/-!
# The message database

The SQLite tables of the client, each a `Table` under its primary key, and the statements run on
them. Whether a statement succeeds is not decided here: a caller that runs one asks its
environment first, and a statement that fails changes nothing.

Redis stream ids are compared as pairs of numbers when both parse, and as strings otherwise.

## Main definitions

* `StoredMessage`, `StoredContact`, `Storage`.
* `Storage.storeMessage`, `Storage.storeInboundMessage`, `Storage.getMessages`.
* `cursorAfter`, `Storage.loadStreamCursor`.

## Main results

* `Storage.Alike`: what every statement of the orchestrator task but one keeps.
* `Storage.loadStreamCursor_secureSave_cursor`: a stored cursor is read back.
-/

/-- The bytes of a value. -/
abbrev Bytes := List UInt8

/-- Whether `needle` stands somewhere in `s`. -/
def containsText (s needle : String) : Bool :=
  s.toList.tails.any needle.toList.isPrefixOf

/-- Whether `s` starts with `start`. -/
def startsWithText (s start : String) : Bool := start.toList.isPrefixOf s.toList

/-! ### Rows -/

/-- The direction of a stored message; the schema checks that there is no other. -/
inductive Direction
  | sent
  | received
  | pending
  deriving DecidableEq, Repr

/-- A row of `messages`; `peerId` is the remote party. -/
structure StoredMessage where
  id : String
  peerId : String
  text : String
  direction : Direction
  timestampMs : ℤ
  deliveryStatus : String
  deriving DecidableEq, Repr

/-- The row with its delivery status set, when it is the message named. -/
def StoredMessage.deliveredIf (messageId : String) (m : StoredMessage) : StoredMessage :=
  if m.id = messageId then { m with deliveryStatus := "delivered" } else m

theorem StoredMessage.id_deliveredIf (messageId : String) (m : StoredMessage) :
    (m.deliveredIf messageId).id = m.id := by
  unfold deliveredIf
  split <;> rfl

/-- The row without its delivery status, the only part that is ever rewritten. -/
def StoredMessage.content (m : StoredMessage) : StoredMessage := { m with deliveryStatus := "" }

theorem StoredMessage.content_deliveredIf (m : StoredMessage) (messageId : String) :
    (m.deliveredIf messageId).content = m.content := by
  unfold deliveredIf
  split <;> rfl

/-- A row of `contacts`. -/
structure StoredContact where
  userId : String
  displayName : String
  identityKeyB64 : String
  deriving DecidableEq, Repr

/-- A map with string keys. -/
abbrev Dict (α : Type) := Table (Prod.fst : String × α → String)

/-- The database; `records` has no key of its own but the row number. -/
structure Storage where
  messages : Table StoredMessage.id
  contacts : Table StoredContact.userId
  pendingAcks : Dict ℤ
  secureStore : Dict Bytes
  records : List (String × String)

namespace Storage

/-- A database just created. -/
def init : Storage := ⟨Table.empty, Table.empty, Table.empty, Table.empty, []⟩

/-! ### Messages -/

def storeMessage (msg : StoredMessage) (s : Storage) : Storage :=
  { s with messages := s.messages.insertOrReplace msg }

/-- Inbound path: a replay does not overwrite the row it repeats. -/
def storeInboundMessage (msg : StoredMessage) (s : Storage) : Storage :=
  { s with messages := s.messages.insertOrIgnore msg }

/-- The `limit` most recent messages of a conversation, in chronological order. Rows of one
millisecond leave the index `(peer_id, timestamp_ms DESC)` in the order of their insertion, and a
limit that is negative as a signed number is none. -/
def getMessages (peerId : String) (limit : ℕ) (s : Storage) : List StoredMessage :=
  let rows := (s.messages.rows.filter fun m => m.peerId = peerId).insertionSort
    fun a b => b.timestampMs ≤ a.timestampMs
  (if limit < 2 ^ 63 then rows.take limit else rows).reverse

/-- A conversation holds rows of its peer only. -/
theorem mem_of_mem_getMessages {peerId : String} {limit : ℕ} {s : Storage} {m : StoredMessage}
    (h : m ∈ s.getMessages peerId limit) : m ∈ s.messages.rows ∧ m.peerId = peerId := by
  have hrows : m ∈ (s.messages.rows.filter fun m => m.peerId = peerId).insertionSort
      fun a b => b.timestampMs ≤ a.timestampMs := by
    unfold getMessages at h
    dsimp only at h
    rw [List.mem_reverse] at h
    split at h
    · exact List.mem_of_mem_take h
    · exact h
  simpa using hrows

def markDelivered (messageId : String) (s : Storage) : Storage :=
  { s with messages := s.messages.update _ (StoredMessage.id_deliveredIf messageId) }

/-! ### Contacts -/

def getContactById (userId : String) (s : Storage) : Option StoredContact :=
  s.contacts.find? userId

/-- All contacts by name. -/
def getContacts (s : Storage) : List StoredContact :=
  s.contacts.rows.insertionSort fun a b => a.displayName ≤ b.displayName

def upsertContact (contact : StoredContact) (s : Storage) : Storage :=
  { s with contacts := s.contacts.insertOrReplace contact }

/-! ### Acknowledgements -/

def storeAck (messageId : String) (timestampMs : ℤ) (s : Storage) : Storage :=
  { s with pendingAcks := s.pendingAcks.insertOrIgnore (messageId, timestampMs) }

def pruneAcks (cutoffMs : ℤ) (s : Storage) : Storage :=
  { s with pendingAcks := s.pendingAcks.deleteWhere fun a => a.2 < cutoffMs }

def hasAck (messageId : String) (s : Storage) : Bool := (s.pendingAcks.find? messageId).isSome

/-! ### Secure key-value store -/

def secureSave (key : String) (value : Bytes) (s : Storage) : Storage :=
  { s with secureStore := s.secureStore.insertOrReplace (key, value) }

def secureDelete (key : String) (s : Storage) : Storage :=
  { s with secureStore := s.secureStore.deleteWhere fun r => r.1 = key }

/-- An empty value asks for the key to be deleted. -/
def secureSaveOrDelete (key : String) (value : Bytes) (s : Storage) : Storage :=
  if value.isEmpty then s.secureDelete key else s.secureSave key value

def secureLoad (key : String) (s : Storage) : Option Bytes :=
  (s.secureStore.find? key).map Prod.snd

def persistRecord (tableName json : String) (s : Storage) : Storage :=
  { s with records := s.records ++ [(tableName, json)] }

/-! ### Deleting a contact -/

/-- The characters that `LIKE` does not tell apart. -/
def likeFold (c : Char) : Char := if 'A' ≤ c ∧ c ≤ 'Z' then Char.ofNat (c.toNat + 32) else c

/-- SQLite's `LIKE`, with `%` for any characters and `_` for one. -/
def likeChars : List Char → List Char → Bool
  | [], text => text.isEmpty
  | p :: pat, text =>
    if p = '%' then text.tails.any (likeChars pat)
    else match text with
      | [] => false
      | c :: text => (p = '_' || likeFold p = likeFold c) && likeChars pat text

/-- The rows that mention the contact go from `contacts`, `messages` and `secure_store`, one
statement after the other. -/
def deleteContactRow (userId : String) (s : Storage) : Storage :=
  { s with contacts := s.contacts.deleteWhere fun c => c.userId = userId }

def deleteContactMessages (userId : String) (s : Storage) : Storage :=
  { s with messages := s.messages.deleteWhere fun m => m.peerId = userId }

def deleteContactSecrets (userId : String) (s : Storage) : Storage :=
  { s with secureStore := s.secureStore.deleteWhere fun r =>
      likeChars ('%' :: userId.toList ++ ['%']) r.1.toList }

end Storage

/-! ### Stream cursors -/

/-- The digits of an unsigned number, most significant first. -/
def digitsValue : List Char → ℕ → Option ℕ
  | [], acc => some acc
  | c :: cs, acc => if c.isDigit then digitsValue cs (10 * acc + (c.toNat - 48)) else none

/-- `str::parse::<u64>`: at least one digit, an optional `+`, and no overflow. -/
def parseU64 (cs : List Char) : Option ℕ :=
  let digits := match cs with
    | '+' :: ds => ds
    | ds => ds
  if digits.isEmpty then none else (digitsValue digits 0).filter fun n => n < 2 ^ 64

/-- The parts before and after the first `sep`. -/
def splitOnce (sep : Char) : List Char → Option (List Char × List Char)
  | [] => none
  | c :: cs => if c = sep then some ([], cs) else (splitOnce sep cs).map fun p => (c :: p.1, p.2)

def parseStreamCursor (s : String) : Option (ℕ × ℕ) := do
  let (ms, seq) ← splitOnce '-' s.toList
  return (← parseU64 ms, ← parseU64 seq)

/-- Redis stream ids are `<millis>-<seq>`. True when `new` is strictly after `old`. -/
def cursorAfter (new old : String) : Bool :=
  match parseStreamCursor new, parseStreamCursor old with
  | some a, some b => b.1 < a.1 || (b.1 = a.1 && b.2 < a.2)
  | _, _ => old < new

namespace Storage

/-- The key of the stream watermark in `secure_store`. -/
def streamCursorKey : String := "stream_cursor"

def loadStreamCursor (s : Storage) : Option String :=
  ((s.secureLoad streamCursorKey).bind Utf8.decode?).filter fun c => c ≠ ""

def clearStreamCursor (s : Storage) : Storage := s.secureDelete streamCursorKey

/-! ### What a statement leaves alone -/

theorem secureLoad_secureSave_self (key : String) (value : Bytes) (s : Storage) :
    (s.secureSave key value).secureLoad key = some value :=
  congrArg (Option.map Prod.snd) (Table.find?_insertOrReplace_self s.secureStore (key, value))

theorem secureLoad_secureSave_of_ne {key key' : String} (h : key ≠ key') (value : Bytes)
    (s : Storage) : (s.secureSave key value).secureLoad key' = s.secureLoad key' :=
  congrArg (Option.map Prod.snd) (Table.find?_insertOrReplace_of_ne (x := (key, value)) h)

theorem secureLoad_secureDelete_self (key : String) (s : Storage) :
    (s.secureDelete key).secureLoad key = none :=
  congrArg (Option.map Prod.snd) (Table.find?_deleteWhere_key_self s.secureStore key)

theorem secureLoad_secureDelete_of_ne {key key' : String} (h : key ≠ key') (s : Storage) :
    (s.secureDelete key).secureLoad key' = s.secureLoad key' :=
  congrArg (Option.map Prod.snd) (Table.find?_deleteWhere_key_of_ne h)

theorem secureLoad_secureDelete_none {key key' : String} {s : Storage}
    (h : s.secureLoad key' = none) : (s.secureDelete key).secureLoad key' = none := by
  by_cases hkey : key = key'
  · rw [← hkey, secureLoad_secureDelete_self]
  · rwa [secureLoad_secureDelete_of_ne hkey]

/-- A stored cursor is read back. -/
theorem loadStreamCursor_secureSave_cursor {cursor : String} (h : cursor ≠ "") (s : Storage) :
    (s.secureSave streamCursorKey (Utf8.encode cursor)).loadStreamCursor = some cursor := by
  simp [loadStreamCursor, secureLoad_secureSave_self, h]

/-- `s'` has the messages of `s`, up to their delivery status, and its watermark. -/
structure Alike (s s' : Storage) : Prop where
  messages : s'.messages.rows.map StoredMessage.content = s.messages.rows.map StoredMessage.content
  cursor : s'.loadStreamCursor = s.loadStreamCursor

namespace Alike

theorem of_eq {s s' : Storage} (hm : s'.messages = s.messages)
    (hc : s'.secureStore = s.secureStore) : s.Alike s' where
  messages := by rw [hm]
  cursor := by rw [loadStreamCursor, secureLoad, hc]; rfl

theorem refl (s : Storage) : s.Alike s := of_eq rfl rfl

theorem markDelivered (messageId : String) (s : Storage) :
    s.Alike (s.markDelivered messageId) where
  messages := by
    show (s.messages.rows.map _).map _ = _
    rw [List.map_map]
    exact List.map_congr_left fun m _ => StoredMessage.content_deliveredIf m messageId
  cursor := rfl

theorem secureSave {key : String} (h : key ≠ streamCursorKey) (value : Bytes) (s : Storage) :
    s.Alike (s.secureSave key value) where
  messages := rfl
  cursor := by rw [loadStreamCursor, secureLoad_secureSave_of_ne h]; rfl

theorem secureDelete {key : String} (h : key ≠ streamCursorKey) (s : Storage) :
    s.Alike (s.secureDelete key) where
  messages := rfl
  cursor := by rw [loadStreamCursor, secureLoad_secureDelete_of_ne h]; rfl

theorem secureSaveOrDelete {key : String} (h : key ≠ streamCursorKey) (value : Bytes)
    (s : Storage) : s.Alike (s.secureSaveOrDelete key value) := by
  unfold Storage.secureSaveOrDelete
  split
  · exact secureDelete h s
  · exact secureSave h value s

end Alike

/-! ### Keys of a contact's sessions -/

def archiveKey (contactId : String) : String := "archive_" ++ contactId

def sessionKey (contactId : String) : String := "session_" ++ contactId

def orchestratorStateKey : String := "construct.orchestrator_state"

theorem append_ne_of_toList {a b c : String} (h : ¬a.toList <+: c.toList) : a ++ b ≠ c := by
  rintro rfl
  exact h ⟨b.toList, (String.toList_append ..).symm⟩

theorem archiveKey_ne (contactId : String) : archiveKey contactId ≠ streamCursorKey :=
  append_ne_of_toList (by decide)

theorem sessionKey_ne (contactId : String) : sessionKey contactId ≠ streamCursorKey :=
  append_ne_of_toList (by decide)

theorem orchestratorStateKey_ne : orchestratorStateKey ≠ streamCursorKey := by decide

end Storage
