import ConstructTui.Lib.Recent
import ConstructTui.Storage

/-!
# The history of a conversation

The messages of a conversation are read newest first, up to a limit, and reversed. Their times are
milliseconds, and messages of one millisecond are read in the order of their insertion: reversed,
they come out the wrong way round, and a limit that falls among them keeps the oldest.

## Main definitions

* `StoreCall`, `Storage.storeAll`: messages stored one after the other.
* `conversation`: the messages of a peer, in the order they were stored.

## Main results

* `Storage.getMessages_eq_rtake_iff`: the history is the end of the conversation exactly when no
  message of that end shares its time with another of the conversation.
-/

/-- A call that stores a message. -/
inductive StoreCall
  | storeMessage (msg : StoredMessage)
  | storeInboundMessage (msg : StoredMessage)
  deriving DecidableEq, Repr

namespace StoreCall

def msg : StoreCall → StoredMessage
  | .storeMessage msg | .storeInboundMessage msg => msg

def run (s : Storage) : StoreCall → Storage
  | .storeMessage msg => s.storeMessage msg
  | .storeInboundMessage msg => s.storeInboundMessage msg

/-- A message with a new id goes behind all others. -/
theorem rows_run {s : Storage} {call : StoreCall}
    (h : call.msg.id ∉ s.messages.rows.map StoredMessage.id) :
    (call.run s).messages.rows = s.messages.rows ++ [call.msg] := by
  cases call with
  | storeMessage msg =>
    have hkept : s.messages.rows.filter (fun m => !decide (m.id = msg.id)) = s.messages.rows := by
      refine List.filter_eq_self.mpr fun m hm => ?_
      have hne : m.id ≠ msg.id := fun heq => h (List.mem_map.mpr ⟨m, hm, heq⟩)
      simpa using hne
    exact congrArg (· ++ [msg]) hkept
  | storeInboundMessage msg =>
    show (s.messages.insertOrIgnore msg).rows = _
    unfold Table.insertOrIgnore
    exact congrArg Table.rows (dif_neg h)

end StoreCall

/-- The messages of a peer, in the order they were stored. -/
def conversation (peerId : String) (calls : List StoreCall) : List StoredMessage :=
  (calls.map StoreCall.msg).filter fun m => m.peerId = peerId

namespace Storage

/-- One call after the other. -/
def storeAll (calls : List StoreCall) (s : Storage) : Storage := calls.foldl StoreCall.run s

/-- Messages with new ids go behind all others, in their order. -/
theorem rows_storeAll {calls : List StoreCall} {s : Storage}
    (h : (s.messages.rows.map StoredMessage.id ++ calls.map fun c => c.msg.id).Nodup) :
    (s.storeAll calls).messages.rows = s.messages.rows ++ calls.map StoreCall.msg := by
  induction calls generalizing s with
  | nil => exact (List.append_nil _).symm
  | cons call calls ih =>
    have hnew : call.msg.id ∉ s.messages.rows.map StoredMessage.id := fun hmem =>
      List.disjoint_of_nodup_append h hmem List.mem_cons_self
    have hrows := StoreCall.rows_run hnew
    have hrest : ((call.run s).messages.rows.map StoredMessage.id ++
        calls.map fun c => c.msg.id).Nodup := by
      rwa [hrows, List.map_append, List.append_assoc]
    calc (s.storeAll (call :: calls)).messages.rows
        = (call.run s).messages.rows ++ calls.map StoreCall.msg := ih hrest
      _ = s.messages.rows ++ (call :: calls).map StoreCall.msg := by
        rw [hrows, List.append_assoc]
        rfl

/-- **The history of a peer is the end of the conversation, in the order it was stored, exactly when
no message of that end has the time of another of the conversation.** A limit that is negative as a
signed number is none. -/
theorem getMessages_eq_rtake_iff {calls : List StoreCall}
    (hids : (calls.map fun c => c.msg.id).Nodup)
    (htimes : calls.Pairwise fun c d => c.msg.timestampMs ≤ d.msg.timestampMs) (peerId : String)
    (limit : ℕ) : (init.storeAll calls).getMessages peerId limit =
        (conversation peerId calls).rtake limit ↔
      (limit < 2 ^ 63 ∨ (conversation peerId calls).length ≤ limit) ∧
        ∀ m ∈ (conversation peerId calls).rtake limit, ∀ m' ∈ conversation peerId calls,
          m'.timestampMs = m.timestampMs → m' = m := by
  have hrows : (init.storeAll calls).messages.rows = calls.map StoreCall.msg := rows_storeAll hids
  have hnodup : (conversation peerId calls).Nodup := by
    refine List.Nodup.filter _ (List.Nodup.of_map StoredMessage.id ?_)
    rwa [List.map_map]
  have hsorted : (conversation peerId calls).Pairwise fun m m' => m.timestampMs ≤ m'.timestampMs :=
    List.Pairwise.filter _ (List.pairwise_map.mpr htimes :
      (calls.map StoreCall.msg).Pairwise fun m m' => m.timestampMs ≤ m'.timestampMs)
  let sorted := (conversation peerId calls).insertionSort fun m m' => m'.timestampMs ≤ m.timestampMs
  have hread : (init.storeAll calls).getMessages peerId limit =
      (if limit < 2 ^ 63 then sorted.take limit else sorted).reverse := by
    unfold getMessages
    rw [hrows]
    rfl
  by_cases hall : limit < 2 ^ 63 ∨ (conversation peerId calls).length ≤ limit
  · have htake : (if limit < 2 ^ 63 then sorted.take limit else sorted) = sorted.take limit := by
      obtain hlimit | hlength := hall
      · exact if_pos hlimit
      · rw [List.take_of_length_le ((List.length_insertionSort _ _).trans_le hlength), ite_self]
    rw [hread, htake, List.rtake_eq_reverse_take_reverse, List.reverse_inj,
      and_iff_right hall, ← List.rtake_eq_reverse_take_reverse]
    exact Recent.take_insertionSort_iff hnodup hsorted limit
  · refine iff_of_false (fun h => ?_) fun h => hall h.1
    obtain ⟨hlimit, hlength⟩ := not_or.mp hall
    rw [hread, if_neg hlimit] at h
    have hlengths := congrArg List.length h
    rw [List.length_reverse, List.length_insertionSort, List.rtake, List.length_drop] at hlengths
    omega

/-- A message for `bob` that waited for a session. -/
def waited (id : String) (timestampMs : ℤ) : StoreCall :=
  .storeMessage ⟨id, "bob", id, .sent, timestampMs, "sent"⟩

/-- Messages of different milliseconds. -/
theorem getMessages_apart : (init.storeAll [waited "m1" 5, waited "m2" 6]).getMessages "bob" 1 =
    (conversation "bob" [waited "m1" 5, waited "m2" 6]).rtake 1 :=
  (getMessages_eq_rtake_iff (by decide) (by decide) "bob" 1).mpr ⟨.inl (by decide), by decide⟩

/-- Two messages that leave the queue in one millisecond are shown in the other order, and the last
of them is not the first. -/
theorem getMessages_one_millisecond :
    (((init.storeAll [waited "m1" 5, waited "m2" 5]).getMessages "bob" 50).map StoredMessage.id =
        ["m2", "m1"]) ∧
      ((init.storeAll [waited "m1" 5, waited "m2" 5]).getMessages "bob" 1).map StoredMessage.id =
        ["m1"] := by
  decide

end Storage
