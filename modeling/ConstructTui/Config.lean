import ConstructTui.Storage

/-!
# The session on disk

The session file holds the device's private keys and its tokens, in clear or sealed under a key
derived from a passphrase. Sealing is symbolic: a sealed session opens under the key it was sealed
with and under no other. Reads and writes can fail at the points where the code returns early; a
write that fails half way leaves a file that is no session.

## Main definitions

* `Session`, `DerivedKeys`, `SessionKey`, `SessionFile`, `ConfigDir`.
* `ConfigDir.detectSession`, `ConfigDir.openSessionKey`, `ConfigDir.loadSessionEncrypted`,
  `ConfigDir.loadSession`.
* `ConfigDir.saveFile`, `ConfigDir.clearSession`.
-/

/-- Persisted device identity: keys and tokens. -/
structure Session where
  signingKeyHex : String
  identityKeyHex : String
  deviceId : String
  userId : String
  accessToken : String
  refreshToken : String
  expiresAt : ℤ
  spkKeyHex : String
  spkSigHex : String
  deriving DecidableEq, Repr

/-- The same identity with other tokens. -/
def Session.withTokens (session : Session) (accessToken refreshToken : String) (expiresAt : ℤ) :
    Session :=
  { session with accessToken := accessToken, refreshToken := refreshToken, expiresAt := expiresAt }

/-- The two keys split from one passphrase. -/
structure DerivedKeys where
  session : Bytes
  database : Bytes
  deriving DecidableEq, Repr

structure SessionKey where
  keys : DerivedKeys
  masterSalt : Bytes
  deriving DecidableEq, Repr

/-- The contents of a session file. An encrypted blob may have a salt that does not decode, and a
ciphertext that no key opens. -/
inductive SessionFile
  | encrypted (masterSalt : Option Bytes) (content : Option (Bytes × Session))
  | plaintext (session : Session)
  | garbage
  deriving DecidableEq, Repr

inductive SessionState
  | encrypted
  | plaintext
  | none
  deriving DecidableEq, Repr

/-- The configuration directory: the session file, its predecessor under the old name, and how
often a session has been written. -/
structure ConfigDir where
  enc : Option SessionFile
  legacy : Option SessionFile
  writes : ℕ
  deriving DecidableEq, Repr

/-- How a write of the session file ends. -/
inductive SaveOutcome
  | saved
  | notWritten (error : String)
  | halfWritten (error : String)
  | permissionsFailed (error : String)
  deriving DecidableEq, Repr

/-- How the removal of the session file ends. -/
inductive ClearOutcome
  | cleared
  | untouched (error : String)
  | overwritten (error : String)
  deriving DecidableEq, Repr

namespace ConfigDir

/-- `session_path`: a file under the old name is renamed unless there is one under the new. -/
def sessionPath (d : ConfigDir) : ConfigDir :=
  if d.enc.isNone then { d with enc := d.legacy, legacy := none } else d

/-- What kind of session file there is; one that cannot be read counts as none. -/
def detectSession (readable : Bool) (d : ConfigDir) : SessionState :=
  match d.sessionPath.enc with
  | none => .none
  | some file =>
    if !readable then .none
    else match file with
      | .encrypted _ _ => .encrypted
      | .plaintext _ | .garbage => .plaintext

/-- The key for an existing session, from the salt in its file. -/
def openSessionKey (deriveKeys : Bytes → Bytes → Except String DerivedKeys) (passphrase : Bytes)
    (d : ConfigDir) : Except String (Option SessionKey) :=
  match d.sessionPath.enc with
  | none => .ok none
  | some (.encrypted (some masterSalt) _) => do
    return some { keys := ← deriveKeys passphrase masterSalt, masterSalt := masterSalt }
  | some (.encrypted none _) => .error "bad salt encoding"
  | some _ => .error "session file is not in encrypted format"

def loadSessionEncrypted (sk : SessionKey) (d : ConfigDir) : Except String (Option Session) :=
  match d.sessionPath.enc with
  | none => .ok none
  | some (.encrypted _ (some (key, session))) =>
    if key = sk.keys.session then .ok (some session)
    else .error "Decryption failed — wrong passphrase?"
  | some (.encrypted _ none) => .error "bad ciphertext encoding"
  | some _ => .error "session file is not in encrypted format"

/-- Load a session kept in clear. -/
def loadSession (d : ConfigDir) : Except String (Option Session) :=
  match d.sessionPath.enc with
  | none => .ok none
  | some (.plaintext session) => .ok (some session)
  | some _ => .error "not a session"

/-- Write the session file. -/
def saveFile (file : SessionFile) (outcome : SaveOutcome) (d : ConfigDir) :
    Except String Unit × ConfigDir :=
  let d := d.sessionPath
  match outcome with
  | .saved => (.ok (), { d with enc := some file, writes := d.writes + 1 })
  | .notWritten e => (.error e, d)
  | .halfWritten e => (.error e, { d with enc := some .garbage, writes := d.writes + 1 })
  | .permissionsFailed e => (.error e, { d with enc := some file, writes := d.writes + 1 })

/-- The file a session is kept in: sealed when there is a key, in clear otherwise. -/
def sessionFile (session : Session) : Option SessionKey → SessionFile
  | some sk => .encrypted (some sk.masterSalt) (some (sk.keys.session, session))
  | none => .plaintext session

/-- Overwrite the session file with random bytes and remove it. -/
def clearSession (outcome : ClearOutcome) (d : ConfigDir) : Except String Unit × ConfigDir :=
  let d := d.sessionPath
  if d.enc.isNone then (.ok (), d)
  else match outcome with
    | .cleared => (.ok (), { d with enc := none })
    | .untouched e => (.error e, d)
    | .overwritten e => (.error e, { d with enc := some .garbage })

@[simp] theorem writes_sessionPath (d : ConfigDir) : d.sessionPath.writes = d.writes := by
  unfold sessionPath
  split <;> rfl

@[simp] theorem writes_clearSession (outcome : ClearOutcome) (d : ConfigDir) :
    (d.clearSession outcome).2.writes = d.writes := by
  unfold clearSession
  dsimp only
  split
  · exact writes_sessionPath d
  · cases outcome <;> exact writes_sessionPath d

end ConfigDir
