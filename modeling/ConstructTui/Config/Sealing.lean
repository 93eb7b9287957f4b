import ConstructTui.Config
import ConstructTui.Lib.Base64
import ConstructTui.Lib.Checked
import ConstructTui.Lib.Hex
import ConstructTui.Lib.Run

/-!
# Sealing the session

The session file is JSON: a salt, a nonce, and the session as JSON, encrypted under a key that is
derived from the passphrase and the salt, each in base64. The salt is made once, with the first key.
Every later key is derived from the salt in the file, and every write puts the salt of its key
there, so the file can be opened with the passphrase after any writes and restarts.

## Main definitions

* `SealLibs`: the encodings, the derivation of keys and the cipher.
* `ConfigFiles`: the texts of the session file and its predecessor.
* `Sealing.detectSession`, `Sealing.readMasterSalt`, `Sealing.openSessionKey`,
  `Sealing.createSessionKey`, `Sealing.saveSessionEncrypted`, `Sealing.loadSessionEncrypted`.
* `Sealing.Device`, `Sealing.Device.step`: writes with the keys at hand, and restarts.
* `Sealing.Models`: the files behind a `ConfigDir`.

## Main results

* `Sealing.unlock_after_saves`: the passphrase opens the file after any run.
* `Sealing.Models.save`, `Sealing.Models.detectSession_eq`, `Sealing.Models.openSessionKey_eq`,
  `Sealing.Models.load`: a `ConfigDir` does what its files do.
-/

/-- What is kept of a sealed session. -/
structure EncryptedSession where
  v : ℕ
  salt : String
  nonce : String
  ciphertext : String
  deriving DecidableEq, Repr

/-- What sealing uses from outside: the password hash, the expansion of a master key for a purpose
to 32 bytes, the cipher under a key and a nonce, base64, and JSON. What is encoded or encrypted
comes back. -/
structure SealLibs where
  argon2 : Bytes → Bytes → Except String Bytes
  hkdfExpand : Bytes → String → Except String Bytes
  length_hkdfExpand : ∀ master info key, hkdfExpand master info = .ok key → key.length = 32
  encrypt : Bytes → Bytes → Bytes → Option Bytes
  decrypt : Bytes → Bytes → Bytes → Option Bytes
  decrypt_encrypt : ∀ key nonce plaintext ciphertext,
    encrypt key nonce plaintext = some ciphertext → decrypt key nonce ciphertext = some plaintext
  b64Encode : Bytes → String
  b64Decode : String → Option Bytes
  b64_decode_encode : ∀ bs, b64Decode (b64Encode bs) = some bs
  sessionToJson : Session → Except String Bytes
  sessionFromJson : Bytes → Except String Session
  session_json : ∀ session bs, sessionToJson session = .ok bs → sessionFromJson bs = .ok session
  toJson : EncryptedSession → Except String String
  fromJson : String → Except String EncryptedSession
  json : ∀ enc text, toJson enc = .ok text → fromJson text = .ok enc

/-- The texts of the session file, and of the one under the old name. -/
structure ConfigFiles where
  enc : Option String
  legacy : Option String
  deriving DecidableEq, Repr

abbrev Salt := { bs : Bytes // bs.length = 16 }

abbrev AesNonce := { bs : Bytes // bs.length = 12 }

/-- What goes wrong when a file is to be found or read. -/
structure Faults where
  path : Option String
  read : Option String

def Faults.none : Faults := ⟨.none, .none⟩

/-- How the write of a file ends; one that fails can leave a part. -/
inductive WriteOutcome
  | written
  | failed (error : String) (part : Option String)
  | permissionsFailed (error : String)

/-- The file is written, or left alone. -/
def WriteOutcome.whole : WriteOutcome → Bool
  | .written => true
  | .failed _ part => part.isNone
  | .permissionsFailed _ => false

namespace Sealing

open Checked (bind_eq_ok)

variable (L : SealLibs)

/-! ### Keys -/

def deriveKeysFromMaster (master : Bytes) : Except String DerivedKeys := do
  let session ← L.hkdfExpand master "construct-session-v1"
  let database ← L.hkdfExpand master "construct-database-v1"
  return ⟨session, database⟩

def deriveKeys (passphrase : Bytes) (salt : Salt) : Except String SessionKey := do
  let master ← L.argon2 passphrase salt.val
  let keys ← deriveKeysFromMaster L master
  return ⟨keys, salt.val⟩

/-- A key for a new identity; `salt` is random. -/
def createSessionKey (passphrase : Bytes) (salt : Salt) : Except String SessionKey :=
  deriveKeys L passphrase salt

/-! ### Files -/

/-- `session_path`: a file under the old name is renamed unless there is one under the new. -/
def sessionPath (d : ConfigFiles) : ConfigFiles :=
  if d.enc.isNone then ⟨d.legacy, none⟩ else d

/-- The text of the session file, if there is one. -/
def readFile (faults : Faults) (d : ConfigFiles) : Except String (Option String) :=
  match faults.path with
  | some e => .error e
  | none =>
    match (sessionPath d).enc, faults.read with
    | none, _ => .ok none
    | some _, some e => .error e
    | some text, none => .ok (some text)

def detectSession (faults : Faults) (d : ConfigFiles) : SessionState :=
  match readFile faults d with
  | .error _ | .ok none => .none
  | .ok (some text) => if (L.fromJson text).toBool then .encrypted else .plaintext

def context {α : Type} (msg : String) : Option α → Except String α
  | some a => .ok a
  | none => .error msg

def parseEncrypted (text : String) : Except String EncryptedSession :=
  context "session file is not in encrypted format" (L.fromJson text).toOption

/-- The salt in a sealed session. -/
def saltOf (enc : EncryptedSession) : Except String Salt := do
  let salt ← context "bad salt encoding" (L.b64Decode enc.salt)
  if h : salt.length = 16 then return ⟨salt, h⟩
  else throw ("unexpected salt length: " ++ toString salt.length ++ " (expected 16)")

def readMasterSalt (faults : Faults) (d : ConfigFiles) : Except String (Option Salt) := do
  match ← readFile faults d with
  | none => return none
  | some text => return some (← saltOf L (← parseEncrypted L text))

/-- The key for the session that is there. -/
def openSessionKey (faults : Faults) (passphrase : Bytes) (d : ConfigFiles) :
    Except String (Option SessionKey) := do
  match ← readMasterSalt L faults d with
  | none => return none
  | some salt => return some (← deriveKeys L passphrase salt)

/-- `Aes256Gcm::new_from_slice`. -/
def initCipher (key : Bytes) : Except String Unit :=
  if key.length = 32 then .ok () else .error "AES-GCM init failed"

/-- The session under the key, as it goes to the file. -/
def encryptSession (session : Session) (sk : SessionKey) (nonce : AesNonce) :
    Except String EncryptedSession := do
  initCipher sk.keys.session
  let plaintext ← L.sessionToJson session
  let ciphertext ← context "AES-GCM encrypt failed" (L.encrypt sk.keys.session nonce.val plaintext)
  return ⟨1, L.b64Encode sk.masterSalt, L.b64Encode nonce.val, L.b64Encode ciphertext⟩

/-- Write a text to the session file. -/
def writeFile (text : String) (outcome : WriteOutcome) (d : ConfigFiles) :
    Except String Unit × ConfigFiles :=
  match outcome with
  | .written => (.ok (), { d with enc := some text })
  | .failed e none => (.error e, d)
  | .failed e (some part) => (.error e, { d with enc := some part })
  | .permissionsFailed e => (.error e, { d with enc := some text })

/-- Seal the session and write it; `nonce` is random. -/
def saveSessionEncrypted (session : Session) (sk : SessionKey) (nonce : AesNonce) (faults : Faults)
    (outcome : WriteOutcome) (d : ConfigFiles) : Except String Unit × ConfigFiles :=
  match encryptSession L session sk nonce, faults.path with
  | .error e, _ => (.error e, d)
  | .ok _, some e => (.error e, d)
  | .ok enc, none =>
    match L.toJson enc with
    | .error e => (.error e, sessionPath d)
    | .ok text => writeFile text outcome (sessionPath d)

/-- Open a sealed session; a nonce of another length panics. -/
def decryptSession (sk : SessionKey) (enc : EncryptedSession) : ExceptT String Checked Session := do
  let nonce ← context "bad nonce encoding" (L.b64Decode enc.nonce)
  let ciphertext ← context "bad ciphertext encoding" (L.b64Decode enc.ciphertext)
  initCipher sk.keys.session
  if nonce.length = 12 then
    let plaintext ← context "Decryption failed — wrong passphrase?"
      (L.decrypt sk.keys.session nonce ciphertext)
    L.sessionFromJson plaintext
  else (show Checked (Except String Session) from .error .slice)

def loadSessionEncrypted (faults : Faults) (sk : SessionKey) (d : ConfigFiles) :
    ExceptT String Checked (Option Session) := do
  match ← readFile faults d with
  | none => return none
  | some text => return some (← decryptSession L sk (← parseEncrypted L text))

/-! ### What is written comes back -/

variable {L}

@[simp] theorem context_eq_ok {α : Type} {msg : String} {o : Option α} {a : α} :
    context msg o = .ok a ↔ o = some a := by
  cases o <;> simp [context]

/-- The session file holds a session that is sealed with a salt and under a key. -/
def Holds (L : SealLibs) (salt : Salt) (sk : SessionKey) (session : Session) (d : ConfigFiles) :
    Prop :=
  ∃ text enc, d.enc = some text ∧ L.fromJson text = .ok enc ∧ saltOf L enc = .ok salt ∧
    decryptSession L sk enc = ExceptT.mk (.ok (.ok session))

variable {salt : Salt} {sk : SessionKey} {session : Session} {nonce : AesNonce} {d : ConfigFiles}

theorem saltOf_encoded {enc : EncryptedSession} (h : enc.salt = L.b64Encode salt.val) :
    saltOf L enc = .ok salt := by
  unfold saltOf
  rw [h, L.b64_decode_encode]
  exact dif_pos salt.property

/-- A sealed session carries the salt of its key and opens under it. -/
theorem decryptSession_encryptSession {enc : EncryptedSession}
    (h : encryptSession L session sk nonce = .ok enc) : enc.salt = L.b64Encode sk.masterSalt ∧
      decryptSession L sk enc = ExceptT.mk (.ok (.ok session)) := by
  unfold encryptSession at h
  simp only [bind_eq_ok, context_eq_ok] at h
  obtain ⟨_, hinit, plaintext, hplain, ciphertext, hcipher, henc⟩ := h
  obtain rfl := Except.ok.inj henc
  refine ⟨rfl, ?_⟩
  have hdecrypt := L.decrypt_encrypt _ _ _ _ hcipher
  have hsession := L.session_json _ _ hplain
  unfold decryptSession
  rw [L.b64_decode_encode, L.b64_decode_encode, hinit]
  show (if nonce.val.length = 12 then _ else _ : ExceptT String Checked Session) = _
  rw [if_pos nonce.property, hdecrypt]
  show (liftM (L.sessionFromJson plaintext) : ExceptT String Checked Session) = _
  rw [hsession]
  rfl

/-- A write puts a sealed session into the file, or fails and leaves what is there. -/
theorem save_cases (session : Session) (sk : SessionKey) (nonce : AesNonce) (faults : Faults)
    {outcome : WriteOutcome} (hwhole : outcome.whole) (d : ConfigFiles) :
    (∃ enc text, encryptSession L session sk nonce = .ok enc ∧ L.toJson enc = .ok text ∧
      saveSessionEncrypted L session sk nonce faults outcome d =
        (.ok (), { sessionPath d with enc := some text })) ∨
    ∃ e d', saveSessionEncrypted L session sk nonce faults outcome d = (.error e, d') ∧
      (d' = d ∨ d' = sessionPath d) := by
  unfold saveSessionEncrypted
  cases henc : encryptSession L session sk nonce with
  | error e => exact .inr ⟨e, d, rfl, .inl rfl⟩
  | ok enc =>
    cases faults.path with
    | some e => exact .inr ⟨e, d, rfl, .inl rfl⟩
    | none =>
      dsimp only
      cases htext : L.toJson enc with
      | error e => exact .inr ⟨e, _, rfl, .inr rfl⟩
      | ok text =>
        cases outcome with
        | written => exact .inl ⟨enc, text, rfl, htext, rfl⟩
        | failed e part =>
          obtain rfl := Option.isNone_iff_eq_none.mp hwhole
          exact .inr ⟨e, _, rfl, .inr rfl⟩
        | permissionsFailed e => cases hwhole

theorem sessionPath_of_holds (h : Holds L salt sk session d) : sessionPath d = d := by
  obtain ⟨text, _, htext, -⟩ := h
  unfold sessionPath
  rw [htext]
  rfl

theorem readFile_of_holds (h : Holds L salt sk session d) :
    readFile .none d = .ok d.enc := by
  have hpath := sessionPath_of_holds h
  obtain ⟨text, _, htext, -⟩ := h
  unfold readFile
  dsimp only [Faults.none]
  rw [hpath, htext]

/-! ### What is read -/

theorem detectSession_of_holds (h : Holds L salt sk session d) :
    detectSession L .none d = .encrypted := by
  have hread := readFile_of_holds h
  obtain ⟨text, enc, htext, hjson, -⟩ := h
  unfold detectSession
  rw [hread, htext]
  dsimp only
  rw [hjson]
  rfl

theorem parseEncrypted_of_json {text : String} {enc : EncryptedSession}
    (h : L.fromJson text = .ok enc) : parseEncrypted L text = .ok enc := by
  unfold parseEncrypted
  rw [h]
  rfl

theorem readMasterSalt_of_holds {faults : Faults} (hfaults : readFile faults d = .ok d.enc)
    (h : Holds L salt sk session d) : readMasterSalt L faults d = .ok (some salt) := by
  obtain ⟨text, enc, htext, hjson, hsalt, -⟩ := h
  unfold readMasterSalt
  rw [hfaults, htext]
  show (do let enc ← parseEncrypted L text; return some (← saltOf L enc)) = _
  rw [parseEncrypted_of_json hjson]
  show (do return some (← saltOf L enc)) = _
  rw [hsalt]
  rfl

theorem openSessionKey_of_holds {passphrase : Bytes} (hkey : deriveKeys L passphrase salt = .ok sk)
    (h : Holds L salt sk session d) {faults : Faults} (hfaults : readFile faults d = .ok d.enc) :
    openSessionKey L faults passphrase d = .ok (some sk) := by
  unfold openSessionKey
  rw [readMasterSalt_of_holds hfaults h]
  show (do return some (← deriveKeys L passphrase salt)) = _
  rw [hkey]
  rfl

theorem loadSessionEncrypted_of_holds (h : Holds L salt sk session d) :
    loadSessionEncrypted L .none sk d = ExceptT.mk (.ok (.ok (some session))) := by
  have hread := readFile_of_holds h
  obtain ⟨text, enc, htext, hjson, -, hopens⟩ := h
  unfold loadSessionEncrypted
  rw [hread, htext]
  show (do let enc ← liftM (parseEncrypted L text); return some (← decryptSession L sk enc)) = _
  rw [parseEncrypted_of_json hjson]
  show (do return some (← decryptSession L sk enc)) = _
  rw [hopens]
  rfl

/-! ### Writes and restarts -/

/-- The files, the keys that the code has returned, and the session written last. -/
structure Device where
  files : ConfigFiles
  keys : List SessionKey
  last : Option Session

/-- A device with a key for a new identity. -/
def Device.start (files : ConfigFiles) (sk : SessionKey) : Device := ⟨files, [sk], none⟩

inductive SessionCall
  | save (session : Session) (sk : SessionKey) (nonce : AesNonce) (faults : Faults)
      (outcome : WriteOutcome)
  | openKey (faults : Faults)

/-- A write with a key at hand, or a key derived again once a session has been written. -/
def Device.step (L : SealLibs) (passphrase : Bytes) (s : Device) : SessionCall → Option Device
  | .save session sk nonce faults outcome =>
    if sk ∈ s.keys ∧ outcome.whole then
      match saveSessionEncrypted L session sk nonce faults outcome s.files with
      | (.ok _, files) => some { s with files := files, last := some session }
      | (.error _, files) => some { s with files := files }
    else none
  | .openKey faults =>
    if s.last.isSome then
      match openSessionKey L faults passphrase s.files with
      | .ok (some sk) => some { s with keys := sk :: s.keys }
      | .ok none | .error _ => some s
    else none

/-- Every key at hand is the first one, and the file holds the session written last. -/
structure Device.Sealed (L : SealLibs) (salt : Salt) (sk : SessionKey) (s : Device) : Prop where
  keys : ∀ key ∈ s.keys, key = sk
  files : ∀ session, s.last = some session → Holds L salt sk session s.files

theorem masterSalt_of_deriveKeys {passphrase : Bytes} (h : deriveKeys L passphrase salt = .ok sk) :
    sk.masterSalt = salt.val := by
  unfold deriveKeys at h
  simp only [bind_eq_ok] at h
  obtain ⟨_, -, keys, -, hsk⟩ := h
  obtain rfl := Except.ok.inj hsk
  rfl

/-- Where a sealed session is, it is read, or reading fails. -/
theorem readFile_cases (h : Holds L salt sk session d) (faults : Faults) :
    readFile faults d = .ok d.enc ∨ ∃ e, readFile faults d = .error e := by
  have hpath := sessionPath_of_holds h
  obtain ⟨text, _, htext, -⟩ := h
  unfold readFile
  rw [hpath, htext]
  cases faults.path with
  | some e => exact .inr ⟨e, rfl⟩
  | none =>
    cases faults.read with
    | some e => exact .inr ⟨e, rfl⟩
    | none => exact .inl rfl

variable {passphrase : Bytes}

/-- A write keeps the salt, with whichever key at hand. -/
theorem Device.Sealed.save {s s' : Device} {key : SessionKey} {faults : Faults}
    {outcome : WriteOutcome} (hkey : deriveKeys L passphrase salt = .ok sk) (h : s.Sealed L salt sk)
    (hs : s.step L passphrase (.save session key nonce faults outcome) = some s') :
    s'.Sealed L salt sk := by
  rw [step, Option.ite_none_right_eq_some] at hs
  obtain ⟨⟨hmem, hwhole⟩, hs⟩ := hs
  obtain rfl := h.keys key hmem
  obtain ⟨enc, text, henc, htext, hsave⟩ | ⟨e, files, hsave, hfiles⟩ :=
    save_cases session key nonce faults hwhole s.files
  · rw [hsave] at hs
    obtain rfl := Option.some.inj hs
    obtain ⟨hsalt, hopens⟩ := decryptSession_encryptSession henc
    rw [masterSalt_of_deriveKeys hkey] at hsalt
    refine ⟨h.keys, fun session' hlast => ?_⟩
    obtain rfl := Option.some.inj hlast
    exact ⟨text, enc, rfl, L.json _ _ htext, saltOf_encoded hsalt, hopens⟩
  · rw [hsave] at hs
    obtain rfl := Option.some.inj hs
    refine ⟨h.keys, fun session' hlast => ?_⟩
    have hholds := h.files session' hlast
    obtain rfl | rfl := hfiles
    · exact hholds
    · show Holds L salt key session' (sessionPath s.files)
      rw [sessionPath_of_holds hholds]
      exact hholds

/-- A key derived from the file is the first key. -/
theorem Device.Sealed.openKey {s s' : Device} {faults : Faults}
    (hkey : deriveKeys L passphrase salt = .ok sk) (h : s.Sealed L salt sk)
    (hs : s.step L passphrase (.openKey faults) = some s') : s'.Sealed L salt sk := by
  rw [step, Option.ite_none_right_eq_some] at hs
  obtain ⟨hlast, hs⟩ := hs
  obtain ⟨session, hsession⟩ := Option.isSome_iff_exists.mp hlast
  have hholds := h.files session hsession
  obtain hread | ⟨e, hread⟩ := readFile_cases hholds faults
  · rw [openSessionKey_of_holds hkey hholds hread] at hs
    obtain rfl := Option.some.inj hs
    refine ⟨fun key hmem => ?_, h.files⟩
    rcases List.mem_cons.mp hmem with rfl | hmem
    · rfl
    · exact h.keys key hmem
  · have hopen : openSessionKey L faults passphrase s.files = .error e := by
      unfold openSessionKey readMasterSalt
      rw [hread]
      rfl
    rw [hopen] at hs
    obtain rfl := Option.some.inj hs
    exact h

/-- After any writes and restarts the session file is sealed, with the salt of the first key; the
passphrase derives the first key again; and every key at hand opens it, to the session written
last. -/
theorem unlock_after_saves {files : ConfigFiles} {calls : List SessionCall} {s : Device}
    (hkey : createSessionKey L passphrase salt = .ok sk)
    (hrun : Run.after (Device.step L passphrase) (Device.start files sk) calls = some s)
    (hsaved : s.last = some session) :
    detectSession L .none s.files = .encrypted ∧
      readMasterSalt L .none s.files = .ok (some salt) ∧
      openSessionKey L .none passphrase s.files = .ok (some sk) ∧
      ∀ key ∈ s.keys,
        loadSessionEncrypted L .none key s.files = ExceptT.mk (.ok (.ok (some session))) := by
  have hsealed : s.Sealed L salt sk := by
    refine Run.invariant (I := Device.Sealed L salt sk) (fun s call s' h hs => ?_) ?_ hrun
    · cases call with
      | save session key nonce faults outcome => exact h.save hkey hs
      | openKey faults => exact h.openKey hkey hs
    · exact ⟨fun key hmem => List.mem_singleton.mp hmem, fun session h => by cases h⟩
  have hholds := hsealed.files session hsaved
  have hread := readFile_of_holds hholds
  refine ⟨detectSession_of_holds hholds, readMasterSalt_of_holds hread hholds,
    openSessionKey_of_holds hkey hholds hread, fun key hmem => ?_⟩
  rw [hsealed.keys key hmem]
  exact loadSessionEncrypted_of_holds hholds

/-- A write with a key at hand that succeeds. -/
theorem Device.step_save {s : Device} {enc : EncryptedSession} {text : String} (hmem : sk ∈ s.keys)
    (henc : encryptSession L session sk nonce = .ok enc) (htext : L.toJson enc = .ok text) :
    s.step L passphrase (.save session sk nonce .none .written) = some
      { s with files := { sessionPath s.files with enc := some text }, last := some session } := by
  have hsave : saveSessionEncrypted L session sk nonce .none .written s.files =
      (.ok (), { sessionPath s.files with enc := some text }) := by
    unfold saveSessionEncrypted
    rw [henc]
    dsimp only [Faults.none]
    rw [htext]
    rfl
  rw [step, if_pos ⟨hmem, rfl⟩, hsave]

theorem Device.step_openKey {s : Device} (hkey : deriveKeys L passphrase salt = .ok sk)
    (hlast : s.last.isSome) (h : Holds L salt sk session s.files) :
    s.step L passphrase (.openKey .none) = some { s with keys := sk :: s.keys } := by
  rw [step, if_pos hlast, openSessionKey_of_holds hkey h (readFile_of_holds h)]

/-! ### The files behind a directory -/

/-- The text of a session file. -/
def Represents (L : SealLibs) (text : String) : SessionFile → Prop
  | .encrypted masterSalt content => ∃ enc, L.fromJson text = .ok enc ∧
      (saltOf L enc).toOption.map Subtype.val = masterSalt ∧
      ∀ key session, content = some (key, session) → ∀ sk : SessionKey, sk.keys.session = key →
        decryptSession L sk enc = ExceptT.mk (.ok (.ok session))
  | .plaintext _ | .garbage => (L.fromJson text).toBool = false

/-- The files behind a directory. -/
structure Models (L : SealLibs) (d : ConfigFiles) (c : ConfigDir) : Prop where
  enc : Option.Rel (Represents L) d.enc c.enc
  legacy : Option.Rel (Represents L) d.legacy c.legacy

theorem rel_cases {α β : Type} {R : α → β → Prop} {a : Option α} {b : Option β}
    (h : Option.Rel R a b) :
    a = none ∧ b = none ∨ ∃ x y, a = some x ∧ b = some y ∧ R x y := by
  cases h with
  | none => exact .inl ⟨rfl, rfl⟩
  | some h => exact .inr ⟨_, _, rfl, rfl, h⟩

namespace Models

variable {c : ConfigDir}

theorem sessionPath (h : Models L d c) : Models L (sessionPath d) c.sessionPath := by
  unfold Sealing.sessionPath ConfigDir.sessionPath
  obtain ⟨hd, hc⟩ | ⟨text, file, hd, hc, -⟩ := rel_cases h.enc
  · rw [hd, hc]
    exact ⟨h.legacy, .none⟩
  · rw [hd, hc]
    exact h

theorem readFile_eq (d : ConfigFiles) : readFile .none d = .ok (Sealing.sessionPath d).enc := by
  unfold readFile
  dsimp only [Faults.none]
  cases (Sealing.sessionPath d).enc <;> rfl

theorem detectSession_eq (h : Models L d c) : detectSession L .none d = c.detectSession true := by
  unfold detectSession ConfigDir.detectSession
  rw [readFile_eq]
  obtain ⟨hd, hc⟩ | ⟨text, file, hd, hc, hfile⟩ := rel_cases h.sessionPath.enc
  · rw [hd, hc]
  · rw [hd, hc]
    dsimp only
    cases file with
    | encrypted masterSalt content =>
      obtain ⟨enc, hjson, -⟩ := hfile
      rw [hjson]
      rfl
    | plaintext session => exact (if_neg (Bool.eq_false_iff.mp hfile)).trans rfl
    | garbage => exact (if_neg (Bool.eq_false_iff.mp hfile)).trans rfl

/-- The keys as they are split from a passphrase and a salt of any length. -/
def splitKeys (L : SealLibs) (passphrase salt : Bytes) : Except String DerivedKeys :=
  if h : salt.length = 16 then (deriveKeys L passphrase ⟨salt, h⟩).map SessionKey.keys
  else .error "unexpected salt length"

theorem map_some_eq {α : Type} (x : Except String α) : (do return some (← x)) = x.map some := by
  cases x <;> rfl

theorem readMasterSalt_of_text {text : String} (h : (Sealing.sessionPath d).enc = some text) :
    readMasterSalt L .none d = (parseEncrypted L text >>= saltOf L).map some := by
  unfold readMasterSalt
  rw [readFile_eq, h, ← map_some_eq, bind_assoc]
  rfl

theorem openSessionKey_of_text {text : String} (h : (Sealing.sessionPath d).enc = some text)
    (passphrase : Bytes) : openSessionKey L .none passphrase d =
      (parseEncrypted L text >>= saltOf L >>= deriveKeys L passphrase).map some := by
  unfold openSessionKey
  rw [readMasterSalt_of_text h]
  cases parseEncrypted L text >>= saltOf L with
  | error e => rfl
  | ok salt => exact map_some_eq (deriveKeys L passphrase salt)

/-- The key that a directory derives is the one its files give. -/
theorem openSessionKey_eq (h : Models L d c) (passphrase : Bytes) :
    (openSessionKey L .none passphrase d).toOption =
      (c.openSessionKey (splitKeys L) passphrase).toOption := by
  obtain ⟨hd, hc⟩ | ⟨text, file, hd, hc, hfile⟩ := rel_cases h.sessionPath.enc
  · unfold openSessionKey readMasterSalt ConfigDir.openSessionKey
    rw [readFile_eq, hd, hc]
    rfl
  · have hplain (hfile : (L.fromJson text).toBool = false) :
        parseEncrypted L text = .error "session file is not in encrypted format" := by
      unfold parseEncrypted
      cases hjson : L.fromJson text with
      | error e => rfl
      | ok enc => rw [hjson] at hfile; cases hfile
    rw [openSessionKey_of_text hd]
    unfold ConfigDir.openSessionKey
    rw [hc]
    cases file with
    | plaintext session => rw [hplain hfile]; rfl
    | garbage => rw [hplain hfile]; rfl
    | encrypted masterSalt content =>
      obtain ⟨enc, hjson, rfl, -⟩ := hfile
      rw [parseEncrypted_of_json hjson]
      show ((saltOf L enc >>= _).map some).toOption = _
      cases saltOf L enc with
      | error e => rfl
      | ok salt =>
        have hsplit : splitKeys L passphrase salt.val =
            (deriveKeys L passphrase salt).map SessionKey.keys := dif_pos salt.property
        show ((deriveKeys L passphrase salt).map some).toOption =
          (do return some ⟨← splitKeys L passphrase salt.val, salt.val⟩ :
            Except String (Option SessionKey)).toOption
        rw [hsplit]
        cases hkey : deriveKeys L passphrase salt with
        | error e => rfl
        | ok sk =>
          have hsalt := masterSalt_of_deriveKeys hkey
          show some (some sk) = some (some ⟨sk.keys, salt.val⟩)
          rw [← hsalt]

/-- What a directory gives under a key, its files give. -/
theorem load (h : Models L d c) (hload : c.loadSessionEncrypted sk = .ok (some session)) :
    loadSessionEncrypted L .none sk d = ExceptT.mk (.ok (.ok (some session))) := by
  unfold ConfigDir.loadSessionEncrypted at hload
  obtain ⟨hd, hc⟩ | ⟨text, file, hd, hc, hfile⟩ := rel_cases h.sessionPath.enc
  · rw [hc] at hload
    cases hload
  · rw [hc] at hload
    cases file with
    | plaintext _ => cases hload
    | garbage => cases hload
    | encrypted masterSalt content =>
      obtain ⟨enc, hjson, -, hopens⟩ := hfile
      cases content with
      | none => cases hload
      | some content =>
        obtain ⟨key, session'⟩ := content
        dsimp only at hload
        by_cases hkey : key = sk.keys.session
        · rw [if_pos hkey] at hload
          obtain rfl := Option.some.inj (Except.ok.inj hload)
          unfold loadSessionEncrypted
          rw [readFile_eq, hd]
          show (do
            let enc ← liftM (parseEncrypted L text)
            return some (← decryptSession L sk enc)) = _
          rw [parseEncrypted_of_json hjson]
          show (do return some (← decryptSession L sk enc)) = _
          rw [hopens key session' rfl sk hkey.symm]
          rfl
        · rw [if_neg hkey] at hload
          cases hload

/-- A write to a directory is a write to its files. -/
theorem save (h : Models L d c) (hsalt : sk.masterSalt = salt.val)
    (hsave : (saveSessionEncrypted L session sk nonce .none .written d).1 = .ok ()) :
    Models L (saveSessionEncrypted L session sk nonce .none .written d).2
      (c.saveFile (ConfigDir.sessionFile session (some sk)) .saved).2 := by
  obtain ⟨enc, text, henc, htext, heq⟩ | ⟨e, d', heq, -⟩ :=
    @save_cases L session sk nonce .none .written rfl d
  · obtain ⟨hencoded, hopens⟩ := decryptSession_encryptSession henc
    rw [heq]
    refine ⟨.some ⟨enc, L.json _ _ htext, ?_, ?_⟩, h.sessionPath.legacy⟩
    · rw [saltOf_encoded (hencoded.trans (congrArg L.b64Encode hsalt)), hsalt]
      rfl
    · rintro key session' hcontent sk' hkey
      obtain ⟨rfl, rfl⟩ := Prod.mk.inj (Option.some.inj hcontent)
      have hsame : decryptSession L sk' enc = decryptSession L sk enc := by
        unfold decryptSession
        rw [hkey]
      exact hsame.trans hopens
  · rw [heq] at hsave
    cases hsave

end Models

/-! ### A device of the passphrase `correct horse` -/

/-- Bytes from their hexadecimal digits. -/
@[irreducible] def hexBytes (s : String) : Bytes := (Hex.decode s.toList).getD []

def horseSalt : Salt := ⟨(List.range 16).map UInt8.ofNat, by decide⟩

@[irreducible] def horseMaster : Bytes :=
  hexBytes "e29cd07b2d53978fb27e49c74e7889e5de55e29df764b9aeefa8cb53d70ecaa0"

def horseKeys : DerivedKeys where
  session := hexBytes "a8a25b835784eb44f758f42053f6fb7974e08de079d0de6e655d6d0cad326a72"
  database := hexBytes "aed7906369d98c93a0c4af74880d3688f95f4c9ee5476eb098dbad253ff8c9b9"

/-- A session without contents. -/
def blankSession : Session := ⟨"", "", "", "", "", "", 0, "", ""⟩

@[irreducible] def blankText : Bytes := Utf8.encode
  ("\x7b\"signing_key_hex\":\"\",\"identity_key_hex\":\"\",\"device_id\":\"\",\"user_id\":\"\"," ++
    "\"access_token\":\"\",\"refresh_token\":\"\",\"expires_at\":0,\"spk_key_hex\":\"\"," ++
    "\"spk_sig_hex\":\"\"\x7d")

def zeroNonce : AesNonce := ⟨List.replicate 12 0, rfl⟩

@[irreducible] def blankCiphertext : Bytes := hexBytes
  ("edc1d4a71ff87dd805aacb2a592a1152137bea70e2d63140541837ff1ca02aa9db432899f553d3f0" ++
    "77072f748f201fc306131d35b20bc7cac6969a147f5468e7c88a28f59ab1350a03f39f22e1d470ca" ++
    "7db0d1a0cbfbda94a3bbd309e2868e84034033f5fd8090480b2f8f531d79b9b0bf90bd15aa0a502d" ++
    "80f7fdd62cd0193e7f333726cd0bc90654b8dd188c9bec659860a3b9e93fe5a40c6d49a3653270ac" ++
    "47bce595deae77670b6fcfbf953d")

def blankSealed : EncryptedSession where
  v := 1
  salt := String.ofList (Base64.encode Base64.standard horseSalt.val)
  nonce := String.ofList (Base64.encode Base64.standard zeroNonce.val)
  ciphertext := String.ofList (Base64.encode Base64.standard blankCiphertext)

@[irreducible] def blankSealedText : String :=
  "\x7b\"v\":1,\"salt\":\"" ++ blankSealed.salt ++ "\",\"nonce\":\"" ++ blankSealed.nonce ++
    "\",\"ciphertext\":\"" ++ blankSealed.ciphertext ++ "\"\x7d"

/-- What the surroundings answer for this passphrase, salt, session and nonce; they fail on all
else. -/
def horse : SealLibs where
  argon2 passphrase salt :=
    if passphrase = Utf8.encode "correct horse" ∧ salt = horseSalt.val then .ok horseMaster
    else .error "Argon2"
  hkdfExpand master info :=
    if master = horseMaster ∧ info = "construct-session-v1" then .ok horseKeys.session
    else if master = horseMaster ∧ info = "construct-database-v1" then .ok horseKeys.database
    else .error "HKDF"
  length_hkdfExpand master info key h := by
    split at h
    · obtain rfl := Except.ok.inj h
      decide +kernel
    · split at h
      · obtain rfl := Except.ok.inj h
        decide +kernel
      · cases h
  encrypt key nonce plaintext :=
    if key = horseKeys.session ∧ nonce = zeroNonce.val ∧ plaintext = blankText
    then some blankCiphertext else none
  decrypt key nonce ciphertext :=
    if key = horseKeys.session ∧ nonce = zeroNonce.val ∧ ciphertext = blankCiphertext
    then some blankText else none
  decrypt_encrypt key nonce plaintext ciphertext h := by
    obtain ⟨⟨hkey, hnonce, hplaintext⟩, h⟩ := Option.ite_none_right_eq_some.mp h
    rw [hplaintext, ← Option.some.inj h]
    exact if_pos ⟨hkey, hnonce, rfl⟩
  b64Encode bs := String.ofList (Base64.encode Base64.standard bs)
  b64Decode s := Base64.decode Base64.standard s.toList
  b64_decode_encode := Base64.decode_ofList_encode Base64.standard
  sessionToJson session := if session = blankSession then .ok blankText else .error "session"
  sessionFromJson bs := if bs = blankText then .ok blankSession else .error "session"
  session_json session bs h := by
    split at h
    · next hsession =>
      obtain rfl := Except.ok.inj h
      rw [hsession]
      exact if_pos rfl
    · cases h
  toJson enc := if enc = blankSealed then .ok blankSealedText else .error "enc"
  fromJson text := if text = blankSealedText then .ok blankSealed else .error "enc"
  json enc text h := by
    split at h
    · next henc =>
      obtain rfl := Except.ok.inj h
      rw [henc]
      exact if_pos rfl
    · cases h

/-- The first key. -/
def horseKey : SessionKey := ⟨horseKeys, horseSalt.val⟩

theorem createSessionKey_horse :
    createSessionKey horse (Utf8.encode "correct horse") horseSalt = .ok horseKey := by
  simp [createSessionKey, deriveKeys, deriveKeysFromMaster, horse, horseKey, bind, Except.bind,
    pure, Except.pure]

theorem encryptSession_horse :
    encryptSession horse blankSession horseKey zeroNonce = .ok blankSealed := by
  have hinit : initCipher horseKey.keys.session = .ok () := if_pos (by decide +kernel)
  have hjson : horse.sessionToJson blankSession = .ok blankText := by simp [horse]
  have hencrypt : horse.encrypt horseKey.keys.session zeroNonce.val blankText =
      some blankCiphertext := by simp [horse, horseKey]
  unfold encryptSession
  simp only [bind_eq_ok, context_eq_ok]
  exact ⟨(), hinit, blankText, hjson, blankCiphertext, hencrypt, rfl⟩

theorem holds_horse (legacy : Option String) :
    Holds horse horseSalt horseKey blankSession ⟨some blankSealedText, legacy⟩ := by
  have hjson : horse.fromJson blankSealedText = .ok blankSealed := by simp [horse]
  obtain ⟨hsalt, hopens⟩ := decryptSession_encryptSession encryptSession_horse
  exact ⟨blankSealedText, blankSealed, rfl, hjson, saltOf_encoded hsalt, hopens⟩

/-- The session is written, the key derived again, and the session written with that key. -/
theorem unlock_horse : ∃ s,
    Run.after (Device.step horse (Utf8.encode "correct horse")) (Device.start ⟨none, none⟩ horseKey)
      [.save blankSession horseKey zeroNonce .none .written, .openKey .none,
        .save blankSession horseKey zeroNonce .none .written] = some s ∧
    readMasterSalt horse .none s.files = .ok (some horseSalt) := by
  have hjson : horse.toJson blankSealed = .ok blankSealedText := by simp [horse]
  let s (keys : List SessionKey) : Device := ⟨⟨some blankSealedText, none⟩, keys, some blankSession⟩
  have hfirst : (Device.start ⟨none, none⟩ horseKey).step horse (Utf8.encode "correct horse")
      (.save blankSession horseKey zeroNonce .none .written) = some (s [horseKey]) :=
    Device.step_save (List.mem_singleton_self _) encryptSession_horse hjson
  have hopen : (s [horseKey]).step horse (Utf8.encode "correct horse") (.openKey .none) =
      some (s [horseKey, horseKey]) :=
    Device.step_openKey createSessionKey_horse rfl (holds_horse none)
  have hagain : (s [horseKey, horseKey]).step horse (Utf8.encode "correct horse")
      (.save blankSession horseKey zeroNonce .none .written) = some (s [horseKey, horseKey]) :=
    Device.step_save List.mem_cons_self encryptSession_horse hjson
  have hrun : Run.after (Device.step horse (Utf8.encode "correct horse"))
      (Device.start ⟨none, none⟩ horseKey)
      [.save blankSession horseKey zeroNonce .none .written, .openKey .none,
        .save blankSession horseKey zeroNonce .none .written] = some (s [horseKey, horseKey]) := by
    rw [Run.after, hfirst, Option.bind_some, Run.after, hopen, Option.bind_some, Run.after, hagain,
      Option.bind_some, Run.after]
  exact ⟨_, hrun, (unlock_after_saves createSessionKey_horse hrun rfl).2.1⟩

end Sealing
