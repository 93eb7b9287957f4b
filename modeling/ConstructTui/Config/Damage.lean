import ConstructTui.Config.Sealing

/-!
# Damaged session files

A session file may hold anything: it is not always this program that wrote it, and a write that is
interrupted leaves a part of it. Reading it ends in an error for all damage but one, a nonce that
decodes to a length other than 12, which panics. A write puts the new text in the place of the old
one byte after the other, so an interrupted write leaves neither session.

## Main definitions

* `Sealing.DirBytes`: the bytes of the session file and of its predecessor.
* `Sealing.unlockFile`: what the unlock screen does with a passphrase.
* `Sealing.OddNonce`: the nonce of a file that the passphrase fits has another length.
* `WritePoint`, `Sealing.saveStopped`: where a save stops, and what is left of the files.

## Main results

* `Sealing.unlockFile_returns_iff`: unlocking returns exactly when the nonce is not odd.
* `Sealing.saveStopped_reads_iff`: a save that stops keeps a session exactly when it has not
  truncated the file, or has written everything.
-/

namespace Sealing

variable {L : SealLibs}

/-! ### Bytes -/

/-- The bytes of the session file, and of the one under the old name. -/
structure DirBytes where
  enc : Option Bytes
  legacy : Option Bytes
  deriving DecidableEq, Repr

/-- `session_path` on the bytes. -/
def DirBytes.sessionPath (d : DirBytes) : DirBytes := if d.enc.isNone then ⟨d.legacy, none⟩ else d

/-- The texts of the files; bytes that are no text have none. -/
def DirBytes.texts (d : DirBytes) : ConfigFiles :=
  ⟨d.enc.map fun bs => (Utf8.decode? bs).getD "", d.legacy.map fun bs => (Utf8.decode? bs).getD ""⟩

/-- `read_to_string` fails on bytes that are no text. -/
def DirBytes.faults (faults : Faults) (d : DirBytes) : Faults where
  path := faults.path
  read := match d.sessionPath.enc with
    | none => faults.read
    | some bs =>
      if (Utf8.decode? bs).isNone then some (faults.read.getD "stream did not contain valid UTF-8")
      else faults.read

/-! ### Unlocking -/

/-- Derive the key from the salt in the file, and open the file under it. Either read can fail. -/
def unlockFile (L : SealLibs) (passphrase : Bytes) (faults faults' : Faults) (d : DirBytes) :
    ExceptT String Checked (Option Session) := do
  match ← openSessionKey L (d.faults faults) passphrase d.texts with
  | none => return none
  | some sk => loadSessionEncrypted L (d.faults faults') sk d.texts

/-- The file is a sealed session that the passphrase gives a key for, and its nonce has not the
length that the cipher takes. -/
def OddNonce (L : SealLibs) (passphrase : Bytes) (text : String) : Prop :=
  ∃ enc salt sk nonce ciphertext, L.fromJson text = .ok enc ∧ saltOf L enc = .ok salt ∧
    deriveKeys L passphrase salt = .ok sk ∧ L.b64Decode enc.nonce = some nonce ∧
    L.b64Decode enc.ciphertext = some ciphertext ∧ nonce.length ≠ 12

theorem length_session_of_deriveKeys {passphrase : Bytes} {salt : Salt} {sk : SessionKey}
    (h : deriveKeys L passphrase salt = .ok sk) : sk.keys.session.length = 32 := by
  unfold deriveKeys deriveKeysFromMaster at h
  simp only [Checked.bind_eq_ok] at h
  obtain ⟨master, -, keys, ⟨session, hsession, database, -, hkeys⟩, hsk⟩ := h
  obtain rfl := Except.ok.inj hkeys
  obtain rfl := Except.ok.inj hsk
  exact L.length_hkdfExpand _ _ _ hsession

/-- Opening a sealed session returns, unless the nonce has another length and all else is well. -/
theorem decryptSession_returns_iff {sk : SessionKey} (hsk : sk.keys.session.length = 32)
    (enc : EncryptedSession) : (∃ r, (decryptSession L sk enc).run = .ok r) ↔
      ¬∃ nonce ciphertext, L.b64Decode enc.nonce = some nonce ∧
        L.b64Decode enc.ciphertext = some ciphertext ∧ nonce.length ≠ 12 := by
  unfold decryptSession
  cases hnonce : L.b64Decode enc.nonce with
  | none => exact iff_of_true ⟨_, rfl⟩ fun ⟨nonce, _, h, _⟩ => by cases h
  | some nonce =>
    cases hciphertext : L.b64Decode enc.ciphertext with
    | none => exact iff_of_true ⟨_, rfl⟩ fun ⟨_, ciphertext, _, h, _⟩ => by cases h
    | some ciphertext =>
      have hinit : initCipher sk.keys.session = .ok () := if_pos hsk
      rw [hinit]
      by_cases hlength : nonce.length = 12
      · refine iff_of_true ?_ fun ⟨nonce', _, h, _, hodd⟩ => hodd (Option.some.inj h ▸ hlength)
        show ∃ r, (if nonce.length = 12 then _ else _ : Checked (Except String Session)) = .ok r
        rw [if_pos hlength]
        cases L.decrypt sk.keys.session nonce ciphertext with
        | none => exact ⟨_, rfl⟩
        | some plaintext =>
          show ∃ r, (liftM (L.sessionFromJson plaintext) : ExceptT String Checked Session).run =
            .ok r
          cases L.sessionFromJson plaintext <;> exact ⟨_, rfl⟩
      · refine iff_of_false ?_ (not_not.mpr ⟨nonce, ciphertext, rfl, rfl, hlength⟩)
        show ¬∃ r, (if nonce.length = 12 then _ else _ : Checked (Except String Session)) = .ok r
        rw [if_neg hlength]
        rintro ⟨r, hr⟩
        cases hr

/-- A read without a fault. -/
def Faults.clear (faults : Faults) : Prop := faults.path = none ∧ faults.read = none

/-- A session file is read as the text it holds, or not at all. -/
theorem readFile_bytes (faults : Faults) (content : Bytes) (legacy : Option Bytes) :
    (∃ e, readFile (DirBytes.faults faults ⟨some content, legacy⟩)
        (DirBytes.texts ⟨some content, legacy⟩) = .error e) ∧
      ¬(Faults.clear faults ∧ (Utf8.decode? content).isSome) ∨
    ∃ text, Utf8.decode? content = some text ∧ Faults.clear faults ∧
      readFile (DirBytes.faults faults ⟨some content, legacy⟩)
        (DirBytes.texts ⟨some content, legacy⟩) = .ok (some text) := by
  obtain ⟨path, read⟩ := faults
  cases path with
  | some e => exact .inl ⟨⟨e, rfl⟩, fun h => by cases h.1.1⟩
  | none =>
    cases hdecode : Utf8.decode? content with
    | none =>
      refine .inl ⟨⟨read.getD "stream did not contain valid UTF-8", ?_⟩, fun h => by cases h.2⟩
      simp [readFile, DirBytes.faults, DirBytes.texts, DirBytes.sessionPath, sessionPath, hdecode]
    | some text =>
      cases read with
      | some e =>
        refine .inl ⟨⟨e, ?_⟩, fun h => by cases h.1.2⟩
        simp [readFile, DirBytes.faults, DirBytes.texts, DirBytes.sessionPath, sessionPath, hdecode]
      | none =>
        refine .inr ⟨text, rfl, ⟨rfl, rfl⟩, ?_⟩
        simp [readFile, DirBytes.faults, DirBytes.texts, DirBytes.sessionPath, sessionPath, hdecode]

theorem openSessionKey_of_unread {faults : Faults} {d : ConfigFiles} {e : String}
    (h : readFile faults d = .error e) (passphrase : Bytes) :
    openSessionKey L faults passphrase d = .error e := by
  unfold openSessionKey readMasterSalt
  rw [h]
  rfl

theorem loadSessionEncrypted_of_unread {faults : Faults} {d : ConfigFiles} {e : String}
    (h : readFile faults d = .error e) (sk : SessionKey) :
    loadSessionEncrypted L faults sk d = ExceptT.mk (.ok (.error e)) := by
  unfold loadSessionEncrypted
  rw [h]
  rfl

theorem openSessionKey_of_read {faults : Faults} {d : ConfigFiles} {text : String}
    (h : readFile faults d = .ok (some text)) (passphrase : Bytes) :
    openSessionKey L faults passphrase d =
      (parseEncrypted L text >>= saltOf L >>= deriveKeys L passphrase).map some := by
  have hsalt : readMasterSalt L faults d = (parseEncrypted L text >>= saltOf L).map some := by
    unfold readMasterSalt
    rw [h, ← Models.map_some_eq, bind_assoc]
    rfl
  unfold openSessionKey
  rw [hsalt]
  cases parseEncrypted L text >>= saltOf L with
  | error e => rfl
  | ok salt => exact Models.map_some_eq (deriveKeys L passphrase salt)

theorem openSessionKey_of_json {faults : Faults} {d : ConfigFiles} {text : String}
    {enc : EncryptedSession} (h : readFile faults d = .ok (some text))
    (hjson : L.fromJson text = .ok enc) (passphrase : Bytes) :
    openSessionKey L faults passphrase d =
      (saltOf L enc >>= deriveKeys L passphrase).map some := by
  rw [openSessionKey_of_read h, parseEncrypted_of_json hjson]
  rfl

theorem loadSessionEncrypted_of_read {faults : Faults} {d : ConfigFiles} {text : String}
    {enc : EncryptedSession} (h : readFile faults d = .ok (some text))
    (hjson : L.fromJson text = .ok enc) (sk : SessionKey) :
    loadSessionEncrypted L faults sk d = (do return some (← decryptSession L sk enc)) := by
  unfold loadSessionEncrypted
  rw [h]
  show (do let enc ← liftM (parseEncrypted L text); return some (← decryptSession L sk enc)) = _
  rw [parseEncrypted_of_json hjson]
  rfl

theorem unlockFile_of_error {passphrase : Bytes} {faults : Faults} {d : DirBytes} {e : String}
    (h : openSessionKey L (d.faults faults) passphrase d.texts = .error e) (faults' : Faults) :
    (unlockFile L passphrase faults faults' d).run = .ok (.error e) := by
  unfold unlockFile
  rw [h]
  rfl

theorem unlockFile_of_key {passphrase : Bytes} {faults : Faults} {d : DirBytes} {sk : SessionKey}
    (h : openSessionKey L (d.faults faults) passphrase d.texts = .ok (some sk)) (faults' : Faults) :
    unlockFile L passphrase faults faults' d =
      loadSessionEncrypted L (d.faults faults') sk d.texts := by
  unfold unlockFile
  rw [h]
  rfl

/-- A sealed session is opened with a key whenever it is read, and returns unless its nonce is
odd. -/
theorem loadSessionEncrypted_returns_iff {sk : SessionKey} (hsk : sk.keys.session.length = 32)
    {content : Bytes} {text : String} {enc : EncryptedSession}
    (hdecode : Utf8.decode? content = some text) (hjson : L.fromJson text = .ok enc)
    (faults : Faults) (legacy : Option Bytes) :
    (∃ r, (loadSessionEncrypted L (DirBytes.faults faults ⟨some content, legacy⟩) sk
      (DirBytes.texts ⟨some content, legacy⟩)).run = .ok r) ↔
    (Faults.clear faults → ¬∃ nonce ciphertext, L.b64Decode enc.nonce = some nonce ∧
      L.b64Decode enc.ciphertext = some ciphertext ∧ nonce.length ≠ 12) := by
  obtain ⟨⟨e, hread⟩, hfault⟩ | ⟨text', hdecode', hclear, hread⟩ :=
    readFile_bytes faults content legacy
  · rw [loadSessionEncrypted_of_unread hread]
    refine iff_of_true ⟨_, rfl⟩ fun hclear => ?_
    exact absurd ⟨hclear, by rw [hdecode]; rfl⟩ hfault
  · obtain rfl := Option.some.inj (hdecode.symm.trans hdecode')
    rw [loadSessionEncrypted_of_read hread hjson, imp_iff_right hclear,
      ← decryptSession_returns_iff hsk enc]
    rw [ExceptT.run_bind]
    cases (decryptSession L sk enc).run with
    | error p => exact iff_of_false (fun ⟨r, hr⟩ => by cases hr) fun ⟨r, hr⟩ => by cases hr
    | ok result => exact iff_of_true (by cases result <;> exact ⟨_, rfl⟩) ⟨_, rfl⟩

/-- **Unlocking with a session file of any content returns, and leaves the file alone, exactly when
the nonce is not odd.** A read that fails returns as well. -/
theorem unlockFile_returns_iff (L : SealLibs) (passphrase : Bytes) (faults faults' : Faults)
    (content : Bytes) (legacy : Option Bytes) :
    ((∃ r, (unlockFile L passphrase faults faults' ⟨some content, legacy⟩).run = .ok r) ∧
      DirBytes.sessionPath ⟨some content, legacy⟩ = ⟨some content, legacy⟩) ↔
    ∀ text, Utf8.decode? content = some text → Faults.clear faults → Faults.clear faults' →
      ¬OddNonce L passphrase text := by
  refine (and_iff_left rfl).trans ?_
  obtain ⟨⟨e, hread⟩, hfault⟩ | ⟨text, hdecode, hclear, hread⟩ :=
    readFile_bytes faults content legacy
  · rw [unlockFile_of_error (openSessionKey_of_unread hread passphrase)]
    refine iff_of_true ⟨_, rfl⟩ fun text htext hclear _ => ?_
    exact absurd ⟨hclear, by rw [htext]; rfl⟩ hfault
  have hodd : (∀ text', Utf8.decode? content = some text' → Faults.clear faults →
      Faults.clear faults' → ¬OddNonce L passphrase text') ↔
      (Faults.clear faults' → ¬OddNonce L passphrase text) :=
    ⟨fun h => h text hdecode hclear, fun h text' htext' _ =>
      Option.some.inj (hdecode.symm.trans htext') ▸ h⟩
  rw [hodd]
  have hopen := openSessionKey_of_read (L := L) hread passphrase
  cases hjson : L.fromJson text with
  | error e =>
    have hparse : parseEncrypted L text = .error "session file is not in encrypted format" := by
      unfold parseEncrypted
      rw [hjson]
      rfl
    rw [hparse] at hopen
    rw [unlockFile_of_error hopen]
    refine iff_of_true ⟨_, rfl⟩ fun _ ⟨enc, _, _, _, _, henc, _⟩ => ?_
    cases hjson.symm.trans henc
  | ok enc =>
    replace hopen := openSessionKey_of_json hread hjson passphrase
    cases hsalt : saltOf L enc with
    | error e =>
      rw [hsalt] at hopen
      rw [unlockFile_of_error hopen]
      refine iff_of_true ⟨_, rfl⟩ fun _ ⟨enc', salt, _, _, _, henc, hsalt', _⟩ => ?_
      obtain rfl := Except.ok.inj (hjson.symm.trans henc)
      cases hsalt.symm.trans hsalt'
    | ok salt =>
      rw [hsalt] at hopen
      change _ = (deriveKeys L passphrase salt).map some at hopen
      cases hkey : deriveKeys L passphrase salt with
      | error e =>
        rw [hkey] at hopen
        rw [unlockFile_of_error hopen]
        refine iff_of_true ⟨_, rfl⟩ fun _ ⟨enc', salt', sk, _, _, henc, hsalt', hkey', _⟩ => ?_
        obtain rfl := Except.ok.inj (hjson.symm.trans henc)
        obtain rfl := Except.ok.inj (hsalt.symm.trans hsalt')
        cases hkey.symm.trans hkey'
      | ok sk =>
        rw [hkey] at hopen
        rw [unlockFile_of_key hopen, loadSessionEncrypted_returns_iff
          (length_session_of_deriveKeys hkey) hdecode hjson]
        refine imp_congr_right fun _ => not_congr ⟨?_, ?_⟩
        · rintro ⟨nonce, ciphertext, hnonce, hciphertext, hlength⟩
          exact ⟨enc, salt, sk, nonce, ciphertext, hjson, hsalt, hkey, hnonce, hciphertext, hlength⟩
        · rintro ⟨enc', salt', sk', nonce, ciphertext, henc, -, -, hnonce, hciphertext, hlength⟩
          obtain rfl := Except.ok.inj (hjson.symm.trans henc)
          exact ⟨nonce, ciphertext, hnonce, hciphertext, hlength⟩

/-! ### A file without a nonce -/

/-- The sealed session with its nonce erased. -/
def erasedSealed : EncryptedSession := { blankSealed with nonce := "" }

@[irreducible] def erasedText : String :=
  "\x7b\"v\":1,\"nonce\":\"\",\"salt\":\"" ++ erasedSealed.salt ++ "\",\"ciphertext\":\"" ++
    erasedSealed.ciphertext ++ "\"\x7d"

/-- The surroundings of the device, which also parse the erased text. -/
def erasedHorse : SealLibs where
  __ := horse
  fromJson text :=
    if text = blankSealedText then .ok blankSealed
    else if text = erasedText then .ok erasedSealed else .error "enc"
  json enc text h := by
    have hjson : (if text = blankSealedText then .ok blankSealed else .error "enc" :
      Except String EncryptedSession) = .ok enc := horse.json enc text h
    by_cases htext : text = blankSealedText
    · rw [if_pos htext] at hjson ⊢
      exact hjson
    · rw [if_neg htext] at hjson
      cases hjson

theorem erasedHorse_fromJson : erasedHorse.fromJson erasedText = .ok erasedSealed := by
  have hne : erasedText ≠ blankSealedText := by
    unfold erasedText blankSealedText
    decide +kernel
  show (if erasedText = blankSealedText then _ else _ : Except String EncryptedSession) = _
  rw [if_neg hne, if_pos rfl]

/-- The right passphrase never returns from a file whose nonce is gone. -/
theorem unlockFile_erased : ¬∃ r, (unlockFile erasedHorse (Utf8.encode "correct horse") .none .none
    ⟨some (Utf8.encode erasedText), none⟩).run = .ok r := by
  have hsalt : saltOf erasedHorse erasedSealed = .ok horseSalt := saltOf_encoded rfl
  have hkey : deriveKeys erasedHorse (Utf8.encode "correct horse") horseSalt = .ok horseKey :=
    createSessionKey_horse
  have hdecode : Utf8.decode? (Utf8.encode erasedText) = some erasedText := Utf8.decode?_encode _
  obtain ⟨⟨e, -⟩, hfault⟩ | ⟨text, htext, -, hread⟩ :=
    readFile_bytes .none (Utf8.encode erasedText) none
  · exact absurd ⟨⟨rfl, rfl⟩, by rw [hdecode]; rfl⟩ hfault
  obtain rfl := Option.some.inj (hdecode.symm.trans htext)
  have hopen := openSessionKey_of_json hread erasedHorse_fromJson (Utf8.encode "correct horse")
  rw [hsalt] at hopen
  change _ = (deriveKeys erasedHorse (Utf8.encode "correct horse") horseSalt).map some at hopen
  rw [hkey] at hopen
  rw [unlockFile_of_key hopen, loadSessionEncrypted_returns_iff (length_session_of_deriveKeys hkey)
    hdecode erasedHorse_fromJson]
  exact fun h => h ⟨rfl, rfl⟩
    ⟨[], blankCiphertext, rfl, horse.b64_decode_encode blankCiphertext, by decide⟩

/-! ### Interrupted writes -/

end Sealing

/-- What saving uses from outside besides: plain JSON, indented, which is read as any other. No text
that JSON writes is still JSON when its end is missing. -/
structure DiskLibs extends SealLibs where
  sessionToJsonPretty : Session → Except String String
  session_pretty : ∀ session text, sessionToJsonPretty session = .ok text →
    sessionFromJson (Utf8.encode text) = .ok session
  json_cut : ∀ text, (∃ enc, toJson enc = .ok text) ∨
    (∃ session, sessionToJsonPretty session = .ok text) →
    ∀ k < (Utf8.encode text).length, ∀ cut, Utf8.decode? ((Utf8.encode text).take k) = some cut →
      (fromJson cut).toBool = false ∧ (sessionFromJson (Utf8.encode cut)).toBool = false

/-- A session is sealed, under a random nonce, or written as plain JSON. -/
inductive SaveMode
  | sealed (nonce : AesNonce)
  | plain

/-- Where a save stops: before the file is found, before it is truncated, or after appending so many
bytes in each step. -/
inductive WritePoint
  | unlocated
  | unopened
  | truncated (steps : List ℕ)

namespace Sealing

variable (D : DiskLibs) (sk : SessionKey)

/-- What `save_session_encrypted` or `save_session` writes. -/
def savedText (session : Session) : SaveMode → Except String String
  | .sealed nonce => do
    let enc ← encryptSession D.toSealLibs session sk nonce
    D.toJson enc
  | .plain => D.sessionToJsonPretty session

/-- The file after appending the next bytes of a text in steps. -/
def appendSteps : List ℕ → Bytes → Bytes → Bytes
  | [], _, content => content
  | n :: steps, rest, content => appendSteps steps (rest.drop n) (content ++ rest.take n)

/-- What is left of the files when the write of a text stops. -/
def interrupted (text : Bytes) (d : DirBytes) : WritePoint → DirBytes
  | .unlocated => d
  | .unopened => d.sessionPath
  | .truncated steps => { d.sessionPath with enc := some (appendSteps steps text []) }

/-- What is left of the files when a save stops. One that fails to make its text stops before the
file is truncated. -/
def saveStopped (session : Session) (mode : SaveMode) (point : WritePoint) (d : DirBytes) :
    DirBytes :=
  match savedText D sk session mode, point with
  | .error _, .unlocated => d
  | .error _, _ => d.sessionPath
  | .ok text, point => interrupted (Utf8.encode text) d point

def loadSession (faults : Faults) (d : ConfigFiles) : Except String (Option Session) := do
  match ← readFile faults d with
  | none => return none
  | some text => return some (← D.sessionFromJson (Utf8.encode text))

/-- The files decode to a session, under the key or as plain JSON. -/
def Reads (d : DirBytes) (session : Session) : Prop :=
  (loadSessionEncrypted D.toSealLibs (d.faults .none) sk d.texts).run = .ok (.ok (some session)) ∨
    loadSession D (d.faults .none) d.texts = .ok (some session)

variable {D sk}

theorem appendSteps_eq : (steps : List ℕ) → (rest content : Bytes) →
    appendSteps steps rest content = content ++ rest.take steps.sum
  | [], _, _ => by simp [appendSteps]
  | n :: steps, rest, content => by
    rw [appendSteps, appendSteps_eq steps, List.append_assoc, List.sum_cons, List.take_add]

/-- A write that stops after the truncation leaves a part of the text. -/
theorem interrupted_truncated (text content : Bytes) (legacy : Option Bytes) (steps : List ℕ) :
    interrupted text ⟨some content, legacy⟩ (.truncated steps) =
      ⟨some (text.take steps.sum), legacy⟩ := by
  show (⟨some (appendSteps steps text []), legacy⟩ : DirBytes) = _
  rw [appendSteps_eq, List.nil_append]

theorem saveStopped_of_text {session : Session} {mode : SaveMode} {text : String}
    (h : savedText D sk session mode = .ok text) (point : WritePoint) (d : DirBytes) :
    saveStopped D sk session mode point d = interrupted (Utf8.encode text) d point := by
  unfold saveStopped
  rw [h]

/-- A clear read gives the text of the file. -/
theorem readFile_of_decode {content : Bytes} {text : String} (h : Utf8.decode? content = some text)
    (legacy : Option Bytes) : readFile (DirBytes.faults .none ⟨some content, legacy⟩)
      (DirBytes.texts ⟨some content, legacy⟩) = .ok (some text) := by
  obtain ⟨-, hfault⟩ | ⟨text', htext', -, hread⟩ := readFile_bytes .none content legacy
  · exact absurd ⟨⟨rfl, rfl⟩, by rw [h]; rfl⟩ hfault
  · obtain rfl := Option.some.inj (h.symm.trans htext')
    exact hread

/-- A text decodes to a session as a sealed session or as plain JSON. -/
theorem reads_iff {content : Bytes} {text : String} (h : Utf8.decode? content = some text)
    (legacy : Option Bytes) (session : Session) : Reads D sk ⟨some content, legacy⟩ session ↔
      (∃ enc, D.fromJson text = .ok enc ∧
        decryptSession D.toSealLibs sk enc = ExceptT.mk (.ok (.ok session))) ∨
      D.sessionFromJson (Utf8.encode text) = .ok session := by
  have hread := readFile_of_decode h legacy
  refine or_congr ?_ ?_
  · cases hjson : D.fromJson text with
    | error e =>
      have hparse : parseEncrypted D.toSealLibs text =
          .error "session file is not in encrypted format" := by
        unfold parseEncrypted
        rw [hjson]
        rfl
      refine iff_of_false ?_ fun ⟨enc, henc, _⟩ => by cases henc
      unfold loadSessionEncrypted
      rw [hread]
      show ¬ExceptT.run (do
        let enc ← liftM (parseEncrypted D.toSealLibs text)
        return some (← decryptSession D.toSealLibs sk enc)) = _
      rw [hparse]
      intro h
      cases h
    | ok enc =>
      rw [loadSessionEncrypted_of_read hread hjson, ExceptT.run_bind]
      refine Iff.trans ?_ (⟨fun h => ⟨enc, rfl, h⟩, fun ⟨enc', henc, h⟩ => ?_⟩ :
        decryptSession D.toSealLibs sk enc = ExceptT.mk (.ok (.ok session)) ↔ _)
      · show _ ↔ (decryptSession D.toSealLibs sk enc).run = .ok (.ok session)
        cases (decryptSession D.toSealLibs sk enc).run with
        | error p => exact iff_of_false (fun h => by cases h) fun h => by cases h
        | ok result =>
          cases result with
          | error e => exact iff_of_false (fun h => by cases h) fun h => by cases h
          | ok session' =>
            refine ⟨fun h => ?_, fun h => ?_⟩
            · cases h
              rfl
            · cases h
              rfl
      · obtain rfl := Except.ok.inj henc
        exact h
  · unfold loadSession
    rw [hread]
    show (D.sessionFromJson (Utf8.encode text)).map some = _ ↔ _
    cases D.sessionFromJson (Utf8.encode text) with
    | error e => exact iff_of_false (fun h => by cases h) fun h => by cases h
    | ok session' =>
      refine ⟨fun h => ?_, fun h => ?_⟩
      · cases h
        rfl
      · cases h
        rfl

/-- Bytes that are no text are not read. -/
theorem not_reads_of_decode {content : Bytes} (h : Utf8.decode? content = none)
    (legacy : Option Bytes) (session : Session) : ¬Reads D sk ⟨some content, legacy⟩ session := by
  obtain ⟨⟨e, hread⟩, -⟩ | ⟨text, htext, -⟩ := readFile_bytes .none content legacy
  · rintro (hload | hload)
    · rw [loadSessionEncrypted_of_unread hread] at hload
      cases hload
    · unfold loadSession at hload
      rw [hread] at hload
      cases hload
  · cases h.symm.trans htext

/-- A whole file decodes to the session that was saved. -/
theorem reads_of_saved {session : Session} {mode : SaveMode} {text : String}
    (h : savedText D sk session mode = .ok text) (legacy : Option Bytes) :
    Reads D sk ⟨some (Utf8.encode text), legacy⟩ session := by
  refine (reads_iff (Utf8.decode?_encode text) legacy session).mpr ?_
  cases mode with
  | sealed nonce =>
    obtain ⟨enc, henc, htext⟩ := Checked.bind_eq_ok.mp h
    exact .inl ⟨enc, D.json enc text htext, (decryptSession_encryptSession henc).2⟩
  | plain => exact .inr (D.session_pretty session text h)

/-- A text that was written for a session and has lost its end is no JSON. -/
theorem json_cut_of_saved {session : Session} {mode : SaveMode} {text cut : String}
    (h : savedText D sk session mode = .ok text) {k : ℕ} (hk : k < (Utf8.encode text).length)
    (hcut : Utf8.decode? ((Utf8.encode text).take k) = some cut) :
    (D.fromJson cut).toBool = false ∧ (D.sessionFromJson (Utf8.encode cut)).toBool = false := by
  refine D.json_cut text ?_ k hk cut hcut
  cases mode with
  | sealed nonce =>
    obtain ⟨enc, -, htext⟩ := Checked.bind_eq_ok.mp h
    exact .inl ⟨enc, htext⟩
  | plain => exact .inr ⟨session, h⟩

/-- A file whose end is missing decodes to no session. -/
theorem not_reads_of_cut {session : Session} {mode : SaveMode} {text : String}
    (h : savedText D sk session mode = .ok text) {k : ℕ} (hk : k < (Utf8.encode text).length)
    (legacy : Option Bytes) (session' : Session) :
    ¬Reads D sk ⟨some ((Utf8.encode text).take k), legacy⟩ session' := by
  cases hdecode : Utf8.decode? ((Utf8.encode text).take k) with
  | none => exact not_reads_of_decode hdecode legacy session'
  | some cut =>
    obtain ⟨hjson, hsession⟩ := json_cut_of_saved h hk hdecode
    rw [reads_iff hdecode legacy session']
    rintro (⟨enc, henc, -⟩ | hplain)
    · rw [henc] at hjson
      cases hjson
    · rw [hplain] at hsession
      cases hsession

/-- At the next start, no passphrase is asked for a file whose end is missing. -/
theorem detectSession_of_cut {session : Session} {mode : SaveMode} {text : String}
    (h : savedText D sk session mode = .ok text) {k : ℕ} (hk : k < (Utf8.encode text).length)
    (legacy : Option Bytes) : detectSession D.toSealLibs
      (DirBytes.faults .none ⟨some ((Utf8.encode text).take k), legacy⟩)
      (DirBytes.texts ⟨some ((Utf8.encode text).take k), legacy⟩) ≠ .encrypted := by
  unfold detectSession
  obtain ⟨⟨e, hread⟩, -⟩ | ⟨cut, hcut, -, hread⟩ :=
    readFile_bytes .none ((Utf8.encode text).take k) legacy
  · rw [hread]
    exact SessionState.noConfusion
  · rw [hread]
    dsimp only
    rw [(json_cut_of_saved h hk hcut).1, if_neg Bool.false_ne_true]
    exact SessionState.noConfusion

/-- **A save over a session that was saved, stopped at any point, keeps the old session or the new
one exactly when it has not truncated the file, or has appended the whole text.** -/
theorem saveStopped_reads_iff {old : Session} {mode : SaveMode} {text : String}
    (hold : savedText D sk old mode = .ok text) (legacy : Option Bytes) (new : Session)
    (mode' : SaveMode) (point : WritePoint) :
    (∃ session, (session = old ∨ session = new) ∧
      Reads D sk (saveStopped D sk new mode' point ⟨some (Utf8.encode text), legacy⟩) session) ↔
    ∀ text' steps, savedText D sk new mode' = .ok text' → point = .truncated steps →
      (Utf8.encode text').length ≤ steps.sum := by
  have hkept : Reads D sk ⟨some (Utf8.encode text), legacy⟩ old := reads_of_saved hold legacy
  cases hnew : savedText D sk new mode' with
  | error e =>
    have hleft : saveStopped D sk new mode' point ⟨some (Utf8.encode text), legacy⟩ =
        ⟨some (Utf8.encode text), legacy⟩ := by
      unfold saveStopped
      rw [hnew]
      cases point <;> rfl
    rw [hleft]
    exact iff_of_true ⟨old, .inl rfl, hkept⟩ fun text' _ h => by cases h
  | ok text' =>
    rw [saveStopped_of_text hnew]
    cases point with
    | unlocated => exact iff_of_true ⟨old, .inl rfl, hkept⟩ fun _ _ _ h => by cases h
    | unopened => exact iff_of_true ⟨old, .inl rfl, hkept⟩ fun _ _ _ h => by cases h
    | truncated steps =>
      rw [interrupted_truncated]
      constructor
      · rintro ⟨session, -, hreads⟩ text'' steps' htext hsteps
        obtain rfl := Except.ok.inj htext
        obtain rfl := WritePoint.truncated.inj hsteps
        by_contra hlong
        exact not_reads_of_cut hnew (Nat.lt_of_not_le hlong) legacy session hreads
      · intro h
        refine ⟨new, .inr rfl, ?_⟩
        rw [List.take_of_length_le (h text' steps rfl rfl)]
        exact reads_of_saved hnew legacy

/-! ### A torn file -/

theorem length_lt_of_decode_take {text cut : String} {k : ℕ} (hk : k < (Utf8.encode text).length)
    (h : Utf8.decode? ((Utf8.encode text).take k) = some cut) :
    (Utf8.encode cut).length < (Utf8.encode text).length := by
  rw [Utf8.encode_of_decode? h, List.length_take]
  omega

/-- The first key of the sealed session. -/
theorem take_blankSealedText : (Utf8.encode blankSealedText).take 3 = Utf8.encode "\x7b\"v" := by
  unfold blankSealedText
  simp only [String.append_assoc]
  rw [Utf8.encode_append, List.take_append_of_le_length (by decide)]
  decide

/-- The first key of the session. -/
theorem take_blankText : blankText.take 3 = Utf8.encode "\x7b\"s" := by
  unfold blankText
  rw [Utf8.encode_append, List.take_append_of_le_length (by decide +kernel)]
  decide +kernel

/-- A session of alice, before a passphrase is set. -/
def aliceSession : Session := { blankSession with userId := "alice", expiresAt := 3600 }

/-- The session of alice as indented JSON. -/
@[irreducible] def aliceText : String :=
  "\x7b\n  \"signing_key_hex\": \"\",\n  \"identity_key_hex\": \"\",\n  \"device_id\": \"\",\n" ++
    "  \"user_id\": \"alice\",\n  \"access_token\": \"\",\n  \"refresh_token\": \"\",\n" ++
    "  \"expires_at\": 3600,\n  \"spk_key_hex\": \"\",\n  \"spk_sig_hex\": \"\"\n\x7d"

/-- The indented session begins with a line break. -/
theorem take_aliceText : (Utf8.encode aliceText).take 3 = Utf8.encode "\x7b\n " := by
  unfold aliceText
  simp only [String.append_assoc]
  rw [Utf8.encode_append, List.take_append_of_le_length (by decide +kernel)]
  decide +kernel

/-- A part of a text is not a text with another beginning. -/
theorem take_ne_of_take {a b x y : Bytes} (ha : a.take 3 = x) (hb : b.take 3 = y) (hxy : x ≠ y)
    (hy : y.length = 3) (k : ℕ) : a.take k ≠ b := by
  rintro rfl
  rw [← hb, List.take_take, List.length_take, Nat.min_assoc] at hy
  rw [List.take_take, Nat.min_eq_left (by omega : 3 ≤ k)] at hb
  exact hxy (ha.symm.trans hb)

theorem blankText_ne_aliceText : blankText ≠ Utf8.encode aliceText := by
  intro h
  have hthree := take_blankText
  rw [h, take_aliceText] at hthree
  revert hthree
  decide

/-- The surroundings of the device, which write and read the session of alice in clear. -/
def horseDisk : DiskLibs where
  __ := horse
  sessionFromJson bs :=
    if bs = blankText then .ok blankSession
    else if bs = Utf8.encode aliceText then .ok aliceSession
    else .error "session"
  session_json session bs h := by
    obtain ⟨rfl, rfl⟩ := Checked.ite_eq_ok.mp h
    exact if_pos rfl
  sessionToJsonPretty session := if session = aliceSession then .ok aliceText else .error "session"
  session_pretty session text h := by
    obtain ⟨rfl, rfl⟩ := Checked.ite_eq_ok.mp h
    exact (if_neg blankText_ne_aliceText.symm).trans (if_pos rfl)
  json_cut text h k hk cut hcut := by
    have hshort := length_lt_of_decode_take hk hcut
    have hbytes := Utf8.encode_of_decode? hcut
    -- the texts begin with different keys
    have hdiffer : cut ≠ blankSealedText ∧ Utf8.encode cut ≠ blankText ∧
        Utf8.encode cut ≠ Utf8.encode aliceText := by
      obtain ⟨enc, henc⟩ | ⟨session, hplain⟩ := h
      · obtain ⟨-, rfl⟩ := Checked.ite_eq_ok.mp henc
        refine ⟨?_, ?_, ?_⟩
        · rintro rfl
          exact absurd hshort (lt_irrefl _)
        · rw [hbytes]
          exact take_ne_of_take take_blankSealedText take_blankText (by decide) (by decide) k
        · rw [hbytes]
          exact take_ne_of_take take_blankSealedText take_aliceText (by decide) (by decide) k
      · obtain ⟨-, rfl⟩ := Checked.ite_eq_ok.mp hplain
        refine ⟨?_, ?_, ?_⟩
        · intro hcut'
          revert hbytes
          rw [hcut']
          exact (take_ne_of_take take_aliceText take_blankSealedText (by decide) (by decide) k).symm
        · rw [hbytes]
          exact take_ne_of_take take_aliceText take_blankText (by decide) (by decide) k
        · intro h
          rw [h] at hshort
          exact absurd hshort (lt_irrefl _)
    obtain ⟨hsealed, hblank, halice⟩ := hdiffer
    constructor
    · show (if cut = blankSealedText then .ok blankSealed else .error "enc" :
        Except String EncryptedSession).toBool = false
      rw [if_neg hsealed]
      rfl
    · show (if Utf8.encode cut = blankText then .ok blankSession
        else if Utf8.encode cut = Utf8.encode aliceText then .ok aliceSession
        else .error "session" : Except String Session).toBool = false
      rw [if_neg hblank, if_neg halice]
      rfl

theorem savedText_horse :
    savedText horseDisk horseKey blankSession (.sealed zeroNonce) = .ok blankSealedText := by
  refine Checked.bind_eq_ok.mpr ⟨blankSealed, encryptSession_horse, ?_⟩
  show (if blankSealed = blankSealed then .ok blankSealedText else .error "enc" :
    Except String String) = _
  rw [if_pos rfl]

theorem savedText_alice : savedText horseDisk horseKey aliceSession .plain = .ok aliceText := by
  show (if aliceSession = aliceSession then .ok aliceText else .error "session" :
    Except String String) = _
  rw [if_pos rfl]

/-- The sealed session is written over the one of alice in two steps, and the save stops when all is
appended. -/
theorem saveStopped_reads_appended : aliceSession ≠ blankSession ∧
    ∃ session, (session = aliceSession ∨ session = blankSession) ∧
      Reads horseDisk horseKey (saveStopped horseDisk horseKey blankSession (.sealed zeroNonce)
        (.truncated [64, (Utf8.encode blankSealedText).length - 64])
        ⟨some (Utf8.encode aliceText), none⟩) session := by
  have hall (n : ℕ) : n ≤ [64, n - 64].sum := by
    simp only [List.sum_cons, List.sum_nil]
    omega
  refine ⟨by decide, (saveStopped_reads_iff savedText_alice none blankSession
    (.sealed zeroNonce) _).mpr ?_⟩
  intro text steps htext hsteps
  obtain rfl := Except.ok.inj (savedText_horse.symm.trans htext)
  obtain rfl := WritePoint.truncated.inj hsteps
  exact hall _

/-- A save that stops when it has truncated the file keeps none. -/
theorem saveStopped_torn :
    savedText horseDisk horseKey blankSession (.sealed zeroNonce) = .ok blankSealedText ∧
      ¬∃ session, Reads horseDisk horseKey (saveStopped horseDisk horseKey blankSession
        (.sealed zeroNonce) (.truncated []) ⟨some (Utf8.encode blankSealedText), none⟩)
          session := by
  refine ⟨savedText_horse, ?_⟩
  rintro ⟨session, hreads⟩
  have hpos : 0 < (Utf8.encode blankSealedText).length := by
    have hthree := congrArg List.length take_blankSealedText
    rw [List.length_take, show (Utf8.encode "\x7b\"v").length = 3 from by decide] at hthree
    omega
  rw [saveStopped_of_text savedText_horse, interrupted_truncated] at hreads
  exact not_reads_of_cut savedText_horse hpos none session hreads

end Sealing
