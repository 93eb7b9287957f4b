import ConstructTui.Config
import ConstructTui.Lib.Hex
import ConstructTui.Lib.Utf8

/-!
# Authentication of a device

A device makes its keys itself and enrols them with the server: it registers as a new identity, for
which it solves a proof of work, or is linked to an identity with a token from another device. From
then on it authenticates by signing its id and the time. The key pairs, the signatures, the id of a
device and the proof of work are parameters.

## Main definitions

* `DeviceCrypto`, `DeviceKeys`, `DevicePublicKeys`, `AuthRequest`.
* `RegistrationStep`: the steps that the screen shows.
* `registerNewDevice`, `linkExistingDevice`, `authenticateSavedSession`: the requests of each flow,
  and its result for the answers of the server.
* `DeviceKeys.Owns`: a session with the keys.
* `AuthRequest.Offers`, `AuthRequest.SignedBy`.

## Main results

* `DeviceKeys.authenticateSavedSession_owned`: a session authenticates with the keys it was made
  with.
-/

/-- A solved proof of work. -/
structure PowSolution where
  nonce : ℕ
  hash : Bytes
  deriving DecidableEq, Repr

/-- What the keys of a device are used with: the public halves of the Ed25519 and X25519 keys, the
signatures, the id that is derived from an identity key, and the proof of work. -/
structure DeviceCrypto where
  verifyingKey : Bytes → Bytes
  exchangeKey : Bytes → Bytes
  sign : Bytes → Bytes → Bytes
  verify : Bytes → Bytes → Bytes → Bool
  deriveDeviceId : Bytes → String
  prologue : Bytes
  computePow : String → ℕ → PowSolution
  verify_sign : ∀ key message, verify (verifyingKey key) message (sign key message) = true

/-- Each step of registration. -/
inductive RegistrationStep
  | generatingSigningKey
  | generatingIdentityKey
  | generatingPreKey
  | signingPreKey
  | connecting
  | solvingPoW
  | registering
  deriving DecidableEq, Repr

def RegistrationStep.index : RegistrationStep → ℕ
  | .generatingSigningKey => 0
  | .generatingIdentityKey => 1
  | .generatingPreKey => 2
  | .signingPreKey => 3
  | .connecting => 4
  | .solvingPoW => 5
  | .registering => 6

/-! ### Requests -/

structure DevicePublicKeys where
  verifyingKey : Bytes
  identityPublic : Bytes
  signedPrekeyPublic : Bytes
  signedPrekeySignature : Bytes
  cryptoSuite : String
  deriving DecidableEq, Repr

def devicePublicKeys
    (verifyingKey identityPublic signedPrekeyPublic signedPrekeySignature : Bytes) :
    DevicePublicKeys :=
  ⟨verifyingKey, identityPublic, signedPrekeyPublic, signedPrekeySignature, "Curve25519+Ed25519"⟩

structure AuthTokens where
  userId : String
  accessToken : String
  refreshToken : String
  expiresAt : ℤ
  deriving DecidableEq, Repr

/-- A call of the authentication services. -/
inductive AuthRequest
  | getPowChallenge
  | registerDevice (username : Option String) (deviceId : String) (publicKeys : DevicePublicKeys)
      (challenge : String) (pow : PowSolution)
  | confirmDeviceLink (linkToken deviceId : String) (publicKeys : DevicePublicKeys)
  | authenticateDevice (deviceId : String) (timestamp : ℤ) (signature : Bytes)
  deriving DecidableEq, Repr

/-- The challenge of a decoded answer. -/
def getPowChallenge (answer : Except String (String × ℕ)) : Except String (String × ℕ) := do
  let (challenge, difficulty) ← answer
  if challenge = "" then
    throw "transport: GetPowChallenge returned an empty challenge (HTTP/2 body missing?)"
  return (challenge, difficulty)

/-- The tokens of a decoded answer, which may have none. -/
def tokensFrom (answer : Except String (Option AuthTokens)) : Except String AuthTokens := do
  match ← answer with
  | some tokens => return tokens
  | none => throw "transport: server returned empty tokens"

/-- The result of a flow, for the app. -/
structure AuthResult where
  userId : String
  deviceId : String
  accessToken : String
  session : Session
  deriving DecidableEq, Repr

/-! ### Keys -/

/-- The private keys of a device. -/
structure DeviceKeys where
  signing : { key : Bytes // key.length = 32 }
  identity : Bytes
  signedPreKey : Bytes
  deriving DecidableEq

/-- Bytes in the session file. -/
def hexText (bs : Bytes) : String := String.ofList (Hex.encode bs)

namespace DeviceKeys

variable (C : DeviceCrypto) (K : DeviceKeys)

def deviceId : String := C.deriveDeviceId (C.exchangeKey K.identity)

/-- What is signed of the pre-key. -/
def spkMessage : Bytes := C.prologue ++ C.exchangeKey K.signedPreKey

def spkSig : Bytes := C.sign K.signing (K.spkMessage C)

def publicKeys : DevicePublicKeys :=
  devicePublicKeys (C.verifyingKey K.signing) (C.exchangeKey K.identity)
    (C.exchangeKey K.signedPreKey) (K.spkSig C)

/-- The session that is built of the keys and the tokens of the answer. -/
def session (tokens : AuthTokens) : Session where
  signingKeyHex := hexText K.signing
  identityKeyHex := hexText K.identity
  deviceId := K.deviceId C
  userId := tokens.userId
  accessToken := tokens.accessToken
  refreshToken := tokens.refreshToken
  expiresAt := tokens.expiresAt
  spkKeyHex := hexText K.signedPreKey
  spkSigHex := hexText (K.spkSig C)

def authResult (tokens : AuthTokens) : AuthResult :=
  ⟨tokens.userId, K.deviceId C, tokens.accessToken, K.session C tokens⟩

/-- A session with the keys, whatever its user and its tokens are. -/
def Owns (x : Session) : Prop :=
  x = K.session C ⟨x.userId, x.accessToken, x.refreshToken, x.expiresAt⟩

theorem owns_session (tokens : AuthTokens) : K.Owns C (K.session C tokens) := rfl

theorem Owns.withTokens {K : DeviceKeys} {x : Session} (h : K.Owns C x)
    (accessToken refreshToken : String) (expiresAt : ℤ) :
    K.Owns C (x.withTokens accessToken refreshToken expiresAt) := by
  unfold Owns
  rw [h]
  rfl

end DeviceKeys

/-! ### Flows -/

section Flows

variable (C : DeviceCrypto)

/-- The request that registers the keys. -/
def registerRequest (K : DeviceKeys) (username : Option String) (challenge : String)
    (difficulty : ℕ) : AuthRequest :=
  .registerDevice username (K.deviceId C) (K.publicKeys C) challenge
    (C.computePow challenge difficulty)

def registerNewDevice (K : DeviceKeys) (username : Option String)
    (challenge : Except String (String × ℕ)) (answer : Except String (Option AuthTokens)) :
    List AuthRequest × Except String AuthResult :=
  match getPowChallenge challenge with
  | .error e => ([.getPowChallenge], .error ("pow challenge: " ++ e))
  | .ok (challenge, difficulty) =>
    ([.getPowChallenge, registerRequest C K username challenge difficulty],
      ((tokensFrom answer).mapError ("register device: " ++ ·)).map (K.authResult C))

/-- The request that links the keys to an account. -/
def linkRequest (K : DeviceKeys) (linkToken : String) : AuthRequest :=
  .confirmDeviceLink linkToken (K.deviceId C) (K.publicKeys C)

def linkExistingDevice (K : DeviceKeys) (linkToken : String)
    (answer : Except String (Option AuthTokens)) : List AuthRequest × Except String AuthResult :=
  ([linkRequest C K linkToken],
    ((tokensFrom answer).mapError ("confirm device link: " ++ ·)).map (K.authResult C))

/-- What a device signs to authenticate. -/
def authMessage (deviceId : String) (timestamp : ℤ) : Bytes :=
  Utf8.encode (deviceId ++ toString timestamp)

/-- The signing key of a session. -/
def signingKey (hexDecode : String → Except String Bytes) (session : Session) :
    Except String Bytes := do
  let key ← (hexDecode session.signingKeyHex).mapError ("invalid signing key hex: " ++ ·)
  if key.length = 32 then return key else throw "signing key must be 32 bytes"

/-- The request that authenticates a session. -/
def authenticateRequest (key : Bytes) (session : Session) (timestamp : ℤ) : AuthRequest :=
  .authenticateDevice session.deviceId timestamp
    (C.sign key (authMessage session.deviceId timestamp))

def authenticateSavedSession (hexDecode : String → Except String Bytes) (session : Session)
    (timestamp : ℤ) (answer : Except String (Option AuthTokens)) :
    List AuthRequest × Except String AuthResult :=
  match signingKey hexDecode session with
  | .error e => ([], .error e)
  | .ok key =>
    ([authenticateRequest C key session timestamp],
      ((tokensFrom answer).mapError ("authenticate: " ++ ·)).map fun t =>
        ⟨t.userId, session.deviceId, t.accessToken,
          session.withTokens t.accessToken t.refreshToken t.expiresAt⟩)

end Flows

/-! ### What the requests show -/

/-- The request enrols the keys. -/
inductive AuthRequest.Offers (C : DeviceCrypto) (K : DeviceKeys) : AuthRequest → Prop
  | register (username : Option String) (challenge : String) (difficulty : ℕ) :
      Offers C K (registerRequest C K username challenge difficulty)
  | link (linkToken : String) : Offers C K (linkRequest C K linkToken)

/-- A peer that has the public keys of an enrolment can check them: the id of the device is the one
of its identity key, and the pre-key is signed. -/
def DevicePublicKeys.Checks (C : DeviceCrypto) (deviceId : String) (keys : DevicePublicKeys) :
    Prop :=
  deviceId = C.deriveDeviceId keys.identityPublic ∧
    C.verify keys.verifyingKey (C.prologue ++ keys.signedPrekeyPublic)
      keys.signedPrekeySignature = true

/-- The request is signed with the keys, for their device. -/
def AuthRequest.SignedBy (C : DeviceCrypto) (K : DeviceKeys) : AuthRequest → Prop
  | .authenticateDevice deviceId timestamp signature => deviceId = K.deviceId C ∧
    C.verify (K.publicKeys C).verifyingKey (authMessage deviceId timestamp) signature = true
  | _ => False

variable (C : DeviceCrypto)

theorem DeviceKeys.checks_publicKeys (K : DeviceKeys) :
    (K.publicKeys C).Checks C (K.deviceId C) := ⟨rfl, C.verify_sign _ _⟩

/-- The signing key is read back from the session. -/
theorem DeviceKeys.signingKey_owned {hexDecode : String → Except String Bytes}
    (hhex : ∀ bs, hexDecode (hexText bs) = .ok bs) {K : DeviceKeys} {x : Session}
    (h : K.Owns C x) : signingKey hexDecode x = .ok K.signing := by
  have hkey : x.signingKeyHex = hexText K.signing := congrArg Session.signingKeyHex h
  unfold signingKey
  rw [hkey, hhex]
  exact if_pos K.signing.2

theorem DeviceKeys.signedBy_owned {K : DeviceKeys} {x : Session} (h : K.Owns C x) (timestamp : ℤ) :
    (authenticateRequest C K.signing x timestamp).SignedBy C K :=
  ⟨congrArg Session.deviceId h, C.verify_sign _ _⟩

/-- A session authenticates with the keys it was made with, and still has them afterwards. -/
theorem DeviceKeys.authenticateSavedSession_owned {hexDecode : String → Except String Bytes}
    (hhex : ∀ bs, hexDecode (hexText bs) = .ok bs) {K : DeviceKeys} {x : Session}
    (h : K.Owns C x) (timestamp : ℤ) (answer : Except String (Option AuthTokens)) :
    (∀ request ∈ (authenticateSavedSession C hexDecode x timestamp answer).1,
        request.SignedBy C K) ∧
      ∀ result, (authenticateSavedSession C hexDecode x timestamp answer).2 = .ok result →
        K.Owns C result.session := by
  unfold authenticateSavedSession
  rw [signingKey_owned C hhex h]
  refine ⟨List.forall_mem_singleton.mpr (signedBy_owned C h timestamp), fun result hresult => ?_⟩
  cases htokens : tokensFrom answer with
  | error e =>
    rw [htokens] at hresult
    cases hresult
  | ok tokens =>
    rw [htokens] at hresult
    obtain rfl := Except.ok.inj hresult
    exact h.withTokens C _ _ _
