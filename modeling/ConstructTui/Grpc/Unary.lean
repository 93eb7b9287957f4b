import ConstructTui.Grpc.Framing
import ConstructTui.Lib.Checked

/-!
# Unary calls

A unary call sends one frame and reads one back. The status of the call comes in the headers or in
the trailers. One that is missing, that is no number, or whose trailers cannot be read counts as a
success, so a reply that was cut off before its trailers is taken for a whole one.

## Main definitions

* `Grpc.HeaderMap`, `Grpc.UnaryResponse`: what comes back.
* `Grpc.checkGrpcStatus`, `Grpc.doUnary`, `Grpc.unary`, `Grpc.refreshToken`.
* `Grpc.Complete`: what a call that succeeds is to have received.
* `Grpc.Refused`: what the call checks.

## Main results

* `Grpc.doUnary_complete_iff`: a success stands for a complete response exactly when the response is
  refused or has the status and nothing after its frame.
* `Grpc.unary_complete`: the retry keeps that.
-/

namespace Grpc

def GrpcError.isRetryableTransport : GrpcError → Bool
  | .transport _ | .tls _ => true
  | .status _ _ | .unauthenticated _ | .permissionDenied _ => false

/-! ### Headers -/

/-- Names with their values, in the order they came. -/
abbrev HeaderMap := List (String × Bytes)

namespace HeaderMap

/-- All values of a name. -/
def getAll (headers : HeaderMap) (name : String) : List Bytes :=
  (headers.filter fun header => header.1 = name).map Prod.snd

/-- The first value of a name. -/
def get (headers : HeaderMap) (name : String) : Option Bytes := (headers.getAll name).head?

end HeaderMap

/-- `HeaderValue::to_str`: tabs and visible ASCII only. -/
def toStr (value : Bytes) : Option (List Char) :=
  if value.all fun b => 32 ≤ b && b < 127 || b = 9 then
    some (value.map fun b => Char.ofNat b.toNat)
  else none

/-- `str::parse::<u32>`. -/
def parseU32 (cs : List Char) : Option ℕ := (parseU64 cs).filter fun n => n < 2 ^ 32

/-- The code in a value of `grpc-status`. -/
def statusCode (value : Bytes) : Option ℕ := (toStr value).bind parseU32

/-- The code in the first value of `grpc-status`. -/
def HeaderMap.grpcStatus (headers : HeaderMap) : Option ℕ :=
  (headers.get "grpc-status").bind statusCode

/-- A status that is not there or cannot be read is no error. -/
def checkGrpcStatus (headers : HeaderMap) : Except GrpcError Unit :=
  match headers.grpcStatus with
  | none => .ok ()
  | some code =>
    if code = 0 then .ok ()
    else
      let msg := String.ofList (((headers.get "grpc-message").bind toStr).getD [])
      if code = 16 then .error (.unauthenticated msg)
      else if code = 7 then .error (.permissionDenied msg)
      else .error (.status code msg)

/-! ### Calls -/

/-- What comes back: an HTTP status with its reason, the headers, the chunks of the body as they are
received, and what waiting for the trailers gives. -/
structure UnaryResponse where
  status : ℕ
  reason : String
  headers : HeaderMap
  chunks : List (Except String Bytes)
  trailers : Except String (Option HeaderMap)
  deriving DecidableEq, Repr

/-- The chunks up to the end, or up to the first that fails. -/
def receiveBody : List (Except String Bytes) → Except GrpcError Bytes
  | [] => .ok []
  | .error e :: _ => .error (.transport ("recv_data: " ++ e))
  | .ok chunk :: chunks => do return chunk ++ (← receiveBody chunks)

/-- Trailers that cannot be read, or that do not come, are passed over. -/
def checkTrailers : Except String (Option HeaderMap) → Except GrpcError Unit
  | .ok (some trailers) => checkGrpcStatus trailers
  | .ok none | .error _ => .ok ()

/-- One exchange. `answer` is the response, or the error with which sending the request or waiting
for the response ended. -/
def doUnary (path : String) (answer : Except GrpcError UnaryResponse) : Except GrpcError Bytes := do
  let response ← answer
  if response.status ≠ 200 then
    throw (.transport ("HTTP " ++ toString response.status ++ " " ++ response.reason ++ " from '" ++
      path ++ "'"))
  checkGrpcStatus response.headers
  let body ← receiveBody response.chunks
  checkTrailers response.trailers
  if body.isEmpty then
    return []
  let (msg, _) ← decodeFrame body
  return msg

/-- A call with one retry after a transport error; `answer'` is what comes back then. -/
def unary (path : String) (answer answer' : Except GrpcError UnaryResponse) :
    Except GrpcError Bytes :=
  match doUnary path answer with
  | .error e => if e.isRetryableTransport then doUnary path answer' else .error e
  | .ok msg => .ok msg

structure RefreshTokenResponse where
  accessToken : String
  refreshToken : Option String
  expiresAt : ℤ
  deriving DecidableEq, Repr

/-- The tokens in the response of the call; `decode` is the decoder of the message. -/
def refreshToken (decode : Bytes → Except String RefreshTokenResponse)
    (bytes : Except GrpcError Bytes) : Except GrpcError (String × String × ℤ) := do
  match decode (← bytes) with
  | .error e => throw (.transport ("RefreshToken decode: " ++ e))
  | .ok resp => return (resp.accessToken, resp.refreshToken.getD "", resp.expiresAt)

/-! ### What is to have been received -/

/-- All values of `grpc-status`, from the headers and from trailers that were read. -/
def UnaryResponse.statuses (response : UnaryResponse) : List Bytes :=
  response.headers.getAll "grpc-status" ++
    ((response.trailers.toOption.bind id).map fun t => t.getAll "grpc-status").getD []

/-- A `grpc-status` came, and every one that came is 0. -/
def UnaryResponse.StatusZero (response : UnaryResponse) : Prop :=
  response.statuses ≠ [] ∧ ∀ value ∈ response.statuses, statusCode value = some 0

/-- The whole body came, and it is `body`. -/
def UnaryResponse.Received (response : UnaryResponse) (body : Bytes) : Prop :=
  ∃ parts : List Bytes, response.chunks = parts.map .ok ∧ body = parts.flatten

/-- A complete response that carries `msg`. -/
structure Complete (response : UnaryResponse) (msg : Bytes) : Prop where
  http : response.status = 200
  status : response.StatusZero
  body : ∃ body, response.Received body ∧
    (msg.length < 2 ^ 32 ∧ body = encodeFrame msg ∨ body = [] ∧ msg = [])

/-- A response that is not taken for a success: the HTTP status, a first `grpc-status`, a chunk or
the beginning of the body says so. -/
inductive Refused (response : UnaryResponse) : Prop
  | http (h : response.status ≠ 200)
  | headers (code : ℕ) (h : response.headers.grpcStatus = some code) (hcode : code ≠ 0)
  | chunk (h : ∀ body, ¬response.Received body)
  | trailers (trailers : HeaderMap) (h : response.trailers = .ok (some trailers)) (code : ℕ)
      (hstatus : trailers.grpcStatus = some code) (hcode : code ≠ 0)
  | body (body : Bytes) (h : response.Received body) (hne : body ≠ [])
      (hframe : ∀ msg rest, msg.length < 2 ^ 32 → body ≠ encodeFrame msg ++ rest)

/-- Nothing comes after the first frame of the body. -/
def UnaryResponse.NothingAfter (response : UnaryResponse) : Prop :=
  ∀ msg rest, msg.length < 2 ^ 32 → response.Received (encodeFrame msg ++ rest) → rest = []

open Checked (bind_eq_ok)

variable {path : String} {response : UnaryResponse} {msg : Bytes}

/-! ### When a call succeeds -/

theorem checkGrpcStatus_eq_ok {headers : HeaderMap} :
    checkGrpcStatus headers = .ok () ↔ ∀ code ∈ headers.grpcStatus, code = 0 := by
  unfold checkGrpcStatus
  cases headers.grpcStatus with
  | none => exact iff_of_true rfl fun _ h => by cases h
  | some code =>
    have hall : (∀ code' ∈ some code, code' = 0) ↔ code = 0 :=
      ⟨fun h => h code rfl, fun h _ hcode => (Option.some.inj hcode).symm.trans h⟩
    rw [hall]
    dsimp only
    split_ifs with hzero
    · exact iff_of_true rfl hzero
    all_goals exact iff_of_false (fun h => by cases h) hzero

theorem receiveBody_eq_ok {chunks : List (Except String Bytes)} {body : Bytes} :
    receiveBody chunks = .ok body ↔
      ∃ parts : List Bytes, chunks = parts.map .ok ∧ body = parts.flatten := by
  induction chunks generalizing body with
  | nil =>
    constructor
    · intro h
      obtain rfl := Except.ok.inj h
      exact ⟨[], rfl, rfl⟩
    · rintro ⟨parts, hparts, rfl⟩
      obtain rfl := List.map_eq_nil_iff.mp hparts.symm
      rfl
  | cons chunk chunks ih =>
    cases chunk with
    | error e =>
      refine iff_of_false (fun h => by cases h) ?_
      rintro ⟨_ | ⟨part, parts⟩, hparts, -⟩
      · cases hparts
      · cases (List.cons.inj hparts).1
    | ok chunk =>
      rw [receiveBody, bind_eq_ok]
      constructor
      · rintro ⟨tail, htail, hbody⟩
        obtain ⟨parts, rfl, rfl⟩ := ih.mp htail
        obtain rfl := Except.ok.inj hbody
        exact ⟨chunk :: parts, rfl, rfl⟩
      · rintro ⟨_ | ⟨part, parts⟩, hparts, rfl⟩
        · cases hparts
        · obtain ⟨hpart, htail⟩ := List.cons.inj hparts
          obtain rfl := Except.ok.inj hpart
          exact ⟨parts.flatten, ih.mpr ⟨parts, htail, rfl⟩, rfl⟩

theorem UnaryResponse.Received.unique {body body' : Bytes} (h : response.Received body)
    (h' : response.Received body') : body = body' := by
  have hbody := receiveBody_eq_ok.mpr h
  exact Except.ok.inj (hbody.symm.trans (receiveBody_eq_ok.mpr h'))

theorem checkTrailers_eq_ok {trailers : Except String (Option HeaderMap)} :
    checkTrailers trailers = .ok () ↔
      ∀ map, trailers = .ok (some map) → ∀ code ∈ map.grpcStatus, code = 0 := by
  cases trailers with
  | error e => exact iff_of_true rfl fun _ h => by cases h
  | ok read =>
    cases read with
    | none => exact iff_of_true rfl fun _ h => by cases h
    | some map =>
      refine checkGrpcStatus_eq_ok.trans ⟨?_, fun h => h map rfl⟩
      rintro hzero map' hmap
      obtain rfl := Option.some.inj (Except.ok.inj hmap)
      exact hzero

/-- What is made of a body. -/
def messageOf (body : Bytes) : Except GrpcError Bytes := do
  if body.isEmpty then
    return []
  let (msg, _) ← decodeFrame body
  return msg

theorem messageOf_eq_ok {body : Bytes} : messageOf body = .ok msg ↔
    body = [] ∧ msg = [] ∨ ∃ rest, msg.length < 2 ^ 32 ∧ body = encodeFrame msg ++ rest := by
  unfold messageOf
  cases body with
  | nil =>
    refine ⟨fun h => .inl ⟨rfl, (Except.ok.inj h).symm⟩, ?_⟩
    rintro (⟨-, rfl⟩ | ⟨rest, -, hbody⟩)
    · rfl
    · cases hbody
  | cons b bs =>
    show (decodeFrame (b :: bs) >>= fun p => .ok p.1) = .ok msg ↔ _
    rw [bind_eq_ok]
    constructor
    · rintro ⟨⟨msg', rest⟩, hdecode, hmsg⟩
      obtain rfl := Except.ok.inj hmsg
      exact .inr ⟨rest, decodeFrame_eq_ok.mp hdecode⟩
    · rintro (⟨hbody, -⟩ | ⟨rest, hframe⟩)
      · cases hbody
      · exact ⟨(msg, rest), decodeFrame_eq_ok.mpr hframe, rfl⟩

/-- A call succeeds exactly when the HTTP status is OK, no first `grpc-status` says otherwise, and
the whole body came and has a message. -/
theorem doUnary_eq_ok : doUnary path (.ok response) = .ok msg ↔ response.status = 200 ∧
    checkGrpcStatus response.headers = .ok () ∧ checkTrailers response.trailers = .ok () ∧
    ∃ body, response.Received body ∧ messageOf body = .ok msg := by
  by_cases hhttp : response.status = 200
  · have hcall : doUnary path (.ok response) = (do
        checkGrpcStatus response.headers
        let body ← receiveBody response.chunks
        checkTrailers response.trailers
        messageOf body) := by
      show (if response.status ≠ 200 then _ else _ : Except GrpcError Bytes) = _
      rw [if_neg (not_not.mpr hhttp)]
      rfl
    rw [hcall, and_iff_right hhttp]
    simp only [bind_eq_ok, receiveBody_eq_ok]
    constructor
    · rintro ⟨_, hheaders, body, hbody, _, htrailers, hmessage⟩
      exact ⟨hheaders, htrailers, body, hbody, hmessage⟩
    · rintro ⟨hheaders, htrailers, body, hbody, hmessage⟩
      exact ⟨(), hheaders, body, hbody, (), htrailers, hmessage⟩
  · refine iff_of_false (fun h => ?_) fun h => hhttp h.1
    change (if response.status ≠ 200 then _ else _ : Except GrpcError Bytes) = _ at h
    rw [if_pos hhttp] at h
    cases h

/-- A response that is refused is no success. -/
theorem Refused.doUnary_ne_ok (h : Refused response) : doUnary path (.ok response) ≠ .ok msg := by
  rw [Ne, doUnary_eq_ok, checkGrpcStatus_eq_ok, checkTrailers_eq_ok]
  rintro ⟨hhttp, hheaders, htrailers, body, hbody, hmessage⟩
  cases h with
  | http h => exact h hhttp
  | headers code hcode hne => exact hne (hheaders code hcode)
  | chunk h => exact h body hbody
  | trailers map hmap code hcode hne => exact hne (htrailers map hmap code hcode)
  | body body' h hne hframe =>
    obtain rfl := hbody.unique h
    obtain ⟨hnil, -⟩ | ⟨rest, hlength, hbody⟩ := messageOf_eq_ok.mp hmessage
    · exact hne hnil
    · exact hframe msg rest hlength hbody

/-- A response that is not refused is a success. -/
theorem exists_doUnary_of_not_refused (h : ¬Refused response) :
    ∃ msg, doUnary path (.ok response) = .ok msg := by
  obtain ⟨body, hbody⟩ : ∃ body, response.Received body := by
    by_contra hnone
    exact h (.chunk fun body hbody => hnone ⟨body, hbody⟩)
  obtain ⟨msg, hmessage⟩ : ∃ msg, messageOf body = .ok msg := by
    by_cases hnil : body = []
    · exact ⟨[], messageOf_eq_ok.mpr (.inl ⟨hnil, rfl⟩)⟩
    · by_contra hnone
      refine h (.body body hbody hnil fun msg rest hlength hframe => hnone ⟨msg, ?_⟩)
      exact messageOf_eq_ok.mpr (.inr ⟨rest, hlength, hframe⟩)
  refine ⟨msg,
    doUnary_eq_ok.mpr ⟨?_, checkGrpcStatus_eq_ok.mpr ?_, checkTrailers_eq_ok.mpr ?_, body,
    hbody, hmessage⟩⟩
  · by_contra hhttp
    exact h (.http hhttp)
  · intro code hcode
    by_contra hne
    exact h (.headers code hcode hne)
  · intro map hmap code hcode
    by_contra hne
    exact h (.trailers map hmap code hcode hne)

/-! ### What a success stands for -/

theorem complete_of_doUnary (hstatus : response.StatusZero) (hafter : response.NothingAfter)
    (h : doUnary path (.ok response) = .ok msg) : Complete response msg := by
  obtain ⟨hhttp, -, -, body, hbody, hmessage⟩ := doUnary_eq_ok.mp h
  refine ⟨hhttp, hstatus, body, hbody, ?_⟩
  obtain hnil | ⟨rest, hlength, rfl⟩ := messageOf_eq_ok.mp hmessage
  · exact .inr hnil
  · obtain rfl := hafter msg rest hlength hbody
    exact .inl ⟨hlength, List.append_nil _⟩

/-- **A success stands for a complete response exactly when the response is refused, or has a
`grpc-status` of 0 and no other and nothing after its frame.** -/
theorem doUnary_complete_iff (path : String) (response : UnaryResponse) :
    (∀ msg, doUnary path (.ok response) = .ok msg → Complete response msg) ↔
      Refused response ∨ response.StatusZero ∧ response.NothingAfter := by
  constructor
  · intro h
    by_cases hrefused : Refused response
    · exact .inl hrefused
    obtain ⟨msg, hmsg⟩ : ∃ msg, doUnary path (.ok response) = .ok msg :=
      exists_doUnary_of_not_refused hrefused
    refine .inr ⟨(h msg hmsg).status, fun msg' rest hlength hbody => ?_⟩
    obtain ⟨hhttp, hheaders, htrailers, -⟩ := doUnary_eq_ok.mp hmsg
    have hcomplete := h msg' (doUnary_eq_ok.mpr ⟨hhttp, hheaders, htrailers, _, hbody,
      messageOf_eq_ok.mpr (.inr ⟨rest, hlength, rfl⟩)⟩)
    obtain ⟨body, hbody', hframe⟩ := hcomplete.body
    obtain rfl := hbody'.unique hbody
    obtain ⟨-, hframe⟩ | ⟨hnil, -⟩ := hframe
    · exact List.append_right_eq_self.mp hframe
    · cases hnil
  · rintro (hrefused | ⟨hstatus, hafter⟩) msg hmsg
    · exact absurd hmsg hrefused.doUnary_ne_ok
    · exact complete_of_doUnary hstatus hafter hmsg

/-- A response without trailers, as when the server goes away before it has said anything. -/
def cutOff : UnaryResponse where
  status := 200
  reason := "OK"
  headers := [("content-type", Utf8.encode "application/grpc")]
  chunks := []
  trailers := .ok none

/-- A refresh whose reply was cut off succeeds, with empty tokens. -/
theorem doUnary_cutOff :
    doUnary "/shared.proto.services.v1.AuthService/RefreshToken" (.ok cutOff) = .ok [] ∧
      ¬Complete cutOff [] ∧
      refreshToken (fun bytes => if bytes = [] then .ok ⟨"", none, 0⟩ else .error "decode")
        (doUnary "/shared.proto.services.v1.AuthService/RefreshToken" (.ok cutOff)) =
        .ok ("", "", 0) := by
  refine ⟨by decide, fun h => h.status.1 ?_, by decide⟩
  decide

/-- A call that succeeds after a retry or without one has a complete response, if every response
that is not refused has its status and nothing after its frame. -/
theorem unary_complete {answer answer' : Except GrpcError UnaryResponse}
    (hwhole : ∀ response, answer = .ok response ∨ answer' = .ok response → ¬Refused response →
      response.StatusZero ∧ response.NothingAfter)
    (h : unary path answer answer' = .ok msg) :
    ∃ response, (answer = .ok response ∨ answer' = .ok response) ∧ Complete response msg := by
  have honce {answer : Except GrpcError UnaryResponse}
      (hwhole : ∀ response, answer = .ok response → ¬Refused response →
        response.StatusZero ∧ response.NothingAfter)
      (h : doUnary path answer = .ok msg) : ∃ response, answer = .ok response ∧
        Complete response msg := by
    obtain ⟨response, rfl, -⟩ := bind_eq_ok.mp h
    obtain ⟨hstatus, hafter⟩ := hwhole response rfl fun hrefused => hrefused.doUnary_ne_ok h
    exact ⟨response, rfl, complete_of_doUnary hstatus hafter h⟩
  unfold unary at h
  cases hfirst : doUnary path answer with
  | ok msg' =>
    rw [hfirst] at h
    obtain rfl := Except.ok.inj h
    obtain ⟨response, hresponse, hcomplete⟩ := honce (fun r hr => hwhole r (.inl hr)) hfirst
    exact ⟨response, .inl hresponse, hcomplete⟩
  | error e =>
    rw [hfirst] at h
    dsimp only at h
    split at h
    · obtain ⟨response, hresponse, hcomplete⟩ := honce (fun r hr => hwhole r (.inr hr)) h
      exact ⟨response, .inr hresponse, hcomplete⟩
    · cases h

end Grpc
