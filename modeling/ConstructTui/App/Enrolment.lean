import ConstructTui.App.Credentials
import ConstructTui.Auth
import ConstructTui.Lib.Fifo

/-!
# Enrolled devices

A client that has never been started has no keys. It makes some when it registers or is linked, and
the server answers with tokens. Every request that authenticates a device, now or after a restart,
is signed with keys that were enrolled before, whatever else happens in between: refreshes, more
registrations, logouts, and saves that fail.

## Main definitions

* `Sys.deviceStep`: a step of the client that makes its own keys, or a new start on its files.
* `Sys.authSteps`: the requests of the step that concern keys, and the keys that are enrolled.
* `Sys.Known`: a session with enrolled keys.
* `Sys.Grounded`: what must have come before a request.

## Main results

* `Sys.fresh_step`: the keys that wait to be enrolled.
* `Sys.authenticates_enrolled`: every request has its ground.
-/

variable {ε : Type}

/-- No user and no tokens yet. -/
def AuthTokens.none : AuthTokens := ⟨"", "", "", 0⟩

/-- A request about keys that is sent, or keys that are enrolled. -/
inductive AuthStep
  | sent (request : AuthRequest)
  | enrolled (fresh : Session)
  deriving DecidableEq

/-- The steps of a client that makes its own keys; a registration asks the server for a
challenge. -/
inductive DeviceLabel (ε : Type)
  | act (a : Label ε)
  | generate (k : ℕ) (K : DeviceKeys) (challenge : Except String (String × ℕ)) (ans : Answers ε)
  | restart (cfg : AppConfig)

namespace Sys

variable (C : DeviceCrypto) (E : AppExternals ε)

/-- The step begins a registration or a link. -/
def generates (s : Sys ε) : Label ε → Bool
  | .request k _ _ => (s.tasks[k]?).any fun r => r.task.enrolls
  | _ => false

/-- Why a task ends before its keys are sent. -/
def powFailure (challenge : Except String (String × ℕ)) : BackgroundTask → Option String
  | .register _ =>
    match getPowChallenge challenge with
    | .error e => some ("pow challenge: " ++ e)
    | .ok _ => none
  | _ => none

def deviceStep (s : Sys ε) : DeviceLabel ε → Option (Sys ε)
  | .act a => if s.generates a then none else step E s a
  | .generate k K challenge ans =>
    if s.generates (.request k (K.session C .none) ans) then
      (step E s (.request k (K.session C .none) ans)).map fun s' =>
        match (s.tasks[k]?).bind fun r => powFailure challenge r.task with
        | some e => s'.conclude k (authFailure false e)
        | none => s'
    else none
  | .restart cfg => some (start ε cfg s.dir s.db)

/-- The session that a task authenticates. -/
def authenticating (ans : Answers ε) (s : Sys ε) : BackgroundTask → Option Session
  | .restoreFromDisk => if ans.readable then s.dir.loadSession.toOption.join else none
  | .authenticate session _ => some session
  | _ => none

/-- What is sent to enrol the keys, up to the answer with tokens. -/
def enrolment (K : DeviceKeys) (challenge : Except String (String × ℕ)) :
    BackgroundTask → List AuthRequest
  | .register username => (registerNewDevice C K username challenge (.error "")).1
  | .link token => (linkExistingDevice C K token (.error "")).1
  | _ => []

/-- What a step sends about keys, and the keys for which an answer with tokens arrives. -/
def authSteps (s : Sys ε) : DeviceLabel ε → List AuthStep
  | .act (.request k _ ans) =>
    match s.tasks[k]? with
    | some ⟨task, false, _⟩ =>
      ((authenticating ans s task).bind fun session =>
        (signingKey E.hexDecode session).toOption.map fun key =>
          .sent (authenticateRequest C key session ans.nowSecs)).toList
    | _ => []
  | .act (.finish k (.tokens _ _ _ _) _) =>
    match s.tasks[k]? with
    | some ⟨task, true, some fresh⟩ => if task.enrolls then [.enrolled fresh] else []
    | _ => []
  | .generate k K challenge _ =>
    ((s.tasks[k]?).map fun r => (enrolment C K challenge r.task).map .sent).getD []
  | _ => []

/-- What a run sends about keys, and the keys it enrols. -/
def authTrace : Sys ε → List (DeviceLabel ε) → List AuthStep :=
  Run.output (deviceStep C E) (authSteps C E)

/-! ### Grounds -/

/-- The public keys have been sent. -/
def Offered (past : List AuthStep) (K : DeviceKeys) : Prop :=
  ∃ request, .sent request ∈ past ∧ request.Offers C K

/-- They have been sent, and the server has answered. -/
def Enrolled (past : List AuthStep) (K : DeviceKeys) : Prop :=
  Offered C past K ∧ .enrolled (K.session C .none) ∈ past

/-- A session with enrolled keys. -/
def Known (past : List AuthStep) (x : Session) : Prop := ∃ K, Enrolled C past K ∧ K.Owns C x

/-- A device authenticates with keys that it has enrolled; keys are enrolled after they have been
offered, and only keys that check are offered. -/
def Grounded (past : List AuthStep) : AuthStep → Prop
  | .sent (.authenticateDevice deviceId timestamp signature) =>
    ∃ K, Enrolled C past K ∧
      AuthRequest.SignedBy C K (.authenticateDevice deviceId timestamp signature)
  | .sent (.registerDevice _ deviceId keys _ _) | .sent (.confirmDeviceLink _ deviceId keys) =>
    keys.Checks C deviceId
  | .sent .getPowChallenge => True
  | .enrolled fresh => ∃ K, Offered C past K ∧ fresh = K.session C .none

variable {C}

theorem Offered.append {past : List AuthStep} {K : DeviceKeys} (h : Offered C past K)
    (more : List AuthStep) : Offered C (past ++ more) K := by
  obtain ⟨request, hsent, hoffers⟩ := h
  exact ⟨request, List.mem_append_left _ hsent, hoffers⟩

theorem Enrolled.append {past : List AuthStep} {K : DeviceKeys} (h : Enrolled C past K)
    (more : List AuthStep) : Enrolled C (past ++ more) K :=
  ⟨h.1.append more, List.mem_append_left _ h.2⟩

theorem Known.append {past : List AuthStep} {x : Session} (h : Known C past x)
    (more : List AuthStep) : Known C (past ++ more) x := by
  obtain ⟨K, hK, howns⟩ := h
  exact ⟨K, hK.append more, howns⟩

theorem tokenFree_known (past : List AuthStep) : Session.TokenFree (Known C past) := by
  rintro x accessToken refreshToken expiresAt ⟨K, hK, howns⟩
  exact ⟨K, hK, howns.withTokens C _ _ _⟩

theorem Grounded.append (past more : List AuthStep) (m : AuthStep) (h : Grounded C past m) :
    Grounded C (past ++ more) m := by
  cases m with
  | sent request =>
    cases request with
    | authenticateDevice deviceId timestamp signature =>
      obtain ⟨K, hK, hsigned⟩ := h
      exact ⟨K, hK.append more, hsigned⟩
    | _ => exact h
  | enrolled fresh =>
    obtain ⟨K, hK, hfresh⟩ := h
    exact ⟨K, hK.append more, hfresh⟩

/-- What is sent to enrol keys checks. -/
theorem grounded_enrolment (past : List AuthStep) {K : DeviceKeys}
    {challenge : Except String (String × ℕ)} {task : BackgroundTask} {request : AuthRequest}
    (h : request ∈ enrolment C K challenge task) : Grounded C past (.sent request) := by
  cases task with
  | register username =>
    unfold enrolment registerNewDevice at h
    dsimp only at h
    split at h
    · obtain rfl := List.mem_singleton.mp h
      trivial
    · obtain rfl | rfl :
          request = .getPowChallenge ∨ request = registerRequest C K username _ _ := by
        simpa using h
      · trivial
      · exact K.checks_publicKeys C
  | link token =>
    obtain rfl := List.mem_singleton.mp h
    exact K.checks_publicKeys C
  | _ => exact absurd h List.not_mem_nil

/-- A task that goes on to wait for tokens has sent the keys. -/
theorem offers_enrolment {K : DeviceKeys} {challenge : Except String (String × ℕ)}
    {task : BackgroundTask} (htask : task.enrolls) (h : powFailure challenge task = none) :
    ∃ request ∈ enrolment C K challenge task, request.Offers C K := by
  cases task with
  | register username =>
    unfold powFailure at h
    dsimp only at h
    unfold enrolment registerNewDevice
    dsimp only
    split at h
    · cases h
    · next hpow =>
      rw [hpow]
      exact ⟨_, List.mem_cons_of_mem _ List.mem_cons_self, .register username _ _⟩
  | link token => exact ⟨_, List.mem_cons_self, .link token⟩
  | _ => cases htask

/-! ### Keys that wait to be enrolled -/

/-- The keys that a registration or a link waits with have the property. -/
def Waiting (P : Session → Prop) (s : Sys ε) : Prop :=
  ∀ r ∈ s.tasks, r.task.enrolls → ∀ x ∈ r.session, P x

variable {E} {P : Session → Prop} {s s' : Sys ε}

theorem Waiting.congr (hs : s.Waiting P) (h : s'.tasks = s.tasks) : s'.Waiting P :=
  fun r hr => hs r (h ▸ hr)

theorem Waiting.eraseIdx (hs : s.Waiting P) (k : ℕ) (h : s'.tasks = s.tasks.eraseIdx k) :
    s'.Waiting P := fun r hr => hs r (List.mem_of_mem_eraseIdx (h ▸ hr))

theorem Waiting.started (hs : s.Waiting P)
    (h : ∃ ts : List BackgroundTask, (∀ t ∈ ts, t.Checked E) ∧
      s'.tasks = s.tasks ++ ts.map started) : s'.Waiting P := by
  obtain ⟨ts, -, hts⟩ := h
  intro r hr
  rw [hts] at hr
  obtain hr | hr := List.mem_append.mp hr
  · exact hs r hr
  · obtain ⟨task, -, rfl⟩ := List.mem_map.mp hr
    exact fun _ => nofun

theorem Waiting.await (hs : s.Waiting P) {k : ℕ} {r : Running} (hr : s.tasks[k]? = some r)
    {session : Option Session} (h : r.task.enrolls → ∀ x ∈ session, P x) :
    (s.await k session).Waiting P :=
  forall_mem_modify hs fun r' hr' => by
    obtain rfl := Option.some.inj (hr.symm.trans hr')
    exact h

theorem Waiting.beginRequest (hs : s.Waiting P) {k : ℕ} {task : BackgroundTask}
    {old : Option Session} (hr : s.tasks[k]? = some ⟨task, false, old⟩) {fresh : Session}
    (hfresh : task.enrolls → P fresh) (ans : Answers ε) :
    (beginRequest E k task fresh ans s).Waiting P := by
  have hnever {session : Option Session} (h : task.enrolls = false) :
      (⟨task, false, old⟩ : Running).task.enrolls → ∀ x ∈ session, P x := fun h' => by
    rw [h] at h'
    cases h'
  have hauthenticate (session : Session) (reauth : Bool) (htask : task.enrolls = false) {t : Sys ε}
      (ht : t.tasks = s.tasks) : (beginAuthenticate E k session reauth t).Waiting P := by
    unfold beginAuthenticate
    split
    · exact (hs.congr ht).eraseIdx k rfl
    · exact Waiting.await (s := t.setDeviceId session.deviceId) (hs.congr ht) (ht ▸ hr)
        (hnever htask)
  cases task with
  | restoreFromDisk =>
    unfold Sys.beginRequest
    dsimp only
    split
    · exact hs.eraseIdx k rfl
    · exact hs.eraseIdx k rfl
    · exact hauthenticate _ false rfl rfl
  | authenticate session reauth => exact hauthenticate session reauth rfl rfl
  | register _ | link _ =>
    refine Waiting.await (s := s.setDeviceId fresh.deviceId) hs hr fun _ => ?_
    rintro _ ⟨⟩
    exact hfresh rfl
  | tokenRefresh deviceId _ _ | tokenRefreshNow deviceId _ | uploadPreKeys deviceId _ =>
    exact Waiting.await (s := s.setDeviceId deviceId) hs hr (hnever rfl)
  | search _ | redeem _ _ => exact hs.await hr (hnever rfl)

theorem Waiting.finishRequest (hs : s.Waiting P) (k : ℕ) (r : Running) (result : TaskResult)
    (ans : Answers ε) : (finishRequest k r result ans s).Waiting P := by
  unfold Sys.finishRequest
  split
  case h_1 =>
    split
    · exact hs
    · dsimp only
      split <;> exact hs.eraseIdx k rfl
  case h_2 | h_3 | h_4 =>
    split
    · exact hs
    · exact hs.eraseIdx k rfl
  all_goals first | exact hs.eraseIdx k rfl | exact hs

/-- A step keeps what is true of the keys that wait, if it is true of those that it makes. -/
theorem fresh_step (hs : s.Waiting P) {a : Label ε} (h : step E s a = some s')
    (hfresh : ∀ k fresh ans, a = .request k fresh ans → s.generates a → P fresh) :
    s'.Waiting P := by
  cases stepped h with
  | startup => exact hs.started (App.retains_startupCheck E _ s).tasks
  | @key key ans => exact hs.started (App.tasks_handle E ans s (.key key))
  | @internal ans q queue _ _ =>
    have hpopped : ({ s with queue := queue } : Sys ε).Waiting P := hs
    exact hpopped.started (App.tasks_handle E ans _ (.event q.event q.gone))
  | @request k fresh ans task session hr =>
    refine hs.beginRequest hr (fun htask => hfresh k fresh ans rfl ?_) ans
    rw [generates, hr]
    exact htask
  | finish => exact hs.finishRequest _ _ _ _
  | orchestrator hp hs' =>
    obtain ⟨⟨program, world⟩, -, rfl⟩ := Option.map_eq_some_iff.mp hs'
    exact hs
  | _ => exact hs

end Sys

/-! ### The flows in the client -/

/-- What the app is told of a result that is to be saved. -/
def AuthResult.event (result : AuthResult) : InternalEvent := .auth (.success
  ⟨result.userId, result.deviceId, result.accessToken, result.session, some result.session⟩)

namespace Sys

variable (C : DeviceCrypto) {E : AppExternals ε} {ans : Answers ε}

/-- A task that authenticates waits for the answer exactly when it could sign its request. -/
theorem beginAuthenticate_cases (k : ℕ) (session : Session) (reauth : Bool) (s : Sys ε) :
    (∃ key, signingKey E.hexDecode session = .ok key ∧
      beginAuthenticate E k session reauth s =
        (s.setDeviceId session.deviceId).await k (some session)) ∨
    ∃ e e', signingKey E.hexDecode session = .error e ∧
      beginAuthenticate E k session reauth s = s.conclude k (authFailure reauth e') := by
  cases hdecode : E.hexDecode session.signingKeyHex with
  | error e =>
    have hcheck : checkSigningKey E session = .error e := by
      unfold checkSigningKey
      rw [hdecode]
      rfl
    refine .inr ⟨"invalid signing key hex: " ++ e, e, ?_, ?_⟩
    · unfold signingKey
      rw [hdecode]
      rfl
    · unfold beginAuthenticate
      rw [hcheck]
  | ok key =>
    by_cases hlength : key.length = 32
    · have hcheck : checkSigningKey E session = .ok () := by
        unfold checkSigningKey
        rw [hdecode]
        exact if_pos hlength
      refine .inl ⟨key, ?_, ?_⟩
      · unfold signingKey
        rw [hdecode]
        exact if_pos hlength
      · unfold beginAuthenticate
        rw [hcheck]
    · have hcheck : checkSigningKey E session = .error "signing key must be 32 bytes" := by
        unfold checkSigningKey
        rw [hdecode]
        exact if_neg hlength
      refine .inr ⟨"signing key must be 32 bytes", "signing key must be 32 bytes", ?_, ?_⟩
      · unfold signingKey
        rw [hdecode]
        exact if_neg hlength
      · unfold beginAuthenticate
        rw [hcheck]

/-- With tokens for an answer, the task of a registration or a link ends with the flow's result. -/
theorem finishRequest_enrols {task : BackgroundTask} (htask : task.enrolls) (k : ℕ)
    (K : DeviceKeys) (userId accessToken refreshToken : String) (expiresAt : ℤ) (s : Sys ε) :
    finishRequest k ⟨task, true, some (K.session C .none)⟩
        (.tokens userId accessToken refreshToken expiresAt) ans s =
      s.conclude k (K.authResult C ⟨userId, accessToken, refreshToken, expiresAt⟩).event := by
  cases task with
  | register _ | link _ => rfl
  | _ => cases htask

/-- So does the task of an authentication. -/
theorem finishRequest_authenticates (k : ℕ) (saved session : Session) (reauth : Bool)
    (timestamp : ℤ) (userId accessToken refreshToken : String) (expiresAt : ℤ) (s : Sys ε)
    {result : AuthResult} (h : (authenticateSavedSession C E.hexDecode session timestamp
      (.ok (some ⟨userId, accessToken, refreshToken, expiresAt⟩))).2 = .ok result) :
    finishRequest k ⟨.authenticate saved reauth, true, some session⟩
        (.tokens userId accessToken refreshToken expiresAt) ans s =
      s.conclude k result.event := by
  unfold authenticateSavedSession at h
  split at h
  · cases h
  · obtain rfl := Except.ok.inj h
    rfl

end Sys

/-! ### Runs -/

theorem ConfigDir.Only.mono {P Q : Session → Prop} {d : ConfigDir} (h : d.Only P)
    (hPQ : ∀ x, P x → Q x) : d.Only Q :=
  ⟨fun file hfile x hx => hPQ x (h.enc file hfile x hx),
    fun file hfile x hx => hPQ x (h.legacy file hfile x hx)⟩

theorem Account.Only.mono {P Q : Session → Prop} {A : Account} (h : A.Only P)
    (hPQ : ∀ x, P x → Q x) : A.Only Q where
  current x hx := hPQ x (h.current x hx)
  pending x hx := hPQ x (h.pending x hx)
  disk := h.disk.mono hPQ
  tasks r hr x hx := hPQ x (h.tasks r hr x hx)
  events e he x hx := hPQ x (h.events e he x hx)

namespace Sys

/-- Every session that is kept has enrolled keys, what waits for tokens has offered its keys, and
all that was sent had its ground. -/
structure Enrolments (C : DeviceCrypto) (past : List AuthStep) (s : Sys ε) : Prop where
  kept : s.account.Only (Known C past)
  waiting : s.Waiting fun x => ∃ K, Offered C past K ∧ x = K.session C .none
  grounded : Run.Founded (Grounded C) past

variable {C : DeviceCrypto} {E : AppExternals ε} {past : List AuthStep} {s s' : Sys ε}

theorem Waiting.mono {P Q : Session → Prop} (h : s.Waiting P) (hPQ : ∀ x, P x → Q x) :
    s.Waiting Q := fun r hr htask x hx => hPQ x (h r hr htask x hx)

/-- What is sent has its ground, and what is kept and what waits is still so. -/
theorem Enrolments.extend (hs : Enrolments C past s) {more : List AuthStep}
    (hmore : ∀ m ∈ more, Grounded C past m) : Enrolments C (past ++ more) s where
  kept := hs.kept.mono fun _ hx => hx.append more
  waiting := hs.waiting.mono fun _ ⟨K, hK, hx⟩ => ⟨K, hK.append more, hx⟩
  grounded := hs.grounded.append Grounded.append hmore

/-- A session that a task authenticates is kept. -/
theorem known_authenticating (hs : s.account.Only (Known C past)) {k : ℕ} {task : BackgroundTask}
    {requested : Bool} {old : Option Session} (hr : s.tasks[k]? = some ⟨task, requested, old⟩)
    {ans : Answers ε} {x : Session} (hx : authenticating ans s task = some x) :
    Known C past x := by
  cases task with
  | restoreFromDisk =>
    unfold authenticating at hx
    dsimp only at hx
    split at hx
    · refine hs.disk.loadSession ?_
      cases hload : s.dir.loadSession with
      | error e =>
        rw [hload] at hx
        cases hx
      | ok loaded =>
        rw [hload] at hx
        have hloaded : loaded = some x := hx
        exact hload.trans (congrArg Except.ok hloaded)
    · cases hx
  | authenticate session reauth =>
    obtain rfl := Option.some.inj hx
    exact hs.tasks _ (List.mem_of_getElem? hr) _ List.mem_cons_self
  | _ => cases hx

/-- The request that a session sends is signed with its keys. -/
theorem grounded_authenticate (hhex : ∀ bs, E.hexDecode (hexText bs) = .ok bs) {x : Session}
    (hx : Known C past x) {key : Bytes} (hkey : signingKey E.hexDecode x = .ok key)
    (timestamp : ℤ) : Grounded C past (.sent (authenticateRequest C key x timestamp)) := by
  obtain ⟨K, hK, howns⟩ := hx
  obtain rfl : key = K.signing :=
    Except.ok.inj (hkey.symm.trans (DeviceKeys.signingKey_owned C hhex howns))
  exact ⟨K, hK, DeviceKeys.signedBy_owned C howns timestamp⟩

/-- What a step of the client sends about keys has its ground, and so have the keys it enrols. -/
theorem grounded_authSteps (hhex : ∀ bs, E.hexDecode (hexText bs) = .ok bs)
    (hs : Enrolments C past s) (a : Label ε) :
    ∀ m ∈ authSteps C E s (.act a), Grounded C past m := by
  intro m hm
  cases a with
  | request k fresh ans =>
    unfold authSteps at hm
    dsimp only at hm
    split at hm
    · next task old hr =>
      obtain ⟨x, hx, hm⟩ := Option.bind_eq_some_iff.mp (Option.mem_toList.mp hm)
      obtain ⟨key, hkey, rfl⟩ := Option.map_eq_some_iff.mp hm
      have hkey' : signingKey E.hexDecode x = .ok key := by
        cases hsigning : signingKey E.hexDecode x with
        | error e =>
          rw [hsigning] at hkey
          cases hkey
        | ok key' =>
          rw [hsigning] at hkey
          exact congrArg Except.ok (Option.some.inj hkey)
      exact grounded_authenticate hhex (known_authenticating hs.kept hr hx) hkey' _
    · cases hm
  | finish k result ans =>
    cases result with
    | tokens userId accessToken refreshToken expiresAt =>
      unfold authSteps at hm
      dsimp only at hm
      split at hm
      · next task fresh hr =>
        split at hm
        · next htask =>
          obtain rfl := List.mem_singleton.mp hm
          exact hs.waiting _ (List.mem_of_getElem? hr) htask fresh rfl
        · cases hm
      · cases hm
    | _ => cases hm
  | _ => cases hm

/-- A registration or a link that gets its tokens brings a session with enrolled keys. -/
theorem kept_enrols (hs : Enrolments C past s) {a : Label ε} (h : step E s a = some s')
    (henrols : s.enrolls a = true) :
    s'.account.Only (Known C (past ++ authSteps C E s (.act a))) := by
  cases stepped h with
  | @finish k result ans task session hr =>
    cases result with
    | tokens userId accessToken refreshToken expiresAt =>
      have htask : (s.tasks[k]?).any (fun r => r.task.enrolls) = true := henrols
      rw [hr] at htask
      have hkept (more : List AuthStep) : s.account.Only (Known C (past ++ more)) :=
        hs.kept.mono fun _ hx => hx.append more
      cases session with
      | none =>
        have hsame : finishRequest k ⟨task, true, none⟩
            (.tokens userId accessToken refreshToken expiresAt) ans s = s := by
          cases task with
          | register _ | link _ => rfl
          | _ => cases htask
        rw [hsame]
        exact hkept _
      | some fresh =>
        obtain ⟨K, hK, rfl⟩ := hs.waiting _ (List.mem_of_getElem? hr) htask fresh rfl
        have hsteps : authSteps C E s (.act (.finish k
            (.tokens userId accessToken refreshToken expiresAt) ans)) =
            [.enrolled (K.session C .none)] := by
          unfold authSteps
          dsimp only
          rw [hr]
          exact if_pos htask
        rw [finishRequest_enrols C htask, hsteps]
        have hknown : Known C (past ++ [.enrolled (K.session C .none)])
            (K.session C ⟨userId, accessToken, refreshToken, expiresAt⟩) :=
          ⟨K, ⟨hK.append _, List.mem_append_right _ (List.mem_singleton.mpr rfl)⟩,
            K.owns_session C _⟩
        exact only_conclude (hkept _) k
          (List.forall_mem_cons.mpr ⟨hknown, List.forall_mem_singleton.mpr hknown⟩)
    | _ => cases henrols
  | _ => cases henrols

theorem enrolments_act (hhex : ∀ bs, E.hexDecode (hexText bs) = .ok bs) (hs : Enrolments C past s)
    {a : Label ε} (hgenerates : s.generates a = false) (h : step E s a = some s') :
    Enrolments C (past ++ authSteps C E s (.act a)) s' := by
  have hextended := hs.extend (grounded_authSteps hhex hs a)
  refine ⟨?_, ?_, hextended.grounded⟩
  · cases henrols : s.enrolls a with
    | false => exact only_step (tokenFree_known _) hextended.kept henrols h
    | true => exact kept_enrols hs h henrols
  · refine fresh_step hextended.waiting h fun _ _ _ _ hgenerates' => ?_
    rw [hgenerates] at hgenerates'
    cases hgenerates'

theorem enrolments_generate (hs : Enrolments C past s) {k : ℕ} {K : DeviceKeys}
    {challenge : Except String (String × ℕ)} {ans : Answers ε}
    (h : deviceStep C E s (.generate k K challenge ans) = some s') :
    Enrolments C (past ++ authSteps C E s (.generate k K challenge ans)) s' := by
  rw [deviceStep, Option.ite_none_right_eq_some] at h
  obtain ⟨hgenerates, h⟩ := h
  obtain ⟨t, ht, rfl⟩ := Option.map_eq_some_iff.mp h
  cases stepped ht with
  | @request _ _ _ task old hr =>
    have htask : task.enrolls = true := by
      rw [generates, hr] at hgenerates
      exact hgenerates
    have hsteps : authSteps C E s (.generate k K challenge ans) =
        (enrolment C K challenge task).map .sent := by
      unfold authSteps
      dsimp only
      rw [hr]
      rfl
    have hgrounded (m : AuthStep) (hm : m ∈ (enrolment C K challenge task).map .sent) :
        Grounded C past m := by
      obtain ⟨request, hrequest, rfl⟩ := List.mem_map.mp hm
      exact grounded_enrolment past hrequest
    have hextended := hs.extend hgrounded
    have hkept := only_step (tokenFree_known _) hextended.kept rfl ht
    rw [hsteps, hr]
    dsimp only [Option.bind_some]
    split
    · next e he =>
      refine ⟨only_conclude hkept k (List.forall_mem_nil _), ?_, hextended.grounded⟩
      refine hextended.waiting.eraseIdx k ?_
      cases task with
      | register _ | link _ => exact List.eraseIdx_modify_of_eq _ _ _
      | _ => cases htask
    · next hpow =>
      obtain ⟨request, hrequest, hoffers⟩ := offers_enrolment (C := C) (K := K) htask hpow
      have hoffered : Offered C (past ++ (enrolment C K challenge task).map .sent) K :=
        ⟨request, List.mem_append_right _ (List.mem_map_of_mem hrequest), hoffers⟩
      refine ⟨hkept, fresh_step hextended.waiting ht ?_, hextended.grounded⟩
      rintro _ _ _ ⟨⟩ -
      exact ⟨K, hoffered, rfl⟩

theorem enrolments_deviceStep (hhex : ∀ bs, E.hexDecode (hexText bs) = .ok bs)
    (hs : Enrolments C past s) {l : DeviceLabel ε} (h : deviceStep C E s l = some s') :
    Enrolments C (past ++ authSteps C E s l) s' := by
  cases l with
  | act a =>
    rw [deviceStep, Option.ite_none_left_eq_some] at h
    exact enrolments_act hhex hs (by simpa using h.1) h.2
  | generate k K challenge ans => exact enrolments_generate hs h
  | restart cfg =>
    obtain rfl := Option.some.inj h
    have hsteps : authSteps C E s (.restart cfg) = [] := rfl
    rw [hsteps, List.append_nil]
    exact ⟨only_start hs.kept.disk cfg s.db, List.forall_mem_nil _, hs.grounded⟩

/-- **Only enrolled devices authenticate.** In every run of a client that starts without a session,
and through any restarts, each request to authenticate a device is signed with keys whose public
halves had been sent for that device before, and for which the server had answered; all that is sent
to enrol a device checks. Every session that is kept has enrolled keys. -/
theorem authenticates_enrolled (C : DeviceCrypto) (E : AppExternals ε)
    (hhex : ∀ bs, E.hexDecode (hexText bs) = .ok bs) (cfg : AppConfig) {dir : ConfigDir}
    (hdir : dir.Only fun _ => False) (db : Storage) {ls : List (DeviceLabel ε)}
    (h : Run.after (deviceStep C E) (start ε cfg dir db) ls = some s) :
    Run.Founded (Grounded C) (authTrace C E (start ε cfg dir db) ls) ∧
      s.account.Only (Known C (authTrace C E (start ε cfg dir db) ls)) := by
  have hstart : Enrolments C [] (start ε cfg dir db) :=
    ⟨only_start (hdir.mono fun _ => False.elim) cfg db, List.forall_mem_nil _,
      Run.founded_nil _⟩
  have henrolments := Run.output_invariant (I := Enrolments C)
    (fun past s l s' hs h => enrolments_deviceStep hhex hs h) hstart h
  exact ⟨henrolments.grounded, henrolments.kept⟩

end Sys

/-- Keys whose public halves are themselves, and signatures that anyone can make. -/
def DeviceCrypto.clear : DeviceCrypto where
  verifyingKey key := key
  exchangeKey key := key
  sign key message := key ++ message
  verify key message signature := signature = key ++ message
  deriveDeviceId key := hexText (key.take 2)
  prologue := [1]
  computePow challenge difficulty := ⟨difficulty, Utf8.encode challenge⟩
  verify_sign _ _ := decide_eq_true rfl

namespace Sys

/-- Surroundings that read hexadecimal text. -/
def readsHex : AppExternals Unit := { AppExternals.quiet with
  hexDecode := fun hex => ((Hex.decode hex.toList).map Except.ok).getD (.error "bad hex") }

theorem readsHex_hexDecode (bs : Bytes) : readsHex.hexDecode (hexText bs) = .ok bs := by
  show ((Hex.decode (hexText bs).toList).map Except.ok).getD _ = _
  rw [hexText, String.toList_ofList, Hex.decode_encode]
  rfl

def someKeys : DeviceKeys := ⟨⟨List.replicate 32 1, rfl⟩, List.replicate 32 2, List.replicate 32 3⟩

/-- A user registers, the refresh token is rejected, and the device authenticates with its key; then
the client starts again and authenticates with the session on disk. -/
def enrolsAndReturns : List (DeviceLabel Unit) :=
  [.act (.startup .quiet), .act (.key (.plain .enter) .quiet),
    .generate 0 someKeys (.ok ("challenge", 1)) .quiet,
    .act (.finish 0 (.tokens "me" "access1" "refresh1" 100) .quiet), .act (.internal .quiet),
    .act (.request 0 .zeros .quiet), .act (.finish 0 (.rejected "expired") .quiet),
    .act (.internal .quiet), .act (.request 0 .zeros .quiet),
    .restart ⟨"http://localhost", "TLS", true, false⟩, .act (.startup .quiet),
    .act (.request 0 .zeros .quiet)]

/-- The device authenticates twice in this run, with the keys it has enrolled. -/
theorem authenticates_enrolled_returning :
    ((authTrace .clear readsHex fresh enrolsAndReturns).map fun m =>
        match m with
        | .sent (.authenticateDevice deviceId _ _) => some deviceId
        | _ => none) = [none, none, none, some "0202", some "0202"] ∧
      Run.Founded (Grounded .clear) (authTrace .clear readsHex fresh enrolsAndReturns) := by
  obtain ⟨s, h⟩ := Option.isSome_iff_exists.mp (show (Run.after (deviceStep .clear readsHex) fresh
    enrolsAndReturns).isSome by decide +kernel)
  have hdir : ConfigDir.Only (fun _ => False) ⟨none, none, 0⟩ := ⟨nofun, nofun⟩
  exact ⟨by decide +kernel,
    (authenticates_enrolled .clear readsHex readsHex_hexDecode _ hdir .init h).1⟩

end Sys
