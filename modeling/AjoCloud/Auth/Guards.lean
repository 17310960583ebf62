import AjoCloud.Auth.Resets
import AjoCloud.Auth.Rotation

/-!
# Who gets through

`AccessTokenGuard`, `CsrfGuard` and `PermissionsGuard`.  A token is worth no more than its session: once a
session has ended, nothing that was ever signed for it opens a route again, whatever calls come later.
-/

namespace AjoCloud.Auth

open Lib ServiceError

/-! ## Requests -/

/-- The value of a header that may have been sent more than once. -/
inductive HeaderValue where
  | one (value : String)
  | many (values : List String)
deriving DecidableEq

/-- What the guards read of a request. -/
structure HttpRequest where
  method : String
  authorization : Option String
  cookies : List (String × String)
  /-- `x-csrf-token`. -/
  csrfToken : Option HeaderValue
deriving DecidableEq

def ACCESS_COOKIE : String := "ajo_access"
def REFRESH_COOKIE : String := "ajo_refresh"
def CSRF_COOKIE : String := "ajo_csrf"

/-- `readCookie`. -/
def readCookie (request : HttpRequest) (name : String) : Option String := request.cookies.lookup name

/-- A text that counts as true: one that is there and not empty. -/
def truthy (value : Option String) : Option String := value.filter (· ≠ "")

/-- How a bearer credential begins. -/
def BEARER : String := "Bearer "

/-- What follows the scheme, when the header is a bearer credential; it may be empty. -/
def bearerToken (request : HttpRequest) : Option String :=
  request.authorization.bind fun authorization ↦
    if BEARER.toList.isPrefixOf authorization.toList then
      some (String.ofList (authorization.toList.drop 7))
    else none

/-- `extractAccessToken`: the header wins when both are there. -/
def extractAccessToken (request : HttpRequest) : Option String :=
  (bearerToken request).or (readCookie request ACCESS_COOKIE)

/-! ## The guards -/

/-- `jwt.verifyAsync`: the claims of a token whose signature is right and which has not expired. -/
abbrev VerifyJwt := Timestamp → String → Option AccessClaims

/-- Every refusal of `AccessTokenGuard`. -/
def authenticationRequired : ServiceError := .http .unauthorized "Authentication required"

/-- `AccessTokenGuard`, from the request on. -/
def accessTokenGuard (verifyJwt : VerifyJwt) (now : Timestamp) (store : Store) (request : HttpRequest) :
    Except ServiceError AuthenticatedUser := do
  let token ← orThrow (truthy (extractAccessToken request)) authenticationRequired
  let claims ← orThrow (verifyJwt now token) authenticationRequired
  canActivate now store claims

/-- `SAFE_METHODS`. -/
def SAFE_METHODS : List String := ["GET", "HEAD", "OPTIONS"]

/-- The header as it is compared. -/
def headerToken (request : HttpRequest) : Option String :=
  request.csrfToken.bind fun
    | .one value => some value
    | .many values => values.head?

/-- `CsrfGuard.canActivate`. -/
def csrfGuard (isPublic : Bool) (request : HttpRequest) : Except ServiceError Unit :=
  if request.method ∈ SAFE_METHODS then pure ()
  else if isPublic then pure ()
  else if (bearerToken request).isSome then pure ()
  else if (truthy (readCookie request ACCESS_COOKIE)).isNone then pure ()
  else
    require ((truthy (readCookie request CSRF_COOKIE)).isSome ∧ (truthy (headerToken request)).isSome ∧
      readCookie request CSRF_COOKIE = headerToken request) (forbidden "Invalid CSRF token")

/-- `UNRESTRICTED_ROLES`. -/
def UNRESTRICTED_ROLES : List String := ["SUPER_ADMIN", "PLATFORM_ADMIN"]

/-- `PermissionsGuard.canActivate`, for the permissions that the route asks for. -/
def permissionsGuard (required : List String) (user : AuthenticatedUser) : Except ServiceError Unit :=
  require (required = [] ∨ (∃ role ∈ user.roles, role ∈ UNRESTRICTED_ROLES) ∨
    ∀ permission ∈ required, permission ∈ user.permissions)
    (forbidden "You do not have permission to perform this action")

/-- The guards of a route that asks for a user, in their order. -/
def passGuards (verifyJwt : VerifyJwt) (now : Timestamp) (store : Store) (required : List String)
    (request : HttpRequest) : Except ServiceError AuthenticatedUser := do
  csrfGuard false request
  let user ← accessTokenGuard verifyJwt now store request
  permissionsGuard required user
  pure user

variable {config : Config} {verifyJwt : VerifyJwt} {now : Timestamp} {store : Store}
  {request : HttpRequest} {user : AuthenticatedUser} {required : List String}

/-- What it takes to pass: a token whose session is one of the claimed user, and both are in force. -/
theorem accessTokenGuard_eq_ok (h : accessTokenGuard verifyJwt now store request = .ok user) :
    ∃ token claims, truthy (extractAccessToken request) = some token ∧
      verifyJwt now token = some claims ∧ user.userId = claims.sub ∧ user.sessionId = claims.sid ∧
      ∃ session ∈ store.sessions.sessions.rows, session.id = claims.sid ∧ session.userId = claims.sub ∧
        session.status = .active ∧ now < session.expiresAt := by
  simp only [accessTokenGuard, canActivate, orThrow_bind_eq_ok, require_bind_eq_ok, pure_eq_ok] at h
  obtain ⟨token, htoken, claims, hclaims, -, session, hsession, u, -, ⟨hsub, hactive, hlive, -⟩, rfl⟩ := h
  refine ⟨token, claims, htoken, hclaims, rfl, rfl, session, Table.mem_of_find? hsession, ?_, hsub,
    hactive, hlive⟩
  simpa using Table.prop_of_find? hsession

/-! ## A session that has ended -/

/-- The session is there, and it is over. -/
def Ended (store : Store) (sessionId : Uuid) : Prop :=
  (∃ x ∈ store.sessions.sessions.rows, x.id = sessionId) ∧
    ∀ x ∈ store.sessions.sessions.rows, x.id = sessionId → x.status ≠ .active

instance (store : Store) (sessionId : Uuid) : Decidable (Ended store sessionId) :=
  inferInstanceAs (Decidable ((∃ x ∈ store.sessions.sessions.rows, x.id = sessionId) ∧
    ∀ x ∈ store.sessions.sessions.rows, x.id = sessionId → x.status ≠ .active))

variable {o : Inputs} {s s' : Store} {t : Request} {sessionId : Uuid}

/-- A step that only ends sessions leaves one that is over as it is. -/
theorem Ended.onlyEnds (h : Ended s sessionId) (hends : OnlyEnds s.sessions s'.sessions) :
    Ended s' sessionId := by
  obtain ⟨⟨x, hx, hid⟩, hover⟩ := h
  obtain ⟨x', hx', hid'⟩ := hends.stay x hx
  refine ⟨⟨x', hx', hid'.trans hid⟩, fun y' hy' hyid hactive ↦ ?_⟩
  obtain ⟨y, hy, hsame, -, hbefore⟩ := hends.old y' hy'
  exact hover y hy (hsame.trans hyid) (hbefore hactive)

theorem Ended.of_same (h : Ended s sessionId) (hsame : s'.sessions = s.sessions) : Ended s' sessionId := by
  unfold Ended
  rw [hsame]
  exact h

/-- No step brings a session back, and none opens another under its identifier. -/
theorem Ended.effect (h : Ended s sessionId) {events : List Event}
    (heffect : Effect config o s t s' events) : Ended s' sessionId := by
  cases heffect with
  | none => exact h
  | challenges => exact h.of_same rfl
  | identities => exact h.of_same rfl
  | sessions t tables ends => exact h.onlyEnds ends
  | opened userId how tables session =>
      obtain ⟨⟨x, hx, hid⟩, hover⟩ := h
      have hrows := insertRow_eq_ok session
      refine ⟨⟨x, ?_, hid⟩, fun y hy hyid ↦ ?_⟩
      · show x ∈ tables.sessions.rows
        rw [hrows]
        exact List.mem_append_left _ hx
      · rw [show y ∈ tables.sessions.rows ↔ _ from Iff.of_eq (congrArg (y ∈ ·) hrows),
          List.mem_append, List.mem_singleton] at hy
        rcases hy with hy | rfl
        · exact hover y hy hyid
        · exact absurd (hid.trans hyid.symm) (not_clash_of_insertRow session x hx)
  | registered _ _ _ _ _ _ sessions => exact h.of_same sessions
  | createdGoogle _ _ _ _ _ _ sessions => exact h.of_same sessions
  | invited _ _ _ _ _ _ _ sessions => exact h.of_same sessions
  | verified => exact h.of_same rfl
  | reset => exact h.onlyEnds onlyEnds_resetSession
  | linked => exact h.of_same rfl
  | statusSet => exact h.of_same rfl

/-- The guard refuses for one reason only. -/
theorem throws_accessTokenGuard : Throws (accessTokenGuard verifyJwt now store request)
    (· = authenticationRequired) := by
  unfold accessTokenGuard canActivate
  refine .bind (throws_orThrow fun _ ↦ rfl) fun token _ ↦ ?_
  refine .bind (throws_orThrow fun _ ↦ rfl) fun claims _ ↦ ?_
  refine .bind (throws_require fun _ ↦ rfl) fun _ _ ↦ ?_
  refine .bind (throws_orThrow fun _ ↦ rfl) fun session _ ↦ ?_
  refine .bind (throws_orThrow fun _ ↦ rfl) fun u _ ↦ ?_
  exact .bind (throws_require fun _ ↦ rfl) fun _ _ ↦ throws_pure _

theorem refused_of_not_ok (h : ∀ user, accessTokenGuard verifyJwt now store request ≠ .ok user) :
    accessTokenGuard verifyJwt now store request = .error authenticationRequired := by
  cases hresult : accessTokenGuard verifyJwt now store request with
  | ok user => exact absurd hresult (h user)
  | error e => rw [throws_accessTokenGuard e hresult]

/-- **A session that has ended opens nothing.**  Once it was signed out, revoked or found compromised, no
access token that was ever signed for it passes the guard again and no refresh token is exchanged in it,
whatever requests come later and in whatever order their steps are taken. -/
theorem ended_session_opens_nothing {p q : Pool Store Request} (h₀ : Ended p.shared sessionId)
    (hrun : Reaches (Pool.advance (exec config))
      (Pool.Admitted (fun _ t ↦ t.isCall = true) fun _ _ _ ↦ True) p q)
    (verifyJwt : VerifyJwt) (now : Timestamp) (request : HttpRequest) :
    (∀ user, accessTokenGuard verifyJwt now q.shared request = .ok user → user.sessionId ≠ sessionId) ∧
      (∀ token claims, truthy (extractAccessToken request) = some token →
        verifyJwt now token = some claims → claims.sid = sessionId →
          accessTokenGuard verifyJwt now q.shared request = .error authenticationRequired) ∧
      ∀ ctx nextRaw rawToken raw userId tables,
        refreshWithin config ctx nextRaw q.shared.sessions rawToken ≠
          .ok (.rotated raw userId sessionId, tables) := by
  have hended : Ended q.shared sessionId :=
    Pool.invariant_of_steps (S := fun s ↦ Ended s sessionId) hrun h₀
      fun o s t hs _ ↦ hs.effect (exec_effect config o s t)
  have hother : ∀ user, accessTokenGuard verifyJwt now q.shared request = .ok user →
      user.sessionId ≠ sessionId := by
    intro user huser heq
    obtain ⟨-, claims, -, -, -, hsid, session, hsession, hid, -, hactive, -⟩ :=
      accessTokenGuard_eq_ok huser
    exact hended.2 session hsession (hid.trans (hsid.symm.trans heq)) hactive
  refine ⟨hother, fun token claims htoken hclaims hsid ↦ refused_of_not_ok fun user huser ↦ ?_,
    (signedOut_of_inactive hended.2).unrefreshable⟩
  obtain ⟨token', claims', htoken', hclaims', -, hsid', -⟩ := accessTokenGuard_eq_ok huser
  obtain rfl : token = token' := Option.some.inj (htoken.symm.trans htoken')
  obtain rfl : claims = claims' := Option.some.inj (hclaims.symm.trans hclaims')
  exact hother user huser (hsid'.trans hsid)

section Sample

/-- A token that reads as the claims it was signed with. -/
def sampleVerifyJwt : VerifyJwt := fun _ token ↦
  if token = "access token" then some ⟨.ofNat 100, .ofNat 600, "access"⟩ else none

/-- A request with the token in its header. -/
def sampleRequest : HttpRequest where
  method := "POST"
  authorization := some "Bearer access token"
  cookies := []
  csrfToken := none

/-- A user registers and verifies the address, which opens a session. -/
def sampleSignedIn : Pool Store Request :=
  sampleServed 1 [.register 1 sampleDto "hash of secret", .verifyEmail 1 (.ofNat 100) "481511"] ⟨.empty, []⟩

/-- What comes after they have signed out: they sign in again. -/
def sampleAfterwards : List (Move Request Inputs) := sampleMoves 9 [.login "ada@mail.com" "secret"]

/-- The pool once they have signed out. -/
def sampleSignedOut : Pool Store Request :=
  { sampleSignedIn with
    shared := { sampleSignedIn.shared with
      sessions := logout 8000 (.ofNat 600) sampleSignedIn.shared.sessions } }

end Sample

theorem ended_session_opens_nothing_sample :
    (accessTokenGuard sampleVerifyJwt 7000 sampleSignedIn.shared sampleRequest).isOk = true ∧
      accessTokenGuard sampleVerifyJwt 20000
        (sampleAfterwards.foldl (Pool.advance (exec sampleConfig)) sampleSignedOut).shared sampleRequest =
          .error authenticationRequired := by
  have hended : Ended sampleSignedOut.shared (.ofNat 600) := by decide +kernel
  have hrun : Reaches (Pool.advance (exec sampleConfig))
      (Pool.Admitted (fun _ t ↦ t.isCall = true) fun _ _ _ ↦ True) sampleSignedOut
      (sampleAfterwards.foldl (Pool.advance (exec sampleConfig)) sampleSignedOut) :=
    reaches_of_allAdmitted (by decide +kernel)
  exact ⟨by decide +kernel, (ended_session_opens_nothing hended hrun sampleVerifyJwt 20000 sampleRequest).2.1
    "access token" ⟨.ofNat 100, .ofNat 600, "access"⟩ (by decide +kernel) (by decide +kernel) rfl⟩

end AjoCloud.Auth
