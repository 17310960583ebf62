import AjoCloud.Auth.Guards

/-!
# Session cookies

A browser holds its tokens in cookies, and shows by a token that it can read one of them that it is not
another page that makes its requests.  The cookies of a sign-in are set together; what a browser holds of
them depends on all the answers that it has received.
-/

namespace AjoCloud.Auth

open Lib ServiceError

/-! ## What is set -/

inductive SameSite where
  | none
  | lax
deriving DecidableEq

inductive NodeEnv where
  | development
  | test
  | production
deriving DecidableEq

/-- What `cookieEnv` reads, beside the lifetimes. -/
structure CookieEnv where
  nodeEnv : NodeEnv
  apiPrefix : String
  sessionCookieSameSiteNone : Bool
  sessionCookieDomain : Option String

/-- The options that all cookies of a deployment share, up to the path. -/
structure CookieBase where
  secure : Bool
  sameSite : SameSite
  path : String
  domain : Option String
deriving DecidableEq

/-- `CookieOptions`. -/
structure CookieOptions extends CookieBase where
  httpOnly : Bool
  maxAge : Int
deriving DecidableEq

/-- `sessionCookiePolicy`: what is sent across sites is only sent over a secure channel. -/
def sessionCookiePolicy (env : CookieEnv) : CookieBase where
  secure := env.sessionCookieSameSiteNone || env.nodeEnv = .production
  sameSite := if env.sessionCookieSameSiteNone then .none else .lax
  path := "/"
  domain := env.sessionCookieDomain

/-- `REFRESH_PATH_SUFFIX`. -/
def REFRESH_PATH_SUFFIX : String := "/auth"

/-- `refreshPath`. -/
def refreshPath (apiPrefix : String) : String := "/" ++ apiPrefix ++ "/v1" ++ REFRESH_PATH_SUFFIX

/-- One header of an answer: a cookie is set, or made to expire. -/
inductive SetCookie where
  | set (name value : String) (options : CookieOptions)
  | clear (name : String) (base : CookieBase)
deriving DecidableEq

/-- How an access token is signed. -/
abbrev SignJwt := AccessClaims → String

/-- How long the browser keeps the access token: as long as it is good for, and at least a second. -/
def accessMaxAge (now : Timestamp) (tokens : TokenPair) : Int :=
  max 1 ((tokens.accessTokenExpiresAt - now) / 1000)

/-- `setSessionCookies`. -/
def setSessionCookies (config : Config) (env : CookieEnv) (signJwt : SignJwt) (now : Timestamp)
    (tokens : TokenPair) (csrfToken : String) : List SetCookie :=
  let base := sessionCookiePolicy env
  [.set ACCESS_COOKIE (signJwt tokens.accessToken)
      { base with httpOnly := true, maxAge := accessMaxAge now tokens },
    .set REFRESH_COOKIE tokens.refreshToken
      { base with
        httpOnly := true, path := refreshPath env.apiPrefix, maxAge := config.refreshTtlSeconds },
    .set CSRF_COOKIE csrfToken { base with httpOnly := false, maxAge := config.refreshTtlSeconds }]

/-- `clearSessionCookies`. -/
def clearSessionCookies (env : CookieEnv) : List SetCookie :=
  let base := sessionCookiePolicy env
  [.clear ACCESS_COOKIE base, .clear REFRESH_COOKIE { base with path := refreshPath env.apiPrefix },
    .clear CSRF_COOKIE base]

/-- `wantsSessionCookies`, for the `Origin` of the request. -/
def wantsSessionCookies : Option HeaderValue → Bool
  | some (.one origin) => origin ≠ ""
  | _ => false

/-- `randomBytes(32).toString('hex')`. -/
def freshCsrfToken (random : Nat) : String := String.ofList (hexDigits 64 random)

/-- What an endpoint answers, as far as the cookies go. -/
inductive Answer where
  /-- `issueSession`, for tokens that were made out at `issuedAt`. -/
  | session (issuedAt now : Timestamp) (userId sessionId : Uuid) (rawToken : String) (random : Nat)
      (origin : Option HeaderValue)
  /-- `issueBrowserSession`. -/
  | browserSession (issuedAt now : Timestamp) (userId sessionId : Uuid) (rawToken : String) (random : Nat)
  /-- `logout` and `logoutAll`. -/
  | signedOut
  | other

namespace Answer

/-- The headers of the answer. -/
def headers (config : Config) (env : CookieEnv) (signJwt : SignJwt) : Answer → List SetCookie
  | session issuedAt now userId sessionId rawToken random origin =>
      if wantsSessionCookies origin then
        setSessionCookies config env signJwt now (tokenPair config issuedAt userId sessionId rawToken)
          (freshCsrfToken random)
      else []
  | browserSession issuedAt now userId sessionId rawToken random =>
      setSessionCookies config env signJwt now (tokenPair config issuedAt userId sessionId rawToken)
        (freshCsrfToken random)
  | signedOut => clearSessionCookies env
  | other => []

/-- Tokens are made out before they are put into cookies. -/
def InOrder : Answer → Prop
  | session issuedAt now .. => issuedAt ≤ now
  | browserSession issuedAt now .. => issuedAt ≤ now
  | _ => True

/-- The answer brought these two tokens. -/
def Brings (signJwt : SignJwt) (access csrf : String) : Answer → Prop
  | session _ _ userId sessionId _ random _ =>
      access = signJwt ⟨userId, sessionId, "access"⟩ ∧ csrf = freshCsrfToken random
  | browserSession _ _ userId sessionId _ random =>
      access = signJwt ⟨userId, sessionId, "access"⟩ ∧ csrf = freshCsrfToken random
  | _ => False

end Answer

/-! ## What a browser does with it -/

/-- A cookie that a browser holds. -/
structure Cookie where
  name : String
  value : String
  base : CookieBase
  expiresAt : Timestamp
deriving DecidableEq

/-- What a browser holds, the newest cookie first. -/
abbrev Jar := List Cookie

namespace Jar

/-- A cookie takes the place of the one with its name, domain and path. -/
def same (name : String) (base : CookieBase) (c : Cookie) : Bool :=
  c.name = name && c.base.domain = base.domain && c.base.path = base.path

/-- What a header makes of the jar when it arrives. -/
def header (arrival : Timestamp) (jar : Jar) : SetCookie → Jar
  | .set name value options =>
      ⟨name, value, options.toCookieBase, arrival + options.maxAge * 1000⟩ ::
        jar.filter (!same name options.toCookieBase ·)
  | .clear name base => jar.filter (!same name base ·)

/-- What an answer makes of the jar. -/
def receive (config : Config) (env : CookieEnv) (signJwt : SignJwt) (jar : Jar)
    (answer : Timestamp × Answer) : Jar :=
  (answer.2.headers config env signJwt).foldl (header answer.1) jar

end Jar

/-- What a cookie's path covers. -/
def pathMatches (requestPath cookiePath : String) : Bool :=
  requestPath = cookiePath ||
    cookiePath.toList.isPrefixOf requestPath.toList &&
      (cookiePath.toList.getLast? = some '/' ||
        (requestPath.toList.drop cookiePath.length).head? = some '/')

/-- The browser sends the cookie: it has not expired and covers the path, and the browser sends cookies
with such options at all. -/
def Cookie.goes (allows : CookieBase → Bool) (now : Timestamp) (path : String) (c : Cookie) : Bool :=
  now < c.expiresAt && pathMatches path c.base.path && allows c.base

/-- What is sent of a jar. -/
def Jar.sent (allows : CookieBase → Bool) (now : Timestamp) (path : String) (jar : Jar) :
    List (String × String) :=
  (jar.filter (Cookie.goes allows now path)).map fun c ↦ (c.name, c.value)

/-! ## What a browser holds -/

variable {config : Config} {env : CookieEnv} {signJwt : SignJwt} {verifyJwt : VerifyJwt}
  {arrival now : Timestamp} {jar : Jar} {answers : List (Timestamp × Answer)} {request : HttpRequest}
  {tokens : TokenPair} {csrfToken : String}

/-- The cookies of a session, as they are held. -/
def trio (config : Config) (env : CookieEnv) (signJwt : SignJwt) (arrival now : Timestamp)
    (tokens : TokenPair) (csrfToken : String) : Jar :=
  let base := sessionCookiePolicy env
  [⟨CSRF_COOKIE, csrfToken, base, arrival + config.refreshTtlSeconds * 1000⟩,
    ⟨REFRESH_COOKIE, tokens.refreshToken, { base with path := refreshPath env.apiPrefix },
      arrival + config.refreshTtlSeconds * 1000⟩,
    ⟨ACCESS_COOKIE, signJwt tokens.accessToken, base, arrival + accessMaxAge now tokens * 1000⟩]

/-- All that is held is one of the three. -/
def Own (env : CookieEnv) (jar : Jar) : Prop :=
  ∀ c ∈ jar, c.base.domain = env.sessionCookieDomain ∧
    (c.name = ACCESS_COOKIE ∧ c.base.path = "/" ∨
      c.name = REFRESH_COOKIE ∧ c.base.path = refreshPath env.apiPrefix ∨
        c.name = CSRF_COOKIE ∧ c.base.path = "/")

theorem own_trio : Own env (trio config env signJwt arrival now tokens csrfToken) := by
  simp [Own, trio, sessionCookiePolicy]

/-- Whatever is held is replaced or cleared with the three. -/
theorem Own.none_left (h : Own env jar) :
    ((jar.filter (!Jar.same ACCESS_COOKIE (sessionCookiePolicy env) ·)).filter
        (!Jar.same REFRESH_COOKIE { sessionCookiePolicy env with path := refreshPath env.apiPrefix } ·)).filter
      (!Jar.same CSRF_COOKIE (sessionCookiePolicy env) ·) = [] := by
  simp only [List.filter_eq_nil_iff, List.mem_filter]
  rintro c ⟨⟨hc, haccess⟩, hrefresh⟩ hcsrf
  obtain ⟨hdomain, ⟨hname, hpath⟩ | ⟨hname, hpath⟩ | ⟨hname, hpath⟩⟩ := h c hc
  · simp [Jar.same, sessionCookiePolicy, hdomain, hname, hpath] at haccess
  · simp [Jar.same, sessionCookiePolicy, hdomain, hname, hpath] at hrefresh
  · simp [Jar.same, sessionCookiePolicy, hdomain, hname, hpath] at hcsrf

theorem Jar.filter_cons_other {name name' value : String} {base base' : CookieBase}
    {expiresAt : Timestamp} (h : name' ≠ name) :
    List.filter (!Jar.same name base ·) (⟨name', value, base', expiresAt⟩ :: jar) =
      ⟨name', value, base', expiresAt⟩ :: jar.filter (!Jar.same name base ·) :=
  List.filter_cons_of_pos (by simp [Jar.same, h])

theorem access_ne_refresh : ACCESS_COOKIE ≠ REFRESH_COOKIE := by decide

theorem access_ne_csrf : ACCESS_COOKIE ≠ CSRF_COOKIE := by decide

theorem refresh_ne_csrf : REFRESH_COOKIE ≠ CSRF_COOKIE := by decide

/-- A new session takes the place of the one before. -/
theorem Own.foldl_setSessionCookies (h : Own env jar) :
    (setSessionCookies config env signJwt now tokens csrfToken).foldl (Jar.header arrival) jar =
      trio config env signJwt arrival now tokens csrfToken := by
  simp only [setSessionCookies, List.foldl_cons, List.foldl_nil, Jar.header, trio]
  rw [Jar.filter_cons_other access_ne_refresh, Jar.filter_cons_other refresh_ne_csrf,
    Jar.filter_cons_other access_ne_csrf, h.none_left]

theorem Own.foldl_clearSessionCookies (h : Own env jar) :
    (clearSessionCookies env).foldl (Jar.header arrival) jar = [] := h.none_left

/-- What the browser holds after the answers: the cookies of one of the sessions that they brought, or
nothing. -/
inductive Held (config : Config) (env : CookieEnv) (signJwt : SignJwt)
    (answers : List (Timestamp × Answer)) : Jar → Prop
  | nothing : Held config env signJwt answers []
  | session (arrival issuedAt now : Timestamp) (userId sessionId : Uuid) (rawToken : String) (random : Nat)
      (answer : Answer) (received : (arrival, answer) ∈ answers)
      (brings : answer.Brings signJwt (signJwt ⟨userId, sessionId, "access"⟩) (freshCsrfToken random))
      (order : answer.InOrder → issuedAt ≤ now) :
      Held config env signJwt answers
        (trio config env signJwt arrival now (tokenPair config issuedAt userId sessionId rawToken)
          (freshCsrfToken random))

namespace Held

theorem own (h : Held config env signJwt answers jar) : Own env jar := by
  cases h with
  | nothing => simp [Own]
  | session => exact own_trio

theorem mono {answers' : List (Timestamp × Answer)} (h : Held config env signJwt answers jar)
    (hsub : answers ⊆ answers') : Held config env signJwt answers' jar := by
  cases h with
  | nothing => exact .nothing
  | session arrival issuedAt now userId sessionId rawToken random answer received brings order =>
      exact .session arrival issuedAt now userId sessionId rawToken random answer (hsub received) brings order

/-- One answer more. -/
theorem receive (h : Held config env signJwt answers jar) (answer : Timestamp × Answer) :
    Held config env signJwt (answers ++ [answer]) (jar.receive config env signJwt answer) := by
  have hkept : Held config env signJwt (answers ++ [answer]) jar := h.mono (List.subset_append_left _ _)
  have hreceived : answer ∈ answers ++ [answer] := List.mem_append_right _ (List.mem_singleton_self _)
  obtain ⟨arrival, answer⟩ := answer
  cases answer with
  | session issuedAt now userId sessionId rawToken random origin =>
      simp only [Jar.receive, Answer.headers]
      split
      · rw [h.own.foldl_setSessionCookies]
        exact .session arrival issuedAt now userId sessionId rawToken random _ hreceived ⟨rfl, rfl⟩ id
      · exact hkept
  | browserSession issuedAt now userId sessionId rawToken random =>
      simp only [Jar.receive, Answer.headers]
      rw [h.own.foldl_setSessionCookies]
      exact .session arrival issuedAt now userId sessionId rawToken random _ hreceived ⟨rfl, rfl⟩ id
  | signedOut =>
      simp only [Jar.receive, Answer.headers]
      rw [h.own.foldl_clearSessionCookies]
      exact .nothing
  | other => exact hkept

/-- Whatever the answers were. -/
theorem run (answers : List (Timestamp × Answer)) :
    Held config env signJwt answers (answers.foldl (Jar.receive config env signJwt) []) := by
  induction answers using List.reverseRecOn with
  | nil => exact .nothing
  | append_singleton answers answer ih =>
      rw [List.foldl_append]
      exact ih.receive answer

end Held

/-! ## What the guards make of it -/

section Sent

variable {allows : CookieBase → Bool} {path : String} {access csrf refresh : String}

/-- A cookie is found under its name when it goes. -/
theorem lookup_sent_cons (name : String) (c : Cookie) (jar : Jar) :
    (Jar.sent allows now path (c :: jar)).lookup name =
      if c.name = name ∧ c.goes allows now path = true then some c.value
      else (Jar.sent allows now path jar).lookup name := by
  unfold Jar.sent
  by_cases hgoes : c.goes allows now path = true
  · rw [List.filter_cons_of_pos hgoes, List.map_cons, List.lookup_cons]
    by_cases hname : c.name = name
    · simp [hname, hgoes]
    · rw [if_neg (fun h ↦ hname h.1), beq_eq_false_iff_ne.mpr (Ne.symm hname)]
  · rw [List.filter_cons_of_neg hgoes, if_neg (fun h ↦ hgoes h.2)]

@[simp] theorem lookup_sent_nil (name : String) : (Jar.sent allows now path []).lookup name = none := rfl

theorem Cookie.goes_iff {c : Cookie} : c.goes allows now path = true ↔
    now < c.expiresAt ∧ pathMatches path c.base.path = true ∧ allows c.base = true := by
  simp [Cookie.goes, and_assoc]

/-- What a request carries of the cookies of a session. -/
theorem readCookie_trio {issued : Timestamp}
    (h : request.cookies = Jar.sent allows now path
      (trio config env signJwt arrival issued tokens csrfToken)) :
    readCookie request CSRF_COOKIE =
        (if now < arrival + config.refreshTtlSeconds * 1000 ∧ pathMatches path "/" = true ∧
            allows (sessionCookiePolicy env) = true then some csrfToken else none) ∧
      readCookie request ACCESS_COOKIE =
        (if now < arrival + accessMaxAge issued tokens * 1000 ∧ pathMatches path "/" = true ∧
            allows (sessionCookiePolicy env) = true then some (signJwt tokens.accessToken) else none) ∧
      ∀ refresh, readCookie request REFRESH_COOKIE = some refresh →
        pathMatches path (refreshPath env.apiPrefix) = true := by
  have hpath : (sessionCookiePolicy env).path = "/" := rfl
  unfold readCookie
  simp only [h, trio, lookup_sent_cons, lookup_sent_nil, Cookie.goes_iff, access_ne_csrf, access_ne_refresh,
    refresh_ne_csrf, refresh_ne_csrf.symm, access_ne_csrf.symm, access_ne_refresh.symm, hpath, true_and,
    false_and, if_false]
  intro refresh hrefresh
  split at hrefresh
  · next hgoes => exact hgoes.2.1
  · cases hrefresh

/-- The cookies outlive the token in them. -/
theorem accessMaxAge_le {issuedAt : Timestamp} (hpositive : 0 < config.refreshTtlSeconds)
    (hshorter : config.accessTtlSeconds ≤ config.refreshTtlSeconds) (horder : issuedAt ≤ now)
    (userId sessionId : Uuid) (rawToken : String) :
    accessMaxAge now (tokenPair config issuedAt userId sessionId rawToken) ≤ config.refreshTtlSeconds := by
  have hlonger : issuedAt + config.accessTtlSeconds * 1000 - now ≤ (config.refreshTtlSeconds : Int) * 1000 := by
    have hle : (config.accessTtlSeconds : Int) ≤ config.refreshTtlSeconds := Int.ofNat_le.mpr hshorter
    linarith
  exact max_le (Int.ofNat_le.mpr hpositive) (Int.ediv_le_of_le_mul (by decide) hlonger)

end Sent

theorem isSome_truthy {value : Option String} :
    (truthy value).isSome = true ↔ ∃ text, value = some text ∧ text ≠ "" := by
  cases value with
  | none => simp [truthy]
  | some text => simp [truthy, Option.isSome_filter]

/-- What the check asks of a write by cookie. -/
theorem csrfGuard_eq_ok (h : csrfGuard false request = .ok ⟨⟩) (hwrite : request.method ∉ SAFE_METHODS)
    (hbearer : bearerToken request = none) (haccess : (truthy (readCookie request ACCESS_COOKIE)).isSome = true) :
    ∃ csrf, csrf ≠ "" ∧ readCookie request CSRF_COOKIE = some csrf ∧ headerToken request = some csrf := by
  unfold csrfGuard at h
  rw [if_neg hwrite, if_neg Bool.false_ne_true, hbearer, if_neg (by simp),
    if_neg (fun hnone ↦ by simp [Option.isNone_iff_eq_none.mp hnone] at haccess)] at h
  obtain ⟨hcookie, -, heq⟩ := require_eq_ok.mp h
  obtain ⟨csrf, hcsrf, hnonempty⟩ := isSome_truthy.mp hcookie
  exact ⟨csrf, hnonempty, hcsrf, heq.symm.trans hcsrf⟩

/-- A request that repeats its token passes, when it has one wherever it has an access token. -/
theorem csrfGuard_of_echo (isPublic : Bool) (hecho : headerToken request = readCookie request CSRF_COOKIE)
    (hpaired : ∀ access, readCookie request ACCESS_COOKIE = some access →
      ∃ csrf, csrf ≠ "" ∧ readCookie request CSRF_COOKIE = some csrf) :
    csrfGuard isPublic request = .ok ⟨⟩ := by
  unfold csrfGuard
  split
  · rfl
  split
  · rfl
  split
  · rfl
  split
  · rfl
  · next haccess =>
      obtain ⟨access, hread, -⟩ := isSome_truthy.mp (Option.isSome_iff_ne_none.mpr
        fun hnone ↦ haccess (Option.isNone_iff_eq_none.mpr hnone))
      obtain ⟨csrf, hnonempty, hcsrf⟩ := hpaired access hread
      have htruthy : (truthy (some csrf)).isSome = true := isSome_truthy.mpr ⟨csrf, rfl, hnonempty⟩
      exact require_of ⟨hcsrf ▸ htruthy, hecho ▸ hcsrf ▸ htruthy, hecho.symm⟩

/-- A route that asks for a user never takes a write on the word of a cookie alone. -/
theorem passGuards_eq_ok {store : Store} {required : List String} {user : AuthenticatedUser}
    (h : passGuards verifyJwt now store required request = .ok user) (hwrite : request.method ∉ SAFE_METHODS) :
    ∃ token claims, verifyJwt now token = some claims ∧ user.userId = claims.sub ∧ user.sessionId = claims.sid ∧
      (bearerToken request = some token ∨
        bearerToken request = none ∧ readCookie request ACCESS_COOKIE = some token ∧
          ∃ csrf, csrf ≠ "" ∧ readCookie request CSRF_COOKIE = some csrf ∧ headerToken request = some csrf) := by
  simp only [passGuards, bind_eq_ok, pure_eq_ok] at h
  obtain ⟨_, hcsrf, user', haccess, -, -, rfl⟩ := h
  obtain ⟨token, claims, htoken, hclaims, hsub, hsid, -⟩ := accessTokenGuard_eq_ok haccess
  refine ⟨token, claims, hclaims, hsub, hsid, ?_⟩
  obtain ⟨hextracted, hnonempty⟩ := Option.filter_eq_some_iff.mp htoken
  unfold extractAccessToken at hextracted
  cases hbearer : bearerToken request with
  | some value =>
      rw [hbearer] at hextracted
      exact .inl hextracted
  | none =>
      rw [hbearer, Option.none_or] at hextracted
      refine .inr ⟨rfl, hextracted, csrfGuard_eq_ok hcsrf hwrite hbearer ?_⟩
      exact isSome_truthy.mpr ⟨token, hextracted, by simpa using hnonempty⟩

/-- What a browser holds passes the check that is made for it. -/
theorem Held.paired (h : Held config env signJwt answers jar) (hpositive : 0 < config.refreshTtlSeconds)
    (hshorter : config.accessTtlSeconds ≤ config.refreshTtlSeconds) (horder : ∀ x ∈ answers, x.2.InOrder)
    {allows : CookieBase → Bool} {path : String}
    (hcookies : request.cookies = jar.sent allows now path) :
    (∀ access, readCookie request ACCESS_COOKIE = some access →
      ∃ csrf, csrf ≠ "" ∧ readCookie request CSRF_COOKIE = some csrf ∧
        ∃ x ∈ answers, x.2.Brings signJwt access csrf) ∧
      ∀ refresh, readCookie request REFRESH_COOKIE = some refresh →
        pathMatches path (refreshPath env.apiPrefix) = true := by
  cases h with
  | nothing => simp [readCookie, hcookies]
  | session arrival issuedAt issued userId sessionId rawToken random answer received brings order =>
      obtain ⟨hcsrf, haccess, hrefresh⟩ := readCookie_trio hcookies
      refine ⟨fun access hread ↦ ?_, hrefresh⟩
      rw [haccess] at hread
      split at hread
      · next hgoes =>
          obtain rfl := Option.some.inj hread
          have hle := accessMaxAge_le hpositive hshorter (order (horder _ received)) userId sessionId rawToken
          refine ⟨freshCsrfToken random, ?_, ?_, _, received, brings⟩
          · intro hempty
            simpa [freshCsrfToken] using congrArg String.length hempty
          · exact hcsrf.trans (if_pos ⟨lt_of_lt_of_le hgoes.1 (by linarith), hgoes.2⟩)
      · cases hread

/-- **A browser is let through with its own token, and no other page is.**  When access tokens live no longer
than refresh tokens, and whatever answers a browser has received, in whatever order: a request that repeats
the csrf cookie it carries passes `CsrfGuard`, since the two cookies came in one answer and that one is kept
no longer than the other; the refresh token goes to the endpoints under its path only; and the guards of a
route that asks for a user let a write that does not repeat the cookie through on a bearer token or not at
all. -/
theorem browser_passes_with_own_token (hpositive : 0 < config.refreshTtlSeconds)
    (hshorter : config.accessTtlSeconds ≤ config.refreshTtlSeconds)
    (answers : List (Timestamp × Answer)) (horder : ∀ x ∈ answers, x.2.InOrder)
    (allows : CookieBase → Bool) (now : Timestamp) (path : String) (request : HttpRequest)
    (hcookies : request.cookies =
      (answers.foldl (Jar.receive config env signJwt) []).sent allows now path) :
    (headerToken request = readCookie request CSRF_COOKIE →
        ∀ isPublic, csrfGuard isPublic request = .ok ⟨⟩) ∧
      (∀ access, readCookie request ACCESS_COOKIE = some access →
        ∃ csrf, readCookie request CSRF_COOKIE = some csrf ∧ ∃ x ∈ answers, x.2.Brings signJwt access csrf) ∧
      (∀ refresh, readCookie request REFRESH_COOKIE = some refresh →
        pathMatches path (refreshPath env.apiPrefix) = true) ∧
      (request.method ∉ SAFE_METHODS →
        headerToken request = none ∨ headerToken request ≠ readCookie request CSRF_COOKIE →
          ∀ verifyJwt arrival store required user,
            passGuards verifyJwt arrival store required request = .ok user →
              ∃ token claims, bearerToken request = some token ∧ verifyJwt arrival token = some claims ∧
                user.userId = claims.sub ∧ user.sessionId = claims.sid) := by
  obtain ⟨hpaired, hrefresh⟩ := (Held.run answers).paired hpositive hshorter horder hcookies
  refine ⟨fun hecho isPublic ↦ csrfGuard_of_echo isPublic hecho fun access haccess ↦ ?_,
    fun access haccess ↦ ?_, hrefresh, fun hwrite hother verifyJwt arrival store required user huser ↦ ?_⟩
  · obtain ⟨csrf, hnonempty, hcsrf, -⟩ := hpaired access haccess
    exact ⟨csrf, hnonempty, hcsrf⟩
  · obtain ⟨csrf, -, hcsrf, hbrought⟩ := hpaired access haccess
    exact ⟨csrf, hcsrf, hbrought⟩
  · obtain ⟨token, claims, hclaims, hsub, hsid, hbearer | ⟨-, -, csrf, -, hcookie, hheader⟩⟩ :=
      passGuards_eq_ok huser hwrite
    · exact ⟨token, claims, hbearer, hclaims, hsub, hsid⟩
    · rcases hother with hnone | hne
      · rw [hnone] at hheader
        cases hheader
      · exact absurd (hheader.trans hcookie.symm) hne

section Sample

def sampleCookieEnv : CookieEnv where
  nodeEnv := .production
  apiPrefix := "api"
  sessionCookieSameSiteNone := true
  sessionCookieDomain := none

/-- A browser signs in, and later again through Google; in between it reads something. -/
def sampleAnswers : List (Timestamp × Answer) :=
  [(2000, .session 1000 1500 (.ofNat 100) (.ofNat 600) "token 6" 42 (some (.one "https://ajo.cloud"))),
    (3000, .other), (9000, .browserSession 8000 8500 (.ofNat 100) (.ofNat 700) "token 7" 43)]

def sampleSign : SignJwt := fun claims ↦ "signed " ++ toString claims.sid.bits.toNat

/-- What the browser sends with a write, and the token that it puts into the header. -/
def sampleWrite (csrfToken : Option HeaderValue) : HttpRequest where
  method := "POST"
  authorization := none
  cookies := (sampleAnswers.foldl (Jar.receive sampleConfig sampleCookieEnv sampleSign) []).sent
    (fun base ↦ base.secure) 10000 "/api/v1/wallets"
  csrfToken := csrfToken

end Sample

theorem browser_passes_with_own_token_sample :
    csrfGuard false (sampleWrite (some (.one (freshCsrfToken 43)))) = .ok ⟨⟩ ∧
      csrfGuard false (sampleWrite none) = .error (forbidden "Invalid CSRF token") ∧
      readCookie (sampleWrite none) REFRESH_COOKIE = none := by
  have horder : ∀ x ∈ sampleAnswers, x.2.InOrder := by simp [sampleAnswers, Answer.InOrder]
  have hpositive : 0 < sampleConfig.refreshTtlSeconds := by decide
  refine ⟨(browser_passes_with_own_token hpositive (by decide) sampleAnswers horder _ 10000
    "/api/v1/wallets" (sampleWrite (some (.one (freshCsrfToken 43)))) rfl).1 ?_ false, ?_, ?_⟩
  · decide +kernel
  · decide +kernel
  · decide +kernel

end AjoCloud.Auth
