import AjoCloud.Database.Identity
import AjoCloud.Lib.Run

/-!
# Sessions and refresh tokens

`AuthService.createSession`, `refresh`, `logout` and `logoutAll`.  A refresh token works once: using
it gives out the next one.
-/

namespace AjoCloud.Auth

open Lib ServiceError

/-- What the services of this module are configured with. -/
structure Config where
  /-- `HMAC-SHA256` under `TOKEN_PEPPER`, in hexadecimal. -/
  hmac : String → String
  /-- `argon2.verify(hash, password)`. -/
  verify : String → String → Bool
  /-- `JWT_ACCESS_TTL`, and what `parseDurationSeconds` makes of it. -/
  accessTtl : String
  accessTtlSeconds : Nat
  /-- `JWT_REFRESH_TTL_SECONDS`. -/
  refreshTtlSeconds : Nat
  /-- `REFRESH_REUSE_GRACE_SECONDS`. -/
  refreshReuseGraceSeconds : Nat

namespace Config

/-- What is stored of a raw token. -/
def digest (config : Config) (rawToken : String) : String := config.hmac rawToken

/-- How long a session lasts after its last rotation. -/
def refreshTtlMs (config : Config) : Int := config.refreshTtlSeconds * 1000

/-- How long after a rotation its response may count as lost. -/
def refreshReuseGraceMs (config : Config) : Int := config.refreshReuseGraceSeconds * 1000

end Config

/-- A service with two minutes of grace. -/
def sampleConfig : Config where
  hmac text := "digest of " ++ text
  verify hash password := hash = "hash of " ++ password
  accessTtl := "15m"
  accessTtlSeconds := 900
  refreshTtlSeconds := 3600
  refreshReuseGraceSeconds := 120

/-- The claims an access token is signed with. -/
structure AccessClaims where
  sub : Uuid
  sid : Uuid
  typ : String
deriving DecidableEq

/-- `TokenPair`, with the claims for the signed token. -/
structure TokenPair where
  accessToken : AccessClaims
  refreshToken : String
  expiresIn : String
  accessTokenExpiresAt : Timestamp
deriving DecidableEq

/-- What a client is given for a session. -/
def tokenPair (config : Config) (now : Timestamp) (userId sessionId : Uuid) (rawToken : String) :
    TokenPair where
  accessToken := ⟨userId, sessionId, "access"⟩
  refreshToken := rawToken
  expiresIn := config.accessTtl
  accessTokenExpiresAt := now + config.accessTtlSeconds * 1000

/-! ## Opening a session -/

/-- The session row of `createSession`. -/
def newSession (config : Config) (ctx : Ctx) (rawToken : String) (userId : Uuid) : Session where
  id := ctx.uuid 0
  userId := userId
  status := .active
  currentTokenHash := config.digest rawToken
  expiresAt := ctx.now + config.refreshTtlMs
  lastRotatedAt := ctx.now
  revokedAt := none
  revokeReason := none

/-- The row of a token that was just drawn. -/
def newToken (config : Config) (now : Timestamp) (id sessionId : Uuid) (rawToken : String) :
    RefreshToken where
  id := id
  sessionId := sessionId
  tokenHash := config.digest rawToken
  expiresAt := now + config.refreshTtlMs
  consumedAt := none
  revokedAt := none
  replacedById := none

/-- `createSession`, with the raw token that was drawn. -/
def createSession (config : Config) (ctx : Ctx) (rawToken : String) (tables : SessionTables)
    (userId : Uuid) : Except ServiceError (TokenPair × SessionTables) := do
  let session := newSession config ctx rawToken userId
  let sessions ← insertRow tables.sessions session
  let refreshTokens ← insertRow tables.refreshTokens
    (newToken config ctx.now (ctx.uuid 1) session.id rawToken)
  pure (tokenPair config ctx.now userId session.id rawToken, ⟨sessions, refreshTokens⟩)

/-! ## Ending sessions -/

/-- Mark every token that `p` picks as revoked, unless it is already. -/
def revokeTokens (now : Timestamp) (p : RefreshToken → Bool) (tokens : Table RefreshToken) :
    Table RefreshToken :=
  tokens.modify (fun t ↦ p t && t.revokedAt.isNone) (fun t ↦ { t with revokedAt := some now })
    fun h ↦ h

/-- The session after it was taken to `status`. -/
def endSession (now : Timestamp) (status : SessionStatus) (reason : String) (session : Session) :
    Session :=
  { session with status := status, revokedAt := some now, revokeReason := some reason }

theorem clash_of_endSession {now : Timestamp} {status : SessionStatus} {reason : String}
    {a b : Session} (h : Schema.Clash (endSession now status reason a) b) : Schema.Clash a b := h

/-- Take the sessions that `p` picks by their identifier to `status`, with all their tokens. -/
def endSessions (now : Timestamp) (status : SessionStatus) (reason : String) (p : Uuid → Bool)
    (tables : SessionTables) : SessionTables where
  sessions := tables.sessions.modify (fun s ↦ p s.id) (endSession now status reason)
    clash_of_endSession
  refreshTokens := revokeTokens now (fun t ↦ p t.sessionId) tables.refreshTokens

/-- `revokeSessions`: the active ones among the sessions that `p` picks. -/
def revokeSessions (now : Timestamp) (p : Session → Bool) (reason : String)
    (tables : SessionTables) : SessionTables :=
  let ids := (tables.sessions.findMany fun s ↦ p s && s.status = .active).map (·.id)
  if ids.isEmpty then tables else endSessions now .revoked reason (fun id ↦ id ∈ ids) tables

/-- `logout`. -/
def logout (now : Timestamp) (sessionId : Uuid) : SessionTables → SessionTables :=
  revokeSessions now (fun s ↦ s.id = sessionId) "user_logout"

/-- `logoutAll`. -/
def logoutAll (now : Timestamp) (userId : Uuid) : SessionTables → SessionTables :=
  revokeSessions now (fun s ↦ s.userId = userId) "user_logout_all"

/-! ## Rotation -/

/-- `undeliveredReplacement`: what a consumed token was rotated into, when nobody seems to have
received it. -/
def undeliveredReplacement (config : Config) (now : Timestamp) (tables : SessionTables)
    (token : RefreshToken) (currentTokenHash : String) : Option RefreshToken :=
  match token.consumedAt, token.replacedById with
  | some consumedAt, some replacedById =>
      if now - consumedAt > config.refreshReuseGraceMs then none
      else
        (tables.refreshTokens.find? fun t ↦ t.id = replacedById).filter fun replacement ↦
          replacement.consumedAt.isNone && replacement.revokedAt.isNone &&
            replacement.tokenHash = currentTokenHash
  | _, _ => none

/-- What the transaction of `refresh` returns. -/
inductive RefreshResult where
  | invalid
  | compromised
  | rotated (rawToken : String) (userId sessionId : Uuid)
deriving DecidableEq

/-- The token after it was exchanged for the one with the identifier `nextId`. -/
def consume (now : Timestamp) (nextId : Uuid) (token : RefreshToken) : RefreshToken :=
  { token with consumedAt := some (token.consumedAt.getD now), replacedById := some nextId }

theorem clash_of_consume {now : Timestamp} {nextId : Uuid} {a b : RefreshToken}
    (h : Schema.Clash (consume now nextId a) b) : Schema.Clash a b := h

/-- The session after its token was exchanged. -/
def advance (config : Config) (now : Timestamp) (nextRaw : String) (session : Session) : Session :=
  { session with
    currentTokenHash := config.digest nextRaw
    lastRotatedAt := now
    expiresAt := now + config.refreshTtlMs }

theorem clash_of_advance {config : Config} {now : Timestamp} {nextRaw : String} {a b : Session}
    (h : Schema.Clash (advance config now nextRaw a) b) : Schema.Clash a b := h

/-- The end of `refresh`: exchange the token for `nextRaw`, if its session still runs. -/
def rotate (config : Config) (ctx : Ctx) (nextRaw : String) (tables : SessionTables)
    (session : Session) (token : RefreshToken) :
    Except ServiceError (RefreshResult × SessionTables) :=
  if session.status ≠ .active ∨ session.expiresAt ≤ ctx.now then pure (.invalid, tables)
  else do
    let refreshTokens ← insertRow tables.refreshTokens
      (newToken config ctx.now (ctx.uuid 0) token.sessionId nextRaw)
    pure (.rotated nextRaw session.userId token.sessionId,
      { sessions := tables.sessions.modify (fun s ↦ s.id = token.sessionId)
          (advance config ctx.now nextRaw) clash_of_advance
        refreshTokens := refreshTokens.modify (fun t ↦ t.id = token.id)
          (consume ctx.now (ctx.uuid 0)) clash_of_consume })

/-- The transaction of `refresh`.  Every result is committed, also when the caller is refused. -/
def refreshWithin (config : Config) (ctx : Ctx) (nextRaw : String) (tables : SessionTables)
    (rawToken : String) : Except ServiceError (RefreshResult × SessionTables) :=
  let tokenHash := config.digest rawToken
  match tables.refreshTokens.find? fun t ↦ t.tokenHash = tokenHash with
  | none => pure (.invalid, tables)
  | some token =>
      if token.revokedAt.isSome ∨ token.expiresAt ≤ ctx.now then pure (.invalid, tables)
      else do
        let session ← orThrow (tables.sessions.find? fun s ↦ s.id = token.sessionId)
          (.database .recordNotFound)
        match undeliveredReplacement config ctx.now tables token session.currentTokenHash with
        | some replacement =>
            let retired := revokeTokens ctx.now (fun t ↦ t.id = replacement.id) tables.refreshTokens
            rotate config ctx nextRaw { tables with refreshTokens := retired } session token
        | none =>
            if token.consumedAt.isSome ∨ session.currentTokenHash ≠ tokenHash then
              pure (.compromised, endSessions ctx.now .compromised "refresh_token_reuse"
                (fun id ↦ id = token.sessionId) tables)
            else rotate config ctx nextRaw tables session token

/-- What `refresh` answers after its transaction. -/
def refreshAnswer (config : Config) (now : Timestamp) : RefreshResult → Except ServiceError TokenPair
  | .rotated rawToken userId sessionId => pure (tokenPair config now userId sessionId rawToken)
  | _ => .error (.http .unauthorized "Refresh token is invalid")

/-! ## What the transactions do -/

section Inversion

variable {config : Config} {ctx : Ctx} {rawToken nextRaw : String} {tables tables' : SessionTables}
  {userId : Uuid} {pair : TokenPair} {result : RefreshResult} {session : Session}
  {token : RefreshToken}

/-- A session that was opened is there with its one token. -/
theorem createSession_eq_ok
    (h : createSession config ctx rawToken tables userId = .ok (pair, tables')) :
    pair = tokenPair config ctx.now userId (ctx.uuid 0) rawToken ∧
      insertRow tables.sessions (newSession config ctx rawToken userId) = .ok tables'.sessions ∧
      insertRow tables.refreshTokens (newToken config ctx.now (ctx.uuid 1) (ctx.uuid 0) rawToken) =
        .ok tables'.refreshTokens := by
  simp only [createSession, bind_eq_ok, pure_eq_ok, Prod.mk.injEq] at h
  obtain ⟨sessions, hsessions, tokens, htokens, rfl, rfl⟩ := h
  exact ⟨rfl, hsessions, htokens⟩

/-- The token was exchanged for the next one. -/
structure Rotated (config : Config) (ctx : Ctx) (nextRaw : String) (tables tables' : SessionTables)
    (session : Session) (token : RefreshToken) : Prop where
  active : session.status = .active
  running : ctx.now < session.expiresAt
  fresh : ∀ t ∈ tables.refreshTokens.rows,
    ¬ Schema.Clash t (newToken config ctx.now (ctx.uuid 0) token.sessionId nextRaw)
  sessions : tables'.sessions.rows = tables.sessions.rows.map fun s ↦
    if s.id = token.sessionId then advance config ctx.now nextRaw s else s
  refreshTokens : tables'.refreshTokens.rows =
    (tables.refreshTokens.rows ++
      [newToken config ctx.now (ctx.uuid 0) token.sessionId nextRaw]).map fun t ↦
        if t.id = token.id then consume ctx.now (ctx.uuid 0) t else t

theorem rotate_eq_ok (h : rotate config ctx nextRaw tables session token = .ok (result, tables')) :
    ((session.status ≠ .active ∨ session.expiresAt ≤ ctx.now) ∧ result = .invalid ∧
        tables' = tables) ∨
      (result = .rotated nextRaw session.userId token.sessionId ∧
        Rotated config ctx nextRaw tables tables' session token) := by
  rw [rotate] at h
  split at h
  · next hover =>
      cases h
      exact .inl ⟨hover, rfl, rfl⟩
  · next hover =>
      rw [not_or, not_not, not_le] at hover
      simp only [bind_eq_ok, pure_eq_ok, Prod.mk.injEq] at h
      obtain ⟨tokens, hinsert, rfl, rfl⟩ := h
      refine .inr ⟨rfl, hover.1, hover.2, not_clash_of_insertRow hinsert, ?_, ?_⟩
      · exact (Table.rows_modify _ _ _ clash_of_advance).trans (by simp)
      · exact (Table.rows_modify _ _ _ clash_of_consume).trans (by simp [insertRow_eq_ok hinsert])

/-- What the presentation of a token comes to. -/
inductive Presentation (config : Config) (ctx : Ctx) (nextRaw : String) (tables : SessionTables)
    (rawToken : String) (result : RefreshResult) (tables' : SessionTables) : Prop
  /-- There is no such token. -/
  | unknown (missing : ∀ t ∈ tables.refreshTokens.rows, t.tokenHash ≠ config.digest rawToken)
      (result_eq : result = .invalid) (after : tables' = tables)
  /-- It was revoked, or has expired. -/
  | stale (token : RefreshToken) (stored : token ∈ tables.refreshTokens.rows)
      (hash : token.tokenHash = config.digest rawToken)
      (ended : token.revokedAt.isSome ∨ token.expiresAt ≤ ctx.now)
      (result_eq : result = .invalid) (after : tables' = tables)
  /-- It was used before, or is not the current one. -/
  | reused (token : RefreshToken) (stored : token ∈ tables.refreshTokens.rows)
      (hash : token.tokenHash = config.digest rawToken)
      (unrevoked : token.revokedAt = none) (result_eq : result = .compromised)
      (after : tables' = endSessions ctx.now .compromised "refresh_token_reuse"
        (fun id ↦ id = token.sessionId) tables)
  /-- It was used before, and the response to that seems to have been lost. -/
  | retried (token : RefreshToken) (session : Session) (replacement : RefreshToken)
      (stored : token ∈ tables.refreshTokens.rows)
      (hash : token.tokenHash = config.digest rawToken)
      (owner : session ∈ tables.sessions.rows) (owns : session.id = token.sessionId)
      (used : token.consumedAt.isSome ∧ token.revokedAt = none)
      (undelivered : undeliveredReplacement config ctx.now tables token session.currentTokenHash =
        some replacement)
      (rotation : rotate config ctx nextRaw
        { tables with
          refreshTokens := revokeTokens ctx.now (fun t ↦ t.id = replacement.id)
            tables.refreshTokens } session token = .ok (result, tables'))
  /-- It is the current one, and is used for the first time. -/
  | current (token : RefreshToken) (session : Session)
      (stored : token ∈ tables.refreshTokens.rows)
      (hash : token.tokenHash = config.digest rawToken)
      (owner : session ∈ tables.sessions.rows) (owns : session.id = token.sessionId)
      (live : token.consumedAt = none ∧ token.revokedAt = none)
      (is_current : token.tokenHash = session.currentTokenHash)
      (rotation : rotate config ctx nextRaw tables session token = .ok (result, tables'))

theorem undeliveredReplacement_eq_some {now : Timestamp} {hash : String}
    {replacement : RefreshToken}
    (h : undeliveredReplacement config now tables token hash = some replacement) :
    ∃ consumedAt, token.consumedAt = some consumedAt ∧
      now - consumedAt ≤ config.refreshReuseGraceMs ∧ token.replacedById = some replacement.id ∧
      replacement ∈ tables.refreshTokens.rows ∧ replacement.consumedAt = none ∧
      replacement.revokedAt = none ∧ replacement.tokenHash = hash := by
  unfold undeliveredReplacement at h
  split at h
  · next consumedAt replacedById hconsumed hreplaced =>
      split at h
      · cases h
      · next hgrace =>
          obtain ⟨hfind, hfresh⟩ := Option.filter_eq_some_iff.mp h
          have hid := Table.prop_of_find? hfind
          simp only [Bool.and_eq_true, decide_eq_true_eq, Option.isNone_iff_eq_none] at hid hfresh
          exact ⟨consumedAt, hconsumed, not_lt.mp hgrace, hid ▸ hreplaced,
            Table.mem_of_find? hfind, hfresh.1.1, hfresh.1.2, hfresh.2⟩
  · cases h

theorem refreshWithin_eq_ok
    (h : refreshWithin config ctx nextRaw tables rawToken = .ok (result, tables')) :
    Presentation config ctx nextRaw tables rawToken result tables' := by
  unfold refreshWithin at h
  dsimp only at h
  cases hfind : tables.refreshTokens.find? fun t ↦ t.tokenHash = config.digest rawToken with
  | none =>
      rw [hfind] at h
      cases h
      refine .unknown ?_ rfl rfl
      intro t ht hhash
      exact Table.not_of_find?_eq_none hfind ht (by simpa using hhash)
  | some token =>
      have hstored := Table.mem_of_find? hfind
      have hhash : token.tokenHash = config.digest rawToken := by
        simpa using Table.prop_of_find? hfind
      simp only [hfind] at h
      split at h
      · next hover =>
          cases h
          exact .stale token hstored hhash hover rfl rfl
      · next hover =>
          rw [not_or, Bool.not_eq_true, Option.isSome_eq_false_iff, Option.isNone_iff_eq_none]
            at hover
          rw [orThrow_bind_eq_ok] at h
          obtain ⟨session, hsession, h⟩ := h
          have howner := Table.mem_of_find? hsession
          have howns : session.id = token.sessionId := by
            simpa using Table.prop_of_find? hsession
          split at h
          · next replacement hretry =>
              obtain ⟨_, hconsumed, -⟩ := undeliveredReplacement_eq_some hretry
              exact .retried token session replacement hstored hhash howner howns
                ⟨by simp [hconsumed], hover.1⟩ hretry h
          · split at h
            · cases h
              exact .reused token hstored hhash hover.1 rfl rfl
            · next hlive =>
                rw [not_or, not_not, Bool.not_eq_true, Option.isSome_eq_false_iff,
                  Option.isNone_iff_eq_none] at hlive
                exact .current token session hstored hhash howner howns ⟨hlive.1, hover.1⟩
                  (hhash.trans hlive.2.symm) h

/-- Revoking sessions ends those that are picked, unless there are none. -/
theorem revokeSessions_cases (now : Timestamp) (p : Session → Bool) (reason : String)
    (tables : SessionTables) :
    revokeSessions now p reason tables = tables ∨
      ∃ ends : Uuid → Bool,
        revokeSessions now p reason tables = endSessions now .revoked reason ends tables := by
  rw [revokeSessions]
  split
  · exact .inl rfl
  · exact .inr ⟨_, rfl⟩

end Inversion

/-! ## The calls -/

/-- The tables, and the time. -/
structure Clocked where
  now : Timestamp
  tables : SessionTables

/-- A call, with the identifiers and the raw token it draws. -/
inductive SessionCall where
  | createSession (userId : Uuid) (uuid : Nat → Uuid) (rawToken : String)
  | refresh (rawToken : String) (uuid : Nat → Uuid) (nextRaw : String)
  | logout (sessionId : Uuid)
  | logoutAll (userId : Uuid)
  | wait (milliseconds : Nat)

/-- What a call leaves behind. -/
def step (config : Config) (s : Clocked) : SessionCall → Clocked
  | .createSession userId uuid rawToken =>
      ⟨s.now, committed s.tables (createSession config ⟨s.now, uuid⟩ rawToken s.tables userId)⟩
  | .refresh rawToken uuid nextRaw =>
      ⟨s.now, committed s.tables (refreshWithin config ⟨s.now, uuid⟩ nextRaw s.tables rawToken)⟩
  | .logout sessionId => ⟨s.now, logout s.now sessionId s.tables⟩
  | .logoutAll userId => ⟨s.now, logoutAll s.now userId s.tables⟩
  | .wait milliseconds => ⟨s.now + milliseconds, s.tables⟩

end AjoCloud.Auth
