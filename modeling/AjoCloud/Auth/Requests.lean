import AjoCloud.Auth.Accounts
import AjoCloud.Lib.Threads

/-!
# Requests to the sign-in service

A request is a thread: it takes one database step after the other, and between two of them others
may take theirs.  What it has read so far it carries along.
-/

namespace AjoCloud.Auth

open Lib ServiceError

/-- Whoever makes a call. -/
abbrev Principal := Nat

/-- How somebody came to have a session opened. -/
inductive SignIn where
  | password (password : String)
  | emailCode
  | loginCode
  | google
  | staffInvite
deriving DecidableEq

/-- A request, or what is left of it after some of its steps. -/
inductive Request where
  | register (caller : Principal) (dto : RegisterDto) (passwordHash : String)
  | verifyEmail (caller : Principal) (userId : Uuid) (code : String)
  | resendVerification (userId : Uuid)
  | login (email password : String)
  /-- Whoever they are has been established; their session is to be opened. -/
  | openSession (userId : Uuid) (how : SignIn)
  | refresh (rawToken : String)
  | logout (sessionId : Uuid)
  | logoutAll (userId : Uuid)
  | requestReset (rawEmail : String)
  /-- The user was read; their credential comes next. -/
  | resetCredential (userId : Uuid) (status : UserStatus) (email : String)
  /-- They may have a code; whether they were just sent one comes next. -/
  | resetExisting (userId : Uuid) (email : String)
  /-- They were not; the code is to be issued. -/
  | issueReset (userId : Uuid) (email : String)
  | completeReset (caller : Principal) (challengeId : Uuid) (code passwordHash : String)
  | requestCode (rawEmail : String)
  /-- The administrator was found; whether they were just sent a code comes next. -/
  | codeExisting (userId : Uuid) (email : String)
  /-- They were not, or ask for another; the code is to be issued. -/
  | issueLogin (userId : Uuid) (email : String)
  | resendCode (challengeId : Uuid)
  | verifyCode (challengeId : Uuid) (code : String)
  /-- The code was right; whether they may still use it comes next. -/
  | recheck (userId : Uuid)
  | google (caller : Principal) (claims : GoogleClaims)
  /-- The identity is known; it is to be touched. -/
  | touchIdentity (identityId userId : Uuid) (email : String)
  /-- The identity is new; the account is looked up by its address. -/
  | googleByEmail (caller : Principal) (claims : GoogleClaims) (email : String)
  /-- The account is there, and is to be linked. -/
  | linkGoogle (caller : Principal) (claims : GoogleClaims) (email : String) (userId : Uuid)
      (verifiedAt : Option Timestamp)
  /-- There is none, and one is to be created. -/
  | createGoogle (caller : Principal) (claims : GoogleClaims) (email : String)
  | acceptInvite (caller : Principal) (token passwordHash : String)
  /-- The invitation was found; it is to be redeemed. -/
  | redeemInvite (caller : Principal) (inviteId : Uuid) (passwordHash : String)
  /-- An operator gives the user another status. -/
  | setStatus (userId : Uuid) (status : UserStatus)

/-- What a call starts as. -/
def Request.isCall : Request → Bool
  | .openSession .. | .resetCredential .. | .resetExisting .. | .issueReset .. | .codeExisting ..
  | .issueLogin .. | .recheck .. | .touchIdentity .. | .googleByEmail .. | .linkGoogle ..
  | .createGoogle .. | .redeemInvite .. => false
  | _ => true

/-- How a request goes on after a step that gave a result. -/
def afterwards {α β : Type} (result : Except ServiceError α) (next : α → Option β) : Option β :=
  match result with
  | .ok a => next a
  | .error _ => none

/-- The first step of a Google sign-in. -/
def googleStart (store : Store) (caller : Principal) (claims : GoogleClaims) : Option Request :=
  afterwards (googleEmail claims) fun email ↦
    match identityOf store claims with
    | some identity =>
        match store.user? identity.userId with
        | some user =>
            if user.status = .active then some (.touchIdentity identity.id user.id email) else none
        | none => none
    | none => some (.googleByEmail caller claims email)

/-- Its second step, when the identity is new. -/
def googleAccount (store : Store) (caller : Principal) (claims : GoogleClaims) (email : String) :
    Option Request :=
  match userByEmail store email with
  | some user =>
      if resetAllowed user.status then
        some (.linkGoogle caller claims email user.id (store.emailVerifiedAt user.id))
      else none
  | none => some (.createGoogle caller claims email)

/-- One database step of a request. -/
def exec (config : Config) (o : Inputs) (s : Store) : Request → Store × Option Request
  | .register _ dto passwordHash => (committed s (registerAccount config o s dto passwordHash), none)
  | .verifyEmail _ userId code =>
      let (result, s) := verifyEmail config o.now s userId code
      (s, if result = .accepted then some (.openSession userId .emailCode) else none)
  | .resendVerification userId => (committed s (resendVerification config o s userId), none)
  | .login email password =>
      (s, afterwards (login config s email password) fun userId ↦
        some (.openSession userId (.password password)))
  | .openSession userId _ => (committed s (openSession config o s userId), none)
  | .refresh rawToken =>
      ({ s with
        sessions := committed s.sessions
          (refreshWithin config o.ctx o.rawToken s.sessions rawToken) }, none)
  | .logout sessionId => ({ s with sessions := logout o.now sessionId s.sessions }, none)
  | .logoutAll userId => ({ s with sessions := logoutAll o.now userId s.sessions }, none)
  | .requestReset rawEmail =>
      let email := toLowerCase (trim rawEmail)
      (s, (userByEmail s email).map fun user ↦ .resetCredential user.id user.status email)
  | .resetCredential userId status email =>
      (s, if (s.credential? userId).isSome ∧ resetAllowed status then some (.resetExisting userId email)
        else none)
  | .resetExisting userId email =>
      (s, if (cooling o.now s.challenges (openReset userId)).isSome then none
        else some (.issueReset userId email))
  | .issueReset userId email => (committed s (issueReset config o s userId email), none)
  | .completeReset _ challengeId code passwordHash =>
      (committed s (completeReset config o s challengeId code passwordHash), none)
  | .requestCode rawEmail =>
      let email := toLowerCase (trim rawEmail)
      (s, (findEligibleAdmin o.now s email).map fun user ↦ .codeExisting user.id email)
  | .codeExisting userId email =>
      (s, if (cooling o.now s.challenges (openLogin userId)).isSome then none
        else some (.issueLogin userId email))
  | .issueLogin userId email => (committed s (issueLogin config o s userId email), none)
  | .resendCode challengeId =>
      (s, afterwards (resendCode o.now s challengeId) fun (userId, email) ↦
        some (.issueLogin userId email))
  | .verifyCode challengeId code =>
      let ((result, userId), s) := verifyCode config o.now s challengeId code
      (s, if result = .accepted then userId.map .recheck else none)
  | .recheck userId =>
      (s, if (s.user? userId).any (eligible o.now s) then some (.openSession userId .loginCode)
        else none)
  | .google caller claims => (s, googleStart s caller claims)
  | .touchIdentity identityId userId email =>
      (touchIdentity o.now s identityId email, some (.openSession userId .google))
  | .googleByEmail caller claims email => (s, googleAccount s caller claims email)
  | .linkGoogle _ claims email userId verifiedAt =>
      let result := linkGoogle o s claims email userId verifiedAt
      (committed s result, afterwards result fun _ ↦ some (.openSession userId .google))
  | .createGoogle _ claims email =>
      let result := createGoogle o s claims email
      (committed s result, afterwards result fun (userId, _) ↦ some (.openSession userId .google))
  | .acceptInvite caller token passwordHash =>
      (s, afterwards (findLiveInvite config o.now s token) fun invite ↦
        some (.redeemInvite caller invite.id passwordHash))
  | .redeemInvite _ inviteId passwordHash =>
      let result := accept o s inviteId passwordHash
      (committed s result, afterwards result fun (userId, _) ↦
        some (.openSession userId .staffInvite))
  | .setStatus userId status => (setStatus userId status s, none)

/-! ## What happened on the way -/

/-- What a run is remembered by. -/
inductive Event where
  /-- A session was opened for the user. -/
  | opened (sessionId userId : Uuid) (how : SignIn)
  /-- The password of the user was reset while these were their sessions. -/
  | reset (userId : Uuid) (sessionIds : List Uuid)
  /-- The caller chose the password of the user. -/
  | chose (caller : Principal) (userId : Uuid)
  /-- The caller proved that the mailbox of the user is theirs. -/
  | proved (caller : Principal) (userId : Uuid)
deriving DecidableEq

/-- The events of a transaction, if it was not rolled back. -/
def told {α : Type} (result : Except ServiceError (α × Store)) (events : α → List Event) :
    List Event :=
  match result with
  | .ok (a, _) => events a
  | .error _ => []

/-- The sessions of the user. -/
def sessionIdsOf (s : Store) (userId : Uuid) : List Uuid :=
  (s.sessions.sessions.findMany fun x ↦ x.userId = userId).map (·.id)

/-- The events of a step, the last one first. -/
def observe (config : Config) (o : Inputs) (s : Store) : Request → List Event
  | .register caller dto passwordHash =>
      told (registerAccount config o s dto passwordHash) fun id ↦ [.chose caller id]
  | .verifyEmail caller userId code =>
      if (verifyEmail config o.now s userId code).1 = .accepted then [.proved caller userId] else []
  | .openSession userId how =>
      told (openSession config o s userId) fun _ ↦ [.opened (o.uuid 0) userId how]
  | .completeReset caller challengeId code passwordHash =>
      told (completeReset config o s challengeId code passwordHash) fun result ↦
        if result = .accepted then
          (challengeFor .passwordReset challengeId s.challenges).toList.flatMap fun c ↦
            [.proved caller c.userId, .chose caller c.userId,
              .reset c.userId (sessionIdsOf s c.userId)]
        else []
  | .linkGoogle caller claims email userId verifiedAt =>
      told (linkGoogle o s claims email userId verifiedAt) fun _ ↦ [.proved caller userId]
  | .createGoogle caller claims email =>
      told (createGoogle o s claims email) fun id ↦ [.proved caller id]
  | .redeemInvite caller inviteId passwordHash =>
      told (accept o s inviteId passwordHash) fun id ↦ [.proved caller id, .chose caller id]
  | _ => []

/-- The store, with what happened so far. -/
structure Watched where
  store : Store
  log : List Event

/-- A step, and what is remembered of it. -/
def watch (config : Config) (o : Inputs) (w : Watched) (t : Request) : Watched × Option Request :=
  (⟨(exec config o w.store t).1, observe config o w.store t ++ w.log⟩, (exec config o w.store t).2)

/-! ## What a step does to the store -/

/-- Sessions stay, and stay whose they are; none becomes active. -/
structure OnlyEnds (tables tables' : SessionTables) : Prop where
  old : ∀ x ∈ tables'.sessions.rows, ∃ y ∈ tables.sessions.rows,
    y.id = x.id ∧ y.userId = x.userId ∧ (x.status = .active → y.status = .active)
  stay : ∀ y ∈ tables.sessions.rows, ∃ x ∈ tables'.sessions.rows, x.id = y.id

/-- What a step of a request can do to the store, and what is remembered of it. -/
inductive Effect (config : Config) (o : Inputs) (s : Store) : Request → Store → List Event → Prop
  /-- The step only read, or its transaction was rolled back. -/
  | none (t : Request) : Effect config o s t s []
  /-- Only challenges were written. -/
  | challenges (t : Request) (challenges : Table AccountVerificationChallenge) :
      Effect config o s t { s with challenges := challenges } []
  /-- Only identities were written. -/
  | identities (t : Request) (identities : Table UserIdentity) :
      Effect config o s t { s with identities := identities } []
  /-- Sessions were rotated or ended. -/
  | sessions (t : Request) (tables : SessionTables) (ends : OnlyEnds s.sessions tables) :
      Effect config o s t { s with sessions := tables } []
  /-- A session was opened. -/
  | opened (userId : Uuid) (how : SignIn) (tables : SessionTables)
      (session : insertRow s.sessions.sessions (newSession config o.ctx o.rawToken userId) =
        .ok tables.sessions) :
      Effect config o s (.openSession userId how) { s with sessions := tables }
        [.opened (o.uuid 0) userId how]
  | registered (caller : Principal) (dto : RegisterDto) (passwordHash : String) (s' : Store)
      (users : insertRow s.db.users (newUser o.ctx o.referralCode dto) = .ok s'.db.users)
      (credentials : insertRow s.credentials ⟨o.uuid 8, o.uuid 0, passwordHash, o.now⟩ =
        .ok s'.credentials)
      (sessions : s'.sessions = s.sessions) :
      Effect config o s (.register caller dto passwordHash) s' [.chose caller (o.uuid 0)]
  /-- A code for the address of the user was redeemed. -/
  | verified (caller : Principal) (userId : Uuid) (code : String)
      (challenge : AccountVerificationChallenge)
      (found : findNewest s.challenges (openEmail userId) = some challenge)
      (valid : validateChallenge config o.now challenge code = .accepted)
      (challenges : Table AccountVerificationChallenge) :
      Effect config o s (.verifyEmail caller userId code)
        (activate userId o.now { s with challenges := challenges }) [.proved caller userId]
  /-- A code for a new password was redeemed. -/
  | reset (caller : Principal) (challengeId : Uuid) (code passwordHash : String)
      (challenge : AccountVerificationChallenge)
      (found : challengeFor .passwordReset challengeId s.challenges = some challenge)
      (valid : validateChallenge config o.now challenge code = .accepted)
      (challenges : Table AccountVerificationChallenge) (credentials : Table UserCredential)
      (upsert : upsertCredential o challenge.userId passwordHash s.credentials = .ok credentials) :
      Effect config o s (.completeReset caller challengeId code passwordHash)
        (activate challenge.userId o.now
          { s with
            challenges := challenges
            credentials := credentials
            sessions := { s.sessions with
              sessions := s.sessions.sessions.modify (fun _ ↦ true)
                (resetSession o.now challenge.userId) clash_of_resetSession } })
        [.proved caller challenge.userId, .chose caller challenge.userId,
          .reset challenge.userId (sessionIdsOf s challenge.userId)]
  | linked (caller : Principal) (claims : GoogleClaims) (email : String) (userId : Uuid)
      (verifiedAt : Option Timestamp) (identities : Table UserIdentity)
      (identity : insertRow s.identities ⟨o.uuid 0, userId, claims.sub, some email, some o.now⟩ =
        .ok identities) :
      Effect config o s (.linkGoogle caller claims email userId verifiedAt)
        (activate userId (verifiedAt.getD o.now) { s with identities := identities })
        [.proved caller userId]
  | createdGoogle (caller : Principal) (claims : GoogleClaims) (email : String) (s' : Store)
      (users : insertRow s.db.users ⟨o.uuid 0, some email, .none, .active, .none⟩ = .ok s'.db.users)
      (credentials : s'.credentials = s.credentials) (sessions : s'.sessions = s.sessions) :
      Effect config o s (.createGoogle caller claims email) s' [.proved caller (o.uuid 0)]
  | invited (caller : Principal) (inviteId : Uuid) (passwordHash email : String) (s' : Store)
      (users : insertRow s.db.users ⟨o.uuid 0, some email, .none, .active, .none⟩ = .ok s'.db.users)
      (credentials : insertRow s.credentials ⟨o.uuid 2, o.uuid 0, passwordHash, o.now⟩ =
        .ok s'.credentials)
      (sessions : s'.sessions = s.sessions) :
      Effect config o s (.redeemInvite caller inviteId passwordHash) s'
        [.proved caller (o.uuid 0), .chose caller (o.uuid 0)]
  | statusSet (userId : Uuid) (status : UserStatus) :
      Effect config o s (.setStatus userId status) (setStatus userId status s) []

namespace Effect

variable {config : Config} {o : Inputs} {s : Store} {t : Request}

/-- A transaction that was rolled back left the store as it was. -/
theorem committed {α : Type} {result : Except ServiceError (α × Store)} {events : α → List Event}
    (h : ∀ a s', result = .ok (a, s') → Effect config o s t s' (events a)) :
    Effect config o s t (committed s result) (told result events) := by
  rcases result with e | ⟨a, s'⟩
  · exact .none t
  · exact h a s' rfl

theorem committed_nil {α : Type} {result : Except ServiceError (α × Store)}
    (h : ∀ a s', result = .ok (a, s') → Effect config o s t s' []) :
    Effect config o s t (AjoCloud.committed s result) [] := by
  rcases result with e | ⟨a, s'⟩
  · exact .none t
  · exact h a s' rfl

end Effect

section Inversion

variable {config : Config} {o : Inputs} {s s' : Store} {userId createdId : Uuid} {code : String}
  {passwordHash : String} {result : Redemption}

/-- Only a right code is accepted. -/
theorem redeem_eq_accepted {challenge : AccountVerificationChallenge}
    {challenges challenges' : Table AccountVerificationChallenge}
    (h : redeem config o.now challenge code challenges = (.accepted, challenges')) :
    validateChallenge config o.now challenge code = .accepted := by
  unfold redeem at h
  split at h
  · next hvalid => exact hvalid
  · cases h
  · exact (Prod.mk.injEq .. ▸ h).1

theorem registerAccount_effect {caller : Principal} {dto : RegisterDto}
    (h : registerAccount config o s dto passwordHash = .ok (createdId, s')) :
    Effect config o s (.register caller dto passwordHash) s' [.chose caller createdId] := by
  rw [registerAccount, mapError_eq_ok] at h
  simp only [registerAccountWithin, bind_eq_ok, pure_eq_ok, Prod.exists, Prod.mk.injEq] at h
  obtain ⟨id, db, hregister, _, _, -, _, -, credentials, hcredentials, _, -, rfl, rfl⟩ := h
  simp only [registerWithin, bind_eq_ok, pure_eq_ok, Prod.mk.injEq] at hregister
  obtain ⟨users, husers, _, -, _, -, _, -, _, -, _, -, rfl, rfl⟩ := hregister
  exact .registered caller dto passwordHash _ husers hcredentials rfl

theorem verifyEmail_effect (caller : Principal)
    (h : verifyEmail config o.now s userId code = (result, s')) :
    Effect config o s (.verifyEmail caller userId code) s'
      (if result = .accepted then [.proved caller userId] else []) := by
  unfold verifyEmail at h
  split at h
  · cases h
    exact .none _
  · split at h
    · cases h
      exact .none _
    · split at h
      · cases h
        exact .none _
      · split at h
        · cases h
          exact .none _
        · next challenge hfound =>
            generalize hredeem : redeem config o.now challenge code s.challenges = outcome at h
            obtain ⟨result', challenges⟩ := outcome
            cases result' with
            | accepted =>
                cases h
                exact .verified caller userId code challenge hfound (redeem_eq_accepted hredeem) _
            | _ =>
                cases h
                exact .challenges _ _

theorem completeReset_effect {challengeId : Uuid} (caller : Principal)
    (h : completeReset config o s challengeId code passwordHash = .ok (result, s')) :
    Effect config o s (.completeReset caller challengeId code passwordHash) s'
      (if result = .accepted then
        (challengeFor .passwordReset challengeId s.challenges).toList.flatMap fun c ↦
          [.proved caller c.userId, .chose caller c.userId,
            .reset c.userId (sessionIdsOf s c.userId)]
      else []) := by
  unfold completeReset at h
  split at h
  · cases h
    exact .none _
  · next challenge hfound =>
      generalize hredeem : redeem config o.now challenge code s.challenges = outcome at h
      obtain ⟨result', challenges⟩ := outcome
      cases result' with
      | accepted =>
          simp only [bind_eq_ok, pure_eq_ok, Prod.mk.injEq] at h
          obtain ⟨credentials, hupsert, rfl, rfl⟩ := h
          rw [if_pos rfl, hfound]
          exact .reset caller challengeId code passwordHash challenge hfound
            (redeem_eq_accepted hredeem) _ _ hupsert
      | _ =>
          cases h
          exact .challenges _ _

theorem linkGoogle_effect {claims : GoogleClaims} {email : String} {verifiedAt : Option Timestamp}
    (caller : Principal) {a : Unit}
    (h : linkGoogle o s claims email userId verifiedAt = .ok (a, s')) :
    Effect config o s (.linkGoogle caller claims email userId verifiedAt) s'
      [.proved caller userId] := by
  simp only [linkGoogle, bind_eq_ok, pure_eq_ok, Prod.mk.injEq] at h
  obtain ⟨identities, hidentity, _, -, -, rfl⟩ := h
  exact .linked caller claims email userId verifiedAt _ hidentity

theorem createGoogle_effect {claims : GoogleClaims} {email : String} (caller : Principal)
    (h : createGoogle o s claims email = .ok (createdId, s')) :
    Effect config o s (.createGoogle caller claims email) s' [.proved caller createdId] := by
  simp only [createGoogle, bind_eq_ok, pure_eq_ok, Prod.mk.injEq] at h
  obtain ⟨users, husers, _, -, _, -, _, -, rfl, rfl⟩ := h
  exact .createdGoogle caller claims email _ husers rfl rfl

theorem accept_effect {inviteId : Uuid} (caller : Principal)
    (h : accept o s inviteId passwordHash = .ok (createdId, s')) :
    Effect config o s (.redeemInvite caller inviteId passwordHash) s'
      [.proved caller createdId, .chose caller createdId] := by
  simp only [accept, bind_eq_ok, require_eq_ok, orThrow_eq_ok, exists_const, pure_eq_ok,
    Prod.mk.injEq] at h
  obtain ⟨invite, -, -, -, -, users, husers, _, -, credentials, hcredentials, _, -, rfl, rfl⟩ := h
  exact .invited caller inviteId passwordHash invite.email _ husers hcredentials rfl

end Inversion

section Credentials

variable {o : Inputs} {userId : Uuid} {passwordHash : String}
  {credentials credentials' : Table UserCredential} {c : UserCredential}

/-- Writing the password of one user leaves those of the others. -/
theorem mem_upsertCredential
    (h : upsertCredential o userId passwordHash credentials = .ok credentials')
    (hc : c ∈ credentials.rows) (hne : c.userId ≠ userId) : c ∈ credentials'.rows := by
  unfold upsertCredential at h
  split at h
  · cases h
    exact List.mem_map.mpr ⟨c, hc, if_neg (by simpa using hne)⟩
  · rw [insertRow_eq_ok h]
    exact List.mem_append_left _ hc

theorem of_mem_upsertCredential
    (h : upsertCredential o userId passwordHash credentials = .ok credentials')
    (hc : c ∈ credentials'.rows) (hne : c.userId ≠ userId) : c ∈ credentials.rows := by
  unfold upsertCredential at h
  split at h
  · cases h
    obtain ⟨c₀, hc₀, rfl⟩ := List.mem_map.mp hc
    split at hne
    · next hown => exact absurd (of_decide_eq_true hown) hne
    · rwa [if_neg ‹_›]
  · rw [insertRow_eq_ok h, List.mem_append, List.mem_singleton] at hc
    rcases hc with hc | rfl
    · exact hc
    · exact absurd rfl hne

end Credentials

section OnlyEnds

variable {config : Config} {ctx : Ctx} {now : Timestamp} {rawToken nextRaw : String}
  {tables tables' tables'' : SessionTables} {result : RefreshResult} {session : Session}
  {token : RefreshToken}

theorem OnlyEnds.refl (tables : SessionTables) : OnlyEnds tables tables :=
  ⟨fun x hx ↦ ⟨x, hx, rfl, rfl, id⟩, fun y hy ↦ ⟨y, hy, rfl⟩⟩

/-- Rewriting sessions in place, so that none becomes active. -/
theorem OnlyEnds.map {f : Session → Session}
    (hrows : tables'.sessions.rows = tables.sessions.rows.map f)
    (hf : ∀ y, (f y).id = y.id ∧ (f y).userId = y.userId ∧
      ((f y).status = .active → y.status = .active)) : OnlyEnds tables tables' := by
  constructor
  · intro x hx
    rw [hrows, List.mem_map] at hx
    obtain ⟨y, hy, rfl⟩ := hx
    exact ⟨y, hy, (hf y).1.symm, (hf y).2.1.symm, (hf y).2.2⟩
  · intro y hy
    exact ⟨f y, hrows ▸ List.mem_map_of_mem hy, (hf y).1⟩

theorem OnlyEnds.endSessions {status : SessionStatus} (hstatus : status ≠ .active)
    (reason : String) (p : Uuid → Bool) :
    OnlyEnds tables (endSessions now status reason p tables) := by
  refine .map rfl fun y ↦ ?_
  split
  · simp [endSession, hstatus]
  · simp

theorem OnlyEnds.rotate {tokens : Table RefreshToken}
    (h : rotate config ctx nextRaw { tables with refreshTokens := tokens } session token =
      .ok (result, tables')) : OnlyEnds tables tables' := by
  rcases rotate_eq_ok h with ⟨-, -, rfl⟩ | ⟨-, hrot⟩
  · exact .map (f := id) (List.map_id _).symm fun _ ↦ ⟨rfl, rfl, id⟩
  · refine .map hrot.sessions fun y ↦ ?_
    split
    · exact ⟨rfl, rfl, id⟩
    · exact ⟨rfl, rfl, id⟩

theorem OnlyEnds.refreshWithin
    (h : refreshWithin config ctx nextRaw tables rawToken = .ok (result, tables')) :
    OnlyEnds tables tables' := by
  rcases refreshWithin_eq_ok h with
    ⟨-, -, rfl⟩ | ⟨_, -, -, -, -, rfl⟩ | ⟨_, -, -, -, -, rfl⟩ |
    ⟨_, _, _, -, -, -, -, -, -, hrot⟩ | ⟨_, _, -, -, -, -, -, -, hrot⟩
  · exact .refl _
  · exact .refl _
  · exact endSessions (by simp) _ _
  · exact rotate hrot
  · exact rotate hrot

theorem OnlyEnds.revokeSessions (p : Session → Bool) (reason : String) :
    OnlyEnds tables (revokeSessions now p reason tables) := by
  rcases revokeSessions_cases now p reason tables with heq | ⟨ends, heq⟩
  · rw [heq]
    exact .refl _
  · rw [heq]
    exact endSessions (by simp) _ _

end OnlyEnds

/-- **What a step can do.** -/
theorem exec_effect (config : Config) (o : Inputs) (s : Store) (t : Request) :
    Effect config o s t (exec config o s t).1 (observe config o s t) := by
  cases t with
  | register caller dto passwordHash => exact .committed fun _ _ h ↦ registerAccount_effect h
  | verifyEmail caller userId code => exact verifyEmail_effect caller rfl
  | resendVerification userId =>
      refine .committed_nil fun _ s' h ↦ ?_
      unfold resendVerification at h
      split at h
      · cases h
        exact .none _
      · split at h
        · cases h
          exact .none _
        · split at h
          · cases h
            exact .none _
          · simp only [bind_eq_ok, pure_eq_ok, Prod.mk.injEq] at h
            obtain ⟨challenges, -, -, rfl⟩ := h
            exact .challenges _ _
  | openSession userId how =>
      refine .committed fun _ s' h ↦ ?_
      simp only [openSession, bind_eq_ok, pure_eq_ok, Prod.exists, Prod.mk.injEq] at h
      obtain ⟨_, tables, hopened, -, rfl⟩ := h
      exact .opened userId how tables (createSession_eq_ok hopened).2.1
  | refresh rawToken =>
      refine .sessions _ _ ?_
      rcases committed_cases s.sessions (refreshWithin config o.ctx o.rawToken s.sessions rawToken)
        with heq | ⟨_, _, hok, heq⟩
      · rw [heq]
        exact .refl _
      · rw [heq]
        exact .refreshWithin hok
  | logout sessionId => exact .sessions _ _ (.revokeSessions _ _)
  | logoutAll userId => exact .sessions _ _ (.revokeSessions _ _)
  | issueReset userId email =>
      refine .committed_nil fun _ s' h ↦ ?_
      simp only [issueReset, bind_eq_ok, pure_eq_ok, Prod.mk.injEq] at h
      obtain ⟨challenges, -, -, rfl⟩ := h
      exact .challenges _ _
  | completeReset caller challengeId code passwordHash =>
      exact .committed fun _ _ h ↦ completeReset_effect caller h
  | issueLogin userId email =>
      refine .committed_nil fun _ s' h ↦ ?_
      simp only [issueLogin, bind_eq_ok, pure_eq_ok, Prod.mk.injEq] at h
      obtain ⟨challenges, -, -, rfl⟩ := h
      exact .challenges _ _
  | verifyCode challengeId code =>
      change Effect config o s _ (verifyCode config o.now s challengeId code).2 []
      unfold verifyCode
      split
      · exact .none _
      · exact .challenges _ _
  | touchIdentity identityId userId email => exact .identities _ _
  | linkGoogle caller claims email userId verifiedAt =>
      exact .committed fun _ _ h ↦ linkGoogle_effect caller h
  | createGoogle caller claims email => exact .committed fun _ _ h ↦ createGoogle_effect caller h
  | redeemInvite caller inviteId passwordHash =>
      exact .committed fun _ _ h ↦ accept_effect caller h
  | setStatus userId status => exact .statusSet userId status
  | login => exact .none _
  | requestReset => exact .none _
  | resetCredential => exact .none _
  | resetExisting => exact .none _
  | requestCode => exact .none _
  | codeExisting => exact .none _
  | resendCode => exact .none _
  | recheck => exact .none _
  | google => exact .none _
  | googleByEmail => exact .none _
  | acceptInvite => exact .none _

/-! ## A sample service -/

section Sample

/-- What the step number `n` takes from outside: it comes in the second `n`. -/
def sampleInputs (n : Nat) : Inputs where
  now := 1000 * n
  uuid k := .ofNat (100 * n + k)
  code := "48151" ++ toString n
  rawToken := "token " ++ toString n
  referralCode := "AJO-ACDEF" ++ toString n

/-- Somebody registers. -/
def sampleDto : RegisterDto where
  email := "ada@mail.com"
  phone := "+2348000000001"
  firstName := "Ada"
  lastName := "Obi"
  referralCode := none

/-- The moves that serve the requests one after the other, each to its end; the first step of them has
the number `n`. -/
def sampleMoves : Nat → List Request → List (Move Request Inputs)
  | _, [] => []
  | n, t :: requests =>
      .spawn t :: ((List.range 4).map fun k ↦ .run 0 (sampleInputs (n + k))) ++
        sampleMoves (n + 4) requests

/-- The pool after the requests were served. -/
def sampleServed (n : Nat) (requests : List Request) (p : Pool Store Request) :
    Pool Store Request :=
  (sampleMoves n requests).foldl (Pool.advance (exec sampleConfig)) p

end Sample

end AjoCloud.Auth
