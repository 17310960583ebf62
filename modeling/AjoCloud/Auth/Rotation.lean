import AjoCloud.Auth.Sessions

/-!
# One live token per session

Rotations, lost responses, compromises and sign-outs all rewrite the tokens of a session.  Whatever
their order, the tokens that were handed out form a tree with one live leaf, the current token; an
old token that turns up again is noticed, unless it had been revoked.
-/

namespace AjoCloud.Auth

open Lib

/-- The token can still be exchanged: it was neither consumed nor revoked. -/
def Live (t : RefreshToken) : Prop := t.consumedAt = none ∧ t.revokedAt = none

instance (t : RefreshToken) : Decidable (Live t) :=
  inferInstanceAs (Decidable (t.consumedAt = none ∧ t.revokedAt = none))

/-- What holds between the sessions and their tokens at every moment. -/
structure Chained (config : Config) (now : Timestamp) (tables : SessionTables) : Prop where
  /-- Every token has its session. -/
  owned : ∀ t ∈ tables.refreshTokens.rows, ∃ s ∈ tables.sessions.rows, s.id = t.sessionId
  /-- A live token is the current one of its session. -/
  current : ∀ s ∈ tables.sessions.rows, ∀ t ∈ tables.refreshTokens.rows, t.sessionId = s.id →
    Live t → t.tokenHash = s.currentTokenHash
  /-- It lasts as long as the session. -/
  expiry : ∀ s ∈ tables.sessions.rows, ∀ t ∈ tables.refreshTokens.rows, t.sessionId = s.id →
    Live t → t.expiresAt = s.expiresAt
  /-- A session that is over has no token left. -/
  ended : ∀ s ∈ tables.sessions.rows, s.status ≠ .active →
    ∀ t ∈ tables.refreshTokens.rows, t.sessionId = s.id → t.revokedAt ≠ none
  /-- Nothing lasts longer than a token that is drawn now. -/
  bounded : ∀ t ∈ tables.refreshTokens.rows, t.expiresAt ≤ now + config.refreshTtlMs
  /-- What a token was exchanged for is there, and lasts at least as long. -/
  replaced : ∀ t ∈ tables.refreshTokens.rows, ∀ id, t.replacedById = some id →
    ∃ c ∈ tables.refreshTokens.rows, c.id = id ∧ t.expiresAt ≤ c.expiresAt

variable {config : Config} {now : Timestamp} {ctx : Ctx} {rawToken nextRaw : String}
  {tables tables' : SessionTables} {userId : Uuid} {pair : TokenPair} {result : RefreshResult}
  {session : Session} {token : RefreshToken}

/-! ## The rows after a transaction -/

theorem eq_of_tokenHash {t t' : RefreshToken} (ht : t ∈ tables.refreshTokens.rows)
    (ht' : t' ∈ tables.refreshTokens.rows) (h : t.tokenHash = t'.tokenHash) : t = t' :=
  tables.refreshTokens.eq_of_clash ht ht' (.inr ⟨rfl, congrArg some h⟩)

theorem eq_of_token_id {t t' : RefreshToken} (ht : t ∈ tables.refreshTokens.rows)
    (ht' : t' ∈ tables.refreshTokens.rows) (h : t.id = t'.id) : t = t' :=
  tables.refreshTokens.eq_of_clash ht ht' (.inl h)

theorem eq_of_session_id {s s' : Session} (hs : s ∈ tables.sessions.rows)
    (hs' : s' ∈ tables.sessions.rows) (h : s.id = s'.id) : s = s' :=
  tables.sessions.eq_of_clash hs hs' h

/-- A token after some were revoked is one from before; where it is not revoked, it was not among
them. -/
theorem of_mem_revokeTokens {p : RefreshToken → Bool} {tokens : Table RefreshToken}
    {r : RefreshToken} (h : r ∈ (revokeTokens now p tokens).rows) :
    ∃ t ∈ tokens.rows, ∃ revokedAt, r = { t with revokedAt := revokedAt } ∧
      (revokedAt = none → t.revokedAt = none ∧ p t = false) := by
  rcases Table.mem_modify.mp h with ⟨hr, hp⟩ | ⟨t, ht, -, rfl⟩
  · refine ⟨r, hr, r.revokedAt, rfl, fun hnone ↦ ⟨hnone, ?_⟩⟩
    simpa [hnone] using hp
  · exact ⟨t, ht, some now, rfl, by simp⟩

theorem mem_revokeTokens (now : Timestamp) (p : RefreshToken → Bool) {tokens : Table RefreshToken}
    {t : RefreshToken} (h : t ∈ tokens.rows) :
    ∃ revokedAt, { t with revokedAt := revokedAt } ∈ (revokeTokens now p tokens).rows ∧
      (revokedAt = none → t.revokedAt = none ∧ p t = false) := by
  by_cases hp : (p t && t.revokedAt.isNone) = true
  · exact ⟨some now, Table.mem_modify.mpr (.inr ⟨t, h, hp, rfl⟩), by simp⟩
  · refine ⟨t.revokedAt, Table.mem_modify.mpr (.inl ⟨h, Bool.not_eq_true _ ▸ hp⟩),
      fun hnone ↦ ⟨hnone, ?_⟩⟩
    simpa [hnone] using hp

/-- A session after some were ended is one from before, and with another status if it was among
them. -/
theorem of_mem_endSessions {status : SessionStatus} {reason : String} {p : Uuid → Bool}
    {r : Session} (h : r ∈ (endSessions now status reason p tables).sessions.rows) :
    ∃ s ∈ tables.sessions.rows, r.id = s.id ∧ r.currentTokenHash = s.currentTokenHash ∧
      r.expiresAt = s.expiresAt ∧
      (r.status = s.status ∧ p s.id = false ∨ r.status = status ∧ p s.id = true) := by
  obtain ⟨s, hs, rfl⟩ := List.mem_map.mp h
  refine ⟨s, hs, ?_⟩
  cases hp : p s.id with
  | false => simp [hp]
  | true => simp [hp, endSession]

theorem mem_endSessions {status : SessionStatus} {reason : String} {p : Uuid → Bool} {s : Session}
    (h : s ∈ tables.sessions.rows) :
    (if p s.id then endSession now status reason s else s) ∈
      (endSessions now status reason p tables).sessions.rows := List.mem_map_of_mem h

namespace Rotated

/-- The token that a rotation hands out. -/
def next (config : Config) (ctx : Ctx) (nextRaw : String) (token : RefreshToken) : RefreshToken :=
  newToken config ctx.now (ctx.uuid 0) token.sessionId nextRaw

variable (h : Rotated config ctx nextRaw tables tables' session token)
include h

theorem of_mem_refreshTokens (hstored : token ∈ tables.refreshTokens.rows) {r : RefreshToken}
    (hr : r ∈ tables'.refreshTokens.rows) :
    r = next config ctx nextRaw token ∨ r = consume ctx.now (ctx.uuid 0) token ∨
      (r ∈ tables.refreshTokens.rows ∧ r.id ≠ token.id) := by
  rw [h.refreshTokens, List.mem_map] at hr
  obtain ⟨t, ht, rfl⟩ := hr
  rcases List.mem_append.mp ht with ht | ht
  · split
    · next hid =>
        rw [eq_of_token_id ht hstored hid]
        exact .inr (.inl rfl)
    · next hid => exact .inr (.inr ⟨ht, hid⟩)
  · rw [List.mem_singleton.mp ht]
    rw [if_neg fun hid ↦ h.fresh token hstored (.inl hid.symm)]
    exact .inl rfl

theorem next_mem (hstored : token ∈ tables.refreshTokens.rows) :
    next config ctx nextRaw token ∈ tables'.refreshTokens.rows := by
  rw [h.refreshTokens, List.mem_map]
  refine ⟨_, List.mem_append_right _ (List.mem_singleton_self _), ?_⟩
  exact if_neg fun hid ↦ h.fresh token hstored (.inl hid.symm)

/-- Every token is still there, and only the one that was exchanged has changed. -/
theorem mem_refreshTokens {t : RefreshToken} (ht : t ∈ tables.refreshTokens.rows) :
    (if t.id = token.id then consume ctx.now (ctx.uuid 0) t else t) ∈
      tables'.refreshTokens.rows := by
  rw [h.refreshTokens]
  exact List.mem_map_of_mem (List.mem_append_left _ ht)

theorem of_mem_sessions (howner : session ∈ tables.sessions.rows)
    (howns : session.id = token.sessionId) {r : Session} (hr : r ∈ tables'.sessions.rows) :
    r = advance config ctx.now nextRaw session ∨
      (r ∈ tables.sessions.rows ∧ r.id ≠ token.sessionId) := by
  rw [h.sessions, List.mem_map] at hr
  obtain ⟨s, hs, rfl⟩ := hr
  split
  · next hid =>
      rw [eq_of_session_id hs howner (hid.trans howns.symm)]
      exact .inl rfl
  · next hid => exact .inr ⟨hs, hid⟩

theorem mem_sessions {s : Session} (hs : s ∈ tables.sessions.rows) :
    ∃ s' ∈ tables'.sessions.rows, s'.id = s.id := by
  rw [h.sessions]
  refine ⟨_, List.mem_map_of_mem hs, ?_⟩
  split
  · rfl
  · rfl

end Rotated

/-! ## What every transaction keeps -/

namespace Chained

theorem wait (h : Chained config now tables) {later : Timestamp} (hle : now ≤ later) :
    Chained config later tables :=
  { h with bounded := fun t ht ↦ (h.bounded t ht).trans (Int.add_le_add_right hle _) }

theorem revokeTokens (h : Chained config now tables) (p : RefreshToken → Bool) :
    Chained config now
      { tables with refreshTokens := Auth.revokeTokens now p tables.refreshTokens } where
  owned r hr := by
    obtain ⟨t, ht, _, rfl, -⟩ := of_mem_revokeTokens hr
    exact h.owned t ht
  current s hs r hr hown hlive := by
    obtain ⟨t, ht, _, rfl, hrevoked⟩ := of_mem_revokeTokens hr
    exact h.current s hs t ht hown ⟨hlive.1, (hrevoked hlive.2).1⟩
  expiry s hs r hr hown hlive := by
    obtain ⟨t, ht, _, rfl, hrevoked⟩ := of_mem_revokeTokens hr
    exact h.expiry s hs t ht hown ⟨hlive.1, (hrevoked hlive.2).1⟩
  ended s hs hover r hr hown := by
    obtain ⟨t, ht, _, rfl, hrevoked⟩ := of_mem_revokeTokens hr
    exact fun hnone ↦ h.ended s hs hover t ht hown (hrevoked hnone).1
  bounded r hr := by
    obtain ⟨t, ht, _, rfl, -⟩ := of_mem_revokeTokens hr
    exact h.bounded t ht
  replaced r hr id hid := by
    obtain ⟨t, ht, _, rfl, -⟩ := of_mem_revokeTokens hr
    obtain ⟨c, hc, hcid, hle⟩ := h.replaced t ht id hid
    obtain ⟨_, hc', -⟩ := mem_revokeTokens now p hc
    exact ⟨_, hc', hcid, hle⟩

/-- Sessions are ended with all their tokens. -/
theorem endSessions (h : Chained config now tables) {status : SessionStatus} (reason : String)
    (p : Uuid → Bool) : Chained config now (Auth.endSessions now status reason p tables) := by
  have hr := h.revokeTokens fun t ↦ p t.sessionId
  refine ⟨?_, ?_, ?_, ?_, hr.bounded, hr.replaced⟩
  · intro t ht
    obtain ⟨s, hs, hid⟩ := hr.owned t ht
    refine ⟨_, mem_endSessions hs, ?_⟩
    split
    · exact hid
    · exact hid
  · intro r hr' t ht hown hlive
    obtain ⟨s, hs, hid, hhash, -, -⟩ := of_mem_endSessions hr'
    exact (hr.current s hs t ht (hown.trans hid) hlive).trans hhash.symm
  · intro r hr' t ht hown hlive
    obtain ⟨s, hs, hid, -, hexpires, -⟩ := of_mem_endSessions hr'
    exact (hr.expiry s hs t ht (hown.trans hid) hlive).trans hexpires.symm
  · intro r hr' hover t ht hown
    obtain ⟨s, hs, hid, -, -, ⟨hsame, -⟩ | ⟨-, hp⟩⟩ := of_mem_endSessions hr'
    · exact hr.ended s hs (hsame ▸ hover) t ht (hown.trans hid)
    · obtain ⟨t₀, -, _, rfl, hrevoked⟩ := of_mem_revokeTokens ht
      intro hnone
      have hkept := (hrevoked hnone).2
      rw [show t₀.sessionId = s.id from hown.trans hid, hp] at hkept
      cases hkept

/-- A new session has one token, and no other session has it. -/
theorem createSession (h : Chained config ctx.now tables)
    (hok : Auth.createSession config ctx rawToken tables userId = .ok (pair, tables')) :
    Chained config ctx.now tables' := by
  obtain ⟨-, hsession, htoken⟩ := createSession_eq_ok hok
  have hfresh := not_clash_of_insertRow hsession
  -- No token from before belongs to the new session.
  have hother : ∀ t ∈ tables.refreshTokens.rows, t.sessionId ≠ ctx.uuid 0 := by
    intro t ht heq
    obtain ⟨s, hs, hid⟩ := h.owned t ht
    exact hfresh s hs (hid.trans heq)
  constructor
  all_goals simp only [insertRow_eq_ok hsession, insertRow_eq_ok htoken, List.mem_append,
    List.mem_singleton]
  · rintro t (ht | rfl)
    · obtain ⟨s, hs, hid⟩ := h.owned t ht
      exact ⟨s, .inl hs, hid⟩
    · exact ⟨_, .inr rfl, rfl⟩
  · rintro s (hs | rfl) t (ht | rfl) hown hlive
    · exact h.current s hs t ht hown hlive
    · exact absurd hown.symm (hfresh s hs)
    · exact absurd hown (hother t ht)
    · rfl
  · rintro s (hs | rfl) t (ht | rfl) hown hlive
    · exact h.expiry s hs t ht hown hlive
    · exact absurd hown.symm (hfresh s hs)
    · exact absurd hown (hother t ht)
    · rfl
  · rintro s (hs | rfl) hover t (ht | rfl) hown
    · exact h.ended s hs hover t ht hown
    · exact absurd hown.symm (hfresh s hs)
    · exact absurd rfl hover
    · exact absurd rfl hover
  · rintro t (ht | rfl)
    · exact h.bounded t ht
    · exact le_refl _
  · rintro t (ht | rfl) id hid
    · obtain ⟨c, hc, hcid, hle⟩ := h.replaced t ht id hid
      exact ⟨c, .inl hc, hcid, hle⟩
    · cases hid

/-- A rotation keeps the chain when its session has no other live token. -/
theorem rotated (h : Chained config ctx.now tables)
    (hrot : Rotated config ctx nextRaw tables tables' session token)
    (hstored : token ∈ tables.refreshTokens.rows) (howner : session ∈ tables.sessions.rows)
    (howns : session.id = token.sessionId)
    (hsole : ∀ t ∈ tables.refreshTokens.rows, t.sessionId = token.sessionId → Live t →
      t.id = token.id) : Chained config ctx.now tables' := by
  have hconsumed : ¬ Live (consume ctx.now (ctx.uuid 0) token) := fun hlive ↦ by cases hlive.1
  have hdrawn : (Rotated.next config ctx nextRaw token).sessionId = session.id := howns.symm
  constructor
  · intro r hr
    rcases hrot.of_mem_refreshTokens hstored hr with rfl | rfl | ⟨hr, -⟩
    · exact (hrot.mem_sessions howner).imp fun s hs ↦ ⟨hs.1, hs.2.trans howns⟩
    · exact (hrot.mem_sessions howner).imp fun s hs ↦ ⟨hs.1, hs.2.trans howns⟩
    · obtain ⟨s, hs, hid⟩ := h.owned r hr
      exact (hrot.mem_sessions hs).imp fun s hs ↦ ⟨hs.1, hs.2.trans hid⟩
  · intro s hs r hr hown hlive
    rcases hrot.of_mem_sessions howner howns hs with rfl | ⟨hs, hid⟩
    · rcases hrot.of_mem_refreshTokens hstored hr with rfl | rfl | ⟨hr, hne⟩
      · rfl
      · exact absurd hlive hconsumed
      · exact absurd (hsole r hr (hown.trans howns) hlive) hne
    · rcases hrot.of_mem_refreshTokens hstored hr with rfl | rfl | ⟨hr, -⟩
      · exact absurd hown.symm hid
      · exact absurd hlive hconsumed
      · exact h.current s hs r hr hown hlive
  · intro s hs r hr hown hlive
    rcases hrot.of_mem_sessions howner howns hs with rfl | ⟨hs, hid⟩
    · rcases hrot.of_mem_refreshTokens hstored hr with rfl | rfl | ⟨hr, hne⟩
      · rfl
      · exact absurd hlive hconsumed
      · exact absurd (hsole r hr (hown.trans howns) hlive) hne
    · rcases hrot.of_mem_refreshTokens hstored hr with rfl | rfl | ⟨hr, -⟩
      · exact absurd hown.symm hid
      · exact absurd hlive hconsumed
      · exact h.expiry s hs r hr hown hlive
  · intro s hs hover r hr hown
    rcases hrot.of_mem_sessions howner howns hs with rfl | ⟨hs, hid⟩
    · exact absurd hrot.active hover
    · rcases hrot.of_mem_refreshTokens hstored hr with rfl | rfl | ⟨hr, -⟩
      · exact absurd hown.symm hid
      · exact absurd hown.symm hid
      · exact h.ended s hs hover r hr hown
  · intro r hr
    rcases hrot.of_mem_refreshTokens hstored hr with rfl | rfl | ⟨hr, -⟩
    · exact le_refl _
    · exact h.bounded token hstored
    · exact h.bounded r hr
  · intro r hr id hid
    rcases hrot.of_mem_refreshTokens hstored hr with rfl | rfl | ⟨hr, -⟩
    · cases hid
    · cases hid
      exact ⟨_, hrot.next_mem hstored, rfl, h.bounded token hstored⟩
    · obtain ⟨c, hc, hcid, hle⟩ := h.replaced r hr id hid
      refine ⟨_, hrot.mem_refreshTokens hc, ?_⟩
      split
      · exact ⟨hcid, hle⟩
      · exact ⟨hcid, hle⟩

theorem rotate (h : Chained config ctx.now tables)
    (hrot : Auth.rotate config ctx nextRaw tables session token = .ok (result, tables'))
    (hstored : token ∈ tables.refreshTokens.rows) (howner : session ∈ tables.sessions.rows)
    (howns : session.id = token.sessionId)
    (hsole : ∀ t ∈ tables.refreshTokens.rows, t.sessionId = token.sessionId → Live t →
      t.id = token.id) : Chained config ctx.now tables' := by
  rcases rotate_eq_ok hrot with ⟨-, -, rfl⟩ | ⟨-, hrot⟩
  · exact h
  · exact h.rotated hrot hstored howner howns hsole

theorem refreshWithin (h : Chained config ctx.now tables)
    (hok : Auth.refreshWithin config ctx nextRaw tables rawToken = .ok (result, tables')) :
    Chained config ctx.now tables' := by
  rcases refreshWithin_eq_ok hok with
    ⟨-, -, rfl⟩ | ⟨_, -, -, -, -, rfl⟩ | ⟨token, -, -, -, -, rfl⟩ |
    ⟨token, session, replacement, hstored, -, howner, howns, -, hretry, hrot⟩ |
    ⟨token, session, hstored, -, howner, howns, hlive, hcurrent, hrot⟩
  · exact h
  · exact h
  · exact h.endSessions _ _
  · obtain ⟨_, -, -, -, hreplacement, -, -, hhash⟩ := undeliveredReplacement_eq_some hretry
    -- The replacement was the one live token, and it is revoked before the next is drawn.
    have hnone : ∀ r ∈ (Auth.revokeTokens ctx.now (fun t ↦ t.id = replacement.id)
        tables.refreshTokens).rows, r.sessionId = token.sessionId → ¬ Live r := by
      intro r hr hown hlive
      obtain ⟨t, ht, _, rfl, hrevoked⟩ := of_mem_revokeTokens hr
      obtain ⟨hold, hkept⟩ := hrevoked hlive.2
      have hsame := eq_of_tokenHash ht hreplacement
        ((h.current session howner t ht (hown.trans howns.symm) ⟨hlive.1, hold⟩).trans hhash.symm)
      rw [hsame, decide_eq_false_iff_not] at hkept
      exact hkept rfl
    have hretired := h.revokeTokens fun t ↦ t.id = replacement.id
    have hrest : ∃ revokedAt, Auth.rotate config ctx nextRaw
        { tables with
          refreshTokens := Auth.revokeTokens ctx.now (fun t ↦ t.id = replacement.id)
            tables.refreshTokens } session { token with revokedAt := revokedAt } =
          .ok (result, tables') ∧ { token with revokedAt := revokedAt } ∈
            (Auth.revokeTokens ctx.now (fun t ↦ t.id = replacement.id) tables.refreshTokens).rows := by
      obtain ⟨revokedAt, hmem, -⟩ := mem_revokeTokens ctx.now
        (fun t ↦ t.id = replacement.id) hstored
      exact ⟨revokedAt, hrot, hmem⟩
    obtain ⟨_, hrot, hmem⟩ := hrest
    exact hretired.rotate hrot hmem howner howns fun t ht hown hlive ↦ absurd hlive (hnone t ht hown)
  · refine h.rotate hrot hstored howner howns fun t ht hown hlive ↦ ?_
    rw [eq_of_tokenHash ht hstored
      ((h.current session howner t ht (hown.trans howns.symm) hlive).trans hcurrent.symm)]

theorem revokeSessions (h : Chained config now tables) (p : Session → Bool) (reason : String) :
    Chained config now (Auth.revokeSessions now p reason tables) := by
  rcases revokeSessions_cases now p reason tables with heq | ⟨ends, heq⟩
  · rw [heq]
    exact h
  · rw [heq]
    exact h.endSessions _ _

theorem step {s : Clocked} (h : Chained config s.now s.tables) (call : SessionCall) :
    Chained config (step config s call).now (step config s call).tables := by
  cases call with
  | createSession userId uuid rawToken =>
      rcases committed_cases s.tables
        (Auth.createSession config ⟨s.now, uuid⟩ rawToken s.tables userId) with
        heq | ⟨_, _, hok, heq⟩
      · rw [Auth.step, heq]
        exact h
      · rw [Auth.step, heq]
        refine createSession ?_ hok
        exact h
  | refresh rawToken uuid nextRaw =>
      rcases committed_cases s.tables
        (Auth.refreshWithin config ⟨s.now, uuid⟩ nextRaw s.tables rawToken) with
        heq | ⟨_, _, hok, heq⟩
      · rw [Auth.step, heq]
        exact h
      · rw [Auth.step, heq]
        refine refreshWithin ?_ hok
        exact h
  | logout sessionId => exact h.revokeSessions _ _
  | logoutAll userId => exact h.revokeSessions _ _
  | wait milliseconds => exact h.wait (Int.le_add_of_nonneg_right (Int.natCast_nonneg _))

theorem empty (config : Config) (now : Timestamp) : Chained config now .empty := by
  constructor
  all_goals simp [SessionTables.empty]

theorem run {s : Clocked} (hrun : Reaches (Auth.step config) anyCall ⟨now, .empty⟩ s) :
    Chained config s.now s.tables :=
  hrun.invariant (I := fun s ↦ Chained config s.now s.tables) (empty config now)
    fun _ call h _ ↦ h.step call

end Chained

/-! ## One live token -/

/-- The session has at most one live token, which is its current one, and none at all once it is
over. -/
structure OneLiveToken (tables : SessionTables) (session : Session) : Prop where
  unique : ∀ t ∈ tables.refreshTokens.rows, ∀ t' ∈ tables.refreshTokens.rows,
    t.sessionId = session.id → t'.sessionId = session.id → Live t → Live t' → t = t'
  current : ∀ t ∈ tables.refreshTokens.rows, t.sessionId = session.id → Live t →
    t.tokenHash = session.currentTokenHash
  ended : session.status ≠ .active →
    ∀ t ∈ tables.refreshTokens.rows, t.sessionId = session.id → t.revokedAt ≠ none

/-- **One live refresh token per session**, whatever calls are made in whatever order. -/
theorem one_live_token {s : Clocked} (hrun : Reaches (step config) anyCall ⟨now, .empty⟩ s)
    {session : Session} (hsession : session ∈ s.tables.sessions.rows) :
    OneLiveToken s.tables session := by
  have h := Chained.run hrun
  refine ⟨?_, h.current session hsession, h.ended session hsession⟩
  intro t ht t' ht' hown hown' hlive hlive'
  have hhash := h.current session hsession t ht hown hlive
  have hhash' := h.current session hsession t' ht' hown' hlive'
  exact eq_of_tokenHash ht ht' (hhash.trans hhash'.symm)

/-! ### A session whose client misses an answer -/

section Sample

/-- The identifiers that the call number `n` draws. -/
def sampleIds (n k : Nat) : Uuid := .ofNat (10 * n + k)

/-- The client signs in, refreshes, misses the answer and presents its token once more. -/
def sampleRetry : List SessionCall :=
  [.createSession (.ofNat 1) (sampleIds 1) "first", .refresh "first" (sampleIds 2) "second",
    .wait 1000, .refresh "first" (sampleIds 3) "third"]

/-- Where the calls lead. -/
def sampleSessions (calls : List SessionCall) : Clocked :=
  calls.foldl (step sampleConfig) ⟨0, .empty⟩

end Sample

theorem one_live_token_sample :
    ∃ session ∈ (sampleSessions sampleRetry).tables.sessions.rows,
      OneLiveToken (sampleSessions sampleRetry).tables session ∧
        (sampleSessions sampleRetry).tables.refreshTokens.rows.length = 3 := by
  obtain ⟨session, hsession, -⟩ :
      ∃ session ∈ (sampleSessions sampleRetry).tables.sessions.rows, session.status = .active := by
    decide +kernel
  exact ⟨session, hsession, one_live_token (reaches_foldl _ _ _) hsession, by decide +kernel⟩

/-! ## Reuse -/

/-- Somebody presented the token with the digest while it was stored, and was answered. -/
def Presented (config : Config) (history : List (Clocked × SessionCall)) (hash : String) : Prop :=
  ∃ s rawToken uuid nextRaw, (s, .refresh rawToken uuid nextRaw) ∈ history ∧
    config.digest rawToken = hash ∧ (∃ t ∈ s.tables.refreshTokens.rows, t.tokenHash = hash) ∧
    ∃ answer, refreshWithin config ⟨s.now, uuid⟩ nextRaw s.tables rawToken = .ok answer

/-- Presenting the token again is no theft: it was exchanged for the current one a moment ago, which
nobody has presented yet. -/
structure LostResponse (config : Config) (history : List (Clocked × SessionCall)) (s : Clocked)
    (session : Session) (token : RefreshToken) : Prop where
  predecessor : ∃ current ∈ s.tables.refreshTokens.rows, token.replacedById = some current.id ∧
    current.tokenHash = session.currentTokenHash ∧ ¬ Presented config history current.tokenHash
  recent : ∃ consumedAt, token.consumedAt = some consumedAt ∧
    s.now - consumedAt ≤ config.refreshReuseGraceMs

/-- The session is compromised, and none of its tokens is left. -/
def Compromised (tables : SessionTables) (sessionId : Uuid) : Prop :=
  (∃ s ∈ tables.sessions.rows, s.id = sessionId ∧ s.status = .compromised) ∧
    ∀ t ∈ tables.refreshTokens.rows, t.sessionId = sessionId → t.revokedAt ≠ none

/-- The token is of no more use to anybody. -/
def Spent (now : Timestamp) (t : RefreshToken) : Prop :=
  t.consumedAt ≠ none ∨ t.revokedAt ≠ none ∨ t.expiresAt ≤ now

/-- Tokens stay, and do not come back to life. -/
def Aged (now : Timestamp) (tables : SessionTables) (later : Timestamp) (tables' : SessionTables) :
    Prop :=
  ∀ t ∈ tables.refreshTokens.rows, ∃ t' ∈ tables'.refreshTokens.rows,
    t'.tokenHash = t.tokenHash ∧ (Spent now t → Spent later t')

namespace Aged

theorem refl (now : Timestamp) (tables : SessionTables) : Aged now tables now tables :=
  fun t ht ↦ ⟨t, ht, rfl, id⟩

theorem trans {later : Timestamp} {tables'' : SessionTables} (h : Aged now tables now tables')
    (h' : Aged now tables' later tables'') : Aged now tables later tables'' := by
  intro t ht
  obtain ⟨t', ht', hhash, hspent⟩ := h t ht
  obtain ⟨t'', ht'', hhash', hspent'⟩ := h' t' ht'
  exact ⟨t'', ht'', hhash'.trans hhash, fun h ↦ hspent' (hspent h)⟩

theorem revokeTokens (p : RefreshToken → Bool) (sessions : Table Session) :
    Aged now tables now ⟨sessions, Auth.revokeTokens now p tables.refreshTokens⟩ := by
  intro t ht
  obtain ⟨revokedAt, hmem, hrevoked⟩ := mem_revokeTokens now p ht
  refine ⟨_, hmem, rfl, ?_⟩
  rintro (hconsumed | hgone | hexpired)
  · exact .inl hconsumed
  · exact .inr (.inl fun hnone ↦ hgone (hrevoked hnone).1)
  · exact .inr (.inr hexpired)

theorem createSession
    (h : Auth.createSession config ctx rawToken tables userId = .ok (pair, tables')) :
    Aged now tables now tables' := by
  obtain ⟨-, -, htoken⟩ := createSession_eq_ok h
  intro t ht
  exact ⟨t, by simp [insertRow_eq_ok htoken, ht], rfl, id⟩

theorem rotate (h : Auth.rotate config ctx nextRaw tables session token = .ok (result, tables')) :
    Aged now tables now tables' := by
  rcases rotate_eq_ok h with ⟨-, -, rfl⟩ | ⟨-, hrot⟩
  · exact .refl _ _
  · intro t ht
    refine ⟨_, hrot.mem_refreshTokens ht, ?_⟩
    split
    · exact ⟨rfl, fun _ ↦ .inl (by simp [consume])⟩
    · exact ⟨rfl, id⟩

theorem refreshWithin
    (h : Auth.refreshWithin config ctx nextRaw tables rawToken = .ok (result, tables')) :
    Aged ctx.now tables ctx.now tables' := by
  rcases refreshWithin_eq_ok h with
    ⟨-, -, rfl⟩ | ⟨_, -, -, -, -, rfl⟩ | ⟨_, -, -, -, -, rfl⟩ |
    ⟨_, _, _, -, -, -, -, -, -, hrot⟩ | ⟨_, _, -, -, -, -, -, -, hrot⟩
  · exact .refl _ _
  · exact .refl _ _
  · exact revokeTokens _ _
  · exact (revokeTokens _ _).trans (rotate hrot)
  · exact rotate hrot

theorem revokeSessions (p : Session → Bool) (reason : String) :
    Aged now tables now (Auth.revokeSessions now p reason tables) := by
  rcases revokeSessions_cases now p reason tables with heq | ⟨ends, heq⟩
  · rw [heq]
    exact .refl _ _
  · rw [heq]
    exact revokeTokens _ _

theorem step (config : Config) (s : Clocked) (call : SessionCall) :
    Aged s.now s.tables (step config s call).now (step config s call).tables := by
  cases call with
  | createSession userId uuid rawToken =>
      rcases committed_cases s.tables
        (Auth.createSession config ⟨s.now, uuid⟩ rawToken s.tables userId) with
        heq | ⟨_, _, hok, heq⟩
      · rw [Auth.step, heq]
        exact .refl _ _
      · rw [Auth.step, heq]
        exact createSession hok
  | refresh rawToken uuid nextRaw =>
      rcases committed_cases s.tables
        (Auth.refreshWithin config ⟨s.now, uuid⟩ nextRaw s.tables rawToken) with
        heq | ⟨_, _, hok, heq⟩
      · rw [Auth.step, heq]
        exact .refl _ _
      · rw [Auth.step, heq]
        exact refreshWithin hok
  | logout sessionId => exact revokeSessions _ _
  | logoutAll userId => exact revokeSessions _ _
  | wait milliseconds =>
      intro t ht
      refine ⟨t, ht, rfl, ?_⟩
      rintro (hconsumed | hgone | hexpired)
      · exact .inl hconsumed
      · exact .inr (.inl hgone)
      · exact .inr (.inr (hexpired.trans (Int.le_add_of_nonneg_right (Int.natCast_nonneg _))))

end Aged

/-- A token that is presented is spent by that. -/
theorem spent_of_refreshWithin (h : Chained config ctx.now tables)
    (hok : refreshWithin config ctx nextRaw tables rawToken = .ok (result, tables'))
    (hstored : ∃ t ∈ tables.refreshTokens.rows, t.tokenHash = config.digest rawToken) :
    ∃ t ∈ tables'.refreshTokens.rows, t.tokenHash = config.digest rawToken ∧ Spent ctx.now t := by
  obtain ⟨t, ht, hdigest⟩ := hstored
  rcases refreshWithin_eq_ok hok with
    ⟨hmissing, -, -⟩ | ⟨token, hstored, hhash, hover, -, rfl⟩ | ⟨token, hstored, hhash, -, -, rfl⟩ |
    ⟨token, _, _, hstored, hhash, -, -, ⟨hconsumed, -⟩, -, -⟩ |
    ⟨token, session, hstored, hhash, howner, howns, hlive, -, hrot⟩
  · exact absurd hdigest (hmissing t ht)
  · refine ⟨token, hstored, hhash, .inr ?_⟩
    rcases hover with hrevoked | hexpired
    · exact .inl (Option.isSome_iff_ne_none.mp hrevoked)
    · exact .inr hexpired
  · obtain ⟨revokedAt, hmem, hrevoked⟩ := mem_revokeTokens ctx.now
      (fun t ↦ decide (t.sessionId = token.sessionId)) hstored
    refine ⟨_, hmem, hhash, .inr (.inl fun hnone ↦ ?_)⟩
    simpa using (hrevoked hnone).2
  · obtain ⟨t', ht', hsame, hspent⟩ := Aged.refreshWithin hok token hstored
    exact ⟨t', ht', hsame.trans hhash, hspent (.inl (Option.isSome_iff_ne_none.mp hconsumed))⟩
  · rcases rotate_eq_ok hrot with ⟨hover | hover, -, rfl⟩ | ⟨-, hrot⟩
    · exact absurd hlive.2 (h.ended session howner hover token hstored howns.symm)
    · rw [← h.expiry session howner token hstored howns.symm hlive] at hover
      exact ⟨token, hstored, hhash, .inr (.inr hover)⟩
    · refine ⟨_, hrot.mem_refreshTokens hstored, ?_⟩
      rw [if_pos rfl]
      exact ⟨hhash, .inl (by simp [consume])⟩

/-- Whatever was presented on the way is spent. -/
theorem spent_of_presented {history : List (Clocked × SessionCall)} {s : Clocked}
    (hrun : Traced (step config) anyCall ⟨now, .empty⟩ history s) {hash : String}
    (hpresented : Presented config history hash) :
    ∃ t ∈ s.tables.refreshTokens.rows, t.tokenHash = hash ∧ Spent s.now t := by
  induction hrun with
  | start =>
      obtain ⟨_, _, _, _, hmem, -⟩ := hpresented
      cases hmem
  | @call history s run call _ ih =>
      obtain ⟨s₀, rawToken, uuid, nextRaw, hmem, hdigest, hstored, ⟨result, tables'⟩, hok⟩ :=
        hpresented
      rcases List.mem_append.mp hmem with hmem | hmem
      · obtain ⟨t, ht, hhash, hspent⟩ :=
          ih ⟨s₀, rawToken, uuid, nextRaw, hmem, hdigest, hstored, ⟨result, tables'⟩, hok⟩
        obtain ⟨t', ht', hsame, hage⟩ := Aged.step config s call t ht
        exact ⟨t', ht', hsame.trans hhash, hage hspent⟩
      · cases List.mem_singleton.mp hmem
        rw [step, hok]
        subst hdigest
        refine spent_of_refreshWithin ?_ hok hstored
        exact Chained.run run.reaches

/-- Where the grace of a retry is granted, the response was lost. -/
theorem lostResponse_of_undelivered {history : List (Clocked × SessionCall)} {s : Clocked}
    (hrun : Traced (step config) anyCall ⟨now, .empty⟩ history s)
    (htoken : token ∈ s.tables.refreshTokens.rows) (hunexpired : s.now < token.expiresAt)
    {replacement : RefreshToken}
    (h : undeliveredReplacement config s.now s.tables token session.currentTokenHash =
      some replacement) : LostResponse config history s session token := by
  obtain ⟨consumedAt, hconsumed, hgrace, hreplaced, hmem, hunconsumed, hunrevoked, hcurrent⟩ :=
    undeliveredReplacement_eq_some h
  refine ⟨⟨replacement, hmem, hreplaced, hcurrent, ?_⟩, consumedAt, hconsumed, hgrace⟩
  intro hpresented
  obtain ⟨t, ht, hhash, hspent⟩ := spent_of_presented hrun hpresented
  rw [eq_of_tokenHash ht hmem hhash] at hspent
  obtain ⟨c, hc, hid, hle⟩ := (Chained.run hrun.reaches).replaced token htoken _ hreplaced
  rw [eq_of_token_id hc hmem hid] at hle
  -- The replacement would have to be expired, but the token it replaces is not.
  rcases hspent with hused | hgone | hexpired
  · exact hused hunconsumed
  · exact hgone hunrevoked
  · exact absurd (hle.trans hexpired) (not_le.mpr hunexpired)

/-- An old token that is not revoked gives its session away. -/
theorem refreshWithin_of_reuse (htoken : token ∈ tables.refreshTokens.rows)
    (hhash : token.tokenHash = config.digest rawToken) (hunrevoked : token.revokedAt = none)
    (hunexpired : ctx.now < token.expiresAt) (hsession : session ∈ tables.sessions.rows)
    (hown : session.id = token.sessionId) (hold : token.tokenHash ≠ session.currentTokenHash)
    (hdelivered :
      undeliveredReplacement config ctx.now tables token session.currentTokenHash = none) :
    refreshWithin config ctx nextRaw tables rawToken =
      .ok (.compromised, endSessions ctx.now .compromised "refresh_token_reuse"
        (fun id ↦ id = token.sessionId) tables) := by
  have hfind : (tables.refreshTokens.find? fun t ↦ t.tokenHash = config.digest rawToken) =
      some token := by
    refine tables.refreshTokens.find?_eq_some_of_mem htoken (by simpa using hhash) ?_
    intro t ht h
    refine .inr ⟨rfl, congrArg some ?_⟩
    exact (of_decide_eq_true h).trans hhash.symm
  have howner : (tables.sessions.find? fun s ↦ s.id = token.sessionId) = some session := by
    refine tables.sessions.find?_eq_some_of_mem hsession (by simpa using hown) ?_
    intro s hs h
    exact (of_decide_eq_true h).trans hown.symm
  have hstale : ¬ (token.revokedAt.isSome ∨ token.expiresAt ≤ ctx.now) := by
    simp [hunrevoked, hunexpired]
  have hother : token.consumedAt.isSome ∨ session.currentTokenHash ≠ config.digest rawToken :=
    .inr fun h ↦ hold (hhash.trans h.symm)
  simp only [refreshWithin, hfind, if_neg hstale, howner, orThrow, hdelivered, bind, Except.bind,
    if_pos hother, pure, Except.pure]

theorem compromised_endSessions {reason : String} (hsession : session ∈ tables.sessions.rows) :
    Compromised (endSessions now .compromised reason (fun id ↦ id = session.id) tables)
      session.id := by
  constructor
  · refine ⟨_, mem_endSessions hsession, ?_⟩
    simp [endSession]
  · rintro r hr hown hnone
    obtain ⟨t, -, _, rfl, hrevoked⟩ := of_mem_revokeTokens hr
    simpa [show t.sessionId = session.id from hown] using (hrevoked hnone).2

/-- An active session is not compromised. -/
theorem not_compromised_of_active (hsession : session ∈ tables.sessions.rows)
    (hactive : session.status = .active) : ¬ Compromised tables session.id := by
  rintro ⟨⟨s, hs, hid, hcompromised⟩, -⟩
  rw [eq_of_session_id hs hsession hid, hactive] at hcompromised
  cases hcompromised

/-- **Reuse is noticed, except of a token that was revoked.**  In every run, an unexpired token of an
active session other than its current one, which is not presented again for a lost response,
compromises the session if and only if it is not revoked. -/
theorem reuse_detected_iff {history : List (Clocked × SessionCall)} {s : Clocked}
    (hrun : Traced (step config) anyCall ⟨now, .empty⟩ history s)
    (hsession : session ∈ s.tables.sessions.rows) (hactive : session.status = .active)
    (htoken : token ∈ s.tables.refreshTokens.rows) (hown : token.sessionId = session.id)
    (hunexpired : s.now < token.expiresAt) (hold : token.tokenHash ≠ session.currentTokenHash)
    (hlost : ¬ LostResponse config history s session token)
    (hraw : config.digest rawToken = token.tokenHash) (uuid : Nat → Uuid) (nextRaw : String) :
    Compromised (step config s (.refresh rawToken uuid nextRaw)).tables session.id ↔
      token.revokedAt = none := by
  constructor
  · intro hcompromised
    have hsafe := not_compromised_of_active hsession hactive
    rcases committed_cases s.tables (refreshWithin config ⟨s.now, uuid⟩ nextRaw s.tables rawToken)
      with heq | ⟨_, _, hok, heq⟩
    · rw [step, heq] at hcompromised
      exact absurd hcompromised hsafe
    · rw [step, heq] at hcompromised
      -- Only a token that is not revoked leads further than a refusal.
      rcases refreshWithin_eq_ok hok with
        ⟨-, -, rfl⟩ | ⟨_, -, -, -, -, rfl⟩ | ⟨t, ht, hhash, hunrevoked, -, -⟩ |
        ⟨t, _, _, ht, hhash, -, -, ⟨-, hunrevoked⟩, -, -⟩ | ⟨t, _, ht, hhash, -, -, hlive, -, -⟩
      · exact absurd hcompromised hsafe
      · exact absurd hcompromised hsafe
      · exact eq_of_tokenHash ht htoken (hhash.trans hraw) ▸ hunrevoked
      · exact eq_of_tokenHash ht htoken (hhash.trans hraw) ▸ hunrevoked
      · exact eq_of_tokenHash ht htoken (hhash.trans hraw) ▸ hlive.2
  · intro hunrevoked
    have hdelivered :
        undeliveredReplacement config s.now s.tables token session.currentTokenHash = none := by
      by_contra hne
      obtain ⟨_, hretry⟩ := Option.ne_none_iff_exists'.mp hne
      exact hlost (lostResponse_of_undelivered hrun htoken hunexpired hretry)
    rw [step, refreshWithin_of_reuse htoken hraw.symm hunrevoked hunexpired hsession hown.symm hold
      hdelivered, hown]
    exact compromised_endSessions hsession

/-! ### Reuse that is noticed, and reuse that is not -/

section Sample

/-- The client refreshes twice; somebody else has kept the first token. -/
def sampleTheft : List SessionCall :=
  [.createSession (.ofNat 1) (sampleIds 1) "first", .refresh "first" (sampleIds 2) "second",
    .refresh "second" (sampleIds 3) "third"]

end Sample

theorem reuse_detected_sample : ∃ session ∈ (sampleSessions sampleTheft).tables.sessions.rows,
    Compromised (step sampleConfig (sampleSessions sampleTheft)
      (.refresh "first" (sampleIds 4) "fourth")).tables session.id := by
  obtain ⟨history, hrun⟩ := (reaches_foldl (step sampleConfig) ⟨0, .empty⟩ sampleTheft).exists_traced
  obtain ⟨session, hsession, token, htoken, hactive, hown, hunexpired, hold, hraw, hunrevoked,
      hreplaced⟩ : ∃ session ∈ (sampleSessions sampleTheft).tables.sessions.rows,
        ∃ token ∈ (sampleSessions sampleTheft).tables.refreshTokens.rows,
        session.status = .active ∧ token.sessionId = session.id ∧
        (sampleSessions sampleTheft).now < token.expiresAt ∧
        token.tokenHash ≠ session.currentTokenHash ∧
        sampleConfig.digest "first" = token.tokenHash ∧ token.revokedAt = none ∧
        ∀ c ∈ (sampleSessions sampleTheft).tables.refreshTokens.rows,
          token.replacedById = some c.id → c.tokenHash ≠ session.currentTokenHash := by
    decide +kernel
  refine ⟨session, hsession, ?_⟩
  refine (reuse_detected_iff hrun hsession hactive htoken hown hunexpired hold ?_ hraw _ _).mpr
    hunrevoked
  rintro ⟨⟨c, hc, hid, hcurrent, -⟩, -⟩
  exact hreplaced c hc hid hcurrent

/-- The answer that carried the second token did arrive, but somewhere else: once the client has
been given a third one, presenting the second goes unnoticed. -/
theorem retired_token_unnoticed :
    ¬ ∀ (config : Config) (now : Timestamp) (history : List (Clocked × SessionCall)) (s : Clocked)
      (session : Session) (token : RefreshToken) (rawToken : String) (uuid : Nat → Uuid)
      (nextRaw : String), Traced (step config) anyCall ⟨now, .empty⟩ history s →
      session ∈ s.tables.sessions.rows → session.status = .active →
      token ∈ s.tables.refreshTokens.rows → token.sessionId = session.id →
      s.now < token.expiresAt → token.tokenHash ≠ session.currentTokenHash →
      ¬ LostResponse config history s session token → config.digest rawToken = token.tokenHash →
      Compromised (step config s (.refresh rawToken uuid nextRaw)).tables session.id := by
  intro h
  obtain ⟨history, hrun⟩ := (reaches_foldl (step sampleConfig) ⟨0, .empty⟩ sampleRetry).exists_traced
  obtain ⟨session, hsession, token, htoken, hactive, hown, hunexpired, hold, hraw, hunreplaced,
      hstill⟩ : ∃ session ∈ (sampleSessions sampleRetry).tables.sessions.rows,
        ∃ token ∈ (sampleSessions sampleRetry).tables.refreshTokens.rows,
        session.status = .active ∧ token.sessionId = session.id ∧
        (sampleSessions sampleRetry).now < token.expiresAt ∧
        token.tokenHash ≠ session.currentTokenHash ∧
        sampleConfig.digest "second" = token.tokenHash ∧ token.replacedById = none ∧
        session ∈ (step sampleConfig (sampleSessions sampleRetry)
          (.refresh "second" (sampleIds 4) "fourth")).tables.sessions.rows := by
    decide +kernel
  refine not_compromised_of_active hstill hactive
    (h sampleConfig 0 history _ session token "second" (sampleIds 4) "fourth" hrun hsession hactive
      htoken hown hunexpired hold ?_ hraw)
  rintro ⟨⟨c, -, hreplaced, -⟩, -⟩
  rw [hunreplaced] at hreplaced
  cases hreplaced

end AjoCloud.Auth
