import AjoCloud.Auth.Requests

/-!
# Password resets

A reset ends the sessions there are when it commits.  A sign-in takes two steps, of which the first
checks the password and the second opens the session; a reset may come between them.
-/

namespace AjoCloud.Auth

open Lib

variable {config : Config} {o : Inputs} {s s' : Store} {w : Watched} {t : Request}
  {userId sessionId : Uuid} {events : List Event}

/-! ## A session that is over -/

/-- Nobody can use the session, and nobody can refresh it. -/
structure SignedOut (config : Config) (s : Store) (sessionId : Uuid) : Prop where
  inactive : ∀ x ∈ s.sessions.sessions.rows, x.id = sessionId → x.status ≠ .active
  unusable : ∀ now claims user, claims.sid = sessionId → canActivate now s claims ≠ .ok user
  unrefreshable : ∀ ctx nextRaw rawToken raw userId tables,
    refreshWithin config ctx nextRaw s.sessions rawToken ≠ .ok (.rotated raw userId sessionId, tables)

/-- The guard and `refresh` both look at the status. -/
theorem signedOut_of_inactive
    (h : ∀ x ∈ s.sessions.sessions.rows, x.id = sessionId → x.status ≠ .active) :
    SignedOut config s sessionId := by
  refine ⟨h, ?_, ?_⟩
  · rintro now claims user rfl hok
    simp only [canActivate, bind_eq_ok, require_eq_ok, orThrow_eq_ok, exists_const] at hok
    obtain ⟨-, x, hfind, _, -, ⟨-, hactive, -⟩, -⟩ := hok
    exact h x (Table.mem_of_find? hfind) (by simpa using Table.prop_of_find? hfind) hactive
  · intro ctx nextRaw rawToken raw userId tables hok
    rcases refreshWithin_eq_ok hok with
      ⟨-, hresult, -⟩ | ⟨_, -, -, -, hresult, -⟩ | ⟨_, -, -, -, hresult, -⟩ |
      ⟨token, session, _, -, -, howner, howns, -, -, hrotate⟩ |
      ⟨token, session, -, -, howner, howns, -, -, hrotate⟩
    · cases hresult
    · cases hresult
    · cases hresult
    · rcases rotate_eq_ok hrotate with ⟨-, hresult, -⟩ | ⟨hresult, hrot⟩
      · cases hresult
      · cases hresult
        exact h session howner howns hrot.active
    · rcases rotate_eq_ok hrotate with ⟨-, hresult, -⟩ | ⟨hresult, hrot⟩
      · cases hresult
      · cases hresult
        exact h session howner howns hrot.active

/-! ## What is kept -/

/-- The user's password, as it is now, is the one that was presented. -/
def Accepts (config : Config) (s : Store) (userId : Uuid) (password : String) : Prop :=
  ∃ c ∈ s.credentials.rows, c.userId = userId ∧ config.verify c.passwordHash password = true

instance (config : Config) (s : Store) (userId : Uuid) (password : String) :
    Decidable (Accepts config s userId password) :=
  inferInstanceAs (Decidable (∃ c ∈ s.credentials.rows,
    c.userId = userId ∧ config.verify c.passwordHash password = true))

/-- A sign-in by password opens its session only while the password is still the user's. -/
def StillAccepted (config : Config) (s : Store) : Request → Prop
  | .openSession userId (.password password) => Accepts config s userId password
  | _ => True

instance (config : Config) (s : Store) (t : Request) : Decidable (StillAccepted config s t) := by
  unfold StillAccepted
  split <;> infer_instance

/-- What is remembered of the sessions is true of them. -/
structure Remembered (config : Config) (w : Watched) : Prop where
  /-- A session that was opened is there, and is its user's. -/
  opened : ∀ id userId how, .opened id userId how ∈ w.log →
    (∃ x ∈ w.store.sessions.sessions.rows, x.id = id) ∧
      ∀ x ∈ w.store.sessions.sessions.rows, x.id = id → x.userId = userId
  /-- One that was opened with a password is active only as long as that is the user's. -/
  accepted : ∀ id userId password, .opened id userId (.password password) ∈ w.log →
    ∀ x ∈ w.store.sessions.sessions.rows, x.id = id → x.status = .active →
      Accepts config w.store userId password
  /-- One from before a reset of its user's password is there, and is over. -/
  reset : ∀ userId ids, .reset userId ids ∈ w.log → ∀ id ∈ ids,
    (∃ x ∈ w.store.sessions.sessions.rows, x.id = id) ∧
      ∀ x ∈ w.store.sessions.sessions.rows, x.id = id → x.status ≠ .active

namespace Remembered

/-- A step after which no session is more active than before, and which leaves the passwords that
active sessions were opened with. -/
theorem ends (h : Remembered config w) {events : List Event}
    (hends : OnlyEnds w.store.sessions s'.sessions)
    (hopened : ∀ id userId how, .opened id userId how ∉ events)
    (hreset : ∀ userId ids, .reset userId ids ∈ events → ∀ id ∈ ids,
      (∃ x ∈ w.store.sessions.sessions.rows, x.id = id) ∧
        ∀ x ∈ s'.sessions.sessions.rows, x.id = id → x.status ≠ .active)
    (hcredentials : ∀ x ∈ s'.sessions.sessions.rows, x.status = .active → ∀ password,
      Accepts config w.store x.userId password → Accepts config s' x.userId password) :
    Remembered config ⟨s', events ++ w.log⟩ where
  opened id userId how hmem := by
    obtain ⟨⟨x, hx, hid⟩, hown⟩ := h.opened id userId how
      ((List.mem_append.mp hmem).resolve_left (hopened id userId how))
    refine ⟨?_, fun x hx hid ↦ ?_⟩
    · obtain ⟨x', hx', hid'⟩ := hends.stay x hx
      exact ⟨x', hx', hid'.trans hid⟩
    · obtain ⟨y, hy, hyid, hyown, -⟩ := hends.old x hx
      exact hyown.symm.trans (hown y hy (hyid.trans hid))
  accepted id userId password hmem x hx hid hactive := by
    have hlog := (List.mem_append.mp hmem).resolve_left (hopened _ _ _)
    obtain ⟨y, hy, hyid, hyown, hyactive⟩ := hends.old x hx
    have hown := (h.opened id userId _ hlog).2 y hy (hyid.trans hid)
    have haccepts := h.accepted id userId password hlog y hy (hyid.trans hid) (hyactive hactive)
    rw [← hown, hyown] at haccepts ⊢
    exact hcredentials x hx hactive password haccepts
  reset userId ids hmem id hid := by
    rcases List.mem_append.mp hmem with hnew | hlog
    · obtain ⟨⟨x, hx, hxid⟩, hover⟩ := hreset userId ids hnew id hid
      obtain ⟨x', hx', hid'⟩ := hends.stay x hx
      exact ⟨⟨x', hx', hid'.trans hxid⟩, hover⟩
    · obtain ⟨⟨x, hx, hxid⟩, hover⟩ := h.reset userId ids hlog id hid
      refine ⟨?_, fun x hx hxid hactive ↦ ?_⟩
      · obtain ⟨x', hx', hid'⟩ := hends.stay x hx
        exact ⟨x', hx', hid'.trans hxid⟩
      · obtain ⟨y, hy, hyid, -, hyactive⟩ := hends.old x hx
        exact hover y hy (hyid.trans hxid) (hyactive hactive)

/-- A step that leaves the sessions alone and adds passwords at most. -/
theorem same (h : Remembered config w) {events : List Event}
    (hsessions : s'.sessions = w.store.sessions)
    (hcredentials : ∀ c ∈ w.store.credentials.rows, c ∈ s'.credentials.rows)
    (hopened : ∀ id userId how, .opened id userId how ∉ events)
    (hreset : ∀ userId ids, .reset userId ids ∉ events) :
    Remembered config ⟨s', events ++ w.log⟩ := by
  refine h.ends ?_ hopened (fun userId ids hmem ↦ absurd hmem (hreset userId ids)) ?_
  · rw [hsessions]
    exact .refl _
  · rintro x - - password ⟨c, hc, haccepts⟩
    exact ⟨c, hcredentials c hc, haccepts⟩

/-- A new session is opened. -/
theorem opens (h : Remembered config w) {how : SignIn} {tables : SessionTables}
    (hsession : insertRow w.store.sessions.sessions (newSession config o.ctx o.rawToken userId) =
      .ok tables.sessions)
    (htakes : StillAccepted config w.store (.openSession userId how)) :
    Remembered config
      ⟨{ w.store with sessions := tables }, .opened (o.uuid 0) userId how :: w.log⟩ := by
  have hrows := insertRow_eq_ok hsession
  have hfresh := not_clash_of_insertRow hsession
  have hnew : ∀ x ∈ tables.sessions.rows, x ∈ w.store.sessions.sessions.rows ∨
      x = newSession config o.ctx o.rawToken userId := by
    intro x hx
    rw [hrows, List.mem_append, List.mem_singleton] at hx
    exact hx
  have hold : ∀ x ∈ w.store.sessions.sessions.rows, x ∈ tables.sessions.rows := by
    intro x hx
    rw [hrows]
    exact List.mem_append_left _ hx
  -- A session that is remembered is not the new one.
  have hother : ∀ id, (∃ x ∈ w.store.sessions.sessions.rows, x.id = id) → id ≠ o.uuid 0 := by
    rintro id ⟨x, hx, rfl⟩ heq
    exact hfresh x hx heq
  constructor
  · intro id owner how' hmem
    rcases List.mem_cons.mp hmem with heq | hlog
    · cases heq
      refine ⟨⟨_, hrows ▸ List.mem_append_right _ (List.mem_singleton_self _), rfl⟩, ?_⟩
      intro x hx hid
      rcases hnew x hx with hx | rfl
      · exact absurd hid (hfresh x hx)
      · rfl
    · obtain ⟨hstored, hown⟩ := h.opened id owner how' hlog
      refine ⟨hstored.imp fun x hx ↦ ⟨hold x hx.1, hx.2⟩, fun x hx hid ↦ ?_⟩
      rcases hnew x hx with hx | rfl
      · exact hown x hx hid
      · exact absurd hid.symm (hother id hstored)
  · intro id owner password hmem x hx hid hactive
    rcases List.mem_cons.mp hmem with heq | hlog
    · cases heq
      exact htakes
    · rcases hnew x hx with hx | rfl
      · exact h.accepted id owner password hlog x hx hid hactive
      · exact absurd hid.symm (hother id (h.opened id owner _ hlog).1)
  · intro owner ids hmem id hid
    have hlog := (List.mem_cons.mp hmem).resolve_left (by simp)
    obtain ⟨hstored, hover⟩ := h.reset owner ids hlog id hid
    refine ⟨hstored.imp fun x hx ↦ ⟨hold x hx.1, hx.2⟩, fun x hx hxid ↦ ?_⟩
    rcases hnew x hx with hx | rfl
    · exact hover x hx hxid
    · exact absurd hxid.symm (hother id hstored)

end Remembered

/-! ## The reset itself -/

theorem onlyEnds_resetSession {now : Timestamp} {tables : SessionTables} :
    OnlyEnds tables { tables with
      sessions := tables.sessions.modify (fun _ ↦ true) (resetSession now userId)
        clash_of_resetSession } := by
  refine .map (f := resetSession now userId) (by simp) fun y ↦ ?_
  unfold resetSession
  split
  · exact ⟨rfl, rfl, by simp [endSession]⟩
  · exact ⟨rfl, rfl, id⟩

/-- After a reset no session of the user is active. -/
theorem not_active_of_resetSession {now : Timestamp} {tables : SessionTables} {x : Session}
    (hx : x ∈ (tables.sessions.modify (fun _ ↦ true) (resetSession now userId)
      clash_of_resetSession).rows) (hown : x.userId = userId) : x.status ≠ .active := by
  rw [Table.rows_modify, List.mem_map] at hx
  obtain ⟨y, -, rfl⟩ := hx
  rw [if_pos rfl] at hown ⊢
  unfold resetSession at hown ⊢
  split
  · simp [endSession]
  · next hother =>
      rw [if_neg hother] at hown
      exact fun hactive ↦ hother ⟨hown, hactive⟩

/-! ## Every run -/

theorem Remembered.effect (h : Remembered config w) (heffect : Effect config o w.store t s' events)
    (htakes : StillAccepted config w.store t) : Remembered config ⟨s', events ++ w.log⟩ := by
  cases heffect with
  | none => exact h
  | challenges => exact h.same rfl (fun _ ↦ id) (by simp) (by simp)
  | identities => exact h.same rfl (fun _ ↦ id) (by simp) (by simp)
  | sessions t tables ends => exact h.ends ends (by simp) (by simp) fun _ _ _ _ ↦ id
  | opened userId how tables session => exact h.opens session htakes
  | registered _ _ _ _ _ credentials sessions =>
      refine h.same sessions (fun c hc ↦ ?_) (by simp) (by simp)
      rw [insertRow_eq_ok credentials]
      exact List.mem_append_left _ hc
  | verified => exact h.same rfl (fun _ ↦ id) (by simp) (by simp)
  | reset _ challengeId code passwordHash challenge _ _ challenges credentials upsert =>
      refine h.ends onlyEnds_resetSession (by simp) ?_ ?_
      · simp only [List.mem_cons, reduceCtorEq, false_or, List.not_mem_nil, or_false,
          Event.reset.injEq]
        rintro userId ids ⟨rfl, rfl⟩ id hid
        simp only [sessionIdsOf, List.mem_map, Table.mem_findMany, decide_eq_true_eq] at hid
        obtain ⟨x, ⟨hx, hown⟩, rfl⟩ := hid
        refine ⟨⟨x, hx, rfl⟩, fun x' hx' hid' ↦ not_active_of_resetSession hx' ?_⟩
        obtain ⟨y, hy, hyid, hyown, -⟩ := onlyEnds_resetSession.old x' hx'
        rw [← hyown, w.store.sessions.sessions.eq_of_clash hy hx (hyid.trans hid'), hown]
      · rintro x hx hactive password ⟨c, hc, hown, hverify⟩
        refine ⟨c, mem_upsertCredential upsert hc ?_, hown, hverify⟩
        rw [hown]
        exact fun heq ↦ not_active_of_resetSession hx heq hactive
  | linked => exact h.same rfl (fun _ ↦ id) (by simp) (by simp)
  | createdGoogle _ _ _ _ _ credentials sessions =>
      exact h.same sessions (fun c hc ↦ credentials ▸ hc) (by simp) (by simp)
  | invited _ _ _ _ _ _ credentials sessions =>
      refine h.same sessions (fun c hc ↦ ?_) (by simp) (by simp)
      rw [insertRow_eq_ok credentials]
      exact List.mem_append_left _ hc
  | statusSet => exact h.same rfl (fun _ ↦ id) (by simp) (by simp)

/-- **A reset ends every earlier sign-in**, as long as no session is opened with a password that was
replaced after it had been checked.  Sessions from before the reset are over for good; so are those
that were opened with a password that is no longer the user's. -/
theorem reset_ends_sign_ins {p q : Pool Watched Request} (h₀ : p.shared.log = [])
    (hrun : Reaches (Pool.advance (watch config))
      (Pool.Admitted (fun _ t ↦ t.isCall = true) fun _ w t ↦ StillAccepted config w.store t) p q) :
    (∀ userId ids, .reset userId ids ∈ q.shared.log → ∀ id ∈ ids,
        SignedOut config q.shared.store id) ∧
      ∀ id userId password, .opened id userId (.password password) ∈ q.shared.log →
        ¬ Accepts config q.shared.store userId password → SignedOut config q.shared.store id := by
  have h : Remembered config q.shared := by
    refine Pool.invariant_of_steps hrun ⟨?_, ?_, ?_⟩ fun o w t hw htakes ↦ ?_
    · simp [h₀]
    · simp [h₀]
    · simp [h₀]
    · exact hw.effect (exec_effect config o w.store t) htakes
  constructor
  · intro userId ids hmem id hid
    exact signedOut_of_inactive (h.reset userId ids hmem id hid).2
  · intro id userId password hmem hrejected
    refine signedOut_of_inactive fun x hx hxid hactive ↦ ?_
    exact hrejected (h.accepted id userId password hmem x hx hxid hactive)

/-! ### A sign-in that is slow -/

section Sample

/-- A user registers, verifies the address and signs in; then they ask for a reset. -/
def sampleSignIns : List (Move Request Inputs) :=
  sampleMoves 1 [.register 1 sampleDto "hash of secret", .verifyEmail 1 (.ofNat 100) "481511",
    .login "ada@mail.com" "secret", .requestReset "ada@mail.com"]

/-- The reset, with the code that was sent. -/
def sampleReset : Request := .completeReset 1 (.ofNat 1600) "4815116" "hash of other"

/-- They reset the password, and sign in with the new one. -/
def samplePromptly : List (Move Request Inputs) :=
  sampleMoves 17 [sampleReset, .login "ada@mail.com" "other"]

/-- Somebody who knows the old password signs in while it is reset. -/
def sampleMeanwhile : List (Move Request Inputs) :=
  [.spawn (.login "ada@mail.com" "secret"), .run 0 (sampleInputs 17), .spawn sampleReset,
    .run 1 (sampleInputs 18), .run 0 (sampleInputs 19)]

/-- Where the moves lead after the sign-ins. -/
def sampleResetRun (moves : List (Move Request Inputs)) : Pool Watched Request :=
  (sampleSignIns ++ moves).foldl (Pool.advance (watch sampleConfig)) ⟨⟨.empty, []⟩, []⟩

end Sample

/-- The session from before the reset is over, and so is the one that the old password opened. -/
theorem reset_ends_sign_ins_sample :
    SignedOut sampleConfig (sampleResetRun samplePromptly).shared.store (.ofNat 600) ∧
      SignedOut sampleConfig (sampleResetRun samplePromptly).shared.store (.ofNat 1000) := by
  have hrun : Reaches (Pool.advance (watch sampleConfig))
      (Pool.Admitted (fun _ t ↦ t.isCall = true) fun _ w t ↦ StillAccepted sampleConfig w.store t)
      ⟨⟨.empty, []⟩, []⟩ (sampleResetRun samplePromptly) :=
    reaches_of_allAdmitted (by decide +kernel)
  obtain ⟨hended, hopened⟩ := reset_ends_sign_ins rfl hrun
  have hreset : .reset (.ofNat 100) [.ofNat 600, .ofNat 1000] ∈
      (sampleResetRun samplePromptly).shared.log := by decide +kernel
  have hsignedIn : .opened (.ofNat 1000) (.ofNat 100) (.password "secret") ∈
      (sampleResetRun samplePromptly).shared.log := by decide +kernel
  exact ⟨hended _ _ hreset _ (by simp), hopened _ _ _ hsignedIn (by decide +kernel)⟩

/-- The session of the slow sign-in is opened after the reset. -/
theorem sign_in_survives_reset :
    ¬ ∀ (config : Config) (p q : Pool Watched Request), p.shared.log = [] →
      Reaches (Pool.advance (watch config))
        (Pool.Admitted (fun _ t ↦ t.isCall = true) fun _ _ _ ↦ True) p q →
      ∀ id userId password, .opened id userId (.password password) ∈ q.shared.log →
        ¬ Accepts config q.shared.store userId password → SignedOut config q.shared.store id := by
  intro h
  have hsignedOut := h sampleConfig ⟨⟨.empty, []⟩, []⟩ (sampleResetRun sampleMeanwhile) rfl
    (reaches_of_allAdmitted (by decide +kernel)) (.ofNat 1900) (.ofNat 100) "secret"
    (by decide +kernel) (by decide +kernel)
  obtain ⟨x, hx, hid, hactive⟩ :
      ∃ x ∈ (sampleResetRun sampleMeanwhile).shared.store.sessions.sessions.rows,
        x.id = .ofNat 1900 ∧ x.status = .active := by decide +kernel
  exact hsignedOut.inactive x hx hid hactive

end AjoCloud.Auth
