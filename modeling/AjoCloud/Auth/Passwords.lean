import AjoCloud.Auth.Requests

/-!
# Whose password it is

Anybody can register an address with a password of their own.  The account opens once it is active,
which somebody else may have brought about.
-/

namespace AjoCloud.Auth

open Lib

variable {config : Config} {o : Inputs} {s s' : Store} {w : Watched} {t : Request} {userId : Uuid}
  {log events : List Event} {caller : Principal}

/-! ## Choices and proofs -/

/-- Who chooses the password of the user by this. -/
def Event.choiceOf (userId : Uuid) : Event → Option Principal
  | .chose caller target => if target = userId then some caller else none
  | _ => none

/-- Who chose the password that the user has now, and what happened since. -/
def choice (userId : Uuid) : List Event → Option (Principal × List Event)
  | [] => none
  | e :: log =>
      match e.choiceOf userId with
      | some caller => some (caller, [])
      | none => (choice userId log).map fun (caller, since) ↦ (caller, e :: since)

/-- Whoever chose the password has proved, by that or since, that the mailbox is theirs. -/
def Vouched (userId : Uuid) (log : List Event) : Prop :=
  ∃ p ∈ choice userId log, .proved p.1 userId ∈ p.2

instance (userId : Uuid) (log : List Event) : Decidable (Vouched userId log) :=
  inferInstanceAs (Decidable (∃ p ∈ choice userId log, .proved p.1 userId ∈ p.2))

/-- The caller chose the password. -/
def ChoseIt (caller : Principal) (userId : Uuid) (log : List Event) : Prop :=
  ∃ p ∈ choice userId log, p.1 = caller

instance (caller : Principal) (userId : Uuid) (log : List Event) :
    Decidable (ChoseIt caller userId log) :=
  inferInstanceAs (Decidable (∃ p ∈ choice userId log, p.1 = caller))

/-- Something that chooses no password for the user leaves the choice, and adds to what happened. -/
theorem choice_append (h : ∀ e ∈ events, e.choiceOf userId = none) :
    choice userId (events ++ log) = (choice userId log).map fun (caller, since) ↦
      (caller, events ++ since) := by
  induction events with
  | nil => simp
  | cons e events ih =>
      rw [List.forall_mem_cons] at h
      rw [List.cons_append, choice, h.1, ih h.2]
      simp [Function.comp_def]

theorem Vouched.append (hv : Vouched userId log) (h : ∀ e ∈ events, e.choiceOf userId = none) :
    Vouched userId (events ++ log) := by
  obtain ⟨⟨caller, since⟩, hchoice, hproved⟩ := hv
  refine ⟨(caller, events ++ since), ?_, List.mem_append_right _ hproved⟩
  rw [choice_append h, Option.mem_def.mp hchoice]
  rfl

theorem Vouched.proved {target : Uuid} (hv : Vouched userId log) :
    Vouched userId (.proved caller target :: log) := by
  have h : ∀ e ∈ [Event.proved caller target], e.choiceOf userId = none := by simp [Event.choiceOf]
  exact hv.append h

/-- Whoever chose the password proves that the mailbox is theirs. -/
theorem ChoseIt.vouched (hc : ChoseIt caller userId log) :
    Vouched userId (.proved caller userId :: log) := by
  obtain ⟨⟨chooser, since⟩, hchoice, rfl⟩ := hc
  refine ⟨(chooser, .proved chooser userId :: since), ?_, List.mem_cons_self⟩
  simp [choice, Event.choiceOf, Option.mem_def.mp hchoice]

/-- A password that is chosen by way of the mailbox. -/
theorem vouched_of_mailbox (rest : List Event) :
    Vouched userId (.proved caller userId :: .chose caller userId :: rest) := by
  refine ⟨(caller, [.proved caller userId]), ?_, List.mem_cons_self⟩
  simp [choice, Event.choiceOf]

/-! ## What is kept -/

/-- The caller may activate the account of the user: it has no password, or its password is theirs,
or somebody has vouched for it already. -/
def MayActivate (w : Watched) (caller : Principal) (userId : Uuid) : Prop :=
  ∀ c ∈ w.store.credentials.rows, c.userId = userId →
    ChoseIt caller userId w.log ∨ Vouched userId w.log

instance (w : Watched) (caller : Principal) (userId : Uuid) :
    Decidable (MayActivate w caller userId) :=
  inferInstanceAs (Decidable (∀ c ∈ w.store.credentials.rows, c.userId = userId →
    ChoseIt caller userId w.log ∨ Vouched userId w.log))

/-- An operator activates an account. -/
def activatesByOperator : Request → Bool
  | .setStatus _ .active => true
  | _ => false

/-- Whoever redeems a code for the address, or links the account to Google, may activate it; operators
activate nothing. -/
def OwnActivation (config : Config) (o : Inputs) (w : Watched) : Request → Prop
  | .verifyEmail caller userId code =>
      ∀ c ∈ findNewest w.store.challenges (openEmail userId),
        validateChallenge config o.now c code = .accepted → MayActivate w caller userId
  | .linkGoogle caller claims email userId _ =>
      (∀ i ∈ w.store.identities.rows,
        ¬ Schema.Clash i ⟨o.uuid 0, userId, claims.sub, some email, some o.now⟩) →
      MayActivate w caller userId
  | .setStatus _ status => status ≠ .active
  | _ => True

instance (config : Config) (o : Inputs) (w : Watched) (t : Request) :
    Decidable (OwnActivation config o w t) := by
  unfold OwnActivation
  split <;> infer_instance

/-- A password is vouched for, or of an account that is not active. -/
def Guarded (w : Watched) : Prop :=
  ∀ c ∈ w.store.credentials.rows,
    Vouched c.userId w.log ∨ ∃ u ∈ w.store.db.users.rows, u.id = c.userId ∧ u.status ≠ .active

namespace Guarded

/-- A step that writes no password, chooses none, and activates no account. -/
theorem same (h : Guarded w) (hcredentials : ∀ c ∈ s'.credentials.rows, c ∈ w.store.credentials.rows)
    (husers : ∀ u ∈ w.store.db.users.rows, u ∈ s'.db.users.rows)
    (hevents : ∀ e ∈ events, ∀ userId, e.choiceOf userId = none) :
    Guarded ⟨s', events ++ w.log⟩ := by
  intro c hc
  rcases h c (hcredentials c hc) with hvouched | ⟨u, hu, hid, hstatus⟩
  · exact .inl (hvouched.append fun e he ↦ hevents e he _)
  · exact .inr ⟨u, husers u hu, hid, hstatus⟩

/-- Another user's status may be written. -/
theorem mem_setStatus {target : Uuid} {status : UserStatus} {u : User}
    (hu : u ∈ s.db.users.rows) (hne : u.id ≠ target) :
    u ∈ (setStatus target status s).db.users.rows :=
  List.mem_map.mpr ⟨u, hu, if_neg (by simpa using hne)⟩

/-- An account is activated by somebody who may do so. -/
theorem activated (h : Guarded w) {caller : Principal} {target : Uuid} {verifiedAt : Timestamp}
    (hstore : s'.credentials = w.store.credentials) (husers : s'.db.users = w.store.db.users)
    (hmay : MayActivate w caller target) :
    Guarded ⟨activate target verifiedAt s', .proved caller target :: w.log⟩ := by
  intro c hc
  change c ∈ s'.credentials.rows at hc
  rw [hstore] at hc
  by_cases hown : c.userId = target
  · rcases hmay c hc hown with hchose | hvouched
    · exact .inl (hown ▸ hchose.vouched)
    · exact .inl (hown ▸ hvouched.proved)
  · rcases h c hc with hvouched | ⟨u, hu, hid, hstatus⟩
    · exact .inl hvouched.proved
    · refine .inr ⟨u, ?_, hid, hstatus⟩
      exact mem_setStatus (husers ▸ hu) (hid ▸ hown)

/-- A new account comes with a password of its own. -/
theorem created (h : Guarded w) {u : User} {c₀ : UserCredential}
    (husers : insertRow w.store.db.users u = .ok s'.db.users)
    (hcredentials : insertRow w.store.credentials c₀ = .ok s'.credentials)
    (hown : c₀.userId = u.id)
    (hevents : ∀ e ∈ events, ∀ userId, userId ≠ u.id → e.choiceOf userId = none)
    (hnew : Vouched u.id (events ++ w.log) ∨ u.status ≠ .active) :
    Guarded ⟨s', events ++ w.log⟩ := by
  intro c hc
  change c ∈ s'.credentials.rows at hc
  rw [insertRow_eq_ok hcredentials, List.mem_append, List.mem_singleton] at hc
  have hrows := insertRow_eq_ok husers
  rcases hc with hc | rfl
  · have hne : c.userId ≠ u.id := fun heq ↦
      not_clash_of_insertRow hcredentials c hc (.inr ⟨rfl, congrArg some (heq.trans hown.symm)⟩)
    rcases h c hc with hvouched | ⟨x, hx, hid, hstatus⟩
    · exact .inl (hvouched.append fun e he ↦ hevents e he _ hne)
    · exact .inr ⟨x, hrows ▸ List.mem_append_left _ hx, hid, hstatus⟩
  · rcases hnew with hvouched | hstatus
    · exact .inl (hown ▸ hvouched)
    · exact .inr ⟨u, hrows ▸ List.mem_append_right _ (List.mem_singleton_self _), hown.symm, hstatus⟩

/-- A reset comes through the mailbox, and writes the password of one user. -/
theorem reset (h : Guarded w) {passwordHash : String} {sessionIds : List Uuid}
    {credentials : Table UserCredential} {verifiedAt : Timestamp}
    (hupsert : upsertCredential o userId passwordHash w.store.credentials = .ok credentials)
    (hcredentials : s'.credentials = credentials) (husers : s'.db.users = w.store.db.users) :
    Guarded ⟨activate userId verifiedAt s',
      [.proved caller userId, .chose caller userId, .reset userId sessionIds] ++ w.log⟩ := by
  intro c hc
  change c ∈ s'.credentials.rows at hc
  by_cases hown : c.userId = userId
  · exact .inl (hown ▸ vouched_of_mailbox _)
  · rcases h c (of_mem_upsertCredential hupsert (hcredentials ▸ hc) hown) with
      hvouched | ⟨u, hu, hid, hstatus⟩
    · refine .inl (hvouched.append ?_)
      simp [Event.choiceOf, Ne.symm hown]
    · exact .inr ⟨u, mem_setStatus (husers ▸ hu) (hid ▸ hown), hid, hstatus⟩

theorem setStatus (h : Guarded w) {target : Uuid} {status : UserStatus}
    (hstatus : status ≠ .active) : Guarded ⟨Auth.setStatus target status w.store, w.log⟩ := by
  intro c hc
  rcases h c hc with hvouched | ⟨u, hu, hid, hpending⟩
  · exact .inl hvouched
  · refine .inr ⟨_, List.mem_map_of_mem hu, ?_⟩
    split
    · exact ⟨hid, hstatus⟩
    · exact ⟨hid, hpending⟩

/-! ## Every run -/

theorem effect (h : Guarded w) (heffect : Effect config o w.store t s' events)
    (htakes : OwnActivation config o w t) : Guarded ⟨s', events ++ w.log⟩ := by
  cases heffect with
  | none => exact h
  | challenges => exact h
  | identities => exact h
  | sessions => exact h
  | opened =>
      refine h.same (fun _ ↦ id) (fun _ ↦ id) ?_
      simp [Event.choiceOf]
  | registered _ dto _ _ users credentials _ =>
      refine h.created users credentials rfl ?_ (.inr (by simp [newUser]))
      intro e he userId hne
      rw [List.mem_singleton.mp he]
      exact if_neg (Ne.symm hne)
  | verified caller target code challenge found valid _ =>
      exact h.activated rfl rfl (htakes challenge found valid)
  | reset caller _ _ _ challenge _ _ _ _ upsert => exact h.reset upsert rfl rfl
  | linked caller _ _ target _ _ identity =>
      exact h.activated rfl rfl (htakes (not_clash_of_insertRow identity))
  | createdGoogle _ _ _ _ users credentials _ =>
      refine h.same (fun c hc ↦ credentials ▸ hc) (fun u hu ↦ ?_) ?_
      · rw [insertRow_eq_ok users]
        exact List.mem_append_left _ hu
      · simp [Event.choiceOf]
  | invited caller _ _ _ _ users credentials _ =>
      refine h.created users credentials rfl ?_ (.inl (vouched_of_mailbox _))
      intro e he userId hne
      simp only [List.mem_cons, List.not_mem_nil, or_false] at he
      rcases he with rfl | rfl
      · rfl
      · exact if_neg (Ne.symm hne)
  | statusSet => exact h.setStatus htakes

/-- An account that a password opens is active, so its password is vouched for. -/
theorem login (h : Guarded w) {email password : String}
    (hok : Auth.login config w.store email password = .ok userId) : Vouched userId w.log := by
  simp only [Auth.login, bind_eq_ok, require_eq_ok, orThrow_eq_ok, exists_const, pure_eq_ok] at hok
  obtain ⟨u, hfind, ⟨hvalid, hactive⟩, rfl⟩ := hok
  split at hvalid
  · next c hc =>
      have hown : c.userId = u.id := by simpa using Table.prop_of_find? hc
      rcases h c (Table.mem_of_find? hc) with hvouched | ⟨x, hx, hid, hstatus⟩
      · exact hown ▸ hvouched
      · have heq := w.store.db.users.eq_of_clash hx (Table.mem_of_find? hfind)
          (.inl (.inl (.inl (hid.trans hown))))
        exact absurd (heq ▸ hactive) hstatus
  · cases hvalid

end Guarded

/-- **Only the mailbox owner's password works**, as long as accounts are activated by those who may.
Whenever a password opens an account, whoever chose it had proved, by choosing it or later, that the
mailbox is theirs. -/
theorem password_vouched {p q : Pool Watched Request} (h₀ : p.shared.store.credentials = .empty)
    (hrun : Reaches (Pool.advance (watch config))
      (Pool.Admitted (fun _ t ↦ t.isCall = true) (OwnActivation config)) p q)
    {email password : String} (hok : login config q.shared.store email password = .ok userId) :
    Vouched userId q.shared.log := by
  have h : Guarded q.shared := by
    refine Pool.invariant_of_steps hrun ?_ fun o w t hw htakes ↦ ?_
    · intro c hc
      rw [h₀] at hc
      cases hc
    · exact hw.effect (exec_effect config o w.store t) htakes
  exact h.login hok

/-! ### Two people and one address -/

section Sample

/-- What Google says about Ada. -/
def sampleClaims : GoogleClaims where
  sub := "google account of ada"
  email := some "ada@mail.com"
  emailVerified := true
  givenName := some "Ada"
  familyName := some "Obi"
  name := none

/-- Where the requests lead in an empty store. -/
def samplePasswordRun (requests : List Request) : Pool Watched Request :=
  (sampleMoves 1 requests).foldl (Pool.advance (watch sampleConfig)) ⟨⟨.empty, []⟩, []⟩

/-- Ada registers, redeems the code that was sent to her, and links her Google account. -/
def sampleOwner : List Request :=
  [.register 1 sampleDto "hash of secret", .verifyEmail 1 (.ofNat 100) "481511",
    .google 1 sampleClaims]

/-- Somebody has registered her address before her; she comes with Google. -/
def sampleSquatter : List Request :=
  [.register 2 sampleDto "hash of theirs", .google 1 sampleClaims]

end Sample

theorem password_vouched_sample :
    Vouched (.ofNat 100) (samplePasswordRun sampleOwner).shared.log := by
  have hrun : Reaches (Pool.advance (watch sampleConfig))
      (Pool.Admitted (fun _ t ↦ t.isCall = true) (OwnActivation sampleConfig))
      ⟨⟨.empty, []⟩, []⟩ (samplePasswordRun sampleOwner) :=
    reaches_of_allAdmitted (by decide +kernel)
  have hok : login sampleConfig (samplePasswordRun sampleOwner).shared.store "ada@mail.com" "secret" =
      .ok (.ofNat 100) := by decide +kernel
  exact password_vouched rfl hrun hok

/-- The squatter's password opens the account that Google activates. -/
theorem squatter_gets_in :
    ¬ ∀ (config : Config) (p q : Pool Watched Request) (email password : String) (userId : Uuid),
      p.shared.store.credentials = .empty →
      Reaches (Pool.advance (watch config)) (Pool.Admitted (fun _ t ↦ t.isCall = true)
        fun _ _ t ↦ activatesByOperator t = false) p q →
      login config q.shared.store email password = .ok userId → Vouched userId q.shared.log := by
  intro h
  have hrun : Reaches (Pool.advance (watch sampleConfig))
      (Pool.Admitted (fun _ t ↦ t.isCall = true) fun _ _ t ↦ activatesByOperator t = false)
      ⟨⟨.empty, []⟩, []⟩ (samplePasswordRun sampleSquatter) :=
    reaches_of_allAdmitted (by decide +kernel)
  have hok : login sampleConfig (samplePasswordRun sampleSquatter).shared.store "ada@mail.com"
      "theirs" = .ok (.ofNat 100) := by decide +kernel
  have hvouched := h sampleConfig _ _ _ _ _ rfl hrun hok
  exact absurd hvouched (by decide +kernel)

end AjoCloud.Auth
