import AjoCloud.Auth.Requests

/-!
# Suspension

Verification of the address, a password reset and Google all write the status `ACTIVE`, to complete
a registration that is pending.  What they do to an account that an operator has suspended meanwhile
is the subject here.
-/

namespace AjoCloud.Auth

open Lib

variable {config : Config} {o : Inputs} {s s' : Store} {t : Request} {userId : Uuid}
  {status : UserStatus}

/-- The user has the status. -/
def HasStatus (s : Store) (userId : Uuid) (status : UserStatus) : Prop :=
  ∃ u ∈ s.db.users.rows, u.id = userId ∧ u.status = status

instance (s : Store) (userId : Uuid) (status : UserStatus) : Decidable (HasStatus s userId status) :=
  inferInstanceAs (Decidable (∃ u ∈ s.db.users.rows, u.id = userId ∧ u.status = status))

/-- A user has one status. -/
theorem HasStatus.unique {status' : UserStatus} (h : HasStatus s userId status)
    (h' : HasStatus s userId status') : status = status' := by
  obtain ⟨u, hu, hid, rfl⟩ := h
  obtain ⟨u', hu', hid', rfl⟩ := h'
  rw [s.db.users.eq_of_clash hu hu' (.inl (.inl (.inl (hid.trans hid'.symm))))]

/-- The step is an operator's, on this user. -/
def byOperator (userId : Uuid) : Request → Bool
  | .setStatus target _ => target = userId
  | _ => false

/-- The step leaves the user's account alone: no right code for it is redeemed, Google does not link
it, and no operator writes its status. -/
def Spares (config : Config) (userId : Uuid) (o : Inputs) (s : Store) : Request → Prop
  | .verifyEmail _ target code => target = userId →
      ∀ c ∈ findNewest s.challenges (openEmail userId),
        validateChallenge config o.now c code ≠ .accepted
  | .completeReset _ challengeId code _ =>
      ∀ c ∈ challengeFor .passwordReset challengeId s.challenges, c.userId = userId →
        validateChallenge config o.now c code ≠ .accepted
  | .linkGoogle _ claims email target _ => target = userId →
      ∃ i ∈ s.identities.rows,
        Schema.Clash i ⟨o.uuid 0, target, claims.sub, some email, some o.now⟩
  | .setStatus target _ => target ≠ userId
  | _ => True

instance (config : Config) (userId : Uuid) (o : Inputs) (s : Store) (t : Request) :
    Decidable (Spares config userId o s t) := by
  apply Request.casesOn (motive := fun t ↦ Decidable (Spares config userId o s t)) t
  all_goals (intros; dsimp only [Spares]; infer_instance)

/-! ## One step -/

theorem HasStatus.insertUser {u : User} (h : HasStatus s userId status)
    (hu : insertRow s.db.users u = .ok s'.db.users) : HasStatus s' userId status := by
  obtain ⟨x, hx, hid⟩ := h
  refine ⟨x, ?_, hid⟩
  rw [insertRow_eq_ok hu]
  exact List.mem_append_left _ hx

/-- Writing the status of another user changes nothing for this one. -/
theorem HasStatus.setStatus {target : Uuid} {status' : UserStatus} (h : HasStatus s userId status)
    (hne : target ≠ userId) : HasStatus (setStatus target status' s) userId status := by
  obtain ⟨u, hu, rfl, hstatus⟩ := h
  refine ⟨u, ?_, rfl, hstatus⟩
  refine List.mem_map.mpr ⟨u, hu, if_neg ?_⟩
  simpa using Ne.symm hne

theorem HasStatus.effect (h : HasStatus s userId status) {events : List Event}
    (heffect : Effect config o s t s' events)
    (hspares : Spares config userId o s t) : HasStatus s' userId status := by
  cases heffect with
  | none => exact h
  | challenges => exact h
  | identities => exact h
  | sessions => exact h
  | opened => exact h
  | registered _ _ _ _ users => exact h.insertUser users
  | createdGoogle _ _ _ _ users => exact h.insertUser users
  | invited _ _ _ _ _ users => exact h.insertUser users
  | verified _ target _ challenge found valid _ =>
      refine HasStatus.setStatus h ?_
      rintro rfl
      exact hspares rfl challenge found valid
  | reset _ _ _ _ challenge found valid =>
      refine HasStatus.setStatus h ?_
      intro heq
      exact hspares challenge found heq valid
  | linked _ _ _ _ _ _ identity =>
      refine HasStatus.setStatus h ?_
      rintro rfl
      obtain ⟨i, hi, hclash⟩ := hspares rfl
      exact not_clash_of_insertRow identity i hi hclash
  | statusSet => exact HasStatus.setStatus h hspares

/-! ## Every run -/

/-- **A suspension lasts as long as every step spares the account.**  Whatever calls are under way
when it is made, and whatever calls come later. -/
theorem suspension_lasts {p q : Pool Store Request} (h₀ : HasStatus p.shared userId status)
    (hstatus : status = .suspended ∨ status = .deactivated)
    (hrun : Reaches (Pool.advance (exec config))
      (Pool.Admitted (fun _ t ↦ t.isCall = true) (Spares config userId)) p q) :
    HasStatus q.shared userId status ∧ ¬ HasStatus q.shared userId .active := by
  have h : HasStatus q.shared userId status :=
    Pool.invariant_of_steps (S := fun s ↦ HasStatus s userId status) hrun h₀
      fun o s t hs hspares ↦ hs.effect (exec_effect config o s t) hspares
  refine ⟨h, fun hactive ↦ ?_⟩
  have heq := h.unique hactive
  subst heq
  simp at hstatus

/-! ### A code from before -/

section Sample

/-- A user has registered, and an operator has suspended them. -/
def sampleSuspended : Pool Store Request :=
  sampleServed 1 [.register 1 sampleDto "hash of secret", .setStatus (.ofNat 100) .suspended]
    ⟨.empty, []⟩

end Sample

theorem suspension_lasts_sample :
    HasStatus (sampleServed 9 [.verifyEmail 1 (.ofNat 100) "000000",
        .login "ada@mail.com" "secret", .resendVerification (.ofNat 100)] sampleSuspended).shared
      (.ofNat 100) .suspended :=
  (suspension_lasts (by decide +kernel) (.inl rfl) (reaches_of_allAdmitted (by decide +kernel))).1

/-- The code of the registration makes the account active again. -/
theorem suspension_undone :
    ¬ ∀ (config : Config) (p q : Pool Store Request) (userId : Uuid) (status : UserStatus),
      HasStatus p.shared userId status → status = .suspended ∨ status = .deactivated →
      Reaches (Pool.advance (exec config)) (Pool.Admitted (fun _ t ↦ t.isCall = true)
        fun _ _ t ↦ byOperator userId t = false) p q →
      ¬ HasStatus q.shared userId .active := by
  intro h
  refine h sampleConfig sampleSuspended
    (sampleServed 9 [.verifyEmail 1 (.ofNat 100) "481511"] sampleSuspended) (.ofNat 100) .suspended
    (by decide +kernel) (.inl rfl) (reaches_of_allAdmitted (by decide +kernel)) (by decide +kernel)

end AjoCloud.Auth
