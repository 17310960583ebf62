import AjoCloud.Auth.Purposes

/-!
# Staff invitations

`invite` and `revoke` of `StaffInviteService`; `accept` is among the routes into an account.  `invite`
looks for the role and for an account before its transaction, and `revoke` reads the invitation and
writes it in two steps without one.
-/

namespace AjoCloud.Auth

open Lib ServiceError

/-! ## `StaffInviteService` -/

/-- `INVITE_TTL_HOURS`. -/
def inviteTtlHours : Int := 72

/-- `INVITE_TTL_MS`. -/
def inviteTtlMs : Int := inviteTtlHours * 60 * 60 * 1000

/-- `InviteStaffDto`. -/
structure InviteStaffDto where
  email : String
  firstName : String
  lastName : String
  role : String
deriving DecidableEq

/-- `dto.email.trim().toLowerCase()`. -/
def InviteStaffDto.address (dto : InviteStaffDto) : String := toLowerCase (trim dto.email)

/-- The first read of `invite`: the role. -/
def invitedRole (s : Store) (dto : InviteStaffDto) : Except ServiceError Role :=
  orThrow (s.roles.find? fun r ↦ r.name = dto.role) (badRequest "That role does not exist")

/-- The second: nobody has the address. -/
def assertNoAccount (s : Store) (dto : InviteStaffDto) : Except ServiceError Unit :=
  require ((userByEmail s dto.address).isNone)
    (conflict "Someone with that email address already has an account")

/-- The invitation that `invite` stores. -/
def newInvite (config : Config) (o : Inputs) (dto : InviteStaffDto) (roleId invitedById : Uuid) :
    StaffInvite where
  id := o.uuid 0
  email := dto.address
  firstName := trim dto.firstName
  lastName := trim dto.lastName
  roleId := roleId
  tokenHash := config.digest o.rawToken
  status := .pending
  invitedById := invitedById
  expiresAt := o.now + inviteTtlMs
  acceptedAt := none
  acceptedUserId := none

/-- The invitation after it was revoked. -/
def revokeInvite (i : StaffInvite) : StaffInvite := { i with status := .revoked }

theorem clash_of_revokeInvite {a b : StaffInvite} (h : Schema.Clash (revokeInvite a) b) :
    Schema.Clash a b := StaffInvite.clash_of_closed h rfl rfl nofun

/-- The transaction of `invite`, which supersedes the outstanding invitation. -/
def storeInvite (config : Config) (o : Inputs) (s : Store) (dto : InviteStaffDto)
    (roleId invitedById : Uuid) : Except ServiceError (Unit × Store) := do
  let invite := newInvite config o dto roleId invitedById
  require (fitsVarChar 320 invite.email ∧ fitsVarChar 100 invite.firstName ∧
    fitsVarChar 100 invite.lastName) (.database .valueTooLong)
  let superseded := s.staffInvites.modify (fun i ↦ i.email = invite.email && i.status = .pending)
    revokeInvite clash_of_revokeInvite
  let staffInvites ← insertRow superseded invite
  pure ((), { s with staffInvites := staffInvites })

/-- The read of `revoke`, and the checks after it: whether there is something to write. -/
def revocable (s : Store) (inviteId : Uuid) : Except ServiceError Bool := do
  let invite ← orThrow (s.staffInvites.find? fun i ↦ i.id = inviteId)
    (notFound "That invitation was not found")
  require (invite.status ≠ .accepted) (conflict "That invitation has already been accepted")
  pure (invite.status ≠ .revoked)

/-- The write of `revoke`. -/
def storeRevocation (s : Store) (inviteId : Uuid) : Except ServiceError (Unit × Store) := do
  let staffInvites ← updateRow s.staffInvites (fun i ↦ i.id = inviteId) revokeInvite
  pure ((), { s with staffInvites := staffInvites })

/-! ## Steps -/

/-- A call, or what is left of it. -/
inductive StaffRequest where
  /-- `invite`, before it looks for the role. -/
  | invite (dto : InviteStaffDto) (invitedById : Uuid)
  /-- The same, before it looks for an account. -/
  | inviteRole (dto : InviteStaffDto) (roleId invitedById : Uuid)
  /-- The same, before its transaction. -/
  | inviteNew (dto : InviteStaffDto) (roleId invitedById : Uuid)
  /-- `revoke`, before it reads the invitation. -/
  | revoke (inviteId : Uuid)
  /-- The same, before it writes. -/
  | revokeRead (inviteId : Uuid)
  /-- A route into an account: `accept`, or another. -/
  | route (t : Request)

/-- What a call starts as. -/
def StaffRequest.isCall : StaffRequest → Bool
  | .invite .. | .revoke .. => true
  | .route t => t.isCall
  | _ => false

/-- The store, with the accounts that invitations have created: which one, and for whom. -/
structure StaffWatch where
  store : Store
  created : List (Uuid × Uuid)

/-- The accounts that a step of a route creates for an invitation. -/
def createdBy (o : Inputs) (s : Store) : Request → List (Uuid × Uuid)
  | .redeemInvite _ inviteId passwordHash =>
      match accept o s inviteId passwordHash with
      | .ok (userId, _) => [(inviteId, userId)]
      | .error _ => []
  | _ => []

/-- One step of a call. -/
def handle (config : Config) (o : Inputs) (w : StaffWatch) : StaffRequest → StaffWatch × Option StaffRequest
  | .invite dto invitedById =>
      (w, afterwards (invitedRole w.store dto) fun role ↦ some (.inviteRole dto role.id invitedById))
  | .inviteRole dto roleId invitedById =>
      (w, afterwards (assertNoAccount w.store dto) fun _ ↦ some (.inviteNew dto roleId invitedById))
  | .inviteNew dto roleId invitedById =>
      ({ w with store := committed w.store (storeInvite config o w.store dto roleId invitedById) }, none)
  | .revoke inviteId =>
      (w, afterwards (revocable w.store inviteId) fun writes ↦
        if writes then some (.revokeRead inviteId) else none)
  | .revokeRead inviteId =>
      ({ w with store := committed w.store (storeRevocation w.store inviteId) }, none)
  | .route t =>
      (⟨(exec config o w.store t).1, createdBy o w.store t ++ w.created⟩,
        (exec config o w.store t).2.map .route)

/-! ## What a step does to the invitations -/

/-- The invitation has not been accepted when `revoke` writes. -/
def StillOpen (w : StaffWatch) : StaffRequest → Prop
  | .revokeRead inviteId => ∀ i ∈ w.store.staffInvites.rows, i.id = inviteId → i.status ≠ .accepted
  | _ => True

instance (w : StaffWatch) (t : StaffRequest) : Decidable (StillOpen w t) := by
  unfold StillOpen
  split
  · infer_instance
  · infer_instance

/-- What a step does to the invitations, and which accounts it creates for them. -/
inductive InviteEffect (invites invites' : Table StaffInvite) : List (Uuid × Uuid) → Prop
  | same (rows : invites'.rows = invites.rows) : InviteEffect invites invites' []
  /-- An invitation that was pending is accepted. -/
  | accepted (i : StaffInvite) (mem : i ∈ invites.rows) (pending : i.status = .pending)
      (now : Timestamp) (userId : Uuid)
      (rows : invites'.rows = invites.rows.map fun x ↦
        if x.id = i.id then acceptInvite now userId x else x) :
      InviteEffect invites invites' [(i.id, userId)]
  /-- A new invitation takes the place of the one that was outstanding. -/
  | superseded (invite : StaffInvite)
      (rows : invites'.rows = (invites.rows.map fun x ↦
        if x.email = invite.email ∧ x.status = .pending then revokeInvite x else x) ++ [invite]) :
      InviteEffect invites invites' []
  /-- An invitation that was not accepted is revoked. -/
  | revoked (inviteId : Uuid)
      (notAccepted : ∀ i ∈ invites.rows, i.id = inviteId → i.status ≠ .accepted)
      (rows : invites'.rows = invites.rows.map fun x ↦ if x.id = inviteId then revokeInvite x else x) :
      InviteEffect invites invites' []

section Inversion

variable {config : Config} {o : Inputs} {s s' : Store} {inviteId userId : Uuid} {t : Request}

theorem accept_invites {passwordHash : String}
    (h : accept o s inviteId passwordHash = .ok (userId, s')) :
    InviteEffect s.staffInvites s'.staffInvites [(inviteId, userId)] := by
  simp only [accept, bind_eq_ok, require_eq_ok, orThrow_eq_ok, exists_const, pure_eq_ok,
    Prod.mk.injEq] at h
  obtain ⟨invite, hfind, hpending, -, -, _, -, _, -, _, -, _, -, rfl, rfl⟩ := h
  have hid : invite.id = inviteId := by simpa using Table.prop_of_find? hfind
  subst hid
  refine .accepted invite (Table.mem_of_find? hfind) hpending o.now (o.uuid 0) ?_
  exact List.map_congr_left fun i _ ↦ by simp only [decide_eq_true_eq]

/-- Nobody else writes to the invitations. -/
theorem staffInvites_exec (h : ∀ caller inviteId hash, t ≠ .redeemInvite caller inviteId hash) :
    (exec config o s t).1.staffInvites = s.staffInvites := by
  cases t with
  | register caller dto passwordHash =>
      refine committed_same (f := (·.staffInvites)) fun _ s' h ↦ ?_
      rw [registerAccount, mapError_eq_ok] at h
      simp only [registerAccountWithin, bind_eq_ok, pure_eq_ok, Prod.exists, Prod.mk.injEq] at h
      obtain ⟨_, _, -, _, _, -, _, -, _, -, _, -, -, rfl⟩ := h
      rfl
  | verifyEmail caller userId code =>
      change (verifyEmail config o.now s userId code).2.staffInvites = s.staffInvites
      unfold verifyEmail
      split
      · rfl
      · split
        · rfl
        · split
          · rfl
          · split
            · rfl
            · split
              · rfl
              · rfl
  | resendVerification userId =>
      refine committed_same (f := (·.staffInvites)) fun _ s' h ↦ ?_
      rcases resendVerification_cases config o s userId with ⟨-, hsame⟩ | ⟨-, -, c, -, -, hissue⟩
      · rw [h] at hsame
        exact congrArg (·.staffInvites) hsame
      · rw [hissue] at h
        simp only [bind_eq_ok, pure_eq_ok, Prod.mk.injEq] at h
        obtain ⟨_, -, -, rfl⟩ := h
        rfl
  | openSession userId how =>
      refine committed_same (f := (·.staffInvites)) fun _ s' h ↦ ?_
      simp only [openSession, bind_eq_ok, pure_eq_ok, Prod.exists, Prod.mk.injEq] at h
      obtain ⟨_, _, -, -, rfl⟩ := h
      rfl
  | issueReset userId email =>
      refine committed_same (f := (·.staffInvites)) fun _ s' h ↦ ?_
      simp only [issueReset, bind_eq_ok, pure_eq_ok, Prod.mk.injEq] at h
      obtain ⟨_, -, -, rfl⟩ := h
      rfl
  | completeReset caller challengeId code passwordHash =>
      refine committed_same (f := (·.staffInvites)) fun _ s' h ↦ ?_
      unfold completeReset at h
      split at h
      · cases h
        rfl
      · split at h
        · simp only [bind_eq_ok, pure_eq_ok, Prod.mk.injEq] at h
          obtain ⟨_, -, -, rfl⟩ := h
          rfl
        · cases h
          rfl
  | issueLogin userId email =>
      refine committed_same (f := (·.staffInvites)) fun _ s' h ↦ ?_
      simp only [issueLogin, bind_eq_ok, pure_eq_ok, Prod.mk.injEq] at h
      obtain ⟨_, -, -, rfl⟩ := h
      rfl
  | verifyCode challengeId code =>
      change (verifyCode config o.now s challengeId code).2.staffInvites = s.staffInvites
      unfold verifyCode
      split
      · rfl
      · rfl
  | linkGoogle caller claims email userId verifiedAt =>
      refine committed_same (f := (·.staffInvites)) fun _ s' h ↦ ?_
      simp only [linkGoogle, bind_eq_ok, pure_eq_ok, Prod.mk.injEq] at h
      obtain ⟨_, -, _, -, -, rfl⟩ := h
      rfl
  | createGoogle caller claims email =>
      refine committed_same (f := (·.staffInvites)) fun _ s' h ↦ ?_
      simp only [createGoogle, bind_eq_ok, pure_eq_ok, Prod.mk.injEq] at h
      obtain ⟨_, -, _, -, _, -, _, -, -, rfl⟩ := h
      rfl
  | redeemInvite caller inviteId hash => exact absurd rfl (h caller inviteId hash)
  | _ => rfl

variable (config o) in
/-- **What a step can do.** -/
theorem handle_effect {w : StaffWatch} {t : StaffRequest} (hopen : StillOpen w t) :
    ∃ created, (handle config o w t).1.created = created ++ w.created ∧
      InviteEffect w.store.staffInvites (handle config o w t).1.store.staffInvites created := by
  cases t with
  | invite => exact ⟨[], rfl, .same rfl⟩
  | inviteRole => exact ⟨[], rfl, .same rfl⟩
  | inviteNew dto roleId invitedById =>
      refine ⟨[], rfl, ?_⟩
      rcases committed_cases w.store (storeInvite config o w.store dto roleId invitedById) with
        heq | ⟨_, s', hok, heq⟩
      · rw [handle, heq]
        exact .same rfl
      · rw [handle, heq]
        simp only [storeInvite, bind_eq_ok, require_eq_ok, exists_const, pure_eq_ok,
          Prod.mk.injEq] at hok
        obtain ⟨-, invites, hinsert, -, rfl⟩ := hok
        refine .superseded (newInvite config o dto roleId invitedById) ?_
        simpa using insertRow_eq_ok hinsert
  | revoke => exact ⟨[], rfl, .same rfl⟩
  | revokeRead inviteId =>
      refine ⟨[], rfl, ?_⟩
      rcases committed_cases w.store (storeRevocation w.store inviteId) with heq | ⟨_, s', hok, heq⟩
      · rw [handle, heq]
        exact .same rfl
      · rw [handle, heq]
        simp only [storeRevocation, bind_eq_ok, pure_eq_ok, Prod.mk.injEq] at hok
        obtain ⟨invites, hupdate, -, rfl⟩ := hok
        exact .revoked inviteId hopen (by simpa using updateRow_eq_ok hupdate)
  | route t =>
      refine ⟨createdBy o w.store t, rfl, ?_⟩
      change InviteEffect w.store.staffInvites (exec config o w.store t).1.staffInvites _
      by_cases hredeem : ∃ caller inviteId hash, t = .redeemInvite caller inviteId hash
      · obtain ⟨caller, inviteId, hash, rfl⟩ := hredeem
        rw [exec, createdBy]
        cases haccept : accept o w.store inviteId hash with
        | error e => exact .same rfl
        | ok p => exact accept_invites haccept
      · have hnone : createdBy o w.store t = [] := by
          unfold createdBy
          split
          · exact absurd ⟨_, _, _, rfl⟩ hredeem
          · rfl
        rw [hnone]
        refine .same ?_
        rw [staffInvites_exec fun caller inviteId hash heq ↦ hredeem ⟨caller, inviteId, hash, heq⟩]

end Inversion

/-! ## Every run -/

/-- An address has one outstanding invitation at most. -/
def OnePending (invites : Table StaffInvite) : Prop :=
  ∀ i ∈ invites.rows, ∀ j ∈ invites.rows, i.email = j.email → i.status = .pending →
    j.status = .pending → i = j

/-- What holds of the invitations and the accounts they have created. -/
structure InvitesKept (w : StaffWatch) : Prop where
  onePending : OnePending w.store.staffInvites
  /-- An invitation that has created an account is accepted. -/
  accepted : ∀ e ∈ w.created, ∃ i ∈ w.store.staffInvites.rows, i.id = e.1 ∧ i.status = .accepted
  /-- It has created only one. -/
  once : (w.created.map Prod.fst).Nodup

section Kept

variable {config : Config} {o : Inputs} {w : StaffWatch} {t : StaffRequest}
  {invites invites' : Table StaffInvite} {created : List (Uuid × Uuid)} {i j : StaffInvite}

theorem eq_of_invite_id (hi : i ∈ invites.rows) (hj : j ∈ invites.rows) (h : i.id = j.id) : i = j :=
  invites.eq_of_clash hi hj (.inl (.inl h))

/-- Rewriting invitations so that none becomes pending leaves one at most. -/
theorem OnePending.map (h : OnePending invites) {f : StaffInvite → StaffInvite}
    (hrows : invites'.rows = invites.rows.map f)
    (hf : ∀ i, (f i).email = i.email ∧ ((f i).status = .pending → i.status = .pending)) :
    OnePending invites' := by
  intro i hi j hj hemail hpi hpj
  rw [hrows, List.mem_map] at hi hj
  obtain ⟨i, hi, rfl⟩ := hi
  obtain ⟨j, hj, rfl⟩ := hj
  rw [(hf i).1, (hf j).1] at hemail
  rw [h i hi j hj hemail ((hf i).2 hpi) ((hf j).2 hpj)]

theorem InviteEffect.onePending (h : InviteEffect invites invites' created)
    (hone : OnePending invites) : OnePending invites' := by
  cases h with
  | same rows => exact hone.map (f := id) (by simpa using rows) fun i ↦ ⟨rfl, id⟩
  | accepted i mem pending now userId rows =>
      refine hone.map rows fun x ↦ ?_
      split
      · exact ⟨rfl, by simp [acceptInvite]⟩
      · exact ⟨rfl, id⟩
  | superseded invite rows =>
      have hothers : ∀ x ∈ invites'.rows, x.email = invite.email → x.status = .pending →
          x = invite := by
        intro x hx hemail hpending
        rw [rows, List.mem_append, List.mem_singleton, List.mem_map] at hx
        rcases hx with ⟨y, hy, rfl⟩ | hx
        · split at hpending
          · cases hpending
          · next hnot =>
              rw [if_neg hnot] at hemail
              exact absurd ⟨hemail, hpending⟩ hnot
        · exact hx
      intro x hx y hy hemail hpx hpy
      by_cases hinvite : x.email = invite.email
      · rw [hothers x hx hinvite hpx, hothers y hy (hemail ▸ hinvite) hpy]
      · have hold : ∀ z ∈ invites'.rows, z.email ≠ invite.email → z ∈ invites.rows := by
          intro z hz hne
          rw [rows, List.mem_append, List.mem_singleton, List.mem_map] at hz
          rcases hz with ⟨z, hz, rfl⟩ | rfl
          · split at hne
            · next hsuperseded => exact absurd hsuperseded.1 hne
            · next hnot =>
                rw [if_neg hnot]
                exact hz
          · exact absurd rfl hne
        exact hone x (hold x hx hinvite) y (hold y hy (hemail ▸ hinvite)) hemail hpx hpy
  | revoked inviteId notAccepted rows =>
      refine hone.map rows fun x ↦ ?_
      split
      · exact ⟨rfl, by simp [revokeInvite]⟩
      · exact ⟨rfl, id⟩

/-- A revoked invitation stays revoked. -/
theorem InviteEffect.stays_revoked (h : InviteEffect invites invites' created)
    (hi : i ∈ invites.rows) (hrevoked : i.status = .revoked) :
    ∃ j ∈ invites'.rows, j.id = i.id ∧ j.status = .revoked := by
  cases h with
  | same rows => exact ⟨i, rows ▸ hi, rfl, hrevoked⟩
  | accepted a mem pending now userId rows =>
      refine ⟨i, ?_, rfl, hrevoked⟩
      rw [rows]
      refine List.mem_map.mpr ⟨i, hi, if_neg fun hid ↦ ?_⟩
      rw [eq_of_invite_id hi mem hid, pending] at hrevoked
      cases hrevoked
  | superseded invite rows =>
      refine ⟨i, ?_, rfl, hrevoked⟩
      rw [rows]
      refine List.mem_append_left _ (List.mem_map.mpr ⟨i, hi, if_neg ?_⟩)
      simp [hrevoked]
  | revoked inviteId notAccepted rows =>
      by_cases hid : i.id = inviteId
      · exact ⟨revokeInvite i, rows ▸ List.mem_map.mpr ⟨i, hi, if_pos hid⟩, rfl, rfl⟩
      · exact ⟨i, rows ▸ List.mem_map.mpr ⟨i, hi, if_neg hid⟩, rfl, hrevoked⟩

/-- An accepted invitation stays accepted. -/
theorem InviteEffect.stays_accepted (h : InviteEffect invites invites' created)
    (hi : i ∈ invites.rows) (haccepted : i.status = .accepted) :
    ∃ j ∈ invites'.rows, j.id = i.id ∧ j.status = .accepted := by
  cases h with
  | same rows => exact ⟨i, rows ▸ hi, rfl, haccepted⟩
  | accepted a mem pending now userId rows =>
      refine ⟨i, ?_, rfl, haccepted⟩
      rw [rows]
      refine List.mem_map.mpr ⟨i, hi, if_neg fun hid ↦ ?_⟩
      rw [eq_of_invite_id hi mem hid, pending] at haccepted
      cases haccepted
  | superseded invite rows =>
      refine ⟨i, ?_, rfl, haccepted⟩
      rw [rows]
      refine List.mem_append_left _ (List.mem_map.mpr ⟨i, hi, if_neg ?_⟩)
      simp [haccepted]
  | revoked inviteId notAccepted rows =>
      refine ⟨i, ?_, rfl, haccepted⟩
      rw [rows]
      exact List.mem_map.mpr ⟨i, hi, if_neg fun hid ↦ notAccepted i hi hid haccepted⟩

/-- **One step.** -/
theorem InvitesKept.handle (h : InvitesKept w) (hopen : StillOpen w t) :
    InvitesKept (handle config o w t).1 := by
  obtain ⟨created, hcreated, heffect⟩ := handle_effect config o hopen
  refine ⟨heffect.onePending h.onePending, ?_, ?_⟩
  · intro e he
    rw [hcreated, List.mem_append] at he
    rcases he with he | he
    · cases heffect with
      | accepted i mem pending now userId rows =>
          rw [List.mem_singleton] at he
          refine ⟨acceptInvite now userId i, ?_, by rw [he]; rfl, rfl⟩
          rw [rows]
          exact List.mem_map.mpr ⟨i, mem, if_pos rfl⟩
      | same | superseded | revoked => cases he
    · obtain ⟨i, hi, hid, haccepted⟩ := h.accepted e he
      obtain ⟨j, hj, hji, hjaccepted⟩ := heffect.stays_accepted hi haccepted
      exact ⟨j, hj, hji.trans hid, hjaccepted⟩
  · rw [hcreated]
    cases heffect with
    | accepted i mem pending now userId rows =>
        refine List.nodup_cons.mpr ⟨fun hmem ↦ ?_, h.once⟩
        obtain ⟨e, he, hid⟩ := List.mem_map.mp hmem
        obtain ⟨j, hj, hji, haccepted⟩ := h.accepted e he
        rw [eq_of_invite_id hj mem (hji.trans hid), pending] at haccepted
        cases haccepted
    | same | superseded | revoked => exact h.once

end Kept

/-- The runs in which `revoke` writes only invitations that have not been accepted. -/
def StaffRun (config : Config) : Pool StaffWatch StaffRequest → Pool StaffWatch StaffRequest → Prop :=
  Reaches (Pool.advance (handle config))
    (Pool.Admitted (fun _ t ↦ t.isCall = true) fun _ ↦ StillOpen)

namespace StaffRun

variable {config : Config} {p q : Pool StaffWatch StaffRequest}

theorem kept (h : StaffRun config p q) (hp : InvitesKept p.shared) : InvitesKept q.shared :=
  Pool.invariant_of_steps h hp fun _ _ _ hkept hopen ↦ hkept.handle hopen

theorem mem_created (h : StaffRun config p q) {e : Uuid × Uuid} (he : e ∈ p.shared.created) :
    e ∈ q.shared.created := by
  refine Pool.invariant_of_steps (S := fun w ↦ e ∈ w.created) h he fun o w t he hopen ↦ ?_
  obtain ⟨created, hcreated, -⟩ := handle_effect config o hopen
  rw [hcreated]
  exact List.mem_append_right _ he

theorem stays_revoked (h : StaffRun config p q) {inviteId : Uuid}
    (hi : ∃ i ∈ p.shared.store.staffInvites.rows, i.id = inviteId ∧ i.status = .revoked) :
    ∃ i ∈ q.shared.store.staffInvites.rows, i.id = inviteId ∧ i.status = .revoked := by
  refine Pool.invariant_of_steps (S := fun w ↦ ∃ i ∈ w.store.staffInvites.rows, i.id = inviteId ∧
    i.status = .revoked) h hi fun o w t hw hopen ↦ ?_
  obtain ⟨i, hi, hid, hrevoked⟩ := hw
  obtain ⟨created, -, heffect⟩ := handle_effect config o hopen
  obtain ⟨j, hj, hji, hjrevoked⟩ := heffect.stays_revoked hi hrevoked
  exact ⟨j, hj, hji.trans hid, hjrevoked⟩

end StaffRun

/-- **An accepted invitation stays accepted.**  In every run in which `revoke` writes only invitations
that have not been accepted, an address has one outstanding invitation at most, an invitation creates
one account at most and is accepted ever after, and one that is revoked has created none and never
will. -/
theorem accepted_stays_accepted {config : Config} {s : Store} {q r : Pool StaffWatch StaffRequest}
    (hs : OnePending s.staffInvites) (h : StaffRun config ⟨⟨s, []⟩, []⟩ q) (h' : StaffRun config q r) :
    InvitesKept q.shared ∧
      (∀ e ∈ q.shared.created, e ∈ r.shared.created ∧
        ∃ i ∈ r.shared.store.staffInvites.rows, i.id = e.1 ∧ i.status = .accepted) ∧
      ∀ i ∈ q.shared.store.staffInvites.rows, i.status = .revoked →
        ∀ userId, (i.id, userId) ∉ r.shared.created := by
  have hq : InvitesKept q.shared := h.kept ⟨hs, nofun, List.nodup_nil⟩
  have hr : InvitesKept r.shared := h'.kept hq
  refine ⟨hq, fun e he ↦ ?_, fun i hi hrevoked userId hcreated ↦ ?_⟩
  · have hstays := h'.mem_created he
    exact ⟨hstays, hr.accepted e hstays⟩
  · obtain ⟨j, hj, hid, hjrevoked⟩ := h'.stays_revoked ⟨i, hi, rfl, hrevoked⟩
    obtain ⟨k, hk, hkid, hkaccepted⟩ := hr.accepted _ hcreated
    rw [eq_of_invite_id hk hj (hkid.trans hid.symm), hjrevoked] at hkaccepted
    cases hkaccepted

section Sample

/-- A store with a role that staff can be invited to. -/
def sampleStaffStore : Store :=
  { Store.empty with roles := ⟨[⟨.ofNat 5, "SUPPORT", ["users.read"]⟩], by decide⟩ }

/-- Somebody is invited; the invitation has the number 300. -/
def sampleInviting : List (Move StaffRequest Inputs) :=
  [.spawn (.invite ⟨"Bola@ajo.com ", "Bola", "Ade", "SUPPORT"⟩ (.ofNat 1)), .run 0 (sampleInputs 1),
    .run 0 (sampleInputs 2), .run 0 (sampleInputs 3)]

/-- They accept, and then the invitation is to be revoked. -/
def sampleInTime : List (Move StaffRequest Inputs) :=
  [.spawn (.route (.acceptInvite 1 "token 3" "hash of secret")), .run 0 (sampleInputs 4),
    .run 0 (sampleInputs 5), .spawn (.revoke (.ofNat 300)), .run 1 (sampleInputs 6)]

/-- They accept after the invitation was read to be revoked. -/
def sampleMeantime : List (Move StaffRequest Inputs) :=
  [.spawn (.revoke (.ofNat 300)), .run 0 (sampleInputs 4),
    .spawn (.route (.acceptInvite 1 "token 3" "hash of secret")), .run 1 (sampleInputs 5),
    .run 1 (sampleInputs 6), .run 0 (sampleInputs 7)]

/-- The pool after the invitation and the moves. -/
def sampleStaffRun (moves : List (Move StaffRequest Inputs)) : Pool StaffWatch StaffRequest :=
  (sampleInviting ++ moves).foldl (Pool.advance (handle sampleConfig)) ⟨⟨sampleStaffStore, []⟩, []⟩

end Sample

theorem accepted_stays_accepted_sample :
    ∃ i ∈ (sampleStaffRun sampleInTime).shared.store.staffInvites.rows,
      i.id = .ofNat 300 ∧ i.status = .accepted := by
  have hfirst : StaffRun sampleConfig ⟨⟨sampleStaffStore, []⟩, []⟩ (sampleStaffRun (sampleInTime.take 3)) :=
    reaches_of_allAdmitted (by decide +kernel)
  have hrest : StaffRun sampleConfig (sampleStaffRun (sampleInTime.take 3)) (sampleStaffRun sampleInTime) :=
    @reaches_of_allAdmitted _ _ _ _ _ (sampleInTime.drop 3) (by decide +kernel)
  exact ((accepted_stays_accepted (by unfold OnePending; decide +kernel) hfirst hrest).2.1
    (.ofNat 300, .ofNat 500) (by decide +kernel)).2

/-- An invitation that created an account is revoked afterwards. -/
theorem accepted_then_revoked :
    ¬ ∀ (config : Config) (s : Store) (q : Pool StaffWatch StaffRequest), OnePending s.staffInvites →
      Reaches (Pool.advance (handle config))
        (Pool.Admitted (fun _ t ↦ t.isCall = true) fun _ _ _ ↦ True) ⟨⟨s, []⟩, []⟩ q →
      InvitesKept q.shared := by
  intro h
  have hkept := h sampleConfig sampleStaffStore (sampleStaffRun sampleMeantime)
    (by unfold OnePending; decide +kernel) (reaches_of_allAdmitted (by decide +kernel))
  obtain ⟨i, hi, hid, haccepted⟩ := hkept.accepted (.ofNat 300, .ofNat 600) (by decide +kernel)
  have hrevoked : ∀ i ∈ (sampleStaffRun sampleMeantime).shared.store.staffInvites.rows,
      i.id = .ofNat 300 → i.status = .revoked := by decide +kernel
  rw [hrevoked i hi hid] at haccepted
  cases haccepted

end AjoCloud.Auth
