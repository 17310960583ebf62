import AjoCloud.Ajo.Links
import AjoCloud.Ajo.Lockable

/-!
# The cap on invitations

A member may hold so many live invitations to a group.  What `create` counts are the rows that are active and
have not expired; a row whose uses are spent is among them, since joining does not rewrite its status.
-/

namespace AjoCloud.Ajo

open Lib ServiceError

variable {codec : Codec} {ctx : Ctx} {code : String} {db : Db} {userId groupId : Uuid} {maxUses : Nat}

/-- The refusal of a member with too many invitations. -/
def tooManyInvitations : ServiceError :=
  conflict ("You have too many open invitations for this group. " ++ "Revoke one before creating another.")

/-- The invitations that `create` counts. -/
def countedInvitations (db : Db) (memberId : Uuid) (now : Timestamp) : List GroupInvitation :=
  db.groupInvitations.findMany fun i ↦
    i.createdByMemberId = memberId ∧ i.status = .active ∧ now < i.expiresAt

/-- The invitations that are effectively active. -/
def liveInvitations (db : Db) (memberId : Uuid) (now : Timestamp) : List GroupInvitation :=
  db.groupInvitations.findMany fun i ↦
    i.createdByMemberId = memberId ∧ effectiveInvitationStatus now i = .active

/-- The invitations that are neither revoked nor expired, and have no use left. -/
def spentInvitations (db : Db) (memberId : Uuid) (now : Timestamp) : List GroupInvitation :=
  db.groupInvitations.findMany fun i ↦
    i.createdByMemberId = memberId ∧ i.status = .active ∧ now < i.expiresAt ∧ i.maxUses ≤ i.useCount

/-- What is counted is live or spent. -/
theorem length_countedInvitations (db : Db) (memberId : Uuid) (now : Timestamp) :
    (countedInvitations db memberId now).length =
      (liveInvitations db memberId now).length + (spentInvitations db memberId now).length := by
  have hlive : (countedInvitations db memberId now).filter (fun i ↦ i.useCount < i.maxUses) =
      liveInvitations db memberId now := by
    rw [countedInvitations, liveInvitations, Table.findMany, Table.findMany, List.filter_filter]
    refine List.filter_congr fun i _ ↦ ?_
    rw [Bool.eq_iff_iff]
    simp only [Bool.and_eq_true, decide_eq_true_eq, effectiveInvitationStatus_eq_active_iff]
    tauto
  have hspent : (countedInvitations db memberId now).filter (fun i ↦ !decide (i.useCount < i.maxUses)) =
      spentInvitations db memberId now := by
    rw [countedInvitations, spentInvitations, Table.findMany, Table.findMany, List.filter_filter]
    refine List.filter_congr fun i _ ↦ ?_
    rw [Bool.eq_iff_iff]
    simp only [Bool.and_eq_true, Bool.not_eq_true', decide_eq_true_eq, decide_eq_false_iff_not, not_lt]
    tauto
  rw [← hlive, ← hspent]
  exact List.length_eq_length_filter_add _

/-! ## Creating an invitation -/

/-- The call is made by an active member of a group that takes members. -/
def InvitesFor (db : Db) (userId groupId : Uuid) (member : AjoGroupMember) : Prop :=
  invitingMember db userId groupId "Only an active member of this group can invite others" = .ok member ∧
    ∃ group, db.ajoGroups.find? (fun g ↦ g.id = groupId) = some group ∧ AcceptsMembers group

/-- A member is refused for too many invitations when those that are counted are as many as may be. -/
theorem createInvitation_refused_iff {member : AjoGroupMember} (h : InvitesFor db userId groupId member) :
    createInvitation codec ctx code db userId groupId maxUses = .error tooManyInvitations ↔
      maxLiveInvitationsPerMember ≤ (countedInvitations db member.id ctx.now).length := by
  obtain ⟨hmember, group, hgroup, haccepts⟩ := h
  have hfound : orThrow (db.ajoGroups.find? fun g ↦ g.id = groupId) (notFound "Ajo group was not found") =
      .ok group := orThrow_eq_ok.mpr hgroup
  rw [createInvitation, bind_of_eq_ok hmember, bind_of_eq_ok hfound,
    bind_of_eq_ok (require_eq_ok (a := ⟨⟩).mpr haccepts)]
  by_cases hcap : maxLiveInvitationsPerMember ≤ (countedInvitations db member.id ctx.now).length
  · refine iff_of_true ?_ hcap
    dsimp only
    rw [require, if_neg (by exact not_not.mpr hcap)]
    rfl
  · refine iff_of_false ?_ hcap
    dsimp only
    rw [require, if_pos (by exact hcap)]
    intro hrefused
    change (insertRow _ _ >>= _) = _ at hrefused
    rw [insertRow] at hrefused
    cases hinsert : db.groupInvitations.insert _ with
    | none =>
        rw [hinsert] at hrefused
        cases hrefused
    | some rows =>
        rw [hinsert] at hrefused
        cases hrefused

/-! ## Runs -/

/-- The cap counts live invitations: a member of an open group is refused for too many of them exactly when
as many are effectively active. -/
def CapExact (db : Db) : GroupCall → Prop
  | .invite codec ctx code userId groupId maxUses => ∀ member, InvitesFor db userId groupId member →
      (createInvitation codec ctx code db userId groupId maxUses = .error tooManyInvitations ↔
        maxLiveInvitationsPerMember ≤ (liveInvitations db member.id ctx.now).length)
  | _ => True

/-- Where the live invitations are fewer than the cap, the spent ones do not fill it up. -/
def SpentLeaveRoom (db : Db) : GroupCall → Prop
  | .invite _ ctx _ userId groupId _ => ∀ member, InvitesFor db userId groupId member →
      (liveInvitations db member.id ctx.now).length < maxLiveInvitationsPerMember →
        (liveInvitations db member.id ctx.now).length + (spentInvitations db member.id ctx.now).length <
          maxLiveInvitationsPerMember
  | _ => True

theorem capExact_iff (db : Db) (call : GroupCall) : CapExact db call ↔ SpentLeaveRoom db call := by
  cases call with
  | invite codec ctx code userId groupId maxUses =>
      refine forall₂_congr fun member h ↦ ?_
      rw [createInvitation_refused_iff h, length_countedInvitations]
      omega
  | _ => exact Iff.rfl

theorem allAdmitted_congr {σ κ : Type} {step : σ → κ → σ} {ok ok' : σ → κ → Prop}
    (h : ∀ s k, ok s k ↔ ok' s k) (s : σ) (calls : List κ) :
    AllAdmitted step ok s calls ↔ AllAdmitted step ok' s calls := by
  induction calls generalizing s with
  | nil => exact Iff.rfl
  | cons k calls ih => exact and_congr (h s k) (ih (step s k))

/-- **When the cap counts live invitations.**  Along a run of calls, at whatever times they are made, it does
exactly when the spent invitations leave room wherever the live ones do. -/
theorem cap_counts_live_iff (db : Db) (calls : List GroupCall) :
    AllAdmitted groupStep CapExact db calls ↔ AllAdmitted groupStep SpentLeaveRoom db calls :=
  allAdmitted_congr capExact_iff db calls

/-! ### A friend who has joined -/

def sampleInviteCtx (n : Nat) : Ctx := ⟨2000 + n, fun k ↦ .ofNat (3000 + 10 * n + k)⟩

def sampleInviteCode (n : Nat) : String := "INVITE-" ++ toString n

/-- An invitation for one person, in the `n`-th call after the friend has joined. -/
def sampleInvite (n : Nat) : GroupCall :=
  .invite sampleCodec (sampleInviteCtx n) (sampleInviteCode n) (.ofNat 1) (.ofNat 1000) 1

/-- The organiser opens the group, a friend joins, and the organiser issues nineteen more invitations. -/
def sampleCalls : List GroupCall := sampleOpening ++ (List.range 19).map sampleInvite

/-- The organiser's membership. -/
def sampleOrganiser : AjoGroupMember := ⟨.ofNat 1001, .ofNat 1000, .ofNat 1, .groupAdmin, .active⟩

def sampleInvited : Db := sampleCalls.foldl groupStep verifiedOrganiser

theorem sampleInvited_eq :
    (liveInvitations sampleInvited sampleOrganiser.id (sampleInviteCtx 19).now).length = 19 ∧
      (spentInvitations sampleInvited sampleOrganiser.id (sampleInviteCtx 19).now).length = 1 := by decide +kernel

/-- The last call of a run is admitted in the state that the others leave. -/
theorem admitted_last {σ κ : Type} {step : σ → κ → σ} {ok : σ → κ → Prop} {s : σ} {calls : List κ} {k : κ}
    (h : AllAdmitted step ok s (calls ++ [k])) : ok (calls.foldl step s) k := by
  induction calls generalizing s with
  | nil => exact h.1
  | cons c calls ih => exact ih h.2

/-- With nineteen live invitations and a spent one, the next is refused. -/
theorem spent_invitation_counts :
    ¬ ∀ calls : List GroupCall, AllAdmitted groupStep CapExact verifiedOrganiser calls := by
  intro h
  have hinvites : InvitesFor sampleInvited (.ofNat 1) (.ofNat 1000) sampleOrganiser := by
    refine ⟨by decide +kernel, ?_⟩
    have hsome : (sampleInvited.ajoGroups.find? fun g ↦ g.id = .ofNat 1000).any (AcceptsMembers ·) = true := by
      decide +kernel
    rw [Option.any_eq_true] at hsome
    obtain ⟨group, hgroup, haccepts⟩ := hsome
    exact ⟨group, hgroup, of_decide_eq_true haccepts⟩
  have hexact : CapExact sampleInvited (sampleInvite 19) := admitted_last (h (sampleCalls ++ [sampleInvite 19]))
  obtain ⟨hlive, hspent⟩ := sampleInvited_eq
  have hrefused : createInvitation sampleCodec (sampleInviteCtx 19) (sampleInviteCode 19) sampleInvited
      (.ofNat 1) (.ofNat 1000) 1 = .error tooManyInvitations ↔ _ := createInvitation_refused_iff hinvites
  rw [length_countedInvitations, hlive, hspent] at hrefused
  have hiff : _ ↔ maxLiveInvitationsPerMember ≤
      (liveInvitations sampleInvited sampleOrganiser.id (sampleInviteCtx 19).now).length := hexact _ hinvites
  rw [hrefused, hlive] at hiff
  exact absurd (hiff.mp (by decide)) (by decide)

end AjoCloud.Ajo
