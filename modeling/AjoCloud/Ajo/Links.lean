import AjoCloud.Ajo.Groups
import AjoCloud.Auth.Challenges
import AjoCloud.Database.People

/-!
# Links to a group

What `GroupInvitationsService` does with the code of a link: `preview` shows the group to anyone, and
`resolveGroup` tells a member which group it is.  `join` looks at the code again, with checks of its own.
-/

namespace AjoCloud.Ajo

open Lib ServiceError

/-! ## `group-invitation-policy.ts` -/

/-- `effectiveInvitationStatus`. -/
def effectiveInvitationStatus (now : Timestamp) (invitation : GroupInvitation) : GroupInvitationStatus :=
  if invitation.status ≠ .active then invitation.status
  else if invitation.expiresAt ≤ now then .expired
  else if invitation.maxUses ≤ invitation.useCount then .exhausted
  else .active

theorem effectiveInvitationStatus_eq_active_iff {now : Timestamp} {invitation : GroupInvitation} :
    effectiveInvitationStatus now invitation = .active ↔
      invitation.status = .active ∧ now < invitation.expiresAt ∧
        invitation.useCount < invitation.maxUses := by
  rw [effectiveInvitationStatus]
  split
  · next hstatus => exact iff_of_false hstatus fun h ↦ hstatus h.1
  · next hstatus =>
      split
      · next hexpired => exact iff_of_false nofun fun h ↦ absurd h.2.1 (not_lt.mpr hexpired)
      · next hlive =>
          split
          · next hspent => exact iff_of_false nofun fun h ↦ absurd h.2.2 (not_lt.mpr hspent)
          · next huses =>
              exact iff_of_true rfl ⟨not_not.mp hstatus, not_le.mp hlive, not_le.mp huses⟩

/-! ## Looking a code up -/

/-- `findListedGroup`. -/
def findListedGroup (codec : Codec) (db : Db) (code : String) : Option AjoGroup :=
  (normalisePublicCode codec code).bind fun shortCode ↦
    (db.ajoGroups.find? fun g ↦ g.shortCode = shortCode).filter fun g ↦
      g.publiclyListed && g.deletedAt.isNone && AcceptsMembers g

/-- `findLiveInvitation`; the foreign key sees to it that an invitation has its group. -/
def findLiveInvitation (codec : Codec) (now : Timestamp) (db : Db) (code : String) :
    Except ServiceError (GroupInvitation × AjoGroup) := do
  let refusal := notFound "This invitation is no longer valid"
  let canonical ← orThrow (canonicalInvitationCode codec code) refusal
  let invitation ← orThrow
    (db.groupInvitations.find? fun i ↦ i.tokenDigest = codec.digestInvitationCode canonical) refusal
  let group ← orThrow (db.ajoGroups.find? fun g ↦ g.id = invitation.groupId) refusal
  require (effectiveInvitationStatus now invitation = .active ∧ AcceptsMembers group) refusal
  pure (invitation, group)

/-- `GroupInvitationsService.resolveGroup`: the group's identifier and its name. -/
def resolveGroup (codec : Codec) (now : Timestamp) (db : Db) (code : String) :
    Except ServiceError (Uuid × String) :=
  match findListedGroup codec db code with
  | some listed => .ok (listed.id, listed.name)
  | none => do
      let (_, group) ← findLiveInvitation codec now db code
      pure (group.id, group.name)

/-! ## The preview -/

/-- How the page of a link was reached. -/
inductive PreviewKind where
  | invitation
  | listed
deriving DecidableEq

/-- `PublicInvitationPreview`. -/
structure PublicInvitationPreview where
  kind : PreviewKind
  shortCode : Option String
  groupName : String
  description : Option String
  inviterName : String
  contributionAmountMinor : String
  currency : String
  contributionFrequency : ContributionFrequency
  memberCount : Nat
  maxMembers : Nat
  startDate : String
  expiresAt : Option String

/-- What `describe` is told of how the group was found. -/
structure PreviewContext where
  kind : PreviewKind
  shortCode : Option String
  inviterUserId : Option Uuid
  expiresAt : Option String

/-- `describe`. -/
def describe (db : Db) (profiles : Table UserProfile) (group : AjoGroup) (context : PreviewContext) :
    PublicInvitationPreview :=
  let inviter := context.inviterUserId.bind fun userId ↦ profiles.find? fun p ↦ p.userId = userId
  { kind := context.kind
    shortCode := context.shortCode
    groupName := group.name
    description := if context.kind = .listed then group.description else none
    inviterName := (inviter.map fun inviter ↦
      trim (inviter.firstName ++ " " ++ sliceTo 1 inviter.lastName ++ ".")).getD "A member"
    contributionAmountMinor := toString (group.contributionUnitMinor.getD group.baseContributionMinor)
    currency := group.currency
    contributionFrequency := group.contributionFrequency
    memberCount := (activeMembersOf db group.id).length
    maxMembers := group.maxMembers
    startDate := sliceTo 10 (Auth.toISOString group.startDate)
    expiresAt := context.expiresAt }

/-- `GroupInvitationsService.preview`. -/
def preview (codec : Codec) (now : Timestamp) (db : Db) (profiles : Table UserProfile) (code : String) :
    Except ServiceError PublicInvitationPreview :=
  match findListedGroup codec db code with
  | some listed =>
      let admin := db.ajoGroupMembers.find? fun m ↦
        m.groupId = listed.id ∧ m.role = .groupAdmin ∧ m.status = .active
      .ok (describe db profiles listed ⟨.listed, some listed.shortCode, admin.map (·.userId), none⟩)
  | none => do
      let (invitation, group) ← findLiveInvitation codec now db code
      let createdBy := db.ajoGroupMembers.find? fun m ↦ m.id = invitation.createdByMemberId
      pure (describe db profiles group
        ⟨.invitation, none, createdBy.map (·.userId), some (Auth.toISOString invitation.expiresAt)⟩)

/-- **A preview is shown exactly when the link resolves**, and it is that of the same group. -/
theorem preview_iff_resolves (codec : Codec) (now : Timestamp) (db : Db) (profiles : Table UserProfile)
    (code : String) :
    ((∃ shown, preview codec now db profiles code = .ok shown) ↔
        ∃ r, resolveGroup codec now db code = .ok r) ∧
      ∀ shown r, preview codec now db profiles code = .ok shown → resolveGroup codec now db code = .ok r →
        shown.groupName = r.2 := by
  rw [preview, resolveGroup]
  cases findListedGroup codec db code with
  | some listed =>
      refine ⟨iff_of_true ⟨_, rfl⟩ ⟨_, rfl⟩, ?_⟩
      rintro _ _ ⟨⟩ ⟨⟩
      rfl
  | none =>
      cases findLiveInvitation codec now db code with
      | error e => exact ⟨iff_of_false nofun nofun, nofun⟩
      | ok found =>
          refine ⟨iff_of_true ⟨_, rfl⟩ ⟨_, rfl⟩, ?_⟩
          rintro _ _ ⟨⟩ ⟨⟩
          rfl

/-! ## Opening and admitting -/

section Links

variable {codec : Codec} {now : Timestamp} {ctx : Ctx} {db : Db} {code : String} {groupId : Uuid}

/-- The status and the code are in order when one asks to join a group; the organiser, the capacity and
earlier memberships are left aside. -/
def CodeAdmits (codec : Codec) (ctx : Ctx) (db : Db) (groupId : Uuid) (code : String) : Prop :=
  ∃ group, db.ajoGroups.find? (fun g ↦ g.id = groupId) = some group ∧ AcceptsMembers group ∧
    ∃ spent, admission codec ctx db group code = .ok spent

/-- The group is listed under the code. -/
structure Listed (codec : Codec) (code : String) (g : AjoGroup) : Prop where
  code : normalisePublicCode codec code = some g.shortCode
  listed : g.publiclyListed = true

/-- The code is that of an invitation which is effectively active. -/
structure LiveInvitation (codec : Codec) (now : Timestamp) (db : Db) (code : String)
    (i : GroupInvitation) : Prop where
  mem : i ∈ db.groupInvitations.rows
  code : ∃ canonical, canonicalInvitationCode codec code = some canonical ∧
    i.tokenDigest = codec.digestInvitationCode canonical
  active : effectiveInvitationStatus now i = .active

/-- Short codes are unique. -/
theorem Listed.unique {g g' : AjoGroup} (h : Listed codec code g) (h' : Listed codec code g')
    (hg : g ∈ db.ajoGroups.rows) (hg' : g' ∈ db.ajoGroups.rows) : g = g' :=
  db.ajoGroups.eq_of_clash hg hg' (.inr ⟨rfl, h.code.symm.trans h'.code⟩)

/-- Digests are unique. -/
theorem LiveInvitation.unique {i i' : GroupInvitation} (h : LiveInvitation codec now db code i)
    (h' : LiveInvitation codec now db code i') : i = i' := by
  obtain ⟨canonical, hcanonical, hdigest⟩ := h.code
  obtain ⟨canonical', hcanonical', hdigest'⟩ := h'.code
  rw [hcanonical, Option.some_inj] at hcanonical'
  subst hcanonical'
  exact db.groupInvitations.eq_of_clash h.mem h'.mem (.inr ⟨rfl, congrArg some (hdigest.trans hdigest'.symm)⟩)

/-- What `join` asks of the code is that the group is listed under it, or that a live invitation to the group
has it. -/
theorem codeAdmits_iff : CodeAdmits codec ctx db groupId code ↔
    ∃ g ∈ db.ajoGroups.rows, g.id = groupId ∧ AcceptsMembers g ∧
      (Listed codec code g ∨ ∃ i, LiveInvitation codec ctx.now db code i ∧ i.groupId = groupId) := by
  have hadmission : ∀ g : AjoGroup, (∃ spent, admission codec ctx db g code = .ok spent) ↔
      Listed codec code g ∨ ∃ i, LiveInvitation codec ctx.now db code i ∧ i.groupId = g.id := by
    intro g
    have hlisting : ((normalisePublicCode codec code).any fun publicCode ↦
        g.publiclyListed && g.shortCode = publicCode) = true ↔ Listed codec code g := by
      rw [Option.any_eq_true]
      constructor
      · rintro ⟨publicCode, hcode, hlisted⟩
        rw [Bool.and_eq_true, decide_eq_true_eq] at hlisted
        exact ⟨hlisted.2 ▸ hcode, hlisted.1⟩
      · rintro ⟨hcode, hlisted⟩
        exact ⟨g.shortCode, hcode, by simp [hlisted]⟩
    rw [admission, ← hlisting]
    split
    · next hvia => exact iff_of_true ⟨none, rfl⟩ (.inl hvia)
    · next hvia =>
        rw [or_iff_right hvia]
        simp only [bind_eq_ok, orThrow_eq_ok, require_eq_ok, pure_eq_ok, exists_const]
        constructor
        · rintro ⟨_, canonical, hcanonical, i, hfind, hadmits, rfl⟩
          exact ⟨i, ⟨Table.mem_of_find? hfind,
            ⟨canonical, hcanonical, by simpa using Table.prop_of_find? hfind⟩,
            effectiveInvitationStatus_eq_active_iff.mpr hadmits.2⟩, hadmits.1⟩
        · rintro ⟨i, hlive, hgroup⟩
          obtain ⟨canonical, hcanonical, hdigest⟩ := hlive.code
          refine ⟨some i, canonical, hcanonical, i, ?_, ⟨hgroup, ?_⟩, rfl⟩
          · exact db.groupInvitations.find?_eq_some_of_mem hlive.mem (decide_eq_true hdigest) fun j _ hj ↦
              .inr ⟨rfl, congrArg some ((of_decide_eq_true hj).trans hdigest.symm)⟩
          · exact effectiveInvitationStatus_eq_active_iff.mp hlive.active
  constructor
  · rintro ⟨g, hfind, haccepts, hspent⟩
    have hid : g.id = groupId := by simpa using Table.prop_of_find? hfind
    subst hid
    exact ⟨g, Table.mem_of_find? hfind, rfl, haccepts, (hadmission g).mp hspent⟩
  · rintro ⟨g, hg, rfl, haccepts, hform⟩
    refine ⟨g, ?_, haccepts, (hadmission g).mpr hform⟩
    exact db.ajoGroups.find?_eq_some_of_mem hg (decide_eq_true rfl) fun x _ hx ↦
      .inl (of_decide_eq_true hx)

/-- A listed group that the link opens. -/
def Shown (codec : Codec) (db : Db) (code : String) (g : AjoGroup) : Prop :=
  g ∈ db.ajoGroups.rows ∧ Listed codec code g ∧ g.deletedAt = none ∧ AcceptsMembers g

theorem findListedGroup_eq_some_iff {g : AjoGroup} :
    findListedGroup codec db code = some g ↔ Shown codec db code g := by
  rw [findListedGroup, Option.bind_eq_some_iff]
  simp only [Option.filter_eq_some_iff, Bool.and_eq_true, Option.isNone_iff_eq_none, decide_eq_true_eq]
  constructor
  · rintro ⟨shortCode, hcode, hfind, ⟨hlisted, hdeleted⟩, haccepts⟩
    have hshort : g.shortCode = shortCode := by simpa using Table.prop_of_find? hfind
    exact ⟨Table.mem_of_find? hfind, ⟨hshort ▸ hcode, hlisted⟩, hdeleted, haccepts⟩
  · rintro ⟨hg, hlisted, hdeleted, haccepts⟩
    refine ⟨g.shortCode, hlisted.code, ?_, ⟨hlisted.listed, hdeleted⟩, haccepts⟩
    exact db.ajoGroups.find?_eq_some_of_mem hg (decide_eq_true rfl) fun x _ hx ↦
      .inr ⟨rfl, congrArg some (of_decide_eq_true hx)⟩

theorem findLiveInvitation_eq_ok_iff {i : GroupInvitation} {g : AjoGroup} :
    findLiveInvitation codec now db code = .ok (i, g) ↔
      LiveInvitation codec now db code i ∧ g ∈ db.ajoGroups.rows ∧ g.id = i.groupId ∧ AcceptsMembers g := by
  simp only [findLiveInvitation, bind_eq_ok, orThrow_eq_ok, require_eq_ok, pure_eq_ok, exists_const,
    Prod.mk.injEq]
  constructor
  · rintro ⟨canonical, hcanonical, i, hfind, g, hgroup, ⟨hactive, haccepts⟩, rfl, rfl⟩
    exact ⟨⟨Table.mem_of_find? hfind, ⟨canonical, hcanonical, by simpa using Table.prop_of_find? hfind⟩,
      hactive⟩, Table.mem_of_find? hgroup, by simpa using Table.prop_of_find? hgroup, haccepts⟩
  · rintro ⟨hlive, hg, hid, haccepts⟩
    obtain ⟨canonical, hcanonical, hdigest⟩ := hlive.code
    refine ⟨canonical, hcanonical, i, ?_, g, ?_, ⟨hlive.active, haccepts⟩, rfl, rfl⟩
    · exact db.groupInvitations.find?_eq_some_of_mem hlive.mem (decide_eq_true hdigest) fun j _ hj ↦
        .inr ⟨rfl, congrArg some ((of_decide_eq_true hj).trans hdigest.symm)⟩
    · exact db.ajoGroups.find?_eq_some_of_mem hg (decide_eq_true hid) fun x _ hx ↦
        .inl ((of_decide_eq_true hx).trans hid.symm)

/-- The link resolves to the group. -/
def Resolves (codec : Codec) (now : Timestamp) (db : Db) (groupId : Uuid) (code : String) : Prop :=
  ∃ name, resolveGroup codec now db code = .ok (groupId, name)

/-- A link resolves to the group that it shows, or else to that of its invitation. -/
theorem resolves_iff : Resolves codec now db groupId code ↔
    (∃ g, Shown codec db code g ∧ g.id = groupId) ∨
      (¬ ∃ g, Shown codec db code g) ∧ ∃ i, LiveInvitation codec now db code i ∧
        ∃ g ∈ db.ajoGroups.rows, g.id = groupId ∧ g.id = i.groupId ∧ AcceptsMembers g := by
  rw [Resolves, resolveGroup]
  cases hlisted : findListedGroup codec db code with
  | some listed =>
      have hshown := findListedGroup_eq_some_iff.mp hlisted
      have hunique : ∀ g, Shown codec db code g → g = listed := fun g hg ↦
        hg.2.1.unique hshown.2.1 hg.1 hshown.1
      constructor
      · rintro ⟨name, h⟩
        cases h
        exact .inl ⟨listed, hshown, rfl⟩
      · rintro (⟨g, hg, rfl⟩ | ⟨hnone, -⟩)
        · rw [hunique g hg]
          exact ⟨_, rfl⟩
        · exact absurd ⟨listed, hshown⟩ hnone
  | none =>
      have hnone : ¬ ∃ g, Shown codec db code g := by
        rintro ⟨g, hg⟩
        rw [findListedGroup_eq_some_iff.mpr hg] at hlisted
        cases hlisted
      simp only [bind_eq_ok, pure_eq_ok, Prod.mk.injEq]
      constructor
      · rintro ⟨name, ⟨i, g⟩, hfound, hid, -⟩
        obtain ⟨hlive, hg, hgroup, haccepts⟩ := findLiveInvitation_eq_ok_iff.mp hfound
        exact .inr ⟨hnone, i, hlive, g, hg, hid, hgroup, haccepts⟩
      · rintro (⟨g, hg, -⟩ | ⟨-, i, hlive, g, hg, hid, hgroup, haccepts⟩)
        · exact absurd ⟨g, hg⟩ hnone
        · exact ⟨g.name, (i, g), findLiveInvitation_eq_ok_iff.mpr ⟨hlive, hg, hgroup, haccepts⟩, hid, rfl⟩

/-- A group that is listed under the code and takes members has a live invitation with the code, or it is not
deleted and no live invitation with the code is to a group that takes members. -/
def OpensWhatItAdmits (codec : Codec) (now : Timestamp) (db : Db) (code : String) : Prop :=
  ∀ g ∈ db.ajoGroups.rows, Listed codec code g → AcceptsMembers g →
    (∃ i, LiveInvitation codec now db code i ∧ i.groupId = g.id) ∨
      g.deletedAt = none ∧ ¬ ∃ i, LiveInvitation codec now db code i ∧
        ∃ x ∈ db.ajoGroups.rows, x.id = i.groupId ∧ AcceptsMembers x

/-- **When a link that opens is a link that admits.** -/
theorem resolves_iff_admits (codec : Codec) (ctx : Ctx) (db : Db) (profiles : Table UserProfile)
    (code : String) :
    ((∀ groupId, Resolves codec ctx.now db groupId code ↔ CodeAdmits codec ctx db groupId code) ↔
        OpensWhatItAdmits codec ctx.now db code) ∧
      ((∃ shown, preview codec ctx.now db profiles code = .ok shown) ↔
        ∃ groupId, Resolves codec ctx.now db groupId code) := by
  constructor
  · constructor
    · intro h g hg hlisted haccepts
      have hadmitted : ∀ x ∈ db.ajoGroups.rows, AcceptsMembers x →
          (Listed codec code x ∨ ∃ i, LiveInvitation codec ctx.now db code i ∧ i.groupId = x.id) →
            Resolves codec ctx.now db x.id code := fun x hx haccepts hform ↦
        (h x.id).mpr (codeAdmits_iff.mpr ⟨x, hx, rfl, haccepts, hform⟩)
      rcases resolves_iff.mp (hadmitted g hg haccepts (.inl hlisted)) with
        ⟨x, hshown, hid⟩ | ⟨-, i, hlive, x, -, hid, hgroup, -⟩
      · obtain rfl : x = g := db.ajoGroups.eq_of_clash hshown.1 hg (.inl hid)
        by_cases hlive : ∃ i, LiveInvitation codec ctx.now db code i ∧
            ∃ x ∈ db.ajoGroups.rows, x.id = i.groupId ∧ AcceptsMembers x
        · -- the group of the invitation is admitted, and what resolves is the one that is shown
          obtain ⟨i, hlive, y, hy, hgroup, hyaccepts⟩ := hlive
          rcases resolves_iff.mp (hadmitted y hy hyaccepts (.inr ⟨i, hlive, hgroup.symm⟩)) with
            ⟨z, hz, hzid⟩ | ⟨hnone, -⟩
          · obtain rfl := hz.2.1.unique hlisted hz.1 hg
            exact .inl ⟨i, hlive, hgroup.symm.trans hzid.symm⟩
          · exact absurd ⟨x, hshown⟩ hnone
        · exact .inr ⟨hshown.2.2.1, hlive⟩
      · exact .inl ⟨i, hlive, hgroup.symm.trans hid⟩
    · intro hcond groupId
      rw [resolves_iff, codeAdmits_iff]
      constructor
      · rintro (⟨g, hshown, hid⟩ | ⟨-, i, hlive, g, hg, hid, hgroup, haccepts⟩)
        · exact ⟨g, hshown.1, hid, hshown.2.2.2, .inl hshown.2.1⟩
        · exact ⟨g, hg, hid, haccepts, .inr ⟨i, hlive, hgroup.symm.trans hid⟩⟩
      · rintro ⟨g, hg, hid, haccepts, hform⟩
        by_cases hany : ∃ x, Shown codec db code x
        · obtain ⟨x, hx⟩ := hany
          refine .inl ⟨x, hx, ?_⟩
          rcases hform with hlisted | ⟨i, hlive, hgroup⟩
          · rw [hx.2.1.unique hlisted hx.1 hg, hid]
          · rcases hcond x hx.1 hx.2.1 hx.2.2.2 with ⟨i', hlive', hgroup'⟩ | ⟨-, hnone⟩
            · rw [← hgroup', hlive'.unique hlive, hgroup]
            · exact absurd ⟨i, hlive, g, hg, hid.trans hgroup.symm, haccepts⟩ hnone
        · refine .inr ⟨hany, ?_⟩
          rcases hform with hlisted | ⟨i, hlive, hgroup⟩
          · rcases hcond g hg hlisted haccepts with ⟨i, hlive, hgroup⟩ | ⟨hkept, -⟩
            · exact ⟨i, hlive, g, hg, hid, hgroup.symm, haccepts⟩
            · exact absurd ⟨g, hg, hlisted, hkept, haccepts⟩ hany
          · exact ⟨i, hlive, g, hg, hid, hid.trans hgroup.symm, haccepts⟩
  · rw [(preview_iff_resolves codec ctx.now db profiles code).1]
    constructor
    · rintro ⟨⟨groupId, name⟩, h⟩
      exact ⟨groupId, name, h⟩
    · rintro ⟨groupId, name, h⟩
      exact ⟨(groupId, name), h⟩

/-! ### A listed group that was deleted -/

/-- Codes without letters beyond ASCII, digested to themselves. -/
def linkCodec : Codec := ⟨AjoCloud.toUpperCase, id⟩

def deletedGroup : AjoGroup where
  id := .ofNat 1000
  name := "Friends"
  status := .open
  contributionFrequency := .daily
  baseContributionMinor := 100
  maxSlots := 2
  maxSlotsPerMember := 2
  startDate := 86400000
  endDate := 864000000
  createdByUserId := .ofNat 1
  shortCode := "7KQ3MZP"
  publiclyListed := true
  deletedAt := some 500

def deletedListing : Db := { Db.empty with ajoGroups := ⟨[deletedGroup], by decide⟩ }

/-- The link opens nothing, and the code is still good for joining. -/
theorem deleted_group_admits :
    ¬ Resolves linkCodec 1000 deletedListing (.ofNat 1000) "7KQ3MZP" ∧
      CodeAdmits linkCodec ⟨1000, .ofNat⟩ deletedListing (.ofNat 1000) "7KQ3MZP" := by
  constructor
  · have hrefused : resolveGroup linkCodec 1000 deletedListing "7KQ3MZP" =
        .error (notFound "This invitation is no longer valid") := by decide +kernel
    rintro ⟨name, h⟩
    rw [hrefused] at h
    cases h
  · have hcode : normalisePublicCode linkCodec "7KQ3MZP" = some "7KQ3MZP" := by decide +kernel
    exact codeAdmits_iff.mpr ⟨deletedGroup, List.mem_singleton.mpr rfl, rfl, .inr rfl, .inl ⟨hcode, rfl⟩⟩

end Links

end AjoCloud.Ajo
