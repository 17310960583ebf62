import AjoCloud.Common.Json
import AjoCloud.Database.Console
import AjoCloud.Food.Coordinators
import AjoCloud.Lib.Paging
import AjoCloud.Lib.Upsert

/-!
# The notifications of the console

`AdminNotificationService`.  `sync` reads what is outstanding, raises a notification about each of the
rows it was answered, and resolves the notifications about any others.  Its four queries have a limit
and no order.
-/

namespace AjoCloud.Admin

open Lib ServiceError

/-! ## Raising -/

/-- `RaiseNotificationInput`. -/
structure RaiseNotificationInput where
  type : AdminNotificationType
  title : String
  body : String
  href : Option String
  severity : Option AdminNotificationSeverity
  userId : Option Uuid
  permission : Option String
  subjectType : Option String
  subjectId : Option Uuid
deriving DecidableEq

/-- The subject that `raise` looks a notification up by. -/
def RaiseNotificationInput.subject (input : RaiseNotificationInput) :
    Option (AdminNotificationType × String × Uuid) :=
  (truthy input.subjectType).bind fun subjectType ↦
    input.subjectId.map fun subjectId ↦ (input.type, subjectType, subjectId)

/-- The row that `raise` creates. -/
def RaiseNotificationInput.data (ctx : Ctx) (input : RaiseNotificationInput) : AdminNotification where
  id := ctx.uuid 0
  type := input.type
  severity := input.severity.getD .info
  title := input.title
  body := input.body
  href := input.href
  userId := input.userId
  permission := input.permission
  subjectType := input.subjectType
  subjectId := input.subjectId
  resolvedAt := none
  createdAt := ctx.now

/-- What `raise` writes on a notification that is there. -/
def RaiseNotificationInput.refresh (input : RaiseNotificationInput) (n : AdminNotification) :
    AdminNotification :=
  { n with title := input.title, body := input.body, href := input.href, resolvedAt := none }

theorem RaiseNotificationInput.clash_of_refresh {input : RaiseNotificationInput}
    {n m : AdminNotification} (h : Schema.Clash (input.refresh n) m) : Schema.Clash n m := h

/-- The columns of a notification hold the values. -/
def notificationFits (n : AdminNotification) : Prop :=
  fitsVarChar 200 n.title ∧ fitsVarChar 1000 n.body ∧ fitsVarChar 200 (n.href.getD "") ∧
    fitsVarChar 100 (n.permission.getD "") ∧ fitsVarChar 64 (n.subjectType.getD "")

instance (n : AdminNotification) : Decidable (notificationFits n) := by
  unfold notificationFits
  infer_instance

/-- `AdminNotificationService.raise`. -/
def raise (ctx : Ctx) (s : Console) (input : RaiseNotificationInput) :
    Except ServiceError Console := do
  require (notificationFits (input.data ctx)) (.database .valueTooLong)
  match input.subject with
  | none => do
      let notifications ← insertRow s.notifications (input.data ctx)
      pure { s with notifications := notifications }
  | some subject => do
      let (_, notifications) ← orThrow
        (s.notifications.upsert (fun n ↦ n.subject = some subject) (input.data ctx) input.refresh
          RaiseNotificationInput.clash_of_refresh)
        (.database .uniqueConstraint)
      pure { s with notifications := notifications }

/-! ## What is raised -/

/-- How a user is called, given the account and the profile. -/
def describeUser (db : Db) (userId : Uuid) : String :=
  match db.users.find? fun u ↦ u.id = userId with
  | none => "A user"
  | some user =>
      match db.kyc.userProfiles.find? fun p ↦ p.userId = userId with
      | some profile => profile.firstName ++ (" " ++ profile.lastName)
      | none => user.email.getD "A user"

/-- `tier.replace('TIER_', 'Tier ')`. -/
def tierLabel : KycTier → String
  | .tier1 => "Tier 1"
  | .tier2 => "Tier 2"
  | .tier3 => "Tier 3"

/-- What is raised about a verification. -/
def kycInput (db : Db) (profile : KycProfile) : RaiseNotificationInput where
  type := .kycReviewPending
  title := "KYC awaiting review"
  body := describeUser db profile.userId ++ (" submitted " ++ (tierLabel profile.tier ++ " verification."))
  href := some "/admin/kyc"
  severity := some .warning
  userId := none
  permission := some "kyc.review"
  subjectType := some "KycProfile"
  subjectId := some profile.id

/-- What is raised about an application. -/
def coordinatorInput (db : Db) (application : FoodCoordinatorApplication) : RaiseNotificationInput where
  type := .coordinatorApplicationPending
  title := "Coordinator application"
  body := describeUser db application.userId ++ " applied to coordinate a Food Ajo programme."
  href := some "/admin/coordinators"
  severity := none
  userId := none
  permission := some "food-coordinators.review"
  subjectType := some "FoodCoordinatorApplication"
  subjectId := some application.id

/-- What is raised about an inquiry. -/
def inquiryInput (inquiry : SupportInquiry) : RaiseNotificationInput where
  type := .supportInquiryOpened
  title := inquiry.subject
  body := inquiry.name ++ " opened a support inquiry."
  href := some "/admin/support"
  severity := none
  userId := none
  permission := some "disputes.manage"
  subjectType := some "SupportInquiry"
  subjectId := some inquiry.id

/-- What is raised about an invitation. -/
def inviteInput (invite : StaffInvite) : RaiseNotificationInput where
  type := .staffInvitePending
  title := "Staff invitation pending"
  body := invite.firstName ++ (" " ++ (invite.lastName ++ " has not accepted their invite yet."))
  href := some "/admin/staff"
  severity := none
  userId := none
  permission := some "staff.manage"
  subjectType := some "StaffInvite"
  subjectId := some invite.id

/-! ## The queries of `sync` -/

/-- How many rows each of the queries takes. -/
def syncLimit : Nat := 200

/-- A verification that the first query matches. -/
def isKycOpen (p : KycProfile) : Bool := p.status = .pending || p.status = .requiresReview

/-- An application that the second query matches. -/
def isSubmitted (a : FoodCoordinatorApplication) : Bool := a.status = .submitted

/-- An inquiry that the third query matches. -/
def isOpenInquiry (i : SupportInquiry) : Bool := i.status = "OPEN"

/-- An invitation that the fourth query matches. -/
def isPendingInvite (i : StaffInvite) : Bool := i.status = .pending

/-- What the queries answer. -/
structure Pages where
  kyc : List KycProfile
  coordinators : List FoodCoordinatorApplication
  inquiries : List SupportInquiry
  invites : List StaffInvite

/-- The queries may answer so. -/
structure IsPages (s : Console) (pages : Pages) : Prop where
  kyc : IsPage syncLimit (s.desk.db.kyc.profiles.findMany isKycOpen) pages.kyc
  coordinators : IsPage syncLimit (s.desk.applications.findMany isSubmitted) pages.coordinators
  inquiries : IsPage syncLimit (s.inquiries.findMany isOpenInquiry) pages.inquiries
  invites : IsPage syncLimit (s.staffInvites.findMany isPendingInvite) pages.invites

/-- The answers with the rows that were stored first. -/
def firstPages (s : Console) : Pages where
  kyc := (s.desk.db.kyc.profiles.findMany isKycOpen).take syncLimit
  coordinators := (s.desk.applications.findMany isSubmitted).take syncLimit
  inquiries := (s.inquiries.findMany isOpenInquiry).take syncLimit
  invites := (s.staffInvites.findMany isPendingInvite).take syncLimit

theorem isPages_firstPages (s : Console) : IsPages s (firstPages s) :=
  ⟨.take .., .take .., .take .., .take ..⟩

/-- What `sync` raises. -/
def raises (db : Db) (pages : Pages) : List RaiseNotificationInput :=
  pages.kyc.map (kycInput db) ++ (pages.coordinators.map (coordinatorInput db) ++
    (pages.inquiries.map inquiryInput ++ pages.invites.map inviteInput))

/-- The subjects of a type that were answered. -/
def Pages.ids (pages : Pages) : AdminNotificationType → List Uuid
  | .kycReviewPending => pages.kyc.map (·.id)
  | .coordinatorApplicationPending => pages.coordinators.map (·.id)
  | .supportInquiryOpened => pages.inquiries.map (·.id)
  | .staffInvitePending => pages.invites.map (·.id)
  | .waitlistSignup | .system => []

/-- The types that `sync` sees to. -/
def reconciledTypes : List AdminNotificationType :=
  [.kycReviewPending, .coordinatorApplicationPending, .supportInquiryOpened, .staffInvitePending]

/-! ## `sync` -/

/-- Raise one after the other; the `n`th call of the database has the `n`th context. -/
def raiseAll (ctx : Nat → Ctx) : Nat → Console → List RaiseNotificationInput →
    Except ServiceError Console
  | _, s, [] => pure s
  | n, s, input :: rest => do
      let s ← raise (ctx n) s input
      raiseAll ctx (n + 1) s rest

/-- The notification is open, and its subject is not in the set; an empty set leaves out no subject. -/
def isHandled (type : AdminNotificationType) (ids : List Uuid) (n : AdminNotification) : Bool :=
  n.type = type && n.resolvedAt = none && (ids.isEmpty || n.subjectId.any fun i ↦ !ids.contains i)

/-- What `resolveHandled` writes on a notification. -/
def resolve (now : Timestamp) (n : AdminNotification) : AdminNotification :=
  { n with resolvedAt := some now }

theorem clash_of_resolve {now : Timestamp} {n m : AdminNotification}
    (h : Schema.Clash (resolve now n) m) : Schema.Clash n m := h

/-- The `updateMany` of `resolveHandled`. -/
def resolveType (now : Timestamp) (s : Console) (type : AdminNotificationType) (ids : List Uuid) :
    Console :=
  { s with
    notifications := s.notifications.modify (isHandled type ids) (resolve now) clash_of_resolve }

/-- `resolveHandled`; and how many notifications it resolved. -/
def resolveHandled (ctx : Nat → Ctx) : Nat → Console → List (AdminNotificationType × List Uuid) →
    Nat × Console
  | _, s, [] => (0, s)
  | n, s, (type, ids) :: rest =>
      let count := (s.notifications.findMany (isHandled type ids)).length
      let result := resolveHandled ctx (n + 1) (resolveType (ctx n).now s type ids) rest
      (count + result.1, result.2)

/-- What `sync` returns. -/
structure SyncCounts where
  raised : Nat
  resolved : Nat
deriving DecidableEq, Repr

/-- `AdminNotificationService.sync`, undisturbed, for what its queries answer. -/
def sync (ctx : Nat → Ctx) (pages : Pages) (s : Console) :
    Except ServiceError (SyncCounts × Console) := do
  let inputs := raises s.desk.db pages
  let raised ← raiseAll ctx 0 s inputs
  let result := resolveHandled ctx inputs.length raised
    (reconciledTypes.map fun type ↦ (type, pages.ids type))
  pure (⟨inputs.length, result.1⟩, result.2)

end AjoCloud.Admin
