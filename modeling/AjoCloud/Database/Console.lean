import AjoCloud.Database.Coordinators
import AjoCloud.Database.Identity

/-!
# The rows of the console

The notifications of the staff, and the inquiries that members send to support.
-/

namespace AjoCloud

open Lib

/-- `AdminNotificationType`. -/
inductive AdminNotificationType where
  | kycReviewPending
  | coordinatorApplicationPending
  | supportInquiryOpened
  | staffInvitePending
  | waitlistSignup
  | system
deriving DecidableEq, Repr

/-- `AdminNotificationSeverity`. -/
inductive AdminNotificationSeverity where
  | info
  | warning
  | critical
deriving DecidableEq, Repr

/-- A notification of the console, addressed to one of the staff or to all that have a permission. -/
structure AdminNotification where
  id : Uuid
  type : AdminNotificationType
  severity : AdminNotificationSeverity
  title : String
  body : String
  href : Option String
  userId : Option Uuid
  permission : Option String
  subjectType : Option String
  subjectId : Option Uuid
  resolvedAt : Option Timestamp
  createdAt : Timestamp
deriving DecidableEq

/-- What a notification is about; nothing, unless both columns of the subject are there. -/
def AdminNotification.subject (n : AdminNotification) : Option (AdminNotificationType × String × Uuid) :=
  n.subjectType.bind fun subjectType ↦ n.subjectId.map fun subjectId ↦ (n.type, subjectType, subjectId)

instance : Schema AdminNotification := (Schema.primary fun n ↦ n.id).unique (·.subject)

/-- What somebody asked of support. -/
structure SupportInquiry where
  id : Uuid
  name : String
  subject : String
  status : String
  createdAt : Timestamp
deriving DecidableEq

instance : Schema SupportInquiry := Schema.primary (·.id)

/-- The tables that the console reads. -/
structure Console where
  desk : CoordinatorDesk
  inquiries : Table SupportInquiry
  staffInvites : Table StaffInvite
  notifications : Table AdminNotification

end AjoCloud
