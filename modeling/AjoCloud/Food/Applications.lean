import AjoCloud.Food.Coordinators
import AjoCloud.Kyc.Facts
import AjoCloud.Lib.Threads

/-!
# One application at a time

`create` looks for an active application of the user and stores a new one afterwards; in between others
take their steps, and a review can take up a rejected application once there is a newer one.  The partial
index on the applications refuses the second active one whichever way it comes about, and what keeps a
user to one active application keeps a suspended coordinator from programmes.
-/

namespace AjoCloud.Food

open Lib ServiceError

/-! ## Steps -/

/-- A call, or what is left of it. -/
inductive CoordinatorRequest where
  /-- `create`, before it looks for an active application. -/
  | create (userId : Uuid) (dto : CreateFoodCoordinatorApplicationDto)
  /-- The same, when there was none. -/
  | store (userId : Uuid) (dto : CreateFoodCoordinatorApplicationDto)
  /-- `update`, before it reads the application. -/
  | update (userId applicationId : Uuid) (dto : UpdateFoodCoordinatorApplicationDto)
  /-- The same, when it could be edited. -/
  | edit (applicationId : Uuid) (dto : UpdateFoodCoordinatorApplicationDto)
  | submit (userId applicationId : Uuid)
  | requestInformation (reviewerUserId applicationId : Uuid) (notes : String)
  | reject (reviewerUserId applicationId : Uuid) (notes : String)
  | suspend (reviewerUserId applicationId : Uuid) (notes : String)
  | approve (reviewerUserId applicationId : Uuid) (dto : ApproveFoodCoordinatorApplicationDto)
  /-- A step of the rest of the platform. -/
  | elsewhere (db' : Db)

/-- What a call starts as. -/
def CoordinatorRequest.isCall : CoordinatorRequest → Bool
  | .store .. | .edit .. => false
  | _ => true

/-- The desk, and the users whose coordinator was suspended and not approved since. -/
structure CoordinatorWatch where
  desk : CoordinatorDesk
  suspended : List Uuid

/-- The watch after a call that leaves the desk and suspends nobody. -/
def CoordinatorWatch.after {α : Type} (w : CoordinatorWatch)
    (result : Except ServiceError (α × CoordinatorDesk)) : CoordinatorWatch :=
  { w with desk := committed w.desk result }

/-- One step of a call. -/
def attend (ctx : Ctx) (w : CoordinatorWatch) :
    CoordinatorRequest → CoordinatorWatch × Option CoordinatorRequest
  | .create userId dto =>
      match assertNoneActive w.desk userId with
      | .error _ => (w, none)
      | .ok _ => (w, some (.store userId dto))
  | .store userId dto => (w.after (storeApplication ctx w.desk userId dto), none)
  | .update userId applicationId dto =>
      match assertEditable w.desk userId applicationId with
      | .error _ => (w, none)
      | .ok _ => (w, some (.edit applicationId dto))
  | .edit applicationId dto => (w.after (storeEdit ctx.now w.desk applicationId dto), none)
  | .submit userId applicationId =>
      (w.after (submitApplication ctx.now w.desk userId applicationId), none)
  | .requestInformation reviewerUserId applicationId notes =>
      (w.after (requestInformation ctx w.desk reviewerUserId applicationId notes), none)
  | .reject reviewerUserId applicationId notes =>
      (w.after (rejectApplication ctx w.desk reviewerUserId applicationId notes), none)
  | .suspend reviewerUserId applicationId notes =>
      match suspendApplication ctx w.desk reviewerUserId applicationId notes with
      | .error _ => (w, none)
      | .ok (userId, desk) => (⟨desk, userId :: w.suspended⟩, none)
  | .approve reviewerUserId applicationId dto =>
      match approveApplication ctx w.desk reviewerUserId applicationId dto with
      | .error _ => (w, none)
      | .ok (userId, desk) => (⟨desk, w.suspended.filter (· ≠ userId)⟩, none)
  | .elsewhere db' => ({ w with desk := { w.desk with db := db' } }, none)

/-! ## One active application -/

/-- A user has one active application at most. -/
def OneAtATime (applications : Table FoodCoordinatorApplication) : Prop :=
  ∀ a ∈ applications.rows, ∀ b ∈ applications.rows, a.userId = b.userId → isActive a = true →
    isActive b = true → a = b

/-- Applications of one user that are both active clash in the partial index. -/
theorem clash_of_isActive {a b : FoodCoordinatorApplication} (howner : a.userId = b.userId)
    (ha : isActive a = true) (hb : isActive b = true) : Schema.Clash a b := by
  have hkey : ∀ {c : FoodCoordinatorApplication}, isActive c = true →
      ¬ (c.status = .rejected ∨ c.status = .revoked ∨ c.status = .expired) := by
    intro c hc
    simpa [isActive, and_assoc, not_or] using hc
  refine .inr ?_
  dsimp only
  rw [if_neg (hkey ha), if_neg (hkey hb), howner]
  exact ⟨rfl, rfl⟩

/-- Applications that clash are the same, or of one user and both active. -/
theorem cases_of_clash {a b : FoodCoordinatorApplication} (h : Schema.Clash a b) :
    a.id = b.id ∨ a.userId = b.userId ∧ isActive a = true := by
  rcases h with hid | ⟨hsome, hkey⟩
  · exact .inl hid
  · dsimp only at hsome hkey
    split at hsome
    · cases hsome
    · next ha =>
        rw [if_neg ha] at hkey
        split at hkey
        · cases hkey
        · refine .inr ⟨Option.some.inj hkey, ?_⟩
          simpa [isActive, and_assoc, not_or] using ha

theorem oneAtATime (applications : Table FoodCoordinatorApplication) : OneAtATime applications :=
  fun _ ha _ hb howner ha' hb' ↦ applications.eq_of_clash ha hb (clash_of_isActive howner ha' hb')

/-! ## What a step does to the applications -/

/-- One application was written, as `write` says. -/
structure Written (write : FoodCoordinatorApplication → FoodCoordinatorApplication)
    (a : FoodCoordinatorApplication) (applications applications' : Table FoodCoordinatorApplication) :
    Prop where
  mem : a ∈ applications.rows
  rows : applications'.rows = applications.rows.map fun x ↦ if x.id = a.id then write x else x

section Transactions

variable {ctx : Ctx} {now : Timestamp} {desk desk' : CoordinatorDesk} {userId applicationId : Uuid}
  {reviewerUserId : Uuid} {notes : String} {applications applications' : Table FoodCoordinatorApplication}
  {write : FoodCoordinatorApplication → FoodCoordinatorApplication} {a x : FoodCoordinatorApplication}

theorem eq_of_application_id (ha : a ∈ applications.rows) (hx : x ∈ applications.rows)
    (h : x.id = a.id) : x = a := applications.eq_of_clash hx ha (.inl h)

/-- A row afterwards is the one that was written, or another one that was there before. -/
theorem Written.cases (h : Written write a applications applications')
    (hx : x ∈ applications'.rows) : x = write a ∨ x ∈ applications.rows ∧ x.id ≠ a.id := by
  rw [h.rows, List.mem_map] at hx
  obtain ⟨y, hy, rfl⟩ := hx
  split
  · next hid => exact .inl (by rw [eq_of_application_id h.mem hy hid])
  · next hid => exact .inr ⟨hy, hid⟩

theorem updateApplication_written (ha : a ∈ desk.applications.rows) (hid : a.id = applicationId)
    (h : updateApplication desk applicationId write = .ok desk') :
    Written write a desk.applications desk'.applications := by
  simp only [updateApplication, bind_eq_ok, pure_eq_ok] at h
  obtain ⟨applications, hrows, rfl⟩ := h
  exact ⟨ha, by simpa [hid] using updateRow_eq_ok hrows⟩

theorem mem_of_applicationById (h : applicationById desk applicationId = .ok a) :
    a ∈ desk.applications.rows ∧ a.id = applicationId := by
  have hfind := orThrow_eq_ok.mp h
  exact ⟨Table.mem_of_find? hfind, by simpa using Table.prop_of_find? hfind⟩

theorem ownApplication_eq_ok (h : ownApplication desk userId applicationId = .ok a) :
    a ∈ desk.applications.rows ∧ a.id = applicationId := by
  simp only [ownApplication, bind_eq_ok, require_eq_ok, pure_eq_ok, exists_const] at h
  obtain ⟨_, hfind, -, rfl⟩ := h
  exact mem_of_applicationById hfind

theorem applications_of_recordTransition {fromStatus toStatus : FoodCoordinatorApplicationStatus}
    (h : recordTransition ctx desk reviewerUserId applicationId fromStatus toStatus notes = .ok desk') :
    desk'.applications = desk.applications := by
  simp only [recordTransition, bind_eq_ok, require_eq_ok, pure_eq_ok, exists_const] at h
  obtain ⟨-, reviews, -, rfl⟩ := h
  rfl

theorem applications_of_upsertCoordinator {kycProfileId : Uuid}
    (h : upsertCoordinator ctx desk kycProfileId = .ok desk') :
    desk'.applications = desk.applications := by
  unfold upsertCoordinator at h
  split at h
  · simp only [bind_eq_ok, pure_eq_ok] at h
    obtain ⟨_, -, rfl⟩ := h
    rfl
  · simp only [bind_eq_ok, pure_eq_ok] at h
    obtain ⟨_, -, rfl⟩ := h
    rfl

theorem storeApplication_rows {dto : CreateFoodCoordinatorApplicationDto}
    (h : storeApplication ctx desk userId dto = .ok (a, desk')) :
    desk'.applications.rows = desk.applications.rows ++ [newApplication ctx userId dto] := by
  simp only [storeApplication, bind_eq_ok, require_eq_ok, pure_eq_ok, exists_const,
    Prod.mk.injEq] at h
  obtain ⟨-, applications, hinsert, -, rfl⟩ := h
  exact insertRow_eq_ok hinsert

theorem storeEdit_written {dto : UpdateFoodCoordinatorApplicationDto} {u : Unit}
    (h : storeEdit now desk applicationId dto = .ok (u, desk')) :
    ∃ a, Written (editApplication now dto) a desk.applications desk'.applications := by
  simp only [storeEdit, bind_eq_ok, require_eq_ok, pure_eq_ok, exists_const, Prod.mk.injEq] at h
  obtain ⟨-, desk', hupdate, -, rfl⟩ := h
  have hrow := hupdate
  simp only [updateApplication, bind_eq_ok, pure_eq_ok] at hrow
  obtain ⟨_, hrow, -⟩ := hrow
  obtain ⟨a, ha, hid⟩ := exists_of_updateRow hrow
  exact ⟨a, updateApplication_written ha (by simpa using hid) hupdate⟩

theorem submitApplication_written {u : Unit}
    (h : submitApplication now desk userId applicationId = .ok (u, desk')) :
    ∃ a, Written (submitted now) a desk.applications desk'.applications := by
  simp only [submitApplication, bind_eq_ok, require_eq_ok, pure_eq_ok, exists_const,
    Prod.mk.injEq] at h
  obtain ⟨a, hown, -, -, desk', hupdate, -, rfl⟩ := h
  obtain ⟨ha, hid⟩ := ownApplication_eq_ok hown
  exact ⟨a, updateApplication_written ha hid hupdate⟩

theorem reviewTransition_written {toStatus : FoodCoordinatorApplicationStatus} {u : Unit}
    (h : reviewTransition ctx desk reviewerUserId applicationId toStatus notes = .ok (u, desk')) :
    ∃ a, Written (transitioned toStatus notes) a desk.applications desk'.applications := by
  simp only [reviewTransition, bind_eq_ok, require_eq_ok, pure_eq_ok, exists_const,
    Prod.mk.injEq] at h
  obtain ⟨a, hfind, -, -, desk₁, hupdate, desk₂, hrecord, -, rfl⟩ := h
  obtain ⟨ha, hid⟩ := mem_of_applicationById hfind
  refine ⟨a, ?_⟩
  rw [applications_of_recordTransition hrecord]
  exact updateApplication_written ha hid hupdate

theorem suspendApplication_written
    (h : suspendApplication ctx desk reviewerUserId applicationId notes = .ok (userId, desk')) :
    ∃ a, a.userId = userId ∧ a.status = .approved ∧
      Written (suspended notes) a desk.applications desk'.applications := by
  simp only [suspendApplication, bind_eq_ok, require_eq_ok, pure_eq_ok, exists_const,
    Prod.mk.injEq] at h
  obtain ⟨a, hfind, hstatus, -, desk₁, hupdate, desk₂, hrecord, rfl, rfl⟩ := h
  obtain ⟨ha, hid⟩ := mem_of_applicationById hfind
  have hwritten := updateApplication_written ha hid hupdate
  refine ⟨a, rfl, hstatus, ?_⟩
  rw [applications_of_recordTransition hrecord]
  split
  · exact hwritten
  · exact hwritten

theorem approveApplication_written {dto : ApproveFoodCoordinatorApplicationDto}
    (h : approveApplication ctx desk reviewerUserId applicationId dto = .ok (userId, desk')) :
    ∃ a, a.userId = userId ∧
      Written (approved ctx.now dto) a desk.applications desk'.applications := by
  simp only [approveApplication, bind_eq_ok, require_eq_ok, pure_eq_ok, exists_const,
    Prod.mk.injEq] at h
  obtain ⟨a, hfind, -, kyc, -, -, -, desk₁, hupdate, desk₂, hrecord, desk₃, hupsert, rfl, rfl⟩ := h
  obtain ⟨ha, hid⟩ := mem_of_applicationById hfind
  refine ⟨a, rfl, ?_⟩
  rw [applications_of_upsertCoordinator hupsert, applications_of_recordTransition hrecord]
  exact updateApplication_written ha hid hupdate

end Transactions

/-! ## One step -/

/-- Nobody whom a reviewer has suspended since has an approved application. -/
def Barred (w : CoordinatorWatch) : Prop :=
  ∀ userId ∈ w.suspended, ∀ a ∈ w.desk.applications.rows, a.userId = userId → a.status ≠ .approved

namespace Barred

variable {ctx : Ctx} {w : CoordinatorWatch} {desk desk' : CoordinatorDesk} {userId : Uuid}
  {write : FoodCoordinatorApplication → FoodCoordinatorApplication} {a : FoodCoordinatorApplication}

/-- Writing on an application so that it is not approved. -/
theorem written (h : Barred w) (hwritten : Written write a w.desk.applications desk'.applications)
    (huser : (write a).userId = a.userId)
    (hstatus : (write a).status = .approved → a.status = .approved) :
    Barred { w with desk := desk' } := by
  intro userId hbarred x hx howner hx'
  rcases hwritten.cases hx with rfl | ⟨hx, -⟩
  · exact h userId hbarred a hwritten.mem (huser ▸ howner) (hstatus hx')
  · exact h userId hbarred x hx howner hx'

/-- A new application is a draft. -/
theorem stored (h : Barred w) {dto : CreateFoodCoordinatorApplicationDto}
    (hrows : desk'.applications.rows =
      w.desk.applications.rows ++ [newApplication ctx userId dto]) :
    Barred { w with desk := desk' } := by
  intro barred hbarred x hx howner
  simp only [hrows, List.mem_append, List.mem_singleton] at hx
  rcases hx with hx | rfl
  · exact h barred hbarred x hx howner
  · simp [newApplication]

/-- The suspended application was the only active one. -/
theorem suspend (h : Barred w) {notes : String} (hstatus : a.status = .approved)
    (hwritten : Written (suspended notes) a w.desk.applications desk'.applications) :
    Barred ⟨desk', a.userId :: w.suspended⟩ := by
  intro userId hbarred x hx howner hx'
  rcases hwritten.cases hx with rfl | ⟨hx, hid⟩
  · cases hx'
  · rcases List.mem_cons.mp hbarred with rfl | hbarred
    · refine hid (congrArg (·.id) (oneAtATime _ x hx a hwritten.mem howner ?_ ?_))
      · simp [isActive, hx']
      · simp [isActive, hstatus]
    · exact h userId hbarred x hx howner hx'

/-- An approval concerns the user of the application alone. -/
theorem approve (h : Barred w) {now : Timestamp} {dto : ApproveFoodCoordinatorApplicationDto}
    (hwritten : Written (approved now dto) a w.desk.applications desk'.applications) :
    Barred ⟨desk', w.suspended.filter (· ≠ a.userId)⟩ := by
  intro userId hbarred x hx howner hx'
  simp only [List.mem_filter, decide_eq_true_eq] at hbarred
  rcases hwritten.cases hx with rfl | ⟨hx, -⟩
  · exact hbarred.2 howner.symm
  · exact h userId hbarred.1 x hx howner hx'

/-- A transaction that was rolled back left everything as it was. -/
theorem after {α : Type} (h : Barred w) {result : Except ServiceError (α × CoordinatorDesk)}
    (hok : ∀ a desk', result = .ok (a, desk') → Barred { w with desk := desk' }) :
    Barred (w.after result) := by
  rcases result with e | ⟨a, desk'⟩
  · exact h
  · exact hok a desk' rfl

/-- **One step.** -/
theorem attend (h : Barred w) (t : CoordinatorRequest) : Barred (attend ctx w t).1 := by
  cases t with
  | create userId dto =>
      rw [Food.attend]
      split
      · exact h
      · exact h
  | store userId dto => exact h.after fun a desk' hok ↦ h.stored (storeApplication_rows hok)
  | update userId applicationId dto =>
      rw [Food.attend]
      split
      · exact h
      · exact h
  | edit applicationId dto =>
      refine h.after fun _ desk' hok ↦ ?_
      obtain ⟨a, hwritten⟩ := storeEdit_written hok
      exact h.written hwritten rfl id
  | submit userId applicationId =>
      refine h.after fun _ desk' hok ↦ ?_
      obtain ⟨a, hwritten⟩ := submitApplication_written hok
      exact h.written hwritten rfl (by simp [submitted])
  | requestInformation reviewerUserId applicationId notes =>
      refine h.after fun _ desk' hok ↦ ?_
      obtain ⟨a, hwritten⟩ := reviewTransition_written hok
      exact h.written hwritten rfl (by simp [transitioned])
  | reject reviewerUserId applicationId notes =>
      refine h.after fun _ desk' hok ↦ ?_
      obtain ⟨a, hwritten⟩ := reviewTransition_written hok
      exact h.written hwritten rfl (by simp [transitioned])
  | suspend reviewerUserId applicationId notes =>
      rw [Food.attend]
      split
      · exact h
      · next userId desk' hok =>
          obtain ⟨a, rfl, hstatus, hwritten⟩ := suspendApplication_written hok
          exact h.suspend hstatus hwritten
  | approve reviewerUserId applicationId dto =>
      rw [Food.attend]
      split
      · exact h
      · next userId desk' hok =>
          obtain ⟨a, rfl, hwritten⟩ := approveApplication_written hok
          exact h.approve hwritten
  | elsewhere db' => exact h

/-- Whoever was suspended and not approved since coordinates no new programme. -/
theorem refused (h : Barred w) (hbarred : userId ∈ w.suspended) (ctx : Ctx)
    (dto : CreateFoodProgrammeDto) : ∃ e, coordinatorCreates ctx w.desk userId dto = .error e := by
  have hnone : w.desk.applications.find? (fun a ↦ a.userId = userId && isInForce ctx.now a) = none := by
    refine List.find?_eq_none.mpr fun a ha hin ↦ ?_
    simp only [isInForce, Bool.and_eq_true, decide_eq_true_eq] at hin
    exact h userId hbarred a ha hin.1 hin.2.1
  cases hcreates : coordinatorCreates ctx w.desk userId dto with
  | error e => exact ⟨e, rfl⟩
  | ok result =>
      rw [coordinatorCreates, createProgramme, hnone] at hcreates
      simp [bind_eq_ok, require_eq_ok] at hcreates

end Barred

/-! ## What the index refuses -/

section Refused

variable {ctx : Ctx} {desk : CoordinatorDesk} {a b : FoodCoordinatorApplication} {userId : Uuid}

/-- A second application is refused, also when `create` found none before. -/
theorem storeApplication_refused {dto : CreateFoodCoordinatorApplicationDto}
    (hfits : settlementFits (newApplication ctx userId dto)) (hb : b ∈ desk.applications.rows)
    (howner : b.userId = userId) (hactive : isActive b = true) :
    storeApplication ctx desk userId dto = .error (.database .uniqueConstraint) := by
  have hclash : Schema.Clash b (newApplication ctx userId dto) :=
    clash_of_isActive howner hactive rfl
  have hinsert : desk.applications.insert (newApplication ctx userId dto) = none :=
    dif_neg fun h ↦ h b hb hclash
  simp [storeApplication, require, hfits, insertRow, hinsert, orThrow, bind, Except.bind]

/-- A rejected application is not taken up again beside an active one. -/
theorem requestInformation_refused (ha : a ∈ desk.applications.rows) (hrejected : a.status = .rejected)
    (hb : b ∈ desk.applications.rows) (howner : b.userId = a.userId) (hactive : isActive b = true)
    (reviewerUserId : Uuid) (notes : String) :
    requestInformation ctx desk reviewerUserId a.id notes = .error (.database .uniqueConstraint) := by
  have hne : b.id ≠ a.id := by
    intro hid
    rw [eq_of_application_id ha hb hid, isActive, hrejected] at hactive
    cases hactive
  have hfind : (desk.applications.find? fun x ↦ x.id = a.id) = some a :=
    desk.applications.find?_eq_some_of_mem ha (decide_eq_true rfl) fun x _ hx ↦
      .inl (of_decide_eq_true hx)
  have hupdate : desk.applications.update (fun x ↦ x.id = a.id)
      (transitioned .moreInformationRequired notes) = none := by
    refine dif_neg fun hunique ↦ hne ?_
    -- The rows as they would be are a table, with both applications active.
    have hone := oneAtATime ⟨_, hunique⟩ b (List.mem_map.mpr ⟨b, hb, by simp [hne]⟩)
      (transitioned .moreInformationRequired notes a) (List.mem_map.mpr ⟨a, ha, by simp⟩) howner
      hactive rfl
    rw [hone]
    rfl
  simp [requestInformation, reviewTransition, applicationById, updateApplication, updateRow, hfind,
    hrejected, hupdate, orThrow, require, bind, Except.bind]

end Refused

/-- **One application at a time.**  In every run a user has one active application at most, and nobody
whom a reviewer has suspended creates a programme before a reviewer approves them again. -/
theorem one_application_at_a_time {db : Db} {q : Pool CoordinatorWatch CoordinatorRequest}
    (h : Reaches (Pool.advance attend)
      (Pool.Admitted (fun _ t ↦ t.isCall = true) fun _ _ _ ↦ True) ⟨⟨.opening db, []⟩, []⟩ q) :
    OneAtATime q.shared.desk.applications ∧ ∀ userId ∈ q.shared.suspended, ∀ ctx dto,
      ∃ e, coordinatorCreates ctx q.shared.desk userId dto = .error e := by
  have hbarred : Barred q.shared :=
    Pool.invariant_of_steps h nofun fun _ _ t hbarred _ ↦ hbarred.attend t
  exact ⟨oneAtATime _, fun _ hsuspended ctx dto ↦ hbarred.refused hsuspended ctx dto⟩

section Sample

/-- What the applicant, user number 1, asks for. -/
def sampleApplication : CreateFoodCoordinatorApplicationDto :=
  ⟨some "058", some "******4321", true, true⟩

/-- What a reviewer approves the application with. -/
def sampleApproval : ApproveFoodCoordinatorApplicationDto :=
  ⟨"Welcome", "identity-1", "settlement-1", "risk-1", 10000⟩

/-- What the step number `n` takes from outside. -/
def sampleCoordinatorCtx (n : Nat) : Ctx := ⟨1000 * n, fun k ↦ .ofNat (10 * n + k)⟩

/-- The users have been verified. -/
def sampleVerifiedDb : Db := { Db.empty with kyc := Kyc.verifiedUser }

/-- The requests are made one after the other, and each takes two steps at most. -/
def sampleCoordinatorMoves :
    Nat → List CoordinatorRequest → List (Move CoordinatorRequest Ctx)
  | _, [] => []
  | n, t :: requests =>
      [.spawn t, .run 0 (sampleCoordinatorCtx n), .run 0 (sampleCoordinatorCtx n)] ++
        sampleCoordinatorMoves (n + 1) requests

/-- The pool after the requests. -/
def sampleCoordinators (requests : List CoordinatorRequest) :
    Pool CoordinatorWatch CoordinatorRequest :=
  (sampleCoordinatorMoves 1 requests).foldl (Pool.advance attend)
    ⟨⟨.opening sampleVerifiedDb, []⟩, []⟩

/-- User 1 applies and is approved. -/
def sampleApproved : List CoordinatorRequest :=
  [.create (.ofNat 1) sampleApplication, .submit (.ofNat 1) (.ofNat 10),
    .approve (.ofNat 2) (.ofNat 10) sampleApproval]

/-- User 1 applies and is rejected. -/
def sampleRejected : List CoordinatorRequest :=
  [.create (.ofNat 1) sampleApplication, .submit (.ofNat 1) (.ofNat 10),
    .reject (.ofNat 2) (.ofNat 10) "Not yet"]

/-- They apply again, and then a reviewer wants to know more about the first application. -/
def sampleTakenUp : List CoordinatorRequest :=
  sampleRejected ++ [.create (.ofNat 1) sampleApplication,
    .requestInformation (.ofNat 2) (.ofNat 10) "Tell us more"]

/-- The programme that the coordinator would create. -/
def sampleCreation : CreateFoodProgrammeDto :=
  ⟨"Rice", 500, 10, .pickup, 0, 100000, none, []⟩

end Sample

/-- A rejected application is not taken up beside a new one, and a suspended coordinator creates nothing
more. -/
theorem one_application_at_a_time_sample :
    (OneAtATime (sampleCoordinators sampleTakenUp).shared.desk.applications ∧
      (sampleCoordinators sampleTakenUp).shared.desk.applications.rows.map (·.status) =
        [.rejected, .draft]) ∧
    (∃ created, coordinatorCreates (sampleCoordinatorCtx 5) (sampleCoordinators sampleApproved).shared.desk
        (.ofNat 1) sampleCreation = .ok created) ∧
      ∃ e, coordinatorCreates (sampleCoordinatorCtx 5)
        (sampleCoordinators (sampleApproved ++ [.suspend (.ofNat 2) (.ofNat 10) "Audit"])).shared.desk
        (.ofNat 1) sampleCreation = .error e :=
  ⟨⟨(one_application_at_a_time (reaches_of_allAdmitted (by decide +kernel))).1, by decide +kernel⟩,
    ⟨_, rfl⟩, (one_application_at_a_time (reaches_of_allAdmitted (by decide +kernel))).2 (.ofNat 1)
      (by decide +kernel) (sampleCoordinatorCtx 5) sampleCreation⟩

/-! ## Applying again -/

/-- Nothing that the user has applied for is under way, suspended or in force. -/
structure Lapsed (now : Timestamp) (applications : Table FoodCoordinatorApplication) (userId : Uuid) :
    Prop where
  /-- No application waits for the applicant or for a reviewer. -/
  settled : ∀ a ∈ applications.rows, a.userId = userId → a.status ∉
    [.draft, .submitted, .automatedReview, .manualReview, .moreInformationRequired]
  notSuspended : ∀ a ∈ applications.rows, a.userId = userId → a.status ≠ .suspended
  notInForce : ∀ a ∈ applications.rows, a.userId = userId → isInForce now a = false

/-- **Who can apply again.**  Of the users with nothing under way, suspended or in force, those can
apply who have no approval, not even one that has run out. -/
theorem lapsed_applies_iff {ctx : Ctx} {desk : CoordinatorDesk} {userId : Uuid}
    {dto : CreateFoodCoordinatorApplicationDto} (hlapsed : Lapsed ctx.now desk.applications userId)
    (hfresh : ∀ a ∈ desk.applications.rows, a.id ≠ ctx.uuid 0)
    (hfits : settlementFits (newApplication ctx userId dto)) :
    (∃ created, createApplication ctx desk userId dto = .ok created) ↔
      ∀ a ∈ desk.applications.rows, a.userId = userId → a.status ≠ .approved := by
  have hcreates : (∃ created, createApplication ctx desk userId dto = .ok created) ↔
      ∀ a ∈ desk.applications.rows, ¬ (a.userId = userId ∧ isActive a = true) := by
    constructor
    · rintro ⟨created, h⟩
      simpa [createApplication, assertNoneActive, bind_eq_ok, require_eq_ok, Table.find?] using
        (bind_eq_ok.mp h).choose_spec.1
    · intro hnone
      -- Without an active one, nothing is in the way of the new application in the index either.
      obtain ⟨applications, hinsert⟩ : ∃ applications,
          insertRow desk.applications (newApplication ctx userId dto) = .ok applications :=
        exists_insertRow fun a ha hclash ↦ (cases_of_clash hclash).elim (hfresh a ha) (hnone a ha)
      simpa [createApplication, assertNoneActive, storeApplication, bind_eq_ok, require_eq_ok, hfits,
        hinsert, Table.find?] using hnone
  rw [hcreates]
  refine forall₂_congr fun a ha ↦ ?_
  rw [not_and]
  refine imp_congr_right fun howner ↦ ?_
  have hsettled := hlapsed.settled a ha howner
  have hsuspended := hlapsed.notSuspended a ha howner
  cases hstatus : a.status with
  | _ => simp [isActive, hstatus] at hsettled hsuspended ⊢

section Sample

instance {now : Timestamp} {applications : Table FoodCoordinatorApplication} {userId : Uuid} :
    Decidable (Lapsed now applications userId) :=
  decidable_of_iff
    ((∀ a ∈ applications.rows, a.userId = userId → a.status ∉
        [.draft, .submitted, .automatedReview, .manualReview, .moreInformationRequired]) ∧
      (∀ a ∈ applications.rows, a.userId = userId → a.status ≠ .suspended) ∧
      ∀ a ∈ applications.rows, a.userId = userId → isInForce now a = false)
    ⟨fun ⟨h₁, h₂, h₃⟩ ↦ ⟨h₁, h₂, h₃⟩, fun ⟨h₁, h₂, h₃⟩ ↦ ⟨h₁, h₂, h₃⟩⟩

end Sample

theorem lapsed_applies_iff_sample :
    (∃ created, createApplication (sampleCoordinatorCtx 20) (sampleCoordinators sampleRejected).shared.desk
        (.ofNat 1) sampleApplication = .ok created) ∧
      ¬ ∃ created, createApplication (sampleCoordinatorCtx 20)
        (sampleCoordinators sampleApproved).shared.desk (.ofNat 1) sampleApplication = .ok created :=
  ⟨(lapsed_applies_iff (by decide +kernel) (by decide +kernel) (by decide +kernel)).mpr
      (by decide +kernel),
    mt (lapsed_applies_iff (by decide +kernel) (by decide +kernel) (by decide +kernel)).mp
      (by decide +kernel)⟩

/-- A coordinator whose approval has run out cannot apply again. -/
theorem lapsed_cannot_apply :
    ¬ ∀ (db : Db) (q : Pool CoordinatorWatch CoordinatorRequest) (ctx : Ctx) (userId : Uuid)
      (dto : CreateFoodCoordinatorApplicationDto),
      Reaches (Pool.advance attend)
        (Pool.Admitted (fun _ t ↦ t.isCall = true) fun _ _ _ ↦ True) ⟨⟨.opening db, []⟩, []⟩ q →
      Lapsed ctx.now q.shared.desk.applications userId →
      (∀ a ∈ q.shared.desk.applications.rows, a.id ≠ ctx.uuid 0) →
      settlementFits (newApplication ctx userId dto) →
      ∃ created, createApplication ctx q.shared.desk userId dto = .ok created := by
  intro h
  obtain ⟨created, hok⟩ := h sampleVerifiedDb (sampleCoordinators sampleApproved)
    (sampleCoordinatorCtx 20) (.ofNat 1) sampleApplication
    (reaches_of_allAdmitted (by decide +kernel)) (by decide +kernel) (by decide +kernel)
    (by decide +kernel)
  have hrefused : createApplication (sampleCoordinatorCtx 20)
      (sampleCoordinators sampleApproved).shared.desk (.ofNat 1) sampleApplication =
        .error (conflict "An active coordinator application already exists") := rfl
  rw [hrefused] at hok
  cases hok

end AjoCloud.Food
