import AjoCloud.Admin.Notifications

/-!
# What the feed of the console shows

A raise opens the notification about its subject and leaves the others alone; a resolve closes those
about subjects that were not answered.  So `sync` leaves open what its queries answered, which is what
is outstanding as long as the queries answer all of it.
-/

namespace AjoCloud.Admin

open Lib ServiceError

variable {s s' : Console} {ctx : Ctx} {ctxs : Nat → Ctx} {now : Timestamp}
  {input input' : RaiseNotificationInput} {n : AdminNotification}
  {type ty : AdminNotificationType} {id : Uuid} {ids : List Uuid}
  {subject : AdminNotificationType × String × Uuid}

/-- An open notification of the type is about the subject. -/
def Unresolved (s : Console) (type : AdminNotificationType) (id : Uuid) : Prop :=
  ∃ n ∈ s.notifications.rows, n.type = type ∧ n.subjectId = some id ∧ n.resolvedAt = none

instance (s : Console) (type : AdminNotificationType) (id : Uuid) : Decidable (Unresolved s type id) :=
  inferInstanceAs (Decidable (∃ n ∈ s.notifications.rows, _))

/-- The notification about the subject is there, open and with the texts that are raised. -/
def Shown (s : Console) (input : RaiseNotificationInput) : Prop :=
  ∃ n ∈ s.notifications.rows, n.subject = input.subject ∧ input.refresh n = n

/-! ## Subjects -/

theorem AdminNotification.subject_eq_some (h : n.subject = some subject) :
    n.type = subject.1 ∧ n.subjectId = some subject.2.2 := by
  obtain ⟨subjectType, -, h⟩ := Option.bind_eq_some_iff.mp h
  obtain ⟨subjectId, hid, rfl⟩ := Option.map_eq_some_iff.mp h
  exact ⟨rfl, hid⟩

theorem RaiseNotificationInput.subject_eq_some (h : input.subject = some subject) :
    input.type = subject.1 ∧ input.subjectType = some subject.2.1 ∧
      input.subjectId = some subject.2.2 := by
  obtain ⟨subjectType, htype, h⟩ := Option.bind_eq_some_iff.mp h
  obtain ⟨subjectId, hid, rfl⟩ := Option.map_eq_some_iff.mp h
  exact ⟨rfl, (Option.filter_eq_some_iff.mp htype).1, hid⟩

/-- The row that is created has the subject that it is looked up by. -/
theorem RaiseNotificationInput.subject_data (h : input.subject = some subject) :
    (input.data ctx).subject = some subject := by
  obtain ⟨htype, hsubjectType, hid⟩ := subject_eq_some h
  simp only [AdminNotification.subject, data, hsubjectType, hid, htype, Option.bind_some,
    Option.map_some]

/-- A subject picks at most one notification. -/
theorem clash_of_subject {a b : AdminNotification} (ha : decide (a.subject = some subject) = true)
    (hb : decide (b.subject = some subject) = true) : Schema.Clash a b := by
  have ha := of_decide_eq_true ha
  have hb := of_decide_eq_true hb
  exact .inr ⟨Option.isSome_iff_exists.mpr ⟨subject, ha⟩, ha.trans hb.symm⟩

/-! ## Raising -/

/-- What a raise about a subject did: the row is the notification of the subject, and the other rows
are as they were. -/
structure Raised (s s' : Console) (input : RaiseNotificationInput) (n : AdminNotification) : Prop where
  frame : s' = { s with notifications := s'.notifications }
  subject : n.subject = input.subject
  shown : input.refresh n = n
  mem_iff : ∀ x, x ∈ s'.notifications.rows ↔
    x = n ∨ (x ∈ s.notifications.rows ∧ x.subject ≠ input.subject)

theorem raise_eq_ok (h : raise ctx s input = .ok s') (hsubject : input.subject = some subject) :
    notificationFits (input.data ctx) ∧ ∃ n, Raised s s' input n := by
  simp only [raise, hsubject, bind_eq_ok, require_eq_ok, orThrow_eq_ok, pure_eq_ok, exists_const,
    Prod.exists] at h
  obtain ⟨hfits, n, notifications, hupsert, rfl⟩ := h
  have hwritten := Table.upserted hupsert (fun a b ↦ clash_of_subject)
    (decide_eq_true (RaiseNotificationInput.subject_data hsubject)) fun x hx ↦ hx
  refine ⟨hfits, n, rfl, (of_decide_eq_true hwritten.picked).trans hsubject.symm, ?_, fun x ↦ ?_⟩
  · obtain rfl | ⟨old, -, rfl, -⟩ := hwritten.origin
    · rfl
    · rfl
  · rw [hwritten.mem_iff, decide_eq_false_iff_not, hsubject]

/-- What is shown is not raised again. -/
theorem raise_of_shown (hfits : notificationFits (input.data ctx)) (hsubject : input.subject = some subject)
    (h : Shown s input) : raise ctx s input = .ok s := by
  obtain ⟨n, hn, hpicked, hsame⟩ := h
  have hupsert : s.notifications.upsert (fun n ↦ n.subject = some subject) (input.data ctx)
      input.refresh RaiseNotificationInput.clash_of_refresh = some (n, s.notifications) :=
    Table.upsert_of_same hn (decide_eq_true (hpicked.trans hsubject)) (fun a b ↦ clash_of_subject)
      hsame
  rw [raise, require_of hfits]
  simp only [hsubject, hupsert]
  rfl

theorem Raised.resolvedAt_eq_none (h : Raised s s' input n) : n.resolvedAt = none := by
  rw [← h.shown]
  rfl

/-- A raise opens its own subject. -/
theorem Raised.unresolved_iff (h : Raised s s' input n) (hsubject : input.subject = some subject) :
    Unresolved s' type id ↔ (input.type = type ∧ input.subjectId = some id) ∨ Unresolved s type id := by
  obtain ⟨hinput, -, hinputId⟩ := RaiseNotificationInput.subject_eq_some hsubject
  obtain ⟨htype, hid⟩ := AdminNotification.subject_eq_some (h.subject.trans hsubject)
  rw [hinput, hinputId, ← htype, ← hid]
  constructor
  · rintro ⟨x, hx, hxtype, hxid, hxopen⟩
    obtain rfl | ⟨hold, -⟩ := (h.mem_iff x).mp hx
    · exact .inl ⟨hxtype, hxid⟩
    · exact .inr ⟨x, hold, hxtype, hxid, hxopen⟩
  · have hn : n ∈ s'.notifications.rows := (h.mem_iff n).mpr (.inl rfl)
    rintro (⟨hntype, hnid⟩ | ⟨x, hx, hxtype, hxid, hxopen⟩)
    · exact ⟨n, hn, hntype, hnid, h.resolvedAt_eq_none⟩
    · by_cases hsame : x.subject = input.subject
      · obtain ⟨hxtype', hxid'⟩ := AdminNotification.subject_eq_some (hsame.trans hsubject)
        exact ⟨n, hn, htype.trans (hxtype'.symm.trans hxtype), hid.trans (hxid'.symm.trans hxid),
          h.resolvedAt_eq_none⟩
      · exact ⟨x, (h.mem_iff x).mpr (.inr ⟨hx, hsame⟩), hxtype, hxid, hxopen⟩

theorem Raised.shown_self (h : Raised s s' input n) : Shown s' input :=
  ⟨n, (h.mem_iff n).mpr (.inl rfl), h.subject, h.shown⟩

/-- What is shown stays so, unless other texts are raised about the subject. -/
theorem Raised.keeps_shown (h : Raised s s' input n) (hshown : Shown s input')
    (hsame : input.subject = input'.subject → input = input') : Shown s' input' := by
  by_cases hsubject : input.subject = input'.subject
  · exact hsame hsubject ▸ h.shown_self
  · obtain ⟨x, hx, hxsubject, hxsame⟩ := hshown
    exact ⟨x, (h.mem_iff x).mpr (.inr ⟨hx, fun hx ↦ hsubject (hx.symm.trans hxsubject)⟩), hxsubject,
      hxsame⟩

/-! ## Raising one after the other -/

variable {inputs : List RaiseNotificationInput} {k : Nat}

/-- All is about a subject, and about a subject only one text is raised. -/
structure Consistent (inputs : List RaiseNotificationInput) : Prop where
  about : ∀ input ∈ inputs, ∃ subject, input.subject = some subject
  same : ∀ a ∈ inputs, ∀ b ∈ inputs, a.subject = b.subject → a = b

theorem Consistent.tail (h : Consistent (input :: inputs)) : Consistent inputs where
  about a ha := h.about a (List.mem_cons_of_mem _ ha)
  same a ha b hb := h.same a (List.mem_cons_of_mem _ ha) b (List.mem_cons_of_mem _ hb)

theorem raiseAll_cons_eq_ok :
    raiseAll ctxs k s (input :: inputs) = .ok s' ↔
      ∃ s₁, raise (ctxs k) s input = .ok s₁ ∧ raiseAll ctxs (k + 1) s₁ inputs = .ok s' :=
  bind_eq_ok

/-- Raises keep what is shown, as long as they are consistent with it. -/
theorem shown_of_raiseAll (h : raiseAll ctxs k s inputs = .ok s') (hall : Consistent (input :: inputs))
    (hshown : Shown s input) : Shown s' input := by
  induction inputs generalizing k s with
  | nil =>
      cases h
      exact hshown
  | cons next inputs ih =>
      obtain ⟨s₁, hraise, hrest⟩ := raiseAll_cons_eq_ok.mp h
      have hnext : next ∈ input :: next :: inputs := by simp
      obtain ⟨subject, hsubject⟩ := hall.about next hnext
      obtain ⟨-, n, hraised⟩ := raise_eq_ok hraise hsubject
      have hkept : Shown s₁ input := hraised.keeps_shown hshown (hall.same next hnext input (by simp))
      refine ih hrest ⟨fun a ha ↦ ?_, fun a ha b hb ↦ ?_⟩ hkept
      · exact hall.about a (by grind)
      · exact hall.same a (by grind) b (by grind)

/-- What raising one after the other did. -/
structure RaisedAll (s s' : Console) (inputs : List RaiseNotificationInput) : Prop where
  frame : s' = { s with notifications := s'.notifications }
  fits : ∀ input ∈ inputs, ∀ ctx, notificationFits (input.data ctx)
  shown : ∀ input ∈ inputs, Shown s' input
  unresolved_iff : ∀ type id, Unresolved s' type id ↔
    (∃ input ∈ inputs, input.type = type ∧ input.subjectId = some id) ∨ Unresolved s type id

theorem raisedAll (h : raiseAll ctxs k s inputs = .ok s') (hall : Consistent inputs) :
    RaisedAll s s' inputs := by
  induction inputs generalizing k s with
  | nil =>
      cases h
      exact ⟨rfl, List.forall_mem_nil _, List.forall_mem_nil _, by simp⟩
  | cons input inputs ih =>
      obtain ⟨s₁, hraise, hrest⟩ := raiseAll_cons_eq_ok.mp h
      obtain ⟨subject, hsubject⟩ := hall.about input (by simp)
      obtain ⟨hfits, n, hraised⟩ := raise_eq_ok hraise hsubject
      have htail := ih hrest hall.tail
      have hshown : Shown s' input := shown_of_raiseAll hrest hall hraised.shown_self
      refine ⟨?_, List.forall_mem_cons.mpr ⟨fun _ ↦ hfits, htail.fits⟩,
        List.forall_mem_cons.mpr ⟨hshown, htail.shown⟩, fun type id ↦ ?_⟩
      · rw [htail.frame, hraised.frame]
      · rw [htail.unresolved_iff, hraised.unresolved_iff hsubject, List.exists_mem_cons_iff,
          or_left_comm, or_assoc]

/-- Nothing changes when all is shown. -/
theorem raiseAll_of_shown (hall : Consistent inputs)
    (hfits : ∀ input ∈ inputs, ∀ ctx, notificationFits (input.data ctx))
    (hshown : ∀ input ∈ inputs, Shown s input) : raiseAll ctxs k s inputs = .ok s := by
  induction inputs generalizing k with
  | nil => rfl
  | cons input inputs ih =>
      obtain ⟨subject, hsubject⟩ := hall.about input (by simp)
      rw [List.forall_mem_cons] at hfits hshown
      exact raiseAll_cons_eq_ok.mpr ⟨s, raise_of_shown (hfits.1 _) hsubject hshown.1,
        ih hall.tail hfits.2 hshown.2⟩

/-! ## Resolving -/

/-- An open notification about a subject is not handled when the subject is in the set. -/
theorem isHandled_eq_false_iff (hsubject : n.subjectId = some id) (hopen : n.resolvedAt = none) :
    isHandled type ids n = false ↔ (n.type = type → id ∈ ids) := by
  have hnil (hid : id ∈ ids) : ids.isEmpty = false :=
    List.isEmpty_eq_false_iff.mpr (List.ne_nil_of_mem hid)
  by_cases hid : id ∈ ids
  · simp [isHandled, hsubject, hid, hnil hid]
  · simp [isHandled, hsubject, hopen, hid]

theorem not_isHandled_resolve : isHandled type ids (resolve now n) = false := by
  simp [isHandled, resolve]

/-- A set is only asked what is in it. -/
theorem isHandled_congr {ids' : List Uuid} (h : ∀ id, id ∈ ids ↔ id ∈ ids') :
    isHandled type ids n = isHandled type ids' n := by
  have hempty : ids.isEmpty = ids'.isEmpty := by
    rw [Bool.eq_iff_iff, List.isEmpty_iff, List.isEmpty_iff, List.eq_nil_iff_forall_not_mem,
      List.eq_nil_iff_forall_not_mem]
    simp only [h]
  have hcontains : ∀ id, ids.contains id = ids'.contains id := by
    intro id
    rw [Bool.eq_iff_iff, List.contains_iff_mem, List.contains_iff_mem, h]
  simp only [isHandled, hempty, hcontains]

/-- No notification of the type is left that the set handles. -/
def Settled (s : Console) (type : AdminNotificationType) (ids : List Uuid) : Prop :=
  ∀ n ∈ s.notifications.rows, isHandled type ids n = false

theorem mem_resolveType : n ∈ (resolveType now s type ids).notifications.rows ↔
    (n ∈ s.notifications.rows ∧ isHandled type ids n = false) ∨
      ∃ old ∈ s.notifications.rows, isHandled type ids old = true ∧ n = resolve now old := by
  rw [resolveType, Table.mem_modify]

/-- A resolve leaves open what is about a subject in the set. -/
theorem unresolved_resolveType :
    Unresolved (resolveType now s type ids) ty id ↔ Unresolved s ty id ∧ (ty = type → id ∈ ids) := by
  constructor
  · rintro ⟨n, hn, rfl, hid, hopen⟩
    obtain ⟨hold, hkept⟩ | ⟨old, -, -, rfl⟩ := mem_resolveType.mp hn
    · exact ⟨⟨n, hold, rfl, hid, hopen⟩, (isHandled_eq_false_iff hid hopen).mp hkept⟩
    · cases hopen
  · rintro ⟨⟨n, hn, rfl, hid, hopen⟩, hin⟩
    exact ⟨n, mem_resolveType.mpr (.inl ⟨hn, (isHandled_eq_false_iff hid hopen).mpr hin⟩), rfl, hid,
      hopen⟩

/-- A resolve leaves what is shown about a subject in the set. -/
theorem shown_resolveType (hshown : Shown s input) (hsubject : input.subject = some subject)
    (hin : subject.1 = type → subject.2.2 ∈ ids) : Shown (resolveType now s type ids) input := by
  obtain ⟨n, hn, hpicked, hsame⟩ := hshown
  obtain ⟨htype, hid⟩ := AdminNotification.subject_eq_some (hpicked.trans hsubject)
  have hopen : n.resolvedAt = none := by
    rw [← hsame]
    rfl
  have hkept : isHandled type ids n = false := by
    rw [isHandled_eq_false_iff hid hopen, htype]
    exact hin
  exact ⟨n, mem_resolveType.mpr (.inl ⟨hn, hkept⟩), hpicked, hsame⟩

theorem settled_resolveType : Settled (resolveType now s type ids) type ids := by
  intro n hn
  obtain ⟨-, hkept⟩ | ⟨old, -, -, rfl⟩ := mem_resolveType.mp hn
  · exact hkept
  · exact not_isHandled_resolve

/-- A resolve opens nothing. -/
theorem Settled.resolveType {ids' : List Uuid} (h : Settled s type ids) :
    Settled (resolveType now s ty ids') type ids := by
  intro n hn
  obtain ⟨hold, -⟩ | ⟨old, -, -, rfl⟩ := mem_resolveType.mp hn
  · exact h n hold
  · exact not_isHandled_resolve

theorem Settled.resolveType_eq (h : Settled s type ids) : Admin.resolveType now s type ids = s := by
  have hsame : s.notifications.modify (isHandled type ids) (resolve now) clash_of_resolve =
      s.notifications :=
    Table.modify_of_same fun n hn hhandled ↦ absurd hhandled (Bool.eq_false_iff.mp (h n hn))
  rw [Admin.resolveType, hsame]

/-! ## Resolving one type after the other -/

variable {sets : List (AdminNotificationType × List Uuid)}

theorem resolveHandled_cons (set : AdminNotificationType × List Uuid) :
    (resolveHandled ctxs k s (set :: sets)).2 =
      (resolveHandled ctxs (k + 1) (resolveType (ctxs k).now s set.1 set.2) sets).2 := rfl

theorem frame_resolveHandled : (resolveHandled ctxs k s sets).2 =
    { s with notifications := (resolveHandled ctxs k s sets).2.notifications } := by
  induction sets generalizing k s with
  | nil => rfl
  | cons set sets ih => rw [resolveHandled_cons, ih]; rfl

theorem unresolved_resolveHandled : Unresolved (resolveHandled ctxs k s sets).2 type id ↔
    Unresolved s type id ∧ ∀ set ∈ sets, type = set.1 → id ∈ set.2 := by
  induction sets generalizing k s with
  | nil => simp [resolveHandled]
  | cons set sets ih =>
      rw [resolveHandled_cons, ih, unresolved_resolveType, List.forall_mem_cons, and_assoc]

theorem shown_resolveHandled (hshown : Shown s input) (hsubject : input.subject = some subject)
    (hin : ∀ set ∈ sets, subject.1 = set.1 → subject.2.2 ∈ set.2) :
    Shown (resolveHandled ctxs k s sets).2 input := by
  induction sets generalizing k s with
  | nil => exact hshown
  | cons set sets ih =>
      rw [List.forall_mem_cons] at hin
      exact ih (shown_resolveType hshown hsubject hin.1) hin.2

theorem Settled.resolveHandled (h : Settled s type ids) :
    Settled (resolveHandled ctxs k s sets).2 type ids := by
  induction sets generalizing k s with
  | nil => exact h
  | cons set sets ih => exact ih h.resolveType

theorem settled_resolveHandled :
    ∀ set ∈ sets, Settled (resolveHandled ctxs k s sets).2 set.1 set.2 := by
  induction sets generalizing k s with
  | nil => exact List.forall_mem_nil _
  | cons set sets ih =>
      exact List.forall_mem_cons.mpr ⟨settled_resolveType.resolveHandled, ih⟩

theorem resolveHandled_of_settled (h : ∀ set ∈ sets, Settled s set.1 set.2) :
    (resolveHandled ctxs k s sets).2 = s := by
  induction sets generalizing k with
  | nil => rfl
  | cons set sets ih =>
      rw [List.forall_mem_cons] at h
      rw [resolveHandled_cons, h.1.resolveType_eq, ih h.2]

/-! ## What is raised -/

variable {db : Db} {pages pages' : Pages}

theorem Consistent.append {inputs' : List RaiseNotificationInput} (h : Consistent inputs)
    (h' : Consistent inputs') (hne : ∀ a ∈ inputs, ∀ b ∈ inputs', a.subject ≠ b.subject) :
    Consistent (inputs ++ inputs') where
  about a ha := (List.mem_append.mp ha).elim (h.about a) (h'.about a)
  same a ha b hb hab := by
    obtain ha | ha := List.mem_append.mp ha
    · obtain hb | hb := List.mem_append.mp hb
      · exact h.same a ha b hb hab
      · exact absurd hab (hne a ha b hb)
    · obtain hb | hb := List.mem_append.mp hb
      · exact absurd hab.symm (hne b hb a ha)
      · exact h'.same a ha b hb hab

/-- What is raised about the rows of a table. -/
theorem consistent_map {ρ : Type} [Schema ρ] {t : Table ρ} {rows : List ρ}
    {f : ρ → RaiseNotificationInput} {key : ρ → Uuid} {subjectType : String}
    (hsubject : ∀ r, (f r).subject = some (type, subjectType, key r))
    (hkey : ∀ a b, key a = key b → Schema.Clash a b) (hrows : ∀ r ∈ rows, r ∈ t.rows) :
    Consistent (rows.map f) := by
  refine ⟨fun a ha ↦ ?_, fun a ha b hb hab ↦ ?_⟩
  · obtain ⟨r, -, rfl⟩ := List.mem_map.mp ha
    exact ⟨_, hsubject r⟩
  · obtain ⟨r, hr, rfl⟩ := List.mem_map.mp ha
    obtain ⟨r', hr', rfl⟩ := List.mem_map.mp hb
    have hkeys : key r = key r' := by simpa [hsubject] using hab
    rw [t.eq_of_clash (hrows r hr) (hrows r' hr') (hkey r r' hkeys)]

@[simp] theorem subject_kycInput (profile : KycProfile) :
    (kycInput db profile).subject = some (.kycReviewPending, "KycProfile", profile.id) := rfl

@[simp] theorem subject_coordinatorInput (application : FoodCoordinatorApplication) :
    (coordinatorInput db application).subject =
      some (.coordinatorApplicationPending, "FoodCoordinatorApplication", application.id) := rfl

@[simp] theorem subject_inquiryInput (inquiry : SupportInquiry) :
    (inquiryInput inquiry).subject = some (.supportInquiryOpened, "SupportInquiry", inquiry.id) := rfl

@[simp] theorem subject_inviteInput (invite : StaffInvite) :
    (inviteInput invite).subject = some (.staffInvitePending, "StaffInvite", invite.id) := rfl

/-- What one query matches is among the rows of its table. -/
theorem mem_of_isPage {ρ : Type} [Schema ρ] {t : Table ρ} {p : ρ → Bool} {rows : List ρ}
    (h : IsPage syncLimit (t.findMany p) rows) : ∀ r ∈ rows, r ∈ t.rows :=
  fun _ hr ↦ (Table.mem_findMany.mp (h.subset hr)).1

theorem consistent_raises (h : IsPages s pages) : Consistent (raises db pages) := by
  have hkyc : Consistent (pages.kyc.map (kycInput db)) :=
    consistent_map subject_kycInput (fun _ _ hid ↦ Or.inl hid) (mem_of_isPage h.kyc)
  have hcoordinators : Consistent (pages.coordinators.map (coordinatorInput db)) :=
    consistent_map subject_coordinatorInput (fun _ _ hid ↦ Or.inl hid) (mem_of_isPage h.coordinators)
  have hinquiries : Consistent (pages.inquiries.map inquiryInput) :=
    consistent_map subject_inquiryInput (fun _ _ hid ↦ hid) (mem_of_isPage h.inquiries)
  have hinvites : Consistent (pages.invites.map inviteInput) :=
    consistent_map subject_inviteInput (fun _ _ hid ↦ Or.inl (Or.inl hid)) (mem_of_isPage h.invites)
  refine hkyc.append (hcoordinators.append (hinquiries.append hinvites ?_) ?_) ?_
  all_goals
    simp only [List.forall_mem_map, List.forall_mem_append]
    simp

theorem exists_mem_raises {p : RaiseNotificationInput → Prop} :
    (∃ input ∈ raises db pages, p input) ↔
      (∃ profile ∈ pages.kyc, p (kycInput db profile)) ∨
        (∃ application ∈ pages.coordinators, p (coordinatorInput db application)) ∨
          (∃ inquiry ∈ pages.inquiries, p (inquiryInput inquiry)) ∨
            ∃ invite ∈ pages.invites, p (inviteInput invite) := by
  simp only [raises, List.mem_append, List.mem_map, or_and_right, exists_or, exists_exists_and_eq_and]

/-- What is raised is about the subjects that were answered. -/
theorem mem_ids_iff (db : Db) : id ∈ pages.ids type ↔
    ∃ input ∈ raises db pages, input.type = type ∧ input.subjectId = some id := by
  rw [exists_mem_raises]
  cases type <;> simp [Pages.ids, kycInput, coordinatorInput, inquiryInput, inviteInput]

/-! ## `sync` -/

variable {counts : SyncCounts}

/-- What `sync` did, for what its queries answered. -/
structure Synced (s s' : Console) (pages : Pages) : Prop where
  frame : s' = { s with notifications := s'.notifications }
  fits : ∀ input ∈ raises s.desk.db pages, ∀ ctx, notificationFits (input.data ctx)
  shown : ∀ input ∈ raises s.desk.db pages, Shown s' input
  settled : ∀ type ∈ reconciledTypes, Settled s' type (pages.ids type)
  unresolved_iff : ∀ type ∈ reconciledTypes, ∀ id, Unresolved s' type id ↔ id ∈ pages.ids type

theorem exists_sync_eq_ok : (∃ counts, sync ctxs pages s = .ok (counts, s')) ↔
    ∃ s₁, raiseAll ctxs 0 s (raises s.desk.db pages) = .ok s₁ ∧
      (resolveHandled ctxs (raises s.desk.db pages).length s₁
        (reconciledTypes.map fun type ↦ (type, pages.ids type))).2 = s' := by
  simp only [sync, bind_eq_ok, pure_eq_ok, Prod.mk.injEq]
  constructor
  · rintro ⟨counts, s₁, hraise, -, hresolve⟩
    exact ⟨s₁, hraise, hresolve⟩
  · rintro ⟨s₁, hraise, hresolve⟩
    exact ⟨_, s₁, hraise, rfl, hresolve⟩

theorem synced (hpages : IsPages s pages) (h : sync ctxs pages s = .ok (counts, s')) :
    Synced s s' pages := by
  obtain ⟨s₁, hraise, rfl⟩ := exists_sync_eq_ok.mp ⟨counts, h⟩
  have hall : Consistent (raises s.desk.db pages) := consistent_raises hpages
  have hraised := raisedAll hraise hall
  refine ⟨?_, hraised.fits, fun input hinput ↦ ?_, fun type htype ↦ ?_, fun type htype id ↦ ?_⟩
  · rw [frame_resolveHandled, hraised.frame]
  · obtain ⟨subject, hsubject⟩ := hall.about input hinput
    obtain ⟨htype, -, hid⟩ := RaiseNotificationInput.subject_eq_some hsubject
    refine shown_resolveHandled (hraised.shown input hinput) hsubject ?_
    rw [List.forall_mem_map]
    rintro type - rfl
    exact (mem_ids_iff s.desk.db).mpr ⟨input, hinput, htype, hid⟩
  · exact List.forall_mem_map.mp settled_resolveHandled type htype
  · rw [unresolved_resolveHandled, hraised.unresolved_iff, List.forall_mem_map]
    constructor
    · rintro ⟨-, hin⟩
      exact hin type htype rfl
    · intro hid
      refine ⟨.inl ((mem_ids_iff s.desk.db).mp hid), ?_⟩
      rintro _ - rfl
      exact hid

theorem IsPages.of_synced (h : Synced s s' pages) (hpages : IsPages s' pages') : IsPages s pages' := by
  rw [h.frame] at hpages
  exact ⟨hpages.kyc, hpages.coordinators, hpages.inquiries, hpages.invites⟩

/-- Doing it again changes nothing, when the queries answer with the same rows. -/
theorem Synced.again (h : Synced s s' pages) (hpages : IsPages s' pages')
    (hperm : (raises s.desk.db pages').Perm (raises s.desk.db pages)) :
    ∃ counts, sync ctxs pages' s' = .ok (counts, s') := by
  have hdb : s'.desk.db = s.desk.db := by rw [h.frame]
  have hraise : raiseAll ctxs 0 s' (raises s'.desk.db pages') = .ok s' := by
    rw [hdb]
    refine raiseAll_of_shown (consistent_raises hpages) (fun input hinput ↦ ?_) fun input hinput ↦ ?_
    · exact h.fits input (hperm.mem_iff.mp hinput)
    · exact h.shown input (hperm.mem_iff.mp hinput)
  have hids : ∀ type id, id ∈ pages.ids type ↔ id ∈ pages'.ids type := by
    intro type id
    simp only [mem_ids_iff s.desk.db, hperm.mem_iff]
  have hsettled : ∀ set ∈ reconciledTypes.map fun type ↦ (type, pages'.ids type),
      Settled s' set.1 set.2 := by
    rw [List.forall_mem_map]
    intro type htype n hn
    rw [← isHandled_congr (hids type)]
    exact h.settled type htype n hn
  exact exists_sync_eq_ok.mpr ⟨s', hraise, resolveHandled_of_settled hsettled⟩

/-! ## What is outstanding -/

/-- The application was submitted, and a reviewer has yet to decide on it. -/
def awaitsReviewer (a : FoodCoordinatorApplication) : Bool :=
  a.status = .submitted || a.status = .automatedReview || a.status = .manualReview

/-- The subjects of a type that somebody has yet to see to. -/
def outstanding (s : Console) : AdminNotificationType → List Uuid
  | .kycReviewPending => (s.desk.db.kyc.profiles.findMany isKycOpen).map (·.id)
  | .coordinatorApplicationPending => (s.desk.applications.findMany awaitsReviewer).map (·.id)
  | .supportInquiryOpened => (s.inquiries.findMany isOpenInquiry).map (·.id)
  | .staffInvitePending => (s.staffInvites.findMany isPendingInvite).map (·.id)
  | .waitlistSignup | .system => []

/-- No query of `sync` matches more rows than it takes, and every application that awaits a reviewer
has the status that is asked for. -/
structure FeedFits (s : Console) : Prop where
  kyc : (s.desk.db.kyc.profiles.findMany isKycOpen).length ≤ syncLimit
  coordinators : (s.desk.applications.findMany isSubmitted).length ≤ syncLimit
  submitted : ∀ a ∈ s.desk.applications.rows, awaitsReviewer a = true → isSubmitted a = true
  inquiries : (s.inquiries.findMany isOpenInquiry).length ≤ syncLimit
  invites : (s.staffInvites.findMany isPendingInvite).length ≤ syncLimit

theorem feedFits_iff (h : IsPages s pages) :
    FeedFits s ↔ ∀ type ∈ reconciledTypes, ∀ id, id ∈ pages.ids type ↔ id ∈ outstanding s type := by
  have hnarrower (a : FoodCoordinatorApplication) (ha : isSubmitted a = true) :
      awaitsReviewer a = true := by
    simp [awaitsReviewer, of_decide_eq_true ha]
  have hkyc := h.kyc.mem_keys_iff (·.id) fun _ _ hid ↦ Or.inl hid
  have hcoordinators :=
    h.coordinators.mem_keys_iff_of_narrower (·.id) (fun _ _ hid ↦ Or.inl hid) hnarrower
  have hinquiries := h.inquiries.mem_keys_iff (·.id) fun _ _ hid ↦ hid
  have hinvites := h.invites.mem_keys_iff (·.id) fun _ _ hid ↦ Or.inl (Or.inl hid)
  simp only [reconciledTypes, List.forall_mem_cons, Pages.ids, outstanding]
  rw [hkyc, hcoordinators, hinquiries, hinvites]
  constructor
  · rintro ⟨hkyc, hcoordinators, hsubmitted, hinquiries, hinvites⟩
    exact ⟨hkyc, ⟨hsubmitted, hcoordinators⟩, hinquiries, hinvites, List.forall_mem_nil _⟩
  · rintro ⟨hkyc, ⟨hsubmitted, hcoordinators⟩, hinquiries, hinvites, -⟩
    exact ⟨hkyc, hcoordinators, hsubmitted, hinquiries, hinvites⟩

/-- Within the limit all answers have the same rows. -/
theorem FeedFits.perm_raises (hfits : FeedFits s) (h : IsPages s pages) (h' : IsPages s pages') :
    (raises db pages').Perm (raises db pages) := by
  have hkyc := (h'.kyc.perm hfits.kyc).trans (h.kyc.perm hfits.kyc).symm
  have hcoordinators :=
    (h'.coordinators.perm hfits.coordinators).trans (h.coordinators.perm hfits.coordinators).symm
  have hinquiries := (h'.inquiries.perm hfits.inquiries).trans (h.inquiries.perm hfits.inquiries).symm
  have hinvites := (h'.invites.perm hfits.invites).trans (h.invites.perm hfits.invites).symm
  exact (hkyc.map _).append ((hcoordinators.map _).append
    ((hinquiries.map _).append (hinvites.map _)))

/-- After `sync` the open subjects are the outstanding ones, and doing it again changes nothing, exactly
when the queries ask for all that is outstanding and within their limit. -/
theorem feed_reconciles_iff (hpages : IsPages s pages) (hsync : sync ctxs pages s = .ok (counts, s')) :
    ((∀ type ∈ reconciledTypes, ∀ id, Unresolved s' type id ↔ id ∈ outstanding s' type) ∧
      ∀ ctxs' pages', IsPages s' pages' → ∃ counts', sync ctxs' pages' s' = .ok (counts', s')) ↔
        FeedFits s := by
  have hsynced := synced hpages hsync
  have houtstanding : outstanding s' = outstanding s := by
    rw [hsynced.frame]
    rfl
  rw [houtstanding, feedFits_iff hpages]
  constructor
  · rintro ⟨hopen, -⟩ type htype id
    rw [← hsynced.unresolved_iff type htype, hopen type htype]
  · intro hids
    refine ⟨fun type htype id ↦ ?_, fun ctxs' pages' hpages' ↦ ?_⟩
    · rw [hsynced.unresolved_iff type htype, hids type htype]
    · have hfits : FeedFits s := (feedFits_iff hpages).mpr hids
      exact hsynced.again hpages' (hfits.perm_raises hpages (hpages'.of_synced hsynced))

section Sample

/-- A verification and an invitation are pending, an inquiry is open, and an application is drafted; of
another inquiry, which is closed, the notification is still open. -/
def sampleConsole : Console where
  desk :=
    { CoordinatorDesk.opening { Db.empty with
        kyc := { Db.empty.kyc with
          profiles := ⟨[⟨.ofNat 1, .ofNat 11, .pending, .tier2, 1, some 100, none, none⟩], by simp⟩ } } with
      applications := ⟨[⟨.ofNat 2, .ofNat 11, .draft, some "058", some "******1234", none, none, none,
        some 100, none, none, some 100, none, none, none, none, none, 100⟩], by simp⟩ }
  inquiries := ⟨[⟨.ofNat 3, "Ada", "Late payout", "OPEN", 100⟩,
    ⟨.ofNat 4, "Ben", "Wrong name", "CLOSED", 90⟩], by decide⟩
  staffInvites := ⟨[⟨.ofNat 5, "cy@example.com", "Cy", "Dike", .ofNat 7, "digest", .pending, .ofNat 8,
    2000, none, none⟩], by simp⟩
  notifications := ⟨[⟨.ofNat 6, .supportInquiryOpened, .info, "Wrong name", "Ben opened a support inquiry.",
    some "/admin/support", none, some "disputes.manage", some "SupportInquiry", some (.ofNat 4), none,
    90⟩], by simp⟩

def sampleCalls (n : Nat) : Ctx := ⟨1000 + n, fun k ↦ .ofNat (1000 + 10 * n + k)⟩

/-- The console after `sync`. -/
def sampleSync (s : Console) : Except ServiceError (SyncCounts × Console) :=
  sync sampleCalls (firstPages s) s

/-- The console after the application was submitted. -/
def sampleSubmitted : Except ServiceError Console :=
  (Food.submitApplication 200 sampleConsole.desk (.ofNat 11) (.ofNat 2)).map fun r ↦
    { sampleConsole with desk := r.2 }

end Sample

/-- Three notifications are raised and one is resolved, and that is all. -/
theorem feed_reconciles_sample : ∃ s', sampleSync sampleConsole = .ok (⟨3, 1⟩, s') ∧
    (∀ type ∈ reconciledTypes, ∀ id, Unresolved s' type id ↔ id ∈ outstanding s' type) ∧
      ∀ ctxs pages, IsPages s' pages → ∃ counts, sync ctxs pages s' = .ok (counts, s') := by
  have hcounts : (sampleSync sampleConsole).map (·.1) = .ok ⟨3, 1⟩ := by decide +kernel
  have hfits : FeedFits sampleConsole :=
    ⟨by decide, by decide, by decide, by decide, by decide⟩
  cases hsync : sampleSync sampleConsole with
  | error e =>
      rw [hsync] at hcounts
      cases hcounts
  | ok r =>
      obtain ⟨counts, s'⟩ := r
      rw [hsync] at hcounts
      cases hcounts
      exact ⟨s', rfl, (feed_reconciles_iff (isPages_firstPages sampleConsole) hsync).mpr hfits⟩

/-- Once the application is submitted it awaits a reviewer, and `sync` raises nothing about it. -/
theorem submitted_not_raised :
    (sampleSubmitted.bind sampleSync).map (fun r ↦
      (outstanding r.2 .coordinatorApplicationPending,
        decide (Unresolved r.2 .coordinatorApplicationPending (.ofNat 2)))) =
      .ok ([.ofNat 2], false) := by
  decide +kernel

end AjoCloud.Admin
