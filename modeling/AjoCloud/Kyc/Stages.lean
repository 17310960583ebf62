import AjoCloud.Kyc.Tiers

/-!
# What a stage unlocks

The rest of `kyc-stage-policy.ts`: the stages as they are shown to a person, and the table of the actions
that each of them unlocks, by which the guards refuse.
-/

namespace AjoCloud.Kyc

open Lib ServiceError

/-! ## The stages as they are shown -/

/-- `KycStage`. -/
inductive KycStage where
  | account
  | identity
  | address
deriving DecidableEq, Repr

namespace KycStage

/-- The number that a stage goes by. -/
def number : KycStage → Nat
  | account => 1
  | identity => 2
  | address => 3

def all : List KycStage := [account, identity, address]

end KycStage

/-- `STAGE_TITLES`. -/
def STAGE_TITLES : KycStage → String
  | .account => "Account"
  | .identity => "Identity"
  | .address => "Address"

/-- `STAGE_UNLOCKS`. -/
def STAGE_UNLOCKS : KycStage → List String
  | .account => ["Join Ajo groups and Akawo pools", "Make payments and contributions"]
  | .identity => ["Withdraw to your bank account", "Send money to other members"]
  | .address => ["Create and run groups as an admin", "Collect money from members"]

/-- `RequirementKey`. -/
inductive RequirementKey where
  | account
  | basicInfo
  | pin
  | nin
  | ninDocument
  | address
deriving DecidableEq, Repr

/-- `StageRequirement`. -/
structure StageRequirement where
  key : RequirementKey
  label : String
  state : RequirementState
deriving DecidableEq

/-- The requirements of a stage, with the labels that they are shown under. -/
def requirementsOf (facts : KycFacts) : KycStage → List StageRequirement
  | .account =>
      [⟨.account, "Sign up and verify your email", flag facts.accountActive⟩,
        ⟨.basicInfo, "Add your date of birth, gender and occupation", flag facts.basicInfoComplete⟩]
  | .identity =>
      [⟨.pin, "Set your transaction PIN", flag facts.pinSet⟩,
        ⟨.nin, "Verify your NIN", requirementState facts.nin⟩,
        ⟨.ninDocument, "Upload a photo of your NIN slip or card", flag facts.ninDocumentUploaded⟩]
  | .address => [⟨.address, "Confirm the address on your NIN", requirementState facts.address⟩]

/-- `StageStatus`. -/
inductive StageStatus where
  | complete
  | inProgress
  | underReview
  | locked
deriving DecidableEq, Repr

/-- `StageView`. -/
structure StageView where
  stage : KycStage
  title : String
  status : StageStatus
  requirements : List StageRequirement
  unlocks : List String
deriving DecidableEq

/-- Everything was submitted, and something of it waits for a reviewer. -/
def awaitsReviewer (items : List StageRequirement) : Bool :=
  items.any (·.state = .pending) && items.all fun item ↦ item.state = .complete || item.state = .pending

/-- The status of a stage. -/
def stageStatus (facts : KycFacts) (stage : KycStage) : StageStatus :=
  if stage.number ≤ completedLevel facts then .complete
  else if stage.number > completedLevel facts + 1 ∨ facts.restricted then .locked
  else if awaitsReviewer (requirementsOf facts stage) then .underReview
  else .inProgress

/-- `describeStages`. -/
def describeStages (facts : KycFacts) : List StageView :=
  KycStage.all.map fun stage ↦
    ⟨stage, STAGE_TITLES stage, stageStatus facts stage, requirementsOf facts stage, STAGE_UNLOCKS stage⟩

/-- `currentStage`. -/
def currentStage (facts : KycFacts) : Option KycStage :=
  KycStage.all.find? fun stage ↦ stage.number = completedLevel facts + 1

/-! ## The actions -/

/-- `KycAction`. -/
inductive KycAction where
  | ajoJoin
  | ajoContribute
  | akawoPoolJoin
  | akawoGoalCreate
  | foodSubscribe
  | payment
  | withdrawal
  | walletSend
  | ajoCreate
  | ajoAdminister
  | akawoPoolCreate
  | akawoPoolAdminister
  | foodProgrammeCreate
  | foodCoordinatorApply
deriving DecidableEq, Repr

/-- `KYC_ACTION_STAGES`. -/
def KYC_ACTION_STAGES : KycAction → KycStage
  | .ajoJoin | .ajoContribute | .akawoPoolJoin | .akawoGoalCreate | .foodSubscribe | .payment => .account
  | .withdrawal | .walletSend => .identity
  | .ajoCreate | .ajoAdminister | .akawoPoolCreate | .akawoPoolAdminister | .foodProgrammeCreate
  | .foodCoordinatorApply => .address

/-- `ACTION_PHRASES`. -/
def ACTION_PHRASES : KycAction → String
  | .ajoJoin => "join an Ajo group"
  | .ajoContribute => "pay contributions"
  | .akawoPoolJoin => "join an Akawo pool"
  | .akawoGoalCreate => "start an Akawo savings goal"
  | .foodSubscribe => "join a food programme"
  | .payment => "make payments"
  | .withdrawal => "withdraw"
  | .walletSend => "send money"
  | .ajoCreate => "create an Ajo group"
  | .ajoAdminister => "manage an Ajo group"
  | .akawoPoolCreate => "create an Akawo pool"
  | .akawoPoolAdminister => "manage an Akawo pool"
  | .foodProgrammeCreate => "create a food programme"
  | .foodCoordinatorApply => "apply as a food coordinator"

/-- `satisfiesStage`. -/
def satisfiesStage (facts : KycFacts) (required : KycStage) : Bool := required.number ≤ completedLevel facts

/-- `refusalMessage`. -/
def refusalMessage (action : KycAction) (facts : KycFacts) : String :=
  if facts.restricted then "Your verification was not approved. Contact support to continue."
  else
    let required := KYC_ACTION_STAGES action
    "Complete stage " ++ toString required.number ++ " (" ++ STAGE_TITLES required ++
      ") verification to " ++ ACTION_PHRASES action ++ "."

/-- `assertKycStage`. -/
def assertKycStage (db : Db) (userId : Uuid) (action : KycAction) : Except ServiceError Unit :=
  let facts := readKycFacts db userId
  require (¬ completedLevel facts < (KYC_ACTION_STAGES action).number) (forbidden (refusalMessage action facts))

/-- `KycStageGuard.canActivate`, for the action that the route is marked with and the caller. -/
def kycStageGuard (db : Db) (action : Option KycAction) (caller : Option Uuid) : Except ServiceError Unit :=
  match action with
  | none => pure ()
  | some action => do
      let userId ← orThrow caller (.http .unauthorized "Unauthorized")
      assertKycStage db userId action

/-! ## Shown and enforced -/

variable {host : Host} {db db' : Db} {userId : Uuid} {facts : KycFacts} {stage : KycStage} {action : KycAction}

theorem KycStage.mem_all (stage : KycStage) : stage ∈ KycStage.all := by
  cases stage with
  | account => simp [KycStage.all]
  | identity => simp [KycStage.all]
  | address => simp [KycStage.all]

theorem mem_describeStages {view : StageView} (h : view ∈ describeStages facts) :
    view.status = stageStatus facts view.stage := by
  obtain ⟨stage, -, rfl⟩ := List.mem_map.mp h
  rfl

/-- A stage is shown as complete when the guards let its actions pass. -/
theorem exists_complete_iff : (∃ view ∈ describeStages facts, view.stage = stage ∧ view.status = .complete) ↔
    satisfiesStage facts stage = true := by
  have hcomplete : stageStatus facts stage = .complete ↔ satisfiesStage facts stage = true := by
    rw [satisfiesStage, decide_eq_true_eq]
    unfold stageStatus
    split_ifs <;> simp_all
  constructor
  · rintro ⟨view, hview, rfl, hstatus⟩
    exact hcomplete.mp ((mem_describeStages hview).symm.trans hstatus)
  · intro h
    exact ⟨_, List.mem_map_of_mem (stage.mem_all), rfl, hcomplete.mpr h⟩

theorem assertKycStage_eq_ok : assertKycStage db userId action = .ok () ↔
    satisfiesStage (readKycFacts db userId) (KYC_ACTION_STAGES action) = true := by
  rw [assertKycStage, require_eq_ok, satisfiesStage, decide_eq_true_eq, not_lt]

/-- The guard of a route asks for its caller's stage, and lets nobody pass who is not signed in. -/
theorem kycStageGuard_eq_ok {caller : Option Uuid} : kycStageGuard db (some action) caller = .ok () ↔
    ∃ userId, caller = some userId ∧ assertKycStage db userId action = .ok () := by
  rw [kycStageGuard, bind_eq_ok]
  simp only [orThrow_eq_ok]

/-- The facts once a reviewer has confirmed all that waits for one. -/
def confirmed (facts : KycFacts) : KycFacts :=
  { facts with
    nin := if facts.nin = .pending then .passed else facts.nin
    address := if facts.address = .pending then .passed else facts.address }

theorem flag_ne_pending (met : Bool) : flag met ≠ .pending := by
  cases met with
  | false => simp [flag]
  | true => simp [flag]

theorem requirementState_eq_pending {state : CheckState} :
    requirementState state = .pending ↔ state = .pending := by
  cases state with
  | none => simp [requirementState]
  | pending => simp [requirementState]
  | passed => simp [requirementState]
  | failed => simp [requirementState]

/-- What a stage needs when only a reviewer is waited for. -/
theorem awaitsReviewer_requirementsOf : awaitsReviewer (requirementsOf facts stage) = true ↔
    (stage = .identity ∧ facts.pinSet = true ∧ facts.nin = .pending ∧ facts.ninDocumentUploaded = true) ∨
      (stage = .address ∧ facts.address = .pending) := by
  cases stage with
  | account => simp [awaitsReviewer, requirementsOf, flag_ne_pending]
  | identity =>
      simp only [awaitsReviewer, requirementsOf, List.any_cons, List.any_nil, List.all_cons, List.all_nil,
        flag_ne_pending, requirementState_eq_pending, flag_eq_complete, requirementState_eq_complete]
      by_cases hnin : facts.nin = .pending
      · simp [hnin]
      · simp [hnin]
  | address =>
      by_cases haddress : facts.address = .pending
      · simp [awaitsReviewer, requirementsOf, requirementState_eq_pending, haddress]
      · simp [awaitsReviewer, requirementsOf, requirementState_eq_pending, haddress]

/-- Under review means that nothing but a confirmation is missing. -/
theorem underReview_spec (h : stageStatus facts stage = .underReview) :
    currentStage facts = some stage ∧ facts.restricted = false ∧
      satisfiesStage (confirmed facts) stage = true := by
  unfold stageStatus at h
  split_ifs at h with hcomplete hlocked hawaits
  rw [not_or, not_lt, Bool.not_eq_true] at hlocked
  have hlevel : stage.number = completedLevel facts + 1 := by omega
  refine ⟨?_, hlocked.2, ?_⟩
  · cases stage with
    | account => simp [currentStage, KycStage.all, hlevel]
    | identity => simp [currentStage, KycStage.all, ← hlevel, KycStage.number]
    | address => simp [currentStage, KycStage.all, ← hlevel, KycStage.number]
  · rw [completedLevel_eq, hlocked.2, if_neg Bool.false_ne_true] at hlevel
    rw [satisfiesStage, decide_eq_true_eq, completedLevel_eq]
    simp only [confirmed, hlocked.2, if_neg Bool.false_ne_true]
    rcases awaitsReviewer_requirementsOf.mp hawaits with ⟨rfl, hpin, hnin, hdocument⟩ | ⟨rfl, haddress⟩
    · have hstage : KycStage.identity.number = 2 := rfl
      split_ifs at hlevel ⊢ <;> simp_all
    · have hstage : KycStage.address.number = 3 := rfl
      split_ifs at hlevel ⊢ <;> simp_all

/-! ## Every run -/

/-- Evidence for two stages or more is not lost by any step that is in time. -/
theorem evidence_stays {start q : Pool Verification Thread} {level : Nat} (htwo : 2 ≤ level)
    (hlevel : level ≤ evidence start.shared.db userId) (hthreads : ∀ t ∈ start.threads, Standing start.shared t)
    (hrun : Reaches (Pool.advance (exec host)) (Pool.Admitted (fun _ t ↦ t.isRequest = true)
      fun _ v t ↦ InTime v t) start q) : level ≤ evidence q.shared.db userId := by
  have hholds : Pool.Holds (fun v : Verification ↦ level ≤ evidence v.db userId) Standing q := by
    refine Pool.invariant_of_guarantees hrun ⟨hlevel, hthreads⟩ ?_ ?_
    · intro v t _ hstarts
      cases t with
      | identity | bank | document | address | basicInfo | personalDetails | profile | status
      | review | elsewhere => trivial
      | _ => cases hstarts
    · intro o v t hv ht hin
      have ha := (exec_effect host o v t).advances ht hin
      exact ⟨hv.trans (ha.gains userId (htwo.trans hv)), fun t' ht' ↦ standing_exec ht ht',
        fun u hu ↦ hu.advance ha⟩
  exact hholds.shared

/-- **What is shown is what is enforced, and it lasts.**  In every state an action is let through exactly
when its stage is shown as complete, by the guard of a route as well; and a stage that is shown under review
is the current one and lacks nothing but a reviewer's confirmation.  As long as the requests are in time, an
action of the second or third stage that was let through once is let through until the profile is
restricted. -/
theorem shown_is_enforced {start q : Pool Verification Thread}
    (hthreads : ∀ t ∈ start.threads, Standing start.shared t)
    (hrun : Reaches (Pool.advance (exec host)) (Pool.Admitted (fun _ t ↦ t.isRequest = true)
      fun _ v t ↦ InTime v t) start q) (userId : Uuid) (action : KycAction) :
    (∀ db, assertKycStage db userId action = .ok () ↔ ∃ view ∈ describeStages (readKycFacts db userId),
        view.stage = KYC_ACTION_STAGES action ∧ view.status = .complete) ∧
      (∀ db caller, kycStageGuard db (some action) caller = .ok () ↔
        ∃ userId, caller = some userId ∧ assertKycStage db userId action = .ok ()) ∧
      (∀ db, ∀ view ∈ describeStages (readKycFacts db userId), view.status = .underReview →
        currentStage (readKycFacts db userId) = some view.stage ∧
          satisfiesStage (confirmed (readKycFacts db userId)) view.stage = true) ∧
      (KYC_ACTION_STAGES action ≠ .account → assertKycStage start.shared.db userId action = .ok () →
        assertKycStage q.shared.db userId action = .ok () ∨
          (readKycFacts q.shared.db userId).restricted = true) := by
  refine ⟨fun db ↦ assertKycStage_eq_ok.trans exists_complete_iff.symm, fun db caller ↦ kycStageGuard_eq_ok,
    fun db view hview hstatus ↦ ?_, fun hstage hallowed ↦ ?_⟩
  · obtain ⟨hcurrent, -, hconfirmed⟩ := underReview_spec ((mem_describeStages hview).symm.trans hstatus)
    exact ⟨hcurrent, hconfirmed⟩
  · rw [assertKycStage_eq_ok, satisfiesStage, decide_eq_true_eq] at hallowed ⊢
    have htwo : 2 ≤ (KYC_ACTION_STAGES action).number := by
      cases hkind : KYC_ACTION_STAGES action with
      | account => exact absurd hkind hstage
      | identity => exact le_rfl
      | address => exact Nat.le_succ 2
    have hstays := evidence_stays htwo (hallowed.trans (completedLevel_le_evidence _ _)) hthreads hrun
    cases hrestricted : (readKycFacts q.shared.db userId).restricted with
    | true => exact .inr rfl
    | false =>
        refine .inl (hstays.trans (le_of_eq ?_))
        rw [evidence, ← hrestricted]

/-- An applicant whose address is verified is shown the third stage as complete, and may create a group. -/
theorem shown_is_enforced_sample :
    assertKycStage (samplePlatform secondStage).shared.db (.ofNat 1) .withdrawal = .ok () ∧
      (assertKycStage (sampleRun secondStage sampleFactsRead).shared.db (.ofNat 1) .withdrawal = .ok () ∨
        (readKycFacts (sampleRun secondStage sampleFactsRead).shared.db (.ofNat 1)).restricted = true) ∧
      ∃ view ∈ describeStages (readKycFacts (sampleRun secondStage sampleFactsRead).shared.db (.ofNat 1)),
        view.stage = .address ∧ view.status = .complete := by
  have hrun : Reaches (Pool.advance (exec sampleHost))
      (Pool.Admitted (fun _ t ↦ t.isRequest = true) fun _ v t ↦ t.isInTime v = true)
      (samplePlatform secondStage) (sampleRun secondStage sampleFactsRead) :=
    reaches_of_allAdmitted (by decide +kernel)
  have hin : Reaches (Pool.advance (exec sampleHost))
      (Pool.Admitted (fun _ t ↦ t.isRequest = true) fun _ v t ↦ InTime v t)
      (samplePlatform secondStage) (sampleRun secondStage sampleFactsRead) := by
    refine hrun.mono fun s m hm ↦ ?_
    cases m with
    | spawn t => exact hm
    | run i o => exact fun t ht ↦ inTime_of_isInTime (hm t ht)
    | stop i => trivial
  have hthreads : ∀ t ∈ (samplePlatform secondStage).threads, Standing (samplePlatform secondStage).shared t :=
    fun t ht ↦ by cases ht
  have hallowed : assertKycStage (samplePlatform secondStage).shared.db (.ofNat 1) .withdrawal = .ok () := by
    decide +kernel
  have hcreates : assertKycStage (sampleRun secondStage sampleFactsRead).shared.db (.ofNat 1) .ajoCreate =
      .ok () := by decide +kernel
  exact ⟨hallowed, (shown_is_enforced hthreads hin (.ofNat 1) .withdrawal).2.2.2 (by decide) hallowed,
    ((shown_is_enforced hthreads hin (.ofNat 1) .ajoCreate).1 _).mp hcreates⟩

end AjoCloud.Kyc
