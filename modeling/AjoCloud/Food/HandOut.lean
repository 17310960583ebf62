import AjoCloud.Food.Distributions
import AjoCloud.Food.Procurement

/-!
# The hand-outs of the programmes

The system of programmes, subscriptions and payments together with the distributions: what each call
does to items and confirmations, and what holds of them in every run.
-/

namespace AjoCloud.Food

open Lib ServiceError Ledger Payments

variable {s s' : Desk} {db db' : Db} {ctx : Ctx} {userId programmeId distributionId : Uuid}
  {digest : String → String}

/-! ## The system -/

/-- A call of the programmes or of the hand-outs. -/
inductive HandOutCall where
  | desk (call : Call)
  | createDistribution (ctx : Ctx) (userId programmeId : Uuid) (scheduledAt : Timestamp)
  | transitionDistribution (ctx : Ctx) (userId programmeId distributionId : Uuid)
      (status : FoodDistributionStatus)
  | issueCollectionCode (ctx : Ctx) (randomBytes : List UInt8) (userId distributionId : Uuid)
  | confirmCollection (ctx : Ctx) (userId programmeId distributionId : Uuid)
      (dto : ConfirmCollectionDto)

/-- What a call leaves. -/
def serve (digest : String → String) (s : Desk) : HandOutCall → Desk
  | .desk call => step s call
  | .createDistribution ctx userId programmeId scheduledAt =>
      { s with db := committed s.db (createDistribution ctx s.db userId programmeId scheduledAt) }
  | .transitionDistribution ctx userId programmeId distributionId status =>
      { s with
        db := committed s.db
          (transitionDistribution ctx s.db userId programmeId distributionId status) }
  | .issueCollectionCode ctx randomBytes userId distributionId =>
      { s with
        db := committed s.db
          (issueCollectionCode ctx s.db digest randomBytes userId distributionId) }
  | .confirmCollection ctx userId programmeId distributionId dto =>
      { s with
        db := committed s.db
          (confirmCollection ctx s.db digest userId programmeId distributionId dto) }

/-- The rest of the platform leaves the hand-outs alone too. -/
def Served (s : Desk) : HandOutCall → Prop
  | .desk call => Admitted s call ∧ ∀ db, call = .elsewhere db → SameHandOut s.db db
  | _ => True

/-! ## What each call does -/

/-- The member has collected the item. -/
def Collected (db : Db) (itemId : Uuid) : Prop :=
  ∃ c ∈ db.food.confirmations.rows, c.distributionItemId = itemId ∧ c.usedAt ≠ none

/-- A distribution was planned. -/
structure Planned (db db' : Db) (d : FoodDistribution) (items : List FoodDistributionItem) :
    Prop where
  group : ∃ g ∈ db.food.groups.rows, g.id = d.groupId ∧ g.status = .active
  status : d.status = .planned
  distributions : insertRow db.food.distributions d = .ok db'.food.distributions
  stored : db'.food.distributionItems.rows = db.food.distributionItems.rows ++ items
  belongs : ∀ i ∈ items, i.distributionId = d.id ∧ ∃ x ∈ db.food.subscriptions.rows,
    x.id = i.subscriptionId ∧ x.groupId = d.groupId ∧ isLive x = true ∧ i.quantity = x.quantity
  after : db' = { db with
    food := { db.food with
      distributions := db'.food.distributions
      distributionItems := db'.food.distributionItems } }

theorem of_mem_newItems {n : Nat} {xs : List FoodSubscription} {i : FoodDistributionItem}
    (h : i ∈ newItems ctx distributionId n xs) :
    i.distributionId = distributionId ∧ ∃ x ∈ xs, i.subscriptionId = x.id ∧
      i.quantity = x.quantity := by
  induction xs generalizing n with
  | nil => cases h
  | cons x xs ih =>
      rcases List.mem_cons.mp h with rfl | h
      · exact ⟨rfl, x, List.mem_cons_self .., rfl, rfl⟩
      · obtain ⟨hid, y, hy, hrest⟩ := ih h
        exact ⟨hid, y, List.mem_cons_of_mem _ hy, hrest⟩

theorem createDistribution_eq_ok {scheduledAt : Timestamp} {d : FoodDistribution}
    (h : createDistribution ctx db userId programmeId scheduledAt = .ok (d, db')) :
    ∃ items, Planned db db' d items := by
  simp only [createDistribution, assertCanPlanDistribution, bind_eq_ok, require_eq_ok,
    orThrow_eq_ok, pure_eq_ok, exists_const, Prod.mk.injEq] at h
  obtain ⟨g, howned, ⟨hactive, -⟩, -, distributions, hinsert, items, hitems, rfl, rfl⟩ := h
  obtain ⟨hg, hid, -⟩ := ownedProgramme_eq_ok howned
  refine ⟨_, ⟨g, hg, hid, hactive⟩, rfl, hinsert, Table.rows_of_insertMany hitems, ?_, rfl⟩
  intro i hi
  obtain ⟨hdistribution, x, hx, hsubscription, hquantity⟩ := of_mem_newItems hi
  rw [liveSubscriptions, Table.mem_findMany, Bool.and_eq_true, decide_eq_true_eq] at hx
  exact ⟨hdistribution, x, hx.1, hsubscription.symm, hx.2.1, hx.2.2, hquantity⟩

/-- A distribution was moved on. -/
structure MovedOn (ctx : Ctx) (db db' : Db) (d : FoodDistribution)
    (status : FoodDistributionStatus) : Prop where
  mem : d ∈ db.food.distributions.rows
  allowed : canTransitionDistribution d.status status = true
  completed : status = .completed → outstandingItems db d.id = 0
  distributions : db'.food.distributions.rows = db.food.distributions.rows.map fun x ↦
    if decide (x.id = d.id) = true then moveDistribution ctx.now status x else x
  after : db' = { db with food := { db.food with distributions := db'.food.distributions } }

theorem ownedDistribution_eq_ok {d : FoodDistribution}
    (h : ownedDistribution db programmeId distributionId = .ok d) :
    d ∈ db.food.distributions.rows ∧ d.id = distributionId ∧ d.groupId = programmeId := by
  simp only [ownedDistribution, bind_eq_ok, orThrow_eq_ok, require_eq_ok, pure_eq_ok,
    exists_const] at h
  obtain ⟨d', hfind, hgroup, rfl⟩ := h
  exact ⟨Table.mem_of_find? hfind, by simpa using Table.prop_of_find? hfind, hgroup⟩

theorem transitionDistribution_eq_ok {status : FoodDistributionStatus} {r : FoodDistribution}
    (h : transitionDistribution ctx db userId programmeId distributionId status = .ok (r, db')) :
    ∃ d, d.id = distributionId ∧ MovedOn ctx db db' d status := by
  simp only [transitionDistribution, bind_eq_ok, require_eq_ok, pure_eq_ok, exists_const,
    Prod.mk.injEq] at h
  obtain ⟨g, -, d, howned, hallowed, hcompleted, distributions, hrows, -, rfl⟩ := h
  obtain ⟨hd, rfl, -⟩ := ownedDistribution_eq_ok howned
  refine ⟨d, rfl, hd, hallowed, fun hst ↦ ?_, updateRow_eq_ok hrows, rfl⟩
  exact Nat.eq_zero_of_not_pos (hcompleted hst)

/-- A member was issued a code; nothing that was collected is forgotten, and nothing is collected. -/
structure Issued (db db' : Db) : Prop where
  keeps : ∀ c ∈ db.food.confirmations.rows, ∃ c' ∈ db'.food.confirmations.rows,
    c'.distributionItemId = c.distributionItemId ∧ c'.usedAt = c.usedAt
  unused : ∀ c' ∈ db'.food.confirmations.rows, c'.usedAt = none ∨
    ∃ c ∈ db.food.confirmations.rows, c.distributionItemId = c'.distributionItemId ∧
      c.usedAt = c'.usedAt
  items : ∀ c' ∈ db'.food.confirmations.rows,
    (∃ c ∈ db.food.confirmations.rows, c.distributionItemId = c'.distributionItemId) ∨
      ∃ i ∈ db.food.distributionItems.rows, i.id = c'.distributionItemId
  after : db' = { db with food := { db.food with confirmations := db'.food.confirmations } }

theorem issueCollectionCode_eq_ok {randomBytes : List UInt8} {r : IssuedCode}
    (h : issueCollectionCode ctx db digest randomBytes userId distributionId = .ok (r, db')) :
    Issued db db' := by
  simp only [issueCollectionCode, bind_eq_ok, require_eq_ok, orThrow_eq_ok, pure_eq_ok,
    exists_const, Prod.mk.injEq] at h
  obtain ⟨d, -, x, -, i, hi, -, -, confirmations, hstored, -, rfl⟩ := h
  unfold storeCode at hstored
  split at hstored
  · have hrows := updateRow_eq_ok hstored
    refine ⟨?_, ?_, ?_, rfl⟩
    · intro c hc
      refine ⟨_, hrows ▸ List.mem_map_of_mem hc, ?_⟩
      split
      · exact ⟨rfl, rfl⟩
      · exact ⟨rfl, rfl⟩
    · intro c' hc'
      rw [hrows] at hc'
      obtain ⟨c, hc, rfl⟩ := List.mem_map.mp hc'
      refine .inr ⟨c, hc, ?_⟩
      split
      · exact ⟨rfl, rfl⟩
      · exact ⟨rfl, rfl⟩
    · intro c' hc'
      rw [hrows] at hc'
      obtain ⟨c, hc, rfl⟩ := List.mem_map.mp hc'
      refine .inl ⟨c, hc, ?_⟩
      split
      · rfl
      · rfl
  · have hrows := insertRow_eq_ok hstored
    refine ⟨?_, ?_, ?_, rfl⟩
    · intro c hc
      exact ⟨c, hrows ▸ List.mem_append_left _ hc, rfl, rfl⟩
    · intro c' hc'
      rw [hrows, List.mem_append, List.mem_singleton] at hc'
      rcases hc' with hc' | rfl
      · exact .inr ⟨c', hc', rfl, rfl⟩
      · exact .inl rfl
    · intro c' hc'
      rw [hrows, List.mem_append, List.mem_singleton] at hc'
      rcases hc' with hc' | rfl
      · exact .inl ⟨c', hc', rfl⟩
      · exact .inr ⟨i, Table.mem_of_find? hi, rfl⟩

/-- A collection was confirmed. -/
structure HandedOut (ctx : Ctx) (db db' : Db) (distributionId : Uuid)
    (c : DistributionConfirmation) (i : FoodDistributionItem) (evidence : Option String) : Prop where
  mem : c ∈ db.food.confirmations.rows
  fresh : c.usedAt = none
  item : i ∈ db.food.distributionItems.rows
  item_id : i.id = c.distributionItemId
  item_distribution : i.distributionId = distributionId
  confirmations : db'.food.confirmations.rows = db.food.confirmations.rows.map fun x ↦
    if decide (x.id = c.id) = true then markUsed ctx.now evidence x else x
  after : db' = { db with food := { db.food with confirmations := db'.food.confirmations } }

/-- The confirmation that a code is matched with is that of an item of the distribution. -/
theorem presented_eq_some {code : String} {c : DistributionConfirmation}
    (h : presented db digest distributionId code = some c) :
    c ∈ db.food.confirmations.rows ∧ ∃ i ∈ db.food.distributionItems.rows,
      i.id = c.distributionItemId ∧ i.distributionId = distributionId := by
  have hprop := Table.prop_of_find? h
  rw [Bool.and_eq_true] at hprop
  obtain ⟨i, hi⟩ := Option.isSome_iff_exists.mp hprop.2
  have hitem := Table.prop_of_find? hi
  rw [decide_eq_true_eq] at hitem
  exact ⟨Table.mem_of_find? h, i, Table.mem_of_find? hi, hitem⟩

theorem confirmCollection_eq_ok {dto : ConfirmCollectionDto} {r : DistributionConfirmation}
    (h : confirmCollection ctx db digest userId programmeId distributionId dto = .ok (r, db')) :
    ∃ c i, presented db digest distributionId dto.code = some c ∧
      HandedOut ctx db db' distributionId c i dto.evidenceStorageKey := by
  simp only [confirmCollection, assertCanConfirmCollection, bind_eq_ok, require_eq_ok,
    orThrow_eq_ok, pure_eq_ok, exists_const, Prod.mk.injEq] at h
  obtain ⟨-, g, -, d, -, c, hpresented, -, ⟨-, hfresh⟩, -, confirmations, hrows, -, rfl⟩ := h
  obtain ⟨hc, i, hi, hid, hdistribution⟩ := presented_eq_some hpresented
  have hnone : c.usedAt = none := by simpa using hfresh
  exact ⟨c, i, hpresented, hc, hnone, hi, hid, hdistribution, updateRow_eq_ok hrows, rfl⟩

/-! ## What a step does -/

/-- What a call did to the desk and to the hand-outs. -/
inductive ServedEffect (digest : String → String) (s : Desk) (k : HandOutCall) (s' : Desk) : Prop
  | /-- It was a call of the programmes. -/
    desk (call : Call) (asked : k = .desk call) (h : Effect s call s')
      (same : SameHandOut s.db s'.db)
  | /-- It was refused. -/
    refused (same : s' = s)
  | /-- A distribution was planned. -/
    planned (payments : s'.payments = s.payments) (d : FoodDistribution)
      (items : List FoodDistributionItem) (h : Planned s.db s'.db d items)
  | /-- A distribution was moved on. -/
    movedOn (payments : s'.payments = s.payments) (ctx : Ctx) (userId programmeId : Uuid)
      (d : FoodDistribution) (status : FoodDistributionStatus)
      (asked : k = .transitionDistribution ctx userId programmeId d.id status)
      (h : MovedOn ctx s.db s'.db d status)
  | /-- A member was issued a code. -/
    issued (payments : s'.payments = s.payments) (h : Issued s.db s'.db)
  | /-- A member collected. -/
    handedOut (payments : s'.payments = s.payments) (ctx : Ctx)
      (userId programmeId distributionId : Uuid) (dto : ConfirmCollectionDto)
      (asked : k = .confirmCollection ctx userId programmeId distributionId dto)
      (c : DistributionConfirmation) (i : FoodDistributionItem)
      (matched : presented s.db digest distributionId dto.code = some c)
      (h : HandedOut ctx s.db s'.db distributionId c i dto.evidenceStorageKey)

variable {k : HandOutCall}

theorem desk_effect (hposted : IntentsPosted s.db) {call : Call} (hk : Served s (.desk call)) :
    ServedEffect digest s (.desk call) (step s call) := by
  have he := step_effect hposted hk.1
  refine .desk call rfl he ?_
  by_cases helsewhere : ∃ db, call = .elsewhere db
  · obtain ⟨db, rfl⟩ := helsewhere
    exact hk.2 db rfl
  · exact he.handOut fun db hdb ↦ helsewhere ⟨db, hdb⟩

/-- Every call that is served does one of these things. -/
theorem serve_effect (hposted : IntentsPosted s.db) (hk : Served s k) :
    ServedEffect digest s k (serve digest s k) := by
  cases k with
  | desk call => exact desk_effect hposted hk
  | createDistribution ctx userId programmeId scheduledAt =>
      rcases committed_cases s.db (createDistribution ctx s.db userId programmeId scheduledAt) with
        hsame | ⟨d, db', hok, hdb'⟩
      · exact .refused (by rw [serve, hsame])
      · obtain ⟨items, h⟩ := createDistribution_eq_ok hok
        rw [serve, hdb']
        exact .planned rfl d items h
  | transitionDistribution ctx userId programmeId distributionId status =>
      rcases committed_cases s.db (transitionDistribution ctx s.db userId programmeId distributionId
        status) with hsame | ⟨r, db', hok, hdb'⟩
      · exact .refused (by rw [serve, hsame])
      · obtain ⟨d, rfl, h⟩ := transitionDistribution_eq_ok hok
        rw [serve, hdb']
        exact .movedOn rfl ctx userId programmeId d status rfl h
  | issueCollectionCode ctx randomBytes userId distributionId =>
      rcases committed_cases s.db (issueCollectionCode ctx s.db digest randomBytes userId
        distributionId) with hsame | ⟨r, db', hok, hdb'⟩
      · exact .refused (by rw [serve, hsame])
      · rw [serve, hdb']
        exact .issued rfl (issueCollectionCode_eq_ok hok)
  | confirmCollection ctx userId programmeId distributionId dto =>
      rcases committed_cases s.db (confirmCollection ctx s.db digest userId programmeId
        distributionId dto) with hsame | ⟨r, db', hok, hdb'⟩
      · exact .refused (by rw [serve, hsame])
      · obtain ⟨c, i, hpresented, h⟩ := confirmCollection_eq_ok hok
        rw [serve, hdb']
        exact .handedOut rfl ctx userId programmeId distributionId dto rfl c i hpresented h

/-- To the programmes, a call of the hand-outs is one of the rest of the platform. -/
theorem effect_of_food (hpayments : s'.payments = s.payments)
    (h : s'.db = { s.db with food := s'.db.food })
    (hgroups : s'.db.food.groups = s.db.food.groups)
    (hpackages : s'.db.food.packages = s.db.food.packages)
    (hsubscriptions : s'.db.food.subscriptions = s.db.food.subscriptions) :
    Effect s (.elsewhere s'.db) s' := by
  refine .aside hpayments ⟨hgroups, hpackages, hsubscriptions, fun g ↦ by rw [h],
    fun t ht id paidAt hkey ↦ ?_, fun hposted ↦ ?_⟩ fun hcall ↦ absurd rfl (hcall s'.db)
  · rw [h] at ht
    exact ⟨t, ht, hkey⟩
  · exact hposted.congr (by rw [h]) (by rw [h])

theorem ServedEffect.effect (h : ServedEffect digest s k s') : ∃ call, Effect s call s' := by
  cases h with
  | desk call _ h _ => exact ⟨call, h⟩
  | refused same => exact ⟨.elsewhere s.db, same ▸ .refl s _⟩
  | planned payments d items h =>
      exact ⟨_, effect_of_food payments (by rw [h.after]) (by rw [h.after]) (by rw [h.after])
        (by rw [h.after])⟩
  | movedOn payments _ _ _ d status _ h =>
      exact ⟨_, effect_of_food payments (by rw [h.after]) (by rw [h.after]) (by rw [h.after])
        (by rw [h.after])⟩
  | issued payments h =>
      exact ⟨_, effect_of_food payments (by rw [h.after]) (by rw [h.after]) (by rw [h.after])
        (by rw [h.after])⟩
  | handedOut payments _ _ _ _ _ _ c i _ h =>
      exact ⟨_, effect_of_food payments (by rw [h.after]) (by rw [h.after]) (by rw [h.after])
        (by rw [h.after])⟩

theorem Sound.serve (h : Sound s) (hk : Served s k) : Sound (serve digest s k) := by
  obtain ⟨call, he⟩ : ∃ call, Effect s call (Food.serve digest s k) :=
    (serve_effect h.intents hk).effect
  exact h.of_effect he

/-! ## What is kept -/

theorem confirmation_eq_of_id {c c' : DistributionConfirmation}
    (hc : c ∈ db.food.confirmations.rows) (hc' : c' ∈ db.food.confirmations.rows)
    (h : c.id = c'.id) : c = c' := db.food.confirmations.eq_of_clash hc hc' (.inl h)

/-- What was collected stays collected. -/
theorem ServedEffect.collected (h : ServedEffect digest s k s') {itemId : Uuid}
    (hc : Collected s.db itemId) : Collected s'.db itemId := by
  obtain ⟨c, hmem, hitem, hused⟩ := hc
  cases h with
  | desk _ _ _ same => exact ⟨c, same.confirmations ▸ hmem, hitem, hused⟩
  | refused same => exact same ▸ ⟨c, hmem, hitem, hused⟩
  | planned _ d items h => exact ⟨c, by rw [h.after]; exact hmem, hitem, hused⟩
  | movedOn _ _ _ _ d status _ h => exact ⟨c, by rw [h.after]; exact hmem, hitem, hused⟩
  | issued _ h =>
      obtain ⟨c', hc', hitem', hused'⟩ := h.keeps c hmem
      exact ⟨c', hc', hitem'.trans hitem, hused' ▸ hused⟩
  | handedOut _ ctx _ _ _ _ _ c₀ i _ h =>
      refine ⟨_, h.confirmations ▸ List.mem_map_of_mem hmem, ?_⟩
      split
      · exact ⟨hitem, nofun⟩
      · exact ⟨hitem, hused⟩

/-- Items stay as they were planned. -/
theorem ServedEffect.items (h : ServedEffect digest s k s') {i : FoodDistributionItem}
    (hi : i ∈ s.db.food.distributionItems.rows) : i ∈ s'.db.food.distributionItems.rows := by
  cases h with
  | desk _ _ _ same => exact same.items ▸ hi
  | refused same => exact same ▸ hi
  | planned _ d items h =>
      rw [h.stored]
      exact List.mem_append_left _ hi
  | movedOn _ _ _ _ d status _ h =>
      rw [h.after]
      exact hi
  | issued _ h =>
      rw [h.after]
      exact hi
  | handedOut _ _ _ _ _ _ _ c i' _ h =>
      rw [h.after]
      exact hi

/-- There are no programmes and no hand-outs yet. -/
def HandOutStarts (s : Desk) : Prop :=
  Starts s ∧ s.db.food.distributions.rows = [] ∧ s.db.food.distributionItems.rows = [] ∧
    s.db.food.confirmations.rows = []

instance : DecidablePred HandOutStarts := fun s ↦
  inferInstanceAs (Decidable (Starts s ∧ s.db.food.distributions.rows = [] ∧
    s.db.food.distributionItems.rows = [] ∧ s.db.food.confirmations.rows = []))

/-! ## A small hand-out -/

section Sample

/-- The calls other than those of the rest of the platform, as they are served. -/
def admitsHandOut (s : Desk) : HandOutCall → Bool
  | .desk call => admits s call
  | _ => true

theorem served_of_admits (h : admitsHandOut s k = true) : Served s k := by
  cases k with
  | desk call =>
      refine ⟨admitted_of_admits h, ?_⟩
      rintro db rfl
      cases h
  | _ => trivial

/-- The digests of the codes of the sample. -/
def sampleDigest (code : String) : String :=
  if code = "AAAAAA" then "69dc6c3210e25e62c5938ff4e841e81ce3c7d2cde583553478a77d7fcb389f30"
  else if code = "BBBBBB" then
    "9d9816fe3f392fcf547d886a4f2d635adf86cbda3e9d8f5e687e42188160ec6d"
  else ""

/-- An order of the programme is received, outside the calls of this module. -/
def sampleReceives (s : Desk) : Call :=
  .elsewhere { s.db with
    food := { s.db.food with
      purchaseOrders := ⟨[⟨.ofNat 50, some sampleProgramme, .fulfilled⟩], by simp⟩ } }

theorem served_sampleReceives (s : Desk) : Served s (.desk (sampleReceives s)) := by
  refine ⟨⟨rfl, rfl, rfl, fun _ ↦ rfl, fun t ht _ _ hkey ↦ ⟨t, ht, hkey⟩, fun h ↦ h⟩, ?_⟩
  rintro db ⟨⟩
  exact ⟨rfl, rfl, rfl⟩

/-- The state after some calls of the programmes and the receipt of an order. -/
def sampleStocked (calls : List Call) : Desk :=
  step (sampleAfter calls) (sampleReceives (sampleAfter calls))

/-- The state after some calls of the hand-out. -/
def sampleServed (s : Desk) (calls : List HandOutCall) : Desk := calls.foldl (serve sampleDigest) s

/-- The distribution of the sample. -/
def sampleDistribution : Uuid := (sampleDraw 30 30).uuid 0

/-- The coordinator moves the distribution; `n` numbers the call. -/
def sampleMovesOn (n : Nat) (status : FoodDistributionStatus) : HandOutCall :=
  .transitionDistribution (sampleDraw n n) (.ofNat 9) sampleProgramme sampleDistribution status

/-- A distribution is planned and made ready. -/
def sampleReady : List HandOutCall :=
  [.createDistribution (sampleDraw 30 30) (.ofNat 9) sampleProgramme 1000, sampleMovesOn 31 .ready]

/-- A member is issued a code. -/
def sampleAsks (n member : Nat) (bytes : List UInt8) : HandOutCall :=
  .issueCollectionCode (sampleDraw n n) bytes (.ofNat member) sampleDistribution

/-- The coordinator confirms a collection against a code. -/
def sampleConfirms (n : Nat) (code : String) : HandOutCall :=
  .confirmCollection (sampleDraw n n) (.ofNat 9) sampleProgramme sampleDistribution ⟨code, none⟩

/-- A run of the sample from its start; `allow` decides which calls are allowed. -/
theorem reaches_sampleServed {ok : Desk → HandOutCall → Prop} {allow : Desk → HandOutCall → Bool}
    {first : List Call} {rest : List HandOutCall} (hallow : ∀ s k, allow s k = true → ok s k)
    (hreceives : ∀ s, ok s (.desk (sampleReceives s)))
    (hfirst : AllAdmitted (serve sampleDigest) (fun s k ↦ allow s k = true) sampleMembers
      (first.map .desk))
    (hrest : AllAdmitted (serve sampleDigest) (fun s k ↦ allow s k = true) (sampleStocked first)
      rest) :
    Reaches (serve sampleDigest) ok sampleMembers (sampleServed (sampleStocked first) rest) := by
  have hdesk := (reaches_of_allAdmitted hfirst).mono hallow
  rw [List.foldl_map] at hdesk
  exact (hdesk.call _ (hreceives _)).trans ((reaches_of_allAdmitted hrest).mono hallow)

end Sample

end AjoCloud.Food
