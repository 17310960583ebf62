import AjoCloud.Auth.Requests
import AjoCloud.Platform.Solvency

/-!
# The accounts of a wallet

Registration opens the two accounts of a wallet together with it.  Everything that moves money looks
them up, and nothing ever opens them later: what the other routes into an account leave out stays
missing until somebody has paid.
-/

namespace AjoCloud.Wallets

open Lib ServiceError Ledger Payments Auth

/-! ## Calls -/

/-- An active account of the wallet, for the purpose and in its currency. -/
structure IsAccountOf (w : Wallet) (purpose : FinancialAccountPurpose) (a : FinancialAccount) :
    Prop where
  wallet_eq : a.walletId = some w.id
  purpose_is : a.purpose = some purpose
  currency_eq : a.currency = w.currency
  active : a.isActive = true

/-- The wallet has exactly one account to spend from and exactly one to set aside on. -/
structure Equipped (ledger : Ledger) (w : Wallet) : Prop where
  available : ∃! a, a ∈ ledger.accounts.rows ∧ IsAccountOf w .walletAvailable a
  reserved : ∃! a, a ∈ ledger.accounts.rows ∧ IsAccountOf w .walletReserved a

/-- Somebody whose account was opened by a staff invitation. -/
def Invited (s : Store) (userId : Uuid) : Prop :=
  ∃ i ∈ s.staffInvites.rows, i.acceptedUserId = some userId

instance (s : Store) (userId : Uuid) : Decidable (Invited s userId) :=
  inferInstanceAs (Decidable (∃ i ∈ s.staffInvites.rows, _))

/-- What a wallet is looked up by. -/
def walletKey (w : Wallet) : Uuid × Uuid × String := (w.id, w.userId, w.currency)

/-- No account was created: the wallets are the same but for their status, and so are the accounts
that belong to one; there are no new users and no new top-ups. -/
structure Leaves (s s' : Store) : Prop where
  wallets : s'.db.wallets.rows.map walletKey = s.db.wallets.rows.map walletKey
  accounts : ∀ a, a.walletId ≠ none →
    (a ∈ s'.db.ledger.accounts.rows ↔ a ∈ s.db.ledger.accounts.rows)
  users : ∀ u' ∈ s'.db.users.rows, ∃ u ∈ s.db.users.rows, u.id = u'.id
  invited : ∀ userId, Invited s userId → Invited s' userId
  pending : ∀ i ∈ s'.staffInvites.rows, i.status = .pending →
    i.acceptedUserId = none ∨ i ∈ s.staffInvites.rows
  topUps : ∀ x' ∈ s'.db.paymentIntents.rows, x'.targetType = .walletTopup →
    ∃ x ∈ s.db.paymentIntents.rows, terms x = terms x'

/-- What the rest of the platform does, which creates no account and asks for no top-up. -/
structure Elsewhere where
  update : Store → Store
  leaves : ∀ s, Leaves s (update s)

/-- A step of a route into an account, of a top-up, or of anything else. -/
inductive Call where
  | auth (o : Inputs) (request : Auth.Request)
  /-- `POST payments/intents`, behind its guard, for a top-up. -/
  | topUp (o : Inputs) (claims : AccessClaims) (dto : CreateIntentDto) (idempotencyKey : String)
  | startExternal (o : Inputs) (provider : PaymentProvider) (userId intentId : Uuid)
      (method : PaymentMethod)
  | settleDeposit (o : Inputs) (intentId : Uuid)
  | failIntent (intentId : Uuid) (reason : String)
  | elsewhere (change : Elsewhere)

/-- The store with another database. -/
def withDb (s : Store) (db : Db) : Store := { s with db := db }

/-- The store a call leaves. -/
def step (config : Auth.Config) (bills : Bills.BillConfig) (s : Store) : Call → Store
  | .auth o request => (exec config o s request).1
  | .topUp o claims dto key =>
      match canActivate o.now s claims with
      | .ok user =>
          withDb s (committed s.db (create o.ctx s.db walletTopUpTarget user.userId dto key))
      | .error _ => s
  | .startExternal o provider userId intentId method =>
      withDb s (Platform.step bills s.db (.startExternal o.ctx provider userId intentId method))
  | .settleDeposit o intentId => withDb s (Platform.step bills s.db (.settleDeposit o.ctx intentId))
  | .failIntent intentId reason => withDb s (Platform.step bills s.db (.failIntent intentId reason))
  | .elsewhere change => change.update s

/-- Google opens no account for anybody, and nobody who came by a staff invitation tops up. -/
def Regular (s : Store) : Call → Prop
  | .auth _ (.createGoogle ..) => False
  | .topUp _ claims _ _ => ¬ Invited s claims.sub
  | _ => True

instance (s : Store) (call : Call) : Decidable (Regular s call) := by
  unfold Regular
  split <;> infer_instance

/-- The platform's own accounts that a deposit touches. -/
structure HasPlatformAccounts (ledger : Ledger) (currency : String) : Prop where
  providerPayable : ∃ a ∈ ledger.accounts.rows,
    a.purpose = some .providerPayable ∧ a.currency = currency
  feeRevenue : ∃ a ∈ ledger.accounts.rows,
    a.purpose = some .platformFeeRevenue ∧ a.currency = currency

/-- Every wallet can hold money, and so can whoever has a top-up collected. -/
structure HoldsMoney (s : Store) : Prop where
  equipped : ∀ w ∈ s.db.wallets.rows, Equipped s.db.ledger w
  funded : ∀ x ∈ s.db.paymentIntents.rows, x.targetType = .walletTopup →
    ∃ w ∈ s.db.wallets.rows, w.userId = x.userId ∧ w.currency = x.currency
  settles : ∀ x ∈ s.db.paymentIntents.rows, x.targetType = .walletTopup →
    HasPlatformAccounts s.db.ledger x.currency →
      ∃ accounts, accountsFor s.db x.userId x.currency = .ok accounts

/-- Nobody has an account yet. -/
structure Unopened (s : Store) : Prop where
  users : s.db.users.rows = []
  wallets : s.db.wallets.rows = []
  accounts : ∀ a ∈ s.db.ledger.accounts.rows, a.walletId = none
  intents : s.db.paymentIntents.rows = []
  invites : s.staffInvites.rows = []

/-! ## What is kept -/

/-- What holds of a store in which every wallet came by registration. -/
structure Provided (s : Store) : Prop where
  equipped : ∀ w ∈ s.db.wallets.rows, Equipped s.db.ledger w
  owned : ∀ a ∈ s.db.ledger.accounts.rows, ∀ id ∈ a.walletId, ∃ w ∈ s.db.wallets.rows, w.id = id
  users : ∀ u ∈ s.db.users.rows, (∃ w ∈ s.db.wallets.rows, w.userId = u.id) ∨ Invited s u.id
  pending : ∀ i ∈ s.staffInvites.rows, i.status = .pending → i.acceptedUserId = none
  topUps : ∀ x ∈ s.db.paymentIntents.rows, x.targetType = .walletTopup →
    ∃ w ∈ s.db.wallets.rows, w.userId = x.userId ∧ w.currency = x.currency

variable {config : Auth.Config} {bills : Bills.BillConfig} {o : Inputs} {s s' : Store} {db' : Db} {ledger ledger' : Ledger}
  {w w' : Wallet}

theorem provided_of_unopened (h : Unopened s) : Provided s where
  equipped := by simp [h.wallets]
  owned := by
    intro a ha id hid
    rw [h.accounts a ha] at hid
    cases hid
  users := by simp [h.users]
  pending := by simp [h.invites]
  topUps := by simp [h.intents]

/-- A wallet's accounts are all that matters about the ledger, and its key about the wallet. -/
theorem Equipped.congr (h : Equipped ledger w) (hkey : walletKey w' = walletKey w)
    (hacc : ∀ a, a.walletId = some w.id →
      (a ∈ ledger'.accounts.rows ↔ a ∈ ledger.accounts.rows)) : Equipped ledger' w' := by
  simp only [walletKey, Prod.mk.injEq] at hkey
  obtain ⟨hid, -, hcurrency⟩ := hkey
  have hsame : ∀ purpose a, (a ∈ ledger'.accounts.rows ∧ IsAccountOf w' purpose a) ↔
      (a ∈ ledger.accounts.rows ∧ IsAccountOf w purpose a) := by
    intro purpose a
    constructor
    · rintro ⟨ha, hw, hp, hc, hactive⟩
      have howner := hw.trans (congrArg some hid)
      exact ⟨(hacc a howner).mp ha, howner, hp, hc.trans hcurrency, hactive⟩
    · rintro ⟨ha, hw, hp, hc, hactive⟩
      exact ⟨(hacc a hw).mpr ha, hw.trans (congrArg some hid.symm), hp, hc.trans hcurrency.symm,
        hactive⟩
  exact ⟨by simpa only [hsame] using h.available, by simpa only [hsame] using h.reserved⟩

/-- A wallet under its key, before and after. -/
theorem Leaves.exists_wallet (h : Leaves s s') (hw : w ∈ s.db.wallets.rows) :
    ∃ w' ∈ s'.db.wallets.rows, walletKey w' = walletKey w := by
  have hmem : walletKey w ∈ s'.db.wallets.rows.map walletKey :=
    h.wallets ▸ List.mem_map_of_mem hw
  exact List.mem_map.mp hmem

theorem Leaves.exists_wallet_before (h : Leaves s s') (hw : w' ∈ s'.db.wallets.rows) :
    ∃ w ∈ s.db.wallets.rows, walletKey w' = walletKey w := by
  have hmem : walletKey w' ∈ s.db.wallets.rows.map walletKey :=
    h.wallets ▸ List.mem_map_of_mem hw
  obtain ⟨w, hw, hkey⟩ := List.mem_map.mp hmem
  exact ⟨w, hw, hkey.symm⟩

/-- Whatever creates no account keeps the wallets in order. -/
theorem Leaves.provided (h : Leaves s s') (hp : Provided s) : Provided s' where
  equipped := by
    intro w' hw'
    obtain ⟨w, hw, hkey⟩ := h.exists_wallet_before hw'
    exact (hp.equipped w hw).congr hkey fun a ha ↦ h.accounts a (by simp [ha])
  owned := by
    intro a ha id hid
    obtain ⟨w, hw, rfl⟩ := hp.owned a ((h.accounts a (by simp [Option.mem_def.mp hid])).mp ha) id hid
    obtain ⟨w', hw', hkey⟩ := h.exists_wallet hw
    exact ⟨w', hw', congrArg Prod.fst hkey⟩
  users := by
    intro u' hu'
    obtain ⟨u, hu, hid⟩ := h.users u' hu'
    rw [← hid]
    rcases hp.users u hu with ⟨w, hw, howner⟩ | hinvited
    · obtain ⟨w', hw', hkey⟩ := h.exists_wallet hw
      exact .inl ⟨w', hw', (congrArg (fun k ↦ k.2.1) hkey).trans howner⟩
    · exact .inr (h.invited u.id hinvited)
  pending := by
    intro i hi hpending
    rcases h.pending i hi hpending with hnone | hold
    · exact hnone
    · exact hp.pending i hold hpending
  topUps := by
    intro x' hx' htype
    obtain ⟨x, hx, hterms⟩ := h.topUps x' hx' htype
    simp only [terms, IntentTerms.mk.injEq] at hterms
    obtain ⟨-, huser, hsametype, -, -, -, -, hcurrency⟩ := hterms
    obtain ⟨w, hw, howner, hin⟩ := hp.topUps x hx (hsametype.trans htype)
    obtain ⟨w', hw', hkey⟩ := h.exists_wallet hw
    simp only [walletKey, Prod.mk.injEq] at hkey
    exact ⟨w', hw', hkey.2.1.trans (howner.trans huser), hkey.2.2.trans (hin.trans hcurrency)⟩

/-! ## Steps that create no account -/

theorem Leaves.same (hdb : s'.db = s.db) (hinvites : s'.staffInvites = s.staffInvites) :
    Leaves s s' where
  wallets := by rw [hdb]
  accounts := by simp [hdb]
  users := by
    rw [hdb]
    exact fun u hu ↦ ⟨u, hu, rfl⟩
  invited := by
    unfold Invited
    rw [hinvites]
    exact fun _ h ↦ h
  pending := by
    rw [hinvites]
    exact fun i hi _ ↦ .inr hi
  topUps := by
    rw [hdb]
    exact fun x hx _ ↦ ⟨x, hx, rfl⟩

theorem Leaves.refl (s : Store) : Leaves s s := .same rfl rfl

theorem Leaves.trans {s'' : Store} (h : Leaves s s') (h' : Leaves s' s'') : Leaves s s'' where
  wallets := h'.wallets.trans h.wallets
  accounts := fun a ha ↦ (h'.accounts a ha).trans (h.accounts a ha)
  users := by
    intro u'' hu''
    obtain ⟨u', hu', hid'⟩ := h'.users u'' hu''
    obtain ⟨u, hu, hid⟩ := h.users u' hu'
    exact ⟨u, hu, hid.trans hid'⟩
  invited := fun userId hi ↦ h'.invited userId (h.invited userId hi)
  pending := by
    intro i hi hpending
    rcases h'.pending i hi hpending with hnone | hmid
    · exact .inl hnone
    · exact h.pending i hmid hpending
  topUps := by
    intro x'' hx'' htype
    obtain ⟨x', hx', hterms'⟩ := h'.topUps x'' hx'' htype
    have htype' : x'.targetType = .walletTopup := (congrArg (·.targetType) hterms').trans htype
    obtain ⟨x, hx, hterms⟩ := h.topUps x' hx' htype'
    exact ⟨x, hx, hterms.trans hterms'⟩

/-- A user gets another status. -/
theorem Leaves.status (userId : Uuid) (status : UserStatus)
    (hdb : s'.db = (setStatus userId status s).db) (hinvites : s'.staffInvites = s.staffInvites) :
    Leaves s s' := by
  have h : Leaves s (setStatus userId status s) := by
    have hsame := Leaves.refl s
    refine ⟨hsame.wallets, hsame.accounts, fun u' hu' ↦ ?_, hsame.invited, hsame.pending,
      hsame.topUps⟩
    obtain ⟨u, hu, rfl⟩ := List.mem_map.mp hu'
    refine ⟨u, hu, ?_⟩
    split
    · rfl
    · rfl
  exact h.trans (.same hdb hinvites)

/-- The intents were rewritten under their terms, and the accounts left as they are. -/
theorem Leaves.rewritten {p : PaymentIntent → Prop} [DecidablePred p]
    {f : PaymentIntent → PaymentIntent} {paymentIntents : Table PaymentIntent}
    (haccounts : ledger'.accounts = s.db.ledger.accounts)
    (hrows : paymentIntents.rows = s.db.paymentIntents.rows.map fun i ↦ if p i then f i else i)
    (hf : ∀ x, terms (f x) = terms x) :
    Leaves s (withDb s { s.db with ledger := ledger', paymentIntents := paymentIntents }) := by
  have h := Leaves.refl s
  refine ⟨h.wallets, fun a _ ↦ ?_, h.users, h.invited, h.pending, fun x' hx' _ ↦ ?_⟩
  · change a ∈ ledger'.accounts.rows ↔ _
    rw [haccounts]
  · change x' ∈ paymentIntents.rows at hx'
    rw [hrows] at hx'
    obtain ⟨x, hx, rfl⟩ := List.mem_map.mp hx'
    exact ⟨x, hx, (terms_ite (hf x)).symm⟩

/-- The requests that may create an account. -/
def opensAccount : Auth.Request → Bool
  | .register .. | .createGoogle .. | .redeemInvite .. => true
  | _ => false

theorem exec_leaves {request : Auth.Request} (h : opensAccount request = false) :
    Leaves s (exec config o s request).1 := by
  have heffect := exec_effect config o s request
  revert heffect
  generalize (exec config o s request).1 = s'
  generalize observe config o s request = events
  intro heffect
  cases heffect with
  | registered => cases h
  | createdGoogle => cases h
  | invited => cases h
  | verified caller userId => exact .status userId .active rfl rfl
  | reset caller challengeId code hash challenge => exact .status challenge.userId .active rfl rfl
  | linked caller claims email userId => exact .status userId .active rfl rfl
  | statusSet userId status => exact .status userId status rfl rfl
  | _ => exact .same rfl rfl

/-! ## The routes that create accounts -/

/-- What a registration adds: a user, with a wallet and its two accounts. -/
structure Registered (o : Inputs) (s s' : Store) (u : User) (w : Wallet) : Prop where
  owner : w.userId = u.id
  fresh : ∀ w' ∈ s.db.wallets.rows, w'.id ≠ w.id
  users : s'.db.users.rows = s.db.users.rows ++ [u]
  wallets : s'.db.wallets.rows = s.db.wallets.rows ++ [w]
  accounts : s'.db.ledger.accounts.rows = s.db.ledger.accounts.rows ++
    [availableAccount (o.uuid 3) w, reservedAccount (o.uuid 4) w]
  intents : s'.db.paymentIntents = s.db.paymentIntents
  invites : s'.staffInvites = s.staffInvites

theorem registerAccount_eq_ok {dto : RegisterDto} {passwordHash : String} {createdId : Uuid}
    (h : registerAccount config o s dto passwordHash = .ok (createdId, s')) :
    ∃ u w, Registered o s s' u w := by
  rw [registerAccount, mapError_eq_ok] at h
  simp only [registerAccountWithin, bind_eq_ok, pure_eq_ok, Prod.exists, Prod.mk.injEq] at h
  obtain ⟨id, db, hregister, _, _, -, _, -, _, -, _, -, rfl, rfl⟩ := h
  simp only [registerWithin, bind_eq_ok, pure_eq_ok, Prod.mk.injEq] at hregister
  obtain ⟨users, husers, _, -, wallets, hwallets, mid, hmid, ledger, hledger, _, -, rfl, rfl⟩ :=
    hregister
  refine ⟨newUser o.ctx o.referralCode dto, ⟨o.uuid 2, o.uuid 0, "NGN", .active⟩, rfl,
    fun w' hw' hid ↦ ?_, insertRow_eq_ok husers, insertRow_eq_ok hwallets, ?_, rfl, rfl⟩
  · exact not_clash_of_insertRow hwallets w' hw' (.inl hid)
  · change ledger.accounts.rows = _
    rw [(createAccount_eq_ok hledger).2.1, (createAccount_eq_ok hmid).2.1, List.append_assoc]
    rfl

/-- An account of a ledger that two were added to, for the wallet they were added for. -/
theorem existsUnique_of_added {a : FinancialAccount} {purpose : FinancialAccountPurpose}
    {rows : List FinancialAccount} (hold : ∀ x ∈ rows, x.walletId ≠ some w.id)
    (hadded : a ∈ [availableAccount (o.uuid 3) w, reservedAccount (o.uuid 4) w])
    (ha : IsAccountOf w purpose a)
    (hother : ∀ x ∈ [availableAccount (o.uuid 3) w, reservedAccount (o.uuid 4) w],
      x.purpose = some purpose → x = a) :
    ∃! x, x ∈ rows ++ [availableAccount (o.uuid 3) w, reservedAccount (o.uuid 4) w] ∧
      IsAccountOf w purpose x := by
  refine ⟨a, ⟨List.mem_append_right _ hadded, ha⟩, ?_⟩
  rintro x ⟨hx, hof⟩
  rcases List.mem_append.mp hx with hx | hx
  · exact absurd hof.wallet_eq (hold x hx)
  · exact hother x hx hof.purpose_is

theorem Registered.equipped {u : User} (h : Registered o s s' u w) (hp : Provided s) :
    Equipped s'.db.ledger w := by
  have hold : ∀ x ∈ s.db.ledger.accounts.rows, x.walletId ≠ some w.id := by
    intro x hx hid
    obtain ⟨w', hw', heq⟩ := hp.owned x hx w.id hid
    exact h.fresh w' hw' heq
  constructor
  · rw [h.accounts]
    refine existsUnique_of_added hold List.mem_cons_self ⟨rfl, rfl, rfl, rfl⟩ ?_
    simp [availableAccount, reservedAccount, newWalletAccount]
  · rw [h.accounts]
    refine existsUnique_of_added hold (List.mem_cons_of_mem _ List.mem_cons_self)
      ⟨rfl, rfl, rfl, rfl⟩ ?_
    simp [availableAccount, reservedAccount, newWalletAccount]

/-- A registration keeps the wallets in order. -/
theorem Registered.provided {u : User} (h : Registered o s s' u w) (hp : Provided s) :
    Provided s' where
  equipped := by
    intro w' hw'
    rw [h.wallets, List.mem_append, List.mem_singleton] at hw'
    rcases hw' with hw' | rfl
    · refine (hp.equipped w' hw').congr rfl fun a ha ↦ ?_
      have hne : a.walletId ≠ some w.id := by
        rw [ha]
        exact fun heq ↦ h.fresh w' hw' (Option.some.inj heq)
      rw [h.accounts, List.mem_append]
      refine or_iff_left fun hadded ↦ ?_
      simp only [List.mem_cons, List.not_mem_nil, or_false] at hadded
      rcases hadded with rfl | rfl
      · exact hne rfl
      · exact hne rfl
    · exact h.equipped hp
  owned := by
    intro a ha id hid
    rw [h.accounts, List.mem_append] at ha
    rw [h.wallets]
    rcases ha with ha | ha
    · obtain ⟨w', hw', heq⟩ := hp.owned a ha id hid
      exact ⟨w', List.mem_append_left _ hw', heq⟩
    · refine ⟨w, List.mem_append_right _ (List.mem_singleton_self w), ?_⟩
      simp only [List.mem_cons, List.not_mem_nil, or_false] at ha
      rcases ha with rfl | rfl
      · exact Option.some.inj hid
      · exact Option.some.inj hid
  users := by
    intro u' hu'
    rw [h.users, List.mem_append, List.mem_singleton] at hu'
    rw [h.wallets, Invited, h.invites]
    rcases hu' with hu' | rfl
    · rcases hp.users u' hu' with ⟨w', hw', howner⟩ | hinvited
      · exact .inl ⟨w', List.mem_append_left _ hw', howner⟩
      · exact .inr hinvited
    · exact .inl ⟨w, List.mem_append_right _ (List.mem_singleton_self w), h.owner⟩
  pending := by
    rw [h.invites]
    exact hp.pending
  topUps := by
    intro x hx htype
    rw [h.intents] at hx
    obtain ⟨w', hw', hfor⟩ := hp.topUps x hx htype
    rw [h.wallets]
    exact ⟨w', List.mem_append_left _ hw', hfor⟩

/-- What an accepted invitation does: it adds a user, without a wallet, and says who that is. -/
structure Accepted (o : Inputs) (s s' : Store) (inviteId : Uuid) (u : User) (i : StaffInvite) :
    Prop where
  id_eq : u.id = o.uuid 0
  mem : i ∈ s.staffInvites.rows
  names : i.id = inviteId
  open_ : i.status = .pending
  users : s'.db.users.rows = s.db.users.rows ++ [u]
  wallets : s'.db.wallets = s.db.wallets
  ledger : s'.db.ledger = s.db.ledger
  intents : s'.db.paymentIntents = s.db.paymentIntents
  invites : s'.staffInvites.rows = s.staffInvites.rows.map fun i ↦
    if i.id = inviteId then acceptInvite o.now (o.uuid 0) i else i

theorem accept_eq_ok {inviteId createdId : Uuid} {passwordHash : String}
    (h : accept o s inviteId passwordHash = .ok (createdId, s')) :
    ∃ u i, Accepted o s s' inviteId u i := by
  simp only [accept, bind_eq_ok, require_eq_ok, orThrow_eq_ok, exists_const, pure_eq_ok,
    Prod.mk.injEq] at h
  obtain ⟨invite, hfind, hopen, -, -, users, husers, _, -, _, -, _, -, -, rfl⟩ := h
  have hid : invite.id = inviteId := by simpa using Table.prop_of_find? hfind
  refine ⟨_, invite, rfl, Table.mem_of_find? hfind, hid, hopen, insertRow_eq_ok husers, rfl, rfl,
    rfl, List.map_congr_left fun i _ ↦ ?_⟩
  simp only [decide_eq_true_eq]

/-- Only the invitation that is pending is written, so nobody who came by another is forgotten. -/
theorem Accepted.invited {inviteId userId : Uuid} {u : User} {i : StaffInvite}
    (h : Accepted o s s' inviteId u i) (hp : Provided s) (hinvited : Invited s userId) :
    Invited s' userId := by
  obtain ⟨j, hj, hfor⟩ := hinvited
  refine ⟨j, ?_, hfor⟩
  rw [h.invites]
  refine List.mem_map.mpr ⟨j, hj, if_neg fun hid ↦ ?_⟩
  have hsame : j = i := s.staffInvites.eq_of_clash hj h.mem (.inl (.inl (hid.trans h.names.symm)))
  rw [hsame, hp.pending i h.mem h.open_] at hfor
  cases hfor

/-- An accepted invitation keeps the wallets in order. -/
theorem Accepted.provided {inviteId : Uuid} {u : User} {i : StaffInvite}
    (h : Accepted o s s' inviteId u i) (hp : Provided s) : Provided s' where
  equipped := by
    rw [h.wallets, h.ledger]
    exact hp.equipped
  owned := by
    rw [h.wallets, h.ledger]
    exact hp.owned
  users := by
    intro u' hu'
    rw [h.users, List.mem_append, List.mem_singleton] at hu'
    rw [h.wallets]
    rcases hu' with hu' | rfl
    · exact (hp.users u' hu').imp_right (h.invited hp)
    · refine .inr ⟨acceptInvite o.now (o.uuid 0) i, ?_, congrArg some h.id_eq.symm⟩
      rw [h.invites]
      exact List.mem_map.mpr ⟨i, h.mem, if_pos h.names⟩
  pending := by
    intro j hj hpending
    rw [h.invites] at hj
    obtain ⟨j₀, hj₀, rfl⟩ := List.mem_map.mp hj
    split at hpending
    · cases hpending
    · rw [if_neg ‹_›]
      exact hp.pending j₀ hj₀ hpending
  topUps := by
    rw [h.wallets, h.intents]
    exact hp.topUps

/-! ## Top-ups -/

/-- The guard lets nobody in who is not a user. -/
theorem user_of_canActivate {now : Timestamp} {claims : AccessClaims} {user : AuthenticatedUser}
    (h : canActivate now s claims = .ok user) :
    user.userId = claims.sub ∧ ∃ u ∈ s.db.users.rows, u.id = claims.sub := by
  simp only [canActivate, bind_eq_ok, require_eq_ok, orThrow_eq_ok, exists_const, pure_eq_ok] at h
  obtain ⟨-, session, -, u, hfind, ⟨hsub, -⟩, rfl⟩ := h
  have hid : u.id = session.userId := by simpa using Table.prop_of_find? hfind
  exact ⟨rfl, u, Table.mem_of_find? hfind, hid.trans hsub⟩

/-- A top-up is in the currency of a wallet of whoever asks for it, if they have one. -/
theorem exists_wallet_of_resolveTopUp {db : Db} {userId : Uuid} {requested : Option Int}
    {target : ResolvedTarget} (h : resolveTopUp db userId requested = .ok target)
    (hw : ∃ w ∈ db.wallets.rows, w.userId = userId) :
    ∃ w ∈ db.wallets.rows, w.userId = userId ∧ w.currency = target.currency := by
  simp only [resolveTopUp, bind_eq_ok, orThrow_eq_ok, require_eq_ok, exists_const, pure_eq_ok] at h
  obtain ⟨amount, -, -, rfl⟩ := h
  cases hfind : db.wallets.find? fun w ↦ w.userId = userId with
  | none =>
      obtain ⟨w, hw, howner⟩ := hw
      exact absurd (by simpa using howner) (Table.not_of_find?_eq_none hfind hw)
  | some w => exact ⟨w, Table.mem_of_find? hfind, by simpa using Table.prop_of_find? hfind, rfl⟩

/-- A top-up of somebody who has a wallet keeps the wallets in order. -/
theorem Provided.topUp (hp : Provided s) {ctx : Ctx} {userId : Uuid} {dto : CreateIntentDto}
    {key : String} {intent : PaymentIntent} (hw : ∃ w ∈ s.db.wallets.rows, w.userId = userId)
    (h : create ctx s.db walletTopUpTarget userId dto key = .ok (intent, db')) :
    Provided (withDb s db') := by
  cases create_eq_ok h with
  | replayed _ _ same =>
      subst same
      exact hp
  | stored target fee paymentIntents resolve _ intent_eq insert after =>
      subst after
      refine ⟨hp.equipped, hp.owned, hp.users, hp.pending, fun x hx htype ↦ ?_⟩
      change x ∈ paymentIntents.rows at hx
      rw [Table.rows_of_insert insert, List.mem_append, List.mem_singleton] at hx
      rcases hx with hx | rfl
      · exact hp.topUps x hx htype
      · rw [intent_eq]
        exact exists_wallet_of_resolveTopUp resolve hw

/-! ## Collecting -/

/-- A transaction that leaves the wallets in order does so whether it is committed or not. -/
theorem leaves_committed {α : Type} {result : Except ServiceError (α × Db)}
    (h : ∀ a db', result = .ok (a, db') → Leaves s (withDb s db')) :
    Leaves s (withDb s (committed s.db result)) := by
  rcases committed_cases s.db result with hsame | ⟨a, db', hok, hafter⟩
  · rw [hsame]
    exact .refl s
  · rw [hafter]
    exact h a db' hok

theorem startExternal_leaves {ctx : Ctx} {handler : PaymentTarget} {provider : PaymentProvider}
    {userId intentId : Uuid} {method : PaymentMethod} {charge : ChargeRequest}
    (h : startExternal ctx s.db handler provider userId intentId method = .ok (charge, db')) :
    Leaves s (withDb s db') := by
  simp only [startExternal, bind_eq_ok, orThrow_eq_ok, pure_eq_ok, Prod.mk.injEq] at h
  obtain ⟨intent, -, target, -, answer, -, intents, hupdate, -, rfl⟩ := h
  have haccounts : s.db.ledger.accounts = s.db.ledger.accounts := rfl
  exact .rewritten haccounts (Table.rows_of_update hupdate) fun x ↦ rfl

theorem settleDeposit_leaves {ctx : Ctx} {intentId : Uuid} {outcome : SettlementOutcome}
    (h : settleDeposit ctx s.db intentId = .ok (outcome, db')) : Leaves s (withDb s db') := by
  unfold settleDeposit at h
  split at h
  · cases h
    exact .refl s
  · split at h
    · cases h
      exact .refl s
    · simp only [postDeposit, bind_eq_ok, pure_eq_ok, Prod.exists, Prod.mk.injEq] at h
      obtain ⟨accounts, -, posting, ledger, hpost, intents, hupdate, -, rfl⟩ := h
      refine .rewritten ?_ (updateRow_eq_ok hupdate) fun x ↦ rfl
      cases (postWithin_eq_ok hpost).2 with
      | replayed _ _ _ _ same => rw [same]
      | appended _ created _ => exact (createTransaction_eq_ok created).2.2.2.1

theorem failIntent_leaves (s : Store) (intentId : Uuid) (reason : String) :
    Leaves s (withDb s (failIntent s.db intentId reason)) := by
  have h := Leaves.refl s
  refine ⟨h.wallets, h.accounts, h.users, h.invited, h.pending, fun x' hx' _ ↦ ?_⟩
  obtain ⟨x, hx, rfl⟩ := List.mem_map.mp hx'
  refine ⟨x, hx, ?_⟩
  split
  · rfl
  · rfl

/-! ## Every step, and every run -/

/-- A regular step keeps the wallets in order. -/
theorem step_provided {call : Call} (hp : Provided s) (hok : Regular s call) :
    Provided (step config bills s call) := by
  cases call with
  | auth o request =>
      cases hopens : opensAccount request with
      | false => exact (exec_leaves hopens).provided hp
      | true =>
          cases request with
          | register caller dto passwordHash =>
              rcases committed_cases s (registerAccount config o s dto passwordHash) with
                hsame | ⟨createdId, s', hregister, hafter⟩
              · rw [step, exec, hsame]
                exact hp
              · rw [step, exec, hafter]
                obtain ⟨u, w, hregistered⟩ := registerAccount_eq_ok hregister
                exact hregistered.provided hp
          | redeemInvite caller inviteId passwordHash =>
              rcases committed_cases s (accept o s inviteId passwordHash) with
                hsame | ⟨createdId, s', haccept, hafter⟩
              · rw [step, exec]
                simp only [hsame]
                exact hp
              · rw [step, exec]
                simp only [hafter]
                obtain ⟨u, i, haccepted⟩ := accept_eq_ok haccept
                exact haccepted.provided hp
          | createGoogle => exact hok.elim
          | _ => cases hopens
  | topUp o claims dto key =>
      rw [step]
      split
      · next user hguard =>
          obtain ⟨hsub, u, hu, hid⟩ := user_of_canActivate hguard
          have hw : ∃ w ∈ s.db.wallets.rows, w.userId = user.userId := by
            rw [hsub, ← hid]
            exact (hp.users u hu).resolve_right (hid ▸ hok)
          rcases committed_cases s.db
              (create o.ctx s.db walletTopUpTarget user.userId dto key) with
            hsame | ⟨intent, db', hcreate, hafter⟩
          · rw [hsame]
            exact hp
          · rw [hafter]
            exact hp.topUp hw hcreate
      · exact hp
  | startExternal o provider userId intentId method =>
      rw [step, Platform.step]
      split
      · exact (leaves_committed fun _ _ h ↦ startExternal_leaves h).provided hp
      · exact hp
  | settleDeposit o intentId =>
      exact (leaves_committed fun _ _ h ↦ settleDeposit_leaves h).provided hp
  | failIntent intentId reason =>
      exact (failIntent_leaves s intentId reason).provided hp
  | elsewhere change => exact (change.leaves s).provided hp

theorem provided_of_reaches {start : Store} (hrun : Reaches (step config bills) Regular start s)
    (hstart : Unopened start) : Provided s :=
  hrun.invariant (provided_of_unopened hstart) fun _ _ hp hok ↦ step_provided hp hok

/-- A row that is there is found, or one before it. -/
theorem exists_find? {ρ : Type} [Schema ρ] {t : Table ρ} {p : ρ → Prop} [DecidablePred p]
    (h : ∃ r ∈ t.rows, p r) : ∃ r, (t.find? fun r ↦ p r) = some r := by
  obtain ⟨r, hr, hp⟩ := h
  exact Option.isSome_iff_exists.mp (List.find?_isSome.mpr ⟨r, hr, by simpa using hp⟩)

/-- With the platform's own accounts, the accounts of a deposit are found for whoever has a wallet
with an account to spend from. -/
theorem exists_accountsFor {db : Db} {userId : Uuid} {currency : String}
    (hw : ∃ w ∈ db.wallets.rows, w.userId = userId ∧ w.currency = currency)
    (hequipped : ∀ w ∈ db.wallets.rows, Equipped db.ledger w)
    (hplatform : HasPlatformAccounts db.ledger currency) :
    ∃ accounts, accountsFor db userId currency = .ok accounts := by
  obtain ⟨w, hwallet⟩ := exists_find? (p := fun w : Wallet ↦ w.userId = userId ∧ w.currency = currency) hw
  obtain ⟨a, ⟨ha, hof⟩, -⟩ := (hequipped w (Table.mem_of_find? hwallet)).available
  obtain ⟨available, havailable⟩ := exists_find?
    (p := fun a : FinancialAccount ↦ a.walletId = some w.id ∧ a.purpose = some .walletAvailable)
    ⟨a, ha, hof.wallet_eq, hof.purpose_is⟩
  obtain ⟨provider, hprovider⟩ := exists_find?
    (p := fun a : FinancialAccount ↦ a.purpose = some .providerPayable ∧ a.currency = currency)
    hplatform.providerPayable
  obtain ⟨fee, hfee⟩ := exists_find?
    (p := fun a : FinancialAccount ↦ a.purpose = some .platformFeeRevenue ∧ a.currency = currency)
    hplatform.feeRevenue
  refine ⟨⟨available, provider, fee⟩, ?_⟩
  simp only [accountsFor, bind_eq_ok, orThrow_eq_ok, pure_eq_ok]
  exact ⟨w, hwallet, available, havailable, provider, hprovider, fee, hfee, rfl⟩

/-- **What registration leaves behind**: as long as Google opens no account for anybody and nobody who
came by a staff invitation tops up, every wallet can hold money. -/
theorem holdsMoney_of_reaches {start : Store} (hstart : Unopened start)
    (hrun : Reaches (step config bills) Regular start s) : HoldsMoney s := by
  have hp := provided_of_reaches hrun hstart
  refine ⟨hp.equipped, hp.topUps, fun x hx htype hplatform ↦ ?_⟩
  exact exists_accountsFor (hp.topUps x hx htype) hp.equipped hplatform

/-- `StaffInviteService.invite`, which stores the invitation. -/
def inviting (i : StaffInvite) (h : i.acceptedUserId = none) : Elsewhere where
  update s := { s with staffInvites := (s.staffInvites.insert i).getD s.staffInvites }
  leaves s := by
    have hsame := Leaves.refl s
    cases hinsert : s.staffInvites.insert i with
    | none => exact hsame
    | some invites =>
        have hrows := Table.rows_of_insert hinsert
        refine ⟨hsame.wallets, hsame.accounts, hsame.users, ?_, fun j hj _ ↦ ?_, hsame.topUps⟩
        · rintro userId ⟨j, hj, hfor⟩
          exact ⟨j, hrows ▸ List.mem_append_left _ hj, hfor⟩
        · change j ∈ invites.rows at hj
          rw [hrows, List.mem_append, List.mem_singleton] at hj
          rcases hj with hj | rfl
          · exact .inr hj
          · exact .inl h

section Sample

/-- The platform's own accounts, and nobody's. -/
def sampleFounded : Store :=
  { Store.empty with
    db := { Db.empty with
      ledger := ⟨⟨Platform.sampleAccounts.filter fun a ↦ a.walletId.isNone, by decide⟩, .empty,
        by simp⟩ } }

/-- The user signs in in the second `n` and has a top-up collected, of which the provider tells. -/
def sampleTopUp (userId : Uuid) (how : SignIn) (n : Nat) : List Call :=
  [.auth (sampleInputs n) (.openSession userId how),
    .topUp (sampleInputs (n + 1)) ⟨userId, .ofNat (100 * n), "access"⟩ ⟨none, some 100000⟩ "top-up",
    .startExternal (sampleInputs (n + 2)) Platform.sampleProvider userId (.ofNat (100 * (n + 1)))
      .transfer,
    .settleDeposit (sampleInputs (n + 3)) (.ofNat (100 * (n + 1)))]

/-- Somebody registers. -/
def sampleJoined : List Call :=
  [.auth (sampleInputs 1) (.register 1 sampleDto "hash of secret"),
    .auth (sampleInputs 2) (.verifyEmail 1 (.ofNat 100) "481511")]

/-- Somebody comes by Google, and tops up. -/
def sampleByGoogle : List Call :=
  .auth (sampleInputs 1) (.createGoogle 1 ⟨"google-1", some "eve@mail.com", true, some "Eve", none, none⟩
    "eve@mail.com") :: sampleTopUp (.ofNat 100) .google 2

/-- An invitation to the staff, sent by the first user. -/
def sampleStaffInvite : StaffInvite where
  id := .ofNat 900
  email := "staff@mail.com"
  firstName := "Sam"
  lastName := "Eze"
  roleId := .ofNat 106
  tokenHash := "digest of token"
  status := .pending
  invitedById := .ofNat 100
  expiresAt := 1000000
  acceptedAt := none
  acceptedUserId := none

/-- Somebody registers and invites somebody else to the staff, who tops up. -/
def sampleByInvite : List Call :=
  sampleJoined ++
    .elsewhere (inviting sampleStaffInvite rfl) ::
    .auth (sampleInputs 3) (.redeemInvite 2 (.ofNat 900) "hash of secret") ::
    sampleTopUp (.ofNat 300) .staffInvite 4

/-- Where the calls lead. -/
def sampleReached (calls : List Call) : Store :=
  calls.foldl (step sampleConfig Platform.sampleConfig) sampleFounded

end Sample

/-- A registered user has a top-up collected, and it is settled. -/
theorem holdsMoney_sample :
    (sampleReached (sampleJoined ++ sampleTopUp (.ofNat 100) .emailCode 3)).db.paymentIntents.rows.map
        (fun x ↦ (x.targetType, x.status)) = [(.walletTopup, .succeeded)] ∧
      HoldsMoney (sampleReached (sampleJoined ++ sampleTopUp (.ofNat 100) .emailCode 3)) :=
  ⟨by decide +kernel, holdsMoney_of_reaches ⟨rfl, rfl, by decide, rfl, rfl⟩
    (reaches_of_allAdmitted (by decide +kernel))⟩

/-- A top-up that was collected and whose accounts are not found. -/
def Stranded (s : Store) (x : PaymentIntent) : Prop :=
  x.targetType = .walletTopup ∧ x.status = .processing ∧
    (accountsFor s.db x.userId x.currency).isOk = false

instance (s : Store) (x : PaymentIntent) : Decidable (Stranded s x) :=
  inferInstanceAs (Decidable (_ ∧ _))

/-- The platform's accounts for payments in naira are there. -/
def IsFounded (s : Store) : Prop :=
  (∃ a ∈ s.db.ledger.accounts.rows, a.purpose = some .providerPayable ∧ a.currency = "NGN") ∧
    ∃ a ∈ s.db.ledger.accounts.rows, a.purpose = some .platformFeeRevenue ∧ a.currency = "NGN"

instance (s : Store) : Decidable (IsFounded s) := inferInstanceAs (Decidable (_ ∧ _))

theorem not_holdsMoney_of_stranded {x : PaymentIntent} (hx : x ∈ s.db.paymentIntents.rows)
    (hcurrency : x.currency = "NGN") (hfounded : IsFounded s) (hstranded : Stranded s x) :
    ¬ HoldsMoney s := by
  intro h
  obtain ⟨htype, -, hfails⟩ := hstranded
  have hplatform : HasPlatformAccounts s.db.ledger x.currency :=
    hcurrency ▸ ⟨hfounded.1, hfounded.2⟩
  have hok := exists_eq_ok_iff.mp (h.settles x hx htype hplatform)
  rw [hfails] at hok
  cases hok

/-- In the sample, a top-up is collected that cannot be settled. -/
def Strands (calls : List Call) : Prop :=
  Reaches (step sampleConfig Platform.sampleConfig) anyCall sampleFounded (sampleReached calls) ∧
    (∃ x ∈ (sampleReached calls).db.paymentIntents.rows, Stranded (sampleReached calls) x) ∧
    ¬ HoldsMoney (sampleReached calls)

theorem strands_of_stranded {calls : List Call}
    (h : IsFounded (sampleReached calls) ∧ ∃ x ∈ (sampleReached calls).db.paymentIntents.rows,
      x.currency = "NGN" ∧ Stranded (sampleReached calls) x) : Strands calls := by
  obtain ⟨hfounded, x, hx, hcurrency, hstranded⟩ := h
  exact ⟨reaches_foldl _ _ _, ⟨x, hx, hstranded⟩,
    not_holdsMoney_of_stranded hx hcurrency hfounded hstranded⟩

/-- The top-up of somebody whose account Google opened is collected and cannot be settled; nor can that
of somebody who came by a staff invitation. -/
theorem topUp_stranded : Strands sampleByGoogle ∧ Strands sampleByInvite :=
  ⟨strands_of_stranded (by decide +kernel), strands_of_stranded (by decide +kernel)⟩

end AjoCloud.Wallets
