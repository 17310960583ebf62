import AjoCloud.Akawo.Dues

/-!
# The two reports of a pool

The organiser's view goes over the active members and their dues, the totals over the paid dues of the
pool.  They agree as long as no due is paid for a member who has been removed, and then both report
what the books say was paid.
-/

namespace AjoCloud.Akawo

open Lib Ledger Payments

variable {codec : JoinCodec} {ctx : Ctx} {db db' : Db} {r : Request}

/-! ## What the books say -/

/-- The transaction with which a due was paid. -/
def paidTransaction (db : Db) (d : AkawoPoolDue) : Option LedgerTransaction :=
  d.ledgerTransactionId.bind fun id ↦ db.ledger.transactions.find? fun t ↦ t.id = id

/-- What the books say was paid for a due: what its transaction brought to the provider's account. -/
def ledgerAmount (db : Db) (d : AkawoPoolDue) : Int :=
  ((paidTransaction db d).map fun t ↦ db.ledger.netOver isProviderPayable t.legs).getD 0

/-- The due was paid with a transaction over its amount. -/
def Booked (db : Db) (d : AkawoPoolDue) : Prop :=
  ∃ t, paidTransaction db d = some t ∧
    db.ledger.netOver isProviderPayable t.legs = d.amountMinor

theorem Booked.ledgerAmount {d : AkawoPoolDue} (h : Booked db d) :
    ledgerAmount db d = d.amountMinor := by
  obtain ⟨t, ht, hamount⟩ := h
  rw [Akawo.ledgerAmount, ht]
  exact hamount

/-- The transaction of a due, when it is in the books. -/
theorem paidTransaction_eq_some {d : AkawoPoolDue} {t : LedgerTransaction} :
    paidTransaction db d = some t ↔
      d.ledgerTransactionId = some t.id ∧ t ∈ db.ledger.transactions.rows := by
  rw [paidTransaction, Option.bind_eq_some_iff]
  constructor
  · rintro ⟨id, hid, hfind⟩
    have htid : t.id = id := by simpa using Table.prop_of_find? hfind
    exact ⟨htid ▸ hid, Table.mem_of_find? hfind⟩
  · rintro ⟨hid, ht⟩
    refine ⟨t.id, hid, ?_⟩
    exact db.ledger.transactions.find?_eq_some_of_mem ht (decide_eq_true rfl) fun x _ hx ↦
      .inl (.inl (.inl (of_decide_eq_true hx)))

/-- Movements on accounts that were there are the same after more accounts were opened. -/
theorem netOver_of_accounts {ledger ledger' : Ledger} {q : FinancialAccount → Bool}
    {legs : List (Leg Uuid)} (h : ∀ a ∈ ledger.accounts.rows, a ∈ ledger'.accounts.rows)
    (hlegs : ∀ l ∈ legs, ∃ a ∈ ledger.accounts.rows, a.id = l.account) :
    ledger'.netOver q legs = ledger.netOver q legs := by
  refine sumWhere_of_subset ledger.accounts.nodup ledger'.accounts.nodup h fun a ha hnot ↦ ?_
  refine Journal.net_eq_zero fun l hl hid ↦ hnot ?_
  obtain ⟨b, hb, hbid⟩ := hlegs l hl
  rw [← account_eq_of_id (h b hb) ha (hbid.trans hid)]
  exact hb

/-- What is in the books stays there. -/
theorem Booked.recorded {d : AkawoPoolDue} (h : Booked db d) (hrec : Recorded db db') :
    Booked db' d := by
  obtain ⟨t, ht, hamount⟩ := h
  obtain ⟨hid, hmem⟩ := paidTransaction_eq_some.mp ht
  obtain ⟨t', ht', hid', hentries⟩ := hrec.transactions t hmem
  refine ⟨t', paidTransaction_eq_some.mpr ⟨hid'.symm ▸ hid, ht'⟩, ?_⟩
  have hlegs : t'.legs = t.legs := by
    rw [LedgerTransaction.legs, hentries]
    rfl
  rw [hlegs, netOver_of_accounts hrec.accounts fun l hl ↦ ?_, hamount]
  obtain ⟨e, he, rfl⟩ := List.mem_map.mp hl
  exact db.ledger.foreignKey t hmem e he

theorem Recorded.of_ledger (h : db'.ledger = db.ledger) : Recorded db db' := by
  constructor
  · rw [h]
    exact fun _ ha ↦ ha
  · rw [h]
    exact fun t ht ↦ ⟨t, ht, rfl, rfl⟩

theorem Effect.recorded (h : Effect ctx db r db') : Recorded db db' := by
  cases h with
  | aside h => exact h.recorded
  | created _ _ _ after => exact .of_ledger (by rw [after])
  | edited _ _ _ after => exact .of_ledger (by rw [after])
  | opened _ h => exact .of_ledger (by rw [h.after])
  | closed _ _ _ h => exact .of_ledger (by rw [h.after])
  | cancelled _ _ _ h => exact .of_ledger (by rw [h.after])
  | joined _ _ _ _ _ _ h => exact .of_ledger (by rw [h.after])
  | removed _ _ _ _ _ h => exact .of_ledger (by rw [h.after])
  | waived _ _ _ after => exact .of_ledger (by rw [after])
  | paid _ _ _ _ _ _ _ _ h =>
      constructor
      · rw [h.accounts]
        exact fun _ ha ↦ ha
      · intro t ht
        refine ⟨t, ?_, rfl, rfl⟩
        rw [h.transactions]
        exact List.mem_append_left _ ht

/-! ## Members and their dues -/

/-- Every member has a due in their pool, and every due is that of a member; a due that is paid is
that of an active member, and it is in the books. -/
structure Paired (db : Db) : Prop where
  intents : IntentsPosted db
  member : ∀ d ∈ db.akawo.dues.rows,
    ∃ m ∈ db.akawo.members.rows, m.id = d.memberId ∧ m.poolId = d.poolId
  due : ∀ m ∈ db.akawo.members.rows, ∃ d ∈ db.akawo.dues.rows, d.memberId = m.id
  active : ∀ d ∈ db.akawo.dues.rows, d.status = .paid →
    ∀ m ∈ db.akawo.members.rows, m.id = d.memberId → m.status = .active
  unlinked : ∀ d ∈ db.akawo.dues.rows, d.status ≠ .paid → d.ledgerTransactionId = none
  booked : ∀ d ∈ db.akawo.dues.rows, d.status = .paid → Booked db d

/-- A member has one due. -/
theorem Paired.due_eq (h : Paired db) {d e : AkawoPoolDue} (hd : d ∈ db.akawo.dues.rows)
    (he : e ∈ db.akawo.dues.rows) (hsame : d.memberId = e.memberId) : d = e := by
  obtain ⟨m, hm, hmid, hmpool⟩ := h.member d hd
  obtain ⟨n, hn, hnid, hnpool⟩ := h.member e he
  obtain rfl : m = n := member_eq_of_id hm hn (hmid.trans (hsame.trans hnid.symm))
  exact db.akawo.dues.eq_of_clash hd he
    (.inr ⟨rfl, congrArg some (Prod.ext (hmpool.symm.trans hnpool) hsame)⟩)

/-- Steps that leave members and dues alone. -/
theorem Paired.congr (h : Paired db) (hmembers : db'.akawo.members = db.akawo.members)
    (hdues : db'.akawo.dues = db.akawo.dues) (hintents : IntentsPosted db')
    (hrec : Recorded db db') : Paired db' := by
  refine ⟨hintents, ?_, ?_, ?_, ?_, ?_⟩
  · rw [hdues, hmembers]
    exact h.member
  · rw [hdues, hmembers]
    exact h.due
  · rw [hdues, hmembers]
    exact h.active
  · rw [hdues]
    exact h.unlinked
  · rw [hdues]
    exact fun d hd hpaid ↦ (h.booked d hd hpaid).recorded hrec

theorem Paired.join (h : Paired db) {pool : AkawoPool} {m : AkawoPoolMember} {d : AkawoPoolDue}
    (hj : Joined db db' pool m d) (hintents : IntentsPosted db') (hrec : Recorded db db') :
    Paired db' := by
  have hmembers := insertRow_eq_ok hj.members
  have hdues := insertRow_eq_ok hj.dues
  have hnew : ∀ n ∈ db.akawo.members.rows, n.id ≠ m.id := fun n hn hid ↦
    not_clash_of_insertRow hj.members n hn (.inl (.inl hid))
  refine ⟨hintents, ?_, ?_, ?_, ?_, ?_⟩
  · intro e he
    rw [hdues, List.mem_append, List.mem_singleton] at he
    rw [hmembers]
    rcases he with he | rfl
    · obtain ⟨n, hn, hid, hpool⟩ := h.member e he
      exact ⟨n, List.mem_append_left _ hn, hid, hpool⟩
    · exact ⟨m, List.mem_append_right _ (List.mem_singleton_self _), hj.due_member.symm,
        hj.member_pool.trans hj.due_pool.symm⟩
  · intro n hn
    rw [hmembers, List.mem_append, List.mem_singleton] at hn
    rw [hdues]
    rcases hn with hn | rfl
    · obtain ⟨e, he, hid⟩ := h.due n hn
      exact ⟨e, List.mem_append_left _ he, hid⟩
    · exact ⟨d, List.mem_append_right _ (List.mem_singleton_self _), hj.due_member⟩
  · intro e he hpaid n hn hid
    rw [hdues, List.mem_append, List.mem_singleton] at he
    rw [hmembers, List.mem_append, List.mem_singleton] at hn
    rcases he with he | rfl
    · rcases hn with hn | rfl
      · exact h.active e he hpaid n hn hid
      · exact hj.active
    · rw [hj.pending] at hpaid
      cases hpaid
  · intro e he hunpaid
    rw [hdues, List.mem_append, List.mem_singleton] at he
    rcases he with he | rfl
    · exact h.unlinked e he hunpaid
    · exact hj.unlinked
  · intro e he hpaid
    rw [hdues, List.mem_append, List.mem_singleton] at he
    rcases he with he | rfl
    · exact (h.booked e he hpaid).recorded hrec
    · rw [hj.pending] at hpaid
      cases hpaid

theorem Paired.remove (h : Paired db) {memberId : Uuid} {d : AkawoPoolDue}
    (hr : Removed ctx db db' memberId d) (hintents : IntentsPosted db') (hrec : Recorded db db') :
    Paired db' := by
  have hdues : db'.akawo.dues = db.akawo.dues := by rw [hr.after]
  refine ⟨hintents, ?_, ?_, ?_, ?_, ?_⟩
  · rw [hdues]
    intro e he
    obtain ⟨n, hn, hid, hpool⟩ := h.member e he
    refine ⟨_, hr.members ▸ List.mem_map_of_mem hn, ?_⟩
    split
    · exact ⟨hid, hpool⟩
    · exact ⟨hid, hpool⟩
  · rw [hdues, hr.members]
    intro n hn
    obtain ⟨n₀, hn₀, rfl⟩ := List.mem_map.mp hn
    obtain ⟨e, he, hid⟩ := h.due n₀ hn₀
    refine ⟨e, he, hid.trans ?_⟩
    split
    · rfl
    · rfl
  · rw [hdues, hr.members]
    intro e he hpaid n hn hid
    obtain ⟨n₀, hn₀, rfl⟩ := List.mem_map.mp hn
    split at hid
    · next hmine =>
        -- A member whose due is paid is not removed.
        have hsame : e.memberId = d.memberId :=
          hid.symm.trans ((of_decide_eq_true hmine).trans hr.due_member.symm)
        have hunpaid := hr.unpaid
        rw [← h.due_eq he hr.due hsame, hpaid] at hunpaid
        cases hunpaid
    · next hmine =>
        rw [if_neg hmine]
        exact h.active e he hpaid n₀ hn₀ hid
  · rw [hdues]
    exact h.unlinked
  · rw [hdues]
    exact fun e he hpaid ↦ (h.booked e he hpaid).recorded hrec

/-- A due that was pending is waived, or it is paid for an active member, with its transaction. -/
theorem Paired.rewrite (h : Paired db) {d : AkawoPoolDue} {write : AkawoPoolDue → AkawoPoolDue}
    (hw : Rewritten db db' d write) (hintents : IntentsPosted db') (hrec : Recorded db db')
    (hmember : (write d).memberId = d.memberId) (hpool : (write d).poolId = d.poolId)
    (hunpaid : (write d).status ≠ .paid → (write d).ledgerTransactionId = none)
    (hpaid : (write d).status = .paid → Booked db' (write d) ∧
      ∀ m ∈ db.akawo.members.rows, m.id = d.memberId → m.status = .active) : Paired db' := by
  have hmembers := hw.members
  refine ⟨hintents, ?_, ?_, ?_, ?_, ?_⟩
  · intro e he
    rw [hmembers]
    rcases hw.due_cases he with ⟨he, -⟩ | rfl
    · exact h.member e he
    · rw [hmember, hpool]
      exact h.member d hw.mem
  · rw [hmembers, hw.dues]
    intro n hn
    obtain ⟨e, he, hid⟩ := h.due n hn
    refine ⟨_, List.mem_map_of_mem he, ?_⟩
    split
    · next hmine =>
        rw [due_eq_of_id he hw.mem (of_decide_eq_true hmine)] at hid ⊢
        exact hmember.trans hid
    · exact hid
  · intro e he hst n hn hid
    rw [hmembers] at hn
    rcases hw.due_cases he with ⟨he, -⟩ | rfl
    · exact h.active e he hst n hn hid
    · exact (hpaid hst).2 n hn (hid.trans hmember)
  · intro e he hst
    rcases hw.due_cases he with ⟨he, -⟩ | rfl
    · exact h.unlinked e he hst
    · exact hunpaid hst
  · intro e he hst
    rcases hw.due_cases he with ⟨he, -⟩ | rfl
    · exact (h.booked e he hst).recorded hrec
    · exact (hpaid hst).1

/-! ## The condition -/

/-- A payment of a due is confirmed only while the member of the due is active. -/
def PaysWhileActive (db : Db) : Request → Prop
  | .confirm _ intentId _ => ∀ i ∈ db.paymentIntents.rows, i.id = intentId →
      ∀ d ∈ db.akawo.dues.rows, i.targetId = some d.id →
        ∀ m ∈ db.akawo.members.rows, m.id = d.memberId → m.status = .active
  | _ => True

theorem Paired.step (h : Paired db) (hr : PaysWhileActive db r) (he : Effect ctx db r db') :
    Paired db' := by
  have hintents := he.intentsPosted h.intents
  have hrec := he.recorded
  cases he with
  | aside ha => exact h.congr (by rw [ha.akawo]) (by rw [ha.akawo]) hintents hrec
  | created _ _ _ after => exact h.congr (by rw [after]) (by rw [after]) hintents hrec
  | edited _ _ _ after => exact h.congr (by rw [after]) (by rw [after]) hintents hrec
  | opened _ ha => exact h.congr (by rw [ha.after]) (by rw [ha.after]) hintents hrec
  | closed _ _ _ ha => exact h.congr (by rw [ha.after]) (by rw [ha.after]) hintents hrec
  | cancelled _ _ _ ha => exact h.congr (by rw [ha.after]) (by rw [ha.after]) hintents hrec
  | joined _ _ _ _ _ _ ha => exact h.join ha hintents hrec
  | removed _ _ _ _ _ ha => exact h.remove ha hintents hrec
  | waived d reason ha _ =>
      refine h.rewrite ha hintents hrec rfl rfl (fun _ ↦ ?_) nofun
      exact h.unlinked d ha.mem (by rw [ha.pending]; exact nofun)
  | paid userId key i d t asked mem target ha =>
      subst asked
      refine h.rewrite ha.rewritten hintents hrec rfl rfl (fun hunpaid ↦ absurd rfl hunpaid)
        fun _ ↦ ⟨⟨t, paidTransaction_eq_some.mpr ⟨rfl, ?_⟩, ha.amount⟩, ?_⟩
      · rw [ha.transactions]
        exact List.mem_append_right _ (List.mem_singleton_self _)
      · exact hr i mem rfl d ha.rewritten.mem target

/-! ## The rows and the totals -/

/-- The row of a member in the organiser's view. -/
def rowOf (db : Db) (m : AkawoPoolMember) : OrganiserRow :=
  (m, (db.akawo.dues.findMany fun d ↦ d.memberId = m.id).head?)

/-- The active members of a pool. -/
def activeMembers (db : Db) (poolId : Uuid) : List AkawoPoolMember :=
  db.akawo.members.findMany fun m ↦ m.poolId = poolId && m.status = .active

theorem mem_activeMembers {m : AkawoPoolMember} {poolId : Uuid} :
    m ∈ activeMembers db poolId ↔
      m ∈ db.akawo.members.rows ∧ m.poolId = poolId ∧ m.status = .active := by
  simp [activeMembers]

theorem mem_paidDues {d : AkawoPoolDue} {poolId : Uuid} :
    d ∈ paidDues db poolId ↔
      d ∈ db.akawo.dues.rows ∧ d.poolId = poolId ∧ d.status = .paid := by
  simp [paidDues]

theorem organiserRows_perm (db : Db) (poolId : Uuid) :
    (organiserRows db poolId).Perm ((activeMembers db poolId).map (rowOf db)) :=
  (List.perm_insertionSort _ _).map _

/-- The row of a member has the member's due. -/
theorem Paired.rowOf_eq (h : Paired db) {m : AkawoPoolMember} {d : AkawoPoolDue}
    (hd : d ∈ db.akawo.dues.rows) (hmember : d.memberId = m.id) : rowOf db m = (m, some d) := by
  have hfound : ∀ e ∈ db.akawo.dues.findMany fun e ↦ e.memberId = m.id, e = d := by
    intro e he
    rw [Table.mem_findMany, decide_eq_true_eq] at he
    exact h.due_eq he.1 hd (he.2.trans hmember.symm)
  have hmem : d ∈ db.akawo.dues.findMany fun e ↦ e.memberId = m.id := by
    rw [Table.mem_findMany, decide_eq_true_eq]
    exact ⟨hd, hmember⟩
  rw [rowOf]
  cases hlist : db.akawo.dues.findMany fun e ↦ e.memberId = m.id with
  | nil =>
      rw [hlist] at hmem
      cases hmem
  | cons e rest =>
      rw [hlist] at hfound
      rw [List.head?_cons, hfound e List.mem_cons_self]

/-- The members whose due is paid are those of the paid dues. -/
theorem Paired.paid_perm (h : Paired db) (poolId : Uuid) :
    (((activeMembers db poolId).filter fun m ↦ rowPaid (rowOf db m)).map (·.id)).Perm
      ((paidDues db poolId).map (·.memberId)) := by
  refine (List.perm_ext_iff_of_nodup ?_ ?_).mpr fun id ↦ ?_
  · refine List.Nodup.map_on (fun m hm n hn hid ↦ ?_)
      ((db.akawo.members.nodup.filter _).filter _)
    rw [List.mem_filter, mem_activeMembers] at hm hn
    exact member_eq_of_id hm.1.1 hn.1.1 hid
  · refine List.Nodup.map_on (fun d hd e he hid ↦ ?_) (db.akawo.dues.nodup.filter _)
    exact h.due_eq (mem_paidDues.mp hd).1 (mem_paidDues.mp he).1 hid
  · rw [List.mem_map, List.mem_map]
    constructor
    · rintro ⟨m, hm, rfl⟩
      rw [List.mem_filter, mem_activeMembers] at hm
      obtain ⟨⟨hmem, hpool, -⟩, hpaid⟩ := hm
      obtain ⟨d, hd, hmember⟩ := h.due m hmem
      rw [h.rowOf_eq hd hmember] at hpaid
      refine ⟨d, mem_paidDues.mpr ⟨hd, ?_, of_decide_eq_true hpaid⟩, hmember⟩
      obtain ⟨n, hn, hnid, hnpool⟩ := h.member d hd
      rw [← hnpool, member_eq_of_id hn hmem (hnid.trans hmember)]
      exact hpool
    · rintro ⟨d, hd, rfl⟩
      obtain ⟨hd, hpool, hpaid⟩ := mem_paidDues.mp hd
      obtain ⟨m, hm, hid, hmpool⟩ := h.member d hd
      refine ⟨m, List.mem_filter.mpr ⟨mem_activeMembers.mpr ⟨hm, hmpool.trans hpool, ?_⟩, ?_⟩, hid⟩
      · exact h.active d hd hpaid m hm hid
      · rw [h.rowOf_eq hd hid.symm]
        exact decide_eq_true hpaid

/-- What the row of a member with some identifier shows as the amount of the due. -/
def amountShown (db : Db) (id : Uuid) : Int :=
  (((db.akawo.dues.findMany fun d ↦ d.memberId = id).head?).map (·.amountMinor)).getD 0

theorem Paired.paid_length (h : Paired db) (poolId : Uuid) :
    ((organiserRows db poolId).filter rowPaid).length = (paidDues db poolId).length := by
  rw [((organiserRows_perm db poolId).filter rowPaid).length_eq, List.filter_map, List.length_map]
  have hlength := (h.paid_perm poolId).length_eq
  rw [List.length_map, List.length_map] at hlength
  exact hlength

theorem Paired.collected_eq (h : Paired db) (poolId : Uuid) :
    ((organiserRows db poolId).map rowCollected).sum =
      ((paidDues db poolId).map (·.amountMinor)).sum := by
  have hdues : ∀ d ∈ paidDues db poolId, amountShown db d.memberId = d.amountMinor := by
    intro d hd
    obtain ⟨hd, -, -⟩ := mem_paidDues.mp hd
    obtain ⟨m, -, hid, -⟩ := h.member d hd
    have hrow := congrArg Prod.snd (h.rowOf_eq hd hid.symm)
    rw [amountShown, ← hid, show (db.akawo.dues.findMany fun d ↦ d.memberId = m.id).head? = some d
      from hrow]
    rfl
  calc ((organiserRows db poolId).map rowCollected).sum
      = (((activeMembers db poolId).map (rowOf db)).map rowCollected).sum :=
        ((organiserRows_perm db poolId).map rowCollected).sum_eq
    _ = sumWhere (activeMembers db poolId) (fun m ↦ rowPaid (rowOf db m))
          fun m ↦ amountShown db m.id := by
        -- A row that is not paid adds nothing.
        rw [List.map_map]
        nth_rewrite 1 [← List.filter_true (activeMembers db poolId)]
        exact sumWhere_congr (p := fun _ ↦ true) fun m _ ↦ rfl
    _ = ((((activeMembers db poolId).filter fun m ↦ rowPaid (rowOf db m)).map (·.id)).map
          (amountShown db)).sum := by
        rw [List.map_map]
        rfl
    _ = (((paidDues db poolId).map (·.memberId)).map (amountShown db)).sum :=
        ((h.paid_perm poolId).map _).sum_eq
    _ = ((paidDues db poolId).map (·.amountMinor)).sum := by
        rw [List.map_map]
        exact congrArg List.sum (List.map_congr_left hdues)

theorem Paired.rowTotals_eq (h : Paired db) (poolId : Uuid) :
    rowTotals (organiserRows db poolId) = totals db poolId := by
  rw [rowTotals, totals, h.paid_length, h.collected_eq, (organiserRows_perm db poolId).length_eq,
    List.length_map]
  rfl

/-- No more members have paid than there are. -/
theorem rowTotals_paid_le (rows : List OrganiserRow) :
    (rowTotals rows).paidCount ≤ (rowTotals rows).memberCount := List.length_filter_le _ _

/-- What was collected is what the books say was paid for the dues of the pool. -/
theorem Paired.collected_ledger (h : Paired db) (poolId : Uuid) :
    (totals db poolId).collectedMinor =
      sumWhere db.akawo.dues.rows (fun d ↦ d.poolId = poolId) (ledgerAmount db) := by
  show sumWhere db.akawo.dues.rows (fun d ↦ d.poolId = poolId && d.status = .paid)
    (·.amountMinor) = _
  refine sumWhere_congr fun d hd ↦ ?_
  by_cases hpaid : d.status = .paid
  · simp [hpaid, (h.booked d hd hpaid).ledgerAmount]
  · simp [hpaid, ledgerAmount, paidTransaction, h.unlinked d hd hpaid]

/-! ## Every run -/

/-- Any request may arrive, the rest of the platform leaves the pools alone, and a payment of a due is
confirmed only while the member of the due is active. -/
def Prompt (p : Pool Db Request) (m : Move Request Ctx) : Prop :=
  Pool.Admitted (fun _ r ↦ r.isNew = true) (fun ctx db r ↦ Admitted ctx db r ∧ PaysWhileActive db r)
    p m

theorem Starts.paired {p : Pool Db Request} (h : Starts p) : Paired p.shared := by
  obtain ⟨-, -, hmembers, hdues, hkeys⟩ := h
  refine ⟨intentsPosted_of_unposted hkeys, ?_, ?_, ?_, ?_, ?_⟩
  · rw [hdues]
    exact List.forall_mem_nil _
  · rw [hmembers]
    exact List.forall_mem_nil _
  all_goals
    rw [hdues]
    exact List.forall_mem_nil _

/-- The organiser of a pool sees the totals over the rows of its members. -/
theorem getOrganiserView_eq {pool : AkawoPool} (hpool : pool ∈ db.akawo.pools.rows) :
    getOrganiserView db pool.organiserUserId pool.id =
      .ok ⟨pool, organiserRows db pool.id,
        reportOf pool.amountMinor (rowTotals (organiserRows db pool.id))⟩ := by
  have hfind : db.akawo.pools.find? (fun p ↦ p.id = pool.id) = some pool :=
    db.akawo.pools.find?_eq_some_of_mem hpool (decide_eq_true rfl) fun x _ hx ↦
      .inl (.inl (of_decide_eq_true hx))
  simp only [getOrganiserView, bind_eq_ok, orThrow_eq_ok, require_eq_ok, pure_eq_ok, exists_const]
  exact ⟨pool, hfind, rfl, rfl⟩

theorem getMemberView_totals {userId poolId : Uuid} {view : MemberView}
    (h : getMemberView db userId poolId = .ok view) : view.totals = totals db poolId := by
  simp only [getMemberView, bind_eq_ok, orThrow_eq_ok, pure_eq_ok] at h
  obtain ⟨m, -, rfl⟩ := h
  rfl

/-- What the two reports of a pool have in common. -/
structure ReportsAgree (db : Db) (pool : AkawoPool) (view : OrganiserView) : Prop where
  listing : view.report = withTotals db pool
  member : ∀ userId v, getMemberView db userId pool.id = .ok v →
    v.totals = view.report.toPoolTotals
  paid_le : view.report.paidCount ≤ view.report.memberCount
  collected : view.report.collectedMinor =
    sumWhere db.akawo.dues.rows (fun d ↦ d.poolId = pool.id) (ledgerAmount db)

/-- **The two reports of a pool agree, when nobody pays after they were removed.**  In every run, with
any interleaving of the requests, in which the payment of a due is confirmed only while its member is
active: the organiser of a pool sees the counts and the sum that the members and the listing see, no
more members have paid than there are, and what was collected is what the ledger says was paid for
the dues of the pool. -/
theorem reports_agree {p₀ p : Pool Db Request} {pool : AkawoPool} (h₀ : Starts p₀)
    (h : Reaches (Pool.advance (exec codec)) Prompt p₀ p) (hpool : pool ∈ p.shared.akawo.pools.rows) :
    ∃ view, getOrganiserView p.shared pool.organiserUserId pool.id = .ok view ∧
      ReportsAgree p.shared pool view := by
  have hp : Paired p.shared := Pool.invariant_of_steps h h₀.paired fun ctx db r hdb hr ↦
    hdb.step hr.2 (exec_effect hdb.intents hr.1)
  refine ⟨_, getOrganiserView_eq hpool, ?_, fun userId v hv ↦ ?_, ?_, ?_⟩
  · rw [withTotals, hp.rowTotals_eq]
  · rw [getMemberView_totals hv, hp.rowTotals_eq]
    rfl
  · exact rowTotals_paid_le _
  · rw [hp.rowTotals_eq]
    exact hp.collected_ledger pool.id

/-! ## A payment before and after a removal -/

section Sample

instance (db : Db) (r : Request) : Decidable (PaysWhileActive db r) := by
  unfold PaysWhileActive
  split
  all_goals infer_instance

/-- The moves in which a due is paid for an active member, apart from those of the rest of the
platform. -/
def prompt (p : Pool Db Request) (m : Move Request Ctx) : Bool :=
  admits p m && match m with
    | .run i _ => decide (∀ r ∈ p.threads[i]?, PaysWhileActive p.shared r)
    | _ => true

theorem prompt_of {p : Pool Db Request} {m : Move Request Ctx} (h : prompt p m = true) :
    Prompt p m := by
  unfold prompt at h
  rw [Bool.and_eq_true] at h
  have hrun := running_of_admits h.1
  rcases m with r | ⟨i, ctx⟩ | i
  · exact hrun
  · exact fun r hr ↦ ⟨hrun r hr, of_decide_eq_true h.2 r hr⟩
  · trivial

/-- The due was paid. -/
def samplePaid : Pool Db Request := sampleAfter (sampleJoined ++ [.spawn sampleConfirm,
  .run 0 (sampleDraw 8)])

/-- The same, after the member was removed. -/
def samplePaidLate : Pool Db Request :=
  sampleAfter (sampleJoined ++
    sampleCall 7 (.removeMember (.ofNat 1) samplePool ((sampleDraw 4).uuid 0)) ++
    [.spawn sampleConfirm, .run 0 (sampleDraw 8)])

theorem reports_agree_sample :
    ∃ pool ∈ samplePaid.shared.akawo.pools.rows, ∃ view,
      getOrganiserView samplePaid.shared pool.organiserUserId pool.id = .ok view ∧
        ReportsAgree samplePaid.shared pool view ∧
        totals samplePaid.shared pool.id = ⟨1, 1, 500⟩ := by
  obtain ⟨pool, hpool⟩ : ∃ pool, samplePaid.shared.akawo.pools.rows.head? = some pool :=
    Option.isSome_iff_exists.mp (by decide +kernel)
  have htotals : ∀ pool ∈ samplePaid.shared.akawo.pools.rows,
      totals samplePaid.shared pool.id = ⟨1, 1, 500⟩ := by decide +kernel
  have hmem := List.mem_of_head? hpool
  obtain ⟨view, hview, hagree⟩ := reports_agree (show Starts samplePlatform by decide +kernel)
    (reaches_sampleAfter (fun _ _ ↦ prompt_of) (by decide +kernel) :
      Reaches (Pool.advance (exec sampleCodec)) Prompt samplePlatform samplePaid) hmem
  exact ⟨pool, hmem, view, hview, hagree, htotals pool hmem⟩

/-- A member who was removed pays, and only one of the two reports shows it. -/
theorem reports_differ_after_removal :
    ¬ ∀ (codec : JoinCodec) (p₀ p : Pool Db Request) (pool : AkawoPool), Starts p₀ →
      Reaches (Pool.advance (exec codec)) Running p₀ p → pool ∈ p.shared.akawo.pools.rows →
        ∃ view, getOrganiserView p.shared pool.organiserUserId pool.id = .ok view ∧
          ReportsAgree p.shared pool view := by
  intro h
  obtain ⟨pool, hpool⟩ : ∃ pool, samplePaidLate.shared.akawo.pools.rows.head? = some pool :=
    Option.isSome_iff_exists.mp (by decide +kernel)
  have hmem := List.mem_of_head? hpool
  obtain ⟨view, hview, hagree⟩ := h sampleCodec samplePlatform samplePaidLate pool (by decide +kernel)
    (reaches_sampleAfter (fun _ _ ↦ running_of_admits) (by decide +kernel)) hmem
  have hnot : ∀ pool ∈ samplePaidLate.shared.akawo.pools.rows,
      (rowTotals (organiserRows samplePaidLate.shared pool.id)).paidCount ≠
        (totals samplePaidLate.shared pool.id).paidCount := by decide +kernel
  rw [getOrganiserView_eq hmem] at hview
  obtain rfl := Except.ok.inj hview
  exact hnot pool hmem (congrArg (fun report : PoolReport ↦ report.paidCount) hagree.listing)

end Sample

end AjoCloud.Akawo
