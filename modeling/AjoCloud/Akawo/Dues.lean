import AjoCloud.Akawo.Steps

/-!
# When dues are paid

The payment of a due looks at the due and at nothing else, and a join goes by the pool as it was read
before its transaction.  Dues are paid into open pools, by members who have not been removed, as long
as an organiser closes or cancels a pool only when nothing is pending in it, and removes a member only
when they owe nothing.
-/

namespace AjoCloud.Akawo

open Lib Ledger Payments

variable {codec : JoinCodec} {ctx : Ctx} {db db' : Db} {r : Request}

/-! ## What a step leaves of pools, members and dues -/

theorem pool_eq_of_id {p q : AkawoPool} (hp : p ∈ db.akawo.pools.rows)
    (hq : q ∈ db.akawo.pools.rows) (h : p.id = q.id) : p = q :=
  db.akawo.pools.eq_of_clash hp hq (.inl (.inl h))

theorem member_eq_of_id {m n : AkawoPoolMember} (hm : m ∈ db.akawo.members.rows)
    (hn : n ∈ db.akawo.members.rows) (h : m.id = n.id) : m = n :=
  db.akawo.members.eq_of_clash hm hn (.inl (.inl h))

theorem due_eq_of_id {d e : AkawoPoolDue} (hd : d ∈ db.akawo.dues.rows)
    (he : e ∈ db.akawo.dues.rows) (h : d.id = e.id) : d = e :=
  db.akawo.dues.eq_of_clash hd he (.inl (.inl h))

/-- The dues after one of them was rewritten. -/
theorem Rewritten.due_cases {d e : AkawoPoolDue} {write : AkawoPoolDue → AkawoPoolDue}
    (h : Rewritten db db' d write) (he : e ∈ db'.akawo.dues.rows) :
    (e ∈ db.akawo.dues.rows ∧ e.id ≠ d.id) ∨ e = write d := by
  rw [h.dues] at he
  refine (mem_rewrite (fun y hy hid ↦ ?_) he).imp_left fun h ↦ ⟨h.1, of_decide_eq_false h.2⟩
  exact due_eq_of_id hy h.mem (of_decide_eq_true hid)

/-- The pools after one of them was moved. -/
theorem Moved.pool_cases {pool q : AkawoPool} {status : AkawoPoolStatus}
    (h : Moved ctx db db' pool status) (hq : q ∈ db'.akawo.pools.rows) :
    (q ∈ db.akawo.pools.rows ∧ q.id ≠ pool.id) ∨ q = movePool ctx.now status pool := by
  rw [h.pools] at hq
  refine (mem_rewrite (fun y hy hid ↦ ?_) hq).imp_left fun h ↦ ⟨h.1, of_decide_eq_false h.2⟩
  exact pool_eq_of_id hy h.mem (of_decide_eq_true hid)

/-- A pool that is not the one that was moved stays as it is. -/
theorem Moved.stays {pool q : AkawoPool} {status : AkawoPoolStatus}
    (h : Moved ctx db db' pool status) (hq : q ∈ db.akawo.pools.rows) (hne : q.id ≠ pool.id) :
    q ∈ db'.akawo.pools.rows := by
  rw [h.pools]
  refine List.mem_map.mpr ⟨q, hq, if_neg ?_⟩
  simpa using hne

/-- An open pool stays open, unless it is closed or cancelled. -/
theorem Effect.pool_open (h : Effect ctx db r db') {q : AkawoPool} (hq : q ∈ db.akawo.pools.rows)
    (hopen : q.status = .open) :
    (∃ q' ∈ db'.akawo.pools.rows, q'.id = q.id ∧ q'.status = .open) ∨
      ∃ organiserUserId, r = .close organiserUserId q.id ∨ r = .cancel organiserUserId q.id := by
  have hsame : db'.akawo.pools = db.akawo.pools →
      ∃ q' ∈ db'.akawo.pools.rows, q'.id = q.id ∧ q'.status = .open :=
    fun hpools ↦ ⟨q, hpools ▸ hq, rfl, hopen⟩
  cases h with
  | aside h => exact .inl (hsame (by rw [h.akawo]))
  | created pool _ insert _ =>
      refine .inl ⟨q, ?_, rfl, hopen⟩
      rw [insertRow_eq_ok insert]
      exact List.mem_append_left _ hq
  | edited poolId dto pools _ =>
      refine .inl ⟨_, pools ▸ List.mem_map_of_mem hq, ?_⟩
      split
      · exact ⟨rfl, hopen⟩
      · exact ⟨rfl, hopen⟩
  | opened pool h =>
      refine .inl ⟨_, h.pools ▸ List.mem_map_of_mem hq, ?_⟩
      split
      · exact ⟨rfl, rfl⟩
      · exact ⟨rfl, hopen⟩
  | closed organiserUserId pool asked h =>
      by_cases hid : q.id = pool.id
      · exact .inr ⟨organiserUserId, .inl (hid ▸ asked)⟩
      · exact .inl ⟨q, h.stays hq hid, rfl, hopen⟩
  | cancelled organiserUserId pool asked h =>
      by_cases hid : q.id = pool.id
      · exact .inr ⟨organiserUserId, .inr (hid ▸ asked)⟩
      · exact .inl ⟨q, h.stays hq hid, rfl, hopen⟩
  | joined _ _ _ _ _ _ h => exact .inl (hsame (by rw [h.after]))
  | removed _ _ _ _ _ h => exact .inl (hsame (by rw [h.after]))
  | waived _ _ h _ => exact .inl (hsame h.pools)
  | paid _ _ _ _ _ _ _ _ h => exact .inl (hsame h.rewritten.pools)

/-- A pool that is cancelled was so before, or nothing is paid in it. -/
theorem Effect.pool_cancelled (h : Effect ctx db r db') {q : AkawoPool}
    (hq : q ∈ db'.akawo.pools.rows) (hcancelled : q.status = .cancelled) :
    (∃ p ∈ db.akawo.pools.rows, p.id = q.id ∧ p.status = .cancelled) ∨
      ∀ d ∈ db'.akawo.dues.rows, d.poolId = q.id → d.status ≠ .paid := by
  have hsame : db'.akawo.pools = db.akawo.pools →
      ∃ p ∈ db.akawo.pools.rows, p.id = q.id ∧ p.status = .cancelled :=
    fun hpools ↦ ⟨q, hpools ▸ hq, rfl, hcancelled⟩
  cases h with
  | aside h => exact .inl (hsame (by rw [h.akawo]))
  | created pool draft insert _ =>
      rw [insertRow_eq_ok insert, List.mem_append, List.mem_singleton] at hq
      rcases hq with hq | rfl
      · exact .inl ⟨q, hq, rfl, hcancelled⟩
      · rw [draft] at hcancelled
        cases hcancelled
  | edited poolId dto pools _ =>
      rw [pools] at hq
      obtain ⟨p, hp, rfl⟩ := List.mem_map.mp hq
      refine .inl ⟨p, hp, ?_⟩
      split at hcancelled
      · next hid =>
          rw [if_pos hid]
          exact ⟨rfl, hcancelled⟩
      · next hid =>
          rw [if_neg hid]
          exact ⟨rfl, hcancelled⟩
  | opened pool h =>
      rcases h.pool_cases hq with ⟨hq, -⟩ | rfl
      · exact .inl ⟨q, hq, rfl, hcancelled⟩
      · cases hcancelled
  | closed _ pool _ h =>
      rcases h.pool_cases hq with ⟨hq, -⟩ | rfl
      · exact .inl ⟨q, hq, rfl, hcancelled⟩
      · cases hcancelled
  | cancelled _ pool _ h =>
      rcases h.pool_cases hq with ⟨hq, -⟩ | rfl
      · exact .inl ⟨q, hq, rfl, hcancelled⟩
      · refine .inr fun d hd hpool hpaid ↦ ?_
        have hd' : d ∈ db.akawo.dues.rows := by
          rw [h.after] at hd
          exact hd
        have hmem : d ∈ paidDues db pool.id := by
          rw [paidDues, Table.mem_findMany]
          simp [hd', hpaid, show d.poolId = pool.id from hpool]
        rw [h.unpaid rfl] at hmem
        cases hmem
  | joined _ _ _ _ _ _ h => exact .inl (hsame (by rw [h.after]))
  | removed _ _ _ _ _ h => exact .inl (hsame (by rw [h.after]))
  | waived _ _ h _ => exact .inl (hsame h.pools)
  | paid _ _ _ _ _ _ _ _ h => exact .inl (hsame h.rewritten.pools)

/-- An active member stays so, unless they are removed. -/
theorem Effect.member_active (h : Effect ctx db r db') {m : AkawoPoolMember}
    (hm : m ∈ db.akawo.members.rows) (hactive : m.status = .active) :
    (∃ m' ∈ db'.akawo.members.rows, m'.id = m.id ∧ m'.status = .active) ∨
      ∃ organiserUserId poolId, r = .removeMember organiserUserId poolId m.id := by
  have hsame : db'.akawo.members = db.akawo.members →
      ∃ m' ∈ db'.akawo.members.rows, m'.id = m.id ∧ m'.status = .active :=
    fun hmembers ↦ ⟨m, hmembers ▸ hm, rfl, hactive⟩
  cases h with
  | aside h => exact .inl (hsame (by rw [h.akawo]))
  | created _ _ _ after => exact .inl (hsame (by rw [after]))
  | edited _ _ _ after => exact .inl (hsame (by rw [after]))
  | opened _ h => exact .inl (hsame (by rw [h.after]))
  | closed _ _ _ h => exact .inl (hsame (by rw [h.after]))
  | cancelled _ _ _ h => exact .inl (hsame (by rw [h.after]))
  | joined _ _ _ n d _ h =>
      refine .inl ⟨m, ?_, rfl, hactive⟩
      rw [insertRow_eq_ok h.members]
      exact List.mem_append_left _ hm
  | removed organiserUserId poolId memberId _ asked h =>
      by_cases hid : m.id = memberId
      · exact .inr ⟨organiserUserId, poolId, hid ▸ asked⟩
      · refine .inl ⟨m, ?_, rfl, hactive⟩
        rw [h.members]
        refine List.mem_map.mpr ⟨m, hm, if_neg ?_⟩
        simpa using hid
  | waived _ _ h _ => exact .inl (hsame h.members)
  | paid _ _ _ _ _ _ _ _ h => exact .inl (hsame h.rewritten.members)

/-- Members are added by joining only. -/
theorem Effect.member_cases (h : Effect ctx db r db') {m : AkawoPoolMember}
    (hm : m ∈ db'.akawo.members.rows) :
    (∃ n ∈ db.akawo.members.rows, n.id = m.id) ∨
      ∃ userId dto pool, r = .joining userId dto pool ∧ m.poolId = pool.id := by
  have hsame : db'.akawo.members = db.akawo.members → ∃ n ∈ db.akawo.members.rows, n.id = m.id :=
    fun hmembers ↦ ⟨m, hmembers ▸ hm, rfl⟩
  cases h with
  | aside h => exact .inl (hsame (by rw [h.akawo]))
  | created _ _ _ after => exact .inl (hsame (by rw [after]))
  | edited _ _ _ after => exact .inl (hsame (by rw [after]))
  | opened _ h => exact .inl (hsame (by rw [h.after]))
  | closed _ _ _ h => exact .inl (hsame (by rw [h.after]))
  | cancelled _ _ _ h => exact .inl (hsame (by rw [h.after]))
  | joined userId dto pool n d asked h =>
      rw [insertRow_eq_ok h.members, List.mem_append, List.mem_singleton] at hm
      rcases hm with hm | rfl
      · exact .inl ⟨m, hm, rfl⟩
      · exact .inr ⟨userId, dto, pool, asked, h.member_pool⟩
  | removed _ _ memberId _ _ h =>
      rw [h.members] at hm
      obtain ⟨n, hn, rfl⟩ := List.mem_map.mp hm
      refine .inl ⟨n, hn, ?_⟩
      split
      · rfl
      · rfl
  | waived _ _ h _ => exact .inl (hsame h.members)
  | paid _ _ _ _ _ _ _ _ h => exact .inl (hsame h.rewritten.members)

/-- The dues after a step: kept, new and pending, or a pending one that was waived or paid. -/
theorem Effect.due_cases (h : Effect ctx db r db') {d : AkawoPoolDue}
    (hd : d ∈ db'.akawo.dues.rows) :
    d ∈ db.akawo.dues.rows ∨
      (∃ userId dto pool m, r = .joining userId dto pool ∧ Joined db db' pool m d) ∨
      ∃ e ∈ db.akawo.dues.rows, e.status = .pending ∧ d.status ≠ .pending ∧ d.id = e.id ∧
        d.poolId = e.poolId ∧ d.memberId = e.memberId ∧ db'.akawo.pools = db.akawo.pools := by
  cases h with
  | aside h => exact .inl (h.akawo ▸ hd)
  | created _ _ _ after => exact .inl (by rw [after] at hd; exact hd)
  | edited _ _ _ after => exact .inl (by rw [after] at hd; exact hd)
  | opened _ h => exact .inl (by rw [h.after] at hd; exact hd)
  | closed _ _ _ h => exact .inl (by rw [h.after] at hd; exact hd)
  | cancelled _ _ _ h => exact .inl (by rw [h.after] at hd; exact hd)
  | joined userId dto pool m e asked h =>
      have hmem := hd
      rw [insertRow_eq_ok h.dues, List.mem_append, List.mem_singleton] at hmem
      rcases hmem with hmem | rfl
      · exact .inl hmem
      · exact .inr (.inl ⟨userId, dto, pool, m, asked, h⟩)
  | removed _ _ _ _ _ h => exact .inl (by rw [h.after] at hd; exact hd)
  | waived e reason h _ =>
      rcases h.due_cases hd with ⟨hd, -⟩ | rfl
      · exact .inl hd
      · exact .inr (.inr ⟨e, h.mem, h.pending, nofun, rfl, rfl, rfl, h.pools⟩)
  | paid _ _ _ e t _ _ _ h =>
      rcases h.rewritten.due_cases hd with ⟨hd, -⟩ | rfl
      · exact .inl hd
      · exact .inr (.inr ⟨e, h.rewritten.mem, h.rewritten.pending, nofun, rfl, rfl, rfl,
          h.rewritten.pools⟩)

theorem Effect.intentsPosted (h : Effect ctx db r db') (hposted : IntentsPosted db) :
    IntentsPosted db' := by
  cases h with
  | aside h => exact h.intents hposted
  | created _ _ _ after => exact hposted.congr (by rw [after]) (by rw [after])
  | edited _ _ _ after => exact hposted.congr (by rw [after]) (by rw [after])
  | opened _ h => exact hposted.congr (by rw [h.after]) (by rw [h.after])
  | closed _ _ _ h => exact hposted.congr (by rw [h.after]) (by rw [h.after])
  | cancelled _ _ _ h => exact hposted.congr (by rw [h.after]) (by rw [h.after])
  | joined _ _ _ _ _ _ h => exact hposted.congr (by rw [h.after]) (by rw [h.after])
  | removed _ _ _ _ _ h => exact hposted.congr (by rw [h.after]) (by rw [h.after])
  | waived _ _ _ after => exact hposted.congr (by rw [after]) (by rw [after])
  | paid _ _ _ _ _ _ _ _ h => exact h.intents

/-! ## What is asserted -/

/-- The pool of the due is open, and its member has not been removed. -/
def OpenFor (db : Db) (d : AkawoPoolDue) : Prop :=
  (∃ pool ∈ db.akawo.pools.rows, pool.id = d.poolId ∧ pool.status = .open) ∧
    ∃ m ∈ db.akawo.members.rows, m.id = d.memberId ∧ m.status = .active

/-- No due of a cancelled pool has been paid. -/
def CancelledUnpaid (db : Db) : Prop :=
  ∀ pool ∈ db.akawo.pools.rows, pool.status = .cancelled →
    ∀ d ∈ db.akawo.dues.rows, d.poolId = pool.id → d.status ≠ .paid

/-- Dues become paid in open pools by active members only, people join open pools only, and no due
becomes paid in a closed pool. -/
structure Orderly (db db' : Db) : Prop where
  paid : ∀ d ∈ db'.akawo.dues.rows, d.status = .paid →
    (∃ e ∈ db.akawo.dues.rows, e.id = d.id ∧ e.status = .paid) ∨ OpenFor db d
  joined : ∀ m ∈ db'.akawo.members.rows, (∃ n ∈ db.akawo.members.rows, n.id = m.id) ∨
    ∃ pool ∈ db.akawo.pools.rows, pool.id = m.poolId ∧ pool.status = .open
  closed : ∀ pool ∈ db.akawo.pools.rows, pool.status = .closed →
    ∀ d ∈ db'.akawo.dues.rows, d.poolId = pool.id → d.status = .paid →
      ∃ e ∈ db.akawo.dues.rows, e.id = d.id ∧ e.status = .paid

/-! ## The condition -/

/-- Any request may arrive, and the rest of the platform leaves the pools alone. -/
def Running (p : Pool Db Request) (m : Move Request Ctx) : Prop :=
  Pool.Admitted (fun _ r ↦ r.isNew = true) Admitted p m

/-- The request is a join that has read the pool. -/
def Request.joins (poolId : Uuid) : Request → Bool
  | .joining _ _ pool => pool.id = poolId
  | _ => false

/-- Nothing is pending in the pool: no due of it, and no join that has read it. -/
def NothingPending (p : Pool Db Request) (poolId : Uuid) : Prop :=
  (∀ d ∈ p.shared.akawo.dues.rows, d.poolId = poolId → d.status ≠ .pending) ∧
    ∀ r ∈ p.threads, r.joins poolId = false

/-- The organiser closes or cancels a pool only when nothing is pending in it, and removes a member
only when no due of theirs is pending. -/
def Waits (p : Pool Db Request) : Request → Prop
  | .close _ poolId => NothingPending p poolId
  | .cancel _ poolId => NothingPending p poolId
  | .removeMember _ _ memberId =>
      ∀ d ∈ p.shared.akawo.dues.rows, d.memberId = memberId → d.status ≠ .pending
  | _ => True

/-- The moves in which organisers wait; a request that changes nothing need not. -/
def Patient (codec : JoinCodec) (p : Pool Db Request) (m : Move Request Ctx) : Prop :=
  Running p m ∧ match m with
    | .run i ctx => ∀ r ∈ p.threads[i]?, (exec codec ctx p.shared r).1 = p.shared ∨ Waits p r
    | _ => True

/-! ## The invariant -/

/-- Whatever is pending is pending in an open pool, for a member who has not been removed; and nothing
is paid in a cancelled pool. -/
structure InHand (p : Pool Db Request) : Prop where
  intents : IntentsPosted p.shared
  pending : ∀ d ∈ p.shared.akawo.dues.rows, d.status = .pending → OpenFor p.shared d
  joining : ∀ r ∈ p.threads, ∀ userId dto pool, r = .joining userId dto pool →
    ∃ q ∈ p.shared.akawo.pools.rows, q.id = pool.id ∧ q.status = .open
  cancelled : CancelledUnpaid p.shared

variable {p : Pool Db Request} {i : Nat}

/-- What a step of a request does, when it is admitted. -/
theorem run_effect (codec : JoinCodec) (hposted : IntentsPosted p.shared) (hi : p.threads[i]? = some r)
    (hrun : Running p (.run i ctx)) :
    (p.advance (exec codec) (.run i ctx)).shared = (exec codec ctx p.shared r).1 ∧
      Effect ctx p.shared r (exec codec ctx p.shared r).1 := by
  refine ⟨by rw [Pool.advance, hi], exec_effect hposted (hrun r hi)⟩

theorem InHand.pending_step (h : InHand p) (hr : r ∈ p.threads) (hw : db' = p.shared ∨ Waits p r)
    (he : Effect ctx p.shared r db') :
    ∀ d ∈ db'.akawo.dues.rows, d.status = .pending → OpenFor db' d := by
  rcases hw with rfl | hw
  · exact h.pending
  intro d hd hpending
  rcases he.due_cases hd with hd | ⟨userId, dto, pool, m, rfl, hjoined⟩ |
    ⟨e, -, -, hnot, -⟩
  · obtain ⟨⟨pool, hpool, hpid, hopen⟩, m, hm, hmid, hactive⟩ := h.pending d hd hpending
    constructor
    · rcases he.pool_open hpool hopen with ⟨q, hq, hqid, hqopen⟩ | ⟨organiserUserId, rfl | rfl⟩
      · exact ⟨q, hq, hqid.trans hpid, hqopen⟩
      · exact absurd hpending (hw.1 d hd hpid.symm)
      · exact absurd hpending (hw.1 d hd hpid.symm)
    · rcases he.member_active hm hactive with ⟨n, hn, hnid, hnactive⟩ | ⟨organiserUserId, poolId, rfl⟩
      · exact ⟨n, hn, hnid.trans hmid, hnactive⟩
      · exact absurd hpending (hw d hd hmid.symm)
  · obtain ⟨q, hq, hqid, hopen⟩ := h.joining _ hr userId dto pool rfl
    refine ⟨⟨q, by rw [hjoined.after]; exact hq, hqid.trans hjoined.due_pool.symm, hopen⟩, m, ?_,
      hjoined.due_member.symm, hjoined.active⟩
    rw [insertRow_eq_ok hjoined.members]
    exact List.mem_append_right _ (List.mem_singleton_self _)
  · exact absurd hpending hnot

theorem InHand.cancelled_step (h : InHand p) (he : Effect ctx p.shared r db') :
    CancelledUnpaid db' := by
  intro q hq hcancelled d hd hpool hpaid
  rcases he.pool_cancelled hq hcancelled with ⟨pool, hmem, hid, hbefore⟩ | hunpaid
  · rcases he.due_cases hd with hd | ⟨_, _, _, _, -, hjoined⟩ |
      ⟨e, he', hpending, -, -, hsame, -, hpools⟩
    · exact h.cancelled pool hmem hbefore d hd (hpool.trans hid.symm) hpaid
    · rw [hjoined.pending] at hpaid
      cases hpaid
    · -- A due that becomes paid was pending, and so its pool was open.
      obtain ⟨⟨q', hq', hqid, hopen⟩, -⟩ := h.pending e he' hpending
      rw [pool_eq_of_id hq' hmem (hqid.trans (hsame.symm.trans (hpool.trans hid.symm))),
        hbefore] at hopen
      cases hopen
  · exact hunpaid d hd hpool hpaid

/-- A join goes on with a pool that it found open. -/
theorem joinLookup_eq_ok {dto : JoinAkawoPoolDto} {pool : AkawoPool}
    (h : joinLookup codec db dto = .ok pool) :
    pool ∈ db.akawo.pools.rows ∧ pool.status = .open := by
  simp only [joinLookup, bind_eq_ok, require_eq_ok, pure_eq_ok, exists_const] at h
  obtain ⟨q, hfind, haccepts, rfl⟩ := h
  refine ⟨?_, of_decide_eq_true haccepts⟩
  unfold findByJoinCode at hfind
  split at hfind
  · simp only [bind_eq_ok, orThrow_eq_ok, require_eq_ok, pure_eq_ok, exists_const] at hfind
    obtain ⟨q', hfind, -, rfl⟩ := hfind
    exact Table.mem_of_find? hfind
  · simp only [bind_eq_ok, orThrow_eq_ok, require_eq_ok, exists_const] at hfind
    exact Table.mem_of_find? hfind.2

/-- The only request that goes on as a join is a join, with the pool that it found. -/
theorem joining_of_exec {userId : Uuid} {dto : JoinAkawoPoolDto} {pool : AkawoPool}
    (h : (exec codec ctx db r).2 = some (.joining userId dto pool)) :
    (exec codec ctx db r).1 = db ∧ joinLookup codec db dto = .ok pool := by
  cases r with
  | join userId' dto' =>
      refine ⟨rfl, ?_⟩
      rw [exec, Option.map_eq_some_iff] at h
      obtain ⟨q, hq, heq⟩ := h
      cases heq
      cases hlookup : joinLookup codec db dto with
      | error e =>
          rw [hlookup] at hq
          cases hq
      | ok q' =>
          rw [hlookup] at hq
          cases hq
          rfl
  | update organiserUserId poolId dto' =>
      rw [exec, Option.map_eq_some_iff] at h
      obtain ⟨q, -, heq⟩ := h
      cases heq
  | _ => cases h

theorem InHand.joining_step (h : InHand p) (hi : p.threads[i]? = some r)
    (hw : (exec codec ctx p.shared r).1 = p.shared ∨ Waits p r)
    (he : Effect ctx p.shared r (exec codec ctx p.shared r).1) :
    ∀ r' ∈ (p.advance (exec codec) (.run i ctx)).threads, ∀ userId dto pool,
      r' = .joining userId dto pool →
      ∃ q ∈ (exec codec ctx p.shared r).1.akawo.pools.rows, q.id = pool.id ∧ q.status = .open := by
  rintro r' hr' userId dto pool rfl
  rcases Pool.mem_advance_run hi hr' with hold | hnew
  · obtain ⟨q, hq, hqid, hopen⟩ := h.joining _ hold userId dto pool rfl
    rcases hw with hsame | hw
    · exact ⟨q, by rw [hsame]; exact hq, hqid, hopen⟩
    rcases he.pool_open hq hopen with ⟨q', hq', hid', hopen'⟩ | ⟨organiserUserId, rfl | rfl⟩
    · exact ⟨q', hq', hid'.trans hqid, hopen'⟩
    · exact absurd hqid.symm (of_decide_eq_false (hw.2 _ hold))
    · exact absurd hqid.symm (of_decide_eq_false (hw.2 _ hold))
  · obtain ⟨hsame, hlookup⟩ := joining_of_exec hnew
    obtain ⟨hmem, hopen⟩ := joinLookup_eq_ok hlookup
    exact ⟨pool, by rw [hsame]; exact hmem, rfl, hopen⟩

theorem InHand.advance (h : InHand p) {m : Move Request Ctx} (hm : Patient codec p m) :
    InHand (p.advance (exec codec) m) := by
  obtain ⟨hrun, hwaits⟩ := hm
  rcases m with t | ⟨i, ctx⟩ | i
  · refine ⟨h.intents, h.pending, fun r hr userId dto pool hjoining ↦ ?_, h.cancelled⟩
    rcases List.mem_append.mp hr with hr | hr
    · exact h.joining r hr userId dto pool hjoining
    · have hnew : t.isNew = true := hrun
      rw [← List.mem_singleton.mp hr, hjoining] at hnew
      cases hnew
  · cases hi : p.threads[i]? with
    | none =>
        rw [Pool.advance, hi]
        exact h
    | some r =>
        obtain ⟨hshared, he⟩ := run_effect codec h.intents hi hrun
        have hw : (exec codec ctx p.shared r).1 = p.shared ∨ Waits p r := hwaits r hi
        refine ⟨?_, ?_, ?_, ?_⟩
        · rw [hshared]
          exact he.intentsPosted h.intents
        · rw [hshared]
          exact h.pending_step (List.mem_of_getElem? hi) hw he
        · rw [hshared]
          exact h.joining_step hi hw he
        · rw [hshared]
          exact h.cancelled_step he
  · exact ⟨h.intents, h.pending, fun r hr ↦ h.joining r (List.mem_of_mem_eraseIdx hr), h.cancelled⟩

/-! ## Every run -/

/-- Dues that became paid, in a step, were payable. -/
theorem Orderly.of_paid (hpaid : ∀ d ∈ db'.akawo.dues.rows, d.status = .paid →
      (∃ e ∈ db.akawo.dues.rows, e.id = d.id ∧ e.status = .paid) ∨ OpenFor db d)
    (hjoined : ∀ m ∈ db'.akawo.members.rows, (∃ n ∈ db.akawo.members.rows, n.id = m.id) ∨
      ∃ pool ∈ db.akawo.pools.rows, pool.id = m.poolId ∧ pool.status = .open) :
    Orderly db db' := by
  refine ⟨hpaid, hjoined, fun pool hpool hclosed d hd hid hst ↦ ?_⟩
  rcases hpaid d hd hst with hbefore | ⟨⟨q, hq, hqid, hopen⟩, -⟩
  · exact hbefore
  · rw [pool_eq_of_id hq hpool (hqid.trans hid), hclosed] at hopen
    cases hopen

theorem Orderly.refl (db : Db) : Orderly db db :=
  .of_paid (fun d hd hst ↦ .inl ⟨d, hd, rfl, hst⟩) fun m hm ↦ .inl ⟨m, hm, rfl⟩

theorem InHand.orderly (h : InHand p) (hr : r ∈ p.threads) (he : Effect ctx p.shared r db') :
    Orderly p.shared db' := by
  refine .of_paid (fun d hd hpaid ↦ ?_) fun m hm ↦ ?_
  · rcases he.due_cases hd with hd | ⟨_, _, _, _, -, hjoined⟩ |
      ⟨e, he', hpending, -, -, hpool, hmember, -⟩
    · exact .inl ⟨d, hd, rfl, hpaid⟩
    · rw [hjoined.pending] at hpaid
      cases hpaid
    · right
      rw [OpenFor, hpool, hmember]
      exact h.pending e he' hpending
  · rcases he.member_cases hm with hbefore | ⟨userId, dto, pool, rfl, hid⟩
    · exact .inl hbefore
    · right
      rw [hid]
      exact h.joining _ hr userId dto pool rfl

/-- No request is under way, there are no pools, and nothing was posted for an intent. -/
def Starts (p : Pool Db Request) : Prop :=
  p.threads = [] ∧ p.shared.akawo.pools.rows = [] ∧ p.shared.akawo.members.rows = [] ∧
    p.shared.akawo.dues.rows = [] ∧ ∀ t ∈ p.shared.ledger.transactions.rows,
      ¬ "payment-intent:".toList.isPrefixOf t.idempotencyKey.toList = true

theorem Starts.inHand (h : Starts p) : InHand p := by
  obtain ⟨hthreads, hpools, -, hdues, hkeys⟩ := h
  refine ⟨intentsPosted_of_unposted hkeys, ?_, ?_, ?_⟩
  · rw [hdues]
    exact List.forall_mem_nil _
  · rw [hthreads]
    exact List.forall_mem_nil _
  · rw [CancelledUnpaid, hpools]
    exact List.forall_mem_nil _

/-- **Dues are paid into open pools by current members, when organisers wait.**  In every run, with
any interleaving of the requests, in which a pool is closed or cancelled only when none of its dues
and no join of it is pending, and a member is removed only when no due of theirs is: in every state no
due of a cancelled pool is paid; and in every further such step a due becomes paid only while its pool
is open and its member active, a membership is created only while the pool is open, and no due of a
closed pool becomes paid. -/
theorem dues_paid_in_open_pools {p₀ p : Pool Db Request} (h₀ : Starts p₀)
    (h : Reaches (Pool.advance (exec codec)) (Patient codec) p₀ p) :
    CancelledUnpaid p.shared ∧
      ∀ m, Patient codec p m → Orderly p.shared (p.advance (exec codec) m).shared := by
  have hp : InHand p := h.invariant h₀.inHand fun _ _ hp hm ↦ hp.advance hm
  refine ⟨hp.cancelled, fun m hm ↦ ?_⟩
  rcases m with t | ⟨i, ctx⟩ | i
  · exact .refl _
  · cases hi : p.threads[i]? with
    | none =>
        rw [Pool.advance, hi]
        exact .refl _
    | some r =>
        obtain ⟨hshared, he⟩ := run_effect codec hp.intents hi hm.1
        rw [hshared]
        exact hp.orderly (List.mem_of_getElem? hi) he
  · exact .refl _

/-! ## A small pool -/

section Sample

instance (p : Pool Db Request) (r : Request) : Decidable (Waits p r) := by
  unfold Waits NothingPending
  split
  all_goals infer_instance

instance : DecidablePred Starts := fun p ↦ by
  unfold Starts
  infer_instance

/-- The moves other than those of the rest of the platform, as they are admitted. -/
def admits (p : Pool Db Request) : Move Request Ctx → Bool
  | .spawn r => r.isNew
  | .run i _ => p.threads[i]?.all fun r ↦ match r with
      | .elsewhere _ => false
      | _ => true
  | .stop _ => true

theorem running_of_admits {p : Pool Db Request} {m : Move Request Ctx} (h : admits p m = true) :
    Running p m := by
  rcases m with r | ⟨i, ctx⟩ | i
  · exact h
  · intro r hr
    rw [admits, hr] at h
    cases r with
    | elsewhere db => cases h
    | _ => trivial
  · trivial

/-- The moves in which organisers wait, apart from those of the rest of the platform. -/
def patient (p : Pool Db Request) (m : Move Request Ctx) : Bool :=
  admits p m && match m with
    | .run i _ => decide (∀ r ∈ p.threads[i]?, Waits p r)
    | _ => true

theorem patient_of {p : Pool Db Request} {m : Move Request Ctx} (h : patient p m = true) :
    Patient codec p m := by
  unfold patient at h
  rw [Bool.and_eq_true] at h
  refine ⟨running_of_admits h.1, ?_⟩
  split
  · exact fun r hr ↦ .inr (of_decide_eq_true h.2 r hr)
  · trivial

/-- The digest of the join code of the sample. -/
def sampleCodec : JoinCodec where
  toUpperCase text := String.ofList (text.toList.map Char.toUpper)
  digestInvitationCode code := code
  digest code := if code = "AAAAAAAA" then
    "c34ab6abb7b2bb595bc25c3b388c872fd1d575819a8f55cc689510285e212385" else ""

/-- The users of the sample. -/
def sampleUsers : List User := [⟨.ofNat 1, none, none, .active, none⟩]

/-- A verified organiser, and another user with a thousand in their wallet. -/
def samplePlatform : Pool Db Request where
  shared := { Db.empty with
    users := ⟨sampleUsers, by decide⟩
    kyc := Kyc.verifiedUser
    ledger :=
      { accounts := ⟨[⟨.ofNat 10, "PROVIDER:NGN", "Provider", .liability, some .providerPayable,
            "NGN", none, true, .inl (by decide)⟩,
          ⟨.ofNat 11, "WALLET:8", "Wallet", .liability, some .walletAvailable, "NGN",
            some (.ofNat 21), true, .inl (by decide)⟩,
          ⟨.ofNat 12, "FEES:NGN", "Fees", .revenue, some .platformFeeRevenue, "NGN", none, true,
            .inl (by decide)⟩], by decide⟩
        transactions := ⟨[⟨.ofNat 13, "DEP-1", "payment-settlement:1", "Wallet deposit", "NGN",
          .posted, none, none, none, [⟨.ofNat 10, .debit, 1000, "NGN", 1⟩,
            ⟨.ofNat 11, .credit, 1000, "NGN", 2⟩]⟩], by simp⟩
        foreignKey := by decide }
    wallets := ⟨[⟨.ofNat 21, .ofNat 8, "NGN", .active⟩], by decide⟩ }
  threads := []

/-- The clock of a step, and identifiers that differ from the start. -/
def sampleDraw (n : Nat) : Ctx := ⟨n, fun k ↦ .ofNat ((256 * n + k) * 2 ^ 96)⟩

/-- The pool of the sample. -/
def samplePool : Uuid := (sampleDraw 1).uuid 0

/-- A request that is answered in one step. -/
def sampleCall (n : Nat) (r : Request) : List (Move Request Ctx) :=
  [.spawn r, .run 0 (sampleDraw n)]

/-- The pool is created and opened, and the other user joins it and starts a payment. -/
def sampleJoined : List (Move Request Ctx) :=
  sampleCall 1 (.create [0, 0, 0, 0, 0, 0, 0, 0] "2222222" (.ofNat 1)
      ⟨"Class dues", none, 500, none, none⟩) ++
    sampleCall 2 (.open (.ofNat 1) samplePool) ++
    [.spawn (.join (.ofNat 8) ⟨"aaaa-aaaa", "Ben Eze", "M1"⟩), .run 0 (sampleDraw 3),
      .run 0 (sampleDraw 4)] ++
    sampleCall 5 (.createIntent (.ofNat 8) ⟨some ((sampleDraw 4).uuid 1), none⟩ "intent")

/-- The payment is confirmed. -/
def sampleConfirm : Request := .confirm (.ofNat 8) ((sampleDraw 5).uuid 0) "pay"

/-- The state after some moves. -/
def sampleAfter (moves : List (Move Request Ctx)) : Pool Db Request :=
  moves.foldl (Pool.advance (exec sampleCodec)) samplePlatform

theorem reaches_sampleAfter {ok : Pool Db Request → Move Request Ctx → Prop}
    {allow : Pool Db Request → Move Request Ctx → Bool} {moves : List (Move Request Ctx)}
    (hallow : ∀ p m, allow p m = true → ok p m)
    (h : AllAdmitted (Pool.advance (exec sampleCodec)) (fun p m ↦ allow p m = true) samplePlatform
      moves) : Reaches (Pool.advance (exec sampleCodec)) ok samplePlatform (sampleAfter moves) :=
  (reaches_of_allAdmitted h).mono hallow

/-- The payment is about to be confirmed, in the pool as it was opened. -/
def sampleOpen : Pool Db Request := sampleAfter (sampleJoined ++ [.spawn sampleConfirm])

/-- The same, after the pool was closed. -/
def sampleClosed : Pool Db Request :=
  sampleAfter (sampleJoined ++ sampleCall 7 (.close (.ofNat 1) samplePool) ++ [.spawn sampleConfirm])

theorem dues_paid_in_open_pools_sample :
    (sampleOpen.advance (exec sampleCodec) (.run 0 (sampleDraw 8))).shared.akawo.dues.rows.map
        (·.status) = [.paid] ∧
      CancelledUnpaid sampleOpen.shared ∧ Orderly sampleOpen.shared
        (sampleOpen.advance (exec sampleCodec) (.run 0 (sampleDraw 8))).shared := by
  have h := dues_paid_in_open_pools (show Starts samplePlatform by decide +kernel)
    (reaches_sampleAfter (fun _ _ ↦ patient_of) (by decide +kernel) :
      Reaches (Pool.advance (exec sampleCodec)) (Patient sampleCodec) samplePlatform sampleOpen)
  exact ⟨by decide +kernel, h.1, h.2 _ (patient_of (by decide +kernel))⟩

/-- A due is paid in a pool that is closed. -/
theorem due_paid_in_closed_pool :
    ¬ ∀ (codec : JoinCodec) (p₀ p : Pool Db Request), Starts p₀ →
      Reaches (Pool.advance (exec codec)) Running p₀ p →
        CancelledUnpaid p.shared ∧
          ∀ m, Running p m → Orderly p.shared (p.advance (exec codec) m).shared := by
  intro h
  have horderly := (h sampleCodec samplePlatform sampleClosed (by decide +kernel)
    (reaches_sampleAfter (fun _ _ ↦ running_of_admits) (by decide +kernel))).2
      (.run 0 (sampleDraw 8)) (running_of_admits (by decide +kernel))
  have hnot : ¬ ∀ pool ∈ sampleClosed.shared.akawo.pools.rows, pool.status = .closed →
      ∀ d ∈ (sampleClosed.advance (exec sampleCodec) (.run 0 (sampleDraw 8))).shared.akawo.dues.rows,
        d.poolId = pool.id → d.status = .paid →
          ∃ e ∈ sampleClosed.shared.akawo.dues.rows, e.id = d.id ∧ e.status = .paid := by
    decide +kernel
  exact hnot horderly.closed

end Sample

end AjoCloud.Akawo
