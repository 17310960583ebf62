import AjoCloud.Lib.Cursor
import AjoCloud.Lib.Sorting
import AjoCloud.Notifications.Delivery

/-!
# The inbox

`NotificationFeedService`.  An entry of the inbox stays what it was when it was written, but for the mark
that it was read, and that mark stays too.  Whoever pages through the inbox while notifications arrive sees
every entry that was there when they began, once and in order.
-/

namespace AjoCloud.Notifications

open Lib Devices ServiceError

variable {o : Told} {w w' : World} {t : Task} {t' : Option Task} {p q : Pool World Task} {userId : Uuid}
  {n : Notification}

/-! ## The list -/

/-- What the inbox shows of an entry. -/
structure FeedItem where
  id : Uuid
  template : String
  title : Option String
  body : Option String
  deepLink : Option String
  readAt : Option Timestamp
  createdAt : Timestamp
deriving DecidableEq

/-- `feedSelect`. -/
def FeedItem.of (n : Notification) : FeedItem :=
  ⟨n.id, n.template, n.title, n.body, n.deepLink, n.readAt, n.createdAt⟩

/-- The entries of the user, the newest first. -/
def entries (userId : Uuid) (notifications : Table Notification) : List FeedItem :=
  ((notifications.findMany (isEntry userId)).insertionSort fun a b ↦ b.createdAt ≤ a.createdAt).map
    FeedItem.of

/-- What `list` answers. -/
structure FeedPage where
  items : List FeedItem
  nextCursor : Option Uuid
  unreadCount : Nat
deriving DecidableEq

/-- `list`. -/
def listFeed (userId : Uuid) (cursor : Option Uuid) (limit : Nat) (notifications : Table Notification) :
    FeedPage :=
  let page := pageOf FeedItem.id limit cursor (entries userId notifications)
  ⟨page.items, page.nextCursor, unreadCount userId notifications⟩

/-- What a user gets who follows the cursors, for the tables as they are at each request. -/
def readFeed (userId : Uuid) (limit : Nat) : Option Uuid → List (Table Notification) → List FeedPage
  | _, [] => []
  | cursor, notifications :: later =>
      let page := listFeed userId cursor limit notifications
      page :: match page.nextCursor with
        | some next => readFeed userId limit (some next) later
        | none => []

/-- Following the cursors of the inbox is reading its entries page by page. -/
theorem readFeed_eq (userId : Uuid) (limit : Nat) (cursor : Option Uuid)
    (tables : List (Table Notification)) :
    (readFeed userId limit cursor tables).map (fun page ↦ (page.items, page.nextCursor)) =
      (readPages FeedItem.id limit cursor (tables.map (entries userId))).map
        fun page ↦ (page.items, page.nextCursor) := by
  induction tables generalizing cursor with
  | nil => rfl
  | cons notifications later ih =>
      simp only [readFeed, listFeed, List.map_cons, readPages, List.cons.injEq, true_and]
      cases (pageOf FeedItem.id limit cursor (entries userId notifications)).nextCursor with
      | none => rfl
      | some next => exact ih (some next)

/-! ## An entry stays -/

/-- The entry is there as it was, but for the mark that it was read; a mark stays, and stays what it was
when it is `settled`. -/
structure Stays (n : Notification) (settled : Prop) (n' : Notification) : Prop where
  rest : n' = { n with readAt := n'.readAt }
  marked : n.readAt.isSome → n'.readAt.isSome
  mark : settled → n.readAt.isSome → n'.readAt = n.readAt

theorem Stays.id {settled : Prop} {n' : Notification} (h : Stays n settled n') : n'.id = n.id :=
  congrArg (·.id) h.rest

theorem Stays.channel {settled : Prop} {n' : Notification} (h : Stays n settled n') :
    n'.channel = n.channel := congrArg (·.channel) h.rest

/-- The row of a message that is being sent is none of the inbox. -/
theorem ne_of_hasRow {input : NotificationInput} {id : Uuid} (h : HasRow w input id)
    (hn : n ∈ w.mail.notifications.rows) (hchannel : n.channel = .inApp) : n.id ≠ id := by
  rintro rfl
  obtain ⟨x, hx, hid, -, hother⟩ := h
  rw [w.mail.notifications.eq_of_clash hx hn (.inl hid)] at hother
  exact hother hchannel

/-- One step leaves the entry. -/
theorem Stays.of_happens {settled : Prop} {n' : Notification} (hs : Stays n settled n')
    (hn : n' ∈ w.mail.notifications.rows) (h : Happens o w t w' t') (hk : Knows w t)
    (hchannel : n.channel = .inApp) (ht : settled → n.readAt.isSome → t ≠ .writeRead n.id) :
    ∃ n'' ∈ w'.mail.notifications.rows, Stays n settled n'' := by
  have hinbox : n'.channel = .inApp := hs.channel.trans hchannel
  cases h with
  | elsewhere t same handles next => exact ⟨n', same.notifications ▸ hn, hs⟩
  | created input stored => exact ⟨n', Table.rows_of_insert stored ▸ List.mem_append_left _ hn, hs⟩
  | entered input rendered stored =>
      exact ⟨n', Table.rows_of_insert stored ▸ List.mem_append_left _ hn, hs⟩
  | sent input id result written =>
      have hmem := List.mem_map_of_mem (f := fun n ↦ if n.id = id then markSent o.ctx.now n else n) hn
      rw [if_neg (ne_of_hasRow hk.1 hn hinbox)] at hmem
      exact ⟨n', (conclude_eq_ok written).1 ▸ hmem, hs⟩
  | failed input id written =>
      have hmem := List.mem_map_of_mem (f := fun n ↦ if n.id = id then markFailed n else n) hn
      rw [if_neg (ne_of_hasRow hk hn hinbox)] at hmem
      exact ⟨n', (conclude_eq_ok written).1 ▸ hmem, hs⟩
  | read t p which =>
      refine ⟨_, List.mem_map_of_mem hn, ?_⟩
      split
      · next hp =>
          have hrest : markRead o.ctx.now n' = { n with readAt := some o.ctx.now } := by
            rw [markRead, hs.rest]
          refine ⟨hrest, fun _ ↦ rfl, fun hsettled hread ↦ ?_⟩
          rcases which with ⟨id, rfl, rfl⟩ | ⟨userId, rfl, rfl⟩
          · have hid : n'.id = id := by simpa using hp
            exact absurd (by rw [← hid, hs.id]) (ht hsettled hread)
          · have hmarked := hs.marked hread
            simp only [Bool.and_eq_true, Option.isNone_iff_eq_none] at hp
            rw [hp.2] at hmarked
            cases hmarked
      · exact hs
  | _ => exact ⟨n', hn, hs⟩

/-- No step is left that would write a mark which is there. -/
theorem Stays.next {settled : Prop} {n' : Notification} (hs : Stays n settled n')
    (hn : n' ∈ w.mail.notifications.rows) (h : Happens o w t w' t') {u : Task} (hu : t' = some u)
    (hread : n.readAt.isSome) : u ≠ .writeRead n.id := by
  rintro rfl
  cases h with
  | elsewhere t same handles next =>
      have hidle := next _ hu
      cases hidle
  | found userId mem unread =>
      have hid := Task.writeRead.inj (Option.some.inj hu)
      have hmarked := hs.marked hread
      rw [← w.mail.notifications.eq_of_clash mem hn (.inl (hid.trans hs.id.symm)), unread] at hmarked
      cases hmarked
  | _ => cases hu

/-- **An entry of the inbox stays.**  In every run an entry keeps what it says, nobody can make it unread,
and the time at which it was read stays what it was, unless another call had already found it unread and is
about to write the mark. -/
theorem entry_stays (h₀ : Runs ⟨.empty, []⟩ p) (h : Runs p q) (hn : n ∈ p.shared.mail.notifications.rows)
    (hchannel : n.channel = .inApp) :
    ∃ n' ∈ q.shared.mail.notifications.rows, n' = { n with readAt := n'.readAt } ∧
      (n.readAt.isSome → n'.readAt.isSome) ∧
      ((∀ t ∈ p.threads, t ≠ .writeRead n.id) → n.readAt.isSome → n'.readAt = n.readAt) := by
  have hheld := accounted h₀
  have hholds := Pool.invariant_of_guarantees
    (S := fun w ↦ Accounted w ∧
      ∃ n' ∈ w.mail.notifications.rows, Stays n (∀ t ∈ p.threads, t ≠ .writeRead n.id) n')
    (T := fun w t ↦ Knows w t ∧
      ((∀ t ∈ p.threads, t ≠ .writeRead n.id) → n.readAt.isSome → t ≠ .writeRead n.id)) h ?_ ?_ ?_
  · obtain ⟨-, n', hn', hs⟩ := hholds.shared
    exact ⟨n', hn', hs.rest, hs.marked, hs.mark⟩
  · exact ⟨⟨hheld.shared, n, hn, rfl, id, fun _ _ ↦ rfl⟩,
      fun t ht ↦ ⟨hheld.threads t ht, fun hsettled _ ↦ hsettled t ht⟩⟩
  · intro w t _ harrives
    cases t with
    | send input id => cases harrives
    | recordSent input id result => cases harrives
    | recordFailed input id => cases harrives
    | writeRead id => cases harrives
    | _ => exact ⟨trivial, fun _ _ heq ↦ by cases heq⟩
  · rintro o w t ⟨haccounted, n', hn', hs⟩ ⟨hknows, hunmarked⟩ _
    have hstep := exec_happens o w t
    refine ⟨⟨accounted_of_happens hstep haccounted hknows,
      hs.of_happens hn' hstep hknows hchannel hunmarked⟩, fun u hu ↦ ?_, fun u hu ↦ ?_⟩
    · exact ⟨knows_of_happens hstep hknows u hu, fun _ hread ↦ hs.next hn' hstep hu hread⟩
    · exact ⟨hu.1.onward (onward_of_happens hstep), hu.2⟩

/-! ## Paging through the inbox -/

/-- A run in which the clock moves on between two rows. -/
abbrev RunsOnTime : Pool World Task → Pool World Task → Prop :=
  Reaches (Pool.advance exec) (Pool.Admitted (fun _ t ↦ t.arrives = true)
    fun o w _ ↦ ∀ n ∈ w.mail.notifications.rows, n.createdAt < o.ctx.now)

theorem runs_of_onTime (h : RunsOnTime p q) : Runs p q := by
  refine h.mono fun p m hm ↦ ?_
  cases m with
  | spawn t => exact hm
  | run i o => exact fun _ _ ↦ trivial
  | stop i => trivial

/-- The rows are stored in the order of their times. -/
def InOrder (rows : List Notification) : Prop := rows.Pairwise fun a b ↦ a.createdAt < b.createdAt

theorem inOrder_map_frozen {rows : List Notification} : InOrder (rows.map frozen) ↔ InOrder rows :=
  List.pairwise_map

/-- Rows are only added, after those that are there. -/
theorem rows_of_runsOnTime (h : RunsOnTime p q) (h₀ : InOrder p.shared.mail.notifications.rows) :
    InOrder q.shared.mail.notifications.rows ∧
      p.shared.mail.notifications.rows.map frozen <+: q.shared.mail.notifications.rows.map frozen := by
  refine Pool.invariant_of_steps (S := fun w ↦ InOrder w.mail.notifications.rows ∧
    p.shared.mail.notifications.rows.map frozen <+: w.mail.notifications.rows.map frozen) h
    ⟨h₀, List.prefix_refl _⟩ ?_
  rintro o w t ⟨horder, hbefore⟩ hlater
  rw [← inOrder_map_frozen] at horder ⊢
  rcases (exec_happens o w t).grown with hrows | ⟨n, hnow, hrows⟩
  · rw [hrows]
    exact ⟨horder, hbefore⟩
  · rw [hrows]
    refine ⟨List.pairwise_append.mpr ⟨horder, List.pairwise_singleton _ _, fun x hx y hy ↦ ?_⟩,
      hbefore.trans (List.prefix_append _ _)⟩
    obtain ⟨old, hold, rfl⟩ := List.mem_map.mp hx
    rw [List.mem_singleton.mp hy]
    show old.createdAt < n.createdAt
    rw [hnow]
    exact hlater old hold

/-- The item without the mark that it was read. -/
def FeedItem.unmarked (item : FeedItem) : FeedItem := { item with readAt := none }

/-- The newest first is the order in which they were stored, from behind. -/
theorem map_unmarked_entries {notifications : Table Notification} (h : InOrder notifications.rows) :
    (entries userId notifications).map FeedItem.unmarked =
      (((notifications.rows.map frozen).filter (isEntry userId)).map FeedItem.of).reverse := by
  have horder : InOrder (notifications.findMany (isEntry userId)) := h.sublist List.filter_sublist
  have hdistinct : ((notifications.findMany (isEntry userId)).map
      fun n ↦ OrderDual.toDual n.createdAt).Nodup :=
    List.pairwise_map.mpr (horder.imp fun hlt ↦ ne_of_lt hlt)
  have hsort : (notifications.findMany (isEntry userId)).insertionSort
      (fun a b ↦ b.createdAt ≤ a.createdAt) = (notifications.findMany (isEntry userId)).reverse := by
    have hperm := sortedBy_eq_of_perm hdistinct (List.reverse_perm _).symm
    have hsorted : (notifications.findMany (isEntry userId)).reverse.Pairwise
        fun a b ↦ b.createdAt ≤ a.createdAt :=
      List.pairwise_reverse.mpr (horder.imp fun hlt ↦ le_of_lt hlt)
    exact hperm.trans hsorted.insertionSort_eq
  rw [entries, hsort, List.map_reverse, List.map_reverse, List.map_map, List.filter_map, List.map_map]
  rfl

/-- What was in the inbox is still there, below what has arrived. -/
theorem below_of_runsOnTime (h₀ : InOrder p.shared.mail.notifications.rows) (h : RunsOnTime p q) :
    Below FeedItem.id FeedItem.unmarked (entries userId p.shared.mail.notifications)
      (entries userId q.shared.mail.notifications) := by
  obtain ⟨horder, new, hnew⟩ := rows_of_runsOnTime h h₀
  constructor
  · have hperm : (((q.shared.mail.notifications.findMany (isEntry userId)).insertionSort
        fun a b ↦ b.createdAt ≤ a.createdAt).map (·.id)).Perm
          ((q.shared.mail.notifications.findMany (isEntry userId)).map (·.id)) :=
      (List.perm_insertionSort _ _).map _
    rw [entries, List.map_map]
    refine hperm.nodup_iff.mpr ?_
    exact (q.shared.mail.notifications.nodup_map fun a b hid ↦ .inl hid).sublist
      (List.filter_sublist.map _)
  · rw [map_unmarked_entries h₀, map_unmarked_entries horder, ← hnew, List.filter_append,
      List.map_append, List.reverse_append]
    exact List.suffix_append _ _

/-- **The inbox can be read to its end.**  As long as the clock moves on between two rows, whoever follows
the cursors from the top, while notifications arrive and entries are marked, sees every entry that was there
at the first request once, the newest first, and none that came later; and there is no next page exactly when
all of them were seen. -/
theorem feed_read_once (h₀ : RunsOnTime ⟨.empty, []⟩ p) {later : List (Pool World Task)}
    (hlater : ∀ q ∈ later, RunsOnTime p q) {limit : Nat} (hlimit : 0 < limit) :
    ((readFeed userId limit none ((p :: later).map (·.shared.mail.notifications))).flatMap
        (·.items)).map FeedItem.unmarked =
        ((entries userId p.shared.mail.notifications).take (limit * (later.length + 1))).map
          FeedItem.unmarked ∧
      (((readFeed userId limit none ((p :: later).map (·.shared.mail.notifications))).getLast?.bind
          (·.nextCursor)) = none ↔
        (entries userId p.shared.mail.notifications).length ≤ limit * (later.length + 1)) := by
  have hrows := rows_of_runsOnTime h₀ .nil
  have hid : ∀ a b : FeedItem, a.unmarked = b.unmarked → a.id = b.id := fun a b hview ↦
    congrArg (·.id) hview
  have hbelow : ∀ rows ∈ later.map fun q ↦ entries userId q.shared.mail.notifications,
      Below FeedItem.id FeedItem.unmarked (entries userId p.shared.mail.notifications) rows := by
    intro rows hmem
    obtain ⟨q, hq, rfl⟩ := List.mem_map.mp hmem
    exact below_of_runsOnTime hrows.1 (hlater q hq)
  have hread := map_readPages hlimit hid (below_of_runsOnTime hrows.1 (.refl p)).nodup hbelow
  have hpages := readFeed_eq userId limit none ((p :: later).map (·.shared.mail.notifications))
  rw [List.map_map, List.map_cons] at hpages
  have hitems := congrArg (List.flatMap Prod.fst) hpages
  have hlast := congrArg (fun pages ↦ pages.getLast?.bind Prod.snd) hpages
  simp only [List.flatMap_map, List.getLast?_map, Option.bind_map] at hitems hlast
  rw [List.length_map] at hread
  exact ⟨hitems ▸ hread.1, hlast ▸ hread.2⟩

/-! ### An inbox -/

section Sample

/-- What a step learns at a time. -/
def toldAt (n : Nat) : Told :=
  ⟨⟨n, fun i ↦ .ofNat (n + i)⟩, sampleClock, none, none, fun _ ↦ .failed, false⟩

/-- Money has arrived. -/
def sampleNotice (dedupeKey : String) : NotifyInput :=
  ⟨.ofNat 1, "wallet-funded", [("amount", "NGN 500.00")], [], dedupeKey⟩

/-- A notice is written into the inbox. -/
def sampleArrival (dedupeKey : String) (n : Nat) : List (Move Task Told) :=
  [.spawn (.notify (sampleNotice dedupeKey)), .run 0 (toldAt n), .run 0 (toldAt (n + 1)), .stop 0]

/-- The user opens the first notice. -/
def sampleReading (n : Nat) : List (Move Task Told) :=
  [.spawn (.markRead (.ofNat 1) (.ofNat 2)), .run 0 (toldAt n), .run 0 (toldAt (n + 1))]

/-- Two notices, the first of which is read. -/
def sampleBefore : Pool World Task :=
  (sampleArrival "deposit:1" 1 ++ sampleArrival "deposit:2" 3 ++ sampleReading 5).foldl
    (Pool.advance exec) ⟨.empty, []⟩

/-- A third one, and the first is read again. -/
def sampleLater : Pool World Task :=
  (sampleArrival "deposit:3" 7 ++ sampleReading 9).foldl (Pool.advance exec) sampleBefore

theorem runsOnTime_sampleBefore : RunsOnTime ⟨.empty, []⟩ sampleBefore :=
  reaches_of_allAdmitted (by decide)

theorem runsOnTime_sampleLater : RunsOnTime sampleBefore sampleLater :=
  reaches_of_allAdmitted (by decide)

theorem entry_stays_sample :
    ∃ n ∈ sampleBefore.shared.mail.notifications.rows, n.readAt = some 6 ∧
      n ∈ sampleLater.shared.mail.notifications.rows := by
  have hstored : ∃ n ∈ sampleBefore.shared.mail.notifications.rows, n.readAt = some 6 ∧
      n.channel = .inApp := by decide
  obtain ⟨n, hn, hread, hchannel⟩ := hstored
  have hidle : sampleBefore.threads = [] := rfl
  obtain ⟨n', hn', hrest, -, hmark⟩ :=
    entry_stays (runs_of_onTime runsOnTime_sampleBefore)
      (runs_of_onTime runsOnTime_sampleLater) hn hchannel
  have hkept := hmark (fun t ht ↦ absurd ht (by simp [hidle])) (by rw [hread]; rfl)
  have hsame : n' = n := by rw [hrest, hkept]
  exact ⟨n, hn, hread, hsame ▸ hn'⟩

theorem feed_read_once_sample :
    ((readFeed (.ofNat 1) 1 none [sampleBefore.shared.mail.notifications,
        sampleLater.shared.mail.notifications]).flatMap (·.items)).map FeedItem.unmarked =
      (entries (.ofNat 1) sampleBefore.shared.mail.notifications).map FeedItem.unmarked ∧
    (entries (.ofNat 1) sampleBefore.shared.mail.notifications).map (·.id) = [.ofNat 4, .ofNat 2] := by
  have hlater : ∀ q ∈ [sampleLater], RunsOnTime sampleBefore q := by
    simpa using runsOnTime_sampleLater
  have hread := (@feed_read_once _ (.ofNat 1) runsOnTime_sampleBefore _ hlater 1 Nat.one_pos).1
  have hids : (entries (.ofNat 1) sampleBefore.shared.mail.notifications).map (·.id) =
      [.ofNat 4, .ofNat 2] := by decide
  refine ⟨?_, hids⟩
  have hlength : (entries (.ofNat 1) sampleBefore.shared.mail.notifications).length ≤
      1 * ([sampleLater].length + 1) := by
    rw [← List.length_map (f := FeedItem.id), hids]
    decide
  rw [List.take_of_length_le hlength] at hread
  exact hread

end Sample

end AjoCloud.Notifications
