import Mathlib.Data.List.Basic
import Mathlib.Data.List.Nodup

/-!
# Reading page by page

A list is read in pages: a request names the last row that was seen, and gets the rows that follow it, with
the name of the last of them as long as there are more.  Between two requests rows may have been added in
front.  A reader who follows the names sees each row that was there at the start once, and no other.
-/

universe u v w

namespace AjoCloud.Lib

variable {ρ : Type u} {β : Type v} {κ : Type w} [DecidableEq κ] {id : ρ → κ} {view : ρ → β}
  {limit : Nat} {cursor : Option κ} {rows first : List ρ}

/-- The rows after that of the cursor: all of them without a cursor, and none when its row is not there. -/
def after (id : ρ → κ) (cursor : Option κ) (rows : List ρ) : List ρ :=
  match cursor with
  | none => rows
  | some c => (rows.dropWhile fun r ↦ id r ≠ c).tail

/-- A page, and where the next one begins. -/
structure CursorPage (ρ : Type u) (κ : Type w) where
  items : List ρ
  nextCursor : Option κ
deriving DecidableEq

/-- The page after the cursor.  One row more than the limit is fetched, to see whether there is a next
page. -/
def pageOf (id : ρ → κ) (limit : Nat) (cursor : Option κ) (rows : List ρ) : CursorPage ρ κ :=
  let found := (after id cursor rows).take (limit + 1)
  let items := found.take limit
  ⟨items, if limit < found.length then items.getLast?.map id else none⟩

/-- What a reader gets who follows the cursors, for the rows as they are at each request. -/
def readPages (id : ρ → κ) (limit : Nat) : Option κ → List (List ρ) → List (CursorPage ρ κ)
  | _, [] => []
  | cursor, rows :: later =>
      let page := pageOf id limit cursor rows
      page :: match page.nextCursor with
        | some next => readPages id limit (some next) later
        | none => []

theorem items_pageOf : (pageOf id limit cursor rows).items = (after id cursor rows).take limit := by
  rw [pageOf, List.take_take, Nat.min_eq_left (Nat.le_succ limit)]

theorem nextCursor_pageOf : (pageOf id limit cursor rows).nextCursor =
    if limit < (after id cursor rows).length then ((after id cursor rows).take limit).getLast?.map id
    else none := by
  have hlength : limit < ((after id cursor rows).take (limit + 1)).length ↔
      limit < (after id cursor rows).length := by
    rw [List.length_take]
    omega
  simp only [pageOf, hlength, List.take_take, Nat.min_eq_left (Nat.le_succ limit)]

/-- What follows a row, when no other has its name. -/
theorem after_append_cons {front rest : List ρ} {r : ρ}
    (hnodup : ((front ++ r :: rest).map id).Nodup) : after id (some (id r)) (front ++ r :: rest) = rest := by
  have hfront : ∀ x ∈ front, decide (id x ≠ id r) = true := by
    intro x hx
    rw [List.map_append, List.map_cons, List.nodup_append] at hnodup
    exact decide_eq_true (hnodup.2.2 _ (List.mem_map_of_mem hx) _ List.mem_cons_self)
  rw [after, List.dropWhile_append_of_pos hfront, List.dropWhile_cons_of_neg (by simp), List.tail_cons]

/-- The first rows are still there, as far as they are looked at, and others may stand in front of them. -/
structure Below (id : ρ → κ) (view : ρ → β) (first rows : List ρ) : Prop where
  nodup : (rows.map id).Nodup
  suffix : first.map view <:+ rows.map view

/-- What follows a row of the first ones. -/
theorem Below.map_after (h : Below id view first rows) (hid : ∀ a b, view a = view b → id a = id b)
    {front rest : List ρ} {r : ρ} (hfirst : first = front ++ r :: rest) :
    (after id (some (id r)) rows).map view = rest.map view := by
  obtain ⟨new, hnew⟩ := h.suffix
  have hrows : rows.map view = (new ++ front.map view) ++ view r :: rest.map view := by
    rw [← hnew, hfirst, List.map_append, List.map_cons, List.append_assoc]
  obtain ⟨front', tail', rfl, -, htail⟩ := List.map_eq_append_iff.mp hrows
  obtain ⟨r', rest', rfl, hr, hrest⟩ := List.map_eq_cons_iff.mp htail
  rw [← hid r' r hr, after_append_cons h.nodup, hrest]

/-- A reader who stands before the rest of the first rows sees that. -/
theorem map_readPages_of_stands (hlimit : 0 < limit) (hid : ∀ a b, view a = view b → id a = id b)
    {front rest : List ρ} (hfirst : first = front ++ rest) {snapshots : List (List ρ)}
    (hbelow : ∀ rows ∈ snapshots, Below id view first rows)
    (hstands : ∀ rows, snapshots.head? = some rows →
      (after id cursor rows).map view = rest.map view) :
    ((readPages id limit cursor snapshots).flatMap (·.items)).map view =
        (rest.take (limit * snapshots.length)).map view ∧
      (snapshots ≠ [] → (((readPages id limit cursor snapshots).getLast?.bind (·.nextCursor)) = none ↔
        rest.length ≤ limit * snapshots.length)) := by
  induction snapshots generalizing cursor front rest with
  | nil => simp [readPages]
  | cons rows later ih =>
      rw [List.forall_mem_cons] at hbelow
      have hafter := hstands rows rfl
      have hlength : (after id cursor rows).length = rest.length := by
        simpa using congrArg List.length hafter
      have hitems : ((after id cursor rows).take limit).map view = (rest.take limit).map view := by
        rw [List.map_take, hafter, List.map_take]
      by_cases hmore : limit < rest.length
      · -- There is a next page, which begins after the last row of this one.
        obtain ⟨init, r, hinit⟩ : ∃ init r, rest.take limit = init ++ [r] := by
          rcases (rest.take limit).eq_nil_or_concat with hnil | ⟨init, r, hconcat⟩
          · have hzero := congrArg List.length hnil
            rw [List.length_take, List.length_nil] at hzero
            omega
          · exact ⟨init, r, hconcat.trans (List.concat_eq_append ..)⟩
        have hrest : rest = init ++ r :: rest.drop limit := by
          rw [← List.singleton_append, ← List.append_assoc, ← hinit, List.take_append_drop]
        have hnext : (pageOf id limit cursor rows).nextCursor = some (id r) := by
          rw [hinit, List.map_append, List.map_cons, List.map_nil] at hitems
          obtain ⟨init', last, hsplit, -, hlast⟩ := List.map_eq_append_iff.mp hitems
          obtain ⟨r', hr', hview⟩ := List.map_eq_singleton_iff.mp hlast
          rw [nextCursor_pageOf, if_pos (hlength ▸ hmore), hsplit, hr', List.getLast?_concat,
            Option.map_some, hid r' r hview]
        have hfront : first = (front ++ (init ++ [r])) ++ rest.drop limit := by
          rw [hfirst, ← hinit, List.append_assoc, List.take_append_drop]
        have hlater : ∀ rows, later.head? = some rows →
            (after id (some (id r)) rows).map view = (rest.drop limit).map view := by
          intro rows hrows
          have hsplit : first = (front ++ init) ++ r :: rest.drop limit := by
            rw [hfirst, List.append_assoc, ← hrest]
          exact (hbelow.2 rows (List.mem_of_head? hrows)).map_after hid hsplit
        obtain ⟨hread, hend⟩ := ih hfront hbelow.2 hlater
        have hpages : readPages id limit cursor (rows :: later) =
            pageOf id limit cursor rows :: readPages id limit (some (id r)) later := by
          rw [readPages, hnext]
        constructor
        · rw [hpages, List.flatMap_cons, List.map_append, items_pageOf, hitems, hread, ← List.map_append,
            List.length_cons, Nat.mul_succ, Nat.add_comm, List.take_add]
        · intro _
          rw [hpages]
          cases later with
          | nil =>
              simp only [readPages, List.getLast?_singleton, Option.bind_some, hnext, List.length_cons,
                List.length_nil, Nat.zero_add, Nat.mul_one]
              exact iff_of_false (by simp) (by omega)
          | cons rows' later =>
              obtain ⟨page, pages, hcons⟩ : ∃ page pages,
                  readPages id limit (some (id r)) (rows' :: later) = page :: pages := ⟨_, _, rfl⟩
              rw [hcons, List.getLast?_cons_cons, ← hcons, hend (by simp), List.length_drop,
                List.length_cons (a := rows), Nat.mul_succ]
              omega
      · have hnext : (pageOf id limit cursor rows).nextCursor = none := by
          rw [nextCursor_pageOf, if_neg (hlength ▸ hmore)]
        have hpages : readPages id limit cursor (rows :: later) = [pageOf id limit cursor rows] := by
          rw [readPages, hnext]
        have hle : rest.length ≤ limit * (rows :: later).length := by
          rw [List.length_cons, Nat.mul_succ]
          omega
        rw [hpages, List.flatMap_singleton, items_pageOf, hitems, List.take_of_length_le (by omega),
          List.take_of_length_le hle]
        refine ⟨rfl, fun _ ↦ iff_of_true ?_ hle⟩
        rw [List.getLast?_singleton, Option.bind_some, hnext]

/-- **Every row once.**  Whoever follows the cursors sees the rows that were there at the first request, from
the first on and each once, whatever was added in front of them meanwhile; and there is no next page exactly
when they have seen all of them. -/
theorem map_readPages (hlimit : 0 < limit) (hid : ∀ a b, view a = view b → id a = id b)
    {later : List (List ρ)} (hfirst : (first.map id).Nodup)
    (hbelow : ∀ rows ∈ later, Below id view first rows) :
    ((readPages id limit none (first :: later)).flatMap (·.items)).map view =
        (first.take (limit * (later.length + 1))).map view ∧
      (((readPages id limit none (first :: later)).getLast?.bind (·.nextCursor)) = none ↔
        first.length ≤ limit * (later.length + 1)) := by
  have hstands : ∀ rows, (first :: later).head? = some rows →
      (after id none rows).map view = first.map view := by
    rintro rows ⟨⟩
    rfl
  have hread := map_readPages_of_stands hlimit hid (List.nil_append first).symm
    (List.forall_mem_cons.mpr ⟨⟨hfirst, List.suffix_refl _⟩, hbelow⟩) hstands
  exact ⟨hread.1, hread.2 (List.cons_ne_nil _ _)⟩

end AjoCloud.Lib
