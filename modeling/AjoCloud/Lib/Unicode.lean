import Mathlib.Data.List.Basic

/-!
# Canonical decomposition

Normalisation form D over a character database: every character is decomposed, and the characters that are
not starters are brought into the order of their combining classes, each among its neighbours.
-/

namespace AjoCloud.Lib

/-! ## Canonical order -/

section Order

variable {α β : Type*} {rank : α → Nat}

/-- Moves the character behind those of lower class that follow it, up to the next starter. -/
def insertOrdered (rank : α → Nat) (c : α) : List α → List α
  | [] => [c]
  | d :: ds =>
      if rank c = 0 ∨ rank d = 0 ∨ rank c ≤ rank d then c :: d :: ds else d :: insertOrdered rank c ds

/-- The canonical ordering algorithm. -/
def canonicalOrder (rank : α → Nat) (text : List α) : List α := text.foldr (insertOrdered rank) []

/-- The order is lost on a translation that does not tell the characters that are not starters apart. -/
theorem flatMap_insertOrdered {k : α → List β}
    (h : ∀ c d, rank c ≠ 0 → rank d ≠ 0 → k c ++ k d = k d ++ k c) (c : α) (ds : List α) :
    (insertOrdered rank c ds).flatMap k = k c ++ ds.flatMap k := by
  induction ds with
  | nil => rfl
  | cons d ds ih =>
      rw [insertOrdered]
      split
      · rfl
      · next hmoves =>
          rw [not_or, not_or] at hmoves
          calc (d :: insertOrdered rank c ds).flatMap k
              = k d ++ (k c ++ ds.flatMap k) := by rw [List.flatMap_cons, ih]
            _ = k c ++ (k d ++ ds.flatMap k) := by
                rw [← List.append_assoc, ← h c d hmoves.1 hmoves.2.1, List.append_assoc]
            _ = k c ++ (d :: ds).flatMap k := by rw [List.flatMap_cons]

theorem flatMap_canonicalOrder {k : α → List β}
    (h : ∀ c d, rank c ≠ 0 → rank d ≠ 0 → k c ++ k d = k d ++ k c) (text : List α) :
    (canonicalOrder rank text).flatMap k = text.flatMap k := by
  induction text with
  | nil => rfl
  | cons c text ih =>
      rw [canonicalOrder, List.foldr_cons, ← canonicalOrder, flatMap_insertOrdered h, ih, List.flatMap_cons]

end Order

/-! ## Decomposition -/

/-- The combining diacritical marks, `\u0300` to `\u036f`. -/
def isMark (c : Char) : Bool := 0x300 ≤ c.toNat && c.toNat ≤ 0x36F

/-- A character database: the full canonical decompositions and the combining classes. -/
structure CharacterDatabase where
  decompose : Char → List Char
  combiningClass : Char → Nat
  decompose_ascii : ∀ c, c.toNat < 128 → decompose c = [c]
  combiningClass_ascii : ∀ c, c.toNat < 128 → combiningClass c = 0
  decompose_mark : ∀ c, isMark c = true → ∀ d ∈ decompose c, isMark d = true
  decompose_decomposed : ∀ c, ∀ d ∈ decompose c, decompose d = [d]

namespace CharacterDatabase

variable (D : CharacterDatabase)

/-- Normalisation form D. -/
def nfd (text : List Char) : List Char := canonicalOrder D.combiningClass (text.flatMap D.decompose)

/-- The form of a text, for a translation that does not tell combining characters apart. -/
theorem flatMap_nfd {β : Type*} {k : Char → List β}
    (h : ∀ c d, 128 ≤ c.toNat → 128 ≤ d.toNat → k c ++ k d = k d ++ k c) (text : List Char) :
    (D.nfd text).flatMap k = text.flatMap fun c ↦ (D.decompose c).flatMap k := by
  have hcombining : ∀ c, D.combiningClass c ≠ 0 → 128 ≤ c.toNat := fun c hc ↦
    Nat.le_of_not_lt fun hlt ↦ hc (D.combiningClass_ascii c hlt)
  rw [nfd, flatMap_canonicalOrder fun c d hc hd ↦ h c d (hcombining c hc) (hcombining d hd),
    List.flatMap_assoc]

end CharacterDatabase

end AjoCloud.Lib
