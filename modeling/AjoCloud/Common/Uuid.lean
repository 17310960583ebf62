import Mathlib.Tactic.Common
import Mathlib.Tactic.Ring

/-!
# Identifiers and the texts made from them

Every row is identified by a UUID, and idempotency keys, references and account codes are texts
with the UUID written into them.  A `Uuid` is its 128 bits; `Uuid.toString` is the usual text of
five groups of lower-case hexadecimal digits.

Keys are told apart by their texts, so two facts about the texts are needed: the text of a UUID
determines it, and it has always the same length.
-/

namespace AjoCloud

/-- A universally unique identifier. -/
structure Uuid where
  bits : BitVec 128
deriving DecidableEq

instance : Inhabited Uuid := ⟨⟨0⟩⟩

/-- The `n` low hexadecimal digits of `a`, the most significant first. -/
def hexDigits : Nat → Nat → List Char
  | 0, _ => []
  | n + 1, a => hexDigits n (a / 16) ++ [Nat.digitChar (a % 16)]

@[simp] theorem length_hexDigits (n a : Nat) : (hexDigits n a).length = n := by
  induction n generalizing a with
  | zero => rfl
  | succ n ih => simp [hexDigits, ih]

theorem digitChar_inj {a b : Nat} (ha : a < 16) (hb : b < 16)
    (h : Nat.digitChar a = Nat.digitChar b) : a = b := by
  have : ∀ a < 16, ∀ b < 16, Nat.digitChar a = Nat.digitChar b → a = b := by decide
  exact this a ha b hb h

/-- The digits determine the number they were taken from, as far as they reach. -/
theorem hexDigits_inj {n a b : Nat} (ha : a < 16 ^ n) (hb : b < 16 ^ n)
    (h : hexDigits n a = hexDigits n b) : a = b := by
  induction n generalizing a b with
  | zero =>
      rw [pow_zero] at ha hb
      omega
  | succ n ih =>
      rw [hexDigits, hexDigits] at h
      obtain ⟨hhi, hlo⟩ := List.append_inj h (by simp)
      rw [pow_succ] at ha hb
      have h₁ := ih (by omega) (by omega) hhi
      have h₂ := digitChar_inj (Nat.mod_lt a (by decide)) (Nat.mod_lt b (by decide))
        (by simpa using hlo)
      omega

namespace Uuid

/-- The identifier with the given number, as examples use them. -/
def ofNat (n : Nat) : Uuid := ⟨BitVec.ofNat 128 n⟩

/-- The 32 hexadecimal digits of the identifier. -/
def digits (u : Uuid) : List Char := hexDigits 32 u.bits.toNat

@[simp] theorem length_digits (u : Uuid) : u.digits.length = 32 := length_hexDigits _ _

theorem digits_inj {u v : Uuid} (h : u.digits = v.digits) : u = v := by
  have hlt : ∀ w : Uuid, w.bits.toNat < 16 ^ 32 := fun w ↦ by simpa using w.bits.isLt
  have hbits := BitVec.eq_of_toNat_eq (hexDigits_inj (hlt u) (hlt v) h)
  cases u
  cases v
  simpa using hbits

/-- The characters of the text, with a dash after digits 8, 12, 16 and 20. -/
def chars (u : Uuid) : List Char :=
  u.digits.take 8 ++ '-' :: ((u.digits.drop 8).take 4 ++ '-' :: ((u.digits.drop 12).take 4 ++
    '-' :: ((u.digits.drop 16).take 4 ++ '-' :: u.digits.drop 20)))

/-- The text of the identifier. -/
protected def toString (u : Uuid) : String := String.ofList u.chars

instance : ToString Uuid := ⟨Uuid.toString⟩

@[simp] theorem toList_toString (u : Uuid) : u.toString.toList = u.chars :=
  String.toList_ofList

@[simp] theorem length_chars (u : Uuid) : u.chars.length = 36 := by
  simp [chars]

@[simp] theorem length_toString (u : Uuid) : u.toString.length = 36 := by
  rw [← String.length_toList, toList_toString, length_chars]

theorem chars_inj {u v : Uuid} (h : u.chars = v.chars) : u = v := by
  refine digits_inj ?_
  have hsplit : ∀ w : Uuid, w.digits = w.digits.take 8 ++ ((w.digits.drop 8).take 4 ++
      ((w.digits.drop 12).take 4 ++ ((w.digits.drop 16).take 4 ++ w.digits.drop 20))) := by
    intro w
    have h₁ := List.take_append_drop 8 w.digits
    have h₂ := List.take_append_drop 4 (w.digits.drop 8)
    have h₃ := List.take_append_drop 4 (w.digits.drop 12)
    have h₄ := List.take_append_drop 4 (w.digits.drop 16)
    rw [List.drop_drop] at h₂ h₃ h₄
    rw [h₄, h₃, h₂, h₁]
  rw [chars, chars] at h
  obtain ⟨h₁, h⟩ := List.append_inj h (by simp)
  obtain ⟨h₂, h⟩ := List.append_inj (List.cons.inj h).2 (by simp)
  obtain ⟨h₃, h⟩ := List.append_inj (List.cons.inj h).2 (by simp)
  obtain ⟨h₄, h⟩ := List.append_inj (List.cons.inj h).2 (by simp)
  rw [hsplit u, hsplit v, h₁, h₂, h₃, h₄, (List.cons.inj h).2]

theorem toString_inj {u v : Uuid} (h : u.toString = v.toString) : u = v := by
  refine chars_inj ?_
  rw [← toList_toString, ← toList_toString, h]

end Uuid

/-! ## Texts with an identifier written into them -/

/-- Two texts that agree up to an identifier carry the same identifier, and go on alike. -/
theorem keyed_inj {p : String} {u v : Uuid} {r r' : String}
    (h : p ++ u.toString ++ r = p ++ v.toString ++ r') : u = v ∧ r = r' := by
  have hl := congrArg String.toList h
  simp only [String.toList_append, Uuid.toList_toString, List.append_assoc,
    List.append_cancel_left_eq] at hl
  obtain ⟨hu, hr⟩ := List.append_inj hl (by simp)
  exact ⟨Uuid.chars_inj hu, String.toList_inj.mp hr⟩

/-- Texts that open with an identifier carry the same one, and go on alike. -/
theorem uuid_append_inj {u v : Uuid} {r r' : String} (h : u.toString ++ r = v.toString ++ r') :
    u = v ∧ r = r' := by
  refine keyed_inj (p := "") ?_
  rw [String.empty_append, String.empty_append, h]

/-- Texts whose openings differ within the first `n` characters are different. -/
theorem append_ne_append {p q : String} (n : Nat) (hp : n ≤ p.toList.length)
    (hq : n ≤ q.toList.length) (h : p.toList.take n ≠ q.toList.take n) (r r' : String) :
    p ++ r ≠ q ++ r' := by
  intro e
  have hl := congrArg (fun s ↦ s.toList.take n) e
  simp only [String.toList_append, List.take_append_of_le_length hp,
    List.take_append_of_le_length hq] at hl
  exact h hl

/-- A text opens with what it was put together from. -/
theorem isPrefixOf_append (p r : String) : p.toList.isPrefixOf (p ++ r).toList = true := by
  rw [List.isPrefixOf_iff_prefix, String.toList_append]
  exact List.prefix_append _ _

/-- A text whose opening differs within the first `n` characters does not open with `p`. -/
theorem not_isPrefixOf_append {p q : String} (n : Nat) (hp : n ≤ p.toList.length)
    (hq : n ≤ q.toList.length) (h : p.toList.take n ≠ q.toList.take n) (r : String) :
    ¬ p.toList.isPrefixOf (q ++ r).toList = true := by
  intro hpre
  obtain ⟨s, hs⟩ := List.isPrefixOf_iff_prefix.mp hpre
  refine append_ne_append n hp hq h (String.ofList s) r (String.toList_inj.mp ?_)
  rw [String.toList_append, String.toList_ofList, hs]

end AjoCloud
