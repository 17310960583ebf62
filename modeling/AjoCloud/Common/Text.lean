import AjoCloud.Common.Uuid

/-!
# Text functions of the host language
-/

namespace AjoCloud

/-- A property of every character of a text, by a test of each. -/
theorem forall_mem_of_all {p : Char → Prop} [DecidablePred p] {cs : List Char}
    (h : (cs.all fun c ↦ p c) = true) : ∀ c ∈ cs, p c := by
  simpa using h

/-- How many UTF-16 units a character takes. -/
def utf16Units (c : Char) : Nat := if c.toNat < 0x10000 then 1 else 2

theorem one_le_utf16Units (c : Char) : 1 ≤ utf16Units c := by
  rw [utf16Units]
  split
  · exact le_refl 1
  · exact Nat.le_succ 1

/-- `text.length`. -/
def textUnits (text : String) : Nat := (text.toList.map utf16Units).sum

/-- The longest run of whole characters at the front that fits `n` UTF-16 units. -/
def takeUnits : Nat → List Char → List Char
  | _, [] => []
  | n, c :: cs => if utf16Units c ≤ n then c :: takeUnits (n - utf16Units c) cs else []

theorem length_takeUnits_le (n : Nat) (text : List Char) : (takeUnits n text).length ≤ n := by
  induction text generalizing n with
  | nil => simp [takeUnits]
  | cons c text ih =>
      rw [takeUnits]
      split
      · have hrest := ih (n - utf16Units c)
        have hunits := one_le_utf16Units c
        rw [List.length_cons]
        omega
      · exact Nat.zero_le n

/-- `text.slice(0, n)`. -/
def sliceTo (n : Nat) (text : String) : String := String.ofList (takeUnits n text.toList)

/-- The white space and line terminators that `trim` takes away. -/
def isSpace (c : Char) : Bool :=
  (9 ≤ c.toNat && c.toNat ≤ 13) || c.toNat == 0x20 || c.toNat == 0xA0 || c.toNat == 0x1680 ||
    (0x2000 ≤ c.toNat && c.toNat ≤ 0x200A) || c.toNat == 0x2028 || c.toNat == 0x2029 ||
    c.toNat == 0x202F || c.toNat == 0x205F || c.toNat == 0x3000 || c.toNat == 0xFEFF

/-- `text.trim()`. -/
def trim (text : String) : String :=
  String.ofList (((text.toList.dropWhile isSpace).reverse.dropWhile isSpace).reverse)

/-- What `trim` takes away is nothing to a filter that takes no white space. -/
theorem filter_trim {p : Char → Bool} (h : ∀ c, isSpace c = true → p c = false) (text : String) :
    (trim text).toList.filter p = text.toList.filter p := by
  have hdrop : ∀ cs : List Char, (cs.dropWhile isSpace).filter p = cs.filter p := by
    intro cs
    induction cs with
    | nil => rfl
    | cons c cs ih =>
        cases hc : isSpace c with
        | false => rw [List.dropWhile_cons_of_neg (by simp [hc])]
        | true =>
            rw [List.dropWhile_cons_of_pos hc, ih, List.filter_cons_of_neg (by simp [h c hc])]
  rw [trim, String.toList_ofList, List.filter_reverse, hdrop, List.filter_reverse, hdrop,
    List.reverse_reverse]

/-- `text.toLowerCase()`, for texts without letters beyond ASCII. -/
def toLowerCase (text : String) : String := String.ofList (text.toList.map Char.toLower)

/-- `text.toUpperCase()`, for texts without letters beyond ASCII. -/
def toUpperCase (text : String) : String := String.ofList (text.toList.map Char.toUpper)

theorem isUpper_iff_toNat {c : Char} : c.isUpper = true ↔ 65 ≤ c.toNat ∧ c.toNat ≤ 90 := by
  show decide (c.val ≥ 'A'.val ∧ c.val ≤ 'Z'.val) = true ↔ _
  rw [decide_eq_true_eq, ge_iff_le, UInt32.le_iff_toNat_le, UInt32.le_iff_toNat_le]
  exact Iff.rfl

theorem isLower_iff_toNat {c : Char} : c.isLower = true ↔ 97 ≤ c.toNat ∧ c.toNat ≤ 122 := by
  show (decide (c.val ≥ 'a'.val) && decide (c.val ≤ 'z'.val)) = true ↔ _
  rw [Bool.and_eq_true, decide_eq_true_eq, decide_eq_true_eq, ge_iff_le, UInt32.le_iff_toNat_le,
    UInt32.le_iff_toNat_le]
  exact Iff.rfl

/-- Where upper-case letters and digits are. -/
theorem toNat_of_isUpper_or_isDigit {c : Char} (h : (c.isUpper || c.isDigit) = true) :
    48 ≤ c.toNat ∧ c.toNat ≤ 90 := by
  rw [Bool.or_eq_true, isUpper_iff_toNat, Char.isDigit_iff_toNat] at h
  rcases h with ⟨hlo, hhi⟩ | ⟨hlo, hhi⟩
  · exact ⟨le_trans (by decide) hlo, hhi⟩
  · exact ⟨hlo, le_trans hhi (by decide)⟩

/-- `toLower` takes the upper-case letters to the lower-case letters, and nothing else anywhere. -/
theorem toLower_cases (c : Char) :
    c.toLower = c ∧ ¬ (65 ≤ c.toNat ∧ c.toNat ≤ 90) ∨
      65 ≤ c.toNat ∧ c.toNat ≤ 90 ∧ c.toLower.toNat = c.toNat + 32 := by
  by_cases h : 'A'.val ≤ c.val ∧ c.val ≤ 'Z'.val
  · right
    have hlo : 65 ≤ c.val.toNat := UInt32.le_iff_toNat_le.mp h.1
    have hhi : c.val.toNat ≤ 90 := UInt32.le_iff_toNat_le.mp h.2
    have hlower : c.toLower.toNat = (c.val + ('a'.val - 'A'.val)).toNat := congrArg Char.toNat (dif_pos h)
    refine ⟨hlo, hhi, ?_⟩
    rw [hlower, UInt32.toNat_add]
    change (c.val.toNat + 32) % 2 ^ 32 = c.val.toNat + 32
    omega
  · refine .inl ⟨dif_neg h, ?_⟩
    rintro ⟨hlo, hhi⟩
    exact h ⟨UInt32.le_iff_toNat_le.mpr hlo, UInt32.le_iff_toNat_le.mpr hhi⟩

theorem toLower_of_le {c : Char} (h : 91 ≤ c.toNat) : c.toLower = c := by
  rcases toLower_cases c with hc | hc
  · exact hc.1
  · omega

theorem toLower_toLower (c : Char) : c.toLower.toLower = c.toLower := by
  rcases toLower_cases c with ⟨hc, -⟩ | hc
  · rw [hc, hc]
  · exact toLower_of_le (by omega)

theorem toUpper_of_toNat_le {c : Char} (h : c.toNat ≤ 90) : c.toUpper = c := by
  refine dif_neg ?_
  rintro ⟨hlo, -⟩
  rw [UInt32.le_iff_toNat_le] at hlo
  exact absurd (le_trans hlo h) (by decide)

theorem isSpace_eq_false {c : Char} (hlo : 33 ≤ c.toNat) (hhi : c.toNat ≤ 126) : isSpace c = false := by
  simp only [isSpace, Bool.or_eq_false_iff, Bool.and_eq_false_iff, decide_eq_false_iff_not,
    beq_eq_false_iff_ne]
  omega

/-- `toUpper` takes the lower-case letters to the upper-case letters, and nothing else anywhere. -/
theorem toUpper_cases (c : Char) :
    c.toUpper = c ∨ 97 ≤ c.toNat ∧ c.toNat ≤ 122 ∧ c.toUpper.toNat + 32 = c.toNat := by
  by_cases h : 'a'.val ≤ c.val ∧ c.val ≤ 'z'.val
  · right
    have hlo : 97 ≤ c.val.toNat := UInt32.le_iff_toNat_le.mp h.1
    have hhi : c.val.toNat ≤ 122 := UInt32.le_iff_toNat_le.mp h.2
    have hupper : c.toUpper.toNat = (c.val + ('A'.val - 'a'.val)).toNat := by
      show (dite _ _ _ : Char).toNat = _
      rw [dif_pos h]
      rfl
    refine ⟨hlo, hhi, ?_⟩
    rw [hupper, UInt32.toNat_add]
    change (c.val.toNat + 4294967264) % 2 ^ 32 + 32 = c.val.toNat
    omega
  · exact .inl (dif_neg h)

theorem isSpace_toUpper (c : Char) : isSpace c.toUpper = isSpace c := by
  rcases toUpper_cases c with h | ⟨hlo, hhi, h⟩
  · rw [h]
  · rw [isSpace_eq_false (c := c) (by omega) (by omega), isSpace_eq_false (by omega) (by omega)]

theorem toUpper_eq_iff {c d : Char} (h : d.toNat < 65 ∨ 122 < d.toNat) : c.toUpper = d ↔ c = d := by
  rcases toUpper_cases c with hc | ⟨hlo, hhi, hc⟩
  · rw [hc]
  · refine iff_of_false ?_ ?_
    · rintro rfl
      omega
    · rintro rfl
      omega

theorem mem_of_mem_trim {text : String} {c : Char} (h : c ∈ (trim text).toList) : c ∈ text.toList := by
  rw [trim, String.toList_ofList, List.mem_reverse] at h
  have hfront := List.mem_reverse.mp ((List.dropWhile_sublist _).subset h)
  exact (List.dropWhile_sublist _).subset hfront

/-- `id.slice(0, 8).toUpperCase()`. -/
def Uuid.shortCode (u : Uuid) : String := String.ofList ((u.chars.take 8).map Char.toUpper)

@[simp] theorem Uuid.length_shortCode (u : Uuid) : u.shortCode.length = 8 := by
  simp [Uuid.shortCode, ← String.length_toList]

end AjoCloud
