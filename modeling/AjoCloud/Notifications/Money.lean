import AjoCloud.Lib.Digits

/-!
# Money in a notification

`notification-money.ts`.  An amount is written in whole units and hundredths, with a comma before every third
digit.  The commas are put in by a replacement that looks ahead: `insertCommas` asks, before every
character, what the pattern asks there.
-/

namespace AjoCloud.Notifications

open Lib

/-- `SYMBOLS`. -/
def SYMBOLS : List (String × String) := [("NGN", "₦")]

/-- `SYMBOLS[currency] ?? ...`: the symbol of a currency, or its code and a blank.  What every object
inherits does not have a currency's name. -/
def symbol (currency : String) : String := (SYMBOLS.lookup currency).getD (currency ++ " ")

/-- `\w`. -/
def isWordChar (c : Char) : Bool := c.isAlphanum || c = '_'

/-- `\B`, between two characters of which the ends of the text have one only. -/
def isNoBoundary (before after : Option Char) : Bool := before.any isWordChar == after.any isWordChar

/-- `(\d{3})+(?!\d)`, at the front of a text. -/
def groupsFollow : List Char → Bool
  | a :: b :: c :: rest =>
      a.isDigit && b.isDigit && c.isDigit && (!rest.head?.any Char.isDigit || groupsFollow rest)
  | _ => false

/-- The replacement in what comes after a character. -/
def insertCommas (before : Option Char) : List Char → List Char
  | [] => []
  | c :: rest =>
      (if isNoBoundary before (some c) && groupsFollow (c :: rest) then [','] else []) ++
        c :: insertCommas (some c) rest

/-- `groupThousands`. -/
def groupThousands (value : String) : String := String.ofList (insertCommas none value.toList)

/-- `formatMoney`. -/
def formatMoney (amountMinor : Int) (currency : String) : String :=
  let negative := amountMinor < 0
  let absolute := amountMinor.natAbs
  let major := groupThousands (toString (absolute / 100))
  let minor := String.ofList ((toString (absolute % 100)).toList.leftpad 2 '0')
  (if negative then "-" else "") ++ symbol currency ++ major ++ "." ++ minor

/-! ## Commas -/

section Commas

variable {ds : List Char}

/-- Among digits, groups of three follow where the number of digits is a multiple of three. -/
theorem groupsFollow_iff (h : ∀ c ∈ ds, c.isDigit = true) :
    groupsFollow ds = true ↔ 0 < ds.length ∧ ds.length % 3 = 0 := by
  fun_induction groupsFollow ds with
  | case1 a b c rest ih =>
      obtain ⟨ha, hb, hc, hrest⟩ : a.isDigit = true ∧ b.isDigit = true ∧ c.isDigit = true ∧
          ∀ c ∈ rest, c.isDigit = true := by simpa using h
      have hlength : (a :: b :: c :: rest).length = rest.length + 3 := rfl
      rw [ha, hb, hc, Bool.true_and, Bool.true_and, Bool.true_and, hlength]
      cases rest with
      | nil => simp
      | cons d rest =>
          have hd : ((d :: rest).head?.any Char.isDigit) = true := hrest d List.mem_cons_self
          rw [hd, Bool.not_true, Bool.false_or, ih hrest, Nat.add_mod_right]
          simp
  | case2 ds hshort =>
      refine iff_of_false Bool.false_ne_true ?_
      rintro ⟨hpos, hmod⟩
      rcases ds with _ | ⟨a, _ | ⟨b, _ | ⟨c, rest⟩⟩⟩
      · cases hpos
      · cases hmod
      · cases hmod
      · exact hshort a b c rest rfl

theorem isWordChar_of_isDigit {c : Char} (h : c.isDigit = true) : isWordChar c = true := by
  simp [isWordChar, Char.isAlphanum, h]

theorem insertCommas_cons {p c : Char} (hp : p.isDigit = true) (h : ∀ d ∈ c :: ds, d.isDigit = true) :
    insertCommas (some p) (c :: ds) =
      (if (ds.length + 1) % 3 = 0 then [','] else []) ++ c :: insertCommas (some c) ds := by
  have hinside : isNoBoundary (some p) (some c) = true := by
    simp [isNoBoundary, isWordChar_of_isDigit hp, isWordChar_of_isDigit (h c List.mem_cons_self)]
  rw [insertCommas, hinside, Bool.true_and]
  refine congrArg (· ++ c :: insertCommas (some c) ds) (if_congr ?_ rfl rfl)
  rw [groupsFollow_iff h]
  exact and_iff_right (Nat.succ_pos _)

theorem length_insertCommas {p : Char} (hp : p.isDigit = true) (h : ∀ c ∈ ds, c.isDigit = true) :
    (insertCommas (some p) ds).length = ds.length + ds.length / 3 := by
  induction ds generalizing p with
  | nil => rfl
  | cons c ds ih =>
      rw [List.forall_mem_cons] at h
      rw [insertCommas_cons hp (List.forall_mem_cons.mpr h), List.length_append, List.length_cons,
        List.length_cons, ih h.1 h.2]
      split
      · rw [List.length_singleton]
        omega
      · rw [List.length_nil]
        omega

/-- From the right, a comma stands in every fourth place and nowhere else. -/
theorem getElem?_reverse_insertCommas {p : Char} (hp : p.isDigit = true)
    (h : ∀ c ∈ ds, c.isDigit = true) (i : Nat) :
    (insertCommas (some p) ds).reverse[i]? = some ',' ↔
      i % 4 = 3 ∧ i < (insertCommas (some p) ds).length := by
  induction ds generalizing p with
  | nil => simp [insertCommas]
  | cons c ds ih =>
      rw [List.forall_mem_cons] at h
      have hlength := length_insertCommas h.1 h.2
      have hc : c ≠ ',' := Decimal.ne_of_isDigit h.1 rfl
      rw [insertCommas_cons hp (List.forall_mem_cons.mpr h), List.reverse_append, List.reverse_cons,
        List.append_assoc]
      rcases Nat.lt_or_ge i (insertCommas (some c) ds).length with hlt | hge
      · rw [List.getElem?_append_left (by simpa using hlt), ih h.1 h.2]
        refine and_congr_right fun _ ↦ iff_of_true hlt ?_
        rw [List.length_append, List.length_cons]
        omega
      · rw [List.getElem?_append_right (by simpa using hge), List.length_reverse]
        obtain ⟨k, hk⟩ := Nat.exists_eq_add_of_le hge
        rw [hk, Nat.add_sub_cancel_left]
        -- the character has its place, and after it comes at most a comma
        split
        · next hthird =>
            rcases k with _ | _ | k
            · simp [hc]
              omega
            · simp
              omega
            · rw [List.getElem?_eq_none (by simp)]
              simp only [List.length_append, List.length_cons, List.length_nil, reduceCtorEq, false_iff, not_and]
              omega
        · next hnot =>
            rcases k with _ | k
            · simp [hc]
              omega
            · simp

/-- Without the commas it is what it was. -/
theorem filter_insertCommas (before : Option Char) (h : ∀ c ∈ ds, c.isDigit = true) :
    (insertCommas before ds).filter (· ≠ ',') = ds := by
  induction ds generalizing before with
  | nil => rfl
  | cons c ds ih =>
      rw [List.forall_mem_cons] at h
      have hc : c ≠ ',' := Decimal.ne_of_isDigit h.1 rfl
      rw [insertCommas, List.filter_append, List.filter_cons_of_pos (by simpa using hc), ih (some c) h.2]
      split
      · rfl
      · rfl

end Commas

/-! ## Digits -/

theorem isDigit_of_mem_toDigits {n : Nat} {c : Char} (h : c ∈ Nat.toDigits 10 n) : c.isDigit = true :=
  Nat.isDigit_of_mem_toDigits (by decide) (by decide) h

/-- The two digits of a number below a hundred. -/
theorem leftpad_two {n : Nat} (h : n < 100) :
    (Nat.toDigits 10 n).leftpad 2 '0' = [(n / 10).digitChar, (n % 10).digitChar] := by
  rcases Nat.lt_or_ge n 10 with hlt | hge
  · rw [Nat.toDigits_of_lt_base hlt, Nat.div_eq_of_lt hlt, Nat.mod_eq_of_lt hlt]
    rfl
  · have htens : n / 10 < 10 := by omega
    rw [Nat.toDigits_of_base_le (by decide) hge, Nat.toDigits_of_lt_base htens]
    rfl

/-- The digits of the hundreds and the two digits of what is left over are the digits of the number, at
least three. -/
theorem digits_of_hundreds (n : Nat) :
    Nat.toDigits 10 (n / 100) ++ (Nat.toDigits 10 (n % 100)).leftpad 2 '0' =
      (Nat.toDigits 10 n).leftpad 3 '0' := by
  rw [leftpad_two (Nat.mod_lt n (by decide))]
  rcases Nat.lt_or_ge n 100 with hlt | hge
  · have hlength : (Nat.toDigits 10 n).length ≤ 2 :=
      (Nat.length_toDigits_le_iff (by decide) (by decide)).mpr hlt
    have hpad : (Nat.toDigits 10 n).leftpad 3 '0' = '0' :: (Nat.toDigits 10 n).leftpad 2 '0' := by
      rw [List.leftpad, List.leftpad, Nat.succ_sub hlength]
      rfl
    rw [hpad, leftpad_two hlt, Nat.div_eq_of_lt hlt, Nat.mod_eq_of_lt hlt, Nat.toDigits_zero]
    rfl
  · have hsplit : Nat.toDigits 10 n =
        Nat.toDigits 10 (n / 100) ++ [(n % 100 / 10).digitChar, (n % 100 % 10).digitChar] := by
      have htens : n % 100 / 10 = n / 10 % 10 := by omega
      have hunits : n % 100 % 10 = n % 10 := by omega
      rw [htens, hunits, Nat.toDigits_of_base_le (by decide) (by omega : 10 ≤ n),
        Nat.toDigits_of_base_le (by decide) (by omega : 10 ≤ n / 10), Nat.div_div_eq_div_mul,
        List.append_assoc]
      rfl
    have hlong : 3 - (Nat.toDigits 10 n).length = 0 := by
      have hpos : 0 < (Nat.toDigits 10 (n / 100)).length := Nat.length_toDigits_pos
      rw [hsplit, List.length_append, List.length_cons, List.length_cons, List.length_nil]
      omega
    rw [List.leftpad, hlong, List.replicate_zero, List.nil_append, hsplit]

/-- The digits, however far they are filled up, determine the number. -/
theorem eq_of_leftpad_eq {m n k : Nat}
    (h : (Nat.toDigits 10 m).leftpad k '0' = (Nat.toDigits 10 n).leftpad k '0') : m = n := by
  have hvalue : ∀ n : Nat, digitsValue ((Nat.toDigits 10 n).leftpad k '0') = n := by
    intro n
    rw [List.leftpad, digitsValue_zeros_append]
    exact Nat.ofDigitChars_ten_toDigits
  rw [← hvalue m, h, hvalue n]

/-! ## The text -/

section Text

variable {amountMinor : Int} {currency : String}

/-- The part before the point. -/
def wholeText (n : Nat) : List Char := insertCommas none (Nat.toDigits 10 (n / 100))

/-- The part after it. -/
def fractionText (n : Nat) : List Char := (Nat.toDigits 10 (n % 100)).leftpad 2 '0'

theorem toList_formatMoney (amountMinor : Int) (currency : String) :
    (formatMoney amountMinor currency).toList =
      (if amountMinor < 0 then ['-'] else []) ++ (symbol currency).toList ++
        (wholeText amountMinor.natAbs ++ '.' :: fractionText amountMinor.natAbs) := by
  have hsign : (if amountMinor < 0 then "-" else "").toList = if amountMinor < 0 then ['-'] else [] := by
    split
    · rfl
    · rfl
  have hnumber : ∀ n : Nat, (toString n).toList = Nat.toDigits 10 n := fun n ↦ Nat.toList_repr
  rw [formatMoney]
  simp only [String.toList_append, groupThousands, String.toList_ofList, hnumber, hsign,
    List.append_assoc]
  rfl

theorem length_fractionText (n : Nat) : (fractionText n).length = 2 := by
  rw [fractionText, leftpad_two (Nat.mod_lt n (by decide))]
  rfl

theorem isDigit_of_mem_fractionText {n : Nat} {c : Char} (h : c ∈ fractionText n) : c.isDigit = true := by
  rw [fractionText, List.leftpad, List.mem_append] at h
  rcases h with hpad | hdigits
  · rw [List.eq_of_mem_replicate hpad]
    rfl
  · exact isDigit_of_mem_toDigits hdigits

theorem filter_wholeText (n : Nat) : (wholeText n).filter (· ≠ ',') = Nat.toDigits 10 (n / 100) :=
  filter_insertCommas none fun _ hc ↦ isDigit_of_mem_toDigits hc

theorem isDigit_or_eq_of_mem_wholeText {n : Nat} {c : Char} (h : c ∈ wholeText n) :
    c.isDigit = true ∨ c = ',' := by
  by_cases hc : c = ','
  · exact .inr hc
  · have hmem : c ∈ (wholeText n).filter (· ≠ ',') := List.mem_filter.mpr ⟨h, by simpa using hc⟩
    rw [filter_wholeText] at hmem
    exact .inl (isDigit_of_mem_toDigits hmem)

/-- The commas of the whole part: from the right, in every fourth place, and none at the front. -/
theorem commas_wholeText (n : Nat) :
    (∀ i, (wholeText n).reverse[i]? = some ',' ↔ i % 4 = 3 ∧ i < (wholeText n).length) ∧
      (wholeText n).length % 4 ≠ 0 := by
  obtain ⟨c, ds, hdigits⟩ := List.exists_cons_of_ne_nil (Nat.toDigits_ne_nil (n := n / 100) (b := 10))
  have hall : ∀ d ∈ c :: ds, d.isDigit = true := fun d hd ↦ isDigit_of_mem_toDigits (hdigits ▸ hd)
  rw [List.forall_mem_cons] at hall
  have hfirst : isNoBoundary none (some c) = false := by
    simp [isNoBoundary, isWordChar_of_isDigit hall.1]
  have hwhole : wholeText n = c :: insertCommas (some c) ds := by
    rw [wholeText, hdigits, insertCommas, hfirst]
    rfl
  have hlength := length_insertCommas hall.1 hall.2
  have hc : c ≠ ',' := Decimal.ne_of_isDigit hall.1 rfl
  rw [hwhole, List.reverse_cons, List.length_cons]
  refine ⟨fun i ↦ ?_, by omega⟩
  rcases Nat.lt_or_ge i (insertCommas (some c) ds).length with hlt | hge
  · rw [List.getElem?_append_left (by simpa using hlt), getElem?_reverse_insertCommas hall.1 hall.2]
    exact and_congr_right fun _ ↦ iff_of_true hlt (Nat.lt_succ_of_lt hlt)
  · rw [List.getElem?_append_right (by simpa using hge), List.length_reverse]
    obtain ⟨k, hk⟩ := Nat.exists_eq_add_of_le hge
    rw [hk, Nat.add_sub_cancel_left]
    rcases k with _ | k
    · simp [hc]
      omega
    · simp

/-- The digits of the amount, at least three, are what is left without the commas and the point. -/
theorem filter_text (n : Nat) :
    (wholeText n ++ '.' :: fractionText n).filter (fun c ↦ c ≠ ',' ∧ c ≠ '.') =
      (Nat.toDigits 10 n).leftpad 3 '0' := by
  have hwhole : (wholeText n).filter (fun c ↦ c ≠ ',' ∧ c ≠ '.') = Nat.toDigits 10 (n / 100) := by
    rw [← filter_wholeText]
    refine List.filter_congr fun c hc ↦ ?_
    rcases isDigit_or_eq_of_mem_wholeText hc with hdigit | rfl
    · simp [Decimal.ne_of_isDigit hdigit (x := '.') rfl]
    · rfl
  have hfraction : (fractionText n).filter (fun c ↦ c ≠ ',' ∧ c ≠ '.') = fractionText n := by
    refine List.filter_eq_self.mpr fun c hc ↦ ?_
    have hdigit := isDigit_of_mem_fractionText hc
    simp [Decimal.ne_of_isDigit hdigit (x := '.') rfl, Decimal.ne_of_isDigit hdigit (x := ',') rfl]
  rw [List.filter_append, hwhole, List.filter_cons_of_neg (by simp), hfraction]
  exact digits_of_hundreds n

/-- A minus before a text is not the text, whatever comes after the two, unless that is a minus. -/
theorem minus_append_ne {s b b' : List Char} (hb : b'.head? ≠ some '-') : '-' :: (s ++ b) ≠ s ++ b' := by
  induction s with
  | nil =>
      intro h
      rw [List.nil_append, List.nil_append] at h
      exact hb (h ▸ rfl)
  | cons c s ih =>
      intro h
      rw [List.cons_append, List.cons_append, List.cons.injEq] at h
      obtain ⟨rfl, htail⟩ := h
      exact ih htail

theorem head?_wholeText_append_ne (n : Nat) (rest : List Char) :
    (wholeText n ++ rest).head? ≠ some '-' := by
  cases hwhole : wholeText n with
  | nil =>
      have hcommas := (commas_wholeText n).2
      rw [hwhole] at hcommas
      exact absurd rfl hcommas
  | cons c whole =>
      have hc : c ∈ wholeText n := hwhole ▸ List.mem_cons_self
      rw [List.cons_append, List.head?_cons, ne_eq, Option.some_inj]
      rcases isDigit_or_eq_of_mem_wholeText hc with hdigit | rfl
      · exact Decimal.ne_of_isDigit hdigit rfl
      · decide

/-- Amounts that read the same are the same. -/
theorem formatMoney_injective (currency : String) : Function.Injective (formatMoney · currency) := by
  intro a b h
  have htext := congrArg String.toList h
  simp only [toList_formatMoney] at htext
  have hsize : wholeText a.natAbs ++ '.' :: fractionText a.natAbs =
      wholeText b.natAbs ++ '.' :: fractionText b.natAbs → a.natAbs = b.natAbs := by
    intro heq
    refine eq_of_leftpad_eq (k := 3) ?_
    rw [← filter_text, heq, filter_text]
  by_cases ha : a < 0 <;> by_cases hb : b < 0
  · rw [if_pos ha, if_pos hb] at htext
    have habs := hsize (List.append_cancel_left htext)
    omega
  · rw [if_pos ha, if_neg hb, List.append_assoc, List.nil_append] at htext
    exact absurd htext (minus_append_ne (s := (symbol currency).toList) (head?_wholeText_append_ne _ _))
  · rw [if_neg ha, if_pos hb, List.nil_append, List.append_assoc] at htext
    exact absurd htext.symm (minus_append_ne (s := (symbol currency).toList) (head?_wholeText_append_ne _ _))
  · rw [if_neg ha, if_neg hb] at htext
    have habs := hsize (List.append_cancel_left htext)
    omega

/-- **Displayed money is exact.**  After the sign and the symbol come digits with a comma before every third
from the right, a point and two digits; without the commas and the point they are the digits of the
amount.  So different amounts in a currency read differently. -/
theorem formatMoney_exact (amountMinor : Int) (currency : String) :
    (∃ whole fraction : List Char,
      (formatMoney amountMinor currency).toList =
          (if amountMinor < 0 then ['-'] else []) ++ (symbol currency).toList ++
            (whole ++ '.' :: fraction) ∧
        (∀ c ∈ whole, c.isDigit = true ∨ c = ',') ∧
        (fraction.length = 2 ∧ ∀ c ∈ fraction, c.isDigit = true) ∧
        (whole ++ '.' :: fraction).filter (fun c ↦ c ≠ ',' ∧ c ≠ '.') =
          (Nat.toDigits 10 amountMinor.natAbs).leftpad 3 '0' ∧
        (∀ i, whole.reverse[i]? = some ',' ↔ i % 4 = 3 ∧ i < whole.length) ∧ whole.length % 4 ≠ 0) ∧
      ∀ other, formatMoney other currency = formatMoney amountMinor currency → other = amountMinor := by
  refine ⟨⟨wholeText amountMinor.natAbs, fractionText amountMinor.natAbs,
    toList_formatMoney amountMinor currency, fun c hc ↦ isDigit_or_eq_of_mem_wholeText hc,
    ⟨length_fractionText _, fun c hc ↦ isDigit_of_mem_fractionText hc⟩, filter_text _,
    commas_wholeText _⟩, ?_⟩
  intro other h
  exact formatMoney_injective currency h

example : formatMoney (-123456789) "NGN" = "-₦1,234,567.89" := by decide +kernel

end Text

end AjoCloud.Notifications
