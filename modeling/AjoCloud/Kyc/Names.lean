import AjoCloud.Kyc.Spelling
import Mathlib.Data.Finset.Card

/-!
# Matching names

`namesMatch` against the sets of names that the two texts hold.
-/

namespace AjoCloud.Kyc

open Lib

variable {host : Host} {D : CharacterDatabase}

/-! ## The names of a text -/

/-- What stands between names. -/
def betweenNames (c : Char) : Bool := !c.isLower

theorem separates_betweenNames : Separates betweenNames where
  blank := rfl
  beyond c h := by
    rw [betweenNames, Bool.not_eq_true', Bool.eq_false_iff, Ne, isLower_iff_toNat]
    omega

theorem nameTokens_eq (h : host.Normalizes D) (text : String) :
    nameTokens host text = ((wordsOn betweenNames (text.toList.flatMap (letters D betweenNames))).map
      String.ofList).filter fun token ↦ 1 < token.length := by
  rw [← wordsOn_foldMarks h separates_betweenNames]
  exact filter_map_splitOnP rfl _

/-- Names have at least two letters, and nothing else. -/
def IsName (name : String) : Prop := 1 < name.length ∧ ∀ c ∈ name.toList, c.isLower = true

theorem isName_of_mem {name text : String} (h : name ∈ nameTokens host text) : IsName name := by
  rw [nameTokens, filter_map_splitOnP (by rfl), List.mem_filter, decide_eq_true_eq] at h
  obtain ⟨hmem, hlength⟩ := h
  obtain ⟨word, hword, rfl⟩ := List.mem_map.mp hmem
  refine ⟨hlength, fun c hc ↦ ?_⟩
  rw [String.toList_ofList] at hc
  simpa using not_of_mem_wordsOn hword c hc

/-- A text that has these names one after the other. -/
def writtenNames (names : List String) : String :=
  String.ofList ((names.map String.toList).flatMap (· ++ [' ']))

theorem letters_of_isLower {c : Char} (h : c.isLower = true) : letters D betweenNames c = [c] := by
  have hrange := isLower_iff_toNat.mp h
  have hlower : c.toLower = c := toLower_of_le (by omega)
  rw [letters_of_ascii (by omega), foldChar, isMark_of_ascii (by omega), hlower, if_neg Bool.false_ne_true,
    if_neg (by simp [betweenNames, h])]

theorem nameTokens_writtenNames (hD : host.Normalizes D) {names : List String}
    (h : ∀ name ∈ names, IsName name) : nameTokens host (writtenNames names) = names := by
  have hwords : ∀ word ∈ names.map String.toList, word ≠ [] ∧ ∀ c ∈ word, betweenNames c = false := by
    intro word hword
    obtain ⟨name, hname, rfl⟩ := List.mem_map.mp hword
    refine ⟨?_, fun c hc ↦ by simp [betweenNames, (h name hname).2 c hc]⟩
    rw [← List.length_pos_iff, String.length_toList]
    exact Nat.zero_lt_of_lt (h name hname).1
  have hletters : ((names.map String.toList).flatMap (· ++ [' '])).flatMap (letters D betweenNames) =
      (names.map String.toList).flatMap (· ++ [' ']) := by
    have hsame : ∀ c ∈ (names.map String.toList).flatMap (· ++ [' ']), letters D betweenNames c = [c] := by
      intro c hc
      obtain ⟨word, hword, hc⟩ := List.mem_flatMap.mp hc
      rcases List.mem_append.mp hc with hc | hc
      · exact letters_of_isLower (by simpa [betweenNames] using (hwords word hword).2 c hc)
      · rw [List.mem_singleton.mp hc, letters_of_ascii (by decide)]
        rfl
    rw [List.flatMap_congr hsame, List.flatMap_singleton']
  have hlong : ∀ name ∈ names, decide (1 < name.length) = true := fun name hname ↦
    decide_eq_true (h name hname).1
  have hback : ((names.map String.toList).map String.ofList) = names := by
    rw [List.map_map]
    exact List.map_id'' (fun _ ↦ String.ofList_toList) names
  rw [nameTokens_eq hD, writtenNames, String.toList_ofList, hletters, wordsOn_written rfl hwords, hback,
    List.filter_eq_self.mpr hlong]

/-- Spellings of each other have the same names. -/
theorem nameTokens_of_respelled (hD : host.Normalizes D) {text text' : String} (h : Respelled D text text') :
    nameTokens host text' = nameTokens host text := by
  rw [nameTokens_eq hD, nameTokens_eq hD, h.flatMap_letters]

/-! ## Matching -/

/-- The different names in a text. -/
def distinctNames (host : Host) (text : String) : Finset String := (nameTokens host text).toFinset

/-- The different names in both texts. -/
def sharedNames (host : Host) (p q : String) : Finset String := distinctNames host p ∩ distinctNames host q

theorem namesMatch_iff (p q : String) : namesMatch host p q = true ↔
    nameTokens host p ≠ [] ∧ nameTokens host q ≠ [] ∧
      min 2 (min (nameTokens host p).length (nameTokens host q).length) ≤
        ((nameTokens host p).filter ((nameTokens host q).contains ·)).length := by
  rw [namesMatch]
  split
  · next hempty =>
      rw [List.length_eq_zero_iff, List.length_eq_zero_iff] at hempty
      refine iff_of_false Bool.false_ne_true ?_
      rintro ⟨hp, hq, -⟩
      exact hempty.elim hp hq
  · next hnames =>
      rw [List.length_eq_zero_iff, List.length_eq_zero_iff, not_or] at hnames
      rw [decide_eq_true_eq]
      exact ⟨fun hcount ↦ ⟨hnames.1, hnames.2, hcount⟩, fun h ↦ h.2.2⟩

theorem toFinset_shared (p q : String) :
    ((nameTokens host p).filter ((nameTokens host q).contains ·)).toFinset = sharedNames host p q := by
  ext name
  simp [sharedNames, distinctNames]

theorem sharedNames_comm (p q : String) : sharedNames host p q = sharedNames host q p :=
  Finset.inter_comm _ _

/-- The number of shared names does not depend on how often they stand there. -/
def CountsOnce (host : Host) (p q : String) : Prop :=
  (sharedNames host p q).card ≠ 1 ∨ (distinctNames host p).card = 1 ∧ (distinctNames host q).card = 1

instance : Decidable (CountsOnce host p q) := inferInstanceAs (Decidable (_ ∨ _))

theorem CountsOnce.symm {p q : String} (h : CountsOnce host p q) : CountsOnce host q p := by
  rw [CountsOnce, sharedNames_comm]
  exact h.imp id And.symm

/-- Then a name in both is all it takes. -/
theorem CountsOnce.namesMatch_iff {p q : String} (h : CountsOnce host p q) :
    namesMatch host p q = true ↔ (sharedNames host p q).Nonempty := by
  rw [Kyc.namesMatch_iff, ← toFinset_shared, List.toFinset_nonempty_iff]
  constructor
  · rintro ⟨hp, hq, hcount⟩ hnone
    have hp' := List.length_pos_iff.mpr hp
    have hq' := List.length_pos_iff.mpr hq
    rw [hnone, List.length_nil] at hcount
    omega
  · intro hsome
    obtain ⟨name, hname⟩ := List.exists_mem_of_ne_nil _ hsome
    have hboth := List.mem_filter.mp hname
    refine ⟨List.ne_nil_of_mem hboth.1, List.ne_nil_of_mem (List.contains_iff_mem.mp hboth.2), ?_⟩
    rcases h with hcard | ⟨hp, -⟩
    · -- two different names in both stand twice in the list
      have hpos : 0 < (sharedNames host p q).card := by
        rw [← toFinset_shared, Finset.card_pos]
        exact ⟨name, List.mem_toFinset.mpr hname⟩
      have hle := List.toFinset_card_le ((nameTokens host p).filter ((nameTokens host q).contains ·))
      rw [toFinset_shared] at hle
      omega
    · -- all the names on the left are one, which is on the right
      have hall : ∀ other ∈ nameTokens host p, (nameTokens host q).contains other = true := by
        intro other hother
        obtain ⟨one, hone⟩ := Finset.card_eq_one.mp hp
        have hsame : ∀ n ∈ nameTokens host p, n = one := by
          intro n hn
          have hmem : n ∈ distinctNames host p := List.mem_toFinset.mpr hn
          rwa [hone, Finset.mem_singleton] at hmem
        rw [hsame other hother, ← hsame name hboth.1]
        exact hboth.2
      rw [List.filter_eq_self.mpr hall]
      omega

/-! ## Names that are repeated -/

theorem distinctNames_written (hD : host.Normalizes D) {names : List String}
    (h : ∀ name ∈ names, IsName name) : distinctNames host (writtenNames names) = names.toFinset := by
  rw [distinctNames, nameTokens_writtenNames hD h]

/-- The names of a text, each as often as `n` says. -/
def namesRepeated (host : Host) (text : String) (n : Nat) : List String :=
  (List.replicate n (nameTokens host text).dedup).flatten

theorem isName_of_mem_namesRepeated {name text : String} {n : Nat} (h : name ∈ namesRepeated host text n) :
    IsName name := by
  obtain ⟨names, hnames, hname⟩ := List.mem_flatten.mp h
  rw [List.eq_of_mem_replicate hnames, List.mem_dedup] at hname
  exact isName_of_mem hname

theorem toFinset_namesRepeated (text : String) (n : Nat) :
    (namesRepeated host text (n + 1)).toFinset = distinctNames host text := by
  ext name
  simp [namesRepeated, distinctNames, List.mem_replicate]

theorem length_namesRepeated (text : String) (n : Nat) :
    (namesRepeated host text n).length = n * (distinctNames host text).card := by
  rw [namesRepeated, List.length_flatten, List.map_replicate, List.sum_replicate_nat, distinctNames,
    List.card_toFinset]

/-- The count goes up with the repetitions of the left side. -/
theorem length_shared_namesRepeated (p q : String) (n : Nat) {names : List String}
    (h : names.toFinset = distinctNames host q) :
    ((namesRepeated host p n).filter (names.contains ·)).length = n * (sharedNames host p q).card := by
  have hone : ((nameTokens host p).dedup.filter (names.contains ·)).length = (sharedNames host p q).card := by
    rw [← List.toFinset_card_of_nodup ((nameTokens host p).nodup_dedup.filter _)]
    refine congrArg Finset.card (Finset.ext fun name ↦ ?_)
    rw [sharedNames, ← h, Finset.mem_inter]
    simp [distinctNames]
  rw [namesRepeated, List.filter_flatten, List.length_flatten, List.map_replicate, List.map_replicate, hone,
    List.sum_replicate_nat]

/-- Two texts that hold these names so often. -/
theorem namesMatch_repeated (hD : host.Normalizes D) (p q : String) (m n : Nat) :
    namesMatch host (writtenNames (namesRepeated host p (m + 1))) (writtenNames (namesRepeated host q (n + 1))) =
        true ↔
      (distinctNames host p).Nonempty ∧ (distinctNames host q).Nonempty ∧
        min 2 (min ((m + 1) * (distinctNames host p).card) ((n + 1) * (distinctNames host q).card)) ≤
          (m + 1) * (sharedNames host p q).card := by
  rw [namesMatch_iff, nameTokens_writtenNames hD fun _ ↦ isName_of_mem_namesRepeated,
    nameTokens_writtenNames hD fun _ ↦ isName_of_mem_namesRepeated, length_namesRepeated, length_namesRepeated,
    length_shared_namesRepeated _ _ _ (toFinset_namesRepeated _ _), ← List.toFinset_nonempty_iff,
    ← List.toFinset_nonempty_iff, toFinset_namesRepeated, toFinset_namesRepeated]

/-- With one name in both and another on the left, the match depends on how often that one stands there. -/
theorem namesMatch_depends (hD : host.Normalizes D) {p q : String} (hshared : (sharedNames host p q).card = 1)
    (htwo : 2 ≤ (distinctNames host p).card) :
    namesMatch host (writtenNames (namesRepeated host p 1)) (writtenNames (namesRepeated host q 2)) = false ∧
      namesMatch host (writtenNames (namesRepeated host p 2)) (writtenNames (namesRepeated host q 2)) = true := by
  have hq : 1 ≤ (distinctNames host q).card := hshared ▸ Finset.card_le_card Finset.inter_subset_right
  constructor
  · rw [Bool.eq_false_iff, Ne, namesMatch_repeated hD p q 0 1, hshared]
    rintro ⟨-, -, hcount⟩
    omega
  · rw [namesMatch_repeated hD p q 1 1, hshared]
    exact ⟨Finset.card_pos.mp (by omega), Finset.card_pos.mp (by omega), by omega⟩

theorem distinctNames_repeated (hD : host.Normalizes D) (text : String) (n : Nat) :
    distinctNames host (writtenNames (namesRepeated host text (n + 1))) = distinctNames host text := by
  rw [distinctNames_written hD fun _ ↦ isName_of_mem_namesRepeated, toFinset_namesRepeated]

/-! ## When the match is one of sets -/

/-- Matching is symmetric, the same for names in another order and number and in another spelling, and takes
two different names in both, or all that one of the two has. -/
structure MatchesNames (host : Host) (D : CharacterDatabase) (p q : String) : Prop where
  symmetric : namesMatch host p q = namesMatch host q p
  rearranged : ∀ p' q', distinctNames host p' = distinctNames host p →
    distinctNames host q' = distinctNames host q →
      namesMatch host p' q' = namesMatch host p q ∧ namesMatch host q' p' = namesMatch host q p
  respelled : ∀ p' q', Respelled D p p' → Respelled D q q' → namesMatch host p' q' = namesMatch host p q
  shared : namesMatch host p q = true →
    min 2 (min (distinctNames host p).card (distinctNames host q).card) ≤ (sharedNames host p q).card

theorem CountsOnce.congr {p q p' q' : String} (h : CountsOnce host p q)
    (hp : distinctNames host p' = distinctNames host p) (hq : distinctNames host q' = distinctNames host q) :
    CountsOnce host p' q' ∧ sharedNames host p' q' = sharedNames host p q := by
  rw [CountsOnce, sharedNames, hp, hq]
  exact ⟨h, rfl⟩

theorem matchesNames_of_countsOnce (hD : host.Normalizes D) {p q : String} (h : CountsOnce host p q) :
    MatchesNames host D p q where
  symmetric := by rw [Bool.eq_iff_iff, h.namesMatch_iff, h.symm.namesMatch_iff, sharedNames_comm]
  rearranged := by
    intro p' q' hp hq
    obtain ⟨hcongr, hshared⟩ := h.congr hp hq
    constructor
    · rw [Bool.eq_iff_iff, hcongr.namesMatch_iff, h.namesMatch_iff, hshared]
    · rw [Bool.eq_iff_iff, hcongr.symm.namesMatch_iff, h.symm.namesMatch_iff, sharedNames_comm q',
        sharedNames_comm q, hshared]
  respelled := by
    intro p' q' hp hq
    rw [namesMatch, namesMatch, nameTokens_of_respelled hD hp, nameTokens_of_respelled hD hq]
  shared := by
    intro hmatch
    have hpos := Finset.card_pos.mpr (h.namesMatch_iff.mp hmatch)
    rcases h with h | ⟨hp, hq⟩ <;> omega

/-- **When names are matched as sets.**  They are unless the two texts have exactly one name in common and
one of them has another. -/
theorem names_matched_iff (hD : host.Normalizes D) (p q : String) :
    MatchesNames host D p q ↔ CountsOnce host p q := by
  refine ⟨fun h ↦ ?_, matchesNames_of_countsOnce hD⟩
  by_contra hone
  rw [CountsOnce, not_or, not_not] at hone
  obtain ⟨hshared, hnames⟩ := hone
  have hshared' : (sharedNames host q p).card = 1 := by rw [sharedNames_comm, hshared]
  have hp : 1 ≤ (distinctNames host p).card := hshared ▸ Finset.card_le_card Finset.inter_subset_left
  have hq : 1 ≤ (distinctNames host q).card := hshared ▸ Finset.card_le_card Finset.inter_subset_right
  by_cases htwo : 2 ≤ (distinctNames host p).card
  · obtain ⟨honce, htwice⟩ := namesMatch_depends hD hshared htwo
    rw [(h.rearranged _ _ (distinctNames_repeated hD p 0) (distinctNames_repeated hD q 1)).1] at honce
    rw [(h.rearranged _ _ (distinctNames_repeated hD p 1) (distinctNames_repeated hD q 1)).1, honce] at htwice
    exact Bool.false_ne_true htwice
  · obtain ⟨honce, htwice⟩ := namesMatch_depends hD hshared' (by omega)
    rw [(h.rearranged _ _ (distinctNames_repeated hD p 1) (distinctNames_repeated hD q 0)).2] at honce
    rw [(h.rearranged _ _ (distinctNames_repeated hD p 1) (distinctNames_repeated hD q 1)).2, honce] at htwice
    exact Bool.false_ne_true htwice

theorem names_matched_sample : MatchesNames spellingHost sampleDatabase "Adéyẹmi Obi" "OBI Adeyemi Obi" :=
  (names_matched_iff normalizes_spellingHost _ _).mpr (by decide +kernel)

/-- A name that is repeated counts twice on the left, and once on the right. -/
theorem repeated_name_matches : ¬ MatchesNames spellingHost sampleDatabase "Ada Ada Eze" "Ada Obi" :=
  fun h ↦ absurd h.symmetric (by decide +kernel)

end AjoCloud.Kyc
