import AjoCloud.Kyc.Spelling

/-!
# Matching addresses

The laws of `compareAddresses`.  Nothing but the sets of words in the two lines tells.
-/

namespace AjoCloud.Kyc

open Lib

variable {host : Host} {D : CharacterDatabase}

/-! ## Words -/

/-- What stands between the words that `tokens` reads. -/
def betweenTokens (c : Char) : Bool := !(c.isLower || c.isDigit)

theorem separates_betweenTokens : Separates betweenTokens where
  blank := rfl
  beyond c h := by
    rw [betweenTokens, Bool.not_eq_true', Bool.or_eq_false_iff, Bool.eq_false_iff, Bool.eq_false_iff, Ne, Ne,
      isLower_iff_toNat, Char.isDigit_iff_toNat]
    refine ⟨by omega, ?_⟩
    rintro ⟨-, hhi⟩
    exact absurd (le_trans h hhi) (by decide)

/-- `ABBREVIATIONS[token] ?? token`. -/
def expand (token : List Char) : String :=
  (ABBREVIATIONS.lookup (String.ofList token)).getD (String.ofList token)

/-- The test of the words that are kept. -/
def isKept (token : String) : Bool := 0 < token.length && !NOISE.contains token

/-- The words that are kept of what is left of a text. -/
def keptWords (text : List Char) : List String := ((wordsOn betweenTokens text).map expand).filter isKept

theorem tokens_some (h : host.Normalizes D) (text : String) :
    tokens host (some text) = keptWords (text.toList.flatMap (letters D betweenTokens)) := by
  by_cases hempty : text = ""
  · subst hempty
    rfl
  · have hsome : (some text).filter (· ≠ "") = some text := by simp [hempty]
    rw [tokens, hsome, keptWords, ← wordsOn_foldMarks h separates_betweenTokens]
    exact filter_map_splitOnP rfl _

/-- A character that is nothing but separators when it is decomposed. -/
def isSeparator (D : CharacterDatabase) (c : Char) : Bool :=
  !(letters D betweenTokens c).isEmpty && (letters D betweenTokens c).all betweenTokens

/-- The words of a line, as they are written. -/
def lineWords (D : CharacterDatabase) (text : String) : List (List Char) :=
  wordsOn (isSeparator D) text.toList

/-- The words of a field that may be empty. -/
def fieldWords (D : CharacterDatabase) (value : Option String) : List (List Char) :=
  value.elim [] (lineWords D)

/-- The tokens of a word. -/
def wordTokens (D : CharacterDatabase) (word : List Char) : List String :=
  keptWords (word.flatMap (letters D betweenTokens))

/-- The tokens of a text are those of its words. -/
theorem tokens_eq (h : host.Normalizes D) (value : Option String) :
    tokens host value = (fieldWords D value).flatMap (wordTokens D) := by
  cases value with
  | none => rfl
  | some text =>
      have hsep : ∀ c, isSeparator D c = true → letters D betweenTokens c ≠ [] ∧
          ∀ d ∈ letters D betweenTokens c, betweenTokens d = true := by
        intro c hc
        simpa [isSeparator] using hc
      rw [tokens_some h, keptWords, wordsOn_flatMap hsep, List.map_flatMap, List.filter_flatMap]
      rfl

/-! ## Lines that are rewritten -/

/-- Another way to write the words of a line. -/
inductive Rewrites : List (List Char) → List (List Char) → Prop
  | order {words words' : List (List Char)} (h : words.Perm words') : Rewrites words words'
  | letterCase {words words' : List (List Char)}
      (h : words.map (List.map Char.toLower) = words'.map (List.map Char.toLower)) : Rewrites words words'
  | abbreviation (us vs : List (List Char)) {short full : String} (h : (short, full) ∈ ABBREVIATIONS) :
      Rewrites (us ++ short.toList :: vs) (us ++ full.toList :: vs)
  | noise (us vs : List (List Char)) {word : String} (h : word ∈ NOISE) :
      Rewrites (us ++ vs) (us ++ word.toList :: vs)

/-- The lines have the same words, up to the ways to write them. -/
def Rewritten (D : CharacterDatabase) (line line' : String) : Prop :=
  Relation.EqvGen Rewrites (lineWords D line) (lineWords D line')

theorem wordTokens_toLower (word : List Char) : wordTokens D (word.map Char.toLower) = wordTokens D word := by
  rw [wordTokens, wordTokens, List.flatMap_map]
  exact congrArg keptWords (List.flatMap_congr fun c _ ↦ letters_toLower D betweenTokens c)

theorem flatMap_wordTokens_toLower (words : List (List Char)) :
    (words.map (List.map Char.toLower)).flatMap (wordTokens D) = words.flatMap (wordTokens D) := by
  rw [List.flatMap_map]
  exact List.flatMap_congr fun word _ ↦ wordTokens_toLower word

theorem letters_of_not_betweenTokens {c : Char} (h : betweenTokens c = false) :
    letters D betweenTokens c = [c] := by
  have hrange : c.toNat < 128 ∧ c.toLower = c := by
    rw [betweenTokens, Bool.not_eq_false', Bool.or_eq_true, isLower_iff_toNat, Char.isDigit_iff_toNat] at h
    rcases h with ⟨hlo, hhi⟩ | ⟨hlo, hhi⟩
    · exact ⟨by omega, toLower_of_le (by omega)⟩
    · have hnine : c.toNat ≤ 57 := hhi
      refine ⟨by omega, ?_⟩
      rcases toLower_cases c with hc | hc
      · exact hc.1
      · omega
  rw [letters_of_ascii hrange.1, foldChar, isMark_of_ascii hrange.1, hrange.2, if_neg Bool.false_ne_true,
    if_neg (by simp [h])]

/-- A word of small letters and digits is one token, when it is kept. -/
theorem wordTokens_of_small {word : List Char} (hne : word ≠ []) (h : ∀ c ∈ word, betweenTokens c = false) :
    wordTokens D word = [expand word].filter isKept := by
  have hletters : word.flatMap (letters D betweenTokens) = word := by
    rw [List.flatMap_congr fun c hc ↦ letters_of_not_betweenTokens (h c hc), List.flatMap_singleton']
  rw [wordTokens, hletters, keptWords, wordsOn_singleton hne h, List.map_singleton]

/-- An abbreviation is read as its full word. -/
theorem wordTokens_abbreviation {short full : String} (h : (short, full) ∈ ABBREVIATIONS) :
    wordTokens D short.toList = wordTokens D full.toList := by
  have hsmall : ∀ entry ∈ ABBREVIATIONS,
      (entry.1.toList ≠ [] ∧ (entry.1.toList.all fun c ↦ betweenTokens c = false) = true) ∧
        (entry.2.toList ≠ [] ∧ (entry.2.toList.all fun c ↦ betweenTokens c = false) = true) ∧
          expand entry.1.toList = expand entry.2.toList := by decide
  obtain ⟨hshort, hfull, hsame⟩ := hsmall _ h
  rw [wordTokens_of_small hshort.1 (forall_mem_of_all hshort.2),
    wordTokens_of_small hfull.1 (forall_mem_of_all hfull.2), hsame]

/-- Noise is not read. -/
theorem wordTokens_noise {word : String} (h : word ∈ NOISE) : wordTokens D word.toList = [] := by
  have hnoise : ∀ word ∈ NOISE, word.toList ≠ [] ∧ (word.toList.all fun c ↦ betweenTokens c = false) = true ∧
      [expand word.toList].filter isKept = [] := by decide
  obtain ⟨hne, hsmall, hfiltered⟩ := hnoise _ h
  rw [wordTokens_of_small hne (forall_mem_of_all hsmall), hfiltered]

/-- The tokens are the same ones, though not in the same order. -/
theorem Rewrites.perm {words words' : List (List Char)} (h : Rewrites words words') :
    (words.flatMap (wordTokens D)).Perm (words'.flatMap (wordTokens D)) := by
  cases h with
  | order h => exact h.flatMap_right _
  | letterCase h => rw [← flatMap_wordTokens_toLower, h, flatMap_wordTokens_toLower]
  | abbreviation us vs h =>
      rw [List.flatMap_append, List.flatMap_append, List.flatMap_cons, List.flatMap_cons,
        wordTokens_abbreviation h]
  | noise us vs h =>
      rw [List.flatMap_append, List.flatMap_append, List.flatMap_cons, wordTokens_noise h, List.nil_append]

theorem Rewritten.perm (hD : host.Normalizes D) {line line' : String} (h : Rewritten D line line') :
    (tokens host (some line)).Perm (tokens host (some line')) := by
  have hclosure : ∀ words words', Relation.EqvGen Rewrites words words' →
      (words.flatMap (wordTokens D)).Perm (words'.flatMap (wordTokens D)) := by
    intro words words' h
    induction h with
    | rel words words' h => exact h.perm
    | refl words => exact List.Perm.refl _
    | symm words words' _ ih => exact ih.symm
    | trans words words' words'' _ _ ih ih' => exact ih.trans ih'
  rw [tokens_eq hD, tokens_eq hD]
  exact hclosure _ _ h

/-- Blanks and every other run of separators only stand between words. -/
theorem lineWords_append {cs : List Char} (hne : cs ≠ []) (h : ∀ c ∈ cs, isSeparator D c = true)
    (text text' : String) :
    lineWords D (text ++ (String.ofList cs ++ text')) = lineWords D text ++ lineWords D text' := by
  rw [lineWords, String.toList_append, String.toList_append, String.toList_ofList]
  exact wordsOn_append hne h _ _

theorem rewritten_of_separators {cs ds : List Char} (hcs : cs ≠ []) (hds : ds ≠ [])
    (h : ∀ c ∈ cs ++ ds, isSeparator D c = true) (text text' : String) :
    Rewritten D (text ++ (String.ofList cs ++ text')) (text ++ (String.ofList ds ++ text')) := by
  rw [List.forall_mem_append] at h
  rw [Rewritten, lineWords_append hcs h.1, lineWords_append hds h.2]
  exact .refl _

theorem rewritten_of_letterCase {text text' : String}
    (h : text.toList.map Char.toLower = text'.toList.map Char.toLower) : Rewritten D text text' := by
  have hsep : ∀ c, isSeparator D c.toLower = isSeparator D c := fun c ↦ by
    rw [isSeparator, isSeparator, letters_toLower]
  refine .rel _ _ (.letterCase ?_)
  rw [lineWords, lineWords, ← wordsOn_map hsep, ← wordsOn_map hsep, h]

/-! ## Lines of plain words -/

/-- A word of small letters and digits. -/
def IsPlain (word : List Char) : Prop := word ≠ [] ∧ ∀ c ∈ word, betweenTokens c = false

/-- The line of the words, with a blank behind each. -/
def plainLine (words : List (List Char)) : String := String.ofList (words.flatMap (· ++ [' ']))

theorem tokens_plainLine (hD : host.Normalizes D) {words : List (List Char)}
    (h : ∀ word ∈ words, IsPlain word) :
    tokens host (some (plainLine words)) = (words.map expand).filter isKept := by
  have hblank : letters D betweenTokens ' ' = [' '] := letters_of_ascii (by decide)
  have hsame : ∀ c ∈ words.flatMap (· ++ [' ']), letters D betweenTokens c = [c] := by
    intro c hc
    obtain ⟨word, hword, hc⟩ := List.mem_flatMap.mp hc
    rcases List.mem_append.mp hc with hc | hc
    · exact letters_of_not_betweenTokens ((h word hword).2 c hc)
    · rw [List.mem_singleton.mp hc, hblank]
  rw [tokens_some hD, plainLine, String.toList_ofList, List.flatMap_congr hsame, List.flatMap_singleton',
    keptWords, wordsOn_written rfl h]

theorem mem_of_lookup {text full : String} (h : ABBREVIATIONS.lookup text = some full) :
    (text, full) ∈ ABBREVIATIONS := by
  obtain ⟨us, vs, heq, -⟩ := List.lookup_eq_some_iff.mp h
  exact heq ▸ List.mem_append_right us List.mem_cons_self

/-- What has a digit is no abbreviation and no noise. -/
theorem hasDigit_expand (word : List Char) :
    (hasDigit (expand word) && isKept (expand word)) = hasDigit (String.ofList word) ∧
      (hasDigit (String.ofList word) = true → expand word = String.ofList word) := by
  have hletters : ∀ entry ∈ ABBREVIATIONS, hasDigit entry.1 = false ∧ hasDigit entry.2 = false := by decide
  have hnoise : ∀ word ∈ NOISE, hasDigit word = false := by decide
  cases hlookup : ABBREVIATIONS.lookup (String.ofList word) with
  | some full =>
      obtain ⟨hshort, hfull⟩ := hletters _ (mem_of_lookup hlookup)
      rw [expand, hlookup, Option.getD_some, hfull, hshort]
      exact ⟨rfl, nofun⟩
  | none =>
      rw [expand, hlookup, Option.getD_none]
      refine ⟨?_, fun _ ↦ rfl⟩
      cases hdigit : hasDigit (String.ofList word) with
      | false => rfl
      | true =>
          have hkept : String.ofList word ∉ NOISE := fun hmem ↦ by
            rw [hnoise _ hmem] at hdigit
            cases hdigit
          have hsome : word ≠ [] := by
            rintro rfl
            cases hdigit
          simpa [isKept, List.length_pos_iff, hkept] using hsome

/-- The numbers in a line of plain words are those of its words that have a digit. -/
theorem numbers_plainLine (hD : host.Normalizes D) {words : List (List Char)}
    (h : ∀ word ∈ words, IsPlain word) :
    numbers host (plainLine words) = (words.map String.ofList).filter hasDigit := by
  have hsame : words.filter ((fun token ↦ hasDigit token && isKept token) ∘ expand) =
      words.filter (hasDigit ∘ String.ofList) := List.filter_congr fun word _ ↦ (hasDigit_expand word).1
  rw [numbers, tokens_plainLine hD h, List.filter_filter, List.filter_map, List.filter_map, hsame]
  exact List.map_congr_left fun word hword ↦ (hasDigit_expand word).2 (List.mem_filter.mp hword).2

/-- A word of the name of a state: it is read as it is, and is not "state". -/
def NamesState (word : List Char) : Prop :=
  IsPlain word ∧ expand word = String.ofList word ∧ isKept (String.ofList word) = true ∧
    String.ofList word ≠ "state"

theorem normaliseState_plainLine (hD : host.Normalizes D) {words : List (List Char)}
    (h : ∀ word ∈ words, NamesState word) {name : String}
    (hname : " ".intercalate (words.map String.ofList) = name) :
    normaliseState host (some (plainLine words)) =
      if name = "fct" ∨ name = "federal capital territory" ∨ name = "abuja" then "fct" else name := by
  have hread : tokens host (some (plainLine words)) = words.map String.ofList := by
    rw [tokens_plainLine hD fun word hword ↦ (h word hword).1,
      List.map_congr_left fun word hword ↦ (h word hword).2.1]
    refine List.filter_eq_self.mpr fun token htoken ↦ ?_
    obtain ⟨word, hword, rfl⟩ := List.mem_map.mp htoken
    exact (h word hword).2.2.1
  have hall : (words.map String.ofList).filter (· ≠ "state") = words.map String.ofList := by
    refine List.filter_eq_self.mpr fun token htoken ↦ ?_
    obtain ⟨word, hword, rfl⟩ := List.mem_map.mp htoken
    exact decide_eq_true (h word hword).2.2.2
  rw [normaliseState, hread, hall, hname]

/-! ## The comparison -/

/-- Everything that was typed. -/
def typedTokens (host : Host) (submitted : PostalAddress) : List String :=
  tokens host (some submitted.line) ++ tokens host submitted.city ++ tokens host submitted.lga

/-- The different words on the record that are no numbers. -/
def expectedTokens (host : Host) (registered : PostalAddress) : List String :=
  (tokens host (some registered.line)).dedup.filter (!hasDigit ·)

/-- How many of them were typed. -/
def sharedTokens (host : Host) (submitted registered : PostalAddress) : Nat :=
  ((expectedTokens host registered).filter ((typedTokens host submitted).contains ·)).length

theorem compareAddresses_eq_none_iff {submitted registered : PostalAddress} :
    compareAddresses host submitted registered = none ↔
      (normaliseState host registered.state = "" ∨
          normaliseState host submitted.state = normaliseState host registered.state) ∧
        (∀ number ∈ numbers host registered.line, number ∈ numbers host submitted.line) ∧
          (expectedTokens host registered).length * 3 ≤ sharedTokens host submitted registered * 5 := by
  rw [compareAddresses]
  split
  · next hstate =>
      refine iff_of_false (by simp) ?_
      rintro ⟨hempty | hsame, -⟩
      · exact hstate.1 hempty
      · exact hstate.2 hsame
  · next hstate =>
      split
      · next hnumber =>
          refine iff_of_false (by simp) ?_
          rintro ⟨-, hall, -⟩
          obtain ⟨number, hnumber, hmissing⟩ := List.any_eq_true.mp hnumber
          simp [hall number hnumber] at hmissing
      · next hnumber =>
          split
          · next hstreet =>
              refine iff_of_false (by simp) ?_
              rintro ⟨-, -, hshared⟩
              exact absurd hstreet.2 (Nat.not_lt.mpr hshared)
          · next hstreet =>
              refine iff_of_true rfl ⟨?_, ?_, ?_⟩
              · by_cases hempty : normaliseState host registered.state = ""
                · exact .inl hempty
                · exact .inr (by_contra fun hne ↦ hstate ⟨hempty, hne⟩)
              · intro number hmem
                by_contra hmissing
                exact hnumber (List.any_eq_true.mpr ⟨number, hmem, by simpa using hmissing⟩)
              · rcases Nat.eq_zero_or_pos (expectedTokens host registered).length with hnone | hsome
                · rw [hnone, Nat.zero_mul]
                  exact Nat.zero_le _
                · exact Nat.not_lt.mp fun hfew ↦ hstreet ⟨hsome, hfew⟩

theorem compareAddresses_self (address : PostalAddress) : compareAddresses host address address = none := by
  refine compareAddresses_eq_none_iff.mpr ⟨.inr rfl, fun _ hnumber ↦ hnumber, ?_⟩
  have hall : ∀ token ∈ expectedTokens host address, (typedTokens host address).contains token = true := by
    intro token htoken
    have hline : token ∈ tokens host (some address.line) := List.mem_dedup.mp (List.mem_filter.mp htoken).1
    rw [List.contains_iff_mem, typedTokens, List.append_assoc]
    exact List.mem_append_left _ hline
  rw [sharedTokens, List.filter_eq_self.mpr hall]
  omega

/-- What has more words typed matches where it matched. -/
theorem compareAddresses_mono {submitted typed registered : PostalAddress}
    (hstate : typed.state = submitted.state)
    (hline : tokens host (some submitted.line) ⊆ tokens host (some typed.line))
    (hcity : tokens host submitted.city ⊆ tokens host typed.city)
    (hlga : tokens host submitted.lga ⊆ tokens host typed.lga)
    (h : compareAddresses host submitted registered = none) : compareAddresses host typed registered = none := by
  rw [compareAddresses_eq_none_iff] at h ⊢
  obtain ⟨hsame, hnumbers, hshared⟩ := h
  refine ⟨hstate ▸ hsame, fun number hmem ↦ ?_, ?_⟩
  · obtain ⟨htoken, hdigit⟩ := List.mem_filter.mp (hnumbers number hmem)
    exact List.mem_filter.mpr ⟨hline htoken, hdigit⟩
  · have htyped : ∀ token, (typedTokens host submitted).contains token = true →
        (typedTokens host typed).contains token = true := by
      intro token htoken
      rw [List.contains_iff_mem, typedTokens, List.mem_append, List.mem_append] at htoken ⊢
      exact htoken.imp (Or.imp (@hline token) (@hcity token)) (@hlga token)
    have hmore := (List.monotone_filter_right (expectedTokens host registered) htyped).length_le
    exact le_trans hshared (Nat.mul_le_mul_right 5 hmore)

theorem compareAddresses_perm_typed {submitted : PostalAddress} {line : String}
    (h : (tokens host (some submitted.line)).Perm (tokens host (some line))) (registered : PostalAddress) :
    compareAddresses host { submitted with line := line } registered =
      compareAddresses host submitted registered := by
  have hnumbers : ∀ number, (numbers host line).contains number =
      (numbers host submitted.line).contains number := fun number ↦ (h.filter hasDigit).symm.contains_eq
  have htyped : ∀ token, (tokens host (some line) ++ tokens host submitted.city ++
      tokens host submitted.lga).contains token = (tokens host (some submitted.line) ++
        tokens host submitted.city ++ tokens host submitted.lga).contains token :=
    fun token ↦ ((h.append_right _).append_right _).symm.contains_eq
  simp only [compareAddresses, hnumbers, htyped]

theorem compareAddresses_perm_registered {registered : PostalAddress} {line : String}
    (h : (tokens host (some registered.line)).Perm (tokens host (some line))) (submitted : PostalAddress) :
    compareAddresses host submitted { registered with line := line } =
      compareAddresses host submitted registered := by
  have hexpected : (expectedTokens host { registered with line := line }).Perm
      (expectedTokens host registered) := h.symm.dedup.filter _
  have hshared : sharedTokens host submitted { registered with line := line } =
      sharedTokens host submitted registered := (hexpected.filter _).length_eq
  have hnumbers : (numbers host line).any (!(numbers host submitted.line).contains ·) =
      (numbers host registered.line).any (!(numbers host submitted.line).contains ·) :=
    (h.filter hasDigit).symm.any_eq
  simp only [expectedTokens, sharedTokens] at hexpected hshared
  simp only [typedTokens] at hshared
  simp only [compareAddresses, hnumbers, hexpected.length_eq, hshared]

/-! ## The laws -/

/-- The comparison is a sound one-way match.  The last two laws say of plain words what the numbers of a
line are, and what a state is normalised to. -/
structure ComparesSoundly (host : Host) (D : CharacterDatabase) : Prop where
  state : ∀ submitted registered, normaliseState host registered.state ≠ "" →
    normaliseState host submitted.state ≠ normaliseState host registered.state →
      compareAddresses host submitted registered ≠ none
  number : ∀ submitted registered, ∀ number ∈ numbers host registered.line,
    number ∉ numbers host submitted.line → compareAddresses host submitted registered ≠ none
  itself : ∀ address, compareAddresses host address address = none
  added : ∀ submitted typed registered, typed.state = submitted.state →
    (lineWords D submitted.line).Sublist (lineWords D typed.line) →
      (fieldWords D submitted.city).Sublist (fieldWords D typed.city) →
        (fieldWords D submitted.lga).Sublist (fieldWords D typed.lga) →
          compareAddresses host submitted registered = none → compareAddresses host typed registered = none
  typed : ∀ submitted registered line, Rewritten D submitted.line line →
    compareAddresses host { submitted with line := line } registered =
      compareAddresses host submitted registered
  registered : ∀ submitted registered line, Rewritten D registered.line line →
    compareAddresses host submitted { registered with line := line } =
      compareAddresses host submitted registered
  letterCase : ∀ line line' : String, line.toList.map Char.toLower = line'.toList.map Char.toLower →
    Rewritten D line line'
  separators : ∀ cs ds, cs ≠ [] → ds ≠ [] → (∀ c ∈ cs ++ ds, isSeparator D c = true) → ∀ front rest,
    Rewritten D (front ++ (String.ofList cs ++ rest)) (front ++ (String.ofList ds ++ rest))
  numbers : ∀ line words, (∀ word ∈ words, IsPlain word) → Rewritten D line (plainLine words) →
    (numbers host line).Perm ((words.map String.ofList).filter hasDigit)
  states : ∀ words name, (∀ word ∈ words, NamesState word) →
    " ".intercalate (words.map String.ofList) = name → normaliseState host (some (plainLine words)) =
      if name = "fct" ∨ name = "federal capital territory" ∨ name = "abuja" then "fct" else name

/-- What has more words has more tokens. -/
theorem tokens_subset (hD : host.Normalizes D) {value value' : Option String}
    (h : (fieldWords D value).Sublist (fieldWords D value')) : tokens host value ⊆ tokens host value' := by
  rw [tokens_eq hD, tokens_eq hD]
  intro token htoken
  obtain ⟨word, hword, hmem⟩ := List.mem_flatMap.mp htoken
  exact List.mem_flatMap.mpr ⟨word, h.subset hword, hmem⟩

/-- **Addresses are compared soundly.** -/
theorem addresses_compared_soundly (hD : host.Normalizes D) : ComparesSoundly host D where
  state submitted registered hknown hother hmatch := by
    rcases (compareAddresses_eq_none_iff.mp hmatch).1 with hempty | hsame
    · exact hknown hempty
    · exact hother hsame
  number submitted registered number hnumber hmissing hmatch :=
    hmissing ((compareAddresses_eq_none_iff.mp hmatch).2.1 number hnumber)
  itself := compareAddresses_self
  added submitted typed registered hstate hline hcity hlga hmatch := by
    have hlines : tokens host (some submitted.line) ⊆ tokens host (some typed.line) := tokens_subset hD hline
    exact compareAddresses_mono hstate hlines (tokens_subset hD hcity) (tokens_subset hD hlga) hmatch
  typed submitted registered line h := compareAddresses_perm_typed (h.perm hD) registered
  registered submitted registered line h := compareAddresses_perm_registered (h.perm hD) submitted
  letterCase _ _ h := rewritten_of_letterCase h
  separators _ _ hcs hds h := rewritten_of_separators hcs hds h
  numbers line words hwords h := (numbers_plainLine hD hwords) ▸ (h.perm hD).filter hasDigit
  states _ _ hwords hname := normaliseState_plainLine hD hwords hname

/-- The town after the line leaves the match as it is. -/
theorem addresses_compared_sample :
    compareAddresses spellingHost ⟨"No. 5 Allen Ave, Ikeja", none, none, some "Lagos State"⟩
      ⟨"5 ALLEN AVENUE", none, none, some "Lagos"⟩ = none :=
  (addresses_compared_soundly normalizes_spellingHost).added
    ⟨"No. 5 Allen Ave", none, none, some "Lagos State"⟩ _ _ rfl (by decide +kernel) (List.Sublist.refl _)
    (List.Sublist.refl _) (by decide +kernel)

end AjoCloud.Kyc
