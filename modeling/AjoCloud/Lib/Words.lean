import Mathlib.Data.List.Basic

/-!
# Words between separators

What a text has between its separators when the empty parts are left out.  `wordsOn_flatMap` is the rule
for a text that is translated letter by letter: it has the words of its translated words.
-/

namespace AjoCloud.Lib

variable {α β γ : Type*} {p : α → Bool} {q : β → Bool}

/-- The parts of the text between its separators that are not empty. -/
def wordsOn (p : α → Bool) (text : List α) : List (List α) :=
  (text.splitOnP p).filter fun word ↦ !word.isEmpty

@[simp] theorem wordsOn_nil : wordsOn p [] = [] := rfl

theorem wordsOn_append_cons {c : α} (h : p c = true) (xs ys : List α) :
    wordsOn p (xs ++ c :: ys) = wordsOn p xs ++ wordsOn p ys := by
  rw [wordsOn, List.splitOnP_append_cons xs ys h, List.filter_append]
  rfl

theorem wordsOn_cons {c : α} (h : p c = true) (ys : List α) : wordsOn p (c :: ys) = wordsOn p ys :=
  wordsOn_append_cons h [] ys

theorem wordsOn_append {cs : List α} (hne : cs ≠ []) (h : ∀ c ∈ cs, p c = true) (xs ys : List α) :
    wordsOn p (xs ++ (cs ++ ys)) = wordsOn p xs ++ wordsOn p ys := by
  have hfront : ∀ cs : List α, (∀ c ∈ cs, p c = true) → wordsOn p (cs ++ ys) = wordsOn p ys := by
    intro cs h
    induction cs with
    | nil => rfl
    | cons c cs ih =>
        rw [List.forall_mem_cons] at h
        rw [List.cons_append, wordsOn_cons h.1, ih h.2]
  cases cs with
  | nil => exact absurd rfl hne
  | cons c cs =>
      rw [List.forall_mem_cons] at h
      rw [List.cons_append, wordsOn_append_cons h.1, hfront cs h.2]

theorem wordsOn_singleton {word : List α} (hne : word ≠ []) (h : ∀ c ∈ word, p c = false) :
    wordsOn p word = [word] := by
  rw [wordsOn, List.splitOnP_eq_singleton h, List.filter_cons_of_pos (by simpa using hne), List.filter_nil]

/-- A text has no separators, or one between two texts. -/
theorem words_induction {motive : List α → Prop}
    (word : ∀ xs, (∀ c ∈ xs, p c = false) → motive xs)
    (separated : ∀ xs c ys, p c = true → motive xs → motive ys → motive (xs ++ c :: ys))
    (text : List α) : motive text := by
  induction hn : text.length using Nat.strongRecOn generalizing text with
  | ind n ih =>
      cases hfind : text.find? p with
      | none => exact word text fun c hc ↦ by simpa using List.find?_eq_none.mp hfind c hc
      | some c =>
          obtain ⟨hc, xs, ys, rfl, hxs⟩ := List.find?_eq_some_iff_append.mp hfind
          refine separated xs c ys hc (word xs fun d hd ↦ by simpa using hxs d hd) (ih ys.length ?_ ys rfl)
          rw [← hn, List.length_append, List.length_cons]
          omega

theorem not_of_mem_wordsOn {text word : List α} (h : word ∈ wordsOn p text) : ∀ c ∈ word, p c = false := by
  induction text using words_induction (p := p) with
  | word xs hxs =>
      by_cases hne : xs = []
      · subst hne
        cases h
      · rw [wordsOn_singleton hne hxs, List.mem_singleton] at h
        exact h ▸ hxs
  | separated xs c ys hc ihx ihy =>
      rw [wordsOn_append_cons hc, List.mem_append] at h
      exact h.elim ihx ihy

/-- Where separators become separators, a text that is translated letter by letter has the words of its
translated words. -/
theorem wordsOn_flatMap {k : α → List β} (h : ∀ c, p c = true → k c ≠ [] ∧ ∀ d ∈ k c, q d = true)
    (text : List α) :
    wordsOn q (text.flatMap k) = (wordsOn p text).flatMap fun word ↦ wordsOn q (word.flatMap k) := by
  induction text using words_induction (p := p) with
  | word xs hxs =>
      by_cases hne : xs = []
      · subst hne
        rfl
      · rw [wordsOn_singleton hne hxs, List.flatMap_singleton]
  | separated xs c ys hc ihx ihy =>
      rw [List.flatMap_append, List.flatMap_cons, wordsOn_append (h c hc).1 (h c hc).2,
        wordsOn_append_cons hc, List.flatMap_append, ihx, ihy]

/-- A translation that keeps the separators apart translates the words. -/
theorem wordsOn_map {f : α → β} (h : ∀ c, q (f c) = p c) (text : List α) :
    wordsOn q (text.map f) = (wordsOn p text).map (List.map f) := by
  induction text using words_induction (p := p) with
  | word xs hxs =>
      by_cases hne : xs = []
      · subst hne
        rfl
      · have hwords : ∀ d ∈ xs.map f, q d = false := by simpa [h] using hxs
        rw [wordsOn_singleton hne hxs, wordsOn_singleton (by simpa using hne) hwords, List.map_singleton]
  | separated xs c ys hc ihx ihy =>
      have hsep : q (f c) = true := (h c).trans hc
      rw [List.map_append, List.map_cons, wordsOn_append_cons hsep, wordsOn_append_cons hc, List.map_append,
        ihx, ihy]

/-- Which separators stand between the words does not matter. -/
theorem wordsOn_map_separators {f : α → α} (hsep : ∀ c, p c = true → p (f c) = true)
    (hkept : ∀ c, p c = false → f c = c) (text : List α) : wordsOn p (text.map f) = wordsOn p text := by
  have hsame : ∀ c, p (f c) = p c := by
    intro c
    cases hc : p c with
    | true => exact hsep c hc
    | false => rw [hkept c hc, hc]
  have hwords : ∀ word ∈ wordsOn p text, word.map f = id word := by
    intro word hword
    have hnot := not_of_mem_wordsOn hword
    rw [List.map_congr_left fun c hc ↦ hkept c (hnot c hc), List.map_id', id]
  rw [wordsOn_map hsame, List.map_congr_left hwords, List.map_id]

/-- The words that are written one after the other with a separator behind each are read back. -/
theorem wordsOn_written {c : α} (hc : p c = true) {words : List (List α)}
    (h : ∀ word ∈ words, word ≠ [] ∧ ∀ c ∈ word, p c = false) :
    wordsOn p (words.flatMap (· ++ [c])) = words := by
  induction words with
  | nil => rfl
  | cons word words ih =>
      rw [List.forall_mem_cons] at h
      rw [List.flatMap_cons, List.append_assoc, List.singleton_append, wordsOn_append_cons hc,
        wordsOn_singleton h.1.1 h.1.2, ih h.2]
      rfl

/-- A test that the empty part fails has only the words to test. -/
theorem filter_map_splitOnP {f : List α → γ} {g : γ → Bool} (h : g (f []) = false) (text : List α) :
    ((text.splitOnP p).map f).filter g = ((wordsOn p text).map f).filter g := by
  rw [wordsOn, List.filter_map, List.filter_map, List.filter_filter]
  refine congrArg (List.map f) (List.filter_congr fun word _ ↦ ?_)
  cases word with
  | nil => simpa using h
  | cons c word => simp

end AjoCloud.Lib
