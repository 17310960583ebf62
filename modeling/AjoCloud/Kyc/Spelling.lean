import AjoCloud.Kyc.Policy
import AjoCloud.Lib.Unicode
import AjoCloud.Lib.Words
import Mathlib.Data.List.Dedup
import Mathlib.Logic.Relation

/-!
# The spelling of names and addresses

What `nameTokens` and `tokens` make of a text, letter by letter.  Both decompose it, drop the marks and
split what is left in lower case, so that they read the words of its translation by `letters`.
-/

namespace AjoCloud.Kyc

open Lib

/-- The host decomposes texts as the database says. -/
def Host.Normalizes (host : Host) (D : CharacterDatabase) : Prop :=
  ∀ text, host.normalizeNFD text = String.ofList (D.nfd text.toList)

variable {host : Host} {D : CharacterDatabase} {sep : Char → Bool}

/-- What is left of a decomposed character: nothing of a mark, a blank of a separator. -/
def foldChar (sep : Char → Bool) (c : Char) : List Char :=
  if isMark c then [] else if sep c.toLower then [' '] else [c.toLower]

/-- What is left of a character. -/
def letters (D : CharacterDatabase) (sep : Char → Bool) (c : Char) : List Char :=
  (D.decompose c).flatMap (foldChar sep)

/-- A set of separators that beyond ASCII takes everything. -/
structure Separates (sep : Char → Bool) : Prop where
  blank : sep ' ' = true
  beyond : ∀ c : Char, 128 ≤ c.toNat → sep c = true

theorem foldChar_of_beyond (hsep : Separates sep) {c : Char} (h : 128 ≤ c.toNat) :
    foldChar sep c = [] ∨ foldChar sep c = [' '] := by
  rw [foldChar]
  split
  · exact .inl rfl
  · rw [toLower_of_le (le_trans (by decide) h), if_pos (hsep.beyond c h)]
    exact .inr rfl

/-- Characters beyond ASCII are not told apart. -/
theorem foldChar_comm (hsep : Separates sep) (c d : Char) (hc : 128 ≤ c.toNat) (hd : 128 ≤ d.toNat) :
    foldChar sep c ++ foldChar sep d = foldChar sep d ++ foldChar sep c := by
  rcases foldChar_of_beyond hsep hc with h | h <;> rcases foldChar_of_beyond hsep hd with h' | h' <;>
    rw [h, h'] <;> rfl

/-- The words of a text are those of what is left of its characters. -/
theorem wordsOn_foldMarks (h : host.Normalizes D) (hsep : Separates sep) (text : String) :
    wordsOn sep (foldMarks host text) = wordsOn sep (text.toList.flatMap (letters D sep)) := by
  have hfold : ∀ cs : List Char, ((cs.filter fun c ↦ !isMark c).map Char.toLower).map
      (fun c ↦ if sep c then ' ' else c) = cs.flatMap (foldChar sep) := by
    intro cs
    induction cs with
    | nil => rfl
    | cons c cs ih =>
        rw [List.flatMap_cons, ← ih, foldChar]
        cases hmark : isMark c with
        | true => simp [hmark]
        | false => cases hc : sep c.toLower <;> simp [hmark, hc]
  calc wordsOn sep (foldMarks host text)
      = wordsOn sep ((foldMarks host text).map fun c ↦ if sep c then ' ' else c) :=
        (wordsOn_map_separators (fun c hc ↦ by rw [if_pos hc]; exact hsep.blank)
          (fun c hc ↦ by rw [if_neg (by simp [hc])]) _).symm
    _ = wordsOn sep ((D.nfd text.toList).flatMap (foldChar sep)) := by
        rw [foldMarks, h, String.toList_ofList]
        exact congrArg _ (hfold _)
    _ = wordsOn sep (text.toList.flatMap (letters D sep)) :=
        congrArg _ (D.flatMap_nfd (foldChar_comm hsep) _)

/-! ## Characters that are left as they are -/

theorem letters_of_ascii {c : Char} (h : c.toNat < 128) : letters D sep c = foldChar sep c := by
  rw [letters, D.decompose_ascii c h, List.flatMap_singleton]

theorem letters_of_mark {c : Char} (h : isMark c = true) : letters D sep c = [] := by
  rw [letters, List.flatMap_eq_nil_iff]
  intro d hd
  rw [foldChar, if_pos (D.decompose_mark c h d hd)]

theorem isMark_of_ascii {c : Char} (h : c.toNat < 128) : isMark c = false := by
  rw [isMark, Bool.and_eq_false_iff, decide_eq_false_iff_not]
  omega

/-- The case of an ASCII letter is not told. -/
theorem letters_toLower (D : CharacterDatabase) (sep : Char → Bool) (c : Char) :
    letters D sep c.toLower = letters D sep c := by
  rcases toLower_cases c with ⟨hc, -⟩ | hc
  · rw [hc]
  · have hascii : c.toNat < 128 := by omega
    have hlower : c.toLower.toNat < 128 := by omega
    rw [letters_of_ascii hascii, letters_of_ascii hlower, foldChar, foldChar, isMark_of_ascii hascii,
      isMark_of_ascii hlower, toLower_toLower]

/-! ## Other spellings -/

/-- A text in another spelling: a letter in the other case, a combining mark more, or a character in its
decomposed form. -/
inductive Respells (D : CharacterDatabase) : List Char → List Char → Prop
  | letterCase (xs ys : List Char) {c d : Char} (h : c.toLower = d.toLower) :
      Respells D (xs ++ c :: ys) (xs ++ d :: ys)
  | mark (xs ys : List Char) {m : Char} (h : isMark m = true) : Respells D (xs ++ ys) (xs ++ m :: ys)
  | decomposed (xs ys : List Char) (c : Char) : Respells D (xs ++ c :: ys) (xs ++ (D.decompose c ++ ys))

/-- The texts are spellings of each other. -/
def Respelled (D : CharacterDatabase) (text text' : String) : Prop :=
  Relation.EqvGen (Respells D) text.toList text'.toList

theorem flatMap_letters_decompose (D : CharacterDatabase) (sep : Char → Bool) (c : Char) :
    (D.decompose c).flatMap (letters D sep) = letters D sep c :=
  List.flatMap_congr fun d hd ↦ by
    rw [letters, D.decompose_decomposed c d hd, List.flatMap_singleton]

theorem Respells.flatMap_letters {xs ys : List Char} (h : Respells D xs ys) :
    xs.flatMap (letters D sep) = ys.flatMap (letters D sep) := by
  cases h with
  | @letterCase xs ys c d h =>
      rw [List.flatMap_append, List.flatMap_cons, List.flatMap_append, List.flatMap_cons,
        ← letters_toLower D sep c, h, letters_toLower]
  | @mark xs ys m h =>
      rw [List.flatMap_append, List.flatMap_append, List.flatMap_cons, letters_of_mark h, List.nil_append]
  | @decomposed xs ys c =>
      rw [List.flatMap_append, List.flatMap_cons, List.flatMap_append, List.flatMap_append,
        flatMap_letters_decompose]

/-- What is left of a text is the same in every spelling. -/
theorem Respelled.flatMap_letters {text text' : String} (h : Respelled D text text') :
    text.toList.flatMap (letters D sep) = text'.toList.flatMap (letters D sep) := by
  have hclosure : ∀ xs ys, Relation.EqvGen (Respells D) xs ys →
      xs.flatMap (letters D sep) = ys.flatMap (letters D sep) := by
    intro xs ys hxy
    induction hxy with
    | rel xs ys h => exact h.flatMap_letters
    | refl xs => rfl
    | symm xs ys _ ih => exact ih.symm
    | trans xs ys zs _ _ ih ih' => exact ih.trans ih'
  exact hclosure _ _ h

/-! ## A database of two letters -/

/-- What there is of the database in "Adéyẹmi". -/
def sampleDatabase : CharacterDatabase where
  decompose c := if c = '\u00e9' then ['e', '\u0301'] else if c = '\u1eb9' then ['e', '\u0323'] else [c]
  combiningClass c := if c = '\u0301' then 230 else if c = '\u0323' then 220 else 0
  decompose_ascii := by
    intro c h
    rw [if_neg, if_neg]
    · rintro rfl
      exact absurd h (by decide)
    · rintro rfl
      exact absurd h (by decide)
  combiningClass_ascii := by
    intro c h
    rw [if_neg, if_neg]
    · rintro rfl
      exact absurd h (by decide)
    · rintro rfl
      exact absurd h (by decide)
  decompose_mark := by
    intro c h
    rw [if_neg, if_neg]
    · simpa using h
    · rintro rfl
      exact absurd h (by decide)
    · rintro rfl
      exact absurd h (by decide)
  decompose_decomposed := by
    intro c
    split
    · exact forall_mem_of_all (by decide)
    · split
      · exact forall_mem_of_all (by decide)
      · next hacute hdot => simp [hacute, hdot]

def spellingHost : Host := ⟨fun text ↦ String.ofList (sampleDatabase.nfd text.toList), id⟩

theorem normalizes_spellingHost : spellingHost.Normalizes sampleDatabase := fun _ ↦ rfl

end AjoCloud.Kyc
