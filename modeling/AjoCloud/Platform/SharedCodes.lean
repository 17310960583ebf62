import AjoCloud.Ajo.Invitations
import AjoCloud.Akawo.Pools
import AjoCloud.Auth.Register

/-!
# The codes that people share

A group's public code, a pool's join code, an invitation and a referral: each has a parser of its own, which
sees to letter case, blanks and dashes.  What a parser accepts is told from the rest by its length, but an
invitation of the earlier kind is kept as it is typed, with the dashes in it.
-/

namespace AjoCloud.Platform

open Lib Ajo Akawo

/-! ## Generators -/

/-- The loop over one lot of random bytes: those past the last whole multiple of the alphabet's length are
passed over. -/
def drawCharacters (alphabet : List Char) (length : Nat) : List Char → List UInt8 → List Char
  | code, [] => code
  | code, byte :: bytes =>
      if 256 / alphabet.length * alphabet.length ≤ byte.toNat then
        drawCharacters alphabet length code bytes
      else
        let code := code ++ [alphabet.getD (byte.toNat % alphabet.length) '2']
        if code.length = length then code else drawCharacters alphabet length code bytes

/-- The loop over the lots, as long as there are any. -/
def drawCode (alphabet : List Char) (length : Nat) : List Char → List (List UInt8) → Option (List Char)
  | code, lots =>
      if code.length < length then
        match lots with
        | [] => none
        | bytes :: lots => drawCode alphabet length (drawCharacters alphabet length code bytes) lots
      else some code
termination_by _ lots => lots.length

/-- `randomShareCode`. -/
def randomShareCode (length : Nat) (lots : List (List UInt8)) : Option String :=
  (drawCode shareCodeAlphabet.toList length [] lots).map String.ofList

/-- `generateReferralCode`. -/
def generateReferralCode (lots : List (List UInt8)) : Option String :=
  (drawCode Auth.alphabet Auth.bodyLength [] lots).map fun body ↦ "AJO-" ++ String.ofList body

/-- `share_code`, of the database; a draw is below 28. -/
def shareCode (draws : List (Fin 28)) : String :=
  String.ofList (draws.map fun draw : Fin 28 ↦ shareCodeAlphabet.toList.getD draw.val '2')

/-! ## Parsers -/

/-- `normaliseReferralCode`, for the host's upper case. -/
def normaliseReferralCode (codec : Codec) (input : String) : Option String :=
  let trimmed := (codec.toUpperCase (trim input)).toList.filter (!isSpace ·)
  let body := if "AJO-".toList.isPrefixOf trimmed then trimmed.drop 4 else trimmed
  if body.length = Auth.bodyLength ∧ body.all (· ∈ Auth.alphabet) then some ("AJO-" ++ String.ofList body)
  else none

/-- The kinds of codes. -/
inductive CodeKind where
  | publicCode
  | joinCode
  | invitation
  | referral
deriving DecidableEq

/-- The form that the parser of a kind gives a text, if it accepts it. -/
def canonical (codec : Codec) : CodeKind → String → Option String
  | .publicCode, input => normalisePublicCode codec input
  | .joinCode, input =>
      if isValidJoinCodeShape codec input then some (normalizeJoinCode codec input) else none
  | .invitation, input => canonicalInvitationCode codec input
  | .referral, input => normaliseReferralCode codec input

/-- The code comes from the generator of its kind. -/
inductive Issued : CodeKind → String → Prop
  | publicCode {draws : List (Fin 28)} (h : draws.length = publicCodeLength) :
      Issued .publicCode (shareCode draws)
  | joinCode {randomBytes : List UInt8} (h : randomBytes.length = 8) :
      Issued .joinCode (generateJoinCode randomBytes)
  | invitation {lots code} (h : randomShareCode invitationCodeLength lots = some code) :
      Issued .invitation code
  | referral {lots code} (h : generateReferralCode lots = some code) : Issued .referral code

/-- What may be typed into a code of the kind without changing it. -/
def mayBeTyped : CodeKind → Char → Bool
  | .referral, c => isSpace c
  | _, c => isSpace c || c = '-'

/-- The second text is the first, retyped in any letter case with more characters of some kind. -/
inductive Retyped (more : Char → Bool) : List Char → List Char → Prop
  | nil : Retyped more [] []
  | added {c code typed} (h : more c = true) (rest : Retyped more code typed) :
      Retyped more code (c :: typed)
  | typed {c d code typed} (h : d.toUpper = c) (rest : Retyped more code typed) :
      Retyped more (c :: code) (d :: typed)

/-! ## What is accepted -/

section Accepted

variable {codec : Codec} {s : String}

/-- The upper case of the host, on texts of ASCII characters and white space. -/
def LawfulUpperCase (codec : Codec) : Prop :=
  ∀ text, (∀ c ∈ text.toList, c.toNat < 128 ∨ isSpace c = true) →
    codec.toUpperCase text = AjoCloud.toUpperCase text

/-- The text in upper case without white space, and without dashes too. -/
def unspaced (codec : Codec) (input : String) : List Char :=
  (codec.toUpperCase (trim input)).toList.filter (!isSpace ·)

def undashed (codec : Codec) (input : String) : List Char := (unspaced codec input).filter (· ≠ '-')

theorem undashed_eq (codec : Codec) (input : String) :
    undashed codec input =
      (codec.toUpperCase (trim input)).toList.filter fun c ↦ !(isSpace c || c = '-') := by
  rw [undashed, unspaced, List.filter_filter]
  refine List.filter_congr fun c _ ↦ ?_
  rw [Bool.not_or, Bool.and_comm]
  exact congrArg _ (decide_not ..)

theorem normaliseShareCode_eq (codec : Codec) (input : String) (length : Nat) :
    normaliseShareCode codec input length =
      if (undashed codec input).length = length ∧
          (undashed codec input).all (shareCodeAlphabet.toList.contains ·) then
        some (String.ofList (undashed codec input))
      else none := by
  rw [undashed_eq]
  rfl

theorem normalizeJoinCode_eq (codec : Codec) (input : String) :
    normalizeJoinCode codec input = String.ofList (undashed codec input) := by
  rw [undashed_eq]
  rfl

theorem isSome_normaliseShareCode {length : Nat} :
    (normaliseShareCode codec s length).isSome ↔
      (undashed codec s).length = length ∧ ∀ c ∈ undashed codec s, c ∈ shareCodeAlphabet.toList := by
  rw [normaliseShareCode_eq]
  split
  · next h => simpa using h
  · next h => simpa using h

/-- The parser of the kind accepts the text. -/
def Accepts (codec : Codec) (kind : CodeKind) (s : String) : Prop := (canonical codec kind s).isSome = true

theorem accepts_publicCode_iff : Accepts codec .publicCode s ↔
    (undashed codec s).length = 7 ∧ ∀ c ∈ undashed codec s, c ∈ shareCodeAlphabet.toList :=
  isSome_normaliseShareCode

theorem accepts_joinCode_iff : Accepts codec .joinCode s ↔
    (undashed codec s).length = 8 ∧ ∀ c ∈ undashed codec s, c ∈ CODE_ALPHABET := by
  rw [Accepts, canonical, isValidJoinCodeShape, normalizeJoinCode_eq]
  split
  · next h => simpa [← String.length_toList] using h
  · next h => simpa [← String.length_toList] using h

theorem accepts_invitation_iff : Accepts codec .invitation s ↔
    ((undashed codec s).length = 10 ∧ ∀ c ∈ undashed codec s, c ∈ shareCodeAlphabet.toList) ∨
      isLegacyInvitationCode s = true := by
  rw [Accepts, canonical, canonicalInvitationCode]
  have hshort : (normaliseShareCode codec s invitationCodeLength).isSome ↔
      (undashed codec s).length = 10 ∧ ∀ c ∈ undashed codec s, c ∈ shareCodeAlphabet.toList :=
    isSome_normaliseShareCode
  rw [← hshort]
  cases normaliseShareCode codec s invitationCodeLength with
  | some short => simp
  | none =>
      by_cases hlegacy : isLegacyInvitationCode s = true
      · simp [hlegacy]
      · simp [hlegacy]

/-- What is behind the opening, if that is there. -/
def referralBody (text : List Char) : List Char :=
  if "AJO-".toList.isPrefixOf text then text.drop 4 else text

theorem normaliseReferralCode_eq (codec : Codec) (input : String) :
    normaliseReferralCode codec input =
      if (referralBody (unspaced codec input)).length = 6 ∧
          (referralBody (unspaced codec input)).all (· ∈ Auth.alphabet) then
        some ("AJO-" ++ String.ofList (referralBody (unspaced codec input)))
      else none := rfl

theorem eq_referralBody (text : List Char) :
    text = referralBody text ∨ text = "AJO-".toList ++ referralBody text := by
  rw [referralBody]
  split
  · next hopening =>
      obtain ⟨rest, rfl⟩ := List.isPrefixOf_iff_prefix.mp hopening
      exact .inr rfl
  · exact .inl rfl

/-- A referral's code has six characters, or ten with what it opens with, one of them a dash. -/
theorem lengths_of_accepts_referral (h : Accepts codec .referral s) :
    ((unspaced codec s).length = 6 ∨ (unspaced codec s).length = 10) ∧
      ((undashed codec s).length = 6 ∨ (undashed codec s).length = 9) := by
  have hbody : (referralBody (unspaced codec s)).length = 6 ∧
      ∀ c ∈ referralBody (unspaced codec s), c ∈ Auth.alphabet := by
    by_contra hnot
    rw [Accepts, canonical, normaliseReferralCode_eq, if_neg (by simpa using hnot)] at h
    cases h
  obtain ⟨hlength, hall⟩ := hbody
  have halphabet : ∀ c ∈ Auth.alphabet, c ≠ '-' := forall_mem_of_all (by decide)
  have hundashed : (referralBody (unspaced codec s)).filter (· ≠ '-') = referralBody (unspaced codec s) :=
    List.filter_eq_self.mpr fun c hc ↦ decide_eq_true (halphabet c (hall c hc))
  rw [undashed]
  rcases eq_referralBody (unspaced codec s) with heq | heq
  · rw [heq, hundashed]
    exact ⟨.inl hlength, .inl hlength⟩
  · rw [heq, List.filter_append, hundashed, List.length_append, List.length_append, hlength]
    exact ⟨.inr rfl, .inr rfl⟩

/-! ## Texts of one's own upper case -/

/-- The parsers see the characters of the text one by one. -/
theorem filter_upperCase (h : LawfulUpperCase codec)
    (hs : ∀ c ∈ s.toList, c.toNat < 128 ∨ isSpace c = true) {p : Char → Bool}
    (hspace : ∀ c, isSpace c = true → p c = false) (hcase : ∀ c : Char, p c.toUpper = p c) :
    (codec.toUpperCase (trim s)).toList.filter p = (s.toList.filter p).map Char.toUpper := by
  have hcomp : p ∘ Char.toUpper = p := funext hcase
  rw [h (trim s) fun c hc ↦ hs c (mem_of_mem_trim hc), AjoCloud.toUpperCase, String.toList_ofList,
    List.filter_map, hcomp, filter_trim hspace]

theorem unspaced_of_lawful (h : LawfulUpperCase codec)
    (hs : ∀ c ∈ s.toList, c.toNat < 128 ∨ isSpace c = true) :
    unspaced codec s = (s.toList.filter (!isSpace ·)).map Char.toUpper :=
  filter_upperCase h hs (fun _ hc ↦ by rw [hc]; rfl) fun c ↦ by rw [isSpace_toUpper]

theorem undashed_of_lawful (h : LawfulUpperCase codec)
    (hs : ∀ c ∈ s.toList, c.toNat < 128 ∨ isSpace c = true) :
    undashed codec s = (s.toList.filter fun c ↦ !(isSpace c || c = '-')).map Char.toUpper := by
  rw [undashed_eq]
  refine filter_upperCase h hs (fun _ hc ↦ by rw [hc]; rfl) fun c ↦ ?_
  rw [isSpace_toUpper, decide_eq_decide.mpr (toUpper_eq_iff (.inl (by decide)))]

/-- What a text of the earlier kind of invitations is without its dashes. -/
def undashedLegacy (s : String) : List Char := (s.toList.filter (· ≠ '-')).map Char.toUpper

theorem toNat_of_isLegacyInvitationCode (h : isLegacyInvitationCode s = true) {c : Char}
    (hc : c ∈ s.toList) : 45 ≤ c.toNat ∧ c.toNat ≤ 122 := by
  rw [isLegacyInvitationCode, Bool.and_eq_true, List.all_eq_true] at h
  have hchar : ((c.isUpper || c.isLower || c.isDigit) || c = '_' || c = '-') = true := h.2 c hc
  simp only [Bool.or_eq_true, isUpper_iff_toNat, isLower_iff_toNat, Char.isDigit_iff_toNat,
    decide_eq_true_eq] at hchar
  rcases hchar with (((⟨hlo, hhi⟩ | ⟨hlo, hhi⟩) | ⟨hlo, hhi⟩) | rfl) | rfl
  · exact ⟨le_trans (by decide) hlo, le_trans hhi (by decide)⟩
  · exact ⟨le_trans (by decide) hlo, le_trans hhi (by decide)⟩
  · exact ⟨le_trans (by decide) hlo, le_trans hhi (by decide)⟩
  · decide
  · decide

/-- The parsers of short codes see a text of the earlier kind without its dashes. -/
theorem forms_of_isLegacyInvitationCode (hcodec : LawfulUpperCase codec)
    (h : isLegacyInvitationCode s = true) :
    32 ≤ (unspaced codec s).length ∧ undashed codec s = undashedLegacy s := by
  have hascii : ∀ c ∈ s.toList, c.toNat < 128 ∨ isSpace c = true := fun c hc ↦
    .inl ((toNat_of_isLegacyInvitationCode h hc).2.trans_lt (by decide))
  have hall : ∀ c ∈ s.toList, isSpace c = false := by
    intro c hc
    obtain ⟨hlo, hhi⟩ := toNat_of_isLegacyInvitationCode h hc
    exact isSpace_eq_false (by omega) (by omega)
  constructor
  · rw [unspaced_of_lawful hcodec hascii, List.length_map,
      List.filter_eq_self.mpr fun c hc ↦ by rw [hall c hc]; rfl, String.length_toList]
    rw [isLegacyInvitationCode, Bool.and_eq_true, Bool.and_eq_true, decide_eq_true_eq] at h
    exact h.1.1
  · rw [undashed_of_lawful hcodec hascii, undashedLegacy]
    refine congrArg _ (List.filter_congr fun c hc ↦ ?_)
    rw [hall c hc, Bool.false_or]
    exact (decide_not ..).symm

/-- A text of the earlier kind that is a public code or a join code when its dashes are taken out. -/
def IsPaddedCode (s : String) : Prop :=
  isLegacyInvitationCode s = true ∧
    ((undashedLegacy s).length = 7 ∧ (∀ c ∈ undashedLegacy s, c ∈ shareCodeAlphabet.toList) ∨
      (undashedLegacy s).length = 8 ∧ ∀ c ∈ undashedLegacy s, c ∈ CODE_ALPHABET)

/-- How many characters there are without dashes in what the parser of a kind accepts. -/
def CodeKind.lengths : CodeKind → List Nat
  | publicCode => [7]
  | joinCode => [8]
  | invitation => [10]
  | referral => [6, 9]

theorem eq_of_mem_lengths {kind kind' : CodeKind} {n : Nat} (h : n ∈ kind.lengths) (h' : n ∈ kind'.lengths) :
    kind = kind' := by
  have hdisjoint : ∀ n ≤ 10, (n ∈ kind.lengths ∧ n ∈ kind'.lengths → kind = kind') := by
    cases kind <;> cases kind' <;> decide
  have hle : ∀ n ∈ kind.lengths, n ≤ 10 := by
    cases kind <;> decide
  exact hdisjoint n (hle n h) ⟨h, h'⟩

/-- The number of characters tells what a text can be, unless it is of the earlier kind. -/
theorem length_mem_of_accepts {kind : CodeKind} (hs : ¬ isLegacyInvitationCode s = true)
    (h : Accepts codec kind s) : (undashed codec s).length ∈ kind.lengths := by
  cases kind with
  | publicCode => exact List.mem_singleton.mpr (accepts_publicCode_iff.mp h).1
  | joinCode => exact List.mem_singleton.mpr (accepts_joinCode_iff.mp h).1
  | invitation => exact List.mem_singleton.mpr ((accepts_invitation_iff.mp h).resolve_right hs).1
  | referral => simpa [CodeKind.lengths] using (lengths_of_accepts_referral h).2

/-- A text of the earlier kind is an invitation, and nothing else if it is no padded code. -/
theorem eq_invitation_of_accepts (hcodec : LawfulUpperCase codec) (hs : ¬ IsPaddedCode s)
    (hlegacy : isLegacyInvitationCode s = true) {kind : CodeKind} (h : Accepts codec kind s) :
    kind = .invitation := by
  obtain ⟨hlong, hform⟩ := forms_of_isLegacyInvitationCode hcodec hlegacy
  cases kind with
  | publicCode =>
      rw [accepts_publicCode_iff, hform] at h
      exact absurd ⟨hlegacy, .inl h⟩ hs
  | joinCode =>
      rw [accepts_joinCode_iff, hform] at h
      exact absurd ⟨hlegacy, .inr h⟩ hs
  | invitation => rfl
  | referral =>
      have hshort := (lengths_of_accepts_referral h).1
      omega

theorem accepts_unique (hcodec : LawfulUpperCase codec) (hs : ¬ IsPaddedCode s) {kind kind' : CodeKind}
    (h : Accepts codec kind s) (h' : Accepts codec kind' s) : kind = kind' := by
  by_cases hlegacy : isLegacyInvitationCode s = true
  · rw [eq_invitation_of_accepts hcodec hs hlegacy h, eq_invitation_of_accepts hcodec hs hlegacy h']
  · exact eq_of_mem_lengths (length_mem_of_accepts hlegacy h) (length_mem_of_accepts hlegacy h')

/-- A padded code is an invitation, and a public code or a join code besides. -/
theorem not_unique_of_isPaddedCode (hcodec : LawfulUpperCase codec) (hs : IsPaddedCode s) :
    Accepts codec .invitation s ∧ (Accepts codec .publicCode s ∨ Accepts codec .joinCode s) := by
  obtain ⟨hlegacy, hform⟩ := hs
  rw [← (forms_of_isLegacyInvitationCode hcodec hlegacy).2] at hform
  exact ⟨accepts_invitation_iff.mpr (.inr hlegacy),
    hform.imp accepts_publicCode_iff.mpr accepts_joinCode_iff.mpr⟩

end Accepted

/-! ## Codes that are issued -/

section Issued

variable {codec : Codec} {alphabet : List Char}

theorem getD_mem (halphabet : alphabet ≠ []) (n : Nat) (c : Char) :
    alphabet.getD (n % alphabet.length) c ∈ alphabet := by
  have hlt : n % alphabet.length < alphabet.length := Nat.mod_lt n (List.length_pos_iff.mpr halphabet)
  rw [List.getD_eq_getElem?_getD, List.getElem?_eq_getElem hlt]
  exact List.getElem_mem hlt

/-- A code in the making: characters of the alphabet, and no more than there should be. -/
structure Drawn (alphabet : List Char) (length : Nat) (code : List Char) : Prop where
  mem : ∀ c ∈ code, c ∈ alphabet
  length_le : code.length ≤ length

theorem Drawn.drawCharacters (halphabet : alphabet ≠ []) {length : Nat} {code : List Char}
    (h : Drawn alphabet length code) (hshort : code.length < length) (bytes : List UInt8) :
    Drawn alphabet length (drawCharacters alphabet length code bytes) := by
  induction bytes generalizing code with
  | nil => exact h
  | cons byte bytes ih =>
      rw [Platform.drawCharacters]
      split
      · exact ih h hshort
      · have hnext : Drawn alphabet length
            (code ++ [alphabet.getD (byte.toNat % alphabet.length) '2']) := by
          refine ⟨fun c hc ↦ ?_, by rw [List.length_append]; exact hshort⟩
          rcases List.mem_append.mp hc with hc | hc
          · exact h.mem c hc
          · rw [List.mem_singleton.mp hc]
            exact getD_mem halphabet _ _
        dsimp only
        split
        · exact hnext
        · next hmore => exact ih hnext (lt_of_le_of_ne hnext.length_le hmore)

theorem Drawn.drawCode (halphabet : alphabet ≠ []) {length : Nat} {code drawn : List Char}
    {lots : List (List UInt8)} (h : Drawn alphabet length code)
    (hdraw : drawCode alphabet length code lots = some drawn) :
    drawn.length = length ∧ ∀ c ∈ drawn, c ∈ alphabet := by
  induction lots generalizing code with
  | nil =>
      rw [Platform.drawCode] at hdraw
      split at hdraw
      · cases hdraw
      · next hfull =>
          cases hdraw
          exact ⟨Nat.le_antisymm h.length_le (Nat.le_of_not_lt hfull), h.mem⟩
  | cons bytes lots ih =>
      rw [Platform.drawCode] at hdraw
      split at hdraw
      · next hshort => exact ih (h.drawCharacters halphabet hshort bytes) hdraw
      · next hfull =>
          cases hdraw
          exact ⟨Nat.le_antisymm h.length_le (Nat.le_of_not_lt hfull), h.mem⟩

/-- A code that is drawn has its length, and characters of the alphabet in it. -/
theorem drawCode_nil (halphabet : alphabet ≠ []) {length : Nat} {drawn : List Char}
    {lots : List (List UInt8)} (hdraw : drawCode alphabet length [] lots = some drawn) :
    drawn.length = length ∧ ∀ c ∈ drawn, c ∈ alphabet :=
  Drawn.drawCode halphabet ⟨List.forall_mem_nil _, Nat.zero_le length⟩ hdraw

/-- How many characters of which alphabet a code of the kind has; a referral's come after its opening. -/
def HasForm : CodeKind → String → Prop
  | .publicCode, code => code.toList.length = 7 ∧ ∀ c ∈ code.toList, c ∈ shareCodeAlphabet.toList
  | .joinCode, code => code.toList.length = 8 ∧ ∀ c ∈ code.toList, c ∈ CODE_ALPHABET
  | .invitation, code => code.toList.length = 10 ∧ ∀ c ∈ code.toList, c ∈ shareCodeAlphabet.toList
  | .referral, code => ∃ body, code.toList = "AJO-".toList ++ body ∧ body.length = 6 ∧
      ∀ c ∈ body, c ∈ Auth.alphabet

theorem form_of_issued {kind : CodeKind} {code : String} (h : Issued kind code) : HasForm kind code := by
  cases h with
  | @publicCode draws hdraws =>
      rw [HasForm, shareCode, String.toList_ofList]
      refine ⟨by rw [List.length_map, hdraws]; rfl, fun c hc ↦ ?_⟩
      obtain ⟨draw, -, rfl⟩ := List.mem_map.mp hc
      have hmem : shareCodeAlphabet.toList.getD (draw.val % shareCodeAlphabet.toList.length) '2' ∈
          shareCodeAlphabet.toList := getD_mem (by decide) draw.val '2'
      rwa [Nat.mod_eq_of_lt (by exact draw.isLt)] at hmem
  | @joinCode randomBytes hbytes =>
      rw [HasForm, generateJoinCode, String.toList_ofList]
      refine ⟨by rw [List.length_map, List.length_take, hbytes]; rfl, fun c hc ↦ ?_⟩
      obtain ⟨byte, -, rfl⟩ := List.mem_map.mp hc
      exact getD_mem (by decide) _ _
  | invitation hdraw =>
      rw [randomShareCode, Option.map_eq_some_iff] at hdraw
      obtain ⟨drawn, hdrawn, rfl⟩ := hdraw
      rw [HasForm, String.toList_ofList]
      exact drawCode_nil (by decide) hdrawn
  | referral hdraw =>
      rw [generateReferralCode, Option.map_eq_some_iff] at hdraw
      obtain ⟨drawn, hdrawn, rfl⟩ := hdraw
      refine ⟨drawn, ?_, drawCode_nil (by decide) hdrawn⟩
      rw [String.toList_append]
      exact congrArg _ String.toList_ofList

/-! ## Retyping -/

variable {more : Char → Bool} {code typed : List Char}

/-- Without what was added, and in upper case, it is the code. -/
theorem Retyped.filter (h : Retyped more code typed) (hmore : ∀ c ∈ code, more c = false)
    (hcase : ∀ c : Char, more c.toUpper = more c) :
    (typed.filter (!more ·)).map Char.toUpper = code := by
  induction h with
  | nil => rfl
  | added hadded _ ih =>
      rw [List.filter_cons_of_neg (by simp [hadded])]
      exact ih hmore
  | @typed c d code typed hupper _ ih =>
      rw [List.forall_mem_cons] at hmore
      have hkept : more d = false := by rw [← hcase, hupper, hmore.1]
      rw [List.filter_cons_of_pos (by simp [hkept]), List.map_cons, hupper, ih hmore.2]

theorem Retyped.ascii (h : Retyped more code typed) (hcode : ∀ c ∈ code, c.toNat < 128)
    (hmore : ∀ c, more c = true → c.toNat < 128 ∨ isSpace c = true) :
    ∀ c ∈ typed, c.toNat < 128 ∨ isSpace c = true := by
  induction h with
  | nil => exact List.forall_mem_nil _
  | added hadded _ ih => exact List.forall_mem_cons.mpr ⟨hmore _ hadded, ih hcode⟩
  | @typed c d code typed hupper _ ih =>
      rw [List.forall_mem_cons] at hcode
      refine List.forall_mem_cons.mpr ⟨.inl ?_, ih hcode.2⟩
      rcases toUpper_cases d with heq | ⟨-, hhi, -⟩
      · rw [← heq, hupper]
        exact hcode.1
      · omega

/-- What is retyped of a code without dashes is read as the code. -/
theorem undashed_of_retyped (hcodec : LawfulUpperCase codec) {t : String} {alphabet : List Char}
    (halphabet : ∀ c ∈ alphabet, 48 ≤ c.toNat ∧ c.toNat ≤ 90) (hcode : ∀ c ∈ code, c ∈ alphabet)
    (h : Retyped (fun c ↦ isSpace c || c = '-') code t.toList) : undashed codec t = code := by
  have hascii : ∀ c ∈ t.toList, c.toNat < 128 ∨ isSpace c = true := by
    refine h.ascii (fun c hc ↦ (halphabet c (hcode c hc)).2.trans_lt (by decide)) fun c hc ↦ ?_
    rcases Bool.or_eq_true _ _ ▸ hc with hspace | hdash
    · exact .inr hspace
    · rw [of_decide_eq_true hdash]
      exact .inl (by decide)
  rw [undashed_of_lawful hcodec hascii]
  refine h.filter (fun c hc ↦ ?_) fun c ↦ ?_
  · obtain ⟨hlo, hhi⟩ := halphabet c (hcode c hc)
    have hdash : c ≠ '-' := by
      rintro rfl
      exact absurd hlo (by decide)
    rw [isSpace_eq_false (by omega) (by omega), Bool.false_or]
    exact decide_eq_false hdash
  · rw [isSpace_toUpper, decide_eq_decide.mpr (toUpper_eq_iff (.inl (by decide)))]

/-- **A code that is issued survives its retyping.** -/
theorem canonical_of_retyped (hcodec : LawfulUpperCase codec) {kind : CodeKind} {code t : String}
    (hissued : Issued kind code) (h : Retyped (mayBeTyped kind) code.toList t.toList) :
    canonical codec kind t = some code := by
  have hform := form_of_issued hissued
  cases kind with
  | publicCode =>
      have hundashed := undashed_of_retyped hcodec (forall_mem_of_all (by decide)) hform.2 h
      rw [canonical, normalisePublicCode, normaliseShareCode_eq, hundashed, String.ofList_toList]
      exact if_pos ⟨hform.1, by simpa using hform.2⟩
  | joinCode =>
      have hundashed := undashed_of_retyped hcodec (forall_mem_of_all (by decide)) hform.2 h
      rw [canonical, isValidJoinCodeShape, normalizeJoinCode_eq, hundashed, String.ofList_toList]
      rw [HasForm] at hform
      exact if_pos (by simpa [← String.length_toList] using hform)
  | invitation =>
      have hundashed := undashed_of_retyped hcodec (forall_mem_of_all (by decide)) hform.2 h
      have hshort : normaliseShareCode codec t invitationCodeLength = some code := by
        rw [normaliseShareCode_eq, hundashed, String.ofList_toList]
        exact if_pos ⟨hform.1, by simpa using hform.2⟩
      rw [canonical, canonicalInvitationCode, hshort]
  | referral =>
      obtain ⟨body, hcode, hlength, hbody⟩ := hform
      have hspaces : ∀ c ∈ code.toList, isSpace c = false ∧ c.toNat < 128 := by
        have hopening : ∀ c ∈ "AJO-".toList, isSpace c = false ∧ c.toNat < 128 :=
          forall_mem_of_all (by decide)
        have halphabet : ∀ c ∈ Auth.alphabet, isSpace c = false ∧ c.toNat < 128 :=
          forall_mem_of_all (by decide)
        rw [hcode]
        exact List.forall_mem_append.mpr ⟨hopening, fun c hc ↦ halphabet c (hbody c hc)⟩
      have hunspaced : unspaced codec t = "AJO-".toList ++ body := by
        rw [unspaced_of_lawful hcodec (h.ascii (fun c hc ↦ (hspaces c hc).2) fun c hc ↦ .inr hc), ← hcode]
        exact h.filter (fun c hc ↦ (hspaces c hc).1) isSpace_toUpper
      have hread : referralBody ("AJO-".toList ++ body) = body := by
        rw [referralBody, if_pos (List.isPrefixOf_iff_prefix.mpr (List.prefix_append _ _))]
        rfl
      have hwritten : "AJO-" ++ String.ofList body = code := by
        rw [← String.toList_inj, String.toList_append, hcode]
        exact congrArg _ String.toList_ofList
      rw [canonical, normaliseReferralCode_eq, hunspaced, hread, hwritten]
      exact if_pos ⟨hlength, by simpa using hbody⟩

/-- **When codes are not confused.**  A text is accepted by one parser at most unless it is a padded code;
and a code that is issued is read back from every retyping. -/
theorem codes_not_confused (hcodec : LawfulUpperCase codec) :
    (∀ s, (∀ kind kind', Accepts codec kind s → Accepts codec kind' s → kind = kind') ↔ ¬ IsPaddedCode s) ∧
      ∀ (kind : CodeKind) (code t : String), Issued kind code →
        Retyped (mayBeTyped kind) code.toList t.toList → canonical codec kind t = some code := by
  refine ⟨fun s ↦ ⟨fun honce hs ↦ ?_, fun hs kind kind' h h' ↦ accepts_unique hcodec hs h h'⟩,
    fun kind code t hissued h ↦ canonical_of_retyped hcodec hissued h⟩
  obtain ⟨hinvitation, hpublic | hjoin⟩ := not_unique_of_isPaddedCode hcodec hs
  · cases honce _ _ hinvitation hpublic
  · cases honce _ _ hinvitation hjoin

/-- The host's upper case, where ASCII is all there is. -/
def asciiCodec : Codec := ⟨AjoCloud.toUpperCase, id⟩

theorem lawful_asciiCodec : LawfulUpperCase asciiCodec := fun _ _ ↦ rfl

theorem codes_not_confused_ascii :
    canonical asciiCodec .publicCode " 234-5679\t" = some (shareCode [0, 1, 2, 3, 4, 5, 6]) :=
  (codes_not_confused lawful_asciiCodec).2 .publicCode _ _ (.publicCode rfl)
    (.added (by decide) (.typed (by decide) (.typed (by decide) (.typed (by decide) (.added (by decide)
      (.typed (by decide) (.typed (by decide) (.typed (by decide) (.typed (by decide)
        (.added (by decide) .nil))))))))))

/-- A public code with dashes after it. -/
def paddedCode : String := "7KQ3MZP" ++ String.ofList (List.replicate 25 '-')

/-- It is a public code, and an invitation of the earlier kind. -/
theorem padded_code_confused :
    ¬ ∀ (s : String) (kind kind' : CodeKind),
      Accepts asciiCodec kind s → Accepts asciiCodec kind' s → kind = kind' := by
  intro honce
  have hpublic : Accepts asciiCodec .publicCode paddedCode := by
    rw [accepts_publicCode_iff]
    exact ⟨by decide +kernel, forall_mem_of_all (by decide +kernel)⟩
  have hinvitation : Accepts asciiCodec .invitation paddedCode :=
    accepts_invitation_iff.mpr (.inr (by decide +kernel))
  cases honce paddedCode _ _ hpublic hinvitation

end Issued

end AjoCloud.Platform
