import AjoCloud.Auth.Purposes
import AjoCloud.Lib.Relay

/-!
# Codes and guesses

A code may be guessed at five times, and the next one for the same purpose is sent a minute later at
the earliest.  The flows look for the code that is open, so one that was used up, or that another
request sends in the meantime, does not hold them back.
-/

namespace AjoCloud.Auth

open Lib

variable {config : Config} {o : Inputs} {s : Store} {t : Request} {userId : Uuid}
  {purpose : VerificationPurpose} {now : Timestamp} {c c' : AccountVerificationChallenge}
  {rows : List AccountVerificationChallenge}

/-! ## Guesses -/

/-- A code that was held against one that is stored. -/
structure Guess where
  challengeId : Uuid
  userId : Uuid
  purpose : VerificationPurpose
  issuedAt : Timestamp
  guessedAt : Timestamp
deriving DecidableEq

/-- The store with the time of its last step, and the guesses until then. -/
structure Guessing where
  store : Store
  clock : Timestamp
  guesses : List Guess

/-- The guess that a code is, unless the challenge has expired or is locked. -/
def compared (config : Config) (now : Timestamp) (c : AccountVerificationChallenge) (code : String) :
    Option Guess :=
  match validateChallenge config now c code with
  | .accepted | .invalid => some ⟨c.id, c.userId, c.purpose, c.createdAt, now⟩
  | _ => none

/-- The guess that a step makes. -/
def guessOf (config : Config) (o : Inputs) (s : Store) (t : Request) : Option Guess :=
  (checked s t).bind fun p ↦ compared config o.now p.1 p.2

/-- A step, and the guess that it makes. -/
def attempt (config : Config) (o : Inputs) (g : Guessing) (t : Request) : Guessing × Option Request :=
  (⟨(exec config o g.store t).1, o.now, g.guesses ++ (guessOf config o g.store t).toList⟩,
    (exec config o g.store t).2)

/-- Time goes on, and whoever guesses guesses wrong. -/
def GuessesWrong (config : Config) (o : Inputs) (g : Guessing) (t : Request) : Prop :=
  g.clock ≤ o.now ∧
    ∀ p ∈ checked g.store t, validateChallenge config o.now p.1 p.2 ≠ .accepted

instance (config : Config) (o : Inputs) (g : Guessing) (t : Request) :
    Decidable (GuessesWrong config o g t) := inferInstanceAs (Decidable (_ ∧ ∀ p ∈ _, _))

/-- No code of the user for the purpose whose attempts are used up is still cooling. -/
def NoneUsedUp (now : Timestamp) (rows : List AccountVerificationChallenge) (userId : Uuid)
    (purpose : VerificationPurpose) : Prop :=
  ∀ c ∈ rows, c.userId = userId → c.purpose = purpose → c.maxAttempts ≤ c.attemptCount →
    c.resendAvailableAt ≤ now

instance (now : Timestamp) (rows : List AccountVerificationChallenge) (userId : Uuid)
    (purpose : VerificationPurpose) : Decidable (NoneUsedUp now rows userId purpose) :=
  inferInstanceAs (Decidable (∀ c ∈ rows, _))

/-- The step sends no code while one for the same purpose is cooling that it would find, or that was
used up. -/
def Rests (o : Inputs) (s : Store) : Request → Prop
  | .issueReset userId _ => (cooling o.now s.challenges (openReset userId)).isNone = true ∧
      NoneUsedUp o.now s.challenges.rows userId .passwordReset
  | .issueLogin userId _ => (cooling o.now s.challenges (openLogin userId)).isNone = true ∧
      NoneUsedUp o.now s.challenges.rows userId .login
  | .resendVerification userId => Resends s userId →
      (cooling o.now s.challenges (openEmail userId)).isNone = true →
        NoneUsedUp o.now s.challenges.rows userId .accountVerification
  | _ => True

instance (o : Inputs) (s : Store) (t : Request) : Decidable (Rests o s t) := by
  apply Request.casesOn (motive := fun t ↦ Decidable (Rests o s t)) t
  all_goals (intros; dsimp only [Rests]; infer_instance)

/-- A code that is wrong leaves attempts that are counted. -/
theorem attempts_left {code : String} (h : validateChallenge config now c code = .invalid) :
    c.attemptCount < c.maxAttempts := by
  unfold validateChallenge at h
  split at h
  · cases h
  · split at h
    · cases h
    · next hleft => exact not_le.mp hleft

/-! ## What is kept of codes and guesses -/

/-- A challenge as the flows store it, until it is redeemed. -/
structure IsCode (c : AccountVerificationChallenge) : Prop where
  channel : c.channel = .email
  unused : c.consumedAt = none
  cooldown : c.resendAvailableAt = c.createdAt + verificationResendCooldownMs
  limit : c.maxAttempts = verificationMaxAttempts
  counted : c.attemptCount ≤ c.maxAttempts

/-- The two are of one user, and for one purpose. -/
structure SameUse (c c' : AccountVerificationChallenge) : Prop where
  userId : c'.userId = c.userId
  purpose : c'.purpose = c.purpose

/-- The guess was at the code, and after it was issued. -/
structure IsGuessAt (g : Guess) (c : AccountVerificationChallenge) : Prop where
  id : c.id = g.challengeId
  userId : c.userId = g.userId
  purpose : c.purpose = g.purpose
  issuedAt : c.createdAt = g.issuedAt
  later : g.issuedAt ≤ g.guessedAt

/-- Codes for one purpose are apart, only the last of them is open, and guesses are at the one that was
open at the time. -/
structure Cooled (rows : List AccountVerificationChallenge) (clock : Timestamp)
    (guesses : List Guess) : Prop where
  codes : ∀ c ∈ rows, IsCode c
  past : ∀ c ∈ rows, c.createdAt ≤ clock
  apart : ∀ c ∈ rows, ∀ c' ∈ rows, SameUse c c' → c'.id ≠ c.id →
    c.createdAt + verificationResendCooldownMs ≤ c'.createdAt ∨
      c'.createdAt + verificationResendCooldownMs ≤ c.createdAt
  closed : ∀ c ∈ rows, isOpen c = false →
    c.maxAttempts ≤ c.attemptCount ∨ c.resendAvailableAt ≤ clock
  latest : ∀ c ∈ rows, isOpen c = true → ∀ c' ∈ rows, SameUse c c' → c'.createdAt ≤ c.createdAt
  guessed : ∀ g ∈ guesses, g.guessedAt ≤ clock ∧ ∃ c ∈ rows, IsGuessAt g c
  relieved : ∀ g ∈ guesses, ∀ c ∈ rows, c.userId = g.userId → c.purpose = g.purpose →
    g.issuedAt < c.createdAt → g.guessedAt ≤ c.createdAt

/-- Every guess is counted. -/
def Counted (rows : List AccountVerificationChallenge) (guesses : List Guess) : Prop :=
  ∀ c ∈ rows, (guesses.map (·.challengeId)).count c.id ≤ c.attemptCount

namespace Cooled

variable {clock : Timestamp} {guesses : List Guess}

/-- At first there are no codes. -/
theorem nil (clock : Timestamp) : Cooled [] clock [] where
  codes := List.forall_mem_nil _
  past := List.forall_mem_nil _
  apart := List.forall_mem_nil _
  closed := List.forall_mem_nil _
  latest := List.forall_mem_nil _
  guessed := List.forall_mem_nil _
  relieved := List.forall_mem_nil _

/-- Time goes on. -/
theorem later (h : Cooled rows clock guesses) (hnow : clock ≤ now) : Cooled rows now guesses where
  codes := h.codes
  past c hc := (h.past c hc).trans hnow
  apart := h.apart
  closed c hc hclosed := (h.closed c hc hclosed).imp_right fun hrested ↦ hrested.trans hnow
  latest := h.latest
  guessed g hg := ⟨(h.guessed g hg).1.trans hnow, (h.guessed g hg).2⟩
  relieved := h.relieved

/-- The code after some of its columns were written that say how far it has been used. -/
structure Written (c c' : AccountVerificationChallenge) : Prop where
  id : c'.id = c.id
  userId : c'.userId = c.userId
  purpose : c'.purpose = c.purpose
  createdAt : c'.createdAt = c.createdAt
  code : IsCode c'
  unopened : isOpen c' = true → isOpen c = true

theorem Written.sameUse {d d' : AccountVerificationChallenge} (hc : Written c c') (hd : Written d d')
    (h : SameUse c' d') : SameUse c d :=
  ⟨hd.userId.symm.trans (h.userId.trans hc.userId),
    hd.purpose.symm.trans (h.purpose.trans hc.purpose)⟩

/-- Codes are written in place; one that is closed in doing so was used up, or is not cooling. -/
theorem write (h : Cooled rows clock guesses)
    {f : AccountVerificationChallenge → AccountVerificationChallenge}
    (hf : ∀ c ∈ rows, Written c (f c))
    (hclosed : ∀ c ∈ rows, isOpen (f c) = false →
      (f c).maxAttempts ≤ (f c).attemptCount ∨ (f c).resendAvailableAt ≤ clock) :
    Cooled (rows.map f) clock guesses where
  codes := List.forall_mem_map.mpr fun c hc ↦ (hf c hc).code
  past := by
    refine List.forall_mem_map.mpr fun c hc ↦ ?_
    rw [(hf c hc).createdAt]
    exact h.past c hc
  apart := by
    refine List.forall_mem_map.mpr fun c hc ↦ List.forall_mem_map.mpr fun d hd hsame hne ↦ ?_
    rw [(hf c hc).createdAt, (hf d hd).createdAt]
    rw [(hf c hc).id, (hf d hd).id] at hne
    exact h.apart c hc d hd ((hf c hc).sameUse (hf d hd) hsame) hne
  closed := List.forall_mem_map.mpr hclosed
  latest := by
    refine List.forall_mem_map.mpr fun c hc hopen ↦ List.forall_mem_map.mpr fun d hd hsame ↦ ?_
    rw [(hf c hc).createdAt, (hf d hd).createdAt]
    exact h.latest c hc ((hf c hc).unopened hopen) d hd ((hf c hc).sameUse (hf d hd) hsame)
  guessed := by
    intro g hg
    obtain ⟨hpast, c, hc, hat⟩ := h.guessed g hg
    refine ⟨hpast, f c, List.mem_map_of_mem hc, ?_⟩
    exact ⟨(hf c hc).id.trans hat.id, (hf c hc).userId.trans hat.userId,
      (hf c hc).purpose.trans hat.purpose, (hf c hc).createdAt.trans hat.issuedAt, hat.later⟩
  relieved := by
    intro g hg
    refine List.forall_mem_map.mpr fun c hc huser hpurpose hlt ↦ ?_
    rw [(hf c hc).createdAt] at hlt ⊢
    rw [(hf c hc).userId] at huser
    rw [(hf c hc).purpose] at hpurpose
    exact h.relieved g hg c hc huser hpurpose hlt

/-- A code is sent when none for the same purpose is open or cooling. -/
theorem send (h : Cooled rows clock guesses) (hcode : IsCode c) (hnow : c.createdAt = clock)
    (hopen : isOpen c = true)
    (hrested : ∀ x ∈ rows, SameUse c x → x.resendAvailableAt ≤ clock)
    (hclosed : ∀ x ∈ rows, SameUse c x → isOpen x = false) : Cooled (rows ++ [c]) clock guesses where
  codes := List.forall_mem_append.mpr ⟨h.codes, List.forall_mem_singleton.mpr hcode⟩
  past := List.forall_mem_append.mpr ⟨h.past, List.forall_mem_singleton.mpr hnow.le⟩
  apart := by
    have hbefore : ∀ x ∈ rows, SameUse c x →
        x.createdAt + verificationResendCooldownMs ≤ c.createdAt := by
      intro x hx hsame
      rw [← (h.codes x hx).cooldown, hnow]
      exact hrested x hx hsame
    refine List.forall_mem_append.mpr ⟨fun x hx ↦ List.forall_mem_append.mpr ⟨h.apart x hx, ?_⟩,
      List.forall_mem_singleton.mpr (List.forall_mem_append.mpr ⟨fun x hx hsame _ ↦ ?_, ?_⟩)⟩
    · refine List.forall_mem_singleton.mpr fun hsame _ ↦ .inl (hbefore x hx ?_)
      exact ⟨hsame.userId.symm, hsame.purpose.symm⟩
    · exact .inr (hbefore x hx hsame)
    · exact List.forall_mem_singleton.mpr fun _ hne ↦ absurd rfl hne
  closed := by
    refine List.forall_mem_append.mpr ⟨h.closed, List.forall_mem_singleton.mpr fun hc ↦ ?_⟩
    rw [hopen] at hc
    cases hc
  latest := by
    refine List.forall_mem_append.mpr ⟨fun x hx hxopen ↦ List.forall_mem_append.mpr
      ⟨h.latest x hx hxopen, List.forall_mem_singleton.mpr fun hsame ↦ ?_⟩,
      List.forall_mem_singleton.mpr fun _ ↦ List.forall_mem_append.mpr
        ⟨fun x hx _ ↦ (h.past x hx).trans hnow.ge, List.forall_mem_singleton.mpr fun _ ↦ le_rfl⟩⟩
    have hxclosed := hclosed x hx ⟨hsame.userId.symm, hsame.purpose.symm⟩
    rw [hxopen] at hxclosed
    cases hxclosed
  guessed g hg := by
    obtain ⟨hpast, x, hx, hat⟩ := h.guessed g hg
    exact ⟨hpast, x, List.mem_append_left _ hx, hat⟩
  relieved g hg := List.forall_mem_append.mpr ⟨h.relieved g hg,
    List.forall_mem_singleton.mpr fun _ _ _ ↦ (h.guessed g hg).1.trans hnow.ge⟩

/-- Somebody guesses at an open code. -/
theorem guess (h : Cooled rows clock guesses) {x : AccountVerificationChallenge} (hx : x ∈ rows)
    {g : Guess} (hat : IsGuessAt g x) (hnow : g.guessedAt = clock)
    (hlatest : ∀ y ∈ rows, SameUse x y → y.createdAt ≤ x.createdAt) :
    Cooled rows clock (guesses ++ [g]) where
  codes := h.codes
  past := h.past
  apart := h.apart
  closed := h.closed
  latest := h.latest
  guessed := List.forall_mem_append.mpr ⟨h.guessed,
    List.forall_mem_singleton.mpr ⟨hnow.le, x, hx, hat⟩⟩
  relieved := by
    refine List.forall_mem_append.mpr ⟨h.relieved, List.forall_mem_singleton.mpr ?_⟩
    intro y hy huser hpurpose hlt
    have hsame : SameUse x y := ⟨huser.trans hat.userId.symm, hpurpose.trans hat.purpose.symm⟩
    exact absurd (hat.issuedAt ▸ hlatest y hy hsame) (not_le.mpr hlt)

/-- What `open_` picks is not cooling, when the newest of it is not. -/
theorem rested_of_cooling {challenges : Table AccountVerificationChallenge}
    {open_ : AccountVerificationChallenge → Bool} (h : Cooled challenges.rows clock guesses)
    (hcool : (cooling now challenges open_).isNone = true) {x : AccountVerificationChallenge}
    (hx : x ∈ challenges.rows) (hopen : open_ x = true) : x.resendAvailableAt ≤ now := by
  have hmem : x ∈ challenges.findMany open_ := Table.mem_findMany.mpr ⟨hx, hopen⟩
  cases hfind : findNewest challenges open_ with
  | none =>
      rw [newest_eq_none hfind] at hmem
      cases hmem
  | some best =>
      have hbest := (mem_of_findNewest hfind).1
      have hrested : best.resendAvailableAt ≤ now := by
        simpa [cooling, hfind, Option.filter] using hcool
      have hle := le_newest hfind x hmem
      rw [(h.codes best hbest).cooldown] at hrested
      rw [(h.codes x hx).cooldown]
      exact (add_le_add_left hle _).trans hrested

/-- A code is issued in the place of those that are open for the same purpose. -/
theorem issue {challenges challenges' : Table AccountVerificationChallenge}
    {open_ : AccountVerificationChallenge → Bool} (h : Cooled challenges.rows clock guesses)
    (hnow : clock ≤ now) (hissue : Auth.issue now open_ c challenges = .ok challenges')
    (hcode : IsCode c) (hcreated : c.createdAt = now) (hopen : isOpen c = true)
    (hcovers : ∀ x ∈ challenges.rows, SameUse c x → isOpen x = true → open_ x = true)
    (hcool : ∀ x ∈ challenges.rows, open_ x = true → x.resendAvailableAt ≤ now)
    (hused : NoneUsedUp now challenges.rows c.userId c.purpose) :
    Cooled challenges'.rows now guesses := by
  have hlater := h.later hnow
  rw [(issue_eq_ok hissue).1]
  refine (hlater.write (fun x hx ↦ ?_) fun x hx hclosed ↦ ?_).send hcode hcreated hopen ?_ ?_
  · have hx := h.codes x hx
    split
    · exact ⟨rfl, rfl, rfl, rfl, ⟨hx.channel, hx.unused, hx.cooldown, hx.limit, hx.counted⟩,
        by simp [isOpen, invalidate]⟩
    · exact ⟨rfl, rfl, rfl, rfl, hx, id⟩
  · split at hclosed
    · next hpicked =>
        rw [if_pos hpicked]
        exact .inr (hcool x hx hpicked)
    · next hspared =>
        rw [if_neg hspared]
        exact hlater.closed x hx hclosed
  · refine List.forall_mem_map.mpr fun x hx hsame ↦ ?_
    by_cases hpicked : open_ x = true
    · rw [if_pos hpicked]
      exact hcool x hx hpicked
    · rw [if_neg hpicked] at hsame ⊢
      have hxclosed : isOpen x = false := by
        by_contra hxopen
        exact hpicked (hcovers x hx hsame (by simpa using hxopen))
      rcases hlater.closed x hx hxclosed with hfull | hrested
      · exact hused x hx hsame.userId hsame.purpose hfull
      · exact hrested
  · refine List.forall_mem_map.mpr fun x hx hsame ↦ ?_
    by_cases hpicked : open_ x = true
    · rw [if_pos hpicked]
      simp [isOpen, invalidate]
    · rw [if_neg hpicked] at hsame ⊢
      by_contra hxopen
      exact hpicked (hcovers x hx hsame (by simpa using hxopen))

/-- Somebody presents a wrong code for an open challenge. -/
theorem redeem {challenges : Table AccountVerificationChallenge} {code : String}
    (h : Cooled challenges.rows clock guesses) (hnow : clock ≤ now) (hc : c ∈ challenges.rows)
    (hopen : isOpen c = true) (hwrong : validateChallenge config now c code ≠ .accepted) :
    Cooled (Auth.redeem config now c code challenges).2.rows now
      (guesses ++ (compared config now c code).toList) := by
  have hlater := h.later hnow
  unfold Auth.redeem compared
  cases hvalid : validateChallenge config now c code with
  | accepted => exact absurd hvalid hwrong
  | invalid =>
      have hleft := attempts_left hvalid
      have hself : ∀ x ∈ challenges.rows, x.id = c.id → x = c := fun x hx hid ↦
        eq_of_challenge_id hx hc hid
      have hrows : (challenges.modify (fun x ↦ x.id = c.id) (countAttempt now)
          clash_of_countAttempt).rows =
          challenges.rows.map fun x ↦ if x.id = c.id then countAttempt now x else x := by
        rw [Table.rows_modify]
        simp only [decide_eq_true_eq]
      have hwritten : ∀ x ∈ challenges.rows,
          Written x (if x.id = c.id then countAttempt now x else x) := by
        intro x hx
        have hcode := h.codes x hx
        split
        · next hid =>
            obtain rfl := hself x hx hid
            exact ⟨rfl, rfl, rfl, rfl, ⟨hcode.channel, hcode.unused, hcode.cooldown, hcode.limit, hleft⟩,
              fun _ ↦ hopen⟩
        · exact ⟨rfl, rfl, rfl, rfl, hcode, id⟩
      rw [hrows]
      refine (hlater.write hwritten fun x hx hclosed ↦ ?_).guess (List.mem_map_of_mem hc) ?_ rfl ?_
      · split at hclosed
        · next hid =>
            obtain rfl := hself x hx hid
            rw [if_pos rfl]
            by_cases hfull : x.maxAttempts ≤ x.attemptCount + 1
            · exact .inl hfull
            · simp only [isOpen, countAttempt, ge_iff_le, hfull, if_false] at hclosed
              exact absurd (hclosed.symm.trans hopen) Bool.false_ne_true
        · next hid =>
            rw [if_neg hid]
            exact hlater.closed x hx hclosed
      · rw [if_pos rfl]
        exact ⟨rfl, rfl, rfl, rfl, hlater.past c hc⟩
      · refine List.forall_mem_map.mpr fun y hy hsame ↦ ?_
        rw [(hwritten y hy).createdAt, (hwritten c hc).createdAt]
        exact h.latest c hc hopen y hy ((hwritten c hc).sameUse (hwritten y hy) hsame)
  | missing | already | expired | locked =>
      rw [Option.toList_none, List.append_nil]
      exact hlater

end Cooled

namespace Counted

variable {guesses : List Guess} {challenges : Table AccountVerificationChallenge}

/-- A new code has not been guessed at. -/
theorem send (h : Counted rows guesses) (hnew : ∀ g ∈ guesses, g.challengeId ≠ c.id) :
    Counted (rows ++ [c]) guesses := by
  refine List.forall_mem_append.mpr ⟨h, List.forall_mem_singleton.mpr ?_⟩
  rw [List.count_eq_zero.mpr]
  · exact Nat.zero_le _
  · intro hmem
    obtain ⟨g, hg, hid⟩ := List.mem_map.mp hmem
    exact hnew g hg hid

/-- Closing codes counts nothing. -/
theorem invalidated (h : Counted rows guesses) (open_ : AccountVerificationChallenge → Bool) :
    Counted (rows.map fun x ↦ if open_ x then invalidate now x else x) guesses := by
  refine List.forall_mem_map.mpr fun x hx ↦ ?_
  split
  · exact h x hx
  · exact h x hx

/-- One more guess is one more attempt. -/
theorem redeem {code : String} (h : Counted challenges.rows guesses)
    (hwrong : validateChallenge config now c code ≠ .accepted) :
    Counted (Auth.redeem config now c code challenges).2.rows
      (guesses ++ (compared config now c code).toList) := by
  unfold Auth.redeem compared
  cases hvalid : validateChallenge config now c code with
  | accepted => exact absurd hvalid hwrong
  | invalid =>
      dsimp only
      rw [Table.rows_modify]
      refine List.forall_mem_map.mpr fun x hx ↦ ?_
      rw [List.map_append, List.count_append]
      simp only [decide_eq_true_eq, Option.toList_some, List.map_cons, List.map_nil]
      split
      · next hid =>
          have hcount := h x hx
          show _ + [c.id].count x.id ≤ x.attemptCount + 1
          rw [hid, List.count_singleton_self]
          exact Nat.succ_le_succ (hid ▸ hcount)
      · next hid =>
          have hother : [c.id].count x.id = 0 := List.count_eq_zero.mpr (by simpa using hid)
          rw [hother]
          exact h x hx
  | missing | already | expired | locked =>
      rw [Option.toList_none, List.append_nil]
      exact h

end Counted

/-! ## Whose codes they are -/

/-- The user is stored. -/
def HasUser (s : Store) (userId : Uuid) : Prop := ∃ u ∈ s.db.users.rows, u.id = userId

/-- The requests that are not about to send a code yet, but may come to it. -/
def sendsLater : Request → Bool
  | .requestReset _ | .resetCredential .. | .resetExisting .. | .requestCode _ | .codeExisting ..
  | .resendCode _ => true
  | _ => false

/-- Whom the request is about to send a code. -/
def addressee : Request → Option Uuid
  | .resetCredential userId _ _ | .resetExisting userId _ | .issueReset userId _
  | .codeExisting userId _ | .issueLogin userId _ => some userId
  | _ => none

theorem HasUser.insertUser {s' : Store} {u : User} (h : HasUser s userId)
    (hu : insertRow s.db.users u = .ok s'.db.users) : HasUser s' userId := by
  obtain ⟨x, hx, hid⟩ := h
  exact ⟨x, insertRow_eq_ok hu ▸ List.mem_append_left _ hx, hid⟩

theorem HasUser.setStatus {target : Uuid} {status : UserStatus} (h : HasUser s userId) :
    HasUser (setStatus target status s) userId := by
  obtain ⟨x, hx, hid⟩ := h
  refine ⟨_, List.mem_map_of_mem hx, ?_⟩
  split
  · exact hid
  · exact hid

/-- No step removes a user. -/
theorem HasUser.effect {s' : Store} {events : List Event} (h : HasUser s userId)
    (heffect : Effect config o s t s' events) : HasUser s' userId := by
  cases heffect with
  | none | challenges | identities | sessions | opened => exact h
  | registered _ _ _ _ users => exact h.insertUser users
  | createdGoogle _ _ _ _ users => exact h.insertUser users
  | invited _ _ _ _ _ users => exact h.insertUser users
  | verified => exact HasUser.setStatus h
  | reset => exact HasUser.setStatus h
  | linked => exact HasUser.setStatus h
  | statusSet => exact HasUser.setStatus h

/-- A request goes on after a step that gave a result. -/
theorem of_afterwards {α β : Type} {result : Except ServiceError α} {next : α → Option β} {b : β}
    (h : afterwards result next = some b) : ∃ a, result = .ok a ∧ next a = some b := by
  cases result with
  | ok a => exact ⟨a, rfl, h⟩
  | error e => cases h

/-- The other requests are about to send nobody a code. -/
theorem addressee_of_next {t' : Request} (hflow : sendsLater t = false)
    (h : (exec config o s t).2 = some t') : addressee t' = none := by
  cases t with
  | verifyEmail caller userId code =>
      obtain ⟨-, ⟨⟩⟩ := Option.ite_none_right_eq_some.mp h
      rfl
  | login email password =>
      obtain ⟨_, -, ⟨⟩⟩ := of_afterwards h
      rfl
  | verifyCode challengeId code =>
      obtain ⟨-, h⟩ := Option.ite_none_right_eq_some.mp h
      obtain ⟨_, -, rfl⟩ := Option.map_eq_some_iff.mp h
      rfl
  | recheck userId =>
      obtain ⟨-, ⟨⟩⟩ := Option.ite_none_right_eq_some.mp h
      rfl
  | google caller claims =>
      obtain ⟨email, -, h⟩ := of_afterwards h
      split at h
      · split at h
        · obtain ⟨-, ⟨⟩⟩ := Option.ite_none_right_eq_some.mp h
          rfl
        · cases h
      · cases h
        rfl
  | touchIdentity identityId userId email =>
      cases h
      rfl
  | googleByEmail caller claims email =>
      have h : googleAccount s caller claims email = some t' := h
      unfold googleAccount at h
      split at h
      · obtain ⟨-, ⟨⟩⟩ := Option.ite_none_right_eq_some.mp h
        rfl
      · cases h
        rfl
  | linkGoogle | createGoogle | acceptInvite | redeemInvite =>
      obtain ⟨_, -, ⟨⟩⟩ := of_afterwards h
      rfl
  | requestReset | resetCredential | resetExisting | requestCode | codeExisting | resendCode =>
      cases hflow
  | _ => cases h

/-- A request goes on with a user that it has read. -/
theorem hasUser_of_next {t' : Request} (hknown : ∀ target ∈ addressee t, HasUser s target)
    (h : (exec config o s t).2 = some t') : ∀ target ∈ addressee t', HasUser s target := by
  cases t with
  | requestReset rawEmail =>
      obtain ⟨u, hu, rfl⟩ := Option.map_eq_some_iff.mp h
      rintro _ ⟨⟩
      exact ⟨u, Table.mem_of_find? hu, rfl⟩
  | requestCode rawEmail =>
      obtain ⟨u, hu, rfl⟩ := Option.map_eq_some_iff.mp h
      rintro _ ⟨⟩
      exact ⟨u, Table.mem_of_find? hu, rfl⟩
  | resendCode challengeId =>
      obtain ⟨⟨target, email⟩, hresend, hnext⟩ := of_afterwards h
      cases hnext
      rintro _ ⟨⟩
      simp only [resendCode, bind_eq_ok, require_eq_ok, orThrow_eq_ok, exists_const, pure_eq_ok,
        Prod.mk.injEq] at hresend
      obtain ⟨c, -, -, -, u, hu, _, -, rfl, rfl⟩ := hresend
      exact ⟨u, Table.mem_of_find? hu, rfl⟩
  | resetCredential userId status email =>
      obtain ⟨-, ⟨⟩⟩ := Option.ite_none_right_eq_some.mp h
      exact hknown
  | resetExisting userId email =>
      obtain ⟨-, ⟨⟩⟩ := Option.ite_none_left_eq_some.mp h
      exact hknown
  | codeExisting userId email =>
      obtain ⟨-, ⟨⟩⟩ := Option.ite_none_left_eq_some.mp h
      exact hknown
  | _ =>
      have hnone := addressee_of_next rfl h
      intro target htarget
      rw [hnone] at htarget
      cases htarget

/-! ## What a step does to the codes -/

/-- The request sends a code, in the place of those that are open. -/
inductive Sends (o : Inputs) (s : Store) :
    Request → Uuid → VerificationPurpose → (AccountVerificationChallenge → Bool) → Prop
  | reset (userId : Uuid) (email : String) :
      Sends o s (.issueReset userId email) userId .passwordReset (openReset userId)
  | login (userId : Uuid) (email : String) :
      Sends o s (.issueLogin userId email) userId .login (openLogin userId)
  | verification (userId : Uuid) (hresends : Resends s userId)
      (hcool : (cooling o.now s.challenges (openEmail userId)).isNone = true) :
      Sends o s (.resendVerification userId) userId .accountVerification (openEmail userId)

/-- What the codes look like after a step. -/
inductive CodesAfter (config : Config) (o : Inputs) (s : Store) (t : Request) :
    Table AccountVerificationChallenge → Prop
  | same (hchecked : checked s t = none) : CodesAfter config o s t s.challenges
  | presented {c : AccountVerificationChallenge} {code : String}
      (hchecked : checked s t = some (c, code)) :
      CodesAfter config o s t (redeem config o.now c code s.challenges).2
  | sent {userId : Uuid} {purpose : VerificationPurpose}
      {open_ : AccountVerificationChallenge → Bool} {destination : String}
      {challenges : Table AccountVerificationChallenge} (hchecked : checked s t = none)
      (hsends : Sends o s t userId purpose open_) (huser : HasUser s userId)
      (hissue : issue o.now open_
        (newChallenge config o.now (o.uuid 0) o.code purpose destination userId) s.challenges =
          .ok challenges) : CodesAfter config o s t challenges
  | registered {destination : String} {challenges : Table AccountVerificationChallenge} {u : User}
      {users : Table User} (hchecked : checked s t = none)
      (huser : insertRow s.db.users u = .ok users) (hnew : HasUser (exec config o s t).1 u.id)
      (hissue : insertRow s.challenges
        (newChallenge config o.now (o.uuid 9) o.code .accountVerification destination u.id) =
          .ok challenges) : CodesAfter config o s t challenges

/-- A code that is checked is stored, and open. -/
theorem mem_of_checked {code : String} (h : checked s t = some (c, code)) :
    c ∈ s.challenges.rows ∧ isOpen c = true := by
  have hfor : ∀ {purpose : VerificationPurpose} {challengeId : Uuid},
      challengeFor purpose challengeId s.challenges = some c →
        c ∈ s.challenges.rows ∧ isOpen c = true := by
    intro purpose challengeId hfind
    obtain ⟨hfind, hp⟩ := Option.filter_eq_some_iff.mp hfind
    exact ⟨Table.mem_of_find? hfind, (Bool.and_eq_true_iff.mp hp).2⟩
  cases t with
  | verifyEmail caller userId presented =>
      obtain ⟨_, hfind, ⟨⟩⟩ := Option.map_eq_some_iff.mp h
      exact mem_of_awaited hfind
  | completeReset caller challengeId presented passwordHash =>
      obtain ⟨_, hfind, ⟨⟩⟩ := Option.map_eq_some_iff.mp h
      exact hfor hfind
  | verifyCode challengeId presented =>
      obtain ⟨_, hfind, ⟨⟩⟩ := Option.map_eq_some_iff.mp h
      exact hfor hfind
  | _ => cases h

theorem codesAfter_issue {α : Type} {a : α} {open_ : AccountVerificationChallenge → Bool}
    {destination : String} (hchecked : checked s t = none)
    (hexec : (exec config o s t).1 = committed s (do
      let challenges ← issue o.now open_
        (newChallenge config o.now (o.uuid 0) o.code purpose destination userId) s.challenges
      pure (a, { s with challenges := challenges })))
    (hsends : Sends o s t userId purpose open_) (huser : HasUser s userId) :
    CodesAfter config o s t (exec config o s t).1.challenges := by
  rw [hexec]
  rcases committed_issue s o.now a open_
    (newChallenge config o.now (o.uuid 0) o.code purpose destination userId) with
    ⟨-, challenges, hissue, heq⟩ | ⟨-, heq⟩
  · rw [heq]
    exact .sent hchecked hsends huser hissue
  · rw [heq]
    exact .same hchecked

theorem codesAfter_completeReset (caller : Principal) (challengeId : Uuid)
    (code passwordHash : String) (hwrong : ∀ c presented,
      checked s (.completeReset caller challengeId code passwordHash) = some (c, presented) →
        validateChallenge config o.now c presented ≠ .accepted) :
    CodesAfter config o s (.completeReset caller challengeId code passwordHash)
      (exec config o s (.completeReset caller challengeId code passwordHash)).1.challenges := by
  show CodesAfter config o s _
    (committed s (completeReset config o s challengeId code passwordHash)).challenges
  have hchecked : checked s (.completeReset caller challengeId code passwordHash) =
    (challengeFor .passwordReset challengeId s.challenges).map fun c ↦ (c, code) := rfl
  unfold completeReset
  cases hfind : challengeFor .passwordReset challengeId s.challenges with
  | none =>
      rw [hfind] at hchecked
      exact .same hchecked
  | some c =>
      rw [hfind] at hchecked
      have hafter : CodesAfter config o s _ _ := .presented hchecked
      dsimp only
      generalize hredeem : redeem config o.now c code s.challenges = outcome at hafter ⊢
      obtain ⟨result, challenges⟩ := outcome
      cases result with
      | accepted => exact absurd (redeem_eq_accepted hredeem) (hwrong c code hchecked)
      | missing | already | expired | locked | invalid => exact hafter

theorem codesAfter_resendVerification : CodesAfter config o s (.resendVerification userId)
    (exec config o s (.resendVerification userId)).1.challenges := by
  have hexec : (exec config o s (.resendVerification userId)).1 =
    committed s (resendVerification config o s userId) := rfl
  unfold resendVerification at hexec
  cases hdestination : (s.user? userId).bind fun u ↦ truthy u.email with
  | none =>
      rw [hexec, hdestination]
      exact .same rfl
  | some destination =>
      rw [hdestination] at hexec
      dsimp only at hexec
      split at hexec
      · rw [hexec]
        exact .same rfl
      · next hverified =>
          cases hcool : cooling o.now s.challenges (openEmail userId) with
          | some latest =>
              rw [hexec, hcool]
              exact .same rfl
          | none =>
              rw [hcool] at hexec
              have hresends : Resends s userId := ⟨by rw [hdestination]; rfl, by simpa using hverified⟩
              obtain ⟨u, hu, -⟩ := Option.bind_eq_some_iff.mp hdestination
              exact codesAfter_issue rfl hexec (.verification userId hresends (by rw [hcool]; rfl))
                ⟨u, Table.mem_of_find? hu, by simpa using Table.prop_of_find? hu⟩

/-- Whatever a step does to the codes, when no code is redeemed. -/
theorem exec_codesAfter (hknown : ∀ target ∈ addressee t, HasUser s target)
    (hwrong : ∀ c code, checked s t = some (c, code) →
      validateChallenge config o.now c code ≠ .accepted) :
    CodesAfter config o s t (exec config o s t).1.challenges := by
  cases t with
  | register caller dto passwordHash =>
      show CodesAfter config o s _ (committed s (registerAccount config o s dto passwordHash)).challenges
      rcases committed_cases s (registerAccount config o s dto passwordHash) with
        heq | ⟨createdId, s', hok, heq⟩
      · rw [heq]
        exact .same rfl
      · have hexec : (exec config o s (.register caller dto passwordHash)).1 = s' := heq
        rw [heq]
        rw [registerAccount, mapError_eq_ok] at hok
        simp only [registerAccountWithin, bind_eq_ok, pure_eq_ok, Prod.exists, Prod.mk.injEq] at hok
        obtain ⟨id, db, hregister, _, _, -, _, -, _, -, challenges, hissue, -, rfl⟩ := hok
        simp only [registerWithin, bind_eq_ok, pure_eq_ok, Prod.mk.injEq] at hregister
        obtain ⟨users, husers, _, -, _, -, _, -, _, -, _, -, rfl, rfl⟩ := hregister
        refine .registered rfl husers ?_ hissue
        rw [hexec]
        refine ⟨newUser o.ctx o.referralCode dto, ?_, rfl⟩
        exact insertRow_eq_ok husers ▸ List.mem_append_right _ (List.mem_singleton_self _)
  | verifyEmail caller userId code =>
      have hafter : (exec config o s (.verifyEmail caller userId code)).1.challenges = _ :=
        verifyEmail_challenges config o.now s userId code
      rw [hafter]
      cases hawaited : awaited s userId with
      | none => exact .same (by rw [checked, hawaited]; rfl)
      | some c => exact .presented (by rw [checked, hawaited]; rfl)
  | resendVerification userId => exact codesAfter_resendVerification
  | issueReset userId email =>
      exact codesAfter_issue rfl rfl (.reset userId email) (hknown userId rfl)
  | issueLogin userId email =>
      exact codesAfter_issue rfl rfl (.login userId email) (hknown userId rfl)
  | completeReset caller challengeId code passwordHash =>
      exact codesAfter_completeReset caller challengeId code passwordHash hwrong
  | verifyCode challengeId code =>
      show CodesAfter config o s _ (verifyCode config o.now s challengeId code).2.challenges
      unfold verifyCode
      cases hfind : challengeFor .login challengeId s.challenges with
      | none => exact .same (by rw [checked, hfind]; rfl)
      | some c => exact .presented (by rw [checked, hfind]; rfl)
  | requestReset | resetCredential | resetExisting | requestCode | codeExisting | resendCode
  | recheck => exact .same rfl
  | _ =>
      rw [challenges_exec rfl]
      exact .same rfl

/-! ## Runs -/

/-- What is kept of codes and guesses, and that the codes are of users who are there. -/
structure Attempted (g : Guessing) : Prop where
  cooled : Cooled g.store.challenges.rows g.clock g.guesses
  counted : Counted g.store.challenges.rows g.guesses
  owners : ∀ c ∈ g.store.challenges.rows, HasUser g.store c.userId

theorem isCode_newChallenge (config : Config) (now : Timestamp) (id : Uuid) (code : String)
    (purpose : VerificationPurpose) (destination : String) (userId : Uuid) :
    IsCode (newChallenge config now id code purpose destination userId) :=
  ⟨rfl, rfl, rfl, rfl, Nat.zero_le _⟩

/-- The request closes the open codes that its own is to replace. -/
theorem Sends.covers {open_ : AccountVerificationChallenge → Bool}
    (h : Sends o s t userId purpose open_) {x : AccountVerificationChallenge} (hx : IsCode x)
    (huser : x.userId = userId) (hpurpose : x.purpose = purpose) (hopen : isOpen x = true) :
    open_ x = true := by
  cases h with
  | reset => simp [openReset, huser, hpurpose, hopen]
  | login => simp [openLogin, huser, hpurpose, hopen, hx.channel]
  | verification => simp [openEmail, huser, hopen, hx.channel]

/-- A request that sends a code found none cooling, nor one that was used up. -/
theorem Sends.rested {open_ : AccountVerificationChallenge → Bool}
    (h : Sends o s t userId purpose open_) (hrests : Rests o s t) :
    (cooling o.now s.challenges open_).isNone = true ∧
      NoneUsedUp o.now s.challenges.rows userId purpose := by
  cases h with
  | reset => exact hrests
  | login => exact hrests
  | verification _ hresends hcool => exact ⟨hcool, hrests hresends hcool⟩

/-- Presenting a code leaves every challenge its user. -/
theorem userId_of_redeem {challenges : Table AccountVerificationChallenge} {code : String}
    {x : AccountVerificationChallenge} (hx : x ∈ (redeem config now c code challenges).2.rows) :
    ∃ y ∈ challenges.rows, y.userId = x.userId := by
  unfold redeem at hx
  split at hx
  · obtain ⟨y, hy, rfl⟩ := List.mem_map.mp hx
    refine ⟨y, hy, ?_⟩
    split
    · rfl
    · rfl
  · obtain ⟨y, hy, rfl⟩ := List.mem_map.mp hx
    refine ⟨y, hy, ?_⟩
    split
    · rfl
    · rfl
  · exact ⟨x, hx, rfl⟩

/-- The codes of somebody who registers are sent to nobody else. -/
theorem not_sameUse_of_registered {u : User} {users : Table User}
    (howners : ∀ c ∈ s.challenges.rows, HasUser s c.userId)
    (huser : insertRow s.db.users u = .ok users) (hc : c.userId = u.id) :
    ∀ x ∈ s.challenges.rows, ¬ SameUse c x := by
  intro x hx hsame
  obtain ⟨y, hy, hid⟩ := howners x hx
  exact not_clash_of_insertRow huser y hy
    (.inl (.inl (.inl (hid.trans (hsame.userId.trans hc)))))

/-- **One step** keeps codes apart, and guesses at the open ones. -/
theorem Attempted.attempt {g : Guessing} (h : Attempted g)
    (hknown : ∀ target ∈ addressee t, HasUser g.store target)
    (hwrong : GuessesWrong config o g t) (hrests : Rests o g.store t) :
    Attempted (attempt config o g t).1 := by
  obtain ⟨hnow, hwrong⟩ := hwrong
  have hwrong : ∀ c code, checked g.store t = some (c, code) →
      validateChallenge config o.now c code ≠ .accepted := fun c code hc ↦ hwrong (c, code) hc
  have hkeep : ∀ {target : Uuid}, HasUser g.store target →
      HasUser (exec config o g.store t).1 target := fun hu ↦ hu.effect (exec_effect config o g.store t)
  have hunguessed : ∀ {id : Uuid}, Unused g.store id → ∀ x ∈ g.guesses, x.challengeId ≠ id := by
    rintro id hunused x hx rfl
    obtain ⟨-, c, hc, hat⟩ := h.cooled.guessed x hx
    exact hunused c hc hat.id
  have hguess : ∀ {p : Option (AccountVerificationChallenge × String)}, checked g.store t = p →
      guessOf config o g.store t = p.bind fun p ↦ compared config o.now p.1 p.2 := by
    rintro _ rfl
    rfl
  -- It is enough to look at the codes.
  suffices hcodes : ∀ challenges, CodesAfter config o g.store t challenges →
      Cooled challenges.rows o.now (g.guesses ++ (guessOf config o g.store t).toList) ∧
      Counted challenges.rows (g.guesses ++ (guessOf config o g.store t).toList) ∧
      ∀ c ∈ challenges.rows, HasUser (exec config o g.store t).1 c.userId by
    obtain ⟨hcooled, hcounted, howners⟩ := hcodes _ (exec_codesAfter hknown hwrong)
    exact ⟨hcooled, hcounted, howners⟩
  intro challenges hafter
  cases hafter with
  | same hchecked =>
      rw [hguess hchecked, Option.bind_none, Option.toList_none, List.append_nil]
      exact ⟨h.cooled.later hnow, h.counted, fun c hc ↦ hkeep (h.owners c hc)⟩
  | @presented c code hchecked =>
      obtain ⟨hc, hopen⟩ := mem_of_checked hchecked
      rw [hguess hchecked, Option.bind_some]
      refine ⟨h.cooled.redeem hnow hc hopen (hwrong c code hchecked),
        h.counted.redeem (hwrong c code hchecked), fun x hx ↦ ?_⟩
      obtain ⟨y, hy, huser⟩ := userId_of_redeem hx
      exact huser ▸ hkeep (h.owners y hy)
  | @sent target purpose open_ destination _ hchecked hsends huser hissue =>
      rw [hguess hchecked, Option.bind_none, Option.toList_none, List.append_nil]
      obtain ⟨hcool, hused⟩ := hsends.rested hrests
      obtain ⟨hrows, hfresh⟩ := issue_eq_ok hissue
      refine ⟨?_, ?_, ?_⟩
      · refine h.cooled.issue hnow hissue (isCode_newChallenge ..) rfl rfl ?_ ?_ hused
        · exact fun x hx hsame hopen ↦
            hsends.covers (h.cooled.codes x hx) hsame.userId hsame.purpose hopen
        · exact fun x hx hopen ↦ h.cooled.rested_of_cooling hcool hx hopen
      · rw [hrows]
        exact (h.counted.invalidated open_).send (hunguessed hfresh)
      · rw [hrows]
        refine List.forall_mem_append.mpr ⟨List.forall_mem_map.mpr fun x hx ↦ ?_,
          List.forall_mem_singleton.mpr (hkeep huser)⟩
        split
        · exact hkeep (h.owners x hx)
        · exact hkeep (h.owners x hx)
  | @registered destination _ u users hchecked huser hnew hissue =>
      rw [hguess hchecked, Option.bind_none, Option.toList_none, List.append_nil,
        insertRow_eq_ok hissue]
      have hnobody := not_sameUse_of_registered h.owners huser (c := newChallenge config o.now (o.uuid 9)
        o.code .accountVerification destination u.id) rfl
      refine ⟨?_, ?_, ?_⟩
      · exact (h.cooled.later hnow).send (isCode_newChallenge ..) rfl rfl
          (fun x hx hsame ↦ absurd hsame (hnobody x hx)) fun x hx hsame ↦ absurd hsame (hnobody x hx)
      · exact h.counted.send (hunguessed fun x hx hid ↦ not_clash_of_insertRow hissue x hx hid)
      · exact List.forall_mem_append.mpr
          ⟨fun x hx ↦ hkeep (h.owners x hx), List.forall_mem_singleton.mpr hnew⟩

/-- The guesses at codes of a user for a purpose. -/
def guessesAt (guesses : List Guess) (userId : Uuid) (purpose : VerificationPurpose) : List Guess :=
  guesses.filter fun g ↦ g.userId = userId && g.purpose = purpose

theorem mem_guessesAt {guesses : List Guess} {g : Guess} :
    g ∈ guessesAt guesses userId purpose ↔ g ∈ guesses ∧ g.userId = userId ∧ g.purpose = purpose := by
  simp only [guessesAt, List.mem_filter, Bool.and_eq_true, decide_eq_true_eq]

/-- Guesses at codes that are apart are at codes that relieve one another. -/
theorem Cooled.relieves {clock : Timestamp} {guesses : List Guess} (h : Cooled rows clock guesses) :
    Relieved verificationResendCooldownMs Guess.challengeId Guess.issuedAt Guess.guessedAt
      (guessesAt guesses userId purpose) where
  spaced x hx y hy hne := by
    obtain ⟨hx, hxuser, hxpurpose⟩ := mem_guessesAt.mp hx
    obtain ⟨hy, hyuser, hypurpose⟩ := mem_guessesAt.mp hy
    obtain ⟨-, c, hc, hxc⟩ := h.guessed x hx
    obtain ⟨-, d, hd, hyd⟩ := h.guessed y hy
    rw [← hxc.issuedAt, ← hyd.issuedAt]
    refine h.apart c hc d hd ⟨?_, ?_⟩ fun hid ↦ hne ?_
    · rw [hyd.userId, hxc.userId, hyuser, hxuser]
    · rw [hyd.purpose, hxc.purpose, hypurpose, hxpurpose]
    · rw [← hxc.id, ← hyd.id, hid]
  issued x hx := by
    obtain ⟨-, c, -, hat⟩ := h.guessed x (mem_guessesAt.mp hx).1
    exact hat.later
  relieved x hx y hy hlt := by
    obtain ⟨hx, hxuser, hxpurpose⟩ := mem_guessesAt.mp hx
    obtain ⟨hy, hyuser, hypurpose⟩ := mem_guessesAt.mp hy
    obtain ⟨-, d, hd, hyd⟩ := h.guessed y hy
    rw [← hyd.issuedAt] at hlt ⊢
    refine h.relieved x hx d hd ?_ ?_ hlt
    · rw [hyd.userId, hyuser, hxuser]
    · rw [hyd.purpose, hypurpose, hxpurpose]

/-- No challenge is guessed at more often than the limit. -/
theorem Attempted.count_le {g : Guessing} (h : Attempted g) (id : Uuid) :
    ((guessesAt g.guesses userId purpose).map Guess.challengeId).count id ≤
      verificationMaxAttempts := by
  have hle : ((guessesAt g.guesses userId purpose).map Guess.challengeId).count id ≤
      (g.guesses.map Guess.challengeId).count id := (List.filter_sublist.map _).count_le id
  by_cases hid : id ∈ g.guesses.map Guess.challengeId
  · obtain ⟨x, hx, rfl⟩ := List.mem_map.mp hid
    obtain ⟨-, c, hc, hat⟩ := h.cooled.guessed x hx
    have hcode := h.cooled.codes c hc
    calc _ ≤ (g.guesses.map Guess.challengeId).count x.challengeId := hle
      _ ≤ c.attemptCount := hat.id ▸ h.counted c hc
      _ ≤ verificationMaxAttempts := hcode.limit ▸ hcode.counted
  · rw [List.count_eq_zero.mpr hid] at hle
    exact hle.trans (Nat.zero_le _)

/-- **Codes are a minute apart**, and a minute sees ten guesses at most, as long as no request sends a
code while one that it would find, or one that was used up, is cooling.  This holds of any
interleaving of requests, among them guesses that are wrong. -/
theorem codes_apart {start q : Pool Guessing Request}
    (hcodes : start.shared.store.challenges.rows = []) (hguesses : start.shared.guesses = [])
    (hthreads : start.threads = [])
    (hrun : Reaches (Pool.advance (attempt config)) (Pool.Admitted (fun _ t ↦ t.isCall = true)
      fun o g t ↦ GuessesWrong config o g t ∧ Rests o g.store t) start q)
    (userId : Uuid) (purpose : VerificationPurpose) :
    (∀ c ∈ q.shared.store.challenges.rows, ∀ c' ∈ q.shared.store.challenges.rows,
      c.userId = userId → c'.userId = userId → c.purpose = purpose → c'.purpose = purpose →
      c'.id ≠ c.id → c.createdAt + verificationResendCooldownMs ≤ c'.createdAt ∨
        c'.createdAt + verificationResendCooldownMs ≤ c.createdAt) ∧
    ∀ since, (within verificationResendCooldownMs since Guess.guessedAt
      (guessesAt q.shared.guesses userId purpose)).length ≤ 2 * verificationMaxAttempts := by
  have hstart : Attempted start.shared := by
    refine ⟨?_, ?_, ?_⟩
    · rw [hcodes, hguesses]
      exact .nil _
    · rw [Counted, hcodes]
      exact List.forall_mem_nil _
    · rw [hcodes]
      exact List.forall_mem_nil _
  have hholds := Pool.invariant_of_guarantees (S := Attempted)
    (T := fun g t ↦ ∀ target ∈ addressee t, HasUser g.store target) hrun
    ⟨hstart, by simp [hthreads]⟩ (fun g t _ ht ↦ ?_) fun o g t h hknown hin ↦
      ⟨h.attempt hknown hin.1 hin.2, fun t' ht' target htarget ↦ ?_, fun u hu target htarget ↦ ?_⟩
  · have h := hholds.shared
    refine ⟨fun c hc c' hc' huser huser' hpurpose hpurpose' hne ↦ ?_, fun since ↦ ?_⟩
    · exact h.cooled.apart c hc c' hc' ⟨huser'.trans huser.symm, hpurpose'.trans hpurpose.symm⟩ hne
    · exact h.cooled.relieves.length_within_le (by decide) h.count_le
  · cases t with
    | resetCredential | resetExisting | issueReset | codeExisting | issueLogin => cases ht
    | _ => exact fun _ h ↦ nomatch h
  · exact (hasUser_of_next hknown ht' target htarget).effect (exec_effect config o g.store t)
  · exact (hu target htarget).effect (exec_effect config o g.store t)

/-! ### A code that is used up -/

section Sample

/-- Somebody who has registered asks for a new password. -/
def sampleAsked : List (Move Request Inputs) :=
  sampleMoves 1 [.register 1 sampleDto "hash of secret", .requestReset "ada@mail.com"]

/-- A wrong code for the challenge. -/
def sampleGuess (challengeId : Nat) : Request :=
  .completeReset 2 (.ofNat challengeId) "wrong" "hash of theirs"

/-- Where the moves lead in an empty store. -/
def sampleGuessing (moves : List (Move Request Inputs)) : Pool Guessing Request :=
  moves.foldl (Pool.advance (attempt sampleConfig)) ⟨⟨.empty, 0, []⟩, []⟩

/-- One guess, and another code a minute later. -/
def samplePatient : List (Move Request Inputs) :=
  sampleAsked ++ sampleMoves 9 [sampleGuess 800] ++
    sampleMoves 69 [.requestReset "ada@mail.com", sampleGuess 7200]

/-- Each code is used up, and the next one is asked for. -/
def sampleGrinding : List (Move Request Inputs) :=
  sampleAsked ++ sampleMoves 9 (List.replicate 5 (sampleGuess 800) ++ [.requestReset "ada@mail.com"] ++
    List.replicate 5 (sampleGuess 3200) ++ [.requestReset "ada@mail.com", sampleGuess 5600])

end Sample

theorem codes_apart_sample :
    (sampleGuessing samplePatient).shared.store.challenges.rows.length = 3 ∧
    (within verificationResendCooldownMs 9000 Guess.guessedAt
      (guessesAt (sampleGuessing samplePatient).shared.guesses (.ofNat 100) .passwordReset)).length ≤
        2 * verificationMaxAttempts := by
  have hthree : (sampleGuessing samplePatient).shared.store.challenges.rows.length = 3 := by
    decide +kernel
  have hrun : Reaches (Pool.advance (attempt sampleConfig)) (Pool.Admitted (fun _ t ↦ t.isCall = true)
      fun o g t ↦ GuessesWrong sampleConfig o g t ∧ Rests o g.store t) ⟨⟨.empty, 0, []⟩, []⟩
      (sampleGuessing samplePatient) := reaches_of_allAdmitted (by decide +kernel)
  generalize sampleGuessing samplePatient = q at hthree hrun ⊢
  exact ⟨hthree, (codes_apart rfl rfl rfl hrun (.ofNat 100) .passwordReset).2 9000⟩

/-- Five wrong codes invalidate the challenge, after which a request finds none that is cooling: three
codes are sent within a minute, and eleven guesses are made at them. -/
theorem codes_ground_down :
    Reaches (Pool.advance (attempt sampleConfig)) (Pool.Admitted (fun _ t ↦ t.isCall = true)
      fun o g t ↦ GuessesWrong sampleConfig o g t) ⟨⟨.empty, 0, []⟩, []⟩
      (sampleGuessing sampleGrinding) ∧
    (∃ c ∈ (sampleGuessing sampleGrinding).shared.store.challenges.rows,
      ∃ c' ∈ (sampleGuessing sampleGrinding).shared.store.challenges.rows,
        c.userId = .ofNat 100 ∧ c'.userId = .ofNat 100 ∧ c.purpose = .passwordReset ∧
        c'.purpose = .passwordReset ∧ c'.id ≠ c.id ∧ c.createdAt ≤ c'.createdAt ∧
          c'.createdAt < c.createdAt + verificationResendCooldownMs) ∧
    2 * verificationMaxAttempts < (within verificationResendCooldownMs 9000 Guess.guessedAt
      (guessesAt (sampleGuessing sampleGrinding).shared.guesses (.ofNat 100) .passwordReset)).length := by
  refine ⟨reaches_of_allAdmitted ?_, ?_, ?_⟩
  · decide +kernel
  · decide +kernel
  · decide +kernel

end AjoCloud.Auth
