import AjoCloud.Auth.Requests

/-!
# The purposes of codes

Three flows send codes and keep them in one table, with a column that says which flow a code is for.
Verification of the address is the one that does not look at the column.
-/

namespace AjoCloud.Auth

open Lib

variable {config : Config} {o : Inputs} {s s' : Store} {t : Request} {userId : Uuid}
  {code : String} {c : AccountVerificationChallenge} {now : Timestamp}
  {challenges challenges' : Table AccountVerificationChallenge} {purpose : VerificationPurpose}

/-! ## What a step has to do with which codes -/

/-- The purpose of the flow that the request belongs to. -/
def flow : Request → Option VerificationPurpose
  | .register .. | .verifyEmail .. | .resendVerification .. => some .accountVerification
  | .requestReset .. | .resetCredential .. | .resetExisting .. | .issueReset ..
  | .completeReset .. => some .passwordReset
  | .requestCode .. | .codeExisting .. | .issueLogin .. | .resendCode .. | .verifyCode ..
  | .recheck .. => some .login
  | _ => none

/-- The challenge that `verifyEmail` holds a code against; there is none once the address is
verified. -/
def awaited (s : Store) (userId : Uuid) : Option AccountVerificationChallenge :=
  match s.user? userId with
  | none => none
  | some user =>
      if (truthy user.email).isNone then none
      else if (s.emailVerifiedAt userId).isSome ∧ user.status = .active then none
      else findNewest s.challenges (openEmail userId)

/-- The challenge that the step holds a code against, and the code. -/
def checked (s : Store) : Request → Option (AccountVerificationChallenge × String)
  | .verifyEmail _ userId code => (awaited s userId).map fun c ↦ (c, code)
  | .completeReset _ challengeId code _ =>
      (challengeFor .passwordReset challengeId s.challenges).map fun c ↦ (c, code)
  | .verifyCode challengeId code =>
      (challengeFor .login challengeId s.challenges).map fun c ↦ (c, code)
  | _ => none

/-- The user to whom `resendVerification` sends another code. -/
def Resends (s : Store) (userId : Uuid) : Prop :=
  ((s.user? userId).bind fun u ↦ truthy u.email).isSome ∧ (s.emailVerifiedAt userId).isNone

instance (s : Store) (userId : Uuid) : Decidable (Resends s userId) :=
  inferInstanceAs (Decidable (_ ∧ _))

/-- The challenge for whose sake the step sends no other. -/
def coolingOff (o : Inputs) (s : Store) : Request → Option AccountVerificationChallenge
  | .resendVerification userId =>
      if Resends s userId then cooling o.now s.challenges (openEmail userId) else none
  | .resetExisting userId _ => cooling o.now s.challenges (openReset userId)
  | .codeExisting userId _ => cooling o.now s.challenges (openLogin userId)
  | .resendCode challengeId =>
      (s.challenges.find? fun c ↦ c.id = challengeId).filter fun c ↦
        c.purpose = .login && c.consumedAt.isNone && decide (o.now < c.resendAvailableAt)
  | _ => none

/-- The step keeps to the codes of its own flow. -/
structure Separate (config : Config) (o : Inputs) (s : Store) (t : Request) : Prop where
  /-- It redeems no code of another flow. -/
  redeemed : ∀ c code, checked s t = some (c, code) →
    validateChallenge config o.now c code = .accepted → flow t = some c.purpose
  /-- It consumes and invalidates no open challenge of another flow, and uses up none of its
  attempts. -/
  kept : ∀ c ∈ s.challenges.rows, isOpen c = true → flow t ≠ some c.purpose →
    c ∈ (exec config o s t).1.challenges.rows
  /-- It hides none from the only flow that looks for the newest one, also while the address is verified:
  once the user is suspended, the newest one is looked for again. -/
  visible : ∀ userId c, findNewest s.challenges (openEmail userId) = some c →
    c.purpose = .accountVerification → flow t ≠ some .accountVerification →
    findNewest (exec config o s t).1.challenges (openEmail userId) = some c
  /-- It does not wait for one. -/
  uncooled : ∀ c, coolingOff o s t = some c → flow t = some c.purpose

/-- What it takes for that.  Verification of the address meets only codes of its own, and no other
flow sends a code while one of those is the newest. -/
def OwnPurpose (config : Config) (o : Inputs) (s : Store) : Request → Prop
  | .verifyEmail _ userId code =>
      ∀ c ∈ awaited s userId, validateChallenge config o.now c code = .accepted ∨
        validateChallenge config o.now c code = .invalid → c.purpose = .accountVerification
  | .resendVerification userId => Resends s userId →
      match cooling o.now s.challenges (openEmail userId) with
      | some c => c.purpose = .accountVerification
      | none => (∀ x ∈ s.challenges.rows, x.id ≠ o.uuid 0) →
          ∀ c ∈ s.challenges.rows, openEmail userId c = true → c.purpose = .accountVerification
  | .issueReset userId _ | .issueLogin userId _ => (∀ x ∈ s.challenges.rows, x.id ≠ o.uuid 0) →
      ∀ c ∈ findNewest s.challenges (openEmail userId),
        c.purpose = .accountVerification → o.now < c.createdAt
  | _ => True

instance (config : Config) (o : Inputs) (s : Store) (t : Request) :
    Decidable (OwnPurpose config o s t) := by
  apply Request.casesOn (motive := fun t ↦ Decidable (OwnPurpose config o s t)) t
  case resendVerification =>
    intro userId
    dsimp only [OwnPurpose]
    refine @instDecidableForall _ _ _ ?_
    refine Option.casesOn (cooling o.now s.challenges (openEmail userId)) ?_ fun _ ↦ ?_
    · dsimp only
      infer_instance
    · dsimp only
      infer_instance
  all_goals (intros; dsimp only [OwnPurpose]; infer_instance)

/-! ## What the table looks like afterwards -/

theorem eq_of_challenge_id {c c' : AccountVerificationChallenge} (hc : c ∈ challenges.rows)
    (hc' : c' ∈ challenges.rows) (h : c.id = c'.id) : c = c' := challenges.eq_of_clash hc hc' h

theorem mem_of_findNewest {p : AccountVerificationChallenge → Bool}
    (h : findNewest challenges p = some c) : c ∈ challenges.rows ∧ p c = true :=
  Table.mem_findMany.mp (mem_of_newest h)

theorem mem_of_challengeFor {challengeId : Uuid}
    (h : challengeFor purpose challengeId challenges = some c) :
    c ∈ challenges.rows ∧ c.purpose = purpose := by
  obtain ⟨hfind, hfor⟩ := Option.filter_eq_some_iff.mp h
  simp only [Bool.and_eq_true, decide_eq_true_eq] at hfor
  exact ⟨Table.mem_of_find? hfind, hfor.1⟩

theorem mem_of_cooling {p : AccountVerificationChallenge → Bool}
    (h : cooling now challenges p = some c) : p c = true :=
  (mem_of_findNewest (Option.filter_eq_some_iff.mp h).1).2

/-- At most the one challenge was rewritten, and not so that it would look newer, or open again. -/
def Marked (c : AccountVerificationChallenge)
    (challenges challenges' : Table AccountVerificationChallenge) : Prop :=
  ∃ f, challenges'.rows = challenges.rows.map f ∧ (∀ x, x.id ≠ c.id → f x = x) ∧
    ∀ userId x, openEmail userId (f x) = true →
      openEmail userId x = true ∧ (f x).createdAt = x.createdAt

namespace Marked

theorem refl (c : AccountVerificationChallenge) (challenges : Table AccountVerificationChallenge) :
    Marked c challenges challenges :=
  ⟨id, (List.map_id _).symm, fun _ _ ↦ rfl, fun _ _ h ↦ ⟨h, rfl⟩⟩

theorem redeem (config : Config) (now : Timestamp) (c : AccountVerificationChallenge)
    (code : String) (challenges : Table AccountVerificationChallenge) :
    Marked c challenges (redeem config now c code challenges).2 := by
  unfold Auth.redeem
  split
  · refine ⟨fun x ↦ if x.id = c.id then consumeChallenge now x else x, by simp, ?_, ?_⟩
    · exact fun x hx ↦ if_neg hx
    · intro userId x
      dsimp only
      split
      · simp [openEmail, isOpen, consumeChallenge]
      · exact fun h ↦ ⟨h, rfl⟩
  · refine ⟨fun x ↦ if x.id = c.id then countAttempt now x else x, by simp, ?_, ?_⟩
    · exact fun x hx ↦ if_neg hx
    · intro userId x
      dsimp only
      split
      · simp only [openEmail, isOpen, countAttempt]
        grind
      · exact fun h ↦ ⟨h, rfl⟩
  · exact refl c challenges

theorem kept (h : Marked c challenges challenges') (hc : c ∈ challenges.rows)
    {x : AccountVerificationChallenge} (hx : x ∈ challenges.rows) (hne : x.purpose ≠ c.purpose) :
    x ∈ challenges'.rows := by
  obtain ⟨f, hrows, hsame, -⟩ := h
  rw [hrows, List.mem_map]
  exact ⟨x, hx, hsame x fun hid ↦ hne (eq_of_challenge_id hx hc hid ▸ rfl)⟩

theorem visible (h : Marked c challenges challenges') (hc : c ∈ challenges.rows)
    {x : AccountVerificationChallenge} (hx : findNewest challenges (openEmail userId) = some x)
    (hne : x.purpose ≠ c.purpose) : findNewest challenges' (openEmail userId) = some x := by
  obtain ⟨f, hrows, hsame, hopen⟩ := h
  have hstored := (mem_of_findNewest hx).1
  rw [findNewest, Table.findMany, hrows]
  exact newest_rewrite (hopen userId) hx
    (hsame x fun hid ↦ hne (eq_of_challenge_id hstored hc hid ▸ rfl))

end Marked

theorem issue_eq_ok {open_ : AccountVerificationChallenge → Bool}
    (h : issue now open_ c challenges = .ok challenges') :
    challenges'.rows = (challenges.rows.map fun x ↦ if open_ x then invalidate now x else x) ++ [c] ∧
      ∀ x ∈ challenges.rows, x.id ≠ c.id := by
  refine ⟨?_, fun x hx hid ↦ ?_⟩
  · rw [insertRow_eq_ok h, Table.rows_modify]
  · refine not_clash_of_insertRow h _ (List.mem_map_of_mem hx) ?_
    split
    · exact hid
    · exact hid

theorem exists_issue (now : Timestamp) (open_ : AccountVerificationChallenge → Bool)
    (h : ∀ x ∈ challenges.rows, x.id ≠ c.id) :
    ∃ challenges', issue now open_ c challenges = .ok challenges' := by
  refine exists_insertRow fun x hx hclash ↦ ?_
  obtain ⟨y, hy, rfl⟩ := List.mem_map.mp hx
  refine h y hy ?_
  split at hclash
  · exact hclash
  · exact hclash

/-! ## Steps that keep to themselves -/

/-- A step that leaves the codes alone. -/
theorem Separate.same (hsame : (exec config o s t).1.challenges = s.challenges)
    (hchecked : checked s t = none) (hcool : ∀ c, coolingOff o s t = some c → flow t = some c.purpose) :
    Separate config o s t where
  redeemed c code h := by simp [hchecked] at h
  kept c hc _ _ := hsame ▸ hc
  visible userId c h _ _ := hsame ▸ h
  uncooled := hcool

/-- What every outcome of a transaction has in common with the store it began in. -/
theorem committed_same {α β : Type} {f : Store → β} {result : Except ServiceError (α × Store)}
    (h : ∀ a s', result = .ok (a, s') → f s' = f s) : f (committed s result) = f s := by
  rcases committed_cases s result with heq | ⟨a, s', hok, heq⟩
  · rw [heq]
  · rw [heq]
    exact h a s' hok

theorem separate_register (caller : Principal) (dto : RegisterDto) (passwordHash : String) :
    Separate config o s (.register caller dto passwordHash) where
  redeemed := by simp [checked]
  kept c hc _ _ := by
    rcases committed_cases s (registerAccount config o s dto passwordHash) with
      heq | ⟨_, s', hok, heq⟩
    · rw [exec, heq]
      exact hc
    · rw [exec, heq]
      rw [registerAccount, mapError_eq_ok] at hok
      simp only [registerAccountWithin, bind_eq_ok, pure_eq_ok, Prod.exists, Prod.mk.injEq] at hok
      obtain ⟨_, _, -, _, _, -, _, -, _, -, challenges, hinsert, -, rfl⟩ := hok
      change c ∈ challenges.rows
      rw [insertRow_eq_ok hinsert]
      exact List.mem_append_left _ hc
  visible _ _ _ _ hflow := absurd rfl hflow
  uncooled := by simp [coolingOff]

/-- A step that rewrites one challenge at most, of its own flow, keeps to its own. -/
theorem Separate.marked (hflow : flow t = some purpose)
    (hchecked : ∀ c code, checked s t = some (c, code) → c.purpose = purpose)
    (hmarked : (exec config o s t).1.challenges = s.challenges ∨
      ∃ c, (c ∈ s.challenges.rows ∧ c.purpose = purpose) ∧
        Marked c s.challenges (exec config o s t).1.challenges)
    (hcool : coolingOff o s t = none) (hpurpose : purpose ≠ .accountVerification) :
    Separate config o s t where
  redeemed c code h _ := by rw [hflow, hchecked c code h]
  kept c hc _ hother := by
    rcases hmarked with hsame | ⟨c₀, ⟨hc₀, hown⟩, hmarked⟩
    · rw [hsame]
      exact hc
    · exact hmarked.kept hc₀ hc fun heq ↦ hother (by rw [hflow, heq, hown])
  visible userId c hc hverifies _ := by
    rcases hmarked with hsame | ⟨c₀, ⟨hc₀, hown⟩, hmarked⟩
    · rw [hsame]
      exact hc
    · exact hmarked.visible hc₀ hc (by rw [hverifies, hown]; exact hpurpose.symm)
  uncooled c h := by simp [hcool] at h

theorem separate_completeReset (caller : Principal) (challengeId : Uuid)
    (code passwordHash : String) :
    Separate config o s (.completeReset caller challengeId code passwordHash) := by
  refine .marked rfl ?_ ?_ rfl (by simp)
  · rintro c _ hchecked
    obtain ⟨_, hfound, heq⟩ := Option.map_eq_some_iff.mp hchecked
    cases heq
    exact (mem_of_challengeFor hfound).2
  · rcases committed_cases s (completeReset config o s challengeId code passwordHash) with
      heq | ⟨_, s', hok, heq⟩
    · rw [exec, heq]
      exact .inl rfl
    · rw [exec, heq]
      unfold completeReset at hok
      split at hok
      · cases hok
        exact .inl rfl
      · next c hfound =>
          have hredeem := Marked.redeem config o.now c code s.challenges
          refine .inr ⟨c, mem_of_challengeFor hfound, ?_⟩
          split at hok
          · next challenges hr =>
              rw [hr] at hredeem
              simp only [bind_eq_ok, pure_eq_ok, Prod.mk.injEq] at hok
              obtain ⟨_, -, -, rfl⟩ := hok
              exact hredeem
          · next other challenges _ hr =>
              rw [hr] at hredeem
              cases hok
              exact hredeem

theorem separate_verifyCode (challengeId : Uuid) (code : String) :
    Separate config o s (.verifyCode challengeId code) := by
  refine .marked rfl ?_ ?_ rfl (by simp)
  · rintro c _ hchecked
    obtain ⟨_, hfound, heq⟩ := Option.map_eq_some_iff.mp hchecked
    cases heq
    exact (mem_of_challengeFor hfound).2
  · change (verifyCode config o.now s challengeId code).2.challenges = s.challenges ∨ ∃ c, _ ∧
      Marked c s.challenges (verifyCode config o.now s challengeId code).2.challenges
    unfold verifyCode
    split
    · exact .inl rfl
    · next c hfound => exact .inr ⟨c, mem_of_challengeFor hfound, Marked.redeem config o.now c code _⟩

/-! ## Verification of the address -/

/-- What `verifyEmail` does to the codes. -/
theorem verifyEmail_challenges (config : Config) (now : Timestamp) (s : Store) (userId : Uuid)
    (code : String) : (verifyEmail config now s userId code).2.challenges =
      match awaited s userId with
      | none => s.challenges
      | some c => (redeem config now c code s.challenges).2 := by
  cases huser : s.user? userId with
  | none => simp [verifyEmail, awaited, huser]
  | some user =>
      by_cases hmissing : (truthy user.email).isNone
      · simp [verifyEmail, awaited, huser, hmissing]
      · by_cases hdone : (s.emailVerifiedAt userId).isSome ∧ user.status = .active
        · simp [verifyEmail, awaited, huser, hmissing, hdone]
        · cases hfind : findNewest s.challenges (openEmail userId) with
          | none => simp [verifyEmail, awaited, huser, hmissing, hdone, hfind]
          | some c =>
              simp only [verifyEmail, awaited, huser, hmissing, hdone, hfind, Bool.false_eq_true,
                if_false]
              generalize redeem config now c code s.challenges = outcome
              obtain ⟨result, challenges⟩ := outcome
              cases result with
              | _ => rfl

/-- A code that is redeemed, or guessed at, leaves a mark on its challenge. -/
theorem not_mem_of_redeem {code : String} (hc : c ∈ challenges.rows) (hopen : isOpen c = true)
    (h : validateChallenge config now c code = .accepted ∨
      validateChallenge config now c code = .invalid) :
    c ∉ (redeem config now c code challenges).2.rows := by
  intro hmem
  unfold redeem at hmem
  rcases h with hvalid | hinvalid
  · rw [hvalid, Table.rows_modify, List.mem_map] at hmem
    obtain ⟨x, hx, heq⟩ := hmem
    split at heq
    · rw [← heq] at hopen
      simp [isOpen, consumeChallenge] at hopen
    · next hne => exact hne (by rw [heq]; simp)
  · rw [hinvalid, Table.rows_modify, List.mem_map] at hmem
    obtain ⟨x, hx, heq⟩ := hmem
    split at heq
    · next hid =>
        have hsame := eq_of_challenge_id hx hc (of_decide_eq_true hid)
        have hcount := congrArg AccountVerificationChallenge.attemptCount heq
        simp [countAttempt, hsame] at hcount
    · next hne => exact hne (by rw [heq]; simp)

theorem mem_of_awaited (h : awaited s userId = some c) :
    c ∈ s.challenges.rows ∧ isOpen c = true := by
  unfold awaited at h
  split at h
  · cases h
  · split at h
    · cases h
    · split at h
      · cases h
      · obtain ⟨hmem, hopen⟩ := mem_of_findNewest h
        simp only [openEmail, Bool.and_eq_true] at hopen
        exact ⟨hmem, hopen.2⟩

theorem separate_verifyEmail_iff (caller : Principal) :
    Separate config o s (.verifyEmail caller userId code) ↔
      OwnPurpose config o s (.verifyEmail caller userId code) := by
  have hafter : (exec config o s (.verifyEmail caller userId code)).1.challenges = _ :=
    verifyEmail_challenges config o.now s userId code
  constructor
  · intro h c hc hmarks
    by_contra hother
    obtain ⟨hmem, hopen⟩ := mem_of_awaited hc
    have hkept := h.kept c hmem hopen (by simpa [flow] using Ne.symm hother)
    rw [hafter, Option.mem_def.mp hc] at hkept
    exact not_mem_of_redeem hmem hopen hmarks hkept
  · intro h
    refine ⟨?_, ?_, fun _ _ _ _ hflow ↦ absurd rfl hflow, by simp [coolingOff]⟩
    · rintro c _ hchecked hvalid
      obtain ⟨_, hawaited, heq⟩ := Option.map_eq_some_iff.mp hchecked
      cases heq
      rw [h c hawaited (.inl hvalid), flow]
    · intro c hc _ hother
      rw [hafter]
      cases hawaited : awaited s userId with
      | none => exact hc
      | some c₀ =>
          by_cases hmarks : validateChallenge config o.now c₀ code = .accepted ∨
              validateChallenge config o.now c₀ code = .invalid
          · have hown := h c₀ hawaited hmarks
            refine (Marked.redeem config o.now c₀ code _).kept (mem_of_awaited hawaited).1 hc ?_
            exact fun heq ↦ hother (by rw [flow, heq, hown])
          · -- An expired or locked challenge is left as it is.
            dsimp only
            unfold redeem
            split
            · next hvalid => exact absurd (.inl hvalid) hmarks
            · next hinvalid => exact absurd (.inr hinvalid) hmarks
            · exact hc

/-! ## Sending a code -/

/-- The identifier that is drawn for a new challenge is not taken. -/
def Unused (s : Store) (id : Uuid) : Prop := ∀ x ∈ s.challenges.rows, x.id ≠ id

/-- A code is issued, unless its identifier is taken. -/
theorem committed_issue {α : Type} (s : Store) (now : Timestamp) (a : α)
    (open_ : AccountVerificationChallenge → Bool) (c : AccountVerificationChallenge) :
    (Unused s c.id ∧ ∃ challenges, issue now open_ c s.challenges = .ok challenges ∧
      committed s (do
        let challenges ← issue now open_ c s.challenges
        pure (a, { s with challenges := challenges })) = { s with challenges := challenges }) ∨
    (¬ Unused s c.id ∧ committed s (do
        let challenges ← issue now open_ c s.challenges
        pure (a, { s with challenges := challenges })) = s) := by
  by_cases hunused : Unused s c.id
  · obtain ⟨challenges, hissue⟩ := exists_issue now open_ hunused
    refine .inl ⟨hunused, challenges, hissue, ?_⟩
    rw [bind_of_eq_ok hissue]
    rfl
  · refine .inr ⟨hunused, ?_⟩
    cases hissue : issue now open_ c s.challenges with
    | error e => rfl
    | ok challenges => exact absurd (issue_eq_ok hissue).2 hunused

/-- What happens to the challenges of other flows when a code is issued. -/
theorem mem_issue {open_ : AccountVerificationChallenge → Bool} {x : AccountVerificationChallenge}
    (h : issue now open_ c challenges = .ok challenges') (hx : x ∈ challenges.rows) :
    (open_ x = false → x ∈ challenges'.rows) ∧
      (open_ x = true → isOpen x = true → x ∉ challenges'.rows) := by
  obtain ⟨hrows, hfresh⟩ := issue_eq_ok h
  constructor
  · intro hother
    rw [hrows]
    refine List.mem_append_left _ (List.mem_map.mpr ⟨x, hx, ?_⟩)
    simp [hother]
  · intro hpicked hopen hmem
    rw [hrows, List.mem_append, List.mem_singleton, List.mem_map] at hmem
    rcases hmem with ⟨y, hy, heq⟩ | rfl
    · have hid : y.id = x.id := by
        rw [← heq]
        split
        · rfl
        · rfl
      rw [eq_of_challenge_id hy hx hid, if_pos hpicked] at heq
      rw [← heq] at hopen
      simp [isOpen, invalidate] at hopen
    · exact hfresh x hx rfl

/-- After a code was issued, the newest of the user's is that code, or was before. -/
theorem findNewest_issue {open_ : AccountVerificationChallenge → Bool}
    {x : AccountVerificationChallenge} {target : Uuid}
    (h : issue now open_ c challenges = .ok challenges')
    (hx : findNewest challenges (openEmail target) = some x) (hother : open_ x = false) :
    findNewest challenges' (openEmail target) =
      if openEmail target c = true ∧ ¬ c.createdAt < x.createdAt then some c else some x := by
  have hold : newest ((challenges.rows.map fun y ↦ if open_ y then invalidate now y else y).filter
      (openEmail target)) = some x := by
    refine newest_rewrite ?_ hx (by simp [hother])
    intro y
    split
    · simp [openEmail, isOpen, invalidate]
    · exact fun hopen ↦ ⟨hopen, rfl⟩
  rw [findNewest, Table.findMany, (issue_eq_ok h).1, List.filter_append]
  by_cases hc : openEmail target c = true
  · rw [List.filter_cons_of_pos hc, List.filter_nil, newest_append_singleton, hold]
    by_cases hlt : c.createdAt < x.createdAt
    · simp [hlt]
    · simp [hc, hlt]
  · rw [List.filter_cons_of_neg hc, List.filter_nil, List.append_nil, hold]
    simp [hc]

theorem resendVerification_cases (config : Config) (o : Inputs) (s : Store) (userId : Uuid) :
    ((Resends s userId → ∃ c, cooling o.now s.challenges (openEmail userId) = some c) ∧
      committed s (resendVerification config o s userId) = s) ∨
    (Resends s userId ∧ cooling o.now s.challenges (openEmail userId) = none ∧
      ∃ c : AccountVerificationChallenge, c.id = o.uuid 0 ∧ c.purpose = .accountVerification ∧
        resendVerification config o s userId = do
          let challenges ← issue o.now (openEmail userId) c s.challenges
          pure (.created c.id, { s with challenges := challenges })) := by
  unfold resendVerification Resends
  cases hdestination : (s.user? userId).bind fun u ↦ truthy u.email with
  | none => exact .inl ⟨by simp, rfl⟩
  | some destination =>
      cases hverified : s.emailVerifiedAt userId with
      | some _ => exact .inl ⟨by simp, rfl⟩
      | none =>
          cases hcool : cooling o.now s.challenges (openEmail userId) with
          | some latest => exact .inl ⟨fun _ ↦ ⟨latest, rfl⟩, rfl⟩
          | none => exact .inr ⟨by simp, rfl, _, rfl, rfl, rfl⟩

theorem separate_resendVerification_iff :
    Separate config o s (.resendVerification userId) ↔
      OwnPurpose config o s (.resendVerification userId) := by
  have hcool : coolingOff o s (.resendVerification userId) =
      if Resends s userId then cooling o.now s.challenges (openEmail userId) else none := rfl
  rcases resendVerification_cases config o s userId with ⟨hwaits, hsame⟩ | ⟨hresends, hnone, c, hid,
    hpurpose, hissue⟩
  · have hafter : (exec config o s (.resendVerification userId)).1 = s := hsame
    constructor
    · intro h hresends
      obtain ⟨c, hc⟩ := hwaits hresends
      rw [hc]
      have hown := h.uncooled c (by rw [hcool, if_pos hresends, hc])
      exact (Option.some.inj hown).symm
    · intro h
      refine .same (by rw [hafter]) rfl fun c hc ↦ ?_
      rw [hcool] at hc
      split at hc
      · next hresends =>
          have hown := h hresends
          rw [hc] at hown
          rw [show c.purpose = _ from hown]
          rfl
      · cases hc
  · have hafter : (exec config o s (.resendVerification userId)).1 = _ := congrArg (committed s) hissue
    have hquiet : coolingOff o s (.resendVerification userId) = none := by
      rw [hcool, if_pos hresends, hnone]
    rcases committed_issue s o.now (Resend.created c.id) (openEmail userId) c with
      ⟨hunused, challenges, hok, heq⟩ | ⟨hused, heq⟩
    · rw [heq] at hafter
      constructor
      · intro h _
        rw [hnone]
        intro _ x hx hopen
        by_contra hother
        have hx' := h.kept x hx (by simp only [openEmail, Bool.and_eq_true] at hopen; exact hopen.2)
          (by simpa [flow] using Ne.symm hother)
        rw [hafter] at hx'
        refine (mem_issue hok hx).2 hopen ?_ hx'
        simp only [openEmail, Bool.and_eq_true] at hopen
        exact hopen.2
      · intro h
        have hown := h hresends
        rw [hnone] at hown
        refine ⟨by simp [checked], ?_, fun _ _ _ _ hflow ↦ absurd rfl hflow, by simp [hquiet]⟩
        intro x hx _ hother
        rw [hafter]
        refine (mem_issue hok hx).1 ?_
        by_contra hpicked
        have := hown (hid ▸ hunused) x hx (by simpa using hpicked)
        exact hother (by rw [this, flow])
    · rw [heq] at hafter
      constructor
      · intro _ _
        rw [hnone]
        intro hunused
        exact absurd (hid ▸ hunused) hused
      · intro _
        exact .same (by rw [hafter]) rfl (by simp [hquiet])

theorem openEmail_newChallenge {id target : Uuid} {destination : String} :
    openEmail target (newChallenge config now id code purpose destination userId) = true ↔
      target = userId := by
  simp only [openEmail, isOpen, newChallenge, Bool.and_eq_true, decide_true, Option.isNone_none,
    and_true]
  exact ⟨fun h ↦ (of_decide_eq_true h).symm, fun h ↦ decide_eq_true h.symm⟩

/-- A code of another flow hides the code for the address, unless that is from a later moment. -/
theorem separate_issue_iff {α : Type} (a : α) {open_ : AccountVerificationChallenge → Bool}
    (c : AccountVerificationChallenge)
    (hexec : (exec config o s t).1 = committed s (do
      let challenges ← issue o.now open_ c s.challenges
      pure (a, { s with challenges := challenges })))
    (hflow : flow t = some purpose) (hother : purpose ≠ .accountVerification)
    (hchecked : checked s t = none) (hcool : coolingOff o s t = none)
    (hopen : ∀ x, open_ x = true → x.purpose = purpose)
    (hnew : ∀ target, openEmail target c = true ↔ target = userId) (hpurpose : c.purpose = purpose)
    (hcreated : c.createdAt = o.now) :
    Separate config o s t ↔ (Unused s c.id →
      ∀ x ∈ findNewest s.challenges (openEmail userId), x.purpose = .accountVerification →
        o.now < x.createdAt) := by
  rcases committed_issue s o.now a open_ c with
    ⟨hunused, challenges, hok, heq⟩ | ⟨hused, heq⟩
  · rw [heq] at hexec
    constructor
    · intro h _ x hx hverifies
      by_contra hlate
      have hvisible := h.visible userId x hx hverifies (by simp [hflow, hother])
      have hspared : open_ x = false := by
        by_contra hpicked
        exact hother ((hopen x (by simpa using hpicked)).symm.trans hverifies)
      rw [hexec, findNewest_issue hok hx hspared, if_pos ⟨(hnew userId).mpr rfl, by rwa [hcreated]⟩]
        at hvisible
      cases hvisible
      exact hother (hpurpose.symm.trans hverifies)
    · intro h
      refine ⟨by simp [hchecked], ?_, ?_, by simp [hcool]⟩
      · intro x hx _ hforeign
        rw [hexec]
        refine (mem_issue hok hx).1 ?_
        by_contra hpicked
        exact hforeign (by rw [hflow, hopen x (by simpa using hpicked)])
      · intro target x hx hverifies _
        have hspared : open_ x = false := by
          by_contra hpicked
          exact hother ((hopen x (by simpa using hpicked)).symm.trans hverifies)
        rw [hexec, findNewest_issue hok hx hspared]
        refine if_neg ?_
        rintro ⟨hfor, hlate⟩
        obtain rfl := (hnew target).mp hfor
        exact hlate (hcreated ▸ h hunused x hx hverifies)
  · rw [heq] at hexec
    constructor
    · exact fun _ hunused ↦ absurd hunused hused
    · intro _
      exact .same (by rw [hexec]) hchecked (by simp [hcool])

theorem separate_issueReset_iff (email : String) :
    Separate config o s (.issueReset userId email) ↔
      OwnPurpose config o s (.issueReset userId email) := by
  refine separate_issue_iff (o.uuid 0)
    (newChallenge config o.now (o.uuid 0) o.code .passwordReset email userId) rfl rfl (by simp) rfl rfl ?_
    ?_ rfl rfl
  · intro x hx
    simp only [openReset, Bool.and_eq_true, decide_eq_true_eq] at hx
    exact hx.1.2
  · exact fun target ↦ openEmail_newChallenge

theorem separate_issueLogin_iff (email : String) :
    Separate config o s (.issueLogin userId email) ↔
      OwnPurpose config o s (.issueLogin userId email) := by
  refine separate_issue_iff (o.uuid 0)
    (newChallenge config o.now (o.uuid 0) o.code .login email userId) rfl rfl (by simp) rfl rfl ?_
    ?_ rfl rfl
  · intro x hx
    simp only [openLogin, Bool.and_eq_true, decide_eq_true_eq] at hx
    exact hx.1.2
  · exact fun target ↦ openEmail_newChallenge

/-! ## Every step, and every run -/

/-- Google, staff invitations and operators have nothing to do with codes. -/
theorem challenges_exec (h : flow t = none) : (exec config o s t).1.challenges = s.challenges := by
  cases t with
  | openSession userId how =>
      refine committed_same fun _ s' h ↦ ?_
      simp only [openSession, bind_eq_ok, pure_eq_ok, Prod.exists, Prod.mk.injEq] at h
      obtain ⟨_, _, -, -, rfl⟩ := h
      rfl
  | linkGoogle caller claims email userId verifiedAt =>
      refine committed_same fun _ s' h ↦ ?_
      simp only [linkGoogle, bind_eq_ok, pure_eq_ok, Prod.mk.injEq] at h
      obtain ⟨_, -, _, -, -, rfl⟩ := h
      rfl
  | createGoogle caller claims email =>
      refine committed_same fun _ s' h ↦ ?_
      simp only [createGoogle, bind_eq_ok, pure_eq_ok, Prod.mk.injEq] at h
      obtain ⟨_, -, _, -, _, -, _, -, -, rfl⟩ := h
      rfl
  | redeemInvite caller inviteId passwordHash =>
      refine committed_same fun _ s' h ↦ ?_
      simp only [accept, bind_eq_ok, require_eq_ok, orThrow_eq_ok, exists_const, pure_eq_ok,
        Prod.mk.injEq] at h
      obtain ⟨_, -, -, -, -, _, -, _, -, _, -, _, -, -, rfl⟩ := h
      rfl
  | register => cases h
  | verifyEmail => cases h
  | resendVerification => cases h
  | issueReset => cases h
  | completeReset => cases h
  | issueLogin => cases h
  | verifyCode => cases h
  | _ => rfl

/-- A step keeps to the codes of its own flow exactly when it meets the condition. -/
theorem separate_iff (config : Config) (o : Inputs) (s : Store) (t : Request) :
    Separate config o s t ↔ OwnPurpose config o s t := by
  cases t with
  | register caller dto passwordHash =>
      exact iff_of_true (separate_register caller dto passwordHash) trivial
  | verifyEmail caller userId code => exact separate_verifyEmail_iff caller
  | resendVerification userId => exact separate_resendVerification_iff
  | completeReset caller challengeId code passwordHash =>
      exact iff_of_true (separate_completeReset caller challengeId code passwordHash) trivial
  | issueReset userId email => exact separate_issueReset_iff email
  | issueLogin userId email => exact separate_issueLogin_iff email
  | verifyCode challengeId code => exact iff_of_true (separate_verifyCode challengeId code) trivial
  | resetExisting userId email =>
      refine iff_of_true (.same rfl rfl fun c hc ↦ ?_) trivial
      have hreset := mem_of_cooling hc
      simp only [openReset, Bool.and_eq_true, decide_eq_true_eq] at hreset
      rw [hreset.1.2, flow]
  | codeExisting userId email =>
      refine iff_of_true (.same rfl rfl fun c hc ↦ ?_) trivial
      have hlogin := mem_of_cooling hc
      simp only [openLogin, Bool.and_eq_true, decide_eq_true_eq] at hlogin
      rw [hlogin.1.2, flow]
  | resendCode challengeId =>
      refine iff_of_true (.same rfl rfl fun c hc ↦ ?_) trivial
      obtain ⟨-, hlogin⟩ := Option.filter_eq_some_iff.mp hc
      simp only [Bool.and_eq_true, decide_eq_true_eq] at hlogin
      rw [hlogin.1.1, flow]
  | requestReset => exact iff_of_true (.same rfl rfl (by simp [coolingOff])) trivial
  | resetCredential => exact iff_of_true (.same rfl rfl (by simp [coolingOff])) trivial
  | requestCode => exact iff_of_true (.same rfl rfl (by simp [coolingOff])) trivial
  | recheck => exact iff_of_true (.same rfl rfl (by simp [coolingOff])) trivial
  | _ => exact iff_of_true (.same (challenges_exec rfl) rfl (by simp [coolingOff])) trivial

/-- **Which runs keep the purposes of codes apart**: those in which verification of the address meets
only codes of its own, and no other flow sends a code while one of those is the newest. -/
theorem purposes_apart_iff {p q : Pool Store Request}
    {history : List (Pool Store Request × Move Request Inputs)} :
    Traced (Pool.advance (exec config))
        (Pool.Admitted (fun _ t ↦ t.isCall = true) (Separate config)) p history q ↔
      Traced (Pool.advance (exec config))
        (Pool.Admitted (fun _ t ↦ t.isCall = true) (OwnPurpose config)) p history q := by
  have hsame : Separate config = OwnPurpose config := by
    funext o s t
    exact propext (separate_iff config o s t)
  rw [hsame]

section Sample

/-- A user registers and asks for a new password; then they verify the address with the code for
that. -/
def sampleMixed : List (Move Request Inputs) :=
  sampleMoves 1 [.register 1 sampleDto "hash of secret", .requestReset "ada@mail.com"] ++
    [.spawn (.verifyEmail 1 (.ofNat 100) "481518")]

end Sample

/-- A code for a new password is redeemed as if it were for the address. -/
theorem purposes_mixed :
    ¬ ∀ (config : Config) (q : Pool Store Request) (i : Nat) (o : Inputs) (t : Request),
      Reaches (Pool.advance (exec config))
        (Pool.Admitted (fun _ t ↦ t.isCall = true) fun _ _ _ ↦ True) ⟨.empty, []⟩ q →
      q.threads[i]? = some t → Separate config o q.shared t := by
  intro h
  have hrun : Reaches (Pool.advance (exec sampleConfig))
      (Pool.Admitted (fun _ t ↦ t.isCall = true) fun _ _ _ ↦ True) ⟨.empty, []⟩
      (sampleMixed.foldl (Pool.advance (exec sampleConfig)) ⟨.empty, []⟩) :=
    reaches_of_allAdmitted (by decide +kernel)
  have hown := (separate_iff _ _ _ _).mp
    (h sampleConfig _ 0 (sampleInputs 9) (.verifyEmail 1 (.ofNat 100) "481518") hrun rfl)
  exact absurd hown (by decide +kernel)

end AjoCloud.Auth
