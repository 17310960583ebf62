import AjoCloud.Notifications.System

/-!
# A push token belongs to whoever registered it last

A token identifies an installation, not a person.  Two rows that held one token would both look deliverable,
and one of them would send somebody's notifications to another person's handset; in no order of steps does
that happen.
-/

namespace AjoCloud.Devices

open Lib Notifications ServiceError

variable {o : Told} {w : World} {t : Task} {ctx : Ctx} {userId user : Uuid} {dto : RegisterDeviceDto}
  {devices devices' : Table Device} {token : String} {d : Device}

/-! ## Claims -/

/-- The user and the installation of a row. -/
def ownerOf (d : Device) : Uuid × String := (d.userId, d.fingerprint)

/-- What a step claims: a registration that goes through claims the token that it supplies. -/
def claimOf (o : Told) (w : World) : Task → Option (String × Uuid × String)
  | .register userId dto =>
      if (register o.ctx userId dto w.mail.devices).isOk then
        (given dto.pushToken).map fun token ↦ (token, userId, dto.fingerprint)
      else none
  | _ => none

/-- What a move claims. -/
def claimIn (p : Pool World Task) : Move Task Told → Option (String × Uuid × String)
  | .run i o => p.threads[i]?.bind (claimOf o p.shared)
  | _ => none

/-- The claims that were made, oldest first. -/
def claims (history : List (Pool World Task × Move Task Told)) : List (String × Uuid × String) :=
  history.filterMap fun (p, m) ↦ claimIn p m

/-- A run from the start, with its history. -/
abbrev Traces (history : List (Pool World Task × Move Task Told)) (q : Pool World Task) : Prop :=
  Traced (Pool.advance exec) (Pool.Admitted (fun _ t ↦ t.arrives = true) fun _ _ _ ↦ True) ⟨.empty, []⟩
    history q

/-- Who claimed the token last. -/
def holder (history : List (Pool World Task × Move Task Told)) (token : String) :
    Option (Uuid × String) := ((claims history).reverse.find? fun claim ↦ claim.1 = token).map (·.2)

/-- A claim of the token makes its user the holder. -/
theorem holder_of_claim {history : List (Pool World Task × Move Task Told)} {p : Pool World Task}
    {m : Move Task Told} {owner : Uuid × String} (h : claimIn p m = some (token, owner)) :
    holder (history ++ [(p, m)]) token = some owner := by
  simp [holder, claims, List.filterMap_append, h]

/-- Any other move leaves the holder who it was. -/
theorem holder_of_other {history : List (Pool World Task × Move Task Told)} {p : Pool World Task}
    {m : Move Task Told} (h : ∀ claim, claimIn p m = some claim → claim.1 ≠ token) :
    holder (history ++ [(p, m)]) token = holder history token := by
  cases hclaim : claimIn p m with
  | none => simp [holder, claims, List.filterMap_append, hclaim]
  | some claim =>
      have hne := h claim hclaim
      simp [holder, claims, List.filterMap_append, hclaim, hne]

/-! ## One step -/

theorem isInstallation_iff {fingerprint : String} :
    isInstallation userId fingerprint d = true ↔ ownerOf d = (userId, fingerprint) := by
  simp only [isInstallation, ownerOf, Bool.and_eq_true, decide_eq_true_eq, Prod.mk.injEq]

/-- A row that holds a token after the others were made to release one. -/
theorem mem_claimToken (hd : d ∈ (claimToken userId dto devices).rows) (htoken : d.pushToken = some token) :
    d ∈ devices.rows ∧
      (given dto.pushToken = some token → isInstallation userId dto.fingerprint d = true) := by
  unfold claimToken at hd
  split at hd
  · next claimed hclaimed =>
      rcases Table.mem_modify.mp hd with ⟨hd, hp⟩ | ⟨d₀, -, -, rfl⟩
      · refine ⟨hd, fun hgiven ↦ ?_⟩
        obtain rfl : claimed = token := Option.some.inj (hclaimed.symm.trans hgiven)
        simpa [htoken] using hp
      · cases htoken
  · next hnone => exact ⟨hd, fun hgiven ↦ by rw [hnone] at hgiven; cases hgiven⟩

/-- Who holds a token after a registration: the installation that supplied it, or, when it supplied another
or none, the one that held it before. -/
theorem owner_of_register (h : register ctx userId dto devices = .ok (d, devices')) {x : Device}
    (hx : x ∈ devices'.rows) (htoken : x.pushToken = some token) :
    (given dto.pushToken = some token ∧ ownerOf x = (userId, dto.fingerprint) ∧
      isExpoPushToken token = true) ∨
      (given dto.pushToken ≠ some token ∧
        ∃ x₀ ∈ devices.rows, ownerOf x₀ = ownerOf x ∧ x₀.pushToken = some token) := by
  obtain ⟨hvalid, hupsert⟩ : (given dto.pushToken = some token → isExpoPushToken token = true) ∧
      (claimToken userId dto devices).upsert (isInstallation userId dto.fingerprint)
        (createDevice ctx userId dto) (refreshDevice ctx dto) clash_refreshDevice =
          some (d, devices') := by
    rw [register, bind_eq_ok] at h
    obtain ⟨-, -, h⟩ := h
    dsimp only at h
    split at h
    · next supplied hsupplied =>
        rw [bind_eq_ok] at h
        obtain ⟨_, hassert, h⟩ := h
        refine ⟨fun hgiven ↦ ?_, orThrow_eq_ok.mp h⟩
        obtain rfl : supplied = token := Option.some.inj (hsupplied.symm.trans hgiven)
        exact require_eq_ok.mp hassert
    · next hnone => exact ⟨fun hgiven ↦ absurd (hnone.symm.trans hgiven) (by simp), orThrow_eq_ok.mp h⟩
  have hdone := Table.upserted hupsert
    (fun a b ha hb ↦ .inr ⟨rfl, by
      have howner := (isInstallation_iff.mp ha).trans (isInstallation_iff.mp hb).symm
      exact congrArg some howner⟩)
    (isInstallation_iff.mpr rfl) fun _ hpicked ↦ hpicked
  rcases (hdone.mem_iff x).mp hx with rfl | ⟨hx, hother⟩
  · have howner := isInstallation_iff.mp hdone.picked
    rcases hdone.origin with rfl | ⟨x₀, hx₀, rfl, hpicked⟩
    · exact .inl ⟨htoken, howner, hvalid htoken⟩
    · have hor : (given dto.pushToken).or x₀.pushToken = some token := htoken
      rcases Option.or_eq_some_iff.mp hor with hgiven | ⟨hnone, hold⟩
      · exact .inl ⟨hgiven, howner, hvalid hgiven⟩
      · refine .inr ⟨by simp [hnone], x₀, (mem_claimToken hx₀ hold).1, ?_, hold⟩
        exact (isInstallation_iff.mp hpicked).trans howner.symm
  · obtain ⟨hx, hclaimed⟩ := mem_claimToken hx htoken
    refine .inr ⟨fun hgiven ↦ ?_, x, hx, rfl, htoken⟩
    rw [hclaimed hgiven] at hother
    cases hother

/-- A step keeps every token with the one who claimed it last. -/
theorem token_of_step {history : List (Pool World Task × Move Task Told)} {p : Pool World Task}
    {m : Move Task Told} (hclaims : claimIn p m = claimOf o p.shared t)
    (hd : d ∈ (exec o p.shared t).1.mail.devices.rows) (htoken : d.pushToken = some token)
    (ih : ∀ d ∈ p.shared.mail.devices.rows, d.pushToken = some token →
      holder history token = some (ownerOf d) ∧ isExpoPushToken token = true) :
    holder (history ++ [(p, m)]) token = some (ownerOf d) ∧ isExpoPushToken token = true := by
  by_cases hregister : ∃ userId dto, t = .register userId dto
  · obtain ⟨userId, dto, rfl⟩ := hregister
    have hdevices : (exec o p.shared (.register userId dto)).1.mail.devices =
        committed p.shared.mail.devices (register o.ctx userId dto p.shared.mail.devices) := by
      simp only [exec, devices_withDevices]
    rw [hdevices] at hd
    cases hresult : register o.ctx userId dto p.shared.mail.devices with
    | error e =>
        have hnone : claimIn p m = none := by
          rw [hclaims, claimOf, hresult]
          rfl
        rw [hresult, committed_error] at hd
        rw [holder_of_other fun claim hclaim ↦ by rw [hnone] at hclaim; cases hclaim]
        exact ih d hd htoken
    | ok result =>
        have hsome : claimIn p m = (given dto.pushToken).map fun token ↦
            (token, userId, dto.fingerprint) := by
          rw [hclaims, claimOf, hresult]
          rfl
        rw [hresult] at hd
        rcases owner_of_register hresult hd htoken with
          ⟨hgiven, howner, hvalid⟩ | ⟨hother, d₀, hd₀, howner, hold⟩
        · rw [hgiven, Option.map_some, ← howner] at hsome
          exact ⟨holder_of_claim hsome, hvalid⟩
        · rw [holder_of_other, ← howner]
          · exact ih d₀ hd₀ hold
          · intro claim hclaim
            rw [hsome, Option.map_eq_some_iff] at hclaim
            obtain ⟨supplied, hgiven, rfl⟩ := hclaim
            exact fun heq ↦ hother (hgiven.trans (congrArg some heq))
  · have hnone : claimIn p m = none := by
      rw [hclaims]
      cases t with
      | register userId dto => exact absurd ⟨userId, dto, rfl⟩ hregister
      | _ => rfl
    rw [holder_of_other fun claim hclaim ↦ by rw [hnone] at hclaim; cases hclaim]
    cases exec_handles o p.shared t with
    | nothing _ same => exact ih d (same ▸ hd) htoken
    | registers userId dto done => exact absurd ⟨userId, dto, rfl⟩ hregister
    | drops _ picked done =>
        rw [done] at hd
        rcases Table.mem_modify.mp hd with ⟨hd, -⟩ | ⟨d₀, -, -, rfl⟩
        · exact ih d hd htoken
        · cases htoken

/-! ## Every run -/

/-- **A push token is where it was registered last.**  Whatever calls overlap, a device that holds a token is
the one whose user and installation registered it last, so that no other device holds it and a notification
for a user reads no token that somebody else has registered since; and what is stored is a token of Expo. -/
theorem token_of_last_claim {history : List (Pool World Task × Move Task Told)} {q : Pool World Task}
    (h : Traces history q) {d : Device} (hd : d ∈ q.shared.mail.devices.rows) {token : String}
    (htoken : d.pushToken = some token) :
    holder history token = some (ownerOf d) ∧ isExpoPushToken token = true ∧
      (∀ d' ∈ q.shared.mail.devices.rows, d'.pushToken = some token → d' = d) ∧
      ∀ user, token ∈ pushTokensFor user q.shared.mail.devices → user = d.userId := by
  have hheld : ∀ d ∈ q.shared.mail.devices.rows, ∀ token, d.pushToken = some token →
      holder history token = some (ownerOf d) ∧ isExpoPushToken token = true := by
    refine h.invariant (I := fun history q ↦ ∀ d ∈ q.shared.mail.devices.rows, ∀ token,
      d.pushToken = some token →
        holder history token = some (ownerOf d) ∧ isExpoPushToken token = true) ?_ ?_
    · exact fun d hd ↦ (List.not_mem_nil hd).elim
    · intro history p m ih _ d hd token htoken
      rcases m with t | ⟨i, o⟩ | i
      · rw [holder_of_other fun claim hclaim ↦ by cases hclaim]
        exact ih d hd token htoken
      · cases hi : p.threads[i]? with
        | none =>
            rw [Pool.advance, hi] at hd
            rw [holder_of_other fun claim hclaim ↦ by simp [claimIn, hi] at hclaim]
            exact ih d hd token htoken
        | some t =>
            have hclaims : claimIn p (.run i o) = claimOf o p.shared t := by simp [claimIn, hi]
            rw [Pool.advance, hi] at hd
            exact token_of_step hclaims hd htoken fun d hd ↦ ih d hd token
      · rw [holder_of_other fun claim hclaim ↦ by cases hclaim]
        exact ih d hd token htoken
  have hsame : ∀ d' ∈ q.shared.mail.devices.rows, d'.pushToken = some token → d' = d := by
    intro d' hd' htoken'
    have howner := (hheld d' hd' token htoken').1.symm.trans (hheld d hd token htoken).1
    exact q.shared.mail.devices.eq_of_clash hd' hd (.inr ⟨rfl, howner⟩)
  refine ⟨(hheld d hd token htoken).1, (hheld d hd token htoken).2, hsame, fun user huser ↦ ?_⟩
  obtain ⟨d', hd', rfl, htoken'⟩ := mem_pushTokensFor.mp huser
  rw [hsame d' hd' htoken']

/-! ### A phone that changes hands -/

section Sample

/-- The phone, with its token. -/
def sampleDto : RegisterDeviceDto :=
  ⟨"a-phone-of-somebody", some "Pixel 9", some "android", none, some "ExpoPushToken[abc]", false⟩

/-- What a step learns. -/
def toldOf (n : Nat) : Told := ⟨⟨n, fun i ↦ .ofNat (n + i)⟩, sampleClock, none, none, fun _ ↦ .failed, false⟩

/-- One user registers the phone, then another. -/
def sampleRun : List (Move Task Told) :=
  [.spawn (.register (.ofNat 1) sampleDto), .spawn (.register (.ofNat 2) sampleDto), .run 0 (toldOf 1),
    .run 0 (toldOf 2)]

/-- Where it leads. -/
def sampleEnd : Pool World Task := sampleRun.foldl (Pool.advance exec) ⟨.empty, []⟩

theorem token_of_last_claim_sample :
    ∃ history, Traces history sampleEnd ∧
      holder history "ExpoPushToken[abc]" = some (.ofNat 2, "a-phone-of-somebody") := by
  have hrun : ∃ history, Traces history sampleEnd := by
    have hstart : Traces [] ⟨.empty, []⟩ := .start
    exact ⟨_, (((hstart.call (.spawn (.register (.ofNat 1) sampleDto)) rfl).call
      (.spawn (.register (.ofNat 2) sampleDto)) rfl).call (.run 0 (toldOf 1)) fun _ _ ↦ trivial).call
      (.run 0 (toldOf 2)) fun _ _ ↦ trivial⟩
  obtain ⟨history, hrun⟩ := hrun
  have hstored : ∃ d ∈ sampleEnd.shared.mail.devices.rows, d.pushToken = some "ExpoPushToken[abc]" ∧
      ownerOf d = (.ofNat 2, "a-phone-of-somebody") := by decide
  obtain ⟨d, hd, htoken, howner⟩ := hstored
  exact ⟨history, hrun, howner ▸ (token_of_last_claim hrun hd htoken).1⟩

end Sample

end AjoCloud.Devices
