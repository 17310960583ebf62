import AjoCloud.Fees.Basic
import AjoCloud.Lib.Bands
import AjoCloud.Lib.Sorting

/-!
# What a tier set promises

`assertTiersPartitionRange` compares neighbours of the sorted tiers, and `tierFor` scans them as they
come.  Here is what the comparison says of every amount, and what it leaves open: the markup of the
last tier is not looked at.
-/

namespace AjoCloud.Fees

open Lib Lib.Bands ServiceError

variable {rule : FeeDefinition} {tiers tiers' : List FeeTier} {base : Int}

/-! ## The tiers and the range -/

/-- The amount lies in the tier. -/
def covers (tier : FeeTier) (base : Int) : Prop := Covers (·.fromMinor) (·.toMinor) tier base

/-- Every amount from zero on lies in one tier, and no tier is empty or begins below zero. -/
def PartitionsRange (tiers : List FeeTier) : Prop :=
  Partitions (·.fromMinor) (·.toMinor) 0 tiers

/-- No tier but the open-ended one has a negative markup. -/
def MarkupsChecked (tiers : List FeeTier) : Prop :=
  ∀ tier ∈ tiers, tier.toMinor ≠ none → 0 ≤ tier.amountMinor

/-- The tiers in order. -/
def ordered (tiers : List FeeTier) : List FeeTier :=
  tiers.insertionSort fun left right ↦ left.fromMinor ≤ right.fromMinor

theorem mem_ordered {tier : FeeTier} : tier ∈ ordered tiers ↔ tier ∈ tiers := mem_sortedBy

theorem pairwise_ordered (tiers : List FeeTier) :
    (ordered tiers).Pairwise fun left right ↦ left.fromMinor ≤ right.fromMinor :=
  pairwise_sortedBy _ tiers

/-- The loop accepts tiers that abut, whose markups but the last are not negative. -/
theorem assertTiersAbut_eq_ok {tier : FeeTier} {rest : List FeeTier} :
    assertTiersAbut (tier :: rest) = .ok () ↔
      Abut (·.fromMinor) (·.toMinor) (tier :: rest) ∧ MarkupsChecked (tier :: rest) := by
  induction rest generalizing tier with
  | nil =>
      rw [assertTiersAbut, require_eq_ok]
      constructor
      · intro hopen
        refine ⟨.last hopen, fun t ht hclosed ↦ ?_⟩
        rw [List.mem_singleton.mp ht] at hclosed
        exact absurd hopen hclosed
      · rintro ⟨⟨hopen⟩, -⟩
        exact hopen
  | cons next rest ih =>
      simp only [assertTiersAbut, bind_eq_ok, require_eq_ok, exists_const, ih, MarkupsChecked,
        List.forall_mem_cons (a := tier)]
      constructor
      · rintro ⟨-, hnext, hmarkup, habut, hmarkups⟩
        exact ⟨.cons hnext habut, fun _ ↦ not_lt.mp hmarkup, hmarkups⟩
      · rintro ⟨habut, hmarkup, hmarkups⟩
        cases habut with
        | cons hnext hrest =>
            have hclosed : tier.toMinor ≠ none := by
              rw [hnext]
              exact Option.some_ne_none _
            exact ⟨hclosed, hnext, not_lt.mpr (hmarkup hclosed), hrest, hmarkups⟩

/-- What is accepted: the ordered tiers begin at zero, and abut. -/
theorem assertTiersPartitionRange_eq_ok : assertTiersPartitionRange tiers = .ok () ↔
    ∃ tier rest, ordered tiers = tier :: rest ∧ tier.fromMinor = 0 ∧
      Abut (·.fromMinor) (·.toMinor) (tier :: rest) ∧ MarkupsChecked tiers := by
  have hmarkups : MarkupsChecked (ordered tiers) ↔ MarkupsChecked tiers := by
    simp only [MarkupsChecked, mem_ordered]
  simp only [assertTiersPartitionRange, bind_eq_ok, require_eq_ok, exists_const]
  change tiers ≠ [] ∧ (ordered tiers).head?.map (·.fromMinor) = some 0 ∧
    assertTiersAbut (ordered tiers) = .ok () ↔ _
  rw [← hmarkups]
  cases hordered : ordered tiers with
  | nil => simp
  | cons tier rest =>
      rw [assertTiersAbut_eq_ok]
      constructor
      · rintro ⟨-, hzero, habut, hchecked⟩
        exact ⟨tier, rest, rfl, Option.some_inj.mp hzero, habut, hchecked⟩
      · rintro ⟨_, _, heq, hzero, habut, hchecked⟩
        cases heq
        refine ⟨?_, congrArg some hzero, habut, hchecked⟩
        rintro rfl
        cases hordered

/-- Every amount is covered, by one tier only. -/
theorem exists_covers (haccepted : assertTiersPartitionRange tiers = .ok ()) (hbase : 0 ≤ base) :
    ∃ tier ∈ tiers, covers tier base := by
  obtain ⟨first, rest, hordered, hzero, habut, -⟩ := assertTiersPartitionRange_eq_ok.mp haccepted
  obtain ⟨tier, htier, hcovers⟩ := habut.exists_covers (hzero.le.trans hbase)
  exact ⟨tier, mem_ordered.mp (hordered ▸ htier), hcovers⟩

theorem covers_unique (haccepted : assertTiersPartitionRange tiers = .ok ()) {a b : FeeTier}
    (ha : a ∈ tiers) (hb : b ∈ tiers) (hac : covers a base) (hbc : covers b base) : a = b := by
  obtain ⟨first, rest, hordered, -, habut, -⟩ := assertTiersPartitionRange_eq_ok.mp haccepted
  rw [← mem_ordered, hordered] at ha hb
  exact habut.covers_unique (hordered ▸ pairwise_ordered tiers) ha hb hac hbc

theorem covers_iff {tier : FeeTier} :
    covers tier base ↔ tier.fromMinor ≤ base ∧ tier.toMinor.all (base < ·) = true := by
  simp [covers, Covers, Option.all_eq_true]

theorem tierFor_eq_some (haccepted : assertTiersPartitionRange tiers = .ok ()) {tier : FeeTier} :
    tierFor tiers base = some tier ↔ tier ∈ tiers ∧ covers tier base := by
  constructor
  · intro h
    refine ⟨List.mem_of_find?_eq_some h, covers_iff.mpr ?_⟩
    simpa using List.find?_some h
  · rintro ⟨htier, hcovers⟩
    cases hfind : tierFor tiers base with
    | none =>
        have hnone := List.find?_eq_none.mp hfind tier htier
        exact absurd (by simpa using covers_iff.mp hcovers) hnone
    | some other =>
        have hother : covers other base := covers_iff.mpr (by simpa using List.find?_some hfind)
        exact congrArg some (covers_unique haccepted (List.mem_of_find?_eq_some hfind) htier hother
          hcovers)

/-- Whatever the markups of the accepted tiers, one of them is found for every amount. -/
theorem exists_tierFor (haccepted : assertTiersPartitionRange tiers = .ok ()) (hbase : 0 ≤ base) :
    ∃ tier, tierFor tiers base = some tier := by
  obtain ⟨tier, htier, hcovers⟩ := exists_covers haccepted hbase
  exact ⟨tier, (tierFor_eq_some haccepted).mpr ⟨htier, hcovers⟩⟩

/-- A set that is accepted partitions the range. -/
theorem partitionsRange_iff (hdistinct : (tiers.map (·.fromMinor)).Nodup) :
    PartitionsRange tiers ↔ ∃ tier rest, ordered tiers = tier :: rest ∧ tier.fromMinor = 0 ∧
      Abut (·.fromMinor) (·.toMinor) (tier :: rest) := by
  have hperm : (ordered tiers).Perm tiers := perm_sortedBy _ tiers
  have hsorted : (ordered tiers).Pairwise fun left right ↦ left.fromMinor < right.fromMinor :=
    strict_sortedBy hdistinct
  constructor
  · intro h
    have hpartitions : Partitions (·.fromMinor) (·.toMinor) 0 (ordered tiers) := h.perm hperm.symm
    cases hordered : ordered tiers with
    | nil =>
        -- Zero would lie in no tier.
        rw [hordered] at hpartitions
        obtain ⟨_, ⟨hmem, -⟩, -⟩ := hpartitions.covered 0 le_rfl
        cases hmem
    | cons tier rest =>
        rw [hordered] at hpartitions hsorted
        obtain ⟨first, ⟨hfirst, hcovers⟩, -⟩ := hpartitions.covered 0 le_rfl
        have hle : tier.fromMinor ≤ first.fromMinor := by
          rcases List.mem_cons.mp hfirst with rfl | hfirst
          · exact le_rfl
          · exact le_of_lt ((List.pairwise_cons.mp hsorted).1 first hfirst)
        have hzero : tier.fromMinor = 0 :=
          le_antisymm (hle.trans hcovers.1) (hpartitions.starts tier List.mem_cons_self)
        exact ⟨tier, rest, rfl, hzero, (abut_iff_partitions hsorted).mpr (hzero ▸ hpartitions)⟩
  · rintro ⟨tier, rest, hordered, hzero, habut⟩
    rw [hordered] at hsorted
    have hpartitions := (abut_iff_partitions hsorted).mp habut
    rw [hzero, ← hordered] at hpartitions
    exact hpartitions.perm hperm

/-- **Fee tiers partition the range.**  Of tiers that begin at different amounts, those are accepted
that partition the amounts from zero on and have no negative markup before the last one; the order of
the rows changes neither that nor the tier that an accepted set has for an amount. -/
theorem tiers_partition_range (tiers : List FeeTier) (hdistinct : (tiers.map (·.fromMinor)).Nodup) :
    (assertTiersPartitionRange tiers = .ok () ↔ PartitionsRange tiers ∧ MarkupsChecked tiers) ∧
    ∀ tiers', tiers.Perm tiers' →
      assertTiersPartitionRange tiers' = assertTiersPartitionRange tiers ∧
      (assertTiersPartitionRange tiers = .ok () →
        ∀ base, tierFor tiers' base = tierFor tiers base) := by
  refine ⟨?_, fun tiers' hperm ↦ ?_⟩
  · rw [assertTiersPartitionRange_eq_ok, partitionsRange_iff hdistinct]
    constructor
    · rintro ⟨tier, rest, hordered, hzero, habut, hmarkups⟩
      exact ⟨⟨tier, rest, hordered, hzero, habut⟩, hmarkups⟩
    · rintro ⟨⟨tier, rest, hordered, hzero, habut⟩, hmarkups⟩
      exact ⟨tier, rest, hordered, hzero, habut, hmarkups⟩
  · have hsame : assertTiersPartitionRange tiers' = assertTiersPartitionRange tiers := by
      have hordered : ordered tiers' = ordered tiers := (sortedBy_eq_of_perm hdistinct hperm).symm
      have hnil : tiers' ≠ [] ↔ tiers ≠ [] := by
        rw [ne_eq, ne_eq, ← List.length_eq_zero_iff, ← List.length_eq_zero_iff, hperm.length_eq]
      rw [assertTiersPartitionRange, assertTiersPartitionRange]
      change (require (tiers' ≠ []) _ >>= fun _ ↦ require ((ordered tiers').head?.map _ = _) _ >>=
        fun _ ↦ assertTiersAbut (ordered tiers')) = _
      simp only [hordered, hnil]
      rfl
    refine ⟨hsame, fun haccepted base ↦ Option.ext fun tier ↦ ?_⟩
    rw [tierFor_eq_some haccepted, tierFor_eq_some (hsame.trans haccepted), hperm.mem_iff]

section Sample

/-- A markup of ₦50, and of ₦100 from ₦10,000 on. -/
def sampleTiers : List FeeTier :=
  [⟨.ofNat 2, .ofNat 1, 0, some 1000000, 5000⟩, ⟨.ofNat 3, .ofNat 1, 1000000, none, 10000⟩]

/-- Two tiers that overlap. -/
def sampleOverlap : List FeeTier :=
  [⟨.ofNat 2, .ofNat 1, 0, some 1000000, 5000⟩, ⟨.ofNat 3, .ofNat 1, 900000, none, 10000⟩]

end Sample

theorem tiers_partition_range_sample :
    PartitionsRange sampleTiers ∧
      tierFor sampleTiers.reverse 1000000 = tierFor sampleTiers 1000000 := by
  obtain ⟨haccepts, hperm⟩ := tiers_partition_range sampleTiers (by decide)
  have haccepted : assertTiersPartitionRange sampleTiers = .ok () := by decide +kernel
  exact ⟨(haccepts.mp haccepted).1, (hperm _ (List.reverse_perm _).symm).2 haccepted 1000000⟩

/-- Which of two overlapping tiers an amount has depends on the order of the rows. -/
theorem overlap_by_order :
    ¬ ∀ tiers : List FeeTier, (tiers.map (·.fromMinor)).Nodup →
      (assertTiersPartitionRange tiers = .ok () ↔ PartitionsRange tiers ∧ MarkupsChecked tiers) ∧
      ∀ tiers', tiers.Perm tiers' →
        assertTiersPartitionRange tiers' = assertTiersPartitionRange tiers ∧
        ∀ base, tierFor tiers' base = tierFor tiers base := by
  intro h
  have hperm := (h sampleOverlap (by decide)).2 _ (List.reverse_perm _).symm
  exact absurd (hperm.2 950000) (by decide +kernel)

/-! ## The provider's cost -/

/-- An amount between the minimum and the maximum of a rule; the maximum is applied last. -/
def clamped (rule : FeeDefinition) (amount : Int) : Int :=
  let raised := rule.minimumMinor.elim amount fun minimum ↦ max amount minimum
  rule.maximumMinor.elim raised fun maximum ↦ min maximum raised

/-- A fee is what the rule comes to, between its minimum and its maximum, unless that is negative. -/
theorem assessVersionedFee_eq_ok {fee : Int} : assessVersionedFee rule tiers base = .ok fee ↔
    0 ≤ base ∧ ∃ amount, unboundedFee rule tiers base = .ok amount ∧ fee = clamped rule amount ∧
      0 ≤ fee := by
  have hshape : ∀ f : Int → Int, (0 ≤ base ∧ ∃ amount, unboundedFee rule tiers base = .ok amount ∧
      0 ≤ f amount ∧ f amount = fee) ↔
        0 ≤ base ∧ ∃ amount, unboundedFee rule tiers base = .ok amount ∧ fee = f amount ∧ 0 ≤ fee := by
    intro f
    refine and_congr_right fun _ ↦ exists_congr fun amount ↦ and_congr_right fun _ ↦ ?_
    constructor
    · rintro ⟨hfee, rfl⟩
      exact ⟨rfl, hfee⟩
    · rintro ⟨rfl, hfee⟩
      exact ⟨hfee, rfl⟩
  unfold assessVersionedFee clamped
  cases rule.minimumMinor with
  | none =>
      cases rule.maximumMinor with
      | none =>
          simp only [bind_eq_ok, require_eq_ok, pure_eq_ok, exists_const, not_lt]
          exact hshape _
      | some maximum =>
          simp only [bind_eq_ok, require_eq_ok, pure_eq_ok, exists_const, not_lt, Option.elim,
            min_def_lt]
          exact hshape _
  | some minimum =>
      cases rule.maximumMinor with
      | none =>
          simp only [bind_eq_ok, require_eq_ok, pure_eq_ok, exists_const, not_lt, Option.elim,
            max_def_lt]
          exact hshape _
      | some maximum =>
          simp only [bind_eq_ok, require_eq_ok, pure_eq_ok, exists_const, not_lt, Option.elim,
            max_def_lt, min_def_lt]
          exact hshape _

/-- What a tiered rule comes to before its minimum and maximum. -/
theorem unboundedFee_tiered (htiered : rule.calculationType = .tiered)
    (haccepted : assertTiersPartitionRange tiers = .ok ()) {tier : FeeTier}
    (htier : tierFor tiers base = some tier) :
    unboundedFee rule tiers base = .ok (max (percentageOf base rule.basisPoints)
      (providerCostMinor rule base + tier.amountMinor)) := by
  simp only [unboundedFee, htiered, bind_eq_ok, orThrow_eq_ok, pure_eq_ok]
  exact ⟨(), haccepted, tier, htier, (max_def_lt _ _).symm⟩

/-- The fee covers the provider's cost, and where the percentage does not take over and there is no
minimum, it is that cost with the markup of the tier, which is not negative. -/
structure SellsAtCost (rule : FeeDefinition) (tiers : List FeeTier) (base : Int) : Prop where
  covered : ∃ fee, assessVersionedFee rule tiers base = .ok fee ∧ providerCostMinor rule base ≤ fee
  markedUp : ∀ tier, tierFor tiers base = some tier →
    percentageOf base rule.basisPoints ≤ providerCostMinor rule base + tier.amountMinor →
    rule.minimumMinor = none →
      assessVersionedFee rule tiers base = .ok (providerCostMinor rule base + tier.amountMinor) ∧
        0 ≤ tier.amountMinor

/-- No open-ended tier that the amount reaches has a negative markup, or the percentage or the minimum
reaches the provider's cost. -/
def CostReached (rule : FeeDefinition) (tiers : List FeeTier) (base : Int) : Prop :=
  (∀ tier ∈ tiers, tier.toMinor = none → tier.fromMinor ≤ base → 0 ≤ tier.amountMinor) ∨
    providerCostMinor rule base ≤ percentageOf base rule.basisPoints ∨
    ∃ minimum, rule.minimumMinor = some minimum ∧ providerCostMinor rule base ≤ minimum

/-- The provider charges nothing negative. -/
theorem providerCostMinor_nonneg (hrate : 0 ≤ rule.providerRateBasisPoints.getD 0)
    (hflat : 0 ≤ rule.providerFlatMinor.getD 0) (hbase : 0 ≤ base) :
    0 ≤ providerCostMinor rule base :=
  Int.add_nonneg (Int.tdiv_nonneg (Int.mul_nonneg hbase hrate) (by decide)) hflat

/-- The markup of the tier is checked, or the tier is the open-ended one. -/
theorem markup_nonneg_iff (haccepted : assertTiersPartitionRange tiers = .ok ()) {tier : FeeTier}
    (htier : tierFor tiers base = some tier) :
    0 ≤ tier.amountMinor ↔
      ∀ t ∈ tiers, t.toMinor = none → t.fromMinor ≤ base → 0 ≤ t.amountMinor := by
  obtain ⟨hmem, hcovers⟩ := (tierFor_eq_some haccepted).mp htier
  constructor
  · intro hmarkup t ht hopen hfrom
    rw [covers_unique haccepted ht hmem (Abut.covers_of_open hopen hfrom) hcovers]
    exact hmarkup
  · intro hall
    obtain ⟨_, _, -, -, -, hchecked⟩ := assertTiersPartitionRange_eq_ok.mp haccepted
    by_cases hopen : tier.toMinor = none
    · exact hall tier hmem hopen hcovers.1
    · exact hchecked tier hmem hopen

/-- A tiered rule without a maximum never sells below the provider's cost, and marks it up where
neither the percentage nor a minimum takes over, exactly when no open-ended tier that the amount reaches
has a negative markup, or else the percentage or the minimum makes up for it. -/
theorem sells_at_cost_iff (htiered : rule.calculationType = .tiered)
    (haccepted : assertTiersPartitionRange tiers = .ok ())
    (hrate : 0 ≤ rule.providerRateBasisPoints.getD 0) (hflat : 0 ≤ rule.providerFlatMinor.getD 0)
    (hmaximum : rule.maximumMinor = none) (hbase : 0 ≤ base) :
    SellsAtCost rule tiers base ↔ CostReached rule tiers base := by
  obtain ⟨tier, htier⟩ := exists_tierFor haccepted hbase
  have hcost := providerCostMinor_nonneg hrate hflat hbase
  have hassess : ∀ fee, assessVersionedFee rule tiers base = .ok fee ↔
      fee = clamped rule (max (percentageOf base rule.basisPoints)
        (providerCostMinor rule base + tier.amountMinor)) ∧ 0 ≤ fee := by
    intro fee
    rw [assessVersionedFee_eq_ok, unboundedFee_tiered htiered haccepted htier]
    simp only [hbase, true_and, Except.ok.injEq, exists_eq_left']
  rw [CostReached, ← markup_nonneg_iff haccepted htier]
  constructor
  · rintro ⟨⟨fee, hfee, hcovered⟩, hmarkedUp⟩
    by_cases hmarkup : 0 ≤ tier.amountMinor
    · exact .inl hmarkup
    · obtain ⟨rfl, -⟩ := (hassess fee).mp hfee
      refine .inr ?_
      rw [clamped, hmaximum] at hcovered
      cases hminimum : rule.minimumMinor with
      | none =>
          rw [hminimum] at hcovered
          dsimp only [Option.elim] at hcovered
          exact .inl (by omega)
      | some minimum =>
          rw [hminimum] at hcovered
          dsimp only [Option.elim] at hcovered
          rcases le_or_gt (providerCostMinor rule base) (percentageOf base rule.basisPoints) with
            hpercentage | hbelow
          · exact .inl hpercentage
          · exact .inr ⟨minimum, rfl, by omega⟩
  · intro hreached
    have hcovered : providerCostMinor rule base ≤ clamped rule
        (max (percentageOf base rule.basisPoints)
          (providerCostMinor rule base + tier.amountMinor)) := by
      rw [clamped, hmaximum]
      cases hminimum : rule.minimumMinor with
      | none =>
          dsimp only [Option.elim]
          rcases hreached with hmarkup | hpercentage | ⟨minimum, hsome, -⟩
          · omega
          · omega
          · rw [hminimum] at hsome
            cases hsome
      | some minimum =>
          dsimp only [Option.elim]
          rcases hreached with hmarkup | hpercentage | ⟨other, hsome, hother⟩
          · omega
          · omega
          · rw [hminimum] at hsome
            cases hsome
            omega
    refine ⟨⟨_, (hassess _).mpr ⟨rfl, hcost.trans hcovered⟩, hcovered⟩, ?_⟩
    intro other hother hfloor hnone
    obtain rfl : tier = other := Option.some_inj.mp (htier.symm.trans hother)
    have hmarkup : 0 ≤ tier.amountMinor := by
      rcases hreached with hmarkup | hpercentage | ⟨minimum, hsome, -⟩
      · exact hmarkup
      · omega
      · rw [hnone] at hsome
        cases hsome
    refine ⟨(hassess _).mpr ⟨?_, Int.add_nonneg hcost hmarkup⟩, hmarkup⟩
    rw [clamped, hmaximum, hnone]
    exact (max_eq_right hfloor).symm

section Sample

/-- A floor of 2 percent, and a provider that charges 1.5 percent and ₦2. -/
def sampleRule : FeeDefinition where
  id := .ofNat 1
  code := "DEPOSIT"
  version := 1
  calculationType := .tiered
  amountMinor := none
  basisPoints := some 200
  minimumMinor := none
  maximumMinor := none
  providerRateBasisPoints := some 150
  providerFlatMinor := some 200
  effectiveAt := 0
  expiresAt := none
  isActive := true

/-- The only tier takes money off the provider's cost. -/
def sampleRebate : List FeeTier := [⟨.ofNat 2, .ofNat 1, 0, none, -100⟩]

end Sample

theorem sells_at_cost_sample : assessVersionedFee sampleRule sampleTiers 100000 = .ok 6700 := by
  have hsells : SellsAtCost sampleRule sampleTiers 100000 := (sells_at_cost_iff rfl (by decide +kernel)
    (by decide) (by decide) rfl (by decide)).mpr (.inl (by decide))
  exact (hsells.markedUp _ (by rfl) (by decide) rfl).1

/-- The markup of the last tier is not checked, so a fee can be less than the provider's cost. -/
theorem sold_below_cost :
    ¬ ∀ (rule : FeeDefinition) (tiers : List FeeTier) (base : Int), rule.calculationType = .tiered →
      assertTiersPartitionRange tiers = .ok () → 0 ≤ rule.providerRateBasisPoints.getD 0 →
      0 ≤ rule.providerFlatMinor.getD 0 → rule.maximumMinor = none → 0 ≤ base →
      SellsAtCost rule tiers base := by
  intro h
  obtain ⟨fee, hfee, hcovered⟩ := (h sampleRule sampleRebate 100 rfl (by decide +kernel) (by decide)
    (by decide) rfl (by decide)).covered
  have hbelow : assessVersionedFee sampleRule sampleRebate 100 = .ok 101 := by decide +kernel
  obtain rfl : 101 = fee := Except.ok.inj (hbelow.symm.trans hfee)
  exact absurd hcovered (by decide)

end AjoCloud.Fees
