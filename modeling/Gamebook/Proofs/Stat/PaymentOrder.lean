/-
This file says when it matters in which order costs are paid.
A stat without a ceiling never notices. A capped stat does when its maximum is lowered onto it: what
was spent of the stat before no longer has to be cut off, and what is spent of it later comes on top.
-/

import Gamebook.Proofs.Stat.Levels
import Gamebook.Proofs.Stat.Payment

namespace Gamebook

theorem owed_perm {costs other : List StatAmount} (reordered : other.Perm costs) (stat : Stat) :
    owed other stat = owed costs stat :=
  ((reordered.filter _).map _).sum_nat

/-- The dues of one stat owe nothing else. -/
theorem owed_dues (costs : List StatAmount) (stat other : Stat) :
    owed (dues costs stat) other = if other = stat then owed costs other else 0 := by
  rw [owed, dues, dues, List.filter_filter]
  by_cases same : other = stat
  · simp [same, owed, dues]
  · have none : ∀ cost : StatAmount,
        (decide (cost.stat = other) && decide (cost.stat = stat)) = false := by
      intro cost
      by_cases isOther : cost.stat = other <;> simp [isOther, same]
    simp [none, same]

/-- These are the costs that are not to be paid with the stat. -/
def otherDues (costs : List StatAmount) (stat : Stat) : List StatAmount :=
  costs.filter fun cost => !decide (cost.stat = stat)

theorem dues_perm (costs : List StatAmount) (stat : Stat) :
    (dues costs stat ++ otherDues costs stat).Perm costs :=
  List.filter_append_perm (fun cost : StatAmount => decide (cost.stat = stat)) costs

theorem owed_append (first second : List StatAmount) (stat : Stat) :
    owed (first ++ second) stat = owed first stat + owed second stat := by
  simp [owed, dues]

theorem owed_otherDues (costs : List StatAmount) (stat other : Stat) :
    owed (otherDues costs stat) other = if other = stat then 0 else owed costs other := by
  have all := owed_perm (dues_perm costs stat) other
  rw [owed_append, owed_dues] at all
  split at all
  next same => rw [if_pos same]; omega
  next apart => rw [if_neg apart]; omega

namespace Stats

variable (stats : Stats)

theorem pay_append (first second : List StatAmount) :
    stats.pay (first ++ second) = (stats.pay first).pay second :=
  List.foldl_append

/-- A stat without a ceiling is only lowered when it is spent itself. -/
theorem toNat_get_spend_of_free {other : Stat} (free : other.ceiling? = none) (stat : Stat)
    (amount : UInt32) :
    ((stats.spend stat amount).get other).toNat =
      (stats.get other).toNat - if stat = other then amount.toNat else 0 := by
  rw [spend, get_clamp_of_free _ free, get_set]
  by_cases same : other = stat
  · rw [if_pos same, saturatingSub_toNat, if_pos same.symm, same]
  · rw [if_neg same, if_neg (Ne.symm same), Nat.sub_zero]

theorem toNat_get_pay_of_free {stat : Stat} (free : stat.ceiling? = none)
    (costs : List StatAmount) :
    ((stats.pay costs).get stat).toNat = (stats.get stat).toNat - owed costs stat :=
  stats.toNat_get_pay_of_each fun cost _ stats =>
    stats.toNat_get_spend_of_free free cost.stat cost.amount

section Capped

variable {stats} {stat maximum : Stat} (capped : stat.ceiling? = some maximum)

include capped

theorem ceiling_ne : maximum ≠ stat := fun same => by
  have free := Stat.ceiling?_of_ceiling? capped
  rw [same, capped] at free
  cases free

variable (within : stats.get stat ≤ stats.get maximum)

include within

/-- A capped stat is lowered when it is spent itself, and to its maximum when that is spent. -/
theorem toNat_get_spend_of_ceiling (spent : Stat) (amount : UInt32) :
    ((stats.spend spent amount).get stat).toNat =
      if spent = stat then (stats.get stat).toNat - amount.toNat
      else if spent = maximum then
        min (stats.get stat).toNat ((stats.get maximum).toNat - amount.toNat)
      else (stats.get stat).toNat := by
  have apart := ceiling_ne capped
  have below := UInt32.le_iff_toNat_le.mp within
  rw [spend, get_clamp, bounded_of_ceiling _ capped, capped]
  by_cases own : spent = stat
  · subst own
    rw [if_pos (.inl rfl), if_pos rfl, get_set_self, get_set_of_ne _ apart.symm, toNat_min,
      saturatingSub_toNat]
    omega
  · rw [if_neg own, get_set_of_ne _ own]
    by_cases lowered : spent = maximum
    · subst lowered
      rw [if_pos (.inr rfl), if_pos rfl, get_set_self, toNat_min, saturatingSub_toNat]
    · rw [if_neg (by simp [Ne.symm own, Ne.symm lowered]), if_neg lowered]

theorem spend_within (spent : Stat) (amount : UInt32) :
    (stats.spend spent amount).get stat ≤ (stats.spend spent amount).get maximum := by
  have below := UInt32.le_iff_toNat_le.mp within
  rw [UInt32.le_iff_toNat_le, toNat_get_spend_of_ceiling capped within,
    toNat_get_spend_of_free stats (Stat.ceiling?_of_ceiling? capped)]
  by_cases own : spent = stat
  · rw [if_pos own, if_neg (own ▸ (ceiling_ne capped).symm)]
    omega
  · rw [if_neg own]
    split <;> omega

theorem pay_within (costs : List StatAmount) :
    (stats.pay costs).get stat ≤ (stats.pay costs).get maximum := by
  induction costs generalizing stats with
  | nil => exact within
  | cons cost rest inductionHypothesis =>
      exact inductionHypothesis (spend_within capped within cost.stat cost.amount)

/-- Whatever the order, at least as much is left of a capped stat as when its maximum is lowered
first, and at most as much as when its maximum is lowered last. -/
theorem toNat_get_pay_between (costs : List StatAmount) :
    min (stats.get stat).toNat ((stats.get maximum).toNat - owed costs maximum) - owed costs stat ≤
        ((stats.pay costs).get stat).toNat ∧
      ((stats.pay costs).get stat).toNat ≤
        min ((stats.get stat).toNat - owed costs stat)
          ((stats.get maximum).toNat - owed costs maximum) := by
  induction costs generalizing stats with
  | nil =>
      have below := UInt32.le_iff_toNat_le.mp within
      change _ ≤ (stats.get stat).toNat ∧ (stats.get stat).toNat ≤ _
      have nothing : ∀ stat, owed [] stat = 0 := fun _ => rfl
      rw [nothing, nothing]
      omega
  | cons cost rest inductionHypothesis =>
      have apart := ceiling_ne capped
      have later := inductionHypothesis (spend_within capped within cost.stat cost.amount)
      rw [toNat_get_spend_of_ceiling capped within,
        toNat_get_spend_of_free stats (Stat.ceiling?_of_ceiling? capped)] at later
      change _ ≤ (((stats.spend cost.stat cost.amount).pay rest).get stat).toNat ∧
        (((stats.spend cost.stat cost.amount).pay rest).get stat).toNat ≤ _
      rw [owed_cons, owed_cons]
      by_cases own : cost.stat = stat
      · have notMaximum : cost.stat ≠ maximum := own ▸ apart.symm
        rw [if_pos own, if_neg notMaximum] at later ⊢
        omega
      · by_cases lowered : cost.stat = maximum
        · rw [if_neg own, if_pos lowered] at later ⊢
          rw [if_pos lowered] at later
          omega
        · rw [if_neg own, if_neg lowered] at later ⊢
          rw [if_neg lowered] at later
          omega

/-- The most is left when the costs in the stat itself are paid first. -/
theorem toNat_get_pay_own_first (costs : List StatAmount) :
    ((stats.pay (dues costs stat ++ otherDues costs stat)).get stat).toNat =
      min ((stats.get stat).toNat - owed costs stat)
        ((stats.get maximum).toNat - owed costs maximum) := by
  have apart := ceiling_ne capped
  have below := UInt32.le_iff_toNat_le.mp within
  have own := toNat_get_pay_between capped within (dues costs stat)
  have others := toNat_get_pay_between capped (pay_within capped within (dues costs stat))
    (otherDues costs stat)
  have kept := stats.toNat_get_pay_of_free (Stat.ceiling?_of_ceiling? capped) (dues costs stat)
  simp only [owed_dues, owed_otherDues, if_pos, if_neg apart] at own others kept
  rw [pay_append]
  omega

/-- The least is left when the costs in the stat itself are paid last. -/
theorem toNat_get_pay_own_last (costs : List StatAmount) :
    ((stats.pay (otherDues costs stat ++ dues costs stat)).get stat).toNat =
      min (stats.get stat).toNat ((stats.get maximum).toNat - owed costs maximum) -
        owed costs stat := by
  have apart := ceiling_ne capped
  have below := UInt32.le_iff_toNat_le.mp within
  have others := toNat_get_pay_between capped within (otherDues costs stat)
  have own := toNat_get_pay_between capped (pay_within capped within (otherDues costs stat))
    (dues costs stat)
  have lowered := stats.toNat_get_pay_of_free (Stat.ceiling?_of_ceiling? capped)
    (otherDues costs stat)
  simp only [owed_dues, owed_otherDues, if_pos, if_neg apart] at own others lowered
  rw [pay_append]
  omega

end Capped

/-- A capped stat does not notice the order of the costs: nothing is owed with it, or all of it is
owed, or all of its maximum is owed, or its maximum is not lowered below it. -/
def OrderFree (stats : Stats) (costs : List StatAmount) (stat maximum : Stat) : Prop :=
  owed costs stat = 0 ∨ (stats.get stat).toNat ≤ owed costs stat ∨
    (stats.get maximum).toNat ≤ owed costs maximum ∨
    (stats.get stat).toNat + owed costs maximum ≤ (stats.get maximum).toNat

instance (stats : Stats) (costs : List StatAmount) (stat maximum : Stat) :
    Decidable (stats.OrderFree costs stat maximum) :=
  inferInstanceAs (Decidable (_ ∨ _))

/-- All orders leave the same of a capped stat exactly when it is free of the order. -/
theorem get_pay_perm_iff {stats : Stats} {stat maximum : Stat}
    (capped : stat.ceiling? = some maximum) (within : stats.get stat ≤ stats.get maximum)
    (costs : List StatAmount) :
    (∀ other, other.Perm costs → (stats.pay other).get stat = (stats.pay costs).get stat) ↔
      stats.OrderFree costs stat maximum := by
  rw [OrderFree]
  constructor
  · intro same
    have first := same _ (dues_perm costs stat)
    have last := same _ (List.perm_append_comm.trans (dues_perm costs stat))
    have mostIsLeast := congrArg UInt32.toNat (first.trans last.symm)
    rw [toNat_get_pay_own_first capped within, toNat_get_pay_own_last capped within] at mostIsLeast
    omega
  · intro free other reordered
    have otherBetween := toNat_get_pay_between capped within other
    have between := toNat_get_pay_between capped within costs
    rw [owed_perm reordered, owed_perm reordered] at otherBetween
    rw [← UInt32.toNat_inj]
    omega

theorem get_pay_perm_of_free {stat : Stat} (free : stat.ceiling? = none)
    {costs other : List StatAmount} (reordered : other.Perm costs) :
    (stats.pay other).get stat = (stats.pay costs).get stat := by
  rw [← UInt32.toNat_inj, toNat_get_pay_of_free stats free, toNat_get_pay_of_free stats free,
    owed_perm reordered]

/-- The stats are no more than their values. -/
theorem ext_get {stats other : Stats} (same : ∀ stat, stats.get stat = other.get stat) :
    stats = other := by
  have named : ∀ position : Fin 9, ∃ stat ∈ Stat.all, stat.index = position := by decide
  obtain ⟨values⟩ := stats
  obtain ⟨otherValues⟩ := other
  congr 1
  apply Vector.ext
  intro position within
  obtain ⟨stat, -, index⟩ := named ⟨position, within⟩
  obtain rfl : stat.index.val = position := congrArg Fin.val index
  exact same stat

/-- Stats that are made from a list lie within their bounds. -/
theorem ofList_inBounds (values : List (Stat × UInt32)) : (ofList values).levels.InBounds := by
  rw [levels_ofList]
  exact Levels.start_inBounds values

/-- The order in which costs are paid can only matter to a capped stat. It matters exactly when
something is owed with the stat and its maximum is lowered below it, unless one of them is used
up. -/
theorem payment_order_matters_iff (stats : Stats) (bounds : stats.levels.InBounds)
    (costs : List StatAmount) :
    (∀ stat, stat.ceiling? = none → ∀ other, other.Perm costs →
      (stats.pay other).get stat = (stats.pay costs).get stat) ∧
    (∀ stat maximum, stat.ceiling? = some maximum →
      ((∀ other, other.Perm costs → (stats.pay other).get stat = (stats.pay costs).get stat) ↔
        stats.OrderFree costs stat maximum)) ∧
    ((∀ other, other.Perm costs → stats.pay other = stats.pay costs) ↔
      ∀ stat maximum, stat.ceiling? = some maximum → stats.OrderFree costs stat maximum) := by
  have capped : ∀ stat maximum, stat.ceiling? = some maximum →
      ((∀ other, other.Perm costs → (stats.pay other).get stat = (stats.pay costs).get stat) ↔
        stats.OrderFree costs stat maximum) := fun stat maximum capped =>
    get_pay_perm_iff capped (le_of_inBounds bounds capped) costs
  refine ⟨fun stat free other => stats.get_pay_perm_of_free free, capped, ?_⟩
  constructor
  · intro same stat maximum isCeiling
    exact (capped stat maximum isCeiling).mp fun other reordered => by rw [same other reordered]
  · intro free other reordered
    refine ext_get fun stat => ?_
    cases ceiling : stat.ceiling? with
    | none => exact stats.get_pay_perm_of_free ceiling reordered
    | some maximum =>
        exact (capped stat maximum ceiling).mpr (free stat maximum ceiling) other reordered

end Stats

/-- This champion is weary, so that he could lose some of his greatest strength without noticing. -/
def wearyChampion : Stats :=
  Stats.ofList [(.population, 5), (.gold, 4), (.strength, 5), (.maxStrength, 9)]

/-- The maximum is lowered to six, which is no less than the strength. -/
theorem payment_order_matters_iff_champion :
    wearyChampion.levels.InBounds ∧
      ∀ other, other.Perm [⟨.maxStrength, 3⟩, ⟨.strength, 2⟩, ⟨.gold, 1⟩, ⟨.strength, 1⟩] →
        wearyChampion.pay other =
          wearyChampion.pay [⟨.maxStrength, 3⟩, ⟨.strength, 2⟩, ⟨.gold, 1⟩, ⟨.strength, 1⟩] := by
  have bounds : wearyChampion.levels.InBounds := Stats.ofList_inBounds _
  refine ⟨bounds, (wearyChampion.payment_order_matters_iff bounds _).2.2.mpr ?_⟩
  rintro (_ | _ | _ | _ | _ | _ | _ | _ | _) maximum ⟨⟩ <;> decide

/-- This champion is at his greatest strength. -/
def freshChampion : Stats :=
  Stats.ofList [(.population, 5), (.strength, 5), (.maxStrength, 5)]

/-- When the strength is spent first, its maximum of three has only one more to cut off. When the
maximum is lowered first, it cuts off two, and the spending comes on top. -/
theorem payment_order_matters_to_champion :
    freshChampion.levels.InBounds ∧
      freshChampion.canPay [⟨.strength, 1⟩, ⟨.maxStrength, 2⟩] = true ∧
      freshChampion.canPay [⟨.maxStrength, 2⟩, ⟨.strength, 1⟩] = true ∧
      List.Perm [(⟨.maxStrength, 2⟩ : StatAmount), ⟨.strength, 1⟩]
        [⟨.strength, 1⟩, ⟨.maxStrength, 2⟩] ∧
      (freshChampion.pay [⟨.strength, 1⟩, ⟨.maxStrength, 2⟩]).get .strength = 3 ∧
      (freshChampion.pay [⟨.maxStrength, 2⟩, ⟨.strength, 1⟩]).get .strength = 2 ∧
      ¬ freshChampion.OrderFree [⟨.strength, 1⟩, ⟨.maxStrength, 2⟩] .strength .maxStrength :=
  ⟨Stats.ofList_inBounds _, by decide, by decide, by decide, by decide, by decide, by decide⟩

end Gamebook
