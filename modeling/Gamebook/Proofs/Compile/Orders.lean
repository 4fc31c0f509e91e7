/-
This file shows that sorting finds every order that two options share. An event is only compiled
when there is none, so that its options are in strictly ascending order.
-/

import Gamebook.Compile
import Mathlib.Data.List.Nodup

namespace Gamebook

/-- These are the orders of the options as they are written. -/
def EventDefinition.orders (definition : EventDefinition) : List Int32 :=
  definition.options.map OptionDefinition.order

theorem sortOptions_pairwise (options : List EventOption) :
    (sortOptions options).Pairwise fun left right => left.order ≤ right.order := by
  have sorted : (sortOptions options).Pairwise fun left right =>
      decide (left.order ≤ right.order) = true := by
    refine List.pairwise_mergeSort ?_ ?_ options
    · intro first second third firstBelow secondBelow
      rw [decide_eq_true_eq] at firstBelow secondBelow ⊢
      exact Int32.le_trans firstBelow secondBelow
    · intro first second
      rw [Bool.or_eq_true, decide_eq_true_eq, decide_eq_true_eq]
      exact Int32.le_total first.order second.order
  simpa only [decide_eq_true_eq] using sorted

/-- Sorting looks at nothing but the orders of the options. -/
theorem sortOptions_map {change : EventOption → EventOption}
    (keepsOrder : ∀ option, (change option).order = option.order) (options : List EventOption) :
    sortOptions (options.map change) = (sortOptions options).map change := by
  rw [sortOptions, sortOptions, List.map_mergeSort]
  intro first _ second _
  rw [keepsOrder, keepsOrder]

theorem sharedOrder?_map {change : EventOption → EventOption}
    (keepsOrder : ∀ option, (change option).order = option.order) (options : List EventOption) :
    sharedOrder? (options.map change) = sharedOrder? options := by
  induction options with
  | nil => rfl
  | cons first rest inductionHypothesis =>
      cases rest with
      | nil => rfl
      | cons second rest =>
          rw [List.map_cons] at inductionHypothesis
          rw [List.map_cons, List.map_cons, sharedOrder?, sharedOrder?, keepsOrder, keepsOrder,
            inductionHypothesis]

theorem sortOptions_perm (options : List EventOption) : (sortOptions options).Perm options :=
  List.mergeSort_perm options _

/-- Equal orders are neighbours in a sorted list, so that neighbours that differ are ascending. -/
theorem pairwise_lt_of_sharedOrder? {options : List EventOption}
    (sorted : options.Pairwise fun left right => left.order ≤ right.order)
    (none : sharedOrder? options = none) :
    options.Pairwise fun left right => left.order < right.order := by
  induction options with
  | nil => exact List.Pairwise.nil
  | cons first rest inductionHypothesis =>
      cases rest with
      | nil => exact List.pairwise_singleton _ first
      | cons second rest =>
          rw [sharedOrder?] at none
          split at none
          next => cases none
          next apart =>
            -- All later options lie above the second, so that comparing neighbours is enough.
            have tail := inductionHypothesis sorted.tail none
            have firstBelow : first.order < second.order :=
              Int32.lt_of_le_of_ne (List.rel_of_pairwise_cons sorted List.mem_cons_self) apart
            refine List.pairwise_cons.mpr ⟨fun later listed => ?_, tail⟩
            rcases List.mem_cons.mp listed with rfl | inRest
            · exact firstBelow
            · exact Int32.lt_trans firstBelow (List.rel_of_pairwise_cons tail inRest)

/-- An order that is found is the order of at least two options. -/
theorem count_of_sharedOrder? {options : List EventOption} {order : Int32}
    (found : sharedOrder? options = some order) :
    2 ≤ (options.map EventOption.order).count order := by
  induction options with
  | nil => cases found
  | cons first rest inductionHypothesis =>
      cases rest with
      | nil => cases found
      | cons second rest =>
          rw [sharedOrder?] at found
          split at found
          next shared =>
            cases found
            simp [shared]
          next => exact Nat.le_trans (inductionHypothesis found) List.count_le_count_cons

/-- In a sorted list no order below the one that is found is shared. -/
theorem le_of_sharedOrder? {options : List EventOption}
    (sorted : options.Pairwise fun left right => left.order ≤ right.order) {order other : Int32}
    (found : sharedOrder? options = some order)
    (twice : 2 ≤ (options.map EventOption.order).count other) : order ≤ other := by
  induction options with
  | nil => cases found
  | cons first rest inductionHypothesis =>
      rw [List.map_cons, List.count_cons] at twice
      obtain ⟨later, inRest, rfl⟩ : ∃ later ∈ rest, later.order = other := by
        refine List.mem_map.mp (List.count_pos_iff.mp ?_)
        split at twice <;> omega
      cases rest with
      | nil => cases inRest
      | cons second rest =>
          rw [sharedOrder?] at found
          split at found
          next shared =>
            cases found
            exact List.rel_of_pairwise_cons sorted inRest
          next apart =>
            -- The first option lies strictly below all others, so that nothing shares its order.
            have firstBelow := Int32.lt_of_le_of_ne
              (List.rel_of_pairwise_cons sorted List.mem_cons_self) apart
            have secondLeast : second.order ≤ later.order := by
              rcases List.mem_cons.mp inRest with rfl | further
              · exact Int32.le_refl _
              · exact List.rel_of_pairwise_cons sorted.tail further
            have above : first.order ≠ later.order :=
              Int32.ne_of_lt (Int32.lt_of_lt_of_le firstBelow secondLeast)
            rw [if_neg (by simpa using above), Nat.add_zero] at twice
            exact inductionHypothesis sorted.tail found twice

theorem sharedOrder?_sortOptions_eq_none_iff {options : List EventOption} :
    sharedOrder? (sortOptions options) = none ↔ (options.map EventOption.order).Nodup := by
  have sameOrders := (sortOptions_perm options).map EventOption.order
  constructor
  · intro none
    have ascending := pairwise_lt_of_sharedOrder? (sortOptions_pairwise options) none
    rw [← sameOrders.nodup_iff]
    refine List.pairwise_map.mpr (ascending.imp ?_)
    intro left right below same
    rw [same] at below
    exact Int32.lt_irrefl below
  · intro distinct
    cases found : sharedOrder? (sortOptions options) with
    | none => rfl
    | some order =>
        have twice := count_of_sharedOrder? found
        have once := List.nodup_iff_count_le_one.mp (sameOrders.nodup_iff.mpr distinct) order
        omega

/-- When two options share an order, sorting finds an order that at least two options share. -/
theorem exists_sharedOrder?_of_not_nodup {options : List EventOption}
    (shared : ¬(options.map EventOption.order).Nodup) :
    ∃ order, sharedOrder? (sortOptions options) = some order ∧
      2 ≤ (options.map EventOption.order).count order := by
  cases found : sharedOrder? (sortOptions options) with
  | none => exact (shared (sharedOrder?_sortOptions_eq_none_iff.mp found)).elim
  | some order =>
      have twice := count_of_sharedOrder? found
      rw [((sortOptions_perm options).map EventOption.order).count_eq] at twice
      exact ⟨order, rfl, twice⟩

end Gamebook
