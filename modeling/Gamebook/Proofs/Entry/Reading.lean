/-
This file shows that the readers of condition, cost and effect lists accept exactly their grammars.
A list is accepted when everything written in it denotes something, and then it is read as what its
entries denote. When it is refused, each rejected entry is reported once.
-/

import Gamebook.Proofs.Compile.Rejections
import Gamebook.Proofs.Entry.Grammar

namespace Gamebook

/-- These are the entries that count. Blank entries are skipped. -/
def written (entries : List String) : List String :=
  entries.filter fun entry => !Text.isBlankText entry

open Classical in
/-- These are the entries that count and denote nothing. -/
noncomputable def rejected {A : Type} (Spelled : String → String → A → Prop)
    (entries : List String) : List String :=
  (written entries).filter fun entry => ¬∃ denoted, Denotes Spelled entry denoted

/-- A reader of lists accepts exactly what a grammar spells, and it reports all that it rejects. -/
structure ReadsGrammar {A : Type} (Spelled : String → String → A → Prop)
    (read : String → List String → Except (List EntryError) (List A)) : Prop where
  accepts_iff : ∀ field entries,
    (∃ values, read field entries = .ok values) ↔
      ∀ entry ∈ entries, Text.isBlankText entry = false → ∃ denoted, Denotes Spelled entry denoted
  /-- The values stand in the order of the entries that denote them. -/
  values_iff : ∀ field entries values,
    read field entries = .ok values ↔ List.Forall₂ (Denotes Spelled) (written entries) values
  /-- The errors stand in the order of the rejected entries. Each of them is the error with which the
  entry is refused by itself. -/
  errors : ∀ field entries found, read field entries = .error found →
    List.Forall₂ (fun entry error => error.field = field ∧ error.fault.Quotes entry ∧
      read field [entry] = .error [error]) (rejected Spelled entries) found

theorem mem_written {entries : List String} {entry : String} :
    entry ∈ written entries ↔ entry ∈ entries ∧ Text.isBlankText entry = false := by
  rw [written, List.mem_filter, Bool.not_eq_true']

theorem written_singleton {entry : String} (counts : Text.isBlankText entry = false) :
    written [entry] = [entry] := by
  rw [written, List.filter_singleton, counts]
  rfl

/-- Partners can be lined up exactly when everyone has one. -/
theorem exists_forall₂_iff {A B : Type} {Partners : A → B → Prop} {left : List A} :
    (∃ right, List.Forall₂ Partners left right) ↔ ∀ one ∈ left, ∃ other, Partners one other := by
  induction left with
  | nil => simp
  | cons one rest inductionHypothesis =>
      rw [List.forall_mem_cons, ← inductionHypothesis]
      constructor
      · rintro ⟨_, first | ⟨first, later⟩⟩
        exact ⟨⟨_, first⟩, _, later⟩
      · rintro ⟨⟨other, first⟩, others, later⟩
        exact ⟨other :: others, .cons first later⟩

namespace FollowsGrammar

variable {A : Type} {ofPair : String → String → Except EntryFault A}
  {Spelled : String → String → A → Prop} (follows : FollowsGrammar ofPair Spelled)
  (field : String) (entries : List String)

include follows

theorem readEntries_eq_ok_iff {values : List A} :
    readEntries ofPair field entries = .ok values ↔
      List.Forall₂ (Denotes Spelled) (written entries) values := by
  have each : (fun entry value => readEntry ofPair field entry = .ok value) = Denotes Spelled := by
    funext entry value
    exact propext follows.readEntry_eq_ok_iff
  rw [readEntries, gather_eq_ok_iff, ← List.forall₂_eq_eq_eq, List.forall₂_map_left_iff,
    List.forall₂_map_right_iff, each, written]

theorem readEntries_accepts_iff :
    (∃ values, readEntries ofPair field entries = .ok values) ↔
      ∀ entry ∈ entries, Text.isBlankText entry = false →
        ∃ denoted, Denotes Spelled entry denoted := by
  simp only [follows.readEntries_eq_ok_iff, exists_forall₂_iff, mem_written, and_imp]

/-- The failures stand beside the entries that denote nothing. -/
theorem forall₂_rejections :
    List.Forall₂ (fun entry error => error.field = field ∧ error.fault.Quotes entry ∧
      readEntries ofPair field [entry] = .error [error])
      (rejected Spelled entries) (rejections ofPair field entries) := by
  have counts : ∀ entry ∈ written entries, Text.isBlankText entry = false := fun entry listed =>
    (mem_written.mp listed).2
  rw [rejected, rejections, ← written]
  generalize written entries = counted at counts
  induction counted with
  | nil => exact .nil
  | cons entry rest inductionHypothesis =>
      rw [List.forall_mem_cons] at counts
      have later := inductionHypothesis counts.2
      rcases follows.readEntry_cases field entry with ⟨value, read, denotes⟩ | ⟨fault, read, quotes⟩
      · rw [List.filter_cons_of_neg (by simpa using ⟨value, denotes⟩),
          List.filterMap_cons_none (by rw [read]; rfl)]
        exact later
      · have nothing : ¬∃ denoted, Denotes Spelled entry denoted := by
          rintro ⟨denoted, denotes⟩
          cases read.symm.trans (follows.readEntry_eq_ok_iff.mpr denotes)
        have alone : readEntries ofPair field [entry] = .error [⟨field, fault⟩] := by
          rw [readEntries, ← written, written_singleton counts.1, List.map_singleton, read]
          rfl
        rw [List.filter_cons_of_pos (by simpa using nothing),
          List.filterMap_cons_some (by rw [read]; rfl)]
        exact .cons ⟨rfl, quotes, alone⟩ later

theorem readsGrammar : ReadsGrammar Spelled (readEntries ofPair) where
  accepts_iff := follows.readEntries_accepts_iff
  values_iff field entries _ := follows.readEntries_eq_ok_iff field entries
  errors field entries found refused := by
    have all := failures_readEntries ofPair field entries
    rw [refused, failures] at all
    rw [all]
    exact follows.forall₂_rejections field entries

end FollowsGrammar

/-- Each reader accepts exactly its own grammar. -/
theorem entries_read_by_their_grammars :
    ReadsGrammar Condition.Spelled readConditions ∧
      ReadsGrammar StatAmount.Spelled readCosts ∧
      ReadsGrammar Effect.Spelled readEffects :=
  ⟨Condition.followsGrammar.readsGrammar, StatAmount.followsGrammar.readsGrammar,
    Effect.followsGrammar.readsGrammar⟩

example : readEffects "Effects" [" Gold : +05 ", " ", "item: a:b"] =
    .ok [.statChange .gold 5, .grantItem "a:b"] := by
  decide +kernel

/-- One bad entry hides the good ones, and every bad one is still reported. -/
example : readCosts "Costs" ["food:3", "gold", "food:-1"] =
    .error [⟨"Costs", .missingColon "gold"⟩, ⟨"Costs", .badCost .food "-1"⟩] := by
  decide +kernel

end Gamebook
