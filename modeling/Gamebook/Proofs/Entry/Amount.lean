/-
This file says how amounts are written.
A run of ASCII digits stands for the number that it denotes in the decimal system, with any number of
zeros in front. A sign may only stand in front of the amount of a change.
-/

import Gamebook.Numeral
import Mathlib.Data.Nat.Digits.Defs
import Mathlib.Tactic.Ring

namespace Gamebook.Numeral

/-- This is the number that a run of digits denotes. The last digit counts the ones. -/
def decimal (digits : List Char) : Nat :=
  Nat.ofDigits 10 (digits.reverse.map fun digit => digit.toNat - 48)

/-- A number is written as a run of one or more digits that denotes it. -/
structure Writes (digits : List Char) (value : Nat) : Prop where
  nonempty : digits ≠ []
  areDigits : ∀ digit ∈ digits, digit.isDigit = true
  denotes : decimal digits = value

/-- A signed number is written as its magnitude, with at most one sign in front of it. -/
inductive WritesSigned : List Char → Int → Prop
  | plain {digits : List Char} {value : Nat} (written : Writes digits value) :
      WritesSigned digits value
  | plus {digits : List Char} {value : Nat} (written : Writes digits value) :
      WritesSigned ('+' :: digits) value
  | minus {digits : List Char} {value : Nat} (written : Writes digits value) :
      WritesSigned ('-' :: digits) (-value)

theorem decimal_cons (digit : Char) (rest : List Char) :
    decimal (digit :: rest) = (digit.toNat - 48) * 10 ^ rest.length + decimal rest := by
  rw [decimal, decimal, List.reverse_cons, List.map_append, Nat.ofDigits_append, List.length_map,
    List.length_reverse, List.map_singleton, Nat.ofDigits_singleton]
  ring

/-- In the decimal system a letter is no digit. -/
theorem digitsFrom?_ten_cons (first : Nat) (digit : Char) (rest : List Char) :
    digitsFrom? 10 first (digit :: rest) =
      if digit.isDigit then digitsFrom? 10 (first * 10 + (digit.toNat - 48)) rest else none := by
  rw [digitsFrom?, digitValue?]
  by_cases isDigit : digit.isDigit = true
  · have range := Char.isDigit_iff_toNat.mp isDigit
    have small : digit.toNat - 48 < 10 := by
      have last : '9'.toNat = 57 := rfl
      omega
    simp only [isDigit, if_true, small]
  · simp only [isDigit, if_false, Bool.false_eq_true, Bool.and_eq_true, decide_eq_true_eq]
    split
    next => rfl
    next value found =>
      have large : ¬ value < 10 := by
        split at found
        next => injection found; omega
        next =>
          split at found
          next => injection found; omega
          next => cases found
      rw [if_neg large]

/-- Reading digits moves what was read before in front of them. -/
theorem digitsFrom?_ten_eq_some_iff {digits : List Char} {first value : Nat} :
    digitsFrom? 10 first digits = some value ↔
      (∀ digit ∈ digits, digit.isDigit = true) ∧
        first * 10 ^ digits.length + decimal digits = value := by
  induction digits generalizing first with
  | nil => simp [digitsFrom?, decimal]
  | cons digit rest inductionHypothesis =>
      have moved : (first * 10 + (digit.toNat - 48)) * 10 ^ rest.length + decimal rest =
          first * 10 ^ (digit :: rest).length + decimal (digit :: rest) := by
        rw [decimal_cons, List.length_cons]
        ring
      rw [digitsFrom?_ten_cons, List.forall_mem_cons]
      split
      next isDigit => rw [inductionHypothesis, moved, and_iff_right isDigit]
      next noDigit => simp [noDigit]

theorem natural?_ten_eq_some_iff {digits : List Char} {value : Nat} :
    natural? 10 digits = some value ↔ Writes digits value := by
  rw [natural?]
  split
  next nothing =>
    exact ⟨nofun, fun written => absurd (List.isEmpty_iff.mp nothing) written.nonempty⟩
  next something =>
    rw [digitsFrom?_ten_eq_some_iff, Nat.zero_mul, Nat.zero_add]
    constructor
    · rintro ⟨areDigits, denotes⟩
      exact ⟨fun nothing => something (List.isEmpty_iff.mpr nothing), areDigits, denotes⟩
    · intro written
      exact ⟨written.areDigits, written.denotes⟩

/-- A count is read when it is written without a sign and fits into a word. -/
theorem unsigned?_eq_some_iff {text : String} {value : UInt32} :
    unsigned? text = some value ↔ Writes text.toList value.toNat := by
  rw [← natural?_ten_eq_some_iff, unsigned?]
  cases natural? 10 text.toList with
  | none => simp
  | some read =>
      have fits := value.toNat_lt
      have size : UInt32.size = 4294967296 := rfl
      dsimp only
      split
      next below =>
        rw [Option.some_inj, Option.some_inj, ← UInt32.toNat_inj, UInt32.toNat_ofNat_of_lt' below]
      next beyond =>
        refine ⟨nofun, fun same => ?_⟩
        have := Option.some.inj same
        omega

theorem integer?_ten_eq_some_iff {characters : List Char} {value : Int} :
    integer? 10 characters = some value ↔ WritesSigned characters value := by
  constructor
  · intro read
    rw [integer?.eq_def] at read
    split at read
    next =>
      obtain ⟨magnitude, written, rfl⟩ := Option.map_eq_some_iff.mp read
      exact .plus (natural?_ten_eq_some_iff.mp written)
    next =>
      obtain ⟨negated, found, rfl⟩ := Option.map_eq_some_iff.mp read
      obtain ⟨magnitude, written, same⟩ := Option.bind_eq_some_iff.mp found
      cases same
      exact .minus (natural?_ten_eq_some_iff.mp written)
    next =>
      obtain ⟨magnitude, written, rfl⟩ := Option.map_eq_some_iff.mp read
      exact .plain (natural?_ten_eq_some_iff.mp written)
  · rintro (⟨written⟩ | ⟨written⟩ | ⟨written⟩)
    · rw [integer?.eq_def]
      split
      next => cases written.areDigits _ List.mem_cons_self
      next => cases written.areDigits _ List.mem_cons_self
      next => rw [natural?_ten_eq_some_iff.mpr written, Option.map_some, Int.ofNat_eq_natCast]
    · rw [integer?, natural?_ten_eq_some_iff.mpr written]
      rfl
    · rw [integer?, natural?_ten_eq_some_iff.mpr written]
      rfl

/-- A change is read when it is written with at most one sign and fits into a signed word. -/
theorem signed?_eq_some_iff {text : String} {value : Int32} :
    signed? text = some value ↔ WritesSigned text.toList value.toInt := by
  rw [← integer?_ten_eq_some_iff, signed?]
  cases integer? 10 text.toList with
  | none => simp
  | some read =>
      have least := value.le_toInt
      have greatest := value.toInt_lt
      dsimp only
      rw [inRange32, Option.some_inj]
      split
      next within =>
        rw [Bool.and_eq_true, decide_eq_true_eq, decide_eq_true_eq] at within
        rw [Option.some_inj, ← Int32.toInt_inj, Int32.toInt_ofInt_of_le (by omega) (by omega)]
      next outside =>
        refine ⟨nofun, fun same => ?_⟩
        rw [Bool.and_eq_true, decide_eq_true_eq, decide_eq_true_eq] at outside
        omega

end Gamebook.Numeral
