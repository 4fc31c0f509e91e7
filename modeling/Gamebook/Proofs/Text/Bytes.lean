/-
This file shows that texts are in the order of their bytes. A character is encoded in one to four
bytes, and the encoding of a lesser character is less before either of the two encodings ends.
-/

import Gamebook.Text.Blank
import Mathlib.Data.String.Basic
import Mathlib.Tactic.SplitIfs

namespace Gamebook.Text

/-- These are the bytes of a text as it is stored. -/
def bytes (text : String) : List UInt8 :=
  text.toUTF8.data.toList

theorem bytes_eq (text : String) : bytes text = text.toList.flatMap String.utf8EncodeChar := by
  have encoded : text.toUTF8 = text.toList.utf8Encode := by
    rw [← String.toByteArray_ofList, String.ofList_toList]
    rfl
  rw [bytes, encoded, List.utf8Encode]
  simp

/-- The first place at which two lists differ lies within both, and there the left one is less. -/
def Precedes : List UInt8 → List UInt8 → Prop
  | first :: rest, second :: others => first < second ∨ first = second ∧ Precedes rest others
  | _, _ => False

/-- What stands behind the place at which two lists differ does not matter for their order. -/
theorem Precedes.append_lt {left right : List UInt8} (precedes : Precedes left right)
    (before after : List UInt8) : left ++ before < right ++ after := by
  induction left generalizing right with
  | nil => cases precedes
  | cons first rest inductionHypothesis =>
      cases right with
      | nil => cases precedes
      | cons second others =>
          rw [List.cons_append, List.cons_append, List.cons_lt_cons_iff]
          exact precedes.imp_right fun tail => ⟨tail.1, inductionHypothesis tail.2⟩

/-- Of two bytes in the same place the lesser one is less in its number. -/
theorem precedes_ofNat_cons {first second : Nat} {rest others : List UInt8} :
    Precedes (.ofNat first :: rest) (.ofNat second :: others) ↔
      first % 256 < second % 256 ∨ first % 256 = second % 256 ∧ Precedes rest others := by
  simp only [Precedes, UInt8.lt_iff_toNat_lt, ← UInt8.toNat_inj, UInt8.toNat_ofNat']

theorem not_precedes_nil : ¬Precedes [] [] := id

/-- The quotient decides which of two numbers is less, or else the remainder does. -/
theorem div_lt_or_mod_lt {left right : Nat} (below : left < right) :
    left / 64 < right / 64 ∨ left / 64 = right / 64 ∧ left % 64 < right % 64 := by
  omega

/-- Behind the first of four bytes stand digits to the base 64. -/
theorem precedes_fourBytes {left right : Nat} (below : left < right) (bound : right < 0x110000) :
    Precedes
      [.ofNat (left / 262144 % 8 + 240), .ofNat (left / 4096 % 64 + 128),
        .ofNat (left / 64 % 64 + 128), .ofNat (left % 64 + 128)]
      [.ofNat (right / 262144 % 8 + 240), .ofNat (right / 4096 % 64 + 128),
        .ofNat (right / 64 % 64 + 128), .ofNat (right % 64 + 128)] := by
  have thrice : ∀ number : Nat, number / 262144 = number / 64 / 64 / 64 := fun number => by
    simp only [Nat.div_div_eq_div_mul]
  have twice : ∀ number : Nat, number / 4096 = number / 64 / 64 := fun number => by
    simp only [Nat.div_div_eq_div_mul]
  simp only [precedes_ofNat_cons, not_precedes_nil, and_false, or_false, thrice, twice]
  rcases div_lt_or_mod_lt below with high | ⟨sameHigh, last⟩
  · rcases div_lt_or_mod_lt high with higher | ⟨sameHigher, third⟩
    · rcases div_lt_or_mod_lt higher with first | ⟨sameFirst, second⟩ <;> omega
    · omega
  · omega

/-- The bytes of a lesser character precede those of a greater one. -/
theorem precedes_utf8EncodeChar {left right : Char} (below : left < right) :
    Precedes (String.utf8EncodeChar left) (String.utf8EncodeChar right) := by
  have less : left.val.toNat < right.val.toNat := below
  have bound : right.val.toNat < 0x110000 := by
    rcases right.valid with low | high
    · exact low.trans (by decide)
    · exact high.2
  simp only [String.utf8EncodeChar]
  generalize left.val.toNat = x at less ⊢
  generalize right.val.toNat = y at less bound ⊢
  by_cases wide : 65535 < x
  · simp only [show ¬x ≤ 127 by omega, show ¬x ≤ 2047 by omega, show ¬x ≤ 65535 by omega,
      show ¬y ≤ 127 by omega, show ¬y ≤ 2047 by omega, show ¬y ≤ 65535 by omega, if_false]
    exact precedes_fourBytes less bound
  · split_ifs <;>
      simp only [precedes_ofNat_cons, not_precedes_nil, and_false, or_false] <;>
      omega

theorem flatMap_utf8EncodeChar_lt {left right : List Char} (below : left < right) :
    left.flatMap String.utf8EncodeChar < right.flatMap String.utf8EncodeChar := by
  induction left generalizing right with
  | nil =>
      cases right with
      | nil => exact (List.lt_irrefl _ below).elim
      | cons second others =>
          have some : 0 < (String.utf8EncodeChar second).length := by
            rw [String.length_utf8EncodeChar]
            exact second.utf8Size_pos
          rw [List.flatMap_nil, List.flatMap_cons]
          cases encoded : String.utf8EncodeChar second with
          | nil => simp [encoded] at some
          | cons byte bytes => exact List.nil_lt_cons _ _
  | cons first rest inductionHypothesis =>
      cases right with
      | nil => exact (List.not_lt_nil _ below).elim
      | cons second others =>
          rw [List.flatMap_cons, List.flatMap_cons]
          rcases List.cons_lt_cons_iff.mp below with before | ⟨rfl, tail⟩
          · exact (precedes_utf8EncodeChar before).append_lt _ _
          · exact List.append_left_lt (inductionHypothesis tail)

/-- Texts are in the order of their bytes. -/
theorem bytes_lt_iff {left right : String} : bytes left < bytes right ↔ left < right := by
  have mono : ∀ {first second : String}, first < second → bytes first < bytes second := by
    intro first second below
    rw [bytes_eq, bytes_eq]
    exact flatMap_utf8EncodeChar_lt below
  refine ⟨fun below => ?_, mono⟩
  rcases lt_trichotomy left right with before | rfl | after
  · exact before
  · exact (List.lt_irrefl _ below).elim
  · exact (List.lt_asymm below (mono after)).elim

theorem bytes_le_iff {left right : String} : bytes left ≤ bytes right ↔ left ≤ right :=
  not_congr bytes_lt_iff

end Gamebook.Text
