/-
This file says what can be read off the messages about refused entries. A message that tells of an
unknown key can be told by its beginning. What is suggested or hinted at is quoted in its end.
-/

import Gamebook.Proofs.Entry.Grammar

namespace Gamebook

/-- Messages about an unknown key of a field begin like this. -/
def FieldKind.TellsUnknown (kind : FieldKind) (message : String) : Prop :=
  ∃ rest, message = kind.unknownKeyText ++ " '" ++ rest

/-- A message suggests a key when it asks in the end whether this key was meant. -/
def SuggestsKey (message key : String) : Prop :=
  ∃ start, message = start ++ " Did you mean '" ++ key ++ "'?"

/-- A message hints at an entry when it says in the end that this entry is to be used. -/
def HintsAt (message entry : String) : Prop :=
  ∃ start, message = start ++ " Use '" ++ entry ++ "' instead."

/-- These faults lie in the value of an entry. -/
def EntryFault.blamesValue : EntryFault → Bool
  | .missingColon _ => false
  | .unknownKey _ _ => false
  | _ => true

section

variable {first second start other : String}

/-- Of two beginnings of a text, one begins with the other. -/
theorem beginnings_nested (same : first ++ start = second ++ other) :
    first.toList <+: second.toList ∨ second.toList <+: first.toList := by
  have lists := congrArg String.toList same
  rw [String.toList_append, String.toList_append] at lists
  exact List.prefix_or_prefix_of_prefix (List.prefix_append _ _) ⟨_, lists.symm⟩

/-- Of two endings of a text, one ends with the other. -/
theorem endings_nested (same : start ++ first = other ++ second) :
    first.toList <:+ second.toList ∨ second.toList <:+ first.toList := by
  have lists := congrArg String.toList same
  rw [String.toList_append, String.toList_append] at lists
  exact List.suffix_or_suffix_of_suffix (List.suffix_append _ _) ⟨_, lists.symm⟩

/-- Behind the last mark of a list stands only one list. -/
theorem behind_last_mark {A : Type} {mark : A} {left right before after : List A}
    (same : left ++ mark :: before = right ++ mark :: after) (clear : mark ∉ before)
    (alsoClear : mark ∉ after) : before = after := by
  rcases List.append_eq_append_iff.mp same with ⟨between, -, split⟩ | ⟨between, -, split⟩
  · cases between with
    | nil => exact (List.cons.inj split).2
    | cons _ rest => exact absurd ((List.cons.inj split).2 ▸ by simp) clear
  · cases between with
    | nil => exact (List.cons.inj split).2.symm
    | cons _ rest => exact absurd ((List.cons.inj split).2 ▸ by simp) alsoClear

/-- A text quotes one text without quotation marks before its closing. It stands between the last two
quotation marks. -/
theorem quoted_unique {message opening closing : String} (marked : ∃ front, opening = front ++ "'")
    (one : ∃ start, message = start ++ opening ++ first ++ closing)
    (other : ∃ start, message = start ++ opening ++ second ++ closing)
    (clear : '\'' ∉ first.toList) (alsoClear : '\'' ∉ second.toList) : first = second := by
  obtain ⟨front, rfl⟩ := marked
  obtain ⟨start, rfl⟩ := one
  obtain ⟨other, same⟩ := other
  have lists := congrArg String.toList (String.append_left_inj closing |>.mp same)
  have mark : "'".toList = ['\''] := rfl
  simp only [String.toList_append, mark, ← List.append_assoc] at lists
  simp only [List.append_assoc _ ['\''], List.singleton_append] at lists
  exact String.toList_inj.mp (behind_last_mark lists clear alsoClear)

/-- A text that ends with other words quotes nothing before the closing. -/
theorem not_quoted {opening words closing ending : String}
    (apart : ¬(ending.toList <:+ closing.toList ∨ closing.toList <:+ ending.toList)) :
    ¬∃ other, start ++ ending = other ++ opening ++ words ++ closing := by
  rintro ⟨other, same⟩
  exact apart (endings_nested same)

end

/-- A message that begins with other words does not tell of an unknown key. -/
theorem FieldKind.not_tellsUnknown {opening rest : String} (kind : FieldKind)
    (apart : ¬(opening.toList <+: "unknown".toList ∨ "unknown".toList <+: opening.toList)) :
    ¬kind.TellsUnknown (opening ++ rest) := by
  rintro ⟨told, same⟩
  have word : ∃ more, kind.unknownKeyText = "unknown" ++ more := by
    cases kind
    · exact ⟨" condition key", by decide⟩
    · exact ⟨" stat", by decide⟩
    · exact ⟨" effect token", by decide⟩
  obtain ⟨more, begins⟩ := word
  rw [begins, String.append_assoc, String.append_assoc] at same
  exact apart (beginnings_nested same)

/-- This is what an author is asked who wrote an unknown key. -/
def FieldKind.question (kind : FieldKind) (key : String) : String :=
  match kind.suggestion? key with
  | some known => " Did you mean '" ++ known ++ "'?"
  | none => ""

namespace EntryFault

variable {fault : EntryFault} {kind : FieldKind} {key known hint : String}

/-- A message about an unknown key lists the keys that are known before it asks about one of them. -/
theorem message_unknownKey (kind : FieldKind) (field key : String) :
    (unknownKey kind key).message field =
      kind.unknownKeyText ++ " '" ++ key ++ "' in " ++ field ++ ". " ++ kind.listingText ++ ": " ++
        String.intercalate ", " kind.keys ++ "." ++ kind.question key :=
  rfl

theorem tellsUnknown_unknownKey (kind : FieldKind) (field key : String) :
    kind.TellsUnknown ((unknownKey kind key).message field) := by
  rw [message_unknownKey]
  simp only [FieldKind.TellsUnknown, String.append_assoc]
  exact ⟨_, rfl⟩

/-- A message about a value does not tell of an unknown key. -/
theorem not_tellsUnknown_of_blamesValue (blames : fault.blamesValue = true) (kind : FieldKind)
    (field : String) : ¬kind.TellsUnknown (fault.message field) := by
  cases fault with
  | missingColon entry => cases blames
  | unknownKey kind key => cases blames
  | _ =>
      delta message
      simp only [String.append_assoc]
      exact kind.not_tellsUnknown (by decide)

theorem suggestsKey_of_suggestion (suggested : kind.suggestion? key = some known) (field : String) :
    SuggestsKey ((unknownKey kind key).message field) known := by
  have asked : kind.question key = " Did you mean '" ++ known ++ "'?" := by
    rw [FieldKind.question, suggested]
  rw [message_unknownKey, asked, ← String.append_assoc, ← String.append_assoc]
  exact ⟨_, rfl⟩

theorem not_suggestsKey_of_none (nothing : kind.suggestion? key = none) (field known : String) :
    ¬SuggestsKey ((unknownKey kind key).message field) known := by
  rw [message_unknownKey, FieldKind.question, nothing]
  simp only [String.append_empty]
  exact not_quoted (by decide)

/-- A message hints at an entry only when a count is signed. -/
theorem signed_of_hintsAt {field : String} (hints : HintsAt (fault.message field) hint) :
    ∃ stat count, fault = .signedThreshold stat count := by
  cases fault with
  | signedThreshold stat count => exact ⟨stat, count, rfl⟩
  | unknownKey kind key =>
      refine absurd hints ?_
      rw [message_unknownKey, FieldKind.question]
      split
      next =>
        rw [← String.append_assoc]
        exact not_quoted (by decide)
      next =>
        rw [String.append_empty, String.append_assoc]
        refine not_quoted ?_
        cases kind <;> decide +kernel
  | _ =>
      refine absurd hints ?_
      delta message
      dsimp only
      exact not_quoted (by decide)

/-- The hint spells the stat and the count without its sign. -/
theorem hintsAt_signed (field : String) (stat : Stat) (count : String) :
    HintsAt ((signedThreshold stat count).message field) (stat.key ++ ":" ++ count) := by
  have told : (signedThreshold stat count).message field =
      "bad amount '+" ++ count ++ "' in " ++ field ++
        ": conditions are minimum thresholds and do not allow a '+' sign. Use '" ++ stat.key ++ ":" ++
        count ++ "' instead." :=
    rfl
  have last : ": conditions are minimum thresholds and do not allow a '+' sign. Use '" =
      ": conditions are minimum thresholds and do not allow a '+' sign." ++ " Use '" := by
    decide +kernel
  rw [told, last]
  refine ⟨"bad amount '+" ++ count ++ "' in " ++ field ++
    ": conditions are minimum thresholds and do not allow a '+' sign.", ?_⟩
  simp only [String.append_assoc]

end EntryFault

end Gamebook
