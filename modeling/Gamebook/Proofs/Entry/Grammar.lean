/-
This file gives the grammar of entries and shows that an entry is read exactly when it follows it.
The key is what stands before the first colon and the value is all that stands behind it, each without
the blanks around it. A key counts in any case of its ASCII letters.
-/

import Gamebook.Entry
import Gamebook.Proofs.Entry.Amount
import Gamebook.Proofs.Text.Trimming

namespace Gamebook

/-- This says that an entry has a key and a value. -/
def Pairs (entry key value : String) : Prop :=
  ∃ before after, entry.toList = before ++ ':' :: after ∧ ':' ∉ before ∧
    key = Text.trim (String.ofList before) ∧ value = Text.trim (String.ofList after)

/-- A condition is spelled as a name after its kind, or as a count after the key of a stat. -/
inductive Condition.Spelled (key value : String) : Condition → Prop
  | hasItem (named : Text.fold key = "item") (given : value ≠ "") : Spelled key value (.hasItem value)
  | hasTitle (named : Text.fold key = "title") (given : value ≠ "") :
      Spelled key value (.hasTitle value)
  | atNode (named : Text.fold key = "node_kind") (given : value ≠ "") :
      Spelled key value (.atNode value)
  | threshold {stat : Stat} {minimum : UInt32} (named : Text.fold key = stat.key)
      (counted : Numeral.Writes value.toList minimum.toNat) :
      Spelled key value (.threshold stat minimum)

/-- A cost is spelled as a count after the key of a stat. -/
inductive StatAmount.Spelled (key value : String) : StatAmount → Prop
  | due {stat : Stat} {amount : UInt32} (named : Text.fold key = stat.key)
      (counted : Numeral.Writes value.toList amount.toNat) : Spelled key value ⟨stat, amount⟩

/-- An effect is spelled as a name after its kind, or as a signed number after the key of a stat. -/
inductive Effect.Spelled (key value : String) : Effect → Prop
  | triggerEvent (named : Text.fold key = "event") (given : value ≠ "") :
      Spelled key value (.triggerEvent value)
  | grantItem (named : Text.fold key = "item") (given : value ≠ "") :
      Spelled key value (.grantItem value)
  | changeTitle (named : Text.fold key = "title") (given : value ≠ "") :
      Spelled key value (.changeTitle value)
  | statChange {stat : Stat} {amount : Int32} (named : Text.fold key = stat.key)
      (counted : Numeral.WritesSigned value.toList amount.toInt) :
      Spelled key value (.statChange stat amount)

/-- An entry denotes what its key and its value spell. -/
def Denotes {A : Type} (Spelled : String → String → A → Prop) (entry : String) (denoted : A) : Prop :=
  ∃ key value, Pairs entry key value ∧ Spelled key value denoted

/-- A fault quotes the key or the value in which it is found. -/
def EntryFault.QuotesPair (key value : String) : EntryFault → Prop
  | .missingColon _ => False
  | .missingValue quoted => quoted = key
  | .unknownKey _ quoted => quoted = key
  | .badCost stat quoted => Text.fold key = stat.key ∧ quoted = value
  | .badChange stat quoted => Text.fold key = stat.key ∧ quoted = value
  | .badThreshold quoted => quoted = value
  | .negativeThreshold quoted => quoted = value
  | .signedThreshold stat count => Text.fold key = stat.key ∧ value.toList = '+' :: count.toList

/-- A fault quotes the entry in which it is found. -/
def EntryFault.Quotes (entry : String) (fault : EntryFault) : Prop :=
  (':' ∉ entry.toList ∧ fault = .missingColon (Text.trim entry)) ∨
    ∃ key value, Pairs entry key value ∧ fault.QuotesPair key value

theorem splitAtColon?_eq_none_iff {characters : List Char} :
    splitAtColon? characters = none ↔ ':' ∉ characters := by
  induction characters with
  | nil => simp [splitAtColon?]
  | cons character rest inductionHypothesis =>
      rw [splitAtColon?]
      split
      next colon => simp [colon]
      next other => simp [inductionHypothesis, Ne.symm other]

/-- The first colon is where a text is cut. -/
theorem splitAtColon?_append {before : List Char} (first : ':' ∉ before) (after : List Char) :
    splitAtColon? (before ++ ':' :: after) = some (before, after) := by
  induction before with
  | nil => simp [splitAtColon?]
  | cons character rest inductionHypothesis =>
      obtain ⟨other, later⟩ := not_or.mp (mt List.mem_cons.mpr first)
      rw [List.cons_append, splitAtColon?, if_neg (Ne.symm other), inductionHypothesis later]
      rfl

section

variable {entry key value : String}

theorem Pairs.trim_key (pairs : Pairs entry key value) : Text.trim key = key := by
  obtain ⟨before, after, -, -, rfl, -⟩ := pairs
  exact Text.trim_trim _

theorem Pairs.not_blank (pairs : Pairs entry key value) : Text.isBlankText entry = false := by
  obtain ⟨before, after, parts, -⟩ := pairs
  have solid : Text.isBlank ':' = false := by decide
  refine Text.isBlankText_of_mem solid ?_
  rw [parts]
  exact List.mem_append_right _ List.mem_cons_self

theorem exists_pairs (cut : ':' ∈ entry.toList) : ∃ key value, Pairs entry key value := by
  obtain ⟨before, after, parts, first⟩ := List.eq_append_cons_of_mem cut
  exact ⟨_, _, before, after, parts, first, rfl, rfl⟩

/-- The key and the value are read as they stand in the entry. It makes no difference that the entry
is trimmed before it is cut. -/
theorem Pairs.readEntry_eq (pairs : Pairs entry key value) {A : Type}
    (ofPair : String → String → Except EntryFault A) (field : String) :
    readEntry ofPair field entry = (ofPair key value).mapError (EntryError.mk field) := by
  obtain ⟨before, after, parts, first, rfl, rfl⟩ := pairs
  have start : ':' ∉ before.dropWhile Text.isBlank := fun listed =>
    first ((List.dropWhile_suffix _).mem listed)
  rw [readEntry, parts, Text.trimChars_append_cons (by decide), splitAtColon?_append start]
  dsimp only
  rw [Text.trim_ofList_dropWhile, Text.trim_ofList_rdropWhile]
  cases ofPair (Text.trim (String.ofList before)) (Text.trim (String.ofList after)) <;> rfl

theorem readEntry_of_uncut (uncut : ':' ∉ entry.toList) {A : Type}
    (ofPair : String → String → Except EntryFault A) (field : String) :
    readEntry ofPair field entry = .error ⟨field, .missingColon (Text.trim entry)⟩ := by
  have trimmed : ':' ∉ Text.trimChars entry.toList := fun listed =>
    uncut (Text.mem_of_mem_trimChars listed)
  rw [readEntry, splitAtColon?_eq_none_iff.mpr trimmed]

end

theorem Stat.fold_key (stat : Stat) : Text.fold stat.key = stat.key := by
  cases stat <;> decide

theorem Stat.key_injective {left right : Stat} (same : left.key = right.key) : left = right := by
  cases left <;> cases right <;> first | rfl | (revert same; decide)

/-- A trimmed key stands for the stat that it names up to the case of its letters. -/
theorem Stat.ofKey?_eq_some_iff {key : String} (trimmed : Text.trim key = key) {stat : Stat} :
    ofKey? key = some stat ↔ Text.fold key = stat.key := by
  rw [ofKey?, trimmed]
  constructor
  · intro found
    have same := List.find?_some found
    rw [Text.sameFolded, beq_iff_eq, Stat.fold_key] at same
    exact same.symm
  · intro named
    cases found : Stat.all.find? fun stat => Text.sameFolded stat.key key with
    | none =>
        have different := List.find?_eq_none.mp found stat stat.mem_all
        rw [Text.sameFolded, Stat.fold_key, named, beq_self_eq_true] at different
        exact absurd rfl different
    | some other =>
        have same := List.find?_some found
        rw [Text.sameFolded, Stat.fold_key, named, beq_iff_eq] at same
        rw [Stat.key_injective same]

/-- No stat is named by a word that announces a name. -/
theorem Stat.key_ne (stat : Stat) :
    stat.key ≠ "item" ∧ stat.key ≠ "title" ∧ stat.key ≠ "node_kind" ∧ stat.key ≠ "event" := by
  cases stat <;> decide

/-- What is read is spelled, or else the pair is quoted. -/
inductive ReadOrQuoted {A : Type} (Spelled : String → String → A → Prop) (key value : String) :
    Except EntryFault A → Prop
  | read {denoted : A} (spelled : Spelled key value denoted) :
      ReadOrQuoted Spelled key value (.ok denoted)
  | quoted {fault : EntryFault} (quotes : fault.QuotesPair key value) :
      ReadOrQuoted Spelled key value (.error fault)

/-- A reader of pairs follows a grammar when it reads nothing but what the grammar spells, and all of
it. -/
structure FollowsGrammar {A : Type} (ofPair : String → String → Except EntryFault A)
    (Spelled : String → String → A → Prop) : Prop where
  sound : ∀ key value, Text.trim key = key → ReadOrQuoted Spelled key value (ofPair key value)
  complete : ∀ key value denoted, Text.trim key = key → Spelled key value denoted →
    ofPair key value = .ok denoted

/-- A name is read when the value is not empty. -/
theorem readOrQuoted_requireValue {A : Type} {Spelled : String → String → A → Prop}
    {key value : String} {build : String → A}
    (spelled : value ≠ "" → Spelled key value (build value)) :
    ReadOrQuoted Spelled key value (requireValue key value build) := by
  rw [requireValue]
  split
  next => exact .quoted rfl
  next given => exact .read (spelled fun nothing => given (String.isEmpty_iff.mpr nothing))

theorem requireValue_of_given {A : Type} {key value : String} (given : value ≠ "")
    (build : String → A) : requireValue key value build = .ok (build value) := by
  rw [requireValue, if_neg (mt String.isEmpty_iff.mp given)]

section

variable {key value : String}

theorem Condition.readOrQuoted_ofThreshold {stat : Stat} (named : Text.fold key = stat.key) :
    ReadOrQuoted Spelled key value (ofThreshold stat value) := by
  rw [ofThreshold]
  split
  next minimum counted => exact .read (.threshold named (Numeral.unsigned?_eq_some_iff.mp counted))
  next =>
    split
    next count signed =>
      split
      next => exact .quoted ⟨named, by rw [signed, String.toList_ofList]⟩
      next => exact .quoted rfl
    next => exact .quoted rfl
    next => exact .quoted rfl

variable (trimmed : Text.trim key = key)

include trimmed

theorem Condition.readOrQuoted_ofPair : ReadOrQuoted Spelled key value (ofPair key value) := by
  rw [ofPair]
  split
  next named => exact readOrQuoted_requireValue (.hasItem named)
  next =>
    split
    next named => exact readOrQuoted_requireValue (.hasTitle named)
    next =>
      split
      next named => exact readOrQuoted_requireValue (.atNode named)
      next =>
        split
        next => exact .quoted rfl
        next stat found =>
          exact readOrQuoted_ofThreshold ((Stat.ofKey?_eq_some_iff trimmed).mp found)

theorem StatAmount.readOrQuoted_ofPair : ReadOrQuoted Spelled key value (ofPair key value) := by
  rw [ofPair]
  split
  next => exact .quoted rfl
  next stat found =>
    have named := (Stat.ofKey?_eq_some_iff trimmed).mp found
    split
    next => exact .quoted ⟨named, rfl⟩
    next amount counted => exact .read (.due named (Numeral.unsigned?_eq_some_iff.mp counted))

theorem Effect.readOrQuoted_ofPair : ReadOrQuoted Spelled key value (ofPair key value) := by
  rw [ofPair]
  split
  next named => exact readOrQuoted_requireValue (.triggerEvent named)
  next =>
    split
    next named => exact readOrQuoted_requireValue (.grantItem named)
    next =>
      split
      next named => exact readOrQuoted_requireValue (.changeTitle named)
      next =>
        split
        next => exact .quoted rfl
        next stat found =>
          have named := (Stat.ofKey?_eq_some_iff trimmed).mp found
          split
          next => exact .quoted ⟨named, rfl⟩
          next amount counted => exact .read (.statChange named (Numeral.signed?_eq_some_iff.mp counted))

/-- The kinds of names are no keys of stats, so that what follows the key of a stat is a threshold. -/
theorem Condition.ofPair_of_stat {stat : Stat} (named : Text.fold key = stat.key) :
    ofPair key value = ofThreshold stat value := by
  obtain ⟨notItem, notTitle, notNode, -⟩ := stat.key_ne
  rw [ofPair, named, if_neg notItem, if_neg notTitle, if_neg notNode,
    (Stat.ofKey?_eq_some_iff trimmed).mpr named]

/-- Each spelling is read in one way only. -/
theorem Condition.ofPair_of_spelled {condition : Condition} (spelled : Spelled key value condition) :
    ofPair key value = .ok condition := by
  cases spelled with
  | hasItem named given => simp [ofPair, named, requireValue_of_given given]
  | hasTitle named given => simp [ofPair, named, requireValue_of_given given]
  | atNode named given => simp [ofPair, named, requireValue_of_given given]
  | threshold named counted =>
      rw [ofPair_of_stat trimmed named, ofThreshold, Numeral.unsigned?_eq_some_iff.mpr counted]

theorem StatAmount.ofPair_of_spelled {cost : StatAmount} (spelled : Spelled key value cost) :
    ofPair key value = .ok cost := by
  obtain ⟨named, counted⟩ := spelled
  rw [ofPair, (Stat.ofKey?_eq_some_iff trimmed).mpr named,
    Numeral.unsigned?_eq_some_iff.mpr counted]

theorem Effect.ofPair_of_spelled {effect : Effect} (spelled : Spelled key value effect) :
    ofPair key value = .ok effect := by
  rw [ofPair]
  cases spelled with
  | triggerEvent named given => simp [named, requireValue_of_given given]
  | grantItem named given => simp [named, requireValue_of_given given]
  | changeTitle named given => simp [named, requireValue_of_given given]
  | @statChange stat amount named counted =>
      obtain ⟨notItem, notTitle, -, notEvent⟩ := stat.key_ne
      rw [named, if_neg notEvent, if_neg notItem, if_neg notTitle,
        (Stat.ofKey?_eq_some_iff trimmed).mpr named]
      dsimp only
      rw [Numeral.signed?_eq_some_iff.mpr counted]

end

theorem Condition.followsGrammar : FollowsGrammar ofPair Spelled where
  sound _ _ trimmed := readOrQuoted_ofPair trimmed
  complete _ _ _ trimmed spelled := ofPair_of_spelled trimmed spelled

theorem StatAmount.followsGrammar : FollowsGrammar ofPair Spelled where
  sound _ _ trimmed := readOrQuoted_ofPair trimmed
  complete _ _ _ trimmed spelled := ofPair_of_spelled trimmed spelled

theorem Effect.followsGrammar : FollowsGrammar ofPair Spelled where
  sound _ _ trimmed := readOrQuoted_ofPair trimmed
  complete _ _ _ trimmed spelled := ofPair_of_spelled trimmed spelled

namespace FollowsGrammar

variable {A : Type} {ofPair : String → String → Except EntryFault A}
  {Spelled : String → String → A → Prop} (follows : FollowsGrammar ofPair Spelled)

include follows

/-- An entry is read as what it denotes, or else it denotes nothing and is quoted. -/
theorem readEntry_cases (field entry : String) :
    (∃ denoted, readEntry ofPair field entry = .ok denoted ∧ Denotes Spelled entry denoted) ∨
      ∃ fault, readEntry ofPair field entry = .error ⟨field, fault⟩ ∧ fault.Quotes entry := by
  by_cases cut : ':' ∈ entry.toList
  · obtain ⟨key, value, pairs⟩ := exists_pairs cut
    have outcome := follows.sound key value pairs.trim_key
    rw [pairs.readEntry_eq]
    generalize ofPair key value = result at outcome
    cases outcome with
    | read spelled => exact .inl ⟨_, rfl, key, value, pairs, spelled⟩
    | quoted quotes => exact .inr ⟨_, rfl, .inr ⟨key, value, pairs, quotes⟩⟩
  · exact .inr ⟨_, readEntry_of_uncut cut ofPair field, .inl ⟨cut, rfl⟩⟩

/-- An entry is read exactly when it denotes something. -/
theorem readEntry_eq_ok_iff {field entry : String} {denoted : A} :
    readEntry ofPair field entry = .ok denoted ↔ Denotes Spelled entry denoted := by
  constructor
  · intro read
    rcases follows.readEntry_cases field entry with ⟨other, same, denotes⟩ | ⟨fault, refused, -⟩
    · cases read.symm.trans same
      exact denotes
    · cases read.symm.trans refused
  · rintro ⟨key, value, pairs, spelled⟩
    rw [pairs.readEntry_eq, follows.complete key value denoted pairs.trim_key spelled]
    rfl

end FollowsGrammar

end Gamebook
