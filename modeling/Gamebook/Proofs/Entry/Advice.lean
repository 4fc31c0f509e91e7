/-
This file shows that authors are well advised when an entry is refused. A key is called unknown exactly
when its field does not know it, what is suggested in its place is known, and what is hinted at is
accepted.
-/

import Gamebook.Proofs.Entry.Messages
import Gamebook.Proofs.Entry.Reading

namespace Gamebook

/-- These are the messages about the entries of a field that are refused. -/
def FieldKind.messages (kind : FieldKind) (field : String) (entries : List String) : List String :=
  let errors := match kind with
    | .condition => failures (readConditions field entries)
    | .cost => failures (readCosts field entries)
    | .effect => failures (readEffects field entries)
  errors.map EntryError.message

/-- This is the fault that the reader of a field finds in a pair. -/
def FieldKind.fault? (kind : FieldKind) (key value : String) : Option EntryFault :=
  match kind with
  | .condition => failure? (Condition.ofPair key value)
  | .cost => failure? (StatAmount.ofPair key value)
  | .effect => failure? (Effect.ofPair key value)

/-- An author is well advised on an unknown key when the message asks about a key that begins with what
was written, if there is one. The first of them is suggested, and it is known itself. What an author
wrote may hold quotation marks, so that the end of a message only tells words without them apart. -/
structure FieldKind.AdvisesOn (kind : FieldKind) (key message : String) : Prop where
  suggests_iff : (∃ known, SuggestsKey message known) ↔
    Text.fold key ≠ "" ∧ ∃ known ∈ kind.keys, (Text.fold key).toList <+: known.toList
  first_iff : ∀ known, '\'' ∉ known.toList → (SuggestsKey message known ↔
    Text.fold key ≠ "" ∧ ∃ earlier later, kind.keys = earlier ++ known :: later ∧
      (Text.fold key).toList <+: known.toList ∧
      ∀ other ∈ earlier, ¬(Text.fold key).toList <+: other.toList)
  known : ∀ known, '\'' ∉ known.toList → SuggestsKey message known → known ∈ kind.keys ∧
    ∀ field value, ∀ other ∈ kind.messages field [known ++ ":" ++ value], ¬kind.TellsUnknown other

/-- A field that knows a key finds fault with nothing but its value. -/
inductive Keyed {A : Type} (kind : FieldKind) (key : String) : Except EntryFault A → Prop
  | unknown (other : Text.fold key ∉ kind.keys) : Keyed kind key (.error (.unknownKey kind key))
  | accepted (known : Text.fold key ∈ kind.keys) (read : A) : Keyed kind key (.ok read)
  | blamed (known : Text.fold key ∈ kind.keys) {fault : EntryFault}
      (blames : fault.blamesValue = true) : Keyed kind key (.error fault)

section

variable {kind : FieldKind} {key : String} (value : String)

/-- The key of a stat is known in every field. -/
theorem FieldKind.key_mem_keys (kind : FieldKind) (stat : Stat) : stat.key ∈ kind.keys :=
  List.mem_append_left _ (List.mem_map_of_mem stat.mem_all)

theorem keyed_requireValue {A : Type} (known : Text.fold key ∈ kind.keys) (build : String → A) :
    Keyed kind key (requireValue key value build) := by
  rw [requireValue]
  split
  next => exact .blamed known rfl
  next => exact .accepted known _

theorem Condition.keyed_ofThreshold (known : Text.fold key ∈ kind.keys) (stat : Stat) :
    Keyed kind key (ofThreshold stat value) := by
  rw [ofThreshold]
  split
  next => exact .accepted known _
  next =>
    split
    next => split <;> exact .blamed known rfl
    next => exact .blamed known rfl
    next => exact .blamed known rfl

variable (trimmed : Text.trim key = key)

include trimmed

theorem FieldKind.mem_keys_of_stat (kind : FieldKind) {stat : Stat}
    (found : Stat.ofKey? key = some stat) : Text.fold key ∈ kind.keys := by
  rw [(Stat.ofKey?_eq_some_iff trimmed).mp found]
  exact kind.key_mem_keys stat

/-- A key that stands for no stat is known only if it is one of the others. -/
theorem FieldKind.not_mem_keys {others : List String}
    (listed : kind.keys = Stat.all.map Stat.key ++ others) (noStat : Stat.ofKey? key = none)
    (noOther : Text.fold key ∉ others) : Text.fold key ∉ kind.keys := by
  rw [listed, List.mem_append, List.mem_map]
  rintro (⟨stat, -, named⟩ | other)
  · cases noStat.symm.trans ((Stat.ofKey?_eq_some_iff trimmed).mpr named.symm)
  · exact noOther other

theorem Condition.keyed_ofPair : Keyed .condition key (ofPair key value) := by
  rw [ofPair]
  split
  next named => exact keyed_requireValue value (named ▸ by decide) _
  next notItem =>
    split
    next named => exact keyed_requireValue value (named ▸ by decide) _
    next notTitle =>
      split
      next named => exact keyed_requireValue value (named ▸ by decide) _
      next notNode =>
        split
        next noStat =>
          exact .unknown (FieldKind.not_mem_keys trimmed rfl noStat
            (by simp [notItem, notTitle, notNode]))
        next stat found =>
          exact keyed_ofThreshold value (FieldKind.mem_keys_of_stat trimmed _ found) stat

theorem StatAmount.keyed_ofPair : Keyed .cost key (ofPair key value) := by
  rw [ofPair]
  split
  next noStat =>
    exact .unknown (FieldKind.not_mem_keys trimmed rfl noStat List.not_mem_nil)
  next stat found =>
    have known := FieldKind.mem_keys_of_stat trimmed .cost found
    split
    next => exact .blamed known rfl
    next => exact .accepted known _

theorem Effect.keyed_ofPair : Keyed .effect key (ofPair key value) := by
  rw [ofPair]
  split
  next named => exact keyed_requireValue value (named ▸ by decide) _
  next notEvent =>
    split
    next named => exact keyed_requireValue value (named ▸ by decide) _
    next notItem =>
      split
      next named => exact keyed_requireValue value (named ▸ by decide) _
      next notTitle =>
        split
        next noStat =>
          exact .unknown (FieldKind.not_mem_keys trimmed rfl noStat
            (by simp [notEvent, notItem, notTitle]))
        next stat found =>
          have known := FieldKind.mem_keys_of_stat trimmed .effect found
          split
          next => exact .blamed known rfl
          next => exact .accepted known _

end

/-- A fault lies in the key exactly when the field does not know it. -/
theorem Keyed.fault_cases {A : Type} {kind : FieldKind} {key : String} {result : Except EntryFault A}
    (keyed : Keyed kind key result) :
    (Text.fold key ∉ kind.keys ∧ failure? result = some (.unknownKey kind key)) ∨
      (Text.fold key ∈ kind.keys ∧
        ∀ fault, failure? result = some fault → fault.blamesValue = true) := by
  cases keyed with
  | unknown other => exact .inl ⟨other, rfl⟩
  | accepted known read => exact .inr ⟨known, fun fault failed => by cases failed⟩
  | blamed known blames => exact .inr ⟨known, fun fault failed => Option.some.inj failed ▸ blames⟩

theorem FieldKind.fault?_cases (kind : FieldKind) {key : String} (trimmed : Text.trim key = key)
    (value : String) :
    (Text.fold key ∉ kind.keys ∧ kind.fault? key value = some (.unknownKey kind key)) ∨
      (Text.fold key ∈ kind.keys ∧
        ∀ fault, kind.fault? key value = some fault → fault.blamesValue = true) := by
  cases kind with
  | condition => exact (Condition.keyed_ofPair value trimmed).fault_cases
  | cost => exact (StatAmount.keyed_ofPair value trimmed).fault_cases
  | effect => exact (Effect.keyed_ofPair value trimmed).fault_cases

/-- A pair that is refused is answered by one message. -/
theorem map_message_failures {A : Type} {entry key value : String} (pairs : Pairs entry key value)
    (ofPair : String → String → Except EntryFault A) (field : String) :
    (failures (readEntries ofPair field [entry])).map EntryError.message =
      ((failure? (ofPair key value)).map fun fault => fault.message field).toList := by
  rw [failures_readEntries, rejections, ← written, written_singleton pairs.not_blank,
    List.filterMap_cons, List.filterMap_nil, pairs.readEntry_eq]
  cases ofPair key value <;> rfl

theorem FieldKind.messages_of_pairs {entry key value : String} (kind : FieldKind)
    (pairs : Pairs entry key value) (field : String) :
    kind.messages field [entry] =
      ((kind.fault? key value).map fun fault => fault.message field).toList := by
  cases kind with
  | condition => exact map_message_failures pairs Condition.ofPair field
  | cost => exact map_message_failures pairs StatAmount.ofPair field
  | effect => exact map_message_failures pairs Effect.ofPair field

theorem pairs_of_trimmed {key : String} (trimmed : Text.trim key = key) (uncut : ':' ∉ key.toList)
    (value : String) : Pairs (key ++ ":" ++ value) key (Text.trim value) := by
  refine ⟨key.toList, value.toList, ?_, uncut, ?_, ?_⟩
  · simp
  · rw [String.ofList_toList, trimmed]
  · rw [String.ofList_toList]

/-- The keys that are listed can be written as they are. -/
theorem FieldKind.plain_of_mem_keys {kind : FieldKind} {known : String} (listed : known ∈ kind.keys) :
    Text.trim known = known ∧ Text.fold known = known ∧ ':' ∉ known.toList ∧ '\'' ∉ known.toList := by
  revert known
  cases kind <;> decide +kernel

theorem Text.fold_eq_empty_iff {text : String} : fold text = "" ↔ text = "" := by
  rw [fold, ← String.toList_inj, ← String.toList_inj]
  simp

namespace FieldKind

variable {kind : FieldKind} {key known : String}

theorem suggestion?_eq_some_iff : kind.suggestion? key = some known ↔
    Text.fold key ≠ "" ∧ ∃ earlier later, kind.keys = earlier ++ known :: later ∧
      (Text.fold key).toList <+: known.toList ∧
      ∀ other ∈ earlier, ¬(Text.fold key).toList <+: other.toList := by
  rw [suggestion?, ne_eq, Text.fold_eq_empty_iff, ← String.isEmpty_iff]
  split
  next empty => simp [empty]
  next given =>
    simp only [and_iff_right given, List.find?_eq_some_iff_append, Text.startsWith,
      List.isPrefixOf_iff_prefix, Bool.not_eq_true', ← Bool.not_eq_true]
    constructor
    · rintro ⟨begins, earlier, later, listed, first⟩
      exact ⟨earlier, later, listed, begins, first⟩
    · rintro ⟨earlier, later, listed, begins, first⟩
      exact ⟨begins, earlier, later, listed, first⟩

theorem exists_suggestion_iff : (∃ known, kind.suggestion? key = some known) ↔
    Text.fold key ≠ "" ∧ ∃ known ∈ kind.keys, (Text.fold key).toList <+: known.toList := by
  rw [suggestion?, ne_eq, Text.fold_eq_empty_iff, ← String.isEmpty_iff]
  split
  next empty => simp [empty]
  next given =>
    rw [← Option.isSome_iff_exists, List.find?_isSome]
    simp [given, Text.startsWith]

theorem mem_keys_of_suggestion (suggested : kind.suggestion? key = some known) :
    known ∈ kind.keys := by
  obtain ⟨-, earlier, later, listed, -⟩ := suggestion?_eq_some_iff.mp suggested
  exact listed ▸ List.mem_append_right _ List.mem_cons_self

/-- A known key is never called unknown. -/
theorem messages_cases (kind : FieldKind) (trimmed : Text.trim key = key) (uncut : ':' ∉ key.toList)
    (field value : String) :
    (Text.fold key ∉ kind.keys ∧ kind.messages field [key ++ ":" ++ value] =
      [(EntryFault.unknownKey kind key).message field]) ∨
    (Text.fold key ∈ kind.keys ∧
      ∀ message ∈ kind.messages field [key ++ ":" ++ value], ¬kind.TellsUnknown message) := by
  rw [kind.messages_of_pairs (pairs_of_trimmed trimmed uncut value)]
  rcases kind.fault?_cases trimmed (Text.trim value) with ⟨other, found⟩ | ⟨known, blames⟩
  · rw [found]
    exact .inl ⟨other, rfl⟩
  · refine .inr ⟨known, fun message told => ?_⟩
    obtain ⟨fault, found, rfl⟩ := Option.map_eq_some_iff.mp (Option.mem_toList.mp told)
    exact EntryFault.not_tellsUnknown_of_blamesValue (blames fault found) kind field

theorem exists_suggestsKey_iff (kind : FieldKind) (field key : String) :
    (∃ known, SuggestsKey ((EntryFault.unknownKey kind key).message field) known) ↔
      ∃ known, kind.suggestion? key = some known := by
  constructor
  · rintro ⟨known, suggests⟩
    cases suggested : kind.suggestion? key with
    | none => exact absurd suggests (EntryFault.not_suggestsKey_of_none suggested field known)
    | some other => exact ⟨other, rfl⟩
  · rintro ⟨known, suggested⟩
    exact ⟨known, EntryFault.suggestsKey_of_suggestion suggested field⟩

theorem suggestsKey_iff (kind : FieldKind) (field key : String) (clear : '\'' ∉ known.toList) :
    SuggestsKey ((EntryFault.unknownKey kind key).message field) known ↔
      kind.suggestion? key = some known := by
  constructor
  · intro suggests
    obtain ⟨other, suggested⟩ := (kind.exists_suggestsKey_iff field key).mp ⟨known, suggests⟩
    have suggestsOther := EntryFault.suggestsKey_of_suggestion suggested field
    have alsoClear := (plain_of_mem_keys (mem_keys_of_suggestion suggested)).2.2.2
    have same : known = other :=
      quoted_unique ⟨" Did you mean ", by decide⟩ suggests suggestsOther clear alsoClear
    rw [same, suggested]
  · intro suggested
    exact EntryFault.suggestsKey_of_suggestion suggested field

theorem advisesOn_unknownKey (kind : FieldKind) (field key : String) :
    kind.AdvisesOn key ((EntryFault.unknownKey kind key).message field) where
  suggests_iff := (kind.exists_suggestsKey_iff field key).trans exists_suggestion_iff
  first_iff known clear := (kind.suggestsKey_iff field key clear).trans suggestion?_eq_some_iff
  known known clear suggests := by
    have listed := mem_keys_of_suggestion ((kind.suggestsKey_iff field key clear).mp suggests)
    obtain ⟨trimmed, folded, uncut, -⟩ := plain_of_mem_keys listed
    refine ⟨listed, fun later value => ?_⟩
    rcases kind.messages_cases trimmed uncut later value with ⟨unknown, -⟩ | ⟨-, silent⟩
    · exact absurd (folded.symm ▸ listed) unknown
    · exact silent

end FieldKind

/-- An entry signs a count when it demands of a stat a count with a plus sign in front. -/
def SignsCount (entry : String) (stat : Stat) (count : String) (minimum : UInt32) : Prop :=
  ∃ key, Pairs entry key ("+" ++ count) ∧ Text.fold key = stat.key ∧
    Numeral.Writes count.toList minimum.toNat

section

variable {stat : Stat} {count : String} {minimum : UInt32}

theorem Text.isBlank_of_isDigit {character : Char} (digit : character.isDigit = true) :
    isBlank character = false := by
  have range := Char.isDigit_iff_toNat.mp digit
  have first : '0'.toNat = 48 := rfl
  have last : '9'.toNat = 57 := rfl
  simp only [isBlank, blankRanges, List.any_cons, List.any_nil, Bool.or_eq_false_iff,
    Bool.and_eq_false_iff, decide_eq_false_iff_not, and_true]
  omega

theorem Numeral.Writes.trim_eq (counted : Writes count.toList minimum.toNat) :
    Text.trim count = count := by
  have solid : ∀ digit ∈ count.toList, ¬Text.isBlank digit = true := fun digit listed =>
    Bool.eq_false_iff.mp (Text.isBlank_of_isDigit (counted.areDigits digit listed))
  have front : count.toList.dropWhile Text.isBlank = count.toList :=
    List.dropWhile_eq_self_iff.mpr fun _ => solid _ (List.get_mem _ _)
  have back : count.toList.rdropWhile Text.isBlank = count.toList :=
    List.rdropWhile_eq_self_iff.mpr fun _ => solid _ (List.getLast_mem _)
  rw [Text.trim, Text.trimChars_eq, front, back, String.ofList_toList]

/-- A threshold is accepted as it is hinted at. -/
theorem Numeral.Writes.readConditions_eq (counted : Writes count.toList minimum.toNat)
    (field : String) :
    readConditions field [stat.key ++ ":" ++ count] = .ok [.threshold stat minimum] := by
  obtain ⟨trimmed, folded, uncut, -⟩ :=
    FieldKind.plain_of_mem_keys (FieldKind.condition.key_mem_keys stat)
  have pairs := pairs_of_trimmed trimmed uncut count
  rw [counted.trim_eq] at pairs
  rw [readConditions, Condition.followsGrammar.readEntries_eq_ok_iff,
    written_singleton pairs.not_blank]
  exact .cons ⟨_, _, pairs, .threshold folded counted⟩ .nil

/-- A plus sign in front of a count is refused with a hint, and in front of anything else without. -/
theorem Condition.ofThreshold_signed (stat : Stat) (count : String) :
    ofThreshold stat ("+" ++ count) =
      if (Numeral.unsigned? count).isSome then .error (.signedThreshold stat count)
      else .error (.badThreshold ("+" ++ count)) := by
  have signed : ("+" ++ count).toList = '+' :: count.toList := by simp
  have noCount : Numeral.unsigned? ("+" ++ count) = none := by
    refine Option.eq_none_iff_forall_ne_some.mpr fun read counts => ?_
    have digits := (Numeral.unsigned?_eq_some_iff.mp counts).areDigits
    rw [signed] at digits
    cases digits _ List.mem_cons_self
  have opened : ofThreshold stat ("+" ++ count) =
      if (Numeral.unsigned? (String.ofList count.toList)).isSome then
        .error (.signedThreshold stat (String.ofList count.toList))
      else .error (.badThreshold ("+" ++ count)) := by
    rw [ofThreshold, noCount, signed]
    rfl
  rw [opened, String.ofList_toList]

variable {key value : String} (trimmed : Text.trim key = key)

include trimmed

/-- Exactly a count with a plus sign in front is refused with a hint. -/
theorem Condition.ofPair_eq_signed_iff :
    ofPair key value = .error (.signedThreshold stat count) ↔
      value = "+" ++ count ∧ Text.fold key = stat.key ∧
        ∃ minimum : UInt32, Numeral.Writes count.toList minimum.toNat := by
  have counts_iff : (∃ minimum : UInt32, Numeral.Writes count.toList minimum.toNat) ↔
      (Numeral.unsigned? count).isSome = true := by
    simp only [← Numeral.unsigned?_eq_some_iff, Option.isSome_iff_exists]
  rw [counts_iff]
  constructor
  · intro refused
    have quoted : ReadOrQuoted Spelled key value (ofPair key value) := readOrQuoted_ofPair trimmed
    rw [refused] at quoted
    cases quoted with
    | quoted quotes =>
        obtain ⟨named, signed⟩ := quotes
        obtain rfl : value = "+" ++ count := by
          rw [← String.toList_inj, signed]
          simp
        rw [ofPair_of_stat trimmed named, ofThreshold_signed] at refused
        refine ⟨rfl, named, ?_⟩
        by_contra uncounted
        rw [if_neg uncounted] at refused
        cases refused
  · rintro ⟨rfl, named, counted⟩
    rw [ofPair_of_stat trimmed named, ofThreshold_signed, if_pos counted]

end

/-- Every message is about one of the entries. -/
theorem FieldKind.mem_messages_condition_iff {field message : String} {entries : List String} :
    message ∈ FieldKind.condition.messages field entries ↔
      ∃ entry ∈ written entries, ∃ error,
        readEntry Condition.ofPair field entry = .error error ∧ error.message = message := by
  have refused : ∀ entry error, failure? (readEntry Condition.ofPair field entry) = some error ↔
      readEntry Condition.ofPair field entry = .error error := fun entry error => by
    cases readEntry Condition.ofPair field entry <;> simp [failure?]
  have told : FieldKind.condition.messages field entries =
      ((written entries).filterMap fun entry =>
        failure? (readEntry Condition.ofPair field entry)).map EntryError.message :=
    congrArg (List.map EntryError.message) (failures_readEntries Condition.ofPair field entries)
  simp only [told, List.mem_map, List.mem_filterMap, refused]
  constructor
  · rintro ⟨error, ⟨entry, counts, failed⟩, same⟩
    exact ⟨entry, counts, error, failed, same⟩
  · rintro ⟨entry, counts, error, failed, same⟩
    exact ⟨error, ⟨entry, counts, failed⟩, same⟩

theorem SignsCount.clear {entry : String} {stat : Stat} {count : String} {minimum : UInt32}
    (signs : SignsCount entry stat count minimum) : '\'' ∉ (stat.key ++ ":" ++ count).toList := by
  obtain ⟨key, -, -, counted⟩ := signs
  have noMark := (FieldKind.plain_of_mem_keys (FieldKind.condition.key_mem_keys stat)).2.2.2
  have noDigit : '\'' ∉ count.toList := fun listed => by cases counted.areDigits _ listed
  simp [noMark, noDigit]

/-- A condition is refused with a hint exactly when it signs a count. -/
theorem FieldKind.exists_hintsAt_iff (field : String) (entries : List String) {hint : String}
    (clear : '\'' ∉ hint.toList) :
    (∃ message ∈ FieldKind.condition.messages field entries, HintsAt message hint) ↔
      ∃ entry ∈ entries, ∃ stat count minimum, SignsCount entry stat count minimum ∧
        hint = stat.key ++ ":" ++ count := by
  simp only [mem_messages_condition_iff]
  constructor
  · rintro ⟨message, ⟨entry, counts, error, refused, rfl⟩, hints⟩
    refine ⟨entry, (mem_written.mp counts).1, ?_⟩
    obtain ⟨stat, count, signed⟩ := EntryFault.signed_of_hintsAt hints
    by_cases cut : ':' ∈ entry.toList
    · obtain ⟨key, value, pairs⟩ := exists_pairs cut
      rw [pairs.readEntry_eq] at refused
      cases read : Condition.ofPair key value with
      | ok condition =>
          rw [read] at refused
          cases refused
      | error fault =>
          rw [read] at refused
          obtain rfl : EntryError.mk field fault = error := Except.error.inj refused
          obtain rfl : fault = .signedThreshold stat count := signed
          obtain ⟨rfl, named, minimum, counted⟩ :=
            (Condition.ofPair_eq_signed_iff pairs.trim_key).mp read
          have signs : SignsCount entry stat count minimum := ⟨key, pairs, named, counted⟩
          exact ⟨stat, count, minimum, signs,
            quoted_unique ⟨" Use ", by decide⟩ hints (EntryFault.hintsAt_signed field stat count) clear
              signs.clear⟩
    · obtain rfl : EntryError.mk field (.missingColon (Text.trim entry)) = error :=
        Except.error.inj ((readEntry_of_uncut cut Condition.ofPair field).symm.trans refused)
      cases signed
  · rintro ⟨entry, listed, stat, count, minimum, ⟨key, pairs, named, counted⟩, rfl⟩
    have refused := (Condition.ofPair_eq_signed_iff pairs.trim_key).mpr ⟨rfl, named, minimum, counted⟩
    refine ⟨_, ⟨entry, mem_written.mpr ⟨listed, pairs.not_blank⟩,
      ⟨field, .signedThreshold stat count⟩, ?_, rfl⟩, EntryFault.hintsAt_signed field stat count⟩
    rw [pairs.readEntry_eq, refused]
    rfl

/-- Authors are well advised. A key is called unknown exactly when its field does not know it, and what
is suggested in its place is the first known key that begins like it. A condition is refused with a hint
exactly when it signs a count, and then the hint is accepted as a threshold of the same stat and the
same count. -/
theorem authors_are_well_advised :
    (∀ (kind : FieldKind) (field key value : String), Text.trim key = key → ':' ∉ key.toList →
      ((∃ message ∈ kind.messages field [key ++ ":" ++ value], kind.TellsUnknown message) ↔
        Text.fold key ∉ kind.keys) ∧
      ∀ message ∈ kind.messages field [key ++ ":" ++ value], kind.TellsUnknown message →
        kind.AdvisesOn key message) ∧
    ∀ (field : String) (entries : List String) (hint : String), '\'' ∉ hint.toList →
      ((∃ message ∈ FieldKind.condition.messages field entries, HintsAt message hint) ↔
        ∃ entry ∈ entries, ∃ stat count minimum, SignsCount entry stat count minimum ∧
          hint = stat.key ++ ":" ++ count ∧
          ∀ later, readConditions later [hint] = .ok [.threshold stat minimum]) := by
  refine ⟨fun kind field key value trimmed uncut => ?_, fun field entries hint clear => ?_⟩
  · rcases kind.messages_cases trimmed uncut field value with ⟨unknown, told⟩ | ⟨known, silent⟩
    · have tells := EntryFault.tellsUnknown_unknownKey kind field key
      rw [told]
      refine ⟨iff_of_true ⟨_, List.mem_cons_self, tells⟩ unknown, ?_⟩
      exact List.forall_mem_singleton.mpr fun _ => kind.advisesOn_unknownKey field key
    · refine ⟨iff_of_false ?_ (not_not_intro known), fun message told tells => ?_⟩
      · rintro ⟨message, told, tells⟩
        exact silent message told tells
      · exact absurd tells (silent message told)
  · rw [FieldKind.exists_hintsAt_iff field entries clear]
    constructor
    · rintro ⟨entry, listed, stat, count, minimum, signs, rfl⟩
      obtain ⟨key, -, -, counted⟩ := id signs
      exact ⟨entry, listed, stat, count, minimum, signs, rfl, counted.readConditions_eq⟩
    · rintro ⟨entry, listed, stat, count, minimum, signs, same, -⟩
      exact ⟨entry, listed, stat, count, minimum, signs, same⟩

/-- Whoever writes a part of a key is asked about the key, and whoever signs a count gets it back
without its sign. -/
theorem authors_are_well_advised_feats :
    Text.trim "FEA" = "FEA" ∧ ':' ∉ "FEA".toList ∧
      (∃ message ∈ FieldKind.condition.messages "Conditions" ["FEA" ++ ":" ++ " 2"],
        FieldKind.condition.TellsUnknown message ∧ SuggestsKey message "feats") ∧
      '\'' ∉ "strength:03".toList ∧
      (∃ message ∈ FieldKind.condition.messages "Conditions" [" Strength : +03"],
        HintsAt message "strength:03") ∧
      ∀ later, readConditions later ["strength:03"] = .ok [.threshold .strength 3] := by
  have trimmed : Text.trim "FEA" = "FEA" := by decide
  have uncut : ':' ∉ "FEA".toList := by decide
  have clear : '\'' ∉ "strength:03".toList := by decide
  obtain ⟨keys, hints⟩ := authors_are_well_advised
  obtain ⟨tells, advises⟩ := keys .condition "Conditions" "FEA" " 2" trimmed uncut
  obtain ⟨message, told, unknown⟩ := tells.mpr (by decide +kernel)
  have suggests : SuggestsKey message "feats" :=
    ((advises message told unknown).first_iff "feats" (by decide)).mpr
      ⟨by decide, ["population", "food", "gold", "strength", "honor"],
        ["max_strength", "max_honor", "max_feats", "item", "title", "node_kind"], by decide, by decide,
        by decide⟩
  have signs : SignsCount " Strength : +03" .strength "03" 3 :=
    ⟨"Strength", ⟨" Strength ".toList, " +03".toList, by decide, by decide, by decide, by decide⟩,
      by decide, Numeral.unsigned?_eq_some_iff.mp (by decide +kernel)⟩
  have hinted := (FieldKind.exists_hintsAt_iff "Conditions" [" Strength : +03"] clear).mpr
    ⟨_, List.mem_cons_self, .strength, "03", 3, signs, by decide⟩
  obtain ⟨entry, -, stat, count, minimum, -, -, accepted⟩ := (hints _ _ _ clear).mp hinted
  have read : readConditions "Conditions" ["strength:03"] = .ok [.threshold .strength 3] := by
    decide +kernel
  cases (accepted "Conditions").symm.trans read
  exact ⟨trimmed, uncut, ⟨message, told, unknown, suggests⟩, clear, hinted, accepted⟩

end Gamebook
