/-
This file says what is reported for a single event file. Every blank field is reported. A blank id
hides all rejected entries of the file, and a rejected entry hides an order that two options share.
-/

import Gamebook.Content.Report
import Gamebook.Proofs.Compile.Rejections

namespace Gamebook

/-- These are the diagnostics that a file has by itself. -/
def fileDiagnostics (A : Type) [Authored A] (tree : FileTree) (context : TemplateContext)
    (path : String) : List Diagnostic :=
  (failures (checkFile (A := A) tree context path)).flatMap LoadError.diagnostics

section

variable {A : Type} [Authored A] {tree : FileTree} {context : TemplateContext} {path : String}

/-- A survey reports what each of its files has to report. -/
theorem Survey.fileDiagnostics_sublist {paths : List String} (member : path ∈ paths)
    (seen : List String) :
    (fileDiagnostics A tree context path).Sublist
      (files (A := A) tree context seen paths).diagnostics := by
  induction paths generalizing seen with
  | nil => cases member
  | cons first rest inductionHypothesis =>
      rw [files]
      rcases List.mem_cons.mp member with rfl | later
      · rw [fileDiagnostics]
        cases checkFile (A := A) tree context path with
        | ok entry => exact List.nil_sublist _
        | error errors => exact List.sublist_append_left _ _
      · split
        · exact (inductionHypothesis later seen).trans (List.sublist_append_right _ _)
        · dsimp only
          split
          · exact (inductionHypothesis later seen).cons _
          · exact inductionHypothesis later _

variable {definition : Authored.Definition A}

theorem failures_checkDefinition_of_ok {entry : A}
    (compiled : Authored.compile context definition = .ok entry) :
    failures (checkDefinition context path definition) = blankFields path definition := by
  rw [checkDefinition, compiled]
  dsimp only
  split
  next clean => exact (List.isEmpty_iff.mp clean).symm
  next => rfl

theorem failures_checkDefinition_of_error {error : CompileError}
    (refused : Authored.compile context definition = .error error)
    (named : error.isMissingId = false) :
    failures (checkDefinition context path definition) =
      blankFields path definition ++ [.compile path error] := by
  rw [checkDefinition, refused]
  simp only [named, Bool.false_and]
  rfl

theorem failures_checkDefinition_of_missing {error : CompileError}
    (refused : Authored.compile context definition = .error error)
    (missing : error.isMissingId = true) (blank : blankFields path definition ≠ []) :
    failures (checkDefinition context path definition) = blankFields path definition := by
  have some : (blankFields path definition).isEmpty = false := by
    rw [← Bool.not_eq_true, List.isEmpty_iff]
    exact blank
  rw [checkDefinition, refused]
  simp only [missing, some]
  rfl

end

namespace EventDefinition

variable (definition : EventDefinition) (path : String)

/-- There is one diagnostic for every required field that is blank. -/
def blankDiagnostics : List Diagnostic :=
  (definition.requiredFields.filter fun field => Text.isBlankText field.2).map
    fun field => ⟨some path, .emptyField field.1⟩

/-- There is one diagnostic for every rejected entry. -/
def rejectionDiagnostics : List Diagnostic :=
  (definition.rejections (Text.trim definition.id)).map fun misentry =>
    ⟨some path, .misentry misentry⟩

/-- This diagnostic says that two options share an order. -/
def sharedOrderDiagnostic (order : Int32) : Diagnostic :=
  ⟨some path, .compile (.duplicateOrder (Text.trim definition.id) order)⟩

/-- Everything that is wrong in the file of the definition is told. -/
structure Told (reported : List Diagnostic) : Prop where
  blank : ∀ diagnostic ∈ definition.blankDiagnostics path, diagnostic ∈ reported
  rejected : ∀ diagnostic ∈ definition.rejectionDiagnostics path, diagnostic ∈ reported
  shared : ¬definition.orders.Nodup →
    ∃ order, definition.sharedOrderDiagnostic path order ∈ reported

variable {definition path}

theorem diagnostics_blankFields :
    (blankFields (A := Event) path definition).flatMap LoadError.diagnostics =
      definition.blankDiagnostics path := by
  rw [blankFields, List.flatMap_map]
  exact List.flatMap_pure_eq_map _ _

theorem blankFields_of_blank_id (unnamed : Text.isBlankText definition.id = true) :
    blankFields (A := Event) path definition ≠ [] := by
  have listed : ("Id", definition.id) ∈ definition.requiredFields.filter fun field =>
      Text.isBlankText field.2 := List.mem_filter.mpr ⟨List.mem_cons_self, unnamed⟩
  exact fun none => List.ne_nil_of_mem listed (List.map_eq_nil_iff.mp none)

theorem trimmed?_of_not_blank (named : Text.isBlankText definition.id = false) :
    Text.trimmed? definition.id = some (Text.trim definition.id) := by
  rw [Text.trimmed?, named]
  rfl

section

variable {tree : FileTree} (read : tree.definition Record.event path = .ok definition)
  (context : TemplateContext)

include read

theorem fileDiagnostics_of_read :
    fileDiagnostics Event tree context path =
      (failures (checkDefinition (A := Event) context path definition)).flatMap
        LoadError.diagnostics := by
  have readEvent : tree.definition (Authored.reader (A := Event)) path = .ok definition := read
  rw [fileDiagnostics, checkFile, readEvent]

/-- Without an id only the blank fields are reported. -/
theorem fileDiagnostics_of_blank_id (unnamed : Text.isBlankText definition.id = true) :
    fileDiagnostics Event tree context path = definition.blankDiagnostics path := by
  have refused : definition.compile context = .error .missingEventId := by
    rw [compile, Text.trimmed?, if_pos unnamed]
  rw [fileDiagnostics_of_read read, ← diagnostics_blankFields,
    failures_checkDefinition_of_missing (A := Event) refused rfl (blankFields_of_blank_id unnamed)]

variable (named : Text.isBlankText definition.id = false)

include named

/-- With an id every rejected entry is reported after the blank fields. -/
theorem fileDiagnostics_of_rejections (rejected : definition.rejectionDiagnostics path ≠ []) :
    fileDiagnostics Event tree context path =
      definition.blankDiagnostics path ++ definition.rejectionDiagnostics path := by
  have some : definition.rejections (Text.trim definition.id) ≠ [] :=
    fun none => rejected (List.map_eq_nil_iff.mpr none)
  have refused := compile_of_rejections (trimmed?_of_not_blank named) context some
  rw [fileDiagnostics_of_read read, failures_checkDefinition_of_error (A := Event) refused rfl,
    List.flatMap_append, diagnostics_blankFields, List.flatMap_singleton]
  rfl

/-- A shared order is reported when no entry is rejected. -/
theorem fileDiagnostics_of_no_rejections (accepted : definition.rejectionDiagnostics path = []) :
    (definition.orders.Nodup →
      fileDiagnostics Event tree context path = definition.blankDiagnostics path) ∧
    (¬definition.orders.Nodup → ∃ order, 2 ≤ definition.orders.count order ∧
      fileDiagnostics Event tree context path =
        definition.blankDiagnostics path ++ [definition.sharedOrderDiagnostic path order]) := by
  have none := List.map_eq_nil_iff.mp accepted
  obtain ⟨distinct, shared⟩ := compile_of_no_rejections (trimmed?_of_not_blank named) context none
  rw [fileDiagnostics_of_read read]
  constructor
  · intro nodup
    obtain ⟨event, compiled⟩ := distinct nodup
    rw [failures_checkDefinition_of_ok (A := Event) compiled, diagnostics_blankFields]
  · intro twice
    obtain ⟨order, counted, refused⟩ := shared twice
    refine ⟨order, counted, ?_⟩
    rw [failures_checkDefinition_of_error (A := Event) refused rfl, List.flatMap_append,
      diagnostics_blankFields, List.flatMap_singleton]
    rfl

end

/-- A blank field and a rejected entry are told apart. -/
theorem not_blank_of_rejected {diagnostic : Diagnostic}
    (rejected : diagnostic ∈ definition.rejectionDiagnostics path) :
    diagnostic ∉ definition.blankDiagnostics path := by
  obtain ⟨misentry, -, rfl⟩ := List.mem_map.mp rejected
  intro blank
  obtain ⟨field, -, same⟩ := List.mem_map.mp blank
  cases same

theorem sharedOrderDiagnostic_not_told {order : Int32} :
    definition.sharedOrderDiagnostic path order ∉
      definition.blankDiagnostics path ++ definition.rejectionDiagnostics path := by
  intro told
  rcases List.mem_append.mp told with blank | rejected
  · obtain ⟨field, -, same⟩ := List.mem_map.mp blank
    cases same
  · obtain ⟨misentry, -, same⟩ := List.mem_map.mp rejected
    cases same

/-- The blank fields and the rejected entries are everything when no two options share an order. -/
theorem told_append_rejections_iff :
    definition.Told path (definition.blankDiagnostics path ++ definition.rejectionDiagnostics path) ↔
      definition.orders.Nodup := by
  constructor
  · intro told
    by_contra shared
    obtain ⟨order, reported⟩ := told.shared shared
    exact sharedOrderDiagnostic_not_told reported
  · intro distinct
    exact ⟨fun _ listed => List.mem_append_left _ listed,
      fun _ listed => List.mem_append_right _ listed, fun shared => (shared distinct).elim⟩

/-- The blank fields are everything when no entry is rejected and no two options share an order. -/
theorem told_blankDiagnostics_iff :
    definition.Told path (definition.blankDiagnostics path) ↔
      definition.rejectionDiagnostics path = [] ∧ definition.orders.Nodup := by
  constructor
  · intro told
    have accepted : definition.rejectionDiagnostics path = [] :=
      List.eq_nil_iff_forall_not_mem.mpr fun diagnostic rejected =>
        not_blank_of_rejected rejected (told.rejected diagnostic rejected)
    have joined : definition.Told path
        (definition.blankDiagnostics path ++ definition.rejectionDiagnostics path) := by
      rw [accepted, List.append_nil]
      exact told
    exact ⟨accepted, told_append_rejections_iff.mp joined⟩
  · rintro ⟨accepted, distinct⟩
    have joined : definition.Told path
        (definition.blankDiagnostics path ++ definition.rejectionDiagnostics path) :=
      told_append_rejections_iff.mpr distinct
    rw [accepted, List.append_nil] at joined
    exact joined

/-- A shared order and the blank fields are everything when no entry is rejected. -/
theorem told_append_sharedOrder (accepted : definition.rejectionDiagnostics path = [])
    (order : Int32) :
    definition.Told path
      (definition.blankDiagnostics path ++ [definition.sharedOrderDiagnostic path order]) where
  blank _ listed := List.mem_append_left _ listed
  rejected _ listed := (List.not_mem_nil (accepted ▸ listed)).elim
  shared _ := ⟨order, List.mem_append_right _ (List.mem_singleton_self _)⟩

/-- Everything that is wrong in a file is told exactly when a blank id hides nothing and rejected
entries hide no shared order. -/
theorem told_iff {tree : FileTree} (read : tree.definition Record.event path = .ok definition)
    (context : TemplateContext) :
    definition.Told path (fileDiagnostics Event tree context path) ↔
      (Text.isBlankText definition.id = true →
        definition.rejectionDiagnostics path = [] ∧ definition.orders.Nodup) ∧
      (definition.rejectionDiagnostics path ≠ [] → definition.orders.Nodup) := by
  cases named : Text.isBlankText definition.id with
  | true =>
      rw [fileDiagnostics_of_blank_id read context named, told_blankDiagnostics_iff]
      exact ⟨fun clean => ⟨fun _ => clean, fun _ => clean.2⟩, fun clean => clean.1 rfl⟩
  | false =>
      by_cases accepted : definition.rejectionDiagnostics path = []
      · -- Without rejected entries nothing hides a shared order.
        have told : definition.Told path (fileDiagnostics Event tree context path) := by
          obtain ⟨whenDistinct, whenShared⟩ :=
            fileDiagnostics_of_no_rejections read context named accepted
          by_cases distinct : definition.orders.Nodup
          · rw [whenDistinct distinct]
            exact told_blankDiagnostics_iff.mpr ⟨accepted, distinct⟩
          · obtain ⟨order, -, reported⟩ := whenShared distinct
            rw [reported]
            exact told_append_sharedOrder accepted order
        simp [told, accepted]
      · rw [fileDiagnostics_of_rejections read context named accepted, told_append_rejections_iff]
        simp [accepted]

end EventDefinition

/-- The checker reports of an event file exactly its blank fields, then, when the id is not blank,
its rejected entries, or else a shared order. This is all that is wrong in the file unless a blank
id hides entries or orders, or rejected entries hide a shared order. -/
theorem validate_event_file {tree : FileTree} {paths : ContentPaths} {files : List String}
    {path : String} {definition : EventDefinition}
    (listed : tree.contentPaths paths.events = .ok files) (member : path ∈ files)
    (read : tree.definition Record.event path = .ok definition) (context : TemplateContext) :
    let reported := fileDiagnostics Event tree context path
    let blank := definition.blankDiagnostics path
    let rejected := definition.rejectionDiagnostics path
    reported.Sublist (validate tree paths context).diagnostics ∧
      (Text.isBlankText definition.id = true → reported = blank) ∧
      (Text.isBlankText definition.id = false →
        (rejected ≠ [] → reported = blank ++ rejected) ∧
        (rejected = [] → definition.orders.Nodup → reported = blank) ∧
        (rejected = [] → ¬definition.orders.Nodup →
          ∃ order, 2 ≤ definition.orders.count order ∧
            reported = blank ++ [definition.sharedOrderDiagnostic path order])) ∧
      (definition.Told path reported ↔
        (Text.isBlankText definition.id = true → rejected = [] ∧ definition.orders.Nodup) ∧
        (rejected ≠ [] → definition.orders.Nodup)) := by
  intro reported blank rejected
  have within : reported.Sublist (validate tree paths context).diagnostics := by
    have survey : (Survey.directory (A := Event) tree context paths.events).diagnostics =
        (Survey.files (A := Event) tree context [] files).diagnostics := by
      rw [Survey.directory, listed]
    simp only [validate, List.append_assoc]
    rw [survey]
    exact (Survey.fileDiagnostics_sublist member []).trans (List.sublist_append_left _ _)
  refine ⟨within, EventDefinition.fileDiagnostics_of_blank_id read context, fun named => ?_,
    EventDefinition.told_iff read context⟩
  refine ⟨EventDefinition.fileDiagnostics_of_rejections read context named, ?_, ?_⟩
  · intro accepted
    exact (EventDefinition.fileDiagnostics_of_no_rejections read context named accepted).1
  · intro accepted
    exact (EventDefinition.fileDiagnostics_of_no_rejections read context named accepted).2

/-- This tree holds a single event file. -/
def raidTree (text : String) : FileTree where
  directories := [["events"]]
  files := [(["events", "raid.ron"], text.toUTF8)]

def raidPaths : ContentPaths where
  events := "events"
  items := none
  nodes := none

section

variable {text : String} {definition : EventDefinition}

theorem contentPaths_raidTree (text : String) :
    (raidTree text).contentPaths raidPaths.events = .ok ["events/raid.ron"] := by
  have present : (raidTree text).isDirectory raidPaths.events = true := rfl
  have names : (raidTree text).fileNames raidPaths.events = ["raid.ron"] := rfl
  have content : ["raid.ron"].filter isContentName = ["raid.ron"] := by decide +kernel
  rw [FileTree.contentPaths, if_pos present, names, content, List.mergeSort_singleton]
  decide +kernel

theorem definition_raidTree (readable : Record.document Record.event text.toList = .ok definition) :
    (raidTree text).definition Record.event "events/raid.ron" = .ok definition := by
  have stored : (raidTree text).read? "events/raid.ron" = some text.toUTF8 := rfl
  have decoded : String.fromUTF8? text.toUTF8 = some text := by
    rw [String.fromUTF8?]
    exact dif_pos text.isValidUTF8
  rw [FileTree.definition, stored, Option.bind_some, decoded]
  dsimp only
  rw [readable]

/-- A tree whose only file has a problem has no other problems. -/
theorem diagnostics_raidTree {context : TemplateContext}
    (faulty : fileDiagnostics Event (raidTree text) context "events/raid.ron" ≠ []) :
    (validate (raidTree text) raidPaths context).diagnostics =
      fileDiagnostics Event (raidTree text) context "events/raid.ron" := by
  rw [fileDiagnostics] at faulty ⊢
  cases refused : checkFile (A := Event) (raidTree text) context "events/raid.ron" with
  | ok entry => simp [refused, failures] at faulty
  | error errors =>
      have survey : Survey.directory (A := Event) (raidTree text) context raidPaths.events =
          { diagnostics := errors.flatMap LoadError.diagnostics } := by
        simp [Survey.directory, contentPaths_raidTree, Survey.files, refused]
      simp only [validate, survey]
      simp [raidPaths, Survey.optional, located, failures]

end

/-- In this file a rejected entry hides a shared order. -/
def crowdedText : String :=
  "(Id:\"raid\",Name:\"Raid\",Description:\"D\",Options:[
  (DisplayText:\"A\",ResolutionText:\"A\",Order:1,Conditions:[\"feat:2\"]),
  (DisplayText:\"B\",ResolutionText:\"B\",Order:1)])"

def crowdedDefinition : EventDefinition where
  id := "raid"
  name := "Raid"
  description := "D"
  options := [
    { displayText := "A", resolutionText := "A", order := 1, conditions := ["feat:2"] },
    { displayText := "B", resolutionText := "B", order := 1 }]

theorem rejectionDiagnostics_crowdedDefinition :
    crowdedDefinition.rejectionDiagnostics "events/raid.ron" ≠ [] := by
  decide +kernel

set_option maxRecDepth 2000 in
theorem definition_crowdedText :
    (raidTree crowdedText).definition Record.event "events/raid.ron" = .ok crowdedDefinition := by
  apply definition_raidTree
  -- The kernel is slow to decode a literal, so the characters are put in its place.
  rw [show crowdedText = String.ofList _ from rfl, String.toList_ofList]
  decide +kernel

/-- In this file a blank id hides a rejected entry. -/
def namelessText : String :=
  "(Id:\" \",Name:\"Raid\",Description:\"D\",Options:[
  (DisplayText:\"A\",ResolutionText:\"A\",Order:1,Conditions:[\"feat:2\"])])"

def namelessDefinition : EventDefinition where
  id := " "
  name := "Raid"
  description := "D"
  options := [
    { displayText := "A", resolutionText := "A", order := 1, conditions := ["feat:2"] }]

set_option maxRecDepth 2000 in
theorem definition_namelessText :
    (raidTree namelessText).definition Record.event "events/raid.ron" = .ok namelessDefinition := by
  apply definition_raidTree
  rw [show namelessText = String.ofList _ from rfl, String.toList_ofList]
  decide +kernel

theorem validate_event_file_crowded :
    (raidTree crowdedText).contentPaths raidPaths.events = .ok ["events/raid.ron"] ∧
      (raidTree crowdedText).definition Record.event "events/raid.ron" = .ok crowdedDefinition ∧
      Text.isBlankText crowdedDefinition.id = false ∧
      crowdedDefinition.rejectionDiagnostics "events/raid.ron" ≠ [] ∧
      fileDiagnostics Event (raidTree crowdedText) TemplateContext.neutral "events/raid.ron" =
        crowdedDefinition.blankDiagnostics "events/raid.ron" ++
          crowdedDefinition.rejectionDiagnostics "events/raid.ron" := by
  have named : Text.isBlankText crowdedDefinition.id = false := by decide +kernel
  have rejected := rejectionDiagnostics_crowdedDefinition
  have reported := validate_event_file (contentPaths_raidTree crowdedText)
    (List.mem_singleton_self _) definition_crowdedText TemplateContext.neutral
  exact ⟨contentPaths_raidTree crowdedText, definition_crowdedText, named, rejected,
    (reported.2.2.1 named).1 rejected⟩

/-- Neither of the two files has everything told that is wrong in it. -/
theorem not_told_of_hidden_faults :
    (raidTree crowdedText).definition Record.event "events/raid.ron" = .ok crowdedDefinition ∧
      ¬crowdedDefinition.Told "events/raid.ron"
        (validate (raidTree crowdedText) raidPaths TemplateContext.neutral).diagnostics ∧
      (raidTree namelessText).definition Record.event "events/raid.ron" = .ok namelessDefinition ∧
      ¬namelessDefinition.Told "events/raid.ron"
        (validate (raidTree namelessText) raidPaths TemplateContext.neutral).diagnostics := by
  refine ⟨definition_crowdedText, ?_, definition_namelessText, ?_⟩
  · have rejected := rejectionDiagnostics_crowdedDefinition
    have reported := EventDefinition.fileDiagnostics_of_rejections definition_crowdedText
      TemplateContext.neutral (by decide +kernel) rejected
    rw [diagnostics_raidTree (by simp [reported, rejected]),
      EventDefinition.told_iff definition_crowdedText]
    exact fun told => absurd (told.2 rejected) (by decide)
  · have unnamed : Text.isBlankText namelessDefinition.id = true := by decide +kernel
    have blank : namelessDefinition.blankDiagnostics "events/raid.ron" ≠ [] := by
      decide +kernel
    have rejected : namelessDefinition.rejectionDiagnostics "events/raid.ron" ≠ [] := by
      decide +kernel
    have reported := EventDefinition.fileDiagnostics_of_blank_id definition_namelessText
      TemplateContext.neutral unnamed
    rw [diagnostics_raidTree (by simp [reported, blank]),
      EventDefinition.told_iff definition_namelessText]
    exact fun told => rejected (told.1 unnamed).1

end Gamebook
