/-
This file says what is reported for content in which every single file is in order. There is one
diagnostic for every reference that leads nowhere, in the order in which the references stand in
the files, and nothing else.
-/

import Gamebook.Proofs.Content.FileCheck
import Gamebook.Proofs.Content.Reference
import Mathlib.Data.List.Count
import Mathlib.Data.List.Nodup

namespace Gamebook

section

variable {A : Type} [Authored A]

/-- These are the files of a directory with what is read from them. Every file is accepted, and no
two of them have the same id. -/
structure HoldsFiles (tree : FileTree) (context : TemplateContext) (directory : String)
    (files : List (String × A)) : Prop where
  listed : tree.contentPaths directory = .ok (files.map Prod.fst)
  accepted : ∀ file ∈ files, loadFile tree context file.1 = .ok file.2
  distinct : (files.map fun file => CatalogEntry.id file.2).Nodup

/-- A directory that is not given holds no files. -/
def HoldsFilesOptional (tree : FileTree) (context : TemplateContext) :
    Option String → List (String × A) → Prop
  | none, files => files = []
  | some directory, files => HoldsFiles tree context directory files

variable {tree : FileTree} {context : TemplateContext} {files : List (String × A)}

/-- Nothing is reported for files that are accepted when their ids are new. -/
theorem Survey.files_of_accepted {seen : List String}
    (accepted : ∀ file ∈ files, loadFile tree context file.1 = .ok file.2)
    (distinct : (files.map fun file => CatalogEntry.id file.2).Nodup)
    (fresh : ∀ file ∈ files, CatalogEntry.id file.2 ∉ seen) :
    Survey.files tree context seen (files.map Prod.fst) = { entries := files } := by
  induction files generalizing seen with
  | nil => rfl
  | cons file rest inductionHypothesis =>
      obtain ⟨here, later⟩ := List.forall_mem_cons.mp accepted
      obtain ⟨hereFresh, laterFresh⟩ := List.forall_mem_cons.mp fresh
      rw [List.map_cons, List.nodup_cons] at distinct
      have stillFresh : ∀ other ∈ rest,
          CatalogEntry.id other.2 ∉ CatalogEntry.id file.2 :: seen := by
        intro other listed taken
        rcases List.mem_cons.mp taken with same | before
        · exact distinct.1 (List.mem_map.mpr ⟨other, listed, same⟩)
        · exact laterFresh other listed before
      have notSeen : seen.contains (CatalogEntry.id file.2) = false := by
        simpa using hereFresh
      rw [List.map_cons, Survey.files, checkFile_eq_ok_iff.mpr here]
      simp only [notSeen, inductionHypothesis later distinct.2 stillFresh]
      rfl

theorem Survey.directory_of_holdsFiles {directory : String}
    (holds : HoldsFiles tree context directory files) :
    Survey.directory tree context directory = { entries := files } := by
  rw [Survey.directory, holds.listed]
  exact files_of_accepted holds.accepted holds.distinct fun _ _ => List.not_mem_nil

theorem Survey.optional_of_holdsFiles {directory : Option String}
    (holds : HoldsFilesOptional tree context directory files) :
    Survey.optional tree context directory = { entries := files } := by
  cases directory with
  | none =>
      cases holds
      rfl
  | some path => exact directory_of_holdsFiles holds

end

section

variable {A : Type}

/-- These are the references of entries, each with the path of the file that it stands in. -/
def locatedReferences (references : A → List Reference) (files : List (String × A)) :
    List (String × Reference) :=
  files.flatMap fun file => (references file.2).map fun reference => (file.1, reference)

/-- This is what is reported for a reference that leads nowhere. -/
def danglingDiagnostic (occurrence : String × Reference) : Diagnostic :=
  ⟨some occurrence.1, occurrence.2.problem⟩

theorem danglingDiagnostic_injective : Function.Injective danglingDiagnostic := by
  intro first second same
  rw [danglingDiagnostic, danglingDiagnostic, Diagnostic.mk.injEq] at same
  exact Prod.ext (Option.some.inj same.1) (Reference.problem_injective same.2)

/-- This is what is reported for those of the references that lead nowhere. -/
def danglingDiagnostics (known : KnownIds) (occurrences : List (String × Reference)) :
    List Diagnostic :=
  (occurrences.filter fun occurrence => !known.resolves occurrence.2).map danglingDiagnostic

theorem danglingDiagnostics_append (known : KnownIds) (first second : List (String × Reference)) :
    danglingDiagnostics known (first ++ second) =
      danglingDiagnostics known first ++ danglingDiagnostics known second := by
  rw [danglingDiagnostics, List.filter_append, List.map_append]
  rfl

/-- The problems of entries are those of their references, file by file. -/
theorem located_eq {known : KnownIds} {problems : A → List Problem}
    {references : A → List Reference}
    (same : ∀ entry, problems entry = known.problemsOf (references entry))
    (files : List (String × A)) :
    located problems files = danglingDiagnostics known (locatedReferences references files) := by
  rw [located, danglingDiagnostics, locatedReferences, List.filter_flatMap, List.map_flatMap]
  refine congrArg files.flatMap (funext fun file => ?_)
  rw [same, KnownIds.problemsOf, List.filter_map, List.map_map, List.map_map]
  rfl

/-- Every reference that leads nowhere is reported as often as it stands in the content. -/
theorem count_danglingDiagnostics (known : KnownIds) (occurrences : List (String × Reference))
    (occurrence : String × Reference) :
    (danglingDiagnostics known occurrences).count (danglingDiagnostic occurrence) =
      if known.resolves occurrence.2 then 0 else occurrences.count occurrence := by
  rw [danglingDiagnostics, List.count_map_of_injective _ _ danglingDiagnostic_injective]
  by_cases resolved : known.resolves occurrence.2 = true
  · rw [if_pos resolved, List.count_eq_zero]
    intro kept
    simpa [resolved] using (List.mem_filter.mp kept).2
  · rw [if_neg resolved, List.count_filter (by simpa using resolved)]

theorem danglingDiagnostics_eq_nil_iff {known : KnownIds}
    {occurrences : List (String × Reference)} :
    danglingDiagnostics known occurrences = [] ↔
      ∀ occurrence ∈ occurrences, known.resolves occurrence.2 = true := by
  simp [danglingDiagnostics, List.filter_eq_nil_iff]

end

/-- These are the references of all events, then those of all items, then those of all nodes. -/
def contentReferences (events : List (String × Event)) (items : List (String × Item))
    (nodes : List (String × Node)) : List (String × Reference) :=
  locatedReferences Event.references events ++ locatedReferences Item.references items ++
    locatedReferences Node.references nodes

/-- These are the ids of what is read from the files. -/
def KnownIds.ofFiles (events : List (String × Event)) (items : List (String × Item))
    (nodes : List (String × Node)) : KnownIds where
  events := events.map fun file => file.2.id
  items := items.map fun file => file.2.id
  nodes := nodes.map fun file => file.2.kind

/-- When every file is accepted and no id is repeated, exactly the references that lead nowhere are
reported, each as often as it stands in the content, in order and for its own file. -/
theorem dangling_references_reported {tree : FileTree} {paths : ContentPaths}
    {context : TemplateContext} {events : List (String × Event)} {items : List (String × Item)}
    {nodes : List (String × Node)} (eventFiles : HoldsFiles tree context paths.events events)
    (itemFiles : HoldsFilesOptional tree context paths.items items)
    (nodeFiles : HoldsFilesOptional tree context paths.nodes nodes) :
    let report := validate tree paths context
    let known := KnownIds.ofFiles events items nodes
    let references := contentReferences events items nodes
    report.diagnostics =
        (references.filter fun occurrence => !known.resolves occurrence.2).map danglingDiagnostic ∧
      (∀ occurrence, report.diagnostics.count (danglingDiagnostic occurrence) =
        if known.resolves occurrence.2 then 0 else references.count occurrence) ∧
      (report.isOk = true ↔ ∀ occurrence ∈ references, known.resolves occurrence.2 = true) := by
  intro report known references
  have reported : report.diagnostics = danglingDiagnostics known references := by
    simp only [report, validate, Survey.directory_of_holdsFiles eventFiles,
      Survey.optional_of_holdsFiles itemFiles, Survey.optional_of_holdsFiles nodeFiles,
      List.nil_append]
    change located known.eventProblems events ++ located known.itemProblems items ++
      located known.nodeProblems nodes = _
    rw [located_eq known.eventProblems_eq, located_eq known.itemProblems_eq,
      located_eq known.nodeProblems_eq, ← danglingDiagnostics_append,
      ← danglingDiagnostics_append]
    rfl
  refine ⟨reported, fun occurrence => ?_, ?_⟩
  · rw [reported, count_danglingDiagnostics]
  · rw [ContentReport.isOk, List.isEmpty_iff, reported, danglingDiagnostics_eq_nil_iff]

/-- In this content a raid, a horn and a hall lead to each other and also to what is not there. -/
def gappyTree : FileTree where
  directories := [["events"], ["items"], ["nodes"]]
  files := [
    (["events", "raid.ron"],
      ("(Id:\"raid\",Name:\"R\",Description:\"R\",Options:[(DisplayText:\"A\",ResolutionText:\"A\"," ++
        "Order:1,Effects:[\"item:horn\",\"item:axe\"],NextEventId:\"duel\")])").toUTF8),
    (["items", "horn.ron"],
      "(Id:\"horn\",Name:\"H\",Description:\"H\",EffectsOnUse:[\"event:feast\"])".toUTF8),
    (["nodes", "hall.ron"],
      ("(Kind:\"hall\",Name:\"H\",Description:\"H\",PossibleNeighbours:\x7b\"hall\":1,\"fen\":1\x7d," ++
        "EventsPool:[\"raid\",\"duel\"])").toUTF8)]

def gappyPaths : ContentPaths where
  events := "events"
  items := some "items"
  nodes := some "nodes"

def gappyRaid : Event where
  id := "raid"
  name := "R"
  description := "R"
  options := [{
    displayText := "A"
    resolutionText := "A"
    order := 1
    displayCost := false
    conditions := []
    costs := []
    effects := [.grantItem "horn", .grantItem "axe"]
    nextEvent := some "duel" }]

def gappyHorn : Item where
  id := "horn"
  name := "H"
  description := "H"
  art := ""
  isCursed := false
  charges := none
  onUse := [.triggerEvent "feast"]
  onEquip := []
  onUnequip := []

def gappyHall : Node where
  kind := "hall"
  name := "H"
  description := "H"
  art := ""
  neighbours := ⟨[("fen", ⟨0x3F800000⟩), ("hall", ⟨0x3F800000⟩)]⟩
  forcedEvent := none
  pool := ["raid", "duel"]

theorem dangling_references_reported_gappy :
    HoldsFiles gappyTree TemplateContext.neutral gappyPaths.events [("events/raid.ron", gappyRaid)] ∧
      HoldsFilesOptional gappyTree TemplateContext.neutral gappyPaths.items
        [("items/horn.ron", gappyHorn)] ∧
      HoldsFilesOptional gappyTree TemplateContext.neutral gappyPaths.nodes
        [("nodes/hall.ron", gappyHall)] ∧
      (validate gappyTree gappyPaths TemplateContext.neutral).diagnostics = [
        ⟨some "events/raid.ron", .load (.danglingChain "raid" 1 "duel")⟩,
        ⟨some "events/raid.ron", .unknownGrant (.option "raid" 1) "axe"⟩,
        ⟨some "items/horn.ron", .unknownTrigger (.item "horn") "feast"⟩,
        ⟨some "nodes/hall.ron", .unknownNodeEvent "hall" "duel"⟩,
        ⟨some "nodes/hall.ron", .load (.unknownNeighbour "hall" "fen")⟩] := by
  have events : HoldsFiles gappyTree TemplateContext.neutral gappyPaths.events
      [("events/raid.ron", gappyRaid)] :=
    ⟨by decide +kernel, List.forall_mem_singleton.mpr (by decide +kernel), List.nodup_singleton _⟩
  have items : HoldsFiles gappyTree TemplateContext.neutral "items"
      [("items/horn.ron", gappyHorn)] :=
    ⟨by decide +kernel, List.forall_mem_singleton.mpr (by decide +kernel), List.nodup_singleton _⟩
  have nodes : HoldsFiles gappyTree TemplateContext.neutral "nodes"
      [("nodes/hall.ron", gappyHall)] :=
    ⟨by decide +kernel, List.forall_mem_singleton.mpr (by decide +kernel), List.nodup_singleton _⟩
  refine ⟨events, items, nodes, ?_⟩
  rw [(dangling_references_reported events items nodes).1]
  decide +kernel

end Gamebook
