/-
This file shows that the checker finds the same problems for every hero.
-/

import Gamebook.Content.Report
import Gamebook.Proofs.Compile.Wordless

namespace Gamebook

/-- This changes the entries of a survey and keeps their paths. -/
def Survey.map {A B : Type} (change : A → B) (survey : Survey A) : Survey B where
  entries := survey.entries.map fun entry => (entry.1, change entry.2)
  diagnostics := survey.diagnostics

theorem Survey.map_id {A : Type} (survey : Survey A) : survey.map id = survey := by
  simp [map]

theorem located_map {A : Type} {problems : A → List Problem} {change : A → A}
    (keepsProblems : ∀ entry, problems (change entry) = problems entry) (survey : Survey A) :
    located problems (survey.map change).entries = located problems survey.entries := by
  simp [located, Survey.map, List.flatMap_map, keepsProblems]

theorem Survey.map_eq_map_iff {A B : Type} {change : A → B} {first second : Survey A} :
    first.map change = second.map change ↔
      (first.map change).entries = (second.map change).entries ∧
        first.diagnostics = second.diagnostics := by
  simp only [map, mk.injEq]

section

variable {A : Type} [Authored A] {first second : TemplateContext} {change : A → A}

/-- This says that two heroes get the same entries and faults up to a change that keeps the ids. -/
structure Retold (first second : TemplateContext) (change : A → A) : Prop where
  id_eq : ∀ entry : A, CatalogEntry.id (change entry) = CatalogEntry.id entry
  compile_eq : ∀ definition : Authored.Definition A,
    (Authored.compile first definition).map change = (Authored.compile second definition).map change

namespace Retold

theorem checkFile_eq (retold : Retold first second change) (tree : FileTree) (path : String) :
    (checkFile tree first path).map change = (checkFile tree second path).map change := by
  rw [checkFile, checkFile]
  cases tree.definition (Authored.reader (A := A)) path with
  | error error => rfl
  | ok definition =>
      dsimp only
      rw [checkDefinition, checkDefinition]
      rcases map_eq_map_iff.mp (retold.compile_eq definition) with
        ⟨error, left, right⟩ | ⟨firstEntry, secondEntry, left, right, same⟩
      · rw [left, right]
      · rw [left, right]
        dsimp only
        split
        · simp [Except.map, same]
        · rfl

theorem files_eq (retold : Retold first second change) (tree : FileTree) (seen paths : List String) :
    (Survey.files tree first seen paths).map change =
      (Survey.files tree second seen paths).map change := by
  induction paths generalizing seen with
  | nil => rfl
  | cons path rest inductionHypothesis =>
      rw [Survey.files, Survey.files]
      rcases map_eq_map_iff.mp (retold.checkFile_eq tree path) with
        ⟨errors, left, right⟩ | ⟨firstEntry, secondEntry, left, right, same⟩
      · obtain ⟨entries, diagnostics⟩ := Survey.map_eq_map_iff.mp (inductionHypothesis seen)
        rw [left, right]
        exact Survey.map_eq_map_iff.mpr ⟨entries, congrArg (_ ++ ·) diagnostics⟩
      · have sameId : CatalogEntry.id firstEntry = CatalogEntry.id secondEntry := by
          rw [← retold.id_eq, same, retold.id_eq]
        rw [left, right]
        dsimp only
        rw [sameId]
        split
        · obtain ⟨entries, diagnostics⟩ := Survey.map_eq_map_iff.mp (inductionHypothesis seen)
          exact Survey.map_eq_map_iff.mpr ⟨entries, congrArg (_ :: ·) diagnostics⟩
        · obtain ⟨entries, diagnostics⟩ := Survey.map_eq_map_iff.mp
            (inductionHypothesis (CatalogEntry.id secondEntry :: seen))
          refine Survey.map_eq_map_iff.mpr ⟨?_, diagnostics⟩
          simp only [Survey.map, List.map_cons, same] at entries ⊢
          rw [entries]

theorem directory_eq (retold : Retold first second change) (tree : FileTree) (path : String) :
    (Survey.directory tree first path).map change =
      (Survey.directory tree second path).map change := by
  rw [Survey.directory, Survey.directory]
  split
  · rfl
  · exact retold.files_eq tree [] _

theorem optional_eq (retold : Retold first second change) (tree : FileTree) (path : Option String) :
    (Survey.optional tree first path).map change =
      (Survey.optional tree second path).map change := by
  cases path with
  | none => rfl
  | some directory => exact retold.directory_eq tree directory

end Retold

/-- The ids of a survey stay when a change of its entries keeps them. -/
theorem Survey.ids_map (keepsId : ∀ entry : A, CatalogEntry.id (change entry) = CatalogEntry.id entry)
    (survey : Survey A) : (survey.map change).ids = survey.ids := by
  simp [ids, map, keepsId]

end

/-- This is the report that three surveys lead to. -/
def ContentReport.ofSurveys (events : Survey Event) (items : Survey Item) (nodes : Survey Node) :
    ContentReport :=
  let known : KnownIds := ⟨events.ids, items.ids, nodes.ids⟩
  { events := events.entries.length
    items := items.entries.length
    nodes := nodes.entries.length
    diagnostics :=
      events.diagnostics ++ items.diagnostics ++ nodes.diagnostics ++
        located known.eventProblems events.entries ++
        located known.itemProblems items.entries ++
        located known.nodeProblems nodes.entries }

theorem validate_eq_ofSurveys (tree : FileTree) (paths : ContentPaths) (context : TemplateContext) :
    validate tree paths context =
      .ofSurveys (Survey.directory tree context paths.events)
        (Survey.optional tree context paths.items) (Survey.optional tree context paths.nodes) :=
  rfl

/-- No text of an event takes part in a problem of its references. -/
theorem KnownIds.eventProblems_wordless (known : KnownIds) (event : Event) :
    known.eventProblems event.wordless = known.eventProblems event := by
  simp only [eventProblems, Event.wordless, List.flatMap_map]
  rfl

theorem ContentReport.ofSurveys_wordless (events : Survey Event) (items : Survey Item)
    (nodes : Survey Node) :
    ofSurveys (events.map Event.wordless) items nodes = ofSurveys events items nodes := by
  have keepsId : ∀ event : Event, CatalogEntry.id event.wordless = CatalogEntry.id event :=
    fun _ => rfl
  have ids := Survey.ids_map keepsId events
  simp only [ofSurveys, ids, located_map (KnownIds.eventProblems_wordless _)]
  simp [Survey.map]

/-- The checker reports the same for every hero. -/
theorem validate_for_hero (tree : FileTree) (paths : ContentPaths)
    (first second : TemplateContext) :
    validate tree paths first = validate tree paths second := by
  have events : Retold first second Event.wordless :=
    ⟨fun _ => rfl, fun definition => EventDefinition.compile_wordless definition first second⟩
  have items : Retold first second (id : Item → Item) := ⟨fun _ => rfl, fun _ => rfl⟩
  have nodes : Retold first second (id : Node → Node) := ⟨fun _ => rfl, fun _ => rfl⟩
  rw [validate_eq_ofSurveys, validate_eq_ofSurveys]
  have sameItems := items.optional_eq tree paths.items
  have sameNodes := nodes.optional_eq tree paths.nodes
  rw [Survey.map_id, Survey.map_id] at sameItems sameNodes
  rw [← ContentReport.ofSurveys_wordless, events.directory_eq tree paths.events,
    ContentReport.ofSurveys_wordless, sameItems, sameNodes]

end Gamebook
