/-
This file shows that checking content and loading it agree. Content loads exactly when every
problem that the checker reports is one that no loader looks for.
-/

import Gamebook.CommandLine.Tools
import Gamebook.Proofs.Catalog.References
import Gamebook.Proofs.Content.Survey

namespace Gamebook

namespace KnownIds

variable {known : KnownIds}

/-- No condition stops the loader. -/
theorem conditionProblem?_unchecked {owner : Owner} {condition : Condition} {problem : Problem}
    (told : known.conditionProblem? owner condition = some problem) :
    problem.isUnchecked = true := by
  cases condition with
  | threshold stat minimum => cases told
  | hasTitle title => cases told
  | hasItem item =>
      rw [conditionProblem?] at told
      split at told <;> cases told
      rfl
  | atNode kind =>
      rw [conditionProblem?] at told
      split at told <;> cases told
      rfl

/-- No effect of an option stops the loader. -/
theorem effectProblem?_option_unchecked {event : String} {order : Int32} {effect : Effect}
    {problem : Problem} (told : known.effectProblem? (.option event order) effect = some problem) :
    problem.isUnchecked = true := by
  cases effect with
  | statChange stat amount => cases told
  | changeTitle title => cases told
  | grantItem item =>
      rw [effectProblem?] at told
      split at told <;> cases told
      rfl
  | triggerEvent event =>
      rw [effectProblem?] at told
      split at told <;> cases told
      rfl

/-- An event stops the loader by a dangling chain and by nothing else. -/
theorem eventProblems_unchecked_iff {event : Event} :
    (∀ problem ∈ known.eventProblems event, problem.isUnchecked = true) ↔
      CatalogEntry.dangling? known.events.contains event = none := by
  rw [Event.dangling?_eq_none_iff]
  constructor
  · intro unchecked option listed target chained
    by_contra unknown
    have reported : Problem.load (.danglingChain event.id option.order target) ∈
        known.eventProblems event := by
      refine List.mem_flatMap.mpr ⟨option, listed, ?_⟩
      simp_all [optionProblems]
    cases unchecked _ reported
  · intro chains problem reported
    obtain ⟨option, listed, told⟩ := List.mem_flatMap.mp reported
    simp only [optionProblems, List.mem_append, List.mem_map, List.mem_filterMap,
      List.mem_filter, Option.mem_toList] at told
    rcases told with (⟨target, ⟨chained, unknown⟩, -⟩ | ⟨condition, -, told⟩) | ⟨effect, -, told⟩
    · rw [chains option listed target chained] at unknown
      cases unknown
    · exact conditionProblem?_unchecked told
    · exact effectProblem?_option_unchecked told

/-- An item stops the loader by an unknown grant and by nothing else. -/
theorem itemProblems_unchecked_iff {item : Item} :
    (∀ problem ∈ known.itemProblems item, problem.isUnchecked = true) ↔
      CatalogEntry.dangling? known.items.contains item = none := by
  rw [Item.dangling?_eq_none_iff]
  constructor
  · intro unchecked id listed
    by_contra unknown
    have reported : Problem.unknownGrant (.item item.id) id ∈ known.itemProblems item :=
      List.mem_filterMap.mpr ⟨.grantItem id, listed, by simp_all [effectProblem?]⟩
    cases unchecked _ reported
  · intro grants problem reported
    obtain ⟨effect, listed, told⟩ := List.mem_filterMap.mp reported
    cases effect with
    | statChange stat amount => cases told
    | changeTitle title => cases told
    | grantItem id =>
        rw [effectProblem?, grants id listed] at told
        cases told
    | triggerEvent event =>
        rw [effectProblem?] at told
        split at told <;> cases told
        rfl

/-- A node stops the loader by an unknown neighbour and by nothing else. -/
theorem nodeProblems_unchecked_iff {node : Node} :
    (∀ problem ∈ known.nodeProblems node, problem.isUnchecked = true) ↔
      CatalogEntry.dangling? known.nodes.contains node = none := by
  rw [Node.dangling?_eq_none_iff]
  constructor
  · intro unchecked kind listed
    by_contra unknown
    have reported : Problem.load (.unknownNeighbour node.kind kind) ∈ known.nodeProblems node :=
      List.mem_append_right _ (List.mem_map_of_mem
        (List.mem_filter.mpr ⟨listed, by simpa using unknown⟩))
    cases unchecked _ reported
  · intro neighbours problem reported
    rcases List.mem_append.mp reported with named | led
    · obtain ⟨event, -, rfl⟩ := List.mem_map.mp named
      rfl
    · obtain ⟨kind, unknown, -⟩ := List.mem_map.mp led
      obtain ⟨listed, unknown⟩ := List.mem_filter.mp unknown
      rw [neighbours kind listed] at unknown
      cases unknown

end KnownIds

/-- This says that no reported problem stops the loader. -/
def Unstopped (diagnostics : List Diagnostic) : Prop :=
  ∀ diagnostic ∈ diagnostics, diagnostic.problem.isUnchecked = true

theorem unstopped_append {first second : List Diagnostic} :
    Unstopped (first ++ second) ↔ Unstopped first ∧ Unstopped second :=
  List.forall_mem_append

theorem unstopped_located {A : Type} {problems : A → List Problem} {entries : List (String × A)} :
    Unstopped (located problems entries) ↔
      ∀ entry ∈ entries.map Prod.snd, ∀ problem ∈ problems entry, problem.isUnchecked = true := by
  simp only [Unstopped, located, List.forall_mem_flatMap, List.forall_mem_map]

section

variable {A : Type} [Authored A] {survey : Survey A} {catalog : Catalog A}

theorem Survey.ids_of_entries (same : catalog.entries = survey.entries.map Prod.snd) :
    catalog.ids = survey.ids := by
  rw [Catalog.ids, same, ids, List.map_map]
  rfl

theorem Survey.contains_of_entries (same : catalog.entries = survey.entries.map Prod.snd) :
    catalog.contains = survey.ids.contains := by
  funext id
  rw [Bool.eq_iff_iff, Catalog.contains_iff_mem_ids, List.contains_iff_mem, ids_of_entries same]

/-- A survey yields a catalog exactly when neither its own problems nor those of the references
stop the loader. -/
theorem Survey.yields_iff (problems : A → List Problem)
    (checked : ∀ diagnostic ∈ survey.diagnostics, diagnostic.problem.isUnchecked = false)
    (blocks : ∀ entry, (∀ problem ∈ problems entry, problem.isUnchecked = true) ↔
      CatalogEntry.dangling? survey.ids.contains entry = none) :
    (∃ catalog, survey.Yields catalog) ↔
      Unstopped survey.diagnostics ∧ Unstopped (located problems survey.entries) := by
  rw [unstopped_located]
  constructor
  · rintro ⟨catalog, yields⟩
    refine ⟨by simp [Unstopped, yields.clean], ?_⟩
    intro entry listed
    rw [blocks, ← contains_of_entries yields.entries]
    exact yields.closed entry (yields.entries ▸ listed)
  · rintro ⟨unstopped, closed⟩
    refine ⟨⟨survey.entries.map Prod.snd⟩, ?_, rfl, ?_⟩
    · refine List.eq_nil_iff_forall_not_mem.mpr ?_
      intro diagnostic reported
      have both := (unstopped diagnostic reported).symm.trans (checked diagnostic reported)
      cases both
    · intro entry listed
      have same : (⟨survey.entries.map Prod.snd⟩ : Catalog A).contains = survey.ids.contains :=
        contains_of_entries rfl
      rw [same, ← blocks]
      exact closed entry listed

end

/-- Content is loaded from the catalogs that its three surveys yield. -/
theorem Content.load_eq_ok_iff {tree : FileTree} {paths : ContentPaths} {context : TemplateContext}
    {content : Content} :
    Content.load tree paths context = .ok content ↔
      content.paths = paths ∧ content.context = context ∧
        (Survey.optional tree context paths.items).Yields content.items ∧
        (Survey.optional tree context paths.nodes).Yields content.nodes ∧
        (Survey.directory tree context paths.events).Yields content.events := by
  rw [load, ← loadOptional_eq_ok_iff, ← loadOptional_eq_ok_iff, ← Catalog.load_eq_ok_iff]
  obtain ⟨givenPaths, givenContext, events, items, nodes⟩ := content
  cases loadOptional (A := Item) tree context paths.items with
  | error error => simp
  | ok loadedItems =>
      cases loadOptional (A := Node) tree context paths.nodes with
      | error error => simp
      | ok loadedNodes =>
          cases Catalog.load (A := Event) tree paths.events context with
          | error error => simp
          | ok loadedEvents =>
              simp only [Except.ok.injEq, Content.mk.injEq, eq_comm]
              tauto

theorem Content.exists_load_iff {tree : FileTree} {paths : ContentPaths}
    {context : TemplateContext} :
    (∃ content, Content.load tree paths context = .ok content) ↔
      (∃ items, (Survey.optional (A := Item) tree context paths.items).Yields items) ∧
        (∃ nodes, (Survey.optional (A := Node) tree context paths.nodes).Yields nodes) ∧
        ∃ events, (Survey.directory (A := Event) tree context paths.events).Yields events := by
  simp only [load_eq_ok_iff]
  constructor
  · rintro ⟨content, -, -, items, nodes, events⟩
    exact ⟨⟨_, items⟩, ⟨_, nodes⟩, ⟨_, events⟩⟩
  · rintro ⟨⟨items, itemsYielded⟩, ⟨nodes, nodesYielded⟩, ⟨events, eventsYielded⟩⟩
    exact ⟨⟨paths, context, events, items, nodes⟩, rfl, rfl, itemsYielded, nodesYielded, eventsYielded⟩

/-- The loader accepts content exactly when the checker reports nothing that stops it. -/
theorem Content.exists_load_iff_unstopped {tree : FileTree} {paths : ContentPaths}
    {context : TemplateContext} :
    (∃ content, Content.load tree paths context = .ok content) ↔
      Unstopped (validate tree paths context).diagnostics := by
  let known : KnownIds :=
    ⟨(Survey.directory (A := Event) tree context paths.events).ids,
      (Survey.optional (A := Item) tree context paths.items).ids,
      (Survey.optional (A := Node) tree context paths.nodes).ids⟩
  rw [exists_load_iff, validate,
    Survey.yields_iff known.itemProblems (fun _ => Survey.optional_checked)
      fun _ => KnownIds.itemProblems_unchecked_iff,
    Survey.yields_iff known.nodeProblems (fun _ => Survey.optional_checked)
      fun _ => KnownIds.nodeProblems_unchecked_iff,
    Survey.yields_iff known.eventProblems (fun _ => Survey.directory_checked)
      fun _ => KnownIds.eventProblems_unchecked_iff]
  simp only [unstopped_append]
  tauto

/-- A plan for the paths builds what the loader loads. -/
theorem ContentPlan.build_eq_ok_iff {plan : ContentPlan} {tree : FileTree} {paths : ContentPaths}
    {content : Content} :
    (plan.withPaths paths).build tree = .ok content ↔
      Content.load tree paths (plan.context.getD TemplateContext.neutral) = .ok content := by
  exact mapError_eq_ok_iff

/-- The report counts what is loaded. -/
theorem Content.counts_of_load {tree : FileTree} {paths : ContentPaths} {context : TemplateContext}
    {content : Content} (loaded : Content.load tree paths context = .ok content) :
    (validate tree paths context).events = content.events.size ∧
      (validate tree paths context).items = content.items.size ∧
      (validate tree paths context).nodes = content.nodes.size := by
  obtain ⟨-, -, items, nodes, events⟩ := load_eq_ok_iff.mp loaded
  simp only [validate, Catalog.size, items.entries, nodes.entries, events.entries, List.length_map,
    and_self]

/-- Content without problems is loaded. -/
theorem Content.exists_load_of_isOk {tree : FileTree} {paths : ContentPaths}
    {context : TemplateContext} (clean : (validate tree paths context).isOk = true) :
    ∃ content, Content.load tree paths context = .ok content := by
  have nothing := List.isEmpty_iff.mp clean
  refine exists_load_iff_unstopped.mpr ?_
  intro diagnostic reported
  rw [nothing] at reported
  cases reported

/-- The linter never fails to load content in which it found no problem. -/
theorem lint_of_isOk {tree : FileTree} {paths : ContentPaths}
    (clean : (validate tree paths TemplateContext.neutral).isOk = true) :
    ∃ content, Content.load tree paths TemplateContext.neutral = .ok content ∧
      lint tree paths =
        ⟨0, printed (lintLines (validate tree paths TemplateContext.neutral) content.warnings)⟩ := by
  obtain ⟨content, loaded⟩ := Content.exists_load_of_isOk clean
  refine ⟨content, loaded, ?_⟩
  rw [lint]
  simp only [clean, loaded, if_true]

theorem lint_exit_eq_zero_iff {tree : FileTree} {paths : ContentPaths} :
    (lint tree paths).exit = 0 ↔ (validate tree paths TemplateContext.neutral).isOk = true := by
  constructor
  · intro passed
    by_contra faulty
    rw [lint] at passed
    simp [faulty] at passed
  · intro clean
    obtain ⟨content, -, result⟩ := lint_of_isOk clean
    rw [result]

/-- Content is built exactly when the checker reports nothing but references that no loader looks
up, and the counts of the report are then those of the content. The linter exits with zero exactly
when the report is clean, and after a clean report it never fails to build. -/
theorem build_agrees_with_validate (tree : FileTree) (paths : ContentPaths)
    (context : TemplateContext) :
    ((∃ content, (ContentPlan.withPaths { context := some context } paths).build tree = .ok content) ↔
      ∀ diagnostic ∈ (validate tree paths context).diagnostics,
        diagnostic.problem.isUnchecked = true) ∧
    (∀ content, (ContentPlan.withPaths { context := some context } paths).build tree = .ok content →
      (validate tree paths context).events = content.events.size ∧
        (validate tree paths context).items = content.items.size ∧
        (validate tree paths context).nodes = content.nodes.size) ∧
    ((validate tree paths context).isOk = true →
      ∃ content,
        (ContentPlan.withPaths { context := some context } paths).build tree = .ok content) ∧
    ((validate tree paths TemplateContext.neutral).isOk = true →
      ∃ content, (ContentPlan.withPaths {} paths).build tree = .ok content ∧
        lint tree paths =
          ⟨0, printed (lintLines (validate tree paths TemplateContext.neutral) content.warnings)⟩) ∧
    ∀ arguments options, LintOptions.ofArguments? arguments = some options →
      options.paths tree = paths →
        ((lintTool tree arguments).exit = 0 ↔
          (validate tree paths TemplateContext.neutral).isOk = true) := by
  simp only [ContentPlan.build_eq_ok_iff, Option.getD_some, Option.getD_none]
  refine ⟨Content.exists_load_iff_unstopped, fun content => Content.counts_of_load,
    Content.exists_load_of_isOk, lint_of_isOk, ?_⟩
  intro arguments options understood same
  rw [lintTool, understood]
  simp only [same]
  exact lint_exit_eq_zero_iff

end Gamebook
