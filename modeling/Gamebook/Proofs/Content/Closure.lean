/-
This file says when content is closed, so that everything it leads to is loaded.
Content that is checked without problems is closed, and what is picked at its nodes is loaded.
-/

import Gamebook.Catalog.Pick
import Gamebook.Proofs.Content.Agreement
import Gamebook.Proofs.Random.Choice

namespace Gamebook

/-- An effect is resolved when the item or the event that it names is loaded. -/
def Effect.IsResolved (content : Content) : Effect → Prop
  | .grantItem id => content.items.contains id = true
  | .triggerEvent id => content.events.contains id = true
  | _ => True

/-- Content is closed when everything that its entries lead to is loaded. -/
structure Content.Closed (content : Content) : Prop where
  chains : ∀ event ∈ content.events.entries, ∀ option ∈ event.options, ∀ target,
    option.nextEvent = some target → content.events.contains target = true
  optionEffects : ∀ event ∈ content.events.entries, ∀ option ∈ event.options,
    ∀ effect ∈ option.effects, effect.IsResolved content
  itemEffects : ∀ item ∈ content.items.entries, ∀ effect ∈ item.effects, effect.IsResolved content
  nodeEvents : ∀ node ∈ content.nodes.entries, ∀ id ∈ node.eventIds,
    content.events.contains id = true
  neighbours : ∀ node ∈ content.nodes.entries, ∀ kind ∈ node.neighbours.kinds,
    content.nodes.contains kind = true

/-- These are the ids of all loaded entries. -/
def Content.known (content : Content) : KnownIds :=
  ⟨content.events.ids, content.items.ids, content.nodes.ids⟩

namespace KnownIds

theorem isResolved_of_effectProblem? {content : Content} {owner : Owner} {effect : Effect}
    (silent : content.known.effectProblem? owner effect = none) : effect.IsResolved content := by
  cases effect with
  | statChange stat amount => trivial
  | changeTitle title => trivial
  | grantItem id =>
      simp only [effectProblem?] at silent
      split at silent
      next known => exact Catalog.contains_iff_mem_ids.mpr (List.contains_iff_mem.mp known)
      next => cases silent
  | triggerEvent id =>
      simp only [effectProblem?] at silent
      split at silent
      next known => exact Catalog.contains_iff_mem_ids.mpr (List.contains_iff_mem.mp known)
      next => cases silent

/-- An id that is not sorted out is loaded. -/
theorem contains_of_filter {A : Type} [CatalogEntry A] {catalog : Catalog A} {ids : List String}
    (silent : (ids.filter fun id => !catalog.ids.contains id) = []) :
    ∀ id ∈ ids, catalog.contains id = true := by
  intro id listed
  have known := List.filter_eq_nil_iff.mp silent id listed
  exact Catalog.contains_iff_mem_ids.mpr (by simpa using known)

end KnownIds

theorem located_eq_nil_iff {A : Type} {problems : A → List Problem} {entries : List (String × A)} :
    located problems entries = [] ↔ ∀ entry ∈ entries.map Prod.snd, problems entry = [] := by
  simp only [located, List.flatMap_eq_nil_iff, List.map_eq_nil_iff, List.forall_mem_map]

/-- Content is closed when no entry of it has a problem with its references. -/
theorem Content.closed_of_no_problems {content : Content}
    (events : ∀ event ∈ content.events.entries, content.known.eventProblems event = [])
    (items : ∀ item ∈ content.items.entries, content.known.itemProblems item = [])
    (nodes : ∀ node ∈ content.nodes.entries, content.known.nodeProblems node = []) :
    content.Closed := by
  have options : ∀ event ∈ content.events.entries, ∀ option ∈ event.options,
      content.known.optionProblems event.id option = [] := fun event listed =>
    List.flatMap_eq_nil_iff.mp (events event listed)
  refine ⟨?chains, ?optionEffects, ?itemEffects, ?nodeEvents, ?neighbours⟩
  case chains =>
    intro event listed option owned target chained
    have silent := options event listed option owned
    simp only [KnownIds.optionProblems, List.append_eq_nil_iff, List.map_eq_nil_iff, chained] at silent
    exact KnownIds.contains_of_filter silent.1.1 target (by simp)
  case optionEffects =>
    intro event listed option owned effect named
    have silent := options event listed option owned
    simp only [KnownIds.optionProblems, List.append_eq_nil_iff] at silent
    exact KnownIds.isResolved_of_effectProblem? (List.filterMap_eq_nil_iff.mp silent.2 effect named)
  case itemEffects =>
    intro item listed effect owned
    exact KnownIds.isResolved_of_effectProblem?
      (List.filterMap_eq_nil_iff.mp (items item listed) effect owned)
  case nodeEvents =>
    intro node listed
    have silent := (List.append_eq_nil_iff.mp (nodes node listed)).1
    exact KnownIds.contains_of_filter (List.map_eq_nil_iff.mp silent)
  case neighbours =>
    intro node listed
    have silent := (List.append_eq_nil_iff.mp (nodes node listed)).2
    exact KnownIds.contains_of_filter (List.map_eq_nil_iff.mp silent)

/-- Content that is checked without problems is closed. -/
theorem Content.closed_of_isOk {tree : FileTree} {paths : ContentPaths} {context : TemplateContext}
    {content : Content} (clean : (validate tree paths context).isOk = true)
    (loaded : Content.load tree paths context = .ok content) : content.Closed := by
  obtain ⟨-, -, items, nodes, events⟩ := load_eq_ok_iff.mp loaded
  have known : content.known =
      ⟨(Survey.directory (A := Event) tree context paths.events).ids,
        (Survey.optional (A := Item) tree context paths.items).ids,
        (Survey.optional (A := Node) tree context paths.nodes).ids⟩ := by
    simp only [Content.known, Survey.ids_of_entries items.entries,
      Survey.ids_of_entries nodes.entries, Survey.ids_of_entries events.entries]
  have nothing := List.isEmpty_iff.mp clean
  simp only [validate, List.append_eq_nil_iff, located_eq_nil_iff, ← items.entries, ← nodes.entries,
    ← events.entries, ← known] at nothing
  obtain ⟨⟨⟨-, eventsClean⟩, itemsClean⟩, nodesClean⟩ := nothing
  exact closed_of_no_problems eventsClean itemsClean nodesClean

/-- What is loaded from a directory that may be missing is made in one of the known ways. -/
theorem Content.built_of_loadOptional {A : Type} [Authored A] {tree : FileTree}
    {context : TemplateContext} {path : Option String} {catalog : Catalog A}
    (loaded : loadOptional tree context path = .ok catalog) : catalog.Built := by
  cases path with
  | none =>
      rw [loadOptional, Except.ok.injEq] at loaded
      exact loaded ▸ .empty
  | some directory => exact .load loaded

/-- The items of content are a catalog that was made in one of the known ways. -/
theorem Content.items_built {tree : FileTree} {paths : ContentPaths} {context : TemplateContext}
    {content : Content} (loaded : Content.load tree paths context = .ok content) :
    content.items.Built := by
  obtain ⟨-, -, items, -, -⟩ := load_eq_ok_iff.mp loaded
  exact built_of_loadOptional (loadOptional_eq_ok_iff.mpr items)

namespace Content.Closed

variable {content : Content} (closed : content.Closed) {kind : String} {source : RandomSource}

include closed

/-- An event that is picked is loaded. -/
theorem contains_of_pickEvent {event : String}
    (picked : (content.nodes.pickEvent kind source).1 = some event) :
    content.events.contains event = true := by
  rw [Catalog.pickEvent] at picked
  split at picked
  next => cases picked
  next node found =>
    have listed := (Catalog.mem_of_find? found).1
    split at picked
    next forced isForced =>
      cases picked
      exact closed.nodeEvents node listed _ (by simp [Node.eventIds, isForced])
    next =>
      have drawn := RandomSource.mem_of_choose picked
      exact closed.nodeEvents node listed event (by simp [Node.eventIds, drawn])

/-- A neighbour that is picked is loaded. -/
theorem contains_of_pickNeighbour {neighbour : String} {later : RandomSource}
    (picked : content.nodes.pickNeighbour kind source = .ok (some neighbour, later)) :
    content.nodes.contains neighbour = true := by
  rw [Catalog.pickNeighbour] at picked
  split at picked
  next => cases picked
  next node found =>
    split at picked
    next => cases picked
    next => cases picked
    next table made =>
      simp only [Except.ok.injEq, Prod.mk.injEq] at picked
      exact closed.neighbours node (Catalog.mem_of_find? found).1 neighbour
        (List.mem_of_getElem? picked.1)

end Content.Closed

end Gamebook
