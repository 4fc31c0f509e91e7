/-
This file says which unreached events the warnings find.
An event is only warned of when nothing names it. An event that is named by one out of reach, or by
itself, is not warned of, although no path leads to it. Such an event is traced back to an event
that is warned of, or to a circle.
-/

import Gamebook.Content.Lint
import Gamebook.Proofs.Catalog.References
import Mathlib.Data.Set.Finite.List
import Mathlib.Logic.Relation
import Mathlib.Order.WellFounded

namespace Gamebook

open Relation (ReflTransGen TransGen)

namespace Content

/-- An event begins at a node or with an item. -/
def Begins (content : Content) (id : String) : Prop :=
  (∃ node ∈ content.nodes.entries, id ∈ node.eventIds) ∨
    ∃ item ∈ content.items.entries, Effect.triggerEvent id ∈ item.effects

/-- An event leads to another by the chain of an option or by one of its effects. -/
def Leads (content : Content) (id next : String) : Prop :=
  ∃ event ∈ content.events.entries, event.id = id ∧
    ∃ option ∈ event.options,
      option.nextEvent = some next ∨ Effect.triggerEvent next ∈ option.effects

def Reached (content : Content) (id : String) : Prop :=
  ∃ first, content.Begins first ∧ ReflTransGen content.Leads first id

variable {content : Content} {source id next : String}

theorem Begins.reached (begins : content.Begins id) : content.Reached id :=
  ⟨id, begins, .refl⟩

theorem Reached.trans (reached : content.Reached id) (path : ReflTransGen content.Leads id next) :
    content.Reached next := by
  obtain ⟨first, begins, earlier⟩ := reached
  exact ⟨first, begins, earlier.trans path⟩

theorem reached_iff :
    content.Reached id ↔
      content.Begins id ∨ ∃ source, content.Reached source ∧ content.Leads source id := by
  constructor
  · rintro ⟨first, begins, path⟩
    rcases path.cases_tail with rfl | ⟨source, earlier, link⟩
    · exact .inl begins
    · exact .inr ⟨source, ⟨first, begins, earlier⟩, link⟩
  · rintro (begins | ⟨source, reached, link⟩)
    · exact begins.reached
    · exact reached.trans (.single link)

/-- Only loaded events lead on. -/
theorem Leads.mem_ids (link : content.Leads id next) : id ∈ content.events.ids := by
  obtain ⟨event, listed, rfl, -⟩ := link
  exact List.mem_map_of_mem listed

/-- The ids that are taken for reached are those that anything at all names. -/
theorem mem_reachedIds_iff :
    id ∈ content.reachedIds ↔ content.Begins id ∨ ∃ source, content.Leads source id := by
  simp only [reachedIds, List.mem_append, List.mem_flatMap, List.mem_filterMap,
    mem_triggeredEvents]
  constructor
  · rintro (((atNode | byItem) | ⟨option, ⟨event, listed, offered⟩, named⟩) |
      ⟨option, ⟨event, listed, offered⟩, named⟩)
    · exact .inl (.inl atNode)
    · exact .inl (.inr byItem)
    · exact .inr ⟨event.id, event, listed, rfl, option, offered, .inr named⟩
    · exact .inr ⟨event.id, event, listed, rfl, option, offered, .inl named⟩
  · rintro ((atNode | byItem) | ⟨source, event, listed, -, option, offered, chained | triggered⟩)
    · exact .inl (.inl (.inl atNode))
    · exact .inl (.inl (.inr byItem))
    · exact .inr ⟨option, ⟨event, listed, offered⟩, chained⟩
    · exact .inl (.inr ⟨option, ⟨event, listed, offered⟩, triggered⟩)

theorem Reached.named (reached : content.Reached id) :
    content.Begins id ∨ ∃ source, content.Leads source id :=
  (reached_iff.mp reached).imp_right fun ⟨source, _, link⟩ => ⟨source, link⟩

theorem neverReached_mem_warnings_iff (arrivable : content.nodes.isEmpty = false) :
    .neverReached id ∈ content.warnings ↔
      id ∈ content.events.ids ∧ ¬(content.Begins id ∨ ∃ source, content.Leads source id) := by
  have other (event : Event) : Warning.neverReached id ∉ event.warnings := by
    simp [Event.warnings]
  rw [← mem_reachedIds_iff, warnings, List.mem_append, List.mem_flatMap, arrivable, Catalog.ids]
  simp only [other, Bool.false_eq_true, if_false, List.mem_map, List.mem_filter]
  constructor
  · rintro (⟨_, -, impossible⟩ | ⟨event, ⟨listed, unnamed⟩, same⟩)
    · exact impossible.elim
    · cases same
      exact ⟨⟨event, listed, rfl⟩, by simpa using unnamed⟩
  · rintro ⟨⟨event, listed, rfl⟩, unnamed⟩
    have unlisted : event.id ∉ content.reachedIds := unnamed
    exact .inr ⟨event, ⟨listed, by simpa using unlisted⟩, rfl⟩

theorem unwarned_of_named (arrivable : content.nodes.isEmpty = false)
    (named : content.Begins id ∨ ∃ source, content.Leads source id) :
    .neverReached id ∉ content.warnings := by
  rw [neverReached_mem_warnings_iff arrivable]
  exact fun warned => warned.2 named

/-- One event lies upstream of another when a path leads from it to the other but not back. -/
def Upstream (content : Content) (id next : String) : Prop :=
  TransGen content.Leads id next ∧ ¬TransGen content.Leads next id

/-- There are only finitely many events, so that the way upstream comes to an end. -/
theorem upstream_wellFounded (content : Content) :
    WellFounded fun id next : { id // id ∈ content.events.ids } => content.Upstream id next := by
  have finite : Finite { id // id ∈ content.events.ids } := content.events.ids.finite_toSet
  have transitive : IsTrans { id // id ∈ content.events.ids }
      fun id next => content.Upstream id next :=
    ⟨fun _ _ _ first second =>
      ⟨first.1.trans second.1, fun back => first.2 (second.1.trans back)⟩⟩
  have irreflexive : Std.Irrefl fun id next : { id // id ∈ content.events.ids } =>
      content.Upstream id next :=
    ⟨fun _ upstream => upstream.2 upstream.1⟩
  exact Finite.wellFounded_of_trans_of_irrefl _

/-- An unreached event comes from an origin when a path leads to it from an unreached event that is
warned of or lies on a circle. -/
def HasOrigin (content : Content) (id : String) : Prop :=
  ∃ origin, ¬content.Reached origin ∧
    (.neverReached origin ∈ content.warnings ∨ TransGen content.Leads origin origin) ∧
    TransGen content.Leads origin id

theorem HasOrigin.tail (traced : content.HasOrigin source) (link : content.Leads source id) :
    content.HasOrigin id := by
  obtain ⟨origin, unreached, starts, path⟩ := traced
  exact ⟨origin, unreached, starts, path.tail link⟩

/-- The induction goes upstream. Where it would not go further up, the event before lies on a circle
with this one. -/
theorem hasOrigin_of_unreached (arrivable : content.nodes.isEmpty = false)
    (known : id ∈ content.events.ids) (unwarned : .neverReached id ∉ content.warnings)
    (unreached : ¬content.Reached id) : content.HasOrigin id := by
  have traced (event : { id // id ∈ content.events.ids }) :
      .neverReached event.1 ∉ content.warnings → ¬content.Reached event.1 →
        content.HasOrigin event.1 := by
    induction event using (upstream_wellFounded content).induction with
    | _ event earlier =>
      intro unwarned unreached
      have named : content.Begins event.1 ∨ ∃ source, content.Leads source event.1 := by
        by_contra unnamed
        exact unwarned ((neverReached_mem_warnings_iff arrivable).mpr ⟨event.2, unnamed⟩)
      obtain begins | ⟨source, link⟩ := named
      · exact absurd begins.reached unreached
      have sourceUnreached : ¬content.Reached source := fun reached =>
        unreached (reached.trans (.single link))
      by_cases warned : .neverReached source ∈ content.warnings
      · exact ⟨source, sourceUnreached, .inl warned, .single link⟩
      by_cases back : TransGen content.Leads event.1 source
      · exact ⟨source, sourceUnreached, .inr (.head link back), .single link⟩
      · exact (earlier ⟨source, link.mem_ids⟩ ⟨.single link, back⟩ warned
          sourceUnreached).tail link
  exact traced ⟨id, known⟩ unwarned unreached

theorem HasOrigin.named (traced : content.HasOrigin id) : ∃ source, content.Leads source id := by
  obtain ⟨_, -, -, path⟩ := traced
  obtain ⟨source, -, link⟩ := TransGen.tail'_iff.mp path
  exact ⟨source, link⟩

/-- Where there are nodes, just those events are warned of that no node, item or event names. The
others are the events that are reached and those with an origin. They are all reached exactly when
everything is that a path leads to from an event that is warned of or from a circle. -/
theorem unwarned_events_traced (content : Content) (arrivable : content.nodes.isEmpty = false) :
    (∀ id ∈ content.events.ids, .neverReached id ∈ content.warnings ↔
      ¬content.Begins id ∧ ∀ source, ¬content.Leads source id) ∧
    (∀ id ∈ content.events.ids, .neverReached id ∉ content.warnings ↔
      content.Reached id ∨ content.HasOrigin id) ∧
    ((∀ id ∈ content.events.ids, .neverReached id ∉ content.warnings → content.Reached id) ↔
      ∀ origin, .neverReached origin ∈ content.warnings ∨ TransGen content.Leads origin origin →
        ∀ id ∈ content.events.ids, TransGen content.Leads origin id → content.Reached id) := by
  refine ⟨?_, ?_, ?_, ?_⟩
  · intro id known
    rw [neverReached_mem_warnings_iff arrivable, not_or, not_exists, and_iff_right known]
  · intro id known
    constructor
    · intro unwarned
      by_cases reached : content.Reached id
      · exact .inl reached
      · exact .inr (hasOrigin_of_unreached arrivable known unwarned reached)
    · rintro (reached | traced)
      · exact unwarned_of_named arrivable reached.named
      · exact unwarned_of_named arrivable (.inr traced.named)
  · intro complete origin _ id known path
    obtain ⟨source, -, link⟩ := TransGen.tail'_iff.mp path
    exact complete id known (unwarned_of_named arrivable (.inr ⟨source, link⟩))
  · intro downstream id known unwarned
    by_contra unreached
    obtain ⟨origin, -, starts, path⟩ := hasOrigin_of_unreached arrivable known unwarned unreached
    exact unreached (downstream origin starts id known path)

end Content

/-- This event has one option, which chains to the target. -/
def wayEvent (id target : String) : Event where
  id := id
  name := "N"
  description := "D"
  options := [{
    displayText := "T"
    resolutionText := "R"
    order := 1
    displayCost := false
    conditions := []
    costs := []
    effects := []
    nextEvent := some target }]

/-- The shore is the only node. An event can be forced there. -/
def shoreContent (forced : Option String) (events : List Event) : Content where
  paths := ⟨"events", none, some "nodes"⟩
  context := .neutral
  events := ⟨events⟩
  items := .empty
  nodes := ⟨[{
    kind := "shore"
    name := "N"
    description := "D"
    art := ""
    neighbours := .empty
    forcedEvent := forced
    pool := [] }]⟩

/-- The market is reached from the landing, as is the landing from the market. -/
theorem Content.unwarned_events_traced_market :
    let content :=
      shoreContent (some "landing") [wayEvent "landing" "market", wayEvent "market" "landing"]
    content.nodes.isEmpty = false ∧ "market" ∈ content.events.ids ∧
      .neverReached "market" ∉ content.warnings := by
  intro content
  have arrivable : content.nodes.isEmpty = false := rfl
  have known : "market" ∈ content.events.ids := by decide
  have landing : content.Begins "landing" := .inl ⟨_, List.mem_singleton_self _, by decide⟩
  have onward : content.Leads "landing" "market" :=
    ⟨_, List.mem_cons_self, rfl, _, List.mem_singleton_self _, .inl rfl⟩
  obtain ⟨-, unwarned, -⟩ := unwarned_events_traced content arrivable
  exact ⟨arrivable, known, (unwarned "market" known).mpr (.inl ⟨"landing", landing, .single onward⟩)⟩

/-- Nothing happens at this shore, and the echo leads only to itself. -/
def echoTree : FileTree where
  directories := [["nodes"], ["events"]]
  files := [
    (["nodes", "shore.ron"], "(Kind:\"shore\",Name:\"N\",Description:\"D\")".toUTF8),
    (["events", "echo.ron"],
      ("(Id:\"echo\",Name:\"N\",Description:\"D\",Options:[" ++
        "(DisplayText:\"T\",ResolutionText:\"R\",Order:1,NextEventId:\"echo\")])").toUTF8)]

/-- The echo is not warned of, since it names itself, but no path leads to it. -/
theorem Content.echo_unreached :
    let content := shoreContent none [wayEvent "echo" "echo"]
    Content.load echoTree (.ofRoot echoTree "") .neutral = .ok content ∧
      "echo" ∈ content.events.ids ∧ content.warnings = [] ∧ ¬content.Reached "echo" := by
  intro content
  refine ⟨by decide +kernel, by decide, by decide, ?_⟩
  rintro ⟨first, begins, -⟩
  simp [Begins, content, shoreContent, Catalog.empty, Node.eventIds] at begins

end Gamebook
