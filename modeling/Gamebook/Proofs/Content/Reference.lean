/-
This file lists the references of content: every place in an entry that names another entry. The
checker reports the references of an entry that lead nowhere, one after the other, and the loader
stops at the first of them that it follows.
-/

import Gamebook.Content.Report
import Mathlib.Data.List.Basic
import Mathlib.Data.Option.Basic

namespace Gamebook

/-- A reference is a place in an entry that names an event, an item or a node. -/
inductive Reference where
  | chain (event : String) (order : Int32) (target : String)
  | carriedItem (owner : Owner) (item : String)
  | place (owner : Owner) (node : String)
  | grant (owner : Owner) (item : String)
  | trigger (owner : Owner) (event : String)
  | nodeEvent (node : String) (event : String)
  | neighbour (node : String) (kind : String)
  deriving DecidableEq

namespace Reference

/-- The target is of this kind. -/
def kind : Reference → ContentKind
  | chain _ _ _ => .event
  | carriedItem _ _ => .item
  | place _ _ => .node
  | grant _ _ => .item
  | trigger _ _ => .event
  | nodeEvent _ _ => .event
  | neighbour _ _ => .node

/-- This is the id that is named. -/
def target : Reference → String
  | chain _ _ target => target
  | carriedItem _ item => item
  | place _ node => node
  | grant _ item => item
  | trigger _ event => event
  | nodeEvent _ event => event
  | neighbour _ kind => kind

/-- These are the words of the checker for a reference that leads nowhere. -/
def problem : Reference → Problem
  | chain event order target => .load (.danglingChain event order target)
  | carriedItem owner item => .unknownCondition owner item
  | place owner node => .unknownPlace owner node
  | grant owner item => .unknownGrant owner item
  | trigger owner event => .unknownTrigger owner event
  | nodeEvent node event => .unknownNodeEvent node event
  | neighbour node kind => .load (.unknownNeighbour node kind)

/-- These are the words of the loader, which follows only the chains of events, the grants of items
and the neighbours of nodes. -/
def fault? : Reference → Option LoadError
  | chain event order target => some (.danglingChain event order target)
  | grant (.item item) target => some (.unknownGrant item target)
  | neighbour node kind => some (.unknownNeighbour node kind)
  | _ => none

/-- A problem tells which reference it is about. -/
theorem problem_injective : Function.Injective problem := by
  intro first second same
  cases first <;> cases second <;> simp_all [problem]

end Reference

/-- A condition refers to the item or the node that it asks for. -/
def Condition.reference? (owner : Owner) : Condition → Option Reference
  | .hasItem item => some (.carriedItem owner item)
  | .atNode kind => some (.place owner kind)
  | _ => none

/-- An effect refers to the item that it grants or the event that it triggers. -/
def Effect.reference? (owner : Owner) : Effect → Option Reference
  | .grantItem item => some (.grant owner item)
  | .triggerEvent event => some (.trigger owner event)
  | _ => none

/-- The chain of an option comes first, then its conditions, then its effects. -/
def EventOption.references (event : String) (option : EventOption) : List Reference :=
  option.nextEvent.toList.map (.chain event option.order) ++
    option.conditions.filterMap (Condition.reference? (.option event option.order)) ++
    option.effects.filterMap (Effect.reference? (.option event option.order))

def Event.references (event : Event) : List Reference :=
  event.options.flatMap (EventOption.references event.id)

/-- The effects on use come first, then those on equipping, then those on taking off. -/
def Item.references (item : Item) : List Reference :=
  (item.onUse ++ item.onEquip ++ item.onUnequip).filterMap (Effect.reference? (.item item.id))

/-- The forced event comes first, then the pool, then the neighbours. -/
def Node.references (node : Node) : List Reference :=
  (node.forcedEvent.toList ++ node.pool).map (.nodeEvent node.kind) ++
    node.neighbours.kinds.map (.neighbour node.kind)

namespace KnownIds

variable (known : KnownIds)

/-- These are the known ids of one kind of content. -/
def ofKind : ContentKind → List String
  | .event => known.events
  | .item => known.items
  | .node => known.nodes

/-- A reference is resolved when its target is known. -/
def resolves (reference : Reference) : Bool :=
  (known.ofKind reference.kind).contains reference.target

/-- These are the problems of the references that are not resolved. -/
def problemsOf (references : List Reference) : List Problem :=
  (references.filter fun reference => !known.resolves reference).map Reference.problem

theorem problemsOf_append (first second : List Reference) :
    known.problemsOf (first ++ second) = known.problemsOf first ++ known.problemsOf second := by
  rw [problemsOf, List.filter_append, List.map_append]
  rfl

theorem problemsOf_flatMap {A : Type} (entries : List A) (references : A → List Reference) :
    known.problemsOf (entries.flatMap references) =
      entries.flatMap fun entry => known.problemsOf (references entry) := by
  rw [problemsOf, List.filter_flatMap, List.map_flatMap]
  rfl

/-- Whatever refers at most once has the problem of its reference. -/
theorem problemsOf_filterMap {A : Type} {reference? : A → Option Reference}
    {problem? : A → Option Problem}
    (told : ∀ entry, problem? entry =
      ((reference? entry).filter fun reference => !known.resolves reference).map Reference.problem)
    (entries : List A) :
    known.problemsOf (entries.filterMap reference?) = entries.filterMap problem? := by
  rw [problemsOf, List.filter_filterMap, List.map_filterMap, funext told]

theorem conditionProblem?_eq (owner : Owner) (condition : Condition) :
    known.conditionProblem? owner condition =
      ((condition.reference? owner).filter fun reference => !known.resolves reference).map
        Reference.problem := by
  cases condition with
  | threshold stat minimum => rfl
  | hasTitle title => rfl
  | hasItem item =>
      simp only [conditionProblem?, Condition.reference?, Option.filter_some, resolves, ofKind,
        Reference.kind, Reference.target]
      cases known.items.contains item <;> rfl
  | atNode kind =>
      simp only [conditionProblem?, Condition.reference?, Option.filter_some, resolves, ofKind,
        Reference.kind, Reference.target]
      cases known.nodes.contains kind <;> rfl

theorem effectProblem?_eq (owner : Owner) (effect : Effect) :
    known.effectProblem? owner effect =
      ((effect.reference? owner).filter fun reference => !known.resolves reference).map
        Reference.problem := by
  cases effect with
  | statChange stat amount => rfl
  | changeTitle title => rfl
  | grantItem item =>
      simp only [effectProblem?, Effect.reference?, Option.filter_some, resolves, ofKind,
        Reference.kind, Reference.target]
      cases known.items.contains item <;> rfl
  | triggerEvent event =>
      simp only [effectProblem?, Effect.reference?, Option.filter_some, resolves, ofKind,
        Reference.kind, Reference.target]
      cases known.events.contains event <;> rfl

/-- Ids that are looked up one after the other have the problems of their references. -/
theorem problemsOf_map (ids : List String) (refer : String → Reference) :
    known.problemsOf (ids.map refer) =
      (ids.filter fun id => !known.resolves (refer id)).map fun id => (refer id).problem := by
  rw [problemsOf, List.filter_map, List.map_map]
  rfl

theorem optionProblems_eq (event : String) (option : EventOption) :
    known.optionProblems event option = known.problemsOf (option.references event) := by
  rw [EventOption.references, problemsOf_append, problemsOf_append, problemsOf_map,
    problemsOf_filterMap known (known.conditionProblem?_eq _),
    problemsOf_filterMap known (known.effectProblem?_eq _)]
  rfl

theorem eventProblems_eq (event : Event) :
    known.eventProblems event = known.problemsOf event.references := by
  rw [Event.references, problemsOf_flatMap, eventProblems]
  exact congrArg event.options.flatMap (funext fun option => known.optionProblems_eq event.id option)

theorem itemProblems_eq (item : Item) :
    known.itemProblems item = known.problemsOf item.references := by
  rw [Item.references, problemsOf_filterMap known (known.effectProblem?_eq _)]
  rfl

theorem nodeProblems_eq (node : Node) :
    known.nodeProblems node = known.problemsOf node.references := by
  rw [Node.references, problemsOf_append, problemsOf_map, problemsOf_map]
  rfl

end KnownIds

/-- This is what the loader says of a reference beside the entries with the known ids. -/
def Reference.faultBeside? (known : String → Bool) (reference : Reference) : Option LoadError :=
  if known reference.target then none else reference.fault?

/-- An entry lists its references, and the loader tells the first of them that it follows in vain. -/
class Referring (A : Type) [CatalogEntry A] where
  references : A → List Reference
  dangling?_eq : ∀ known entry,
    CatalogEntry.dangling? known entry = (references entry).findSome? (Reference.faultBeside? known)

section

variable {known : String → Bool}

theorem findSome?_flatMap {A B C : Type} (entries : List A) (listed : A → List B)
    (found? : B → Option C) :
    (entries.flatMap listed).findSome? found? =
      entries.findSome? fun entry => (listed entry).findSome? found? := by
  rw [← List.head?_filterMap, List.filterMap_flatMap, List.head?_flatMap]
  simp only [List.head?_filterMap]

theorem Reference.faultBeside?_eq_none_iff {reference : Reference} :
    reference.faultBeside? known = none ↔
      reference.fault? = none ∨ known reference.target = true := by
  rw [faultBeside?]
  split <;> simp_all

theorem Reference.faultBeside?_eq_some_iff {reference : Reference} {error : LoadError} :
    reference.faultBeside? known = some error ↔
      ¬known reference.target = true ∧ reference.fault? = some error := by
  rw [faultBeside?]
  split <;> simp_all

/-- References that the loader does not follow are never told. -/
theorem findSome?_of_unfollowed {references : List Reference}
    (unfollowed : ∀ reference ∈ references, reference.fault? = none) :
    references.findSome? (Reference.faultBeside? known) = none := by
  rw [List.findSome?_eq_none_iff]
  exact fun reference listed =>
    Reference.faultBeside?_eq_none_iff.mpr (.inl (unfollowed reference listed))

/-- The first unknown id is told in the words for it. -/
theorem findSome?_unknown (ids : List String) (tell : String → LoadError) :
    (ids.findSome? fun id => if known id then none else some (tell id)) =
      (ids.find? fun id => !known id).map tell := by
  induction ids with
  | nil => rfl
  | cons id rest inductionHypothesis =>
      rw [List.findSome?_cons, List.find?_cons, inductionHypothesis]
      cases known id <;> rfl

theorem EventOption.findSome?_references (event : String) (option : EventOption) :
    (option.references event).findSome? (Reference.faultBeside? known) =
      match option.nextEvent with
      | none => none
      | some target =>
          if known target then none else some (.danglingChain event option.order target) := by
  have conditions : (option.conditions.filterMap
      (Condition.reference? (.option event option.order))).findSome?
        (Reference.faultBeside? known) = none := by
    refine findSome?_of_unfollowed fun reference listed => ?_
    obtain ⟨condition, -, refers⟩ := List.mem_filterMap.mp listed
    cases condition <;> cases refers <;> rfl
  have effects : (option.effects.filterMap
      (Effect.reference? (.option event option.order))).findSome?
        (Reference.faultBeside? known) = none := by
    refine findSome?_of_unfollowed fun reference listed => ?_
    obtain ⟨effect, -, refers⟩ := List.mem_filterMap.mp listed
    cases effect <;> cases refers <;> rfl
  rw [EventOption.references, List.findSome?_append, List.findSome?_append, conditions, effects,
    Option.or_none, Option.or_none]
  cases option.nextEvent with
  | none => rfl
  | some target =>
      rw [Option.toList_some, List.map_singleton, List.findSome?_singleton]
      rfl

instance : Referring Event where
  references := Event.references
  dangling?_eq known event := by
    rw [Event.references, findSome?_flatMap]
    simp only [EventOption.findSome?_references]
    rfl

instance : Referring Item where
  references := Item.references
  dangling?_eq known item := by
    have granted : (item.references.filterMap (Reference.faultBeside? known)) =
        (grantedItems item.effects).filterMap fun target =>
          if known target then none else some (.unknownGrant item.id target) := by
      rw [Item.references, grantedItems, List.filterMap_filterMap, List.filterMap_filterMap]
      refine List.filterMap_congr fun effect _ => ?_
      cases effect with
      | statChange stat amount => rfl
      | changeTitle title => rfl
      | grantItem target => rfl
      | triggerEvent event => exact ite_self _
    rw [← List.head?_filterMap, granted, List.head?_filterMap, findSome?_unknown]
    rfl

instance : Referring Node where
  references := Node.references
  dangling?_eq known node := by
    have events : ((node.forcedEvent.toList ++ node.pool).map
        (Reference.nodeEvent node.kind)).findSome? (Reference.faultBeside? known) = none := by
      refine findSome?_of_unfollowed fun reference listed => ?_
      obtain ⟨event, -, rfl⟩ := List.mem_map.mp listed
      rfl
    rw [Node.references, List.findSome?_append, events, Option.none_or, List.findSome?_map]
    exact (findSome?_unknown _ _).symm

end

end Gamebook
