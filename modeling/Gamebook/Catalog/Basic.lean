/-
This file holds catalogs of events, items and nodes.
A catalog lists its entries in the order in which they were loaded, no two with the same id.
A catalog is only made when every reference between its own entries is resolved.
-/

import Gamebook.Catalog.Error

namespace Gamebook

/-- An entry has an id and refers to other entries of its own kind. -/
class CatalogEntry (A : Type) where
  kind : ContentKind
  id : A → String
  /-- This is the first reference that leads to no known id. -/
  dangling? : (String → Bool) → A → Option LoadError

structure Catalog (A : Type) where
  entries : List A
  deriving DecidableEq

namespace Catalog

variable {A : Type} [CatalogEntry A]

def empty : Catalog A := ⟨[]⟩

def size (catalog : Catalog A) : Nat :=
  catalog.entries.length

def isEmpty (catalog : Catalog A) : Bool :=
  catalog.entries.isEmpty

def ids (catalog : Catalog A) : List String :=
  catalog.entries.map CatalogEntry.id

def find? (catalog : Catalog A) (id : String) : Option A :=
  catalog.entries.find? fun entry => CatalogEntry.id entry == id

def contains (catalog : Catalog A) (id : String) : Bool :=
  (catalog.find? id).isSome

def get (catalog : Catalog A) (id : String) : Except LookupError A :=
  match catalog.find? id with
  | some entry => .ok entry
  | none => .error ⟨CatalogEntry.kind A, id⟩

/-- An entry whose id is already taken is refused. The path says where the entry came from. -/
def insert (catalog : Catalog A) (path : Option String) (entry : A) :
    Except LoadError (Catalog A) :=
  if catalog.contains (CatalogEntry.id entry) then
    .error (.duplicateId (CatalogEntry.kind A) (CatalogEntry.id entry) path)
  else .ok ⟨catalog.entries ++ [entry]⟩

def insertAll (catalog : Catalog A) : List A → Except LoadError (Catalog A)
  | [] => .ok catalog
  | entry :: rest =>
      match catalog.insert none entry with
      | .ok larger => larger.insertAll rest
      | .error error => .error error

/-- The first entry with a dangling reference decides. -/
def resolved (catalog : Catalog A) : Except LoadError (Catalog A) :=
  match catalog.entries.findSome? (CatalogEntry.dangling? catalog.contains) with
  | some error => .error error
  | none => .ok catalog

/-- References are only looked at when all ids are distinct. -/
def ofList (entries : List A) : Except LoadError (Catalog A) :=
  match Catalog.empty.insertAll entries with
  | .ok catalog => catalog.resolved
  | .error error => .error error

end Catalog

/-- An option must chain to an event that is loaded. -/
instance : CatalogEntry Event where
  kind := .event
  id := Event.id
  dangling? known event :=
    event.options.findSome? fun option =>
      match option.nextEvent with
      | none => none
      | some target =>
          if known target then none else some (.danglingChain event.id option.order target)

/-- An item must grant items that are loaded, so that its own effects can always be applied. -/
instance : CatalogEntry Item where
  kind := .item
  id := Item.id
  dangling? known item :=
    ((grantedItems item.effects).find? fun target => !known target).map
      (LoadError.unknownGrant item.id)

/-- The neighbours of a node must be loaded. -/
instance : CatalogEntry Node where
  kind := .node
  id := Node.kind
  dangling? known node :=
    (node.neighbours.kinds.find? fun kind => !known kind).map
      (LoadError.unknownNeighbour node.kind)

abbrev EventCatalog : Type := Catalog Event

abbrev ItemCatalog : Type := Catalog Item

abbrev NodeCatalog : Type := Catalog Node

/-- This is the event that the option chains to. -/
def Catalog.next? (events : EventCatalog) (option : EventOption) : Option Event :=
  option.nextEvent.bind events.find?

end Gamebook
