/-
This file shows that the order of its entries does not decide whether a catalog can be made.
It can be made when the ids are distinct and every target is one of them. What is found in it under an
id is the one entry with that id, wherever that entry was listed.
-/

import Gamebook.Proofs.Catalog.References
import Gamebook.Proofs.Catalog.Shelf

namespace Gamebook

/-- These are the events that the options of an event chain to. -/
def Event.chains (event : Event) : List String :=
  event.options.filterMap EventOption.nextEvent

/-- These are the items that the effects of an item grant. -/
def Item.grants (item : Item) : List String :=
  grantedItems item.effects

/-- These are the kinds of the nodes next to a node. -/
def Node.roads (node : Node) : List String :=
  node.neighbours.kinds

namespace Catalog

section

variable {A : Type} [CatalogEntry A]

/-- The targets of an entry are the ids that must be known for it not to dangle. -/
def TargetsOf (targets : A → List String) : Prop :=
  ∀ known entry, CatalogEntry.dangling? known entry = none ↔
    ∀ target ∈ targets entry, known target = true

/-- Entries fit together when no two have the same id and every target is the id of one of them. -/
structure FitTogether (targets : A → List String) (entries : List A) : Prop where
  distinct : (entries.map CatalogEntry.id).Nodup
  closed : ∀ entry ∈ entries, ∀ target ∈ targets entry,
    ∃ other ∈ entries, CatalogEntry.id other = target

/-- The same entries in another order make a catalog exactly when these do. What is found in the two
catalogs is the same, by a scan and by the indexes that grow with every entry. -/
structure IgnoresOrder (targets : A → List String) (entries permuted : List A) : Prop where
  made_iff : (∃ catalog, ofList entries = .ok catalog) ↔ FitTogether targets entries
  permuted_iff : (∃ catalog, ofList permuted = .ok catalog) ↔ ∃ catalog, ofList entries = .ok catalog
  found : ∀ catalog reordered, ofList entries = .ok catalog → ofList permuted = .ok reordered →
    ∀ id, reordered.find? id = catalog.find? id
  shelved : ∀ catalog, ofList entries = .ok catalog → ∃ shelf reordered,
    Shelf.empty.insertAll entries = .ok shelf ∧ Shelf.empty.insertAll permuted = .ok reordered ∧
      ∀ id, shelf.find? id = catalog.find? id ∧ reordered.find? id = catalog.find? id

theorem entries_of_insertAll {catalog larger : Catalog A} {added : List A}
    (inserted : catalog.insertAll added = .ok larger) : larger = ⟨catalog.entries ++ added⟩ := by
  induction added generalizing catalog with
  | nil =>
      cases inserted
      rw [List.append_nil]
  | cons entry rest inductionHypothesis =>
      rw [insertAll] at inserted
      split at inserted
      next first firstInserted =>
        obtain ⟨-, rfl⟩ := insert_eq_ok_iff.mp firstInserted
        rw [inductionHypothesis inserted, List.append_assoc]
        rfl
      next => cases inserted

/-- A catalog that is made from a list holds the list as it stands. -/
theorem ofList_eq_ok_iff {entries : List A} {catalog : Catalog A} :
    ofList entries = .ok catalog ↔ catalog = ⟨entries⟩ ∧ catalog.Sound := by
  constructor
  · intro made
    have sound := sound_of_ofList made
    rw [ofList] at made
    split at made
    next larger inserted =>
      obtain ⟨rfl, -⟩ := resolved_eq_ok_iff.mp made
      exact ⟨entries_of_insertAll inserted, sound⟩
    next => cases made
  · rintro ⟨rfl, sound⟩
    have inserted : Catalog.empty.insertAll entries = .ok ⟨entries⟩ :=
      insertAll_of_distinct sound.distinct
    rw [ofList, inserted]
    exact resolved_eq_ok_iff.mpr ⟨rfl, sound.closed⟩

theorem exists_ofList_iff {entries : List A} :
    (∃ catalog, ofList entries = .ok catalog) ↔ (⟨entries⟩ : Catalog A).Sound := by
  simp only [ofList_eq_ok_iff]
  exact ⟨fun ⟨catalog, same, sound⟩ => same ▸ sound, fun sound => ⟨_, rfl, sound⟩⟩

/-- What is found under an id does not depend on where it is listed. -/
theorem find?_of_perm {entries permuted : List A} (same : entries.Perm permuted)
    (distinct : (⟨entries⟩ : Catalog A).ids.Nodup) (id : String) :
    (⟨permuted⟩ : Catalog A).find? id = (⟨entries⟩ : Catalog A).find? id := by
  have permutedDistinct : (⟨permuted⟩ : Catalog A).ids.Nodup :=
    (same.map CatalogEntry.id).nodup_iff.mp distinct
  refine Option.ext fun entry => ?_
  rw [find?_eq_some_iff distinct, find?_eq_some_iff permutedDistinct, same.mem_iff]

theorem contains_of_perm {entries permuted : List A} (same : entries.Perm permuted) :
    (⟨permuted⟩ : Catalog A).contains = (⟨entries⟩ : Catalog A).contains := by
  funext id
  rw [Bool.eq_iff_iff, contains_iff, contains_iff]
  simp only [same.mem_iff]

theorem Sound.of_perm {entries permuted : List A} (same : entries.Perm permuted)
    (sound : (⟨entries⟩ : Catalog A).Sound) : (⟨permuted⟩ : Catalog A).Sound where
  distinct := (same.map CatalogEntry.id).nodup_iff.mp sound.distinct
  closed entry listed := by
    rw [contains_of_perm same]
    exact sound.closed entry (same.mem_iff.mpr listed)

section

variable {targets : A → List String} (resolves : TargetsOf targets)

include resolves

/-- A sound catalog is a list of entries that fit together. -/
theorem sound_iff_fitTogether {entries : List A} :
    (⟨entries⟩ : Catalog A).Sound ↔ FitTogether targets entries := by
  have closed_iff : ∀ entry : A,
      CatalogEntry.dangling? (⟨entries⟩ : Catalog A).contains entry = none ↔
        ∀ target ∈ targets entry, ∃ other ∈ entries, CatalogEntry.id other = target := by
    intro entry
    rw [resolves]
    simp only [contains_iff]
  constructor
  · intro sound
    exact ⟨sound.distinct, fun entry listed => (closed_iff entry).mp (sound.closed entry listed)⟩
  · intro fit
    exact ⟨fit.distinct, fun entry listed => (closed_iff entry).mpr (fit.closed entry listed)⟩

theorem ignoresOrder {entries permuted : List A} (same : entries.Perm permuted) :
    IgnoresOrder targets entries permuted where
  made_iff := exists_ofList_iff.trans (sound_iff_fitTogether resolves)
  permuted_iff := by
    rw [exists_ofList_iff, exists_ofList_iff]
    exact ⟨Sound.of_perm same.symm, Sound.of_perm same⟩
  found catalog reordered made remade := by
    obtain ⟨rfl, sound⟩ := ofList_eq_ok_iff.mp made
    obtain ⟨rfl, -⟩ := ofList_eq_ok_iff.mp remade
    exact find?_of_perm same sound.distinct
  shelved catalog made := by
    obtain ⟨rfl, sound⟩ := ofList_eq_ok_iff.mp made
    obtain ⟨shelf, filled, -, finds⟩ := exists_shelf sound.distinct
    obtain ⟨reordered, refilled, -, refinds⟩ := exists_shelf (sound.of_perm same).distinct
    exact ⟨shelf, reordered, filled, refilled, fun id =>
      ⟨finds id, (refinds id).trans (find?_of_perm same sound.distinct id)⟩⟩

end

end

theorem targetsOf_chains : TargetsOf Event.chains := by
  intro known event
  rw [Event.dangling?_eq_none_iff]
  simp only [Event.chains, List.mem_filterMap]
  constructor
  · rintro resolved target ⟨option, owned, chained⟩
    exact resolved option owned target chained
  · intro resolved option owned target chained
    exact resolved target ⟨option, owned, chained⟩

theorem targetsOf_grants : TargetsOf Item.grants := by
  intro known item
  rw [Item.dangling?_eq_none_iff]
  simp only [Item.grants, mem_grantedItems]

theorem targetsOf_roads : TargetsOf Node.roads :=
  fun _ _ => Node.dangling?_eq_none_iff

/-- Events, items and nodes make a catalog in every order or in none. They make one when they fit
together, and then every order finds the same entries and the same next events. -/
theorem entries_in_any_order :
    (∀ events permuted : List Event, events.Perm permuted →
      IgnoresOrder Event.chains events permuted ∧
      ∀ catalog reordered, ofList events = .ok catalog → ofList permuted = .ok reordered →
        ∀ option, reordered.next? option = catalog.next? option) ∧
    (∀ items permuted : List Item, items.Perm permuted →
      IgnoresOrder Item.grants items permuted) ∧
    ∀ nodes permuted : List Node, nodes.Perm permuted →
      IgnoresOrder Node.roads nodes permuted := by
  refine ⟨fun events permuted same => ?_, fun _ _ => ignoresOrder targetsOf_grants,
    fun _ _ => ignoresOrder targetsOf_roads⟩
  have ignores := ignoresOrder targetsOf_chains same
  refine ⟨ignores, fun catalog reordered made remade option => ?_⟩
  rw [next?, next?, funext (ignores.found catalog reordered made remade)]

/-- This event has one option, which chains to the target. -/
def onwardEvent (id target : String) : Event where
  id := id
  name := id
  description := ""
  options := [{
    displayText := "On"
    resolutionText := ""
    order := 1
    displayCost := false
    conditions := []
    costs := []
    effects := []
    nextEvent := some target }]

/-- Day and night chain to each other, so that one of them always refers to what is listed later. -/
theorem entries_in_any_order_day :
    let day := onwardEvent "day" "night"
    let night := onwardEvent "night" "day"
    [day, night].Perm [night, day] ∧ ofList [day, night] = .ok ⟨[day, night]⟩ ∧
      ofList [night, day] = .ok ⟨[night, day]⟩ ∧
      IgnoresOrder Event.chains [day, night] [night, day] ∧
      ∀ option, next? ⟨[night, day]⟩ option = next? ⟨[day, night]⟩ option := by
  intro day night
  have same : [day, night].Perm [night, day] := .swap night day []
  have made : ofList [day, night] = .ok ⟨[day, night]⟩ := by decide
  have remade : ofList [night, day] = .ok ⟨[night, day]⟩ := by decide
  obtain ⟨ignores, sameNext⟩ := entries_in_any_order.1 _ _ same
  exact ⟨same, made, remade, ignores, sameNext _ _ made remade⟩

end Catalog

end Gamebook
