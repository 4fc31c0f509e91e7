/-
This file says what is looked up in a list of pairs. With distinct keys it is the value that is
paired with the key, wherever the pair is listed.
-/

import Mathlib.Data.List.Nodup

namespace Gamebook

section

variable {K V : Type} [BEq K] [LawfulBEq K]

theorem lookup_cons_eq_ite [DecidableEq K] (key : K) (pair : K × V) (rest : List (K × V)) :
    (pair :: rest).lookup key = if key = pair.1 then some pair.2 else rest.lookup key := by
  rw [List.lookup_cons]
  split
  next same => rw [if_pos (eq_of_beq same)]
  next apart => rw [if_neg (ne_of_beq_false apart)]

theorem mem_of_lookup_eq_some {pairs : List (K × V)} {key : K} {value : V}
    (found : pairs.lookup key = some value) : (key, value) ∈ pairs := by
  obtain ⟨before, after, rfl, -⟩ := List.lookup_eq_some_iff.mp found
  exact List.mem_append_right before List.mem_cons_self

theorem lookup_isSome_iff_mem {pairs : List (K × V)} {key : K} :
    (pairs.lookup key).isSome ↔ key ∈ pairs.map Prod.fst := by
  rw [List.lookup_isSome_iff, List.mem_map]
  exact exists_congr fun pair => and_congr_right fun _ => beq_iff_eq.trans eq_comm

theorem lookup_eq_some_iff_mem {pairs : List (K × V)}
    (distinct : (pairs.map Prod.fst).Nodup) {key : K} {value : V} :
    pairs.lookup key = some value ↔ (key, value) ∈ pairs := by
  refine ⟨mem_of_lookup_eq_some, fun listed => ?_⟩
  have known : (pairs.lookup key).isSome :=
    lookup_isSome_iff_mem.mpr (List.mem_map_of_mem listed)
  obtain ⟨other, found⟩ := Option.isSome_iff_exists.mp known
  have same : (key, other) = (key, value) :=
    List.inj_on_of_nodup_map distinct (mem_of_lookup_eq_some found) listed rfl
  rw [found, (Prod.mk.inj same).2]

theorem lookup_of_perm {pairs permuted : List (K × V)} (same : permuted.Perm pairs)
    (distinct : (pairs.map Prod.fst).Nodup) (key : K) :
    permuted.lookup key = pairs.lookup key := by
  have permutedDistinct : (permuted.map Prod.fst).Nodup :=
    (same.map Prod.fst).nodup_iff.mpr distinct
  refine Option.ext fun value => ?_
  rw [lookup_eq_some_iff_mem distinct, lookup_eq_some_iff_mem permutedDistinct, same.mem_iff]

end

end Gamebook
