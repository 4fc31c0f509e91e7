/-
This file joins many results into one so that no failure is lost.
Reading with it never stops at the first failure.
-/

namespace Gamebook

/-- The joined result holds all values, or else all failures in order. -/
def gather {E A : Type} : List (Except E A) → Except (List E) (List A)
  | [] => .ok []
  | .ok value :: rest =>
      match gather rest with
      | .ok values => .ok (value :: values)
      | .error failures => .error failures
  | .error failure :: rest =>
      match gather rest with
      | .ok _ => .error [failure]
      | .error failures => .error (failure :: failures)

/-- A result that succeeded has no failures. -/
def failures {E A : Type} : Except (List E) A → List E
  | .ok _ => []
  | .error found => found

theorem gather_eq_ok_iff {E A : Type} {results : List (Except E A)} {values : List A} :
    gather results = .ok values ↔ results = values.map .ok := by
  induction results generalizing values with
  | nil => cases values <;> simp [gather]
  | cons result rest inductionHypothesis =>
      cases result with
      | ok value =>
          cases joined : gather rest with
          | ok tail =>
              have known := inductionHypothesis.mp joined
              cases values with
              | nil => simp [gather, joined]
              | cons first others =>
                  have agree : rest = others.map .ok ↔ tail = others := by
                    rw [known]
                    exact ⟨fun same => (List.map_inj_right (by simp)).mp same, fun same => by rw [same]⟩
                  simp [gather, joined, agree]
          | error found =>
              cases values with
              | nil => simp [gather, joined]
              | cons first others =>
                  have refused : rest ≠ others.map .ok := fun same => by
                    have := inductionHypothesis.mpr same
                    simp [joined] at this
                  simp [gather, joined, refused]
      | error failure =>
          cases joined : gather rest <;> cases values <;> simp [gather, joined]

end Gamebook
