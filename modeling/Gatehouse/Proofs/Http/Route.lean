import Gatehouse.Http.Route
import Gatehouse.Proofs.Text.Split

/-! # Paths and routes

The path of a route consists of its parts, and a route is found under its own path only
(`Route.ofPath?_iff`).  The two names of an authorization can be any texts without a slash, but the
second one must not be empty. -/

namespace Gatehouse.Http.Route

/-- The parts of the route's path. -/
def parts : Route → List String
  | health => ["", "health"]
  | document => ["", "openapi.json"]
  | login => ["", "v1", "auth", "login"]
  | refresh => ["", "v1", "auth", "refresh"]
  | logout => ["", "v1", "auth", "logout"]
  | sessions => ["", "v1", "auth", "sessions"]
  | authorize m p => ["", "v1", "auth", "authorize", m, p]

/-- The names in the route can be written in a path. -/
def Writable : Route → Prop
  | authorize m p => '/' ∉ m.toList ∧ '/' ∉ p.toList ∧ p ≠ ""
  | _ => True

variable {path : String} {route : Route}

theorem parts_ne_nil (route : Route) : route.parts ≠ [] := by
  cases route <;> exact List.cons_ne_nil _ _

theorem writable_iff : route.Writable ↔
    (∀ part ∈ route.parts, '/' ∉ part.toList) ∧ ∀ m p, route = authorize m p → p ≠ "" := by
  cases route with
  | authorize m p => simp [Writable, parts, and_assoc]
  | _ => simp [Writable, parts]

/-- The route of a path is the one whose parts are those of the path. -/
theorem ofPath?_eq_some_iff : ofPath? path = some route ↔
    path.splitOn "/" = route.parts ∧ ∀ m p, route = authorize m p → p ≠ "" := by
  unfold ofPath?
  constructor
  · intro h
    split at h
    case h_7 m p hparts =>
      split at h
      · cases h
      · next hp =>
        cases h
        refine ⟨hparts, ?_⟩
        rintro _ _ ⟨⟩
        simpa using hp
    case h_8 => cases h
    all_goals
      next hparts =>
        cases h
        exact ⟨hparts, fun _ _ h => nomatch h⟩
  · rintro ⟨hparts, hp⟩
    rw [hparts]
    cases route with
    | authorize m p => simpa [parts] using hp m p rfl
    | _ => rfl

/-- **Paths of routes.**  A path leads to a route if and only if it is the one that the parts of the
route make up, and the names in it can be written. -/
theorem ofPath?_iff : ofPath? path = some route ↔
    path = "/".intercalate route.parts ∧ route.Writable := by
  rw [ofPath?_eq_some_iff, writable_iff, ← and_assoc]
  exact and_congr_left fun _ => Text.splitOn_eq_iff route.parts_ne_nil

end Gatehouse.Http.Route
