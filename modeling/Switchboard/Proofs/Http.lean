import Switchboard.Http
import Switchboard.Proofs.Http.Router

/-!
# Requests for a path

What a request asks for is the path in its target, which ends where a query or a
fragment begins. A path in which neither begins is found again in such targets,
so requests for it are served by its route.
-/

namespace Switchboard.Http

namespace Target

variable {path query : String}

/-- The text is empty, or begins with a query or a fragment. -/
def IsBehindPath (text : String) : Prop :=
  text.toList.head?.all endsPath = true

theorem beforeQuery_append {characters rest : List Char}
    (whole : characters.any endsPath = false) (behind : rest.head?.all endsPath = true) :
    beforeQuery (characters ++ rest) = characters := by
  have kept : ∀ character ∈ characters, (!endsPath character) = true := by
    intro character listed
    rw [Bool.eq_false_iff.mpr (List.any_eq_false.mp whole character listed)]
    rfl
  have stops : rest.takeWhile (fun character => !endsPath character) = [] := by
    cases rest with
    | nil => rfl
    | cons first later =>
        have ends : endsPath first = true := behind
        rw [List.takeWhile_cons, ends]
        rfl
  rw [beforeQuery, List.takeWhile_append_of_pos kept, stops, List.append_nil]

/-- The path of a target is what stands before its query and its fragment. -/
theorem path_append (absolute : path.toList.head? = some '/')
    (whole : path.toList.any endsPath = false) (behind : IsBehindPath query) :
    Target.path (path ++ query) = path := by
  obtain ⟨rest, spelled⟩ := List.head?_eq_some_iff.mp absolute
  have wholeRest : rest.any endsPath = false := by
    rw [spelled, List.any_cons, Bool.or_eq_false_iff] at whole
    exact whole.2
  have written : (path ++ query).toList = '/' :: (rest ++ query.toList) := by
    rw [String.toList_append, spelled, List.cons_append]
  rw [Target.path, written]
  change String.ofList ('/' :: beforeQuery (rest ++ query.toList)) = path
  rw [beforeQuery_append wholeRest behind, ← spelled, String.ofList_toList]

end Target

/-- The request asks for a path, perhaps with a query or a fragment behind it. -/
def Request.IsFor (request : Request) (path : String) : Prop :=
  ∃ query, Target.IsBehindPath query ∧ request.target = path ++ query

variable {path : String} {router : Router} {request : Request} {found : Route}

/-- A request is served by the route of the path that it asks for. -/
theorem route_eq_serve (isFor : request.IsFor path) (absolute : path.toList.head? = some '/')
    (whole : path.toList.any Target.endsPath = false) (leads : router.find? path = some found)
    (exchange : Exchange) :
    route router exchange request = serve exchange request found := by
  obtain ⟨query, behind, target⟩ := isFor
  have samePath : request.path = path := by
    rw [Request.path, target, Target.path_append absolute whole behind]
  rw [route, samePath, leads]

end Switchboard.Http
