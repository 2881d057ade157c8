import Switchboard.Http.Pattern
import Switchboard.Settings

/-!
# Routers

A router finds the route of a path. Its patterns are added one after the
other, and one that conflicts with an earlier one is refused.

The search goes through all patterns at once, piece by piece. It follows the
literal bytes of the path, and where they lead nowhere it comes back to the
last place where a pattern has something wider. It is given up at once where
nothing but a final slash is in the way, be it one too many or one too few.
-/

namespace Switchboard.Http

open Text

/-- What is left of some patterns, each with its route. -/
abbrev RouteTable := List (Pattern × Route)

namespace RouteTable

/-- What is left behind a piece. -/
def after (table : RouteTable) (piece : Piece) : RouteTable :=
  table.filterMap fun (pattern, route) =>
    match pattern with
    | [] => none
    | first :: rest => if first = piece then some (rest, route) else none

/-- The route whose pattern ends here. -/
def here? (table : RouteTable) : Option Route :=
  table.lookup []

/-- The route that takes all that is left of a path. -/
def remainder? (table : RouteTable) : Option Route :=
  (table.after .remainder).here?

/-- Whether all patterns go on with the same literal byte. -/
def isStraight (table : RouteTable) : Bool :=
  match table.head? with
  | some (.literal byte :: _, _) => (table.after (.literal byte)).length = table.length
  | _ => false

/-- Whether nothing but a slash is missing at the end of a path. -/
def lacksSlash (table : RouteTable) : Bool :=
  table.isStraight && (table.after (.literal Ascii.slash)).here?.isSome

end RouteTable

/-- How a search ends. -/
inductive Search
  | found (route : Route)
  /-- Nothing was found here, and wider patterns are to be tried. -/
  | missed
  /-- Nothing was found, and nothing else is to be tried. -/
  | refused
  deriving DecidableEq, Repr

namespace Search

/-- The route that was found. -/
def route? : Search → Option Route
  | found route => some route
  | missed | refused => none

/-- Try something else after a miss. -/
def orElse (first : Search) (second : Unit → Search) : Search :=
  match first with
  | missed => second ()
  | found _ | refused => first

/-- The end of a search at a final slash, which is not followed further. -/
def atSlash (table : RouteTable) : Search :=
  match (table.after (.literal Ascii.slash)).here? with
  | some route => found route
  | none => refused

/-- Search what is left of some patterns for what is left of a path. -/
def run (table : RouteTable) (path : Bytes) : Search :=
  match path with
  | [] =>
      match table.here? with
      | some route => found route
      | none => if table.lacksSlash then refused else missed
  | byte :: rest =>
      let next := table.after (.literal byte)
      let isFinalSlash := byte = Ascii.slash ∧ rest = [] ∧ ¬ table.isStraight
      let literally :=
        if next = [] then missed
        else if isFinalSlash then atSlash table
        else run next rest
      literally.orElse fun _ =>
        match table.remainder? with
        | some route => found route
        | none =>
            let wider := table.after .parameter
            if wider = [] then
              if isFinalSlash then refused else missed
            else
              match _segment : (byte :: rest).dropWhile (· ≠ Ascii.slash) with
              | [] => run wider []
              | _ :: [] => atSlash wider
              | slash :: more =>
                  let further := wider.after (.literal slash)
                  if further = [] then missed else run further more
termination_by path.length
decreasing_by
  · exact Nat.lt_succ_self _
  · exact Nat.succ_pos _
  · have shorter := (List.dropWhile_suffix (l := byte :: rest) (· ≠ Ascii.slash)).length_le
    rw [_segment] at shorter
    exact shorter

end Search

/-- The patterns of the routes, in the order in which they were added. -/
structure Router where
  table : RouteTable := []
  deriving DecidableEq, Repr

namespace Router

/-- The patterns of a router. -/
def patterns (router : Router) : List Pattern :=
  router.table.map Prod.fst

/-- Check a pattern against the ones of a router. -/
def check (router : Router) (pattern : Pattern) : Except PatternError Unit :=
  if router.patterns.any fun other => pattern.conflicts other then
    .error .conflict
  else if pattern.stem?.all fun stem => stem.admitsRemainder router.patterns then
    .ok ()
  else
    .error .detachedRemainder

/-- Add a route under a path. -/
def add (router : Router) (path : String) (route : Route) : Except PatternError Router := do
  let pattern ← Pattern.read path
  router.check pattern
  return { table := router.table ++ [(pattern, route)] }

/-- The router of some settings. -/
def ofSettings (settings : Settings) : Except PatternError Router :=
  [Route.websocket, .liveness, .readiness].foldlM
    (fun router route => router.add (settings.path route) route) {}

/-- The route of a path. -/
def find? (router : Router) (path : String) : Option Route :=
  (Search.run router.table (utf8 path)).route?

end Router

end Switchboard.Http
