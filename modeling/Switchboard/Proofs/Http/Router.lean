import Mathlib.Data.List.Nodup
import Switchboard.Http.Router
import Switchboard.Proofs.Text.Utf8

/-!
# Routes under plain paths

A path without markers is a pattern of literal bytes. Such patterns conflict
only when they are the same, so routes can be added as long as their paths
differ. The search follows the bytes of a path and finds its route, even where
the path ends in a slash.
-/

namespace Switchboard.Http

open Text

variable {path : String} {route : Route} {bytes : Bytes}

/-- The path has neither a colon nor an asterisk. -/
def IsPlain (path : String) : Prop :=
  ∀ byte ∈ utf8 path, Pattern.isMarker byte = false

namespace Pattern

variable {pattern other : Pattern}

/-- The pattern that is written with the given bytes and no markers. -/
def ofBytes (bytes : Bytes) : Pattern :=
  bytes.map .literal

theorem ofBytes_injective {first second : Bytes} (same : ofBytes first = ofBytes second) :
    first = second :=
  (List.map_inj_right fun _ _ => Piece.literal.inj).mp same

theorem pieces_eq_ok (plain : ∀ byte ∈ bytes, isMarker byte = false) :
    pieces bytes = .ok (ofBytes bytes) := by
  induction bytes with
  | nil =>
      rw [pieces]
      rfl
  | cons byte rest ih =>
      rw [List.forall_mem_cons] at plain
      rw [pieces, if_neg (by rw [plain.1]; decide), ih plain.2]
      rfl

theorem read_eq_ok (plain : IsPlain path) (absolute : path.toList.head? = some '/') :
    read path = .ok (ofBytes (utf8 path)) := by
  have slashed : (utf8 path).head? = some Ascii.slash := by
    obtain ⟨rest, spelled⟩ := List.head?_eq_some_iff.mp absolute
    rw [utf8_eq_flatMap, spelled]
    rfl
  have unparametrized : (ofBytes (utf8 path)).count .parameter = 0 := by
    rw [List.count_eq_zero, ofBytes, List.mem_map]
    rintro ⟨byte, _, same⟩
    contradiction
  rw [read, if_pos slashed, pieces_eq_ok plain]
  dsimp only
  rw [unparametrized, if_neg (Nat.not_lt_zero _)]

@[simp]
theorem conflicts_nil : conflicts [] [] = true :=
  rfl

@[simp]
theorem conflicts_nil_cons {piece : Piece} : conflicts [] (piece :: other) = false :=
  rfl

@[simp]
theorem conflicts_cons_nil {piece : Piece} : conflicts (piece :: pattern) [] = false := by
  cases piece <;> rfl

@[simp]
theorem conflicts_literal_cons {byte next : UInt8} :
    conflicts (.literal byte :: pattern) (.literal next :: other) =
      (byte = next && pattern.conflicts other) :=
  rfl

@[simp]
theorem conflicts_parameter_cons :
    conflicts (.parameter :: pattern) (.parameter :: other) = pattern.conflicts other :=
  rfl

theorem conflicts_self (pattern : Pattern) : pattern.conflicts pattern = true := by
  induction pattern with
  | nil => rfl
  | cons piece rest ih =>
      cases piece with
      | literal byte => rw [conflicts_literal_cons, ih, decide_eq_true rfl, Bool.and_self]
      | parameter => rw [conflicts_parameter_cons, ih]
      | remainder => rfl

theorem conflicts_ofBytes_iff {first second : Bytes} :
    (ofBytes first).conflicts (ofBytes second) = true ↔ first = second := by
  induction first generalizing second with
  | nil => cases second <;> simp [ofBytes]
  | cons byte rest ih =>
      cases second with
      | nil => simp [ofBytes]
      | cons next later =>
          have behind := @ih later
          simp_all [ofBytes]

theorem stem?_ofBytes (bytes : Bytes) : (ofBytes bytes).stem? = none := by
  rw [stem?, if_neg]
  rw [ofBytes, List.getLast?_map, Option.map_eq_some_iff]
  rintro ⟨byte, _, same⟩
  contradiction

end Pattern

/-! ## Adding routes -/

namespace Router

variable {router next : Router} {settings : Settings} {routes : List Route}

theorem add_eq_ok_iff :
    router.add path route = .ok next ↔
      ∃ pattern, Pattern.read path = .ok pattern ∧ router.check pattern = .ok () ∧
        next = { table := router.table ++ [(pattern, route)] } := by
  rw [add]
  cases Pattern.read path with
  | error error => simp [bind, Except.bind]
  | ok pattern =>
      cases checked : router.check pattern with
      | error error => simp [bind, Except.bind, checked]
      | ok => simp [bind, Except.bind, checked, pure, Except.pure, eq_comm]

theorem conflicts_of_check {pattern other : Pattern} (checked : router.check pattern = .ok ())
    (known : other ∈ router.patterns) : pattern.conflicts other = false := by
  rw [check] at checked
  split at checked
  · contradiction
  · rename_i apart
    rw [Bool.not_eq_true, List.any_eq_false] at apart
    exact Bool.eq_false_iff.mpr (apart other known)

/-- The routes have been added under their paths. -/
def Holds (settings : Settings) (routes : List Route) (router : Router) : Prop :=
  ∀ route ∈ routes, ∃ pattern ∈ router.patterns, Pattern.read (settings.path route) = .ok pattern

theorem Holds.add {pattern : Pattern} (holds : router.Holds settings routes)
    (read : Pattern.read (settings.path route) = .ok pattern) :
    Holds settings (routes ++ [route]) { table := router.table ++ [(pattern, route)] } := by
  intro known listed
  rw [patterns, List.map_append]
  rcases List.mem_append.mp listed with earlier | last
  · obtain ⟨found, inTable, readKnown⟩ := holds known earlier
    exact ⟨found, List.mem_append_left _ inTable, readKnown⟩
  · cases List.mem_singleton.mp last
    exact ⟨pattern, List.mem_append_right _ (List.mem_singleton_self _), read⟩

/-- No two routes can be added under the same path, whatever is written in it. -/
theorem nodup_of_foldlM {later : List Route} (holds : router.Holds settings routes)
    (distinct : (routes.map settings.path).Nodup)
    (added : later.foldlM (fun router route => router.add (settings.path route) route) router =
      .ok next) :
    ((routes ++ later).map settings.path).Nodup := by
  induction later generalizing routes router with
  | nil =>
      rw [List.append_nil]
      exact distinct
  | cons route rest ih =>
      rw [List.foldlM_cons] at added
      cases first : router.add (settings.path route) route with
      | error error =>
          rw [first] at added
          contradiction
      | ok extended =>
          rw [first] at added
          obtain ⟨pattern, read, checked, rfl⟩ := add_eq_ok_iff.mp first
          have isNew : settings.path route ∉ routes.map settings.path := by
            intro listed
            obtain ⟨known, inRoutes, samePath⟩ := List.mem_map.mp listed
            obtain ⟨other, inTable, readKnown⟩ := holds known inRoutes
            rw [samePath, read] at readKnown
            have apart := conflicts_of_check checked inTable
            rw [← Except.ok.inj readKnown, Pattern.conflicts_self] at apart
            contradiction
          have extendedDistinct : ((routes ++ [route]).map settings.path).Nodup := by
            rw [List.map_append, List.map_singleton]
            exact List.nodup_append.mpr ⟨distinct, List.nodup_singleton _, fun known listed other
              isLast same => isNew (List.mem_singleton.mp isLast ▸ same ▸ listed)⟩
          have whole := ih (holds.add read) extendedDistinct added
          rwa [List.append_assoc, List.singleton_append] at whole

/-- A router can only be made if the paths differ. -/
theorem path_injective_of_ofSettings (made : ofSettings settings = .ok router) :
    Function.Injective settings.path := by
  have nobody : Holds settings [] {} := nofun
  have distinct : ([Route.websocket, .liveness, .readiness].map settings.path).Nodup :=
    nodup_of_foldlM nobody List.nodup_nil made
  have listed (route : Route) : route ∈ [Route.websocket, .liveness, .readiness] := by
    cases route <;> decide
  intro first second same
  exact List.inj_on_of_nodup_map distinct (listed first) (listed second) same

/-! ## Plain paths -/

/-- The routes under their paths, which have no markers. -/
def plainTable (settings : Settings) (routes : List Route) : RouteTable :=
  routes.map fun route => (.ofBytes (utf8 (settings.path route)), route)

theorem add_plainTable (plain : IsPlain (settings.path route))
    (absolute : (settings.path route).toList.head? = some '/')
    (isNew : ∀ known ∈ routes, settings.path known ≠ settings.path route) :
    add { table := plainTable settings routes } (settings.path route) route =
      .ok { table := plainTable settings (routes ++ [route]) } := by
  have apart : ∀ other ∈ patterns { table := plainTable settings routes },
      (Pattern.ofBytes (utf8 (settings.path route))).conflicts other = false := by
    intro other listed
    obtain ⟨entry, inTable, rfl⟩ := List.mem_map.mp listed
    obtain ⟨known, inRoutes, rfl⟩ := List.mem_map.mp inTable
    rw [Bool.eq_false_iff, ne_eq, Pattern.conflicts_ofBytes_iff, utf8_inj]
    exact (isNew known inRoutes).symm
  have checked : check { table := plainTable settings routes }
      (.ofBytes (utf8 (settings.path route))) = .ok () := by
    rw [check, if_neg, Pattern.stem?_ofBytes, Option.all_none, if_pos rfl]
    rw [Bool.not_eq_true, List.any_eq_false]
    intro other listed
    rw [apart other listed]
    decide
  apply add_eq_ok_iff.mpr
  refine ⟨_, Pattern.read_eq_ok plain absolute, checked, ?_⟩
  rw [plainTable, plainTable, List.map_append, List.map_singleton]

/-- Routes under different plain paths can be added one after the other. -/
theorem foldlM_plainTable {later : List Route} (plain : ∀ route, IsPlain (settings.path route))
    (absolute : ∀ route, (settings.path route).toList.head? = some '/')
    (distinct : Function.Injective settings.path) (once : (routes ++ later).Nodup) :
    later.foldlM (fun (router : Router) route => router.add (settings.path route) route)
        { table := plainTable settings routes } =
      .ok { table := plainTable settings (routes ++ later) } := by
  induction later generalizing routes with
  | nil =>
      rw [List.append_nil]
      rfl
  | cons route rest ih =>
      have isNew : ∀ known ∈ routes, settings.path known ≠ settings.path route := by
        intro known listed same
        have apart := (List.nodup_append.mp once).2.2 known listed route List.mem_cons_self
        exact apart (distinct same)
      have behind : routes ++ route :: rest = (routes ++ [route]) ++ rest := by
        rw [List.append_assoc, List.singleton_append]
      rw [behind] at once ⊢
      rw [List.foldlM_cons, add_plainTable (plain route) (absolute route) isNew]
      exact ih once

theorem ofSettings_eq_ok (plain : ∀ route, IsPlain (settings.path route))
    (absolute : ∀ route, (settings.path route).toList.head? = some '/')
    (distinct : Function.Injective settings.path) :
    ofSettings settings =
      .ok { table := plainTable settings [.websocket, .liveness, .readiness] } := by
  have once : ([] ++ [Route.websocket, .liveness, .readiness]).Nodup := by decide
  exact foldlM_plainTable plain absolute distinct once

end Router

/-! ## Searching -/

namespace RouteTable

/-- All patterns are made of literal bytes, and each has one route only. -/
structure IsPlain (table : RouteTable) : Prop where
  literal : ∀ {pattern route}, (pattern, route) ∈ table → ∃ bytes, pattern = .ofBytes bytes
  single : ∀ {pattern route other}, (pattern, route) ∈ table → (pattern, other) ∈ table →
    route = other

variable {table : RouteTable} {byte : UInt8}

theorem mem_after_iff {piece : Piece} {pattern : Pattern} :
    (pattern, route) ∈ table.after piece ↔ (piece :: pattern, route) ∈ table := by
  rw [after, List.mem_filterMap]
  constructor
  · rintro ⟨⟨whole, known⟩, listed, isAfter⟩
    cases whole with
    | nil => contradiction
    | cons first rest =>
        dsimp only at isAfter
        split at isAfter
        · rename_i same
          cases isAfter
          exact same ▸ listed
        · contradiction
  · intro listed
    exact ⟨_, listed, if_pos rfl⟩

namespace IsPlain

theorem after (plain : table.IsPlain) (byte : UInt8) : (table.after (.literal byte)).IsPlain where
  literal listed := by
    obtain ⟨bytes, written⟩ := plain.literal (mem_after_iff.mp listed)
    cases bytes with
    | nil => contradiction
    | cons first rest => exact ⟨rest, (List.cons.inj written).2⟩
  single listed also := plain.single (mem_after_iff.mp listed) (mem_after_iff.mp also)

theorem here?_eq_some (plain : table.IsPlain) (listed : ([], route) ∈ table) :
    table.here? = some route := by
  rw [here?]
  cases found : table.lookup [] with
  | none =>
      have absent := List.lookup_eq_none_iff.mp found _ listed
      contradiction
  | some other =>
      obtain ⟨earlier, later, rfl, _⟩ := List.lookup_eq_some_iff.mp found
      have also : (([] : Pattern), other) ∈ earlier ++ ([], other) :: later := by simp
      rw [plain.single listed also]

end IsPlain

end RouteTable

theorem Router.isPlain_plainTable {settings : Settings}
    (distinct : Function.Injective settings.path) (routes : List Route) :
    (Router.plainTable settings routes).IsPlain where
  literal listed := by
    obtain ⟨known, _, same⟩ := List.mem_map.mp listed
    exact ⟨_, (Prod.mk.inj same).1.symm⟩
  single listed also := by
    obtain ⟨first, _, same⟩ := List.mem_map.mp listed
    obtain ⟨second, _, alsoSame⟩ := List.mem_map.mp also
    obtain ⟨pattern, rfl⟩ := Prod.mk.inj same
    obtain ⟨alsoPattern, rfl⟩ := Prod.mk.inj alsoSame
    have samePath := Pattern.ofBytes_injective (pattern.trans alsoPattern.symm)
    exact distinct (utf8_injective samePath)

/-- The route of a pattern of literal bytes is found under these bytes. -/
theorem Search.run_eq_found {table : RouteTable} (plain : table.IsPlain)
    (listed : (Pattern.ofBytes bytes, route) ∈ table) : run table bytes = .found route := by
  induction bytes generalizing table with
  | nil =>
      rw [run, plain.here?_eq_some listed]
  | cons byte rest ih =>
      have further : (Pattern.ofBytes rest, route) ∈ table.after (.literal byte) :=
        RouteTable.mem_after_iff.mpr listed
      have someFurther : table.after (.literal byte) ≠ [] := List.ne_nil_of_mem further
      rw [run]
      dsimp only
      rw [if_neg someFurther]
      split
      · rename_i isFinal
        obtain ⟨rfl, rfl, _⟩ := isFinal
        rw [atSlash, (plain.after Ascii.slash).here?_eq_some further]
        rfl
      · rw [ih (plain.after byte) further]
        rfl

/-- Every route is found under its plain path. -/
theorem Router.find?_path {settings : Settings} (distinct : Function.Injective settings.path)
    {routes : List Route} (listed : route ∈ routes) :
    find? { table := plainTable settings routes } (settings.path route) = some route := by
  have inTable : (Pattern.ofBytes (utf8 (settings.path route)), route) ∈
      plainTable settings routes := List.mem_map_of_mem listed
  rw [find?, Search.run_eq_found (isPlain_plainTable distinct routes) inTable, Search.route?]

end Switchboard.Http
