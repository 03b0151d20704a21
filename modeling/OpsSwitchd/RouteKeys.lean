import OpsSwitchd.RouteBatch
import OpsSwitchd.CText
import Mathlib.Data.List.Find

set_option autoImplicit false

namespace OpsSwitchd

def vrfRouteHashMaxsize : Nat := 64

-- The prefix and the protocol are short enough for the buffer of a hash string,
-- which also takes the colon and the terminator.
structure RouteKeyFits (from_ pfx : String) : Prop where
  plain : ':' ∉ from_.toList
  short : pfx.length ≤ 49
  size : from_.length + 1 + pfx.length + 1 ≤ vrfRouteHashMaxsize

theorem route_hash_whole (from_ pfx : String) (fits : RouteKeyFits from_ pfx) :
    vrfRouteHash from_ pfx = from_.toList ++ ':' :: pfx.toList := by
  have size := fits.size
  refine List.take_of_length_le ?_
  rw [List.length_append, List.length_cons, String.length_toList, String.length_toList]
  unfold vrfRouteHashMaxsize at size
  omega

theorem route_hash_inj (from_ pfx other otherPfx : String) (fits : RouteKeyFits from_ pfx)
    (otherFits : RouteKeyFits other otherPfx) (same : vrfRouteHash from_ pfx = vrfRouteHash other otherPfx) :
    (from_, pfx) = (other, otherPfx) := by
  rw [route_hash_whole from_ pfx fits, route_hash_whole other otherPfx otherFits] at same
  have first (text rest : List Char) (plain : ':' ∉ text) :=
    CText.takeWhile_free [':'] text (':' :: rest) (fun c member => by
      rw [List.mem_singleton]
      exact fun colon => plain (colon ▸ member)) (by simp)
  obtain ⟨fromTaken, fromLeft⟩ := first from_.toList pfx.toList fits.plain
  obtain ⟨otherTaken, otherLeft⟩ := first other.toList otherPfx.toList otherFits.plain
  have froms : from_.toList = other.toList := by rw [← fromTaken, same, otherTaken]
  have rests : ':' :: pfx.toList = ':' :: otherPfx.toList := by rw [← fromLeft, same, otherLeft]
  rw [String.toList_inj.mp froms, String.toList_inj.mp (List.cons.inj rests).2]

structure RoutesFit (vrf : Vrf) (rows : List RouteRow) : Prop where
  rows : ∀ row ∈ rows, RouteKeyFits row.from_ row.pfx
  cached : ∀ route ∈ vrf.allRoutes, RouteKeyFits route.self.from_ route.self.pfx

def routeHash (route : Route) : List Char := vrfRouteHash route.self.from_ route.self.pfx

theorem fitting_row_key (row other : RouteRow) (fits : RouteKeyFits row.from_ row.pfx)
    (otherFits : RouteKeyFits other.from_ other.pfx) (same : routeRowHash row = routeRowHash other) :
    routeRowKey row = routeRowKey other :=
  route_hash_inj row.from_ row.pfx other.from_ other.pfx fits otherFits same

theorem fitting_route_key_iff (route : Route) (row : RouteRow) (fits : RouteKeyFits route.self.from_ route.self.pfx)
    (rowFits : RouteKeyFits row.from_ row.pfx) : routeHash route = routeRowHash row ↔ routeKey route = routeRowKey row := by
  constructor
  · exact route_hash_inj route.self.from_ route.self.pfx row.from_ row.pfx fits rowFits
  · intro same
    obtain ⟨froms, prefixes⟩ := Prod.mk.inj same
    unfold routeHash routeRowHash
    rw [froms, prefixes]

theorem fitting_hashes_apart (vrf : Vrf) (rows : List RouteRow) (fit : RoutesFit vrf rows) :
    HashesApart vrf.name vrf rows := by
  have listed (row : RouteRow) (member : row ∈ selectedRows vrf.name rows) : RouteKeyFits row.from_ row.pfx :=
    fit.rows row ((selected_rows_mem vrf.name rows row).mp member).1
  refine ⟨fun row left other right same => ?_, fun route cached row member same => ?_⟩
  · exact fitting_row_key row other (listed row left) (listed other right) same
  · exact (fitting_route_key_iff route row (fit.cached route cached) (listed row member)).mp same

theorem selected_row_kept (vrf : Vrf) (rows : List RouteRow) (fit : RoutesFit vrf rows) (row : RouteRow)
    (member : row ∈ selectedRows vrf.name rows) :
    ∃ kept, Keyed.lookup routeRowHash (routeRowHash row) (currentIdlRoutes vrf rows) = some kept ∧
      routeRowKey kept = routeRowKey row := by
  have present : (Keyed.lookup routeRowHash (routeRowHash row) (selectedRows vrf.name rows)).isSome :=
    (Keyed.lookup_some_iff_exists routeRowHash).mpr ⟨row, member, rfl⟩
  obtain ⟨kept, found⟩ := Option.isSome_iff_exists.mp present
  refine ⟨kept, by rw [current_idl_routes_eq, Keyed.lookup_collect, found], ?_⟩
  exact (fitting_hashes_apart vrf rows fit).selected kept (Keyed.lookup_mem routeRowHash found) row member
    (Keyed.lookup_key routeRowHash found)

theorem cached_route_found_iff (vrf : Vrf) (rows : List RouteRow) (fit : RoutesFit vrf rows) (route : Route)
    (member : route ∈ vrf.allRoutes) :
    (Keyed.lookup routeRowHash (routeHash route) (currentIdlRoutes vrf rows)).isSome ↔
      ∃ row ∈ rows, vrf.name = row.vrf ∧ vrfIsRouteRowSelected row = true ∧ routeRowKey row = routeKey route := by
  have collected := collected_hash_isSome vrf.name vrf rows (fitting_hashes_apart vrf rows fit) route member
  rw [current_idl_routes_eq, routeHash, collected, wantedRow, Keyed.lookup_some_iff_exists]
  simp only [selected_rows_mem, and_assoc]

theorem hash_lookup_agrees (vrf : Vrf) (rows : List RouteRow) (fit : RoutesFit vrf rows) (row : RouteRow) (member : row ∈ rows) :
    Keyed.lookup routeHash (routeRowHash row) vrf.allRoutes = vrfRouteHashLookup vrf row := by
  refine List.find?_congr (fun route cached => ?_)
  have same := fitting_route_key_iff route row (fit.cached route cached) (fit.rows row member)
  simpa using same

theorem route_keys_identify (vrf : Vrf) (rows : List RouteRow) (fit : RoutesFit vrf rows) :
    (∀ from_ pfx other otherPfx, RouteKeyFits from_ pfx → RouteKeyFits other otherPfx →
      vrfRouteHash from_ pfx = vrfRouteHash other otherPfx → from_ = other ∧ pfx = otherPfx) ∧
    (∀ row ∈ rows, vrf.name = row.vrf → vrfIsRouteRowSelected row = true →
      ∃ kept, Keyed.lookup routeRowHash (routeRowHash row) (currentIdlRoutes vrf rows) = some kept ∧
        kept.from_ = row.from_ ∧ kept.pfx = row.pfx) ∧
    (∀ route ∈ vrf.allRoutes, (Keyed.lookup routeRowHash (routeHash route) (currentIdlRoutes vrf rows)).isSome ↔
      ∃ row ∈ rows, vrf.name = row.vrf ∧ vrfIsRouteRowSelected row = true ∧ row.from_ = route.self.from_ ∧
        row.pfx = route.self.pfx) ∧
    ∀ row ∈ rows, Keyed.lookup routeHash (routeRowHash row) vrf.allRoutes = vrfRouteHashLookup vrf row := by
  refine ⟨?_, ?_, ?_, hash_lookup_agrees vrf rows fit⟩
  · intro from_ pfx other otherPfx fits otherFits same
    exact Prod.mk.inj (route_hash_inj from_ pfx other otherPfx fits otherFits same)
  · intro row member own selected
    obtain ⟨kept, found, same⟩ := selected_row_kept vrf rows fit row
      ((selected_rows_mem vrf.name rows row).mpr ⟨member, own, selected⟩)
    exact ⟨kept, found, Prod.mk.inj same⟩
  · intro route cached
    rw [cached_route_found_iff vrf rows fit route cached]
    simp only [routeRowKey, routeKey, Prod.mk.injEq]

def ipv6Row : RouteRow := ⟨1, "vrf_default", "BGP", "2001:db8::/32", some "ipv6", some true, [], false, false⟩

def ipv6Route : Route := ⟨⟨0, "2001:db8::/32", "BGP", true⟩, [], 1⟩

def ipv6Vrf : Vrf := { vrfCreate ⟨"vrf_default", []⟩ with allRoutes := [ipv6Route] }

theorem ipv6_route_found :
    (Keyed.lookup routeRowHash (routeHash ipv6Route) (currentIdlRoutes ipv6Vrf [ipv6Row])).isSome = true := by
  have fits : RouteKeyFits "BGP" "2001:db8::/32" := ⟨by decide, by decide, by decide⟩
  have fit : RoutesFit ipv6Vrf [ipv6Row] := by
    refine ⟨fun row member => ?_, fun route member => ?_⟩
    · rw [List.mem_singleton.mp member]
      exact fits
    · rw [List.mem_singleton.mp member]
      exact fits
  exact ((route_keys_identify ipv6Vrf [ipv6Row] fit).2.2.1 ipv6Route List.mem_cons_self).mpr
    ⟨ipv6Row, List.mem_cons_self, rfl, rfl, rfl, rfl⟩

end OpsSwitchd
