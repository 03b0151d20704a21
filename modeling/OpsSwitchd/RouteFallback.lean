import OpsSwitchd.HwOwned
import OpsSwitchd.RouteMove

set_option autoImplicit false

namespace OpsSwitchd

abbrev HasAddress (route : Route) : Prop := ∃ nh ∈ route.nexthops, nh.ipAddr.isSome

abbrev programmed (vrf : Vrf) (ref : RouteRef) (id : NhId) : Bool :=
  (hwNexthop vrf.up.calls (routeFamily ref.isIpv6) ref.pfx id).isSome

def RoutesProgrammed (vrf : Vrf) : Prop :=
  ∀ route ∈ vrf.allRoutes, HasAddress route → ∃ id, programmed vrf route.self id

def ModifyCovered (vrf : Vrf) (input : Env × VrfOp) : Prop :=
  match input.2 with
  | .routeModify row => ∀ route ∈ vrfRouteHashLookup vrf row,
      ((∃ nh ∈ keptNexthops route row, nh.ipAddr.isSome) ∨ ∃ nh ∈ freshNhs input.1 route row, nh.ipAddress.isSome) →
      (∃ nh ∈ keptNexthops route row, programmed vrf route.self (nhId nh)) ∨ modifySent input.1 vrf route row ≠ []
  | _ => True

instance (vrf : Vrf) (input : Env × VrfOp) : Decidable (ModifyCovered vrf input) := by
  obtain ⟨env, op⟩ := input
  cases op with
  | routeModify row => exact inferInstanceAs (Decidable (∀ route ∈ vrfRouteHashLookup vrf row, _))
  | _ => exact .isTrue trivial

theorem new_nexthop_address (ref : RouteRef) (addr : Nat) (row : NexthopRow) :
    (newNexthop ref addr row).ipAddr = row.ipAddress := by
  unfold newNexthop
  cases row.ipAddress <;> rfl

theorem new_nexthops_have_address (ref : RouteRef) (addr : Nat) (rows : List NexthopRow) :
    (∃ nh ∈ newNexthops ref addr rows, nh.ipAddr.isSome) ↔ ∃ row ∈ rows, row.ipAddress.isSome := by
  have addresses := new_nexthops_map ref Nexthop.ipAddr NexthopRow.ipAddress rows
    (fun at_ row _ => new_nexthop_address ref at_ row) addr
  have member := fun ip => iff_of_eq (congrArg (fun list => ip ∈ list) addresses)
  simp only [List.mem_map] at member
  constructor
  · rintro ⟨nh, present, some_⟩
    obtain ⟨row, listed, same⟩ := (member nh.ipAddr).mp ⟨nh, present, rfl⟩
    exact ⟨row, listed, same ▸ some_⟩
  · rintro ⟨row, listed, some_⟩
    obtain ⟨nh, present, same⟩ := (member row.ipAddress).mpr ⟨row, listed, rfl⟩
    exact ⟨nh, present, same ▸ some_⟩

theorem modified_has_address (env : Env) (vrf : Vrf) (route : Route) (row : RouteRow) :
    HasAddress (modifiedRoute env vrf route row) ↔
      (∃ nh ∈ keptNexthops route row, nh.ipAddr.isSome) ∨ ∃ nh ∈ freshNhs env route row, nh.ipAddress.isSome := by
  rw [← new_nexthops_have_address route.self vrf.nextAddr]
  simp only [HasAddress, modifiedRoute, List.mem_append, List.mem_reverse, or_and_right, exists_or]
  exact or_comm

theorem modified_programmed_iff (env : Env) (vrf : Vrf) (route : Route) (row : RouteRow) (owned : HwOwned vrf)
    (member : route ∈ vrf.allRoutes) :
    (∃ id, (hwNexthop (vrf.up.calls ++ modifiedRequests env vrf route row) (routeFamily route.self.isIpv6)
        route.self.pfx id).isSome) ↔
      (∃ nh ∈ keptNexthops route row, programmed vrf route.self (nhId nh)) ∨ modifySent env vrf route row ≠ [] := by
  have one := route_cache_exclusive vrf owned.cache route member
  simp only [hw_nexthop_modify]
  constructor
  · rintro ⟨id, held⟩
    split at held
    case isTrue sent =>
      obtain ⟨entry, listed, _⟩ := List.mem_map.mp sent
      exact .inr (List.ne_nil_of_mem listed)
    case isFalse =>
      split at held
      case isTrue => cases held
      case isFalse stays =>
        obtain ⟨nh, present, rfl⟩ := hw_owned_own vrf owned route member id held
        exact .inl ⟨nh, not_gone_kept env route row nh present stays, held⟩
  · rintro (⟨nh, kept, held⟩ | sent)
    · refine ⟨nhId nh, ?_⟩
      rw [if_neg (kept_not_gone env route row one nh kept)]
      split
      · rfl
      · exact held
    · obtain ⟨entry, listed⟩ := List.exists_mem_of_ne_nil _ sent
      exact ⟨entry.nh, by rw [if_pos (List.mem_map.mpr ⟨entry, listed, rfl⟩)]; rfl⟩

theorem ecmp_nexthops_sent (vrf : Vrf) (rows : List NexthopRow) (row : NexthopRow) (member : row ∈ rows)
    (address : row.ipAddress.isSome) : ecmpNexthops vrf rows ≠ [] := by
  unfold ecmpNexthops
  by_cases unresolved : rows.filterMap (fun row => resolvedNexthop vrf (nhRowId row)) = []
  · cases found : rows.find? (fun row => row.ipAddress.isSome) with
    | none => exact absurd address (List.find?_eq_none.mp found row member)
    | some first => simp [unresolved]
  · simp [unresolved]

theorem added_ofp_sent (vrf : Vrf) (row : RouteRow) (address : HasAddress (addedRoute vrf row)) : addedOfp vrf row ≠ [] := by
  have reversed : ∃ nh ∈ addedNexthops vrf row, nh.ipAddr.isSome := by
    simpa only [HasAddress, addedRoute, List.mem_reverse] using address
  obtain ⟨source, usable, ip⟩ := (new_nexthops_have_address _ _ _).mp reversed
  unfold addedOfp
  split
  · exact ecmp_nexthops_sent vrf (usableNhs row) source usable ip
  · simpa using List.ne_nil_of_mem usable

theorem programmed_add (env : Env) (vrf : Vrf) (row : RouteRow) (apart : ∀ nh ∈ usableNhs row, NhRowApart env nh)
    (fresh : ∀ route ∈ vrf.allRoutes, routePfx route ≠ row.pfx) (all : RoutesProgrammed vrf) :
    RoutesProgrammed (vrfRouteAdd env vrf row) := by
  intro route member address
  rw [route_add_routes env vrf row apart] at member
  simp only [programmed, route_add_calls env vrf row apart]
  rcases List.mem_cons.mp member with rfl | old
  · obtain ⟨entry, listed⟩ := List.exists_mem_of_ne_nil _ (added_ofp_sent vrf row address)
    refine ⟨entry.nh, ?_⟩
    have held := hw_nexthop_add vrf vrf.up.calls (newRouteRef vrf row) _ (held_entries vrf _ _ (added_ofp_held vrf row)) entry.nh
    rw [if_pos (List.mem_map.mpr ⟨entry, listed, rfl⟩)] at held
    exact congrArg Option.isSome held
  · obtain ⟨id, held⟩ := all route old address
    refine ⟨id, ?_⟩
    rwa [hw_nexthop_elsewhere _ _ _ _ _ _ (fun same => fresh route old same.2.symm)]

theorem programmed_delete (env : Env) (vrf : Vrf) (route : Route) (member : route ∈ vrf.allRoutes) (owned : HwOwned vrf)
    (all : RoutesProgrammed vrf) : RoutesProgrammed (vrfRouteDelete env vrf route) := by
  intro other present address
  rw [route_delete_routes] at present
  obtain ⟨old, addrDiffers⟩ := (Keyed.mem_remove routeAddr).mp present
  obtain ⟨id, held⟩ := all other old address
  refine ⟨id, ?_⟩
  rw [programmed, route_delete_calls, hw_nexthop_elsewhere]
  · exact held
  · intro same
    exact addrDiffers (congrArg routeAddr (same_pfx_route vrf owned other route old member same).symm)

theorem programmed_modify_iff (env : Env) (vrf : Vrf) (route : Route) (row : RouteRow)
    (apart : ∀ nh ∈ usableNhs row, NhRowApart env nh) (member : route ∈ vrf.allRoutes) (owned : HwOwned vrf)
    (all : RoutesProgrammed vrf) :
    RoutesProgrammed (vrfRouteModify env vrf route row) ↔
      (((∃ nh ∈ keptNexthops route row, nh.ipAddr.isSome) ∨ ∃ nh ∈ freshNhs env route row, nh.ipAddress.isSome) →
        (∃ nh ∈ keptNexthops route row, programmed vrf route.self (nhId nh)) ∨ modifySent env vrf route row ≠ []) := by
  have one := route_cache_exclusive vrf owned.cache route member
  have addrs := route_cache_nexthop_addrs vrf owned.cache route member
  have calls := route_modify_calls env vrf route row apart one addrs
  rw [← modified_has_address env vrf route row, ← modified_programmed_iff env vrf route row owned member, RoutesProgrammed,
    route_modify_routes env vrf route row apart one addrs]
  simp only [programmed, calls]
  constructor
  · intro after
    exact after (modifiedRoute env vrf route row) ((Keyed.mem_replace routeAddr).mpr (.inr ⟨route, member, rfl, rfl⟩))
  · intro covered other present address
    rcases (Keyed.mem_replace routeAddr).mp present with ⟨old, addrDiffers⟩ | ⟨_, _, _, rfl⟩
    · obtain ⟨id, held⟩ := all other old address
      refine ⟨id, ?_⟩
      rw [hwNexthop, hw_route_modify_elsewhere]
      · exact held
      · intro same
        exact addrDiffers (congrArg routeAddr (same_pfx_route vrf owned other route old member same).symm)
    · exact covered address

theorem programmed_neighbor (vrf after : Vrf) (ip : String) (frame : NeighborFrame vrf after ip) (owned : HwOwned vrf)
    (all : RoutesProgrammed vrf) : RoutesProgrammed after := by
  obtain ⟨calls, neighbors, status, rows, rfl, fine⟩ := frame
  intro route member address
  obtain ⟨id, held⟩ := all route member address
  exact ⟨id, (neighbor_calls_programmed vrf owned.cache ip _ _ id calls fine vrf.up.calls).1 held⟩

theorem programmed_step_iff (vrf : Vrf) (input : Env × VrfOp) (owned : HwOwned vrf) (all : RoutesProgrammed vrf)
    (valid : RouteOpValid vrf input) : RoutesProgrammed (vrfStep vrf input) ↔ ModifyCovered vrf input := by
  obtain ⟨env, op⟩ := input
  have kind := vrf_step_kind vrf env op
  generalize vrfStep vrf (env, op) = after at kind ⊢
  cases kind with
  | added row => exact iff_of_true (programmed_add env vrf row valid.1 valid.2 all) trivial
  | modified row route found =>
      have exact_ := programmed_modify_iff env vrf route row valid (Keyed.lookup_mem routeKey found) owned all
      simpa only [ModifyCovered, found, Option.mem_def, Option.some.injEq, forall_eq'] using exact_
  | unmodified row absent => simpa only [ModifyCovered, absent, Option.mem_def, reduceCtorEq, false_implies, implies_true,
      iff_true] using all
  | deleted key route found =>
      exact iff_of_true (programmed_delete env vrf route (Keyed.lookup_mem routeKey found) owned all) trivial
  | undeleted => exact iff_of_true all trivial
  | created row _ frame => exact iff_of_true (programmed_neighbor vrf _ _ frame owned all) trivial
  | changed row _ frame => exact iff_of_true (programmed_neighbor vrf _ _ frame owned all) trivial
  | withdrawn ip _ frame => exact iff_of_true (programmed_neighbor vrf _ _ frame owned all) trivial
  | ports => exact iff_of_true all trivial

theorem routes_programmed_iff_covered (row : VrfRow) (inputs : List (Env × VrfOp))
    (valid : Runs.Along vrfStep RouteOpValid (vrfCreate row) inputs) :
    Runs.Always vrfStep RoutesProgrammed (vrfCreate row) inputs ↔ Runs.Along vrfStep ModifyCovered (vrfCreate row) inputs := by
  have initial : HwOwned (vrfCreate row) ∧ RoutesProgrammed (vrfCreate row) :=
    ⟨hw_owned_start row, fun _ member => nomatch member⟩
  refine Runs.always_iff_along (fun vrf (inv : HwOwned vrf ∧ RoutesProgrammed vrf) => inv.2) ?_ ?_ initial valid
  · intro vrf input inv holds covered
    exact ⟨hw_owned_step vrf input inv.1 holds, (programmed_step_iff vrf input inv.1 inv.2 holds).mpr covered⟩
  · intro vrf input inv holds after
    exact (programmed_step_iff vrf input inv.1 inv.2 holds).mp after

def ecmpRow (ips : List String) : RouteRow :=
  ⟨1, "vrf_default", "static", "10.0.0.0/24", some "ipv4", some true,
    ips.mapIdx (fun index ip => nexthopVia (11 + index) ip), true, false⟩

def plainEnv : Env := routeEnv ⟨[], false, false, false⟩

theorem unresolved_set_keeps_one :
    Runs.Always vrfStep RoutesProgrammed (vrfCreate ⟨"vrf_default", []⟩)
      [(plainEnv, .routeAdd (ecmpRow ["1.1.1.1", "2.2.2.2"])), (plainEnv, .routeModify (ecmpRow ["1.1.1.1", "3.3.3.3"]))] := by
  refine (routes_programmed_iff_covered ⟨"vrf_default", []⟩ _ ?_).mpr ?_
  · simp only [Runs.along_cons, Runs.along_nil, and_true]
    decide
  · simp only [Runs.along_cons, Runs.along_nil, and_true]
    decide

theorem programmed_own (vrf : Vrf) (owned : HwOwned vrf) (all : RoutesProgrammed vrf) :
    ∀ route ∈ vrf.allRoutes, HasAddress route → ∃ nh ∈ route.nexthops, programmed vrf route.self (nhId nh) := by
  intro route member address
  obtain ⟨id, held⟩ := all route member address
  obtain ⟨nh, present, rfl⟩ := hw_owned_own vrf owned route member id held
  exact ⟨nh, present, held⟩

-- Neither nexthop is resolved, so the first one is programmed to copy to the
-- CPU. The modification removes it and sends nothing for the other two.
theorem replaced_placeholder_leaves_nothing :
    let inputs := [(plainEnv, VrfOp.routeAdd (ecmpRow ["1.1.1.1", "2.2.2.2"])),
      (plainEnv, VrfOp.routeModify (ecmpRow ["2.2.2.2", "3.3.3.3"]))]
    Runs.Along vrfStep RouteOpValid (vrfCreate ⟨"vrf_default", []⟩) inputs ∧
      ¬ RoutesProgrammed (Runs.run vrfStep (vrfCreate ⟨"vrf_default", []⟩) inputs) := by
  intro inputs
  have valid : Runs.Along vrfStep RouteOpValid (vrfCreate ⟨"vrf_default", []⟩) inputs := by
    simp only [inputs, Runs.along_cons, Runs.along_nil, and_true]
    decide
  refine ⟨valid, ?_⟩
  intro all
  have owned := Runs.invariant_always (fun vrf input => hw_owned_step vrf input) (hw_owned_start ⟨"vrf_default", []⟩) valid
    inputs [] (List.append_nil inputs).symm
  exact absurd (programmed_own _ owned all) (by decide)

end OpsSwitchd
