import OpsSwitchd.VrfOps

set_option autoImplicit false

namespace OpsSwitchd

def hwNexthop (calls : List OfprotoCall) (family : RouteFamily) (pfx : String) (id : NhId) : Option NhState :=
  (hwRoute calls family pfx).bind (fun table => table id)

section Owned

variable (env : Env) (vrf : Vrf) (calls : List OfprotoCall) (route : Route)

theorem hw_nexthop_elsewhere (action : RouteAction) (ref : RouteRef)
    (ofp : List OfprotoNexthop) (family : RouteFamily) (pfx : String) (different : ¬ refAt ref family pfx) (id : NhId) :
    hwNexthop (calls ++ routeRequest action ref ofp) family pfx id = hwNexthop calls family pfx id := by
  rw [hwNexthop, hw_route_elsewhere calls action ref ofp family pfx different, hwNexthop]

theorem hw_nexthop_add (ref : RouteRef) (ofp : List OfprotoNexthop)
    (held : ∀ entry ∈ ofp, entry = heldNexthop vrf entry.nh) (id : NhId) :
    hwNexthop (calls ++ routeRequest .add ref ofp) (routeFamily ref.isIpv6) ref.pfx id =
      if id ∈ ofp.map OfprotoNexthop.nh then some (heldState vrf id)
      else hwNexthop calls (routeFamily ref.isIpv6) ref.pfx id := by
  by_cases empty : ofp = []
  · subst empty
    rw [hwNexthop, hw_route_nothing]
    rfl
  · rw [hwNexthop, hw_route_add_held vrf calls ref ofp empty held, Option.bind_some, hwNexthop]
    cases hwRoute calls (routeFamily ref.isIpv6) ref.pfx <;> rfl

theorem hw_nexthop_delete (ref : RouteRef) (ofp : List OfprotoNexthop) (sent : ofp ≠ [])
    (id : NhId) : hwNexthop (calls ++ routeRequest .delete ref ofp) (routeFamily ref.isIpv6) ref.pfx id = none := by
  rw [hwNexthop, hw_route_delete calls ref ofp sent]
  rfl

def modifySent (env : Env) (vrf : Vrf) (route : Route) (row : RouteRow) : List OfprotoNexthop :=
  sentNexthops (row.nexthops.length > 1) vrf (freshNhs env route row)

theorem hw_nexthop_modify (row : RouteRow) (id : NhId) :
    hwNexthop (vrf.up.calls ++ modifiedRequests env vrf route row) (routeFamily route.self.isIpv6) route.self.pfx id =
      if id ∈ (modifySent env vrf route row).map OfprotoNexthop.nh then some (heldState vrf id)
      else if id ∈ goneIds env route row then none
      else hwNexthop vrf.up.calls (routeFamily route.self.isIpv6) route.self.pfx id := by
  have goneMap : ((goneNexthops env route row).map (fun nh => heldNexthop vrf (nhId nh))).map OfprotoNexthop.nh =
      goneIds env route row := by
    simp [goneIds]
  have held := held_entries vrf (modifySent env vrf route row) _ (sent_nexthops_held _ vrf (freshNhs env route row))
  rw [modifiedRequests, ← List.append_assoc, ← modifySent, hw_nexthop_add vrf _ route.self _ held]
  congr 1
  rw [hwNexthop, hw_route_delete_nh, goneMap, hwNexthop]
  cases hwRoute vrf.up.calls (routeFamily route.self.isIpv6) route.self.pfx with
  | none => exact (ite_self none).symm
  | some table => rfl

theorem hw_nexthop_update (target : NhId) (state : NhState)
    (family : RouteFamily) (pfx : String) (id : NhId) [Decidable (refAt route.self family pfx)] :
    hwNexthop (calls ++ [.l3RouteAction .add (ofprotoRoute route [⟨target, state⟩])]) family pfx id =
      if refAt route.self family pfx ∧ id = target then some state else hwNexthop calls family pfx id := by
  by_cases here : refAt route.self family pfx
  · obtain ⟨rfl, rfl⟩ := here
    have added := hw_route_add calls route.self [⟨target, state⟩] (by simp)
    rw [routeRequest, if_neg (by simp)] at added
    rw [hwNexthop, ofprotoRoute, added, Option.bind_some, List.foldl_cons, List.foldl_nil, upsertNexthop, hwNexthop]
    by_cases same : id = target
    · rw [if_pos same, if_pos ⟨⟨rfl, rfl⟩, same⟩]
    · rw [if_neg same, if_neg (fun both => same both.2)]
      cases hwRoute calls (routeFamily route.self.isIpv6) route.self.pfx <;> rfl
  · have skipped := hw_nexthop_elsewhere calls .add route.self [⟨target, state⟩] family pfx here id
    rw [if_neg (fun both => here both.1), ← skipped, routeRequest, if_neg (by simp)]
    rfl

theorem hw_nexthop_other_call (call : OfprotoCall)
    (host : ∀ action route, call ≠ .l3RouteAction action route) (family : RouteFamily) (pfx : String) (id : NhId) :
    hwNexthop (calls ++ [call]) family pfx id = hwNexthop calls family pfx id := by
  rw [hwNexthop, hw_route_append, hwNexthop, List.foldl_cons, List.foldl_nil]
  cases call with
  | l3RouteAction action route => exact absurd rfl (host action route)
  | _ => rfl

def UsesAddress (vrf : Vrf) (family : RouteFamily) (pfx : String) (ip : String) : Prop :=
  ∃ route ∈ vrf.allRoutes, refAt route.self family pfx ∧ ∃ nh ∈ route.nexthops, nh.ipAddr = some ip

theorem route_at_owner (cache : RouteCache vrf) (route : Route) (member : route ∈ vrf.allRoutes) (nh : Nexthop)
    (present : nh ∈ route.nexthops) : routeAt vrf nh.route = route := by
  have found := Keyed.lookup_of_mem routeAddr cache.addrs member
  rw [routeAt, cache.nexthops.owner route member nh present]
  exact (congrArg (fun answer => Option.getD answer _) found).trans rfl

theorem indexed_nexthop (cache : RouteCache vrf) (nh : Nexthop) :
    nh ∈ vrf.allNexthops ↔ nh.ipAddr.isSome ∧ ∃ route ∈ vrf.allRoutes, nh ∈ route.nexthops := by
  rw [cache.nexthops.index.mem_iff, List.mem_filter, cachedNexthops, List.mem_flatMap, and_comm]

theorem neighbor_call_uses (cache : RouteCache vrf) (ip : String) (nh : Nexthop) (listed : nh ∈ vrf.allNexthops)
    (address : nh.ipAddr = some ip) (family : RouteFamily) (pfx : String)
    (here : refAt (routeAt vrf nh.route).self family pfx) : UsesAddress vrf family pfx ip := by
  obtain ⟨_, route, member, present⟩ := (indexed_nexthop vrf cache nh).mp listed
  rw [route_at_owner vrf cache route member nh present] at here
  exact ⟨route, member, here, nh, present, address⟩

theorem neighbor_calls_programmed (cache : RouteCache vrf) (ip : String) (family : RouteFamily) (pfx : String)
    (id : NhId) (calls : List OfprotoCall) (fine : ∀ call ∈ calls, NeighborCall vrf ip call) (base : List OfprotoCall) :
    ((hwNexthop base family pfx id).isSome → (hwNexthop (base ++ calls) family pfx id).isSome) ∧
    ((hwNexthop (base ++ calls) family pfx id).isSome →
      (hwNexthop base family pfx id).isSome ∨ (id = ⟨.ipaddr, ip⟩ ∧ UsesAddress vrf family pfx ip)) := by
  classical
  induction calls generalizing base with
  | nil =>
      rw [List.append_nil]
      exact ⟨fun here => here, .inl⟩
  | cons call rest ih =>
      obtain ⟨grows, covered⟩ := ih (fun other member => fine other (by simp [member])) (base ++ [call])
      rw [List.append_assoc, List.singleton_append] at grows covered
      have step : ((hwNexthop base family pfx id).isSome → (hwNexthop (base ++ [call]) family pfx id).isSome) ∧
          ((hwNexthop (base ++ [call]) family pfx id).isSome →
            (hwNexthop base family pfx id).isSome ∨ (id = ⟨.ipaddr, ip⟩ ∧ UsesAddress vrf family pfx ip)) := by
        have allowed := fine call (by simp)
        cases call with
        | l3RouteAction action route =>
            obtain ⟨rfl, nh, listed, address, state, rfl⟩ := allowed
            rw [hw_nexthop_update]
            split
            case isTrue both =>
              exact ⟨fun _ => rfl, fun _ => .inr ⟨both.2, neighbor_call_uses vrf cache ip nh listed address family pfx both.1⟩⟩
            case isFalse => exact ⟨fun here => here, .inl⟩
        | _ =>
            rw [hw_nexthop_other_call base _ (by simp)]
            exact ⟨fun here => here, .inl⟩
      refine ⟨fun here => grows (step.1 here), fun here => ?_⟩
      rcases covered here with before | uses
      · exact step.2 before
      · exact .inr uses

structure HwOwned (vrf : Vrf) : Prop where
  cache : RouteCache vrf
  pfxs : Keyed.Unique routePfx vrf.allRoutes
  owned : ∀ family pfx id, (hwNexthop vrf.up.calls family pfx id).isSome →
    ∃ route ∈ vrf.allRoutes, refAt route.self family pfx ∧ ∃ nh ∈ route.nexthops, nhId nh = id

theorem same_pfx_route (owned : HwOwned vrf) (route other : Route) (member : route ∈ vrf.allRoutes)
    (present : other ∈ vrf.allRoutes) (same : refAt other.self (routeFamily route.self.isIpv6) route.self.pfx) :
    other = route :=
  Keyed.unique_mem_eq routePfx owned.pfxs present member same.2

theorem hw_owned_own (owned : HwOwned vrf) (route : Route) (member : route ∈ vrf.allRoutes) (id : NhId)
    (held : (hwNexthop vrf.up.calls (routeFamily route.self.isIpv6) route.self.pfx id).isSome) :
    ∃ nh ∈ route.nexthops, nhId nh = id := by
  obtain ⟨other, present, same, found⟩ := owned.owned _ _ id held
  rwa [same_pfx_route vrf owned route other member present same] at found

theorem hw_owned_start (row : VrfRow) : HwOwned (vrfCreate row) where
  cache := route_cache_start row
  pfxs := Keyed.unique_nil routePfx
  owned := fun _ _ _ held => nomatch held

theorem fresh_prefix_key (row : RouteRow) (fresh : ∀ route ∈ vrf.allRoutes, routePfx route ≠ row.pfx) :
    vrfRouteHashLookup vrf row = none :=
  (Keyed.lookup_none_iff routeKey).mpr (fun route member same => fresh route member (congrArg Prod.snd same))

theorem hw_owned_add (row : RouteRow) (apart : ∀ nh ∈ usableNhs row, NhRowApart env nh)
    (fresh : ∀ route ∈ vrf.allRoutes, routePfx route ≠ row.pfx) (owned : HwOwned vrf) :
    HwOwned (vrfRouteAdd env vrf row) := by
  have routes := route_add_routes env vrf row apart
  refine ⟨route_cache_add env vrf row apart (fresh_prefix_key vrf row fresh) owned.cache, ?_, ?_⟩
  · rw [routes]
    exact Keyed.unique_cons routePfx owned.pfxs fresh
  · intro family pfx id held
    rw [route_add_calls env vrf row apart] at held
    rw [routes]
    by_cases same : refAt (newRouteRef vrf row) family pfx
    · obtain ⟨rfl, rfl⟩ := same
      rw [hw_nexthop_add vrf _ _ _ (held_entries vrf _ _ (added_ofp_held vrf row))] at held
      refine ⟨addedRoute vrf row, by simp, ⟨rfl, rfl⟩, ?_⟩
      split at held
      · rename_i sent
        obtain ⟨entry, member, rfl⟩ := List.mem_map.mp sent
        obtain ⟨source, usable, rfl⟩ := added_ofp_held vrf row entry member
        obtain ⟨nh, present, id⟩ := (new_nexthops_has_id (newRouteRef vrf row) (vrf.nextAddr + 1) (usableNhs row)
          (usable_nhs_key row) (nhRowId source)).mpr ⟨source, usable, rfl⟩
        exact ⟨nh, List.mem_reverse.mpr present, by rw [id, held_nexthop_nh]⟩
      · obtain ⟨route, member, at_, _⟩ := owned.owned _ _ id held
        exact absurd at_.2 (fresh route member)
    · rw [hw_nexthop_elsewhere _ _ _ _ _ _ same] at held
      obtain ⟨route, member, found⟩ := owned.owned family pfx id held
      exact ⟨route, by simp [member], found⟩

theorem hw_owned_delete (member : route ∈ vrf.allRoutes) (owned : HwOwned vrf) :
    HwOwned (vrfRouteDelete env vrf route) := by
  refine ⟨route_cache_delete env vrf route member owned.cache, ?_, ?_⟩
  · rw [route_delete_routes]
    exact Keyed.unique_filter routePfx owned.pfxs _
  · intro family pfx id held
    rw [route_delete_calls] at held
    rw [route_delete_routes]
    by_cases same : refAt route.self family pfx
    · -- a route without nexthops is not deleted from the provider, which then holds nothing for it
      obtain ⟨rfl, rfl⟩ := same
      by_cases bare : route.nexthops = []
      · rw [(env.order.walk_eq_nil _).mpr bare, List.map_nil, hwNexthop, hw_route_nothing, ← hwNexthop] at held
        obtain ⟨nh, present, _⟩ := hw_owned_own vrf owned route member id held
        rw [bare] at present
        cases present
      · rw [hw_nexthop_delete _ _ _ (by simpa using bare)] at held
        cases held
    · rw [hw_nexthop_elsewhere _ _ _ _ _ _ same] at held
      obtain ⟨other, present, at_, found⟩ := owned.owned family pfx id held
      refine ⟨other, (Keyed.mem_remove routeAddr).mpr ⟨present, ?_⟩, at_, found⟩
      intro addrSame
      exact same (Keyed.unique_mem_eq routeAddr owned.cache.addrs present member addrSame ▸ at_)

theorem fresh_nhs_key (row : RouteRow) (nh : NexthopRow) (member : nh ∈ freshNhs env route row) :
    (nhRowKey nh).isSome := by
  have walked := (env.order.mem_walk _ _).mp (List.mem_filter.mp member).1
  exact usable_nhs_key row nh (current_idl_nhs_usable row nh walked)

theorem modify_sent_fresh (row : RouteRow) (id : NhId) (sent : id ∈ (modifySent env vrf route row).map OfprotoNexthop.nh) :
    ∃ nh ∈ (modifiedRoute env vrf route row).nexthops, nhId nh = id := by
  obtain ⟨entry, member, rfl⟩ := List.mem_map.mp sent
  obtain ⟨source, fresh, rfl⟩ := sent_nexthops_held _ vrf (freshNhs env route row) entry member
  obtain ⟨nh, present, same⟩ := (new_nexthops_has_id route.self vrf.nextAddr (freshNhs env route row)
    (fresh_nhs_key env route row) (nhRowId source)).mpr ⟨source, fresh, rfl⟩
  exact ⟨nh, List.mem_append_left _ (List.mem_reverse.mpr present), by rw [same, held_nexthop_nh]⟩

theorem not_gone_kept (row : RouteRow) (nh : Nexthop) (member : nh ∈ route.nexthops)
    (stays : nhId nh ∉ goneIds env route row) : nh ∈ keptNexthops route row := by
  refine List.mem_filter.mpr ⟨member, ?_⟩
  by_contra unwanted
  refine stays (List.mem_map.mpr ⟨nh, List.mem_filter.mpr ⟨(env.order.mem_walk _ _).mpr member, ?_⟩, rfl⟩)
  simpa using unwanted

theorem hw_owned_modify (row : RouteRow)
    (apart : ∀ nh ∈ usableNhs row, NhRowApart env nh) (member : route ∈ vrf.allRoutes) (owned : HwOwned vrf) :
    HwOwned (vrfRouteModify env vrf route row) := by
  have one := route_cache_exclusive vrf owned.cache route member
  have addrs := route_cache_nexthop_addrs vrf owned.cache route member
  have routes := route_modify_routes env vrf route row apart one addrs
  refine ⟨route_cache_modify env vrf route row apart member owned.cache, ?_, ?_⟩
  · rw [routes, Keyed.Unique, Keyed.map_replace routeAddr routePfx]
    · exact owned.pfxs
    · intro other present equal
      rw [Keyed.unique_mem_eq routeAddr owned.cache.addrs present member equal]
      rfl
  · intro family pfx id held
    rw [route_modify_calls env vrf route row apart one addrs] at held
    rw [routes]
    by_cases same : refAt route.self family pfx
    · refine ⟨modifiedRoute env vrf route row, (Keyed.mem_replace routeAddr).mpr (.inr ⟨route, member, rfl, rfl⟩), same, ?_⟩
      obtain ⟨rfl, rfl⟩ := same
      rw [hw_nexthop_modify] at held
      split at held
      case isTrue sent => exact modify_sent_fresh env vrf route row id sent
      case isFalse =>
        split at held
        case isTrue => cases held
        case isFalse stays =>
          obtain ⟨nh, present, rfl⟩ := hw_owned_own vrf owned route member id held
          exact ⟨nh, List.mem_append_right _ (not_gone_kept env route row nh present stays), rfl⟩
    · rw [hwNexthop, hw_route_modify_elsewhere env vrf route row family pfx same, ← hwNexthop] at held
      obtain ⟨other, present, at_, found⟩ := owned.owned family pfx id held
      refine ⟨other, (Keyed.mem_replace routeAddr).mpr (.inl ⟨present, ?_⟩), at_, found⟩
      intro addrSame
      exact same (Keyed.unique_mem_eq routeAddr owned.cache.addrs present member addrSame ▸ at_)

theorem route_cache_same (vrf after : Vrf) (routes : after.allRoutes = vrf.allRoutes)
    (nexthops : after.allNexthops = vrf.allNexthops) (addr : after.nextAddr = vrf.nextAddr) (cache : RouteCache vrf) :
    RouteCache after := by
  obtain ⟨keys, addrs, bound, index⟩ := cache
  refine ⟨?_, ?_, ?_, ?_⟩ <;> simp only [routes, nexthops, addr] <;> assumption

theorem exclusive_address_id (nh : Nexthop) (one : NhExclusive nh) (ip : String) (address : nh.ipAddr = some ip) :
    nhId nh = ⟨.ipaddr, ip⟩ := by
  have bare : nh.portName = none := by
    rw [NhExclusive, address] at one
    simpa using one
  rw [nhId, bare, address]
  rfl

theorem address_of_id (nh : Nexthop) (one : NhExclusive nh) (ip : String) (same : nhId nh = ⟨.ipaddr, ip⟩) :
    nh.ipAddr = some ip := by
  obtain ⟨addr, ipAddr, portName, route⟩ := nh
  cases portName with
  | some port => cases same
  | none =>
      cases ipAddr with
      | none => cases one
      | some address => exact congrArg (fun id : NhId => some id.id) same

theorem hw_owned_neighbor (vrf after : Vrf) (ip : String) (frame : NeighborFrame vrf after ip) (owned : HwOwned vrf) :
    HwOwned after := by
  obtain ⟨calls, neighbors, status, rows, rfl, fine⟩ := frame
  refine ⟨route_cache_same vrf _ rfl rfl rfl owned.cache, owned.pfxs, ?_⟩
  intro family pfx id held
  rcases (neighbor_calls_programmed vrf owned.cache ip family pfx id calls fine vrf.up.calls).2 held with before | uses
  · exact owned.owned family pfx id before
  · obtain ⟨rfl, route, member, at_, nh, present, address⟩ := uses
    exact ⟨route, member, at_, nh, present,
      exclusive_address_id nh (route_cache_exclusive vrf owned.cache route member nh present) ip address⟩

theorem hw_owned_step (input : Env × VrfOp) (owned : HwOwned vrf) (valid : RouteOpValid vrf input) :
    HwOwned (vrfStep vrf input) := by
  obtain ⟨env, op⟩ := input
  have kind := vrf_step_kind vrf env op
  generalize vrfStep vrf (env, op) = after at kind ⊢
  cases kind with
  | added row => exact hw_owned_add env vrf row valid.1 valid.2 owned
  | modified row route found => exact hw_owned_modify env vrf route row valid (Keyed.lookup_mem routeKey found) owned
  | deleted key route found => exact hw_owned_delete env vrf route (Keyed.lookup_mem routeKey found) owned
  | unmodified => exact owned
  | undeleted => exact owned
  | created row _ frame => exact hw_owned_neighbor vrf _ _ frame owned
  | changed row _ frame => exact hw_owned_neighbor vrf _ _ frame owned
  | withdrawn ip _ frame => exact hw_owned_neighbor vrf _ _ frame owned
  | ports ports => exact ⟨route_cache_same vrf _ rfl rfl rfl owned.cache, owned.pfxs, owned.owned⟩

end Owned

end OpsSwitchd
