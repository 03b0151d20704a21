import OpsSwitchd.HwRoute
import OpsSwitchd.RouteBatch

set_option autoImplicit false

namespace OpsSwitchd

def routePfx (route : Route) : String := route.self.pfx

def hwEntry (vrf : Vrf) (ref : RouteRef) : Option NhTable := hwRoute vrf.up.calls (routeFamily ref.isIpv6) ref.pfx

structure HwMirror (vrf : Vrf) : Prop where
  pfxs : Keyed.Unique routePfx vrf.allRoutes
  cached : ∀ family pfx, (hwRoute vrf.up.calls family pfx).isSome → ∃ route ∈ vrf.allRoutes, refAt route.self family pfx
  held : ∀ route ∈ vrf.allRoutes, route.nexthops ≠ [] ∧
    ∃ table, hwEntry vrf route.self = some table ∧ ∀ nh ∈ route.nexthops, (table (nhId nh)).isSome

abbrev SingleNexthop (row : RouteRow) : Prop :=
  row.nexthops.length = 1 ∧ ∀ nh ∈ row.nexthops, vrfIsNhRowSelected nh = true ∧ nh.ipAddress.isSome

theorem single_nexthop_usable (row : RouteRow) (single : SingleNexthop row) :
    ∃ nh, row.nexthops = [nh] ∧ usableNhs row = [nh] := by
  obtain ⟨nh, only⟩ := List.length_eq_one_iff.mp single.1
  refine ⟨nh, only, ?_⟩
  obtain ⟨selected, ip⟩ := single.2 nh (by simp [only])
  have key : (nhRowKey nh).isSome := by
    obtain ⟨address, stored⟩ := Option.isSome_iff_exists.mp ip
    simp [nhRowKey, vrfNhHash, stored]
  have usable : nhRowUsable nh = true := by rw [nhRowUsable, selected, key, Bool.and_self]
  rw [usableNhs, only, List.filter_cons_of_pos usable, List.filter_nil]

theorem mirror_add (env : Env) (vrf : Vrf) (row : RouteRow) (apart : ∀ nh ∈ usableNhs row, NhRowApart env nh)
    (single : SingleNexthop row) (fresh : ∀ route ∈ vrf.allRoutes, routePfx route ≠ row.pfx) (mirror : HwMirror vrf) :
    HwMirror (vrfRouteAdd env vrf row) := by
  obtain ⟨nh, only, usable⟩ := single_nexthop_usable row single
  have ofp : addedOfp vrf row = [heldNexthop vrf (nhRowId nh)] := by simp [addedOfp, only, usable]
  have key := usable_nhs_key row nh (by simp [usable])
  have nexthops : (addedRoute vrf row).nexthops = [newNexthop (newRouteRef vrf row) (vrf.nextAddr + 1) nh] := by
    simp [addedRoute, addedNexthops, usable, newNexthops]
  have here := hw_route_add_held vrf vrf.up.calls (newRouteRef vrf row) (addedOfp vrf row) (by simp [ofp])
    (by simp [ofp])
  have elsewhere := hw_route_elsewhere vrf.up.calls .add (newRouteRef vrf row) (addedOfp vrf row)
  have routes := route_add_routes env vrf row apart
  have calls := route_add_calls env vrf row apart
  refine ⟨?_, ?_, ?_⟩
  · rw [routes]
    exact Keyed.unique_cons routePfx mirror.pfxs fresh
  · intro family pfx present
    rw [routes]
    by_cases same : refAt (newRouteRef vrf row) family pfx
    · exact ⟨addedRoute vrf row, by simp, same⟩
    · rw [calls, elsewhere family pfx same] at present
      obtain ⟨route, member, at_⟩ := mirror.cached family pfx present
      exact ⟨route, by simp [member], at_⟩
  · intro route member
    rw [routes] at member
    rw [hwEntry, calls]
    rcases List.mem_cons.mp member with rfl | old
    · refine ⟨by simp [nexthops], _, here, ?_⟩
      rw [nexthops, ofp]
      simp [new_nexthop_id _ _ nh key]
    · obtain ⟨some_, table, found, programmed⟩ := mirror.held route old
      refine ⟨some_, table, ?_, programmed⟩
      have different : ¬ refAt (newRouteRef vrf row) (routeFamily route.self.isIpv6) route.self.pfx :=
        fun same => fresh route old same.2.symm
      exact (elsewhere _ _ different).trans found

theorem mirror_delete (env : Env) (vrf : Vrf) (route : Route) (cache : RouteCache vrf) (member : route ∈ vrf.allRoutes)
    (mirror : HwMirror vrf) : HwMirror (vrfRouteDelete env vrf route) := by
  have sent : (env.order.walk route.nexthops).map (fun nh => heldNexthop vrf (nhId nh)) ≠ [] := by
    simpa using (mirror.held route member).1
  have here := hw_route_delete vrf.up.calls route.self _ sent
  have elsewhere := hw_route_elsewhere vrf.up.calls .delete route.self
    ((env.order.walk route.nexthops).map (fun nh => heldNexthop vrf (nhId nh)))
  have calls := route_delete_calls env vrf route
  refine ⟨?_, ?_, ?_⟩
  · rw [route_delete_routes]
    exact Keyed.unique_filter routePfx mirror.pfxs _
  · intro family pfx present
    rw [calls] at present
    by_cases same : refAt route.self family pfx
    · obtain ⟨rfl, rfl⟩ := same
      rw [here] at present
      cases present
    · rw [elsewhere family pfx same] at present
      obtain ⟨other, old, at_⟩ := mirror.cached family pfx present
      rw [route_delete_routes]
      refine ⟨other, (Keyed.mem_remove routeAddr).mpr ⟨old, ?_⟩, at_⟩
      intro addrSame
      exact same (Keyed.unique_mem_eq routeAddr cache.addrs old member addrSame ▸ at_)
  · intro other kept
    rw [route_delete_routes] at kept
    obtain ⟨old, addrDiffers⟩ := (Keyed.mem_remove routeAddr).mp kept
    obtain ⟨some_, table, found, programmed⟩ := mirror.held other old
    refine ⟨some_, table, ?_, programmed⟩
    have different : ¬ refAt route.self (routeFamily other.self.isIpv6) other.self.pfx := by
      intro same
      exact addrDiffers (congrArg routeAddr (Keyed.unique_mem_eq routePfx mirror.pfxs old member same.2.symm))
    rw [hwEntry, calls]
    exact (elsewhere _ _ different).trans found

theorem kept_not_gone (env : Env) (route : Route) (row : RouteRow) (one : ∀ nh ∈ route.nexthops, NhExclusive nh)
    (nh : Nexthop) (kept : nh ∈ keptNexthops route row) : nhId nh ∉ goneIds env route row := by
  intro listed
  obtain ⟨gone, present, same⟩ := List.mem_map.mp listed
  obtain ⟨walked, unwanted⟩ := List.mem_filter.mp present
  obtain ⟨member, wanted⟩ := List.mem_filter.mp kept
  have keys : nhKey gone = nhKey nh := by
    rw [nh_id_key gone (one gone ((env.order.mem_walk _ _).mp walked)), nh_id_key nh (one nh member), same]
  rw [nhWanted, keys, ← nhWanted, wanted] at unwanted
  cases unwanted

theorem modified_route_programmed (env : Env) (vrf : Vrf) (route : Route) (row : RouteRow)
    (one : ∀ nh ∈ route.nexthops, NhExclusive nh) (single : SingleNexthop row) (table : NhTable)
    (found : hwEntry vrf route.self = some table) (programmed : ∀ nh ∈ route.nexthops, (table (nhId nh)).isSome) :
    ∃ after, hwRoute (vrf.up.calls ++ modifiedRequests env vrf route row) (routeFamily route.self.isIpv6)
      route.self.pfx = some after ∧ ∀ nh ∈ (modifiedRoute env vrf route row).nexthops, (after (nhId nh)).isSome := by
  obtain ⟨source, only, usable⟩ := single_nexthop_usable row single
  have plain : decide (row.nexthops.length > 1) = false := by simp [only]
  have entry := hw_route_modify env vrf route row
  simp only [plain, sentNexthops, Bool.false_eq_true, if_false] at entry
  rw [show hwRoute vrf.up.calls _ _ = some table from found, Option.map_some, Option.getD_some] at entry
  have keys : ∀ nh ∈ freshNhs env route row, (nhRowKey nh).isSome := by
    intro nh present
    have walked := (env.order.mem_walk _ _).mp (List.mem_filter.mp present).1
    exact usable_nhs_key row nh (current_idl_nhs_usable row nh walked)
  have kept : ∀ nh ∈ keptNexthops route row,
      (if nhId nh ∈ goneIds env route row then none else table (nhId nh)).isSome := by
    intro nh member
    rw [if_neg (kept_not_gone env route row one nh member)]
    exact programmed nh (List.mem_filter.mp member).1
  by_cases empty : (freshNhs env route row) = []
  · rw [empty, List.map_nil, if_pos rfl] at entry
    refine ⟨_, entry, ?_⟩
    intro nh member
    simp only [modifiedRoute, empty, newNexthops, List.reverse_nil, List.nil_append] at member
    exact kept nh member
  · rw [if_neg (by simpa using empty)] at entry
    refine ⟨_, entry, ?_⟩
    intro nh member
    have ids : ((freshNhs env route row).map (fun row => heldNexthop vrf (nhRowId row))).map OfprotoNexthop.nh =
        (freshNhs env route row).map nhRowId := by simp
    rw [ids]
    by_cases fresh : nhId nh ∈ (freshNhs env route row).map nhRowId
    · simp only [if_pos fresh, Option.isSome_some]
    · simp only [if_neg fresh]
      rcases List.mem_append.mp member with new | old
      · obtain ⟨origin, present, same⟩ := (new_nexthops_has_id route.self vrf.nextAddr _ keys (nhId nh)).mp
          ⟨nh, List.mem_reverse.mp new, rfl⟩
        exact absurd (List.mem_map.mpr ⟨origin, present, same⟩) fresh
      · exact kept nh old

theorem mirror_modify (env : Env) (vrf : Vrf) (route : Route) (row : RouteRow) (cache : RouteCache vrf)
    (member : route ∈ vrf.allRoutes) (apart : ∀ nh ∈ usableNhs row, NhRowApart env nh) (single : SingleNexthop row)
    (mirror : HwMirror vrf) : HwMirror (vrfRouteModify env vrf route row) := by
  have one := route_cache_exclusive vrf cache route member
  have addrs := route_cache_nexthop_addrs vrf cache route member
  have routes := route_modify_routes env vrf route row apart one addrs
  have calls := route_modify_calls env vrf route row apart one addrs
  have elsewhere := hw_route_modify_elsewhere env vrf route row
  refine ⟨?_, ?_, ?_⟩
  · rw [routes, Keyed.Unique, Keyed.map_replace routeAddr routePfx]
    · exact mirror.pfxs
    · intro other present equal
      rw [Keyed.unique_mem_eq routeAddr cache.addrs present member equal]
      rfl
  · intro family pfx present
    rw [calls] at present
    rw [routes]
    have stored := (Keyed.mem_replace routeAddr (f := fun _ => modifiedRoute env vrf route row)).mpr
      (.inr ⟨route, member, rfl, rfl⟩)
    by_cases same : refAt route.self family pfx
    · exact ⟨modifiedRoute env vrf route row, stored, same⟩
    · rw [elsewhere family pfx same] at present
      obtain ⟨other, old, at_⟩ := mirror.cached family pfx present
      refine ⟨other, (Keyed.mem_replace routeAddr).mpr (.inl ⟨old, ?_⟩), at_⟩
      intro addrSame
      exact same (Keyed.unique_mem_eq routeAddr cache.addrs old member addrSame ▸ at_)
  · intro other present
    rw [routes] at present
    rw [hwEntry, calls]
    rcases (Keyed.mem_replace routeAddr).mp present with ⟨old, addrDiffers⟩ | ⟨_, _, _, rfl⟩
    · obtain ⟨some_, table, found, programmed⟩ := mirror.held other old
      refine ⟨some_, table, ?_, programmed⟩
      have different : ¬ refAt route.self (routeFamily other.self.isIpv6) other.self.pfx := by
        intro same
        exact addrDiffers (congrArg routeAddr (Keyed.unique_mem_eq routePfx mirror.pfxs old member same.2.symm))
      exact (elsewhere _ _ different).trans found
    · obtain ⟨_, table, found, programmed⟩ := mirror.held route member
      refine ⟨?_, modified_route_programmed env vrf route row one single table found programmed⟩
      intro empty
      obtain ⟨source, _, usable⟩ := single_nexthop_usable row single
      have listed : nhRowKey source ∈ rowNhKeys row := List.mem_toFinset.mpr (by simp [usable])
      rw [← modified_route_keys env vrf route row one, routeNhKeys, List.mem_toFinset, empty] at listed
      cases listed

end OpsSwitchd
