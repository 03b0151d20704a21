import OpsSwitchd.RouteSpec

set_option autoImplicit false

namespace OpsSwitchd

def cachedNexthops (routes : List Route) : List Nexthop := routes.flatMap Route.nexthops

-- The table of all nexthops is an index of the nexthops with an IP address of
-- the given routes; every nexthop is allocated and owned once.
structure NexthopIndex (nextAddr : Nat) (allNexthops : List Nexthop) (routes : List Route) : Prop where
  addrs : Keyed.Unique Nexthop.addr (cachedNexthops routes)
  bound : ∀ nh ∈ cachedNexthops routes, nh.addr < nextAddr
  exclusive : ∀ nh ∈ cachedNexthops routes, NhExclusive nh
  owner : ∀ route ∈ routes, ∀ nh ∈ route.nexthops, nh.route = route.self
  index : allNexthops.Perm ((cachedNexthops routes).filter (fun nh => nh.ipAddr.isSome))

theorem cached_nexthops_cons (route : Route) (others : List Route) :
    cachedNexthops (route :: others) = route.nexthops ++ cachedNexthops others := rfl

theorem nexthop_index_perm (nextAddr : Nat) (allNexthops : List Nexthop) (routes other : List Route)
    (same : routes.Perm other) (valid : NexthopIndex nextAddr allNexthops routes) :
    NexthopIndex nextAddr allNexthops other := by
  have cached : (cachedNexthops routes).Perm (cachedNexthops other) := same.flatMap_right _
  exact ⟨Keyed.unique_perm Nexthop.addr cached valid.addrs, fun nh member => valid.bound nh (cached.mem_iff.mpr member),
    fun nh member => valid.exclusive nh (cached.mem_iff.mpr member),
    fun route member => valid.owner route (same.mem_iff.mpr member), valid.index.trans (cached.filter _)⟩

theorem nexthop_index_extend (nextAddr : Nat) (allNexthops : List Nexthop) (route : Route) (others : List Route)
    (rows : List NexthopRow) (keys : ∀ row ∈ rows, (nhRowKey row).isSome)
    (valid : NexthopIndex nextAddr allNexthops (route :: others)) :
    let nhs := (newNexthops route.self nextAddr rows).reverse
    NexthopIndex (nextAddr + rows.length) (nhs.filter (fun nh => nh.ipAddr.isSome) ++ allNexthops)
      ({ route with nexthops := nhs ++ route.nexthops } :: others) := by
  intro nhs
  have shape : ∀ nh ∈ nhs, ∃ row ∈ rows, ∃ at_, nextAddr ≤ at_ ∧ at_ < nextAddr + rows.length ∧
      nh = newNexthop route.self at_ row :=
    fun nh member => new_nexthops_mem route.self nextAddr rows nh (List.mem_reverse.mp member)
  have cached : cachedNexthops ({ route with nexthops := nhs ++ route.nexthops } :: others) =
      nhs ++ cachedNexthops (route :: others) := by
    simp [cached_nexthops_cons]
  refine ⟨?_, ?_, ?_, ?_, ?_⟩
  · rw [cached, Keyed.Unique, List.map_append]
    refine List.Nodup.append ?_ valid.addrs ?_
    · exact Keyed.unique_perm Nexthop.addr (List.reverse_perm _).symm (new_nexthops_unique route.self nextAddr rows)
    · intro addr left right
      obtain ⟨nh, member, rfl⟩ := List.mem_map.mp left
      obtain ⟨old, present, same⟩ := List.mem_map.mp right
      obtain ⟨_, _, at_, low, _, rfl⟩ := shape nh member
      have below := valid.bound old present
      rw [same, new_nexthop_addr] at below
      omega
  · intro nh member
    rw [cached] at member
    rcases List.mem_append.mp member with new | old
    · obtain ⟨_, _, at_, _, high, rfl⟩ := shape nh new
      rwa [new_nexthop_addr]
    · exact Nat.lt_of_lt_of_le (valid.bound nh old) (Nat.le_add_right _ _)
  · intro nh member
    rw [cached] at member
    rcases List.mem_append.mp member with new | old
    · obtain ⟨row, present, at_, _, _, rfl⟩ := shape nh new
      exact new_nexthop_exclusive route.self at_ row (keys row present)
    · exact valid.exclusive nh old
  · intro owner member nh present
    rcases List.mem_cons.mp member with rfl | other
    · rcases List.mem_append.mp present with new | old
      · obtain ⟨_, _, at_, _, _, rfl⟩ := shape nh new
        exact new_nexthop_route route.self at_ _
      · exact valid.owner route (by simp) nh old
    · exact valid.owner owner (by simp [other]) nh present
  · rw [cached, List.filter_append]
    exact valid.index.append_left _

theorem nexthop_index_shrink (nextAddr : Nat) (allNexthops : List Nexthop) (route : Route) (others : List Route)
    (gone : List Nexthop) (owned : ∀ nh ∈ gone, nh ∈ route.nexthops)
    (valid : NexthopIndex nextAddr allNexthops (route :: others)) :
    NexthopIndex nextAddr
      (Keyed.removeAll Nexthop.addr ((gone.filter (fun nh => nh.ipAddr.isSome)).map Nexthop.addr) allNexthops)
      ({ route with nexthops := Keyed.removeAll Nexthop.addr (gone.map Nexthop.addr) route.nexthops } :: others) := by
  have addrs := valid.addrs
  have member : ∀ nh ∈ gone, nh ∈ cachedNexthops (route :: others) :=
    fun nh present => List.mem_append_left _ (owned nh present)
  have elsewhere : ∀ nh ∈ cachedNexthops others, nh.addr ∉ gone.map Nexthop.addr := by
    intro nh other listed
    obtain ⟨old, present, same⟩ := List.mem_map.mp listed
    rw [cached_nexthops_cons, Keyed.Unique, List.map_append] at addrs
    exact List.disjoint_of_nodup_append addrs (List.mem_map.mpr ⟨old, owned old present, rfl⟩)
      (List.mem_map.mpr ⟨nh, other, same.symm⟩)
  have cached : cachedNexthops
      ({ route with nexthops := Keyed.removeAll Nexthop.addr (gone.map Nexthop.addr) route.nexthops } :: others) =
      Keyed.removeAll Nexthop.addr (gone.map Nexthop.addr) (cachedNexthops (route :: others)) := by
    rw [cached_nexthops_cons, cached_nexthops_cons, Keyed.removeAll, Keyed.removeAll, List.filter_append]
    congr 1
    exact (List.filter_eq_self.mpr (fun nh other => decide_eq_true (elsewhere nh other))).symm
  have kept : ∀ nh, nh ∈ Keyed.removeAll Nexthop.addr (gone.map Nexthop.addr) (cachedNexthops (route :: others)) →
      nh ∈ cachedNexthops (route :: others) := fun nh present => (List.mem_filter.mp present).1
  refine ⟨?_, ?_, ?_, ?_, ?_⟩
  · rw [cached]
    exact Keyed.unique_filter Nexthop.addr addrs _
  · rw [cached]
    exact fun nh present => valid.bound nh (kept nh present)
  · rw [cached]
    exact fun nh present => valid.exclusive nh (kept nh present)
  · intro owner present nh inside
    rcases List.mem_cons.mp present with rfl | other
    · exact valid.owner route (by simp) nh (List.mem_filter.mp inside).1
    · exact valid.owner owner (by simp [other]) nh inside
  · rw [cached]
    refine (valid.index.filter _).trans (List.Perm.of_eq ?_)
    rw [Keyed.removeAll, List.filter_filter, List.filter_filter]
    apply List.filter_congr
    intro nh present
    by_cases ip : nh.ipAddr.isSome = true
    · simp only [ip, Bool.and_true, Bool.true_and, decide_eq_decide, not_iff_not]
      constructor
      · intro listed
        obtain ⟨old, here, same⟩ := List.mem_map.mp listed
        exact List.mem_map.mpr ⟨old, (List.mem_filter.mp here).1, same⟩
      · intro listed
        obtain ⟨old, here, same⟩ := List.mem_map.mp listed
        obtain rfl := Keyed.unique_mem_eq Nexthop.addr addrs (member old here) present same
        exact List.mem_map.mpr ⟨old, List.mem_filter.mpr ⟨here, ip⟩, same⟩
    · simp [ip]

theorem nexthop_index_bare (nextAddr later : Nat) (allNexthops : List Nexthop) (ref : RouteRef) (uuid : Uuid)
    (others : List Route) (grown : nextAddr ≤ later) (valid : NexthopIndex nextAddr allNexthops others) :
    NexthopIndex later allNexthops (⟨ref, [], uuid⟩ :: others) := by
  refine ⟨valid.addrs, fun nh member => Nat.lt_of_lt_of_le (valid.bound nh member) grown, valid.exclusive, ?_, valid.index⟩
  intro owner member nh present
  rcases List.mem_cons.mp member with rfl | other
  · cases present
  · exact valid.owner owner other nh present

theorem nexthop_index_tail (nextAddr : Nat) (allNexthops : List Nexthop) (route : Route) (others : List Route)
    (bare : route.nexthops = []) (valid : NexthopIndex nextAddr allNexthops (route :: others)) :
    NexthopIndex nextAddr allNexthops others := by
  have cached : cachedNexthops (route :: others) = cachedNexthops others := by rw [cached_nexthops_cons, bare, List.nil_append]
  obtain ⟨addrs, bound, exclusive, owner, index⟩ := valid
  rw [cached] at addrs bound exclusive index
  exact ⟨addrs, bound, exclusive, fun other member => owner other (by simp [member]), index⟩

theorem nexthop_index_route_addrs (nextAddr : Nat) (allNexthops : List Nexthop) (routes : List Route)
    (valid : NexthopIndex nextAddr allNexthops routes) (route : Route) (member : route ∈ routes) :
    Keyed.Unique Nexthop.addr route.nexthops := by
  obtain ⟨before, after, split⟩ := List.append_of_mem member
  have addrs := valid.addrs
  rw [cachedNexthops, split, List.flatMap_append, List.flatMap_cons] at addrs
  refine addrs.sublist (List.Sublist.map Nexthop.addr ?_)
  exact (List.sublist_append_left _ _).trans (List.sublist_append_right _ _)

structure RouteCache (vrf : Vrf) : Prop where
  keys : Keyed.Unique routeKey vrf.allRoutes
  addrs : Keyed.Unique routeAddr vrf.allRoutes
  bound : ∀ route ∈ vrf.allRoutes, routeAddr route < vrf.nextAddr
  nexthops : NexthopIndex vrf.nextAddr vrf.allNexthops vrf.allRoutes

theorem route_cache_start (row : VrfRow) : RouteCache (vrfCreate row) where
  keys := Keyed.unique_nil routeKey
  addrs := Keyed.unique_nil routeAddr
  bound := fun _ member => nomatch member
  nexthops := { addrs := Keyed.unique_nil Nexthop.addr
                bound := fun _ member => nomatch member
                exclusive := fun _ member => nomatch member
                owner := fun _ member => nomatch member
                index := .refl [] }

theorem route_cache_exclusive (vrf : Vrf) (cache : RouteCache vrf) (route : Route) (member : route ∈ vrf.allRoutes)
    (nh : Nexthop) (present : nh ∈ route.nexthops) : NhExclusive nh :=
  cache.nexthops.exclusive nh (List.mem_flatMap.mpr ⟨route, member, present⟩)

theorem route_cache_nexthop_addrs (vrf : Vrf) (cache : RouteCache vrf) (route : Route)
    (member : route ∈ vrf.allRoutes) : Keyed.Unique Nexthop.addr route.nexthops :=
  nexthop_index_route_addrs _ _ _ cache.nexthops route member

theorem route_cache_add (env : Env) (vrf : Vrf) (row : RouteRow) (apart : ∀ nh ∈ usableNhs row, NhRowApart env nh)
    (absent : vrfRouteHashLookup vrf row = none) (cache : RouteCache vrf) : RouteCache (vrfRouteAdd env vrf row) := by
  obtain ⟨status, added⟩ := vrf_route_add_eq env vrf row apart
  have bare := nexthop_index_bare vrf.nextAddr (vrf.nextAddr + 1) vrf.allNexthops (newRouteRef vrf row) row.uuid
    vrf.allRoutes (Nat.le_add_right _ _) cache.nexthops
  have filled := nexthop_index_extend _ _ _ _ (usableNhs row) (usable_nhs_key row) bare
  rw [added]
  refine ⟨?_, ?_, ?_, by simpa [addedRoute, addedNexthops] using filled⟩
  · exact Keyed.unique_cons routeKey cache.keys ((Keyed.lookup_none_iff routeKey).mp absent)
  · exact Keyed.unique_cons routeAddr cache.addrs (fun route member => Nat.ne_of_lt (cache.bound route member))
  · intro route member
    rcases List.mem_cons.mp member with rfl | old
    · change vrf.nextAddr < vrf.nextAddr + 1 + _
      omega
    · exact Nat.lt_of_lt_of_le (cache.bound route old) (by dsimp only; omega)

theorem route_cache_delete (env : Env) (vrf : Vrf) (route : Route) (member : route ∈ vrf.allRoutes)
    (cache : RouteCache vrf) : RouteCache (vrfRouteDelete env vrf route) := by
  have split := Keyed.perm_cons_remove routeAddr cache.addrs member
  have shrunk := nexthop_index_shrink _ _ _ _ (env.order.walk route.nexthops)
    (fun nh present => (env.order.mem_walk _ _).mp present) (nexthop_index_perm _ _ _ _ split cache.nexthops)
  have bare : Keyed.removeAll Nexthop.addr ((env.order.walk route.nexthops).map Nexthop.addr) route.nexthops = [] := by
    apply List.filter_eq_nil_iff.mpr
    intro nh present
    simpa using ⟨nh, present, rfl⟩
  rw [vrf_route_delete_eq]
  refine ⟨Keyed.unique_filter routeKey cache.keys _, Keyed.unique_remove routeAddr cache.addrs _, ?_,
    nexthop_index_tail _ _ _ _ bare shrunk⟩
  intro other present
  exact cache.bound other ((Keyed.mem_remove routeAddr).mp present).1

theorem route_cache_modify (env : Env) (vrf : Vrf) (route : Route) (row : RouteRow)
    (apart : ∀ nh ∈ usableNhs row, NhRowApart env nh) (member : route ∈ vrf.allRoutes) (cache : RouteCache vrf) :
    RouteCache (vrfRouteModify env vrf route row) := by
  have addrs := route_cache_nexthop_addrs vrf cache route member
  have one := route_cache_exclusive vrf cache route member
  obtain ⟨status, modified⟩ := vrf_route_modify_eq env vrf route row apart one addrs
  have split := Keyed.perm_cons_remove routeAddr cache.addrs member
  have shrunk := nexthop_index_shrink _ _ _ _ (goneNexthops env route row)
    (fun nh present => (env.order.mem_walk _ _).mp (List.mem_filter.mp present).1)
    (nexthop_index_perm _ _ _ _ split cache.nexthops)
  rw [remove_gone_nexthops env route row addrs] at shrunk
  have keys : ∀ nh ∈ freshNhs env route row, (nhRowKey nh).isSome := by
    intro nh present
    have walked := (env.order.mem_walk _ _).mp (List.mem_filter.mp present).1
    exact usable_nhs_key row nh (current_idl_nhs_usable row nh walked)
  have filled := nexthop_index_extend _ _ _ _ (freshNhs env route row) keys shrunk
  have replaced := Keyed.replace_perm routeAddr cache.addrs member (fun _ => modifiedRoute env vrf route row)
  have same : ∀ other ∈ vrf.allRoutes, routeAddr other = routeAddr route → route = other :=
    fun other present equal => Keyed.unique_mem_eq routeAddr cache.addrs member present equal.symm
  rw [modified]
  refine ⟨?_, ?_, ?_, nexthop_index_perm _ _ _ _ replaced.symm filled⟩
  · rw [Keyed.Unique, Keyed.map_replace routeAddr routeKey]
    · exact cache.keys
    · intro other present equal
      rw [← same other present equal]
      rfl
  · exact Keyed.unique_replace routeAddr cache.addrs _ _ (fun other _ equal => equal.symm)
  · intro other present
    have grown : vrf.nextAddr ≤ vrf.nextAddr + (freshNhs env route row).length := Nat.le_add_right _ _
    rcases (Keyed.mem_replace routeAddr).mp present with ⟨old, _⟩ | ⟨old, oldMember, _, rfl⟩
    · exact Nat.lt_of_lt_of_le (cache.bound other old) grown
    · exact Nat.lt_of_lt_of_le (cache.bound route member) grown

end OpsSwitchd
