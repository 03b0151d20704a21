import Mathlib.Data.Finset.Dedup
import OpsSwitchd.RouteCache

set_option autoImplicit false

namespace OpsSwitchd

def routeNhKeys (route : Route) : Finset (Option String) := (route.nexthops.map nhKey).toFinset

def rowNhKeys (row : RouteRow) : Finset (Option String) := ((usableNhs row).map nhRowKey).toFinset

def routeView (vrf : Vrf) (key : String × String) : Option (Finset (Option String)) :=
  (Keyed.lookup routeKey key vrf.allRoutes).map routeNhKeys

section Loops

variable (env : Env) (name : String) (vrf : Vrf) (row : RouteRow)

theorem hash_lookup_view :
    (vrfRouteHashLookup vrf row).isSome = (routeView vrf (routeRowKey row)).isSome := by
  rw [routeView, Option.isSome_map]
  rfl

theorem route_view_isSome (key : String × String) :
    (routeView vrf key).isSome ↔ ∃ route ∈ vrf.allRoutes, routeKey route = key := by
  rw [routeView, Option.isSome_map, Keyed.lookup_some_iff_exists]

abbrev RowsApart (env : Env) (rows : List RouteRow) : Prop := ∀ row ∈ rows, ∀ nh ∈ usableNhs row, NhRowApart env nh

theorem added_route_keys : routeNhKeys (addedRoute vrf row) = rowNhKeys row := by
  have keys := new_nexthops_map (newRouteRef vrf row) nhKey nhRowKey (usableNhs row)
    (fun addr nh _ => new_nexthop_key (newRouteRef vrf row) addr nh) (vrf.nextAddr + 1)
  unfold routeNhKeys rowNhKeys addedRoute addedNexthops
  rw [List.map_reverse, keys, List.toFinset_reverse]

theorem current_idl_nhs_has_key (key : Option String) :
    (∃ nh ∈ currentIdlNhs row, nhRowKey nh = key) ↔ ∃ nh ∈ usableNhs row, nhRowKey nh = key := by
  rw [← Keyed.lookup_some_iff_exists, ← Keyed.lookup_some_iff_exists, currentIdlNhs, Keyed.lookup_collect]
  rfl

theorem nh_id_key (nh : Nexthop) (one : NhExclusive nh) : nhKey nh = some (nhId nh).id := by
  obtain ⟨addr, ipAddr, portName, ref, uuid⟩ := nh
  cases ipAddr <;> cases portName <;> simp_all [NhExclusive, nhKey, vrfNhHash, nhId]

theorem modified_route_keys (route : Route) (row : RouteRow)
    (one : ∀ nh ∈ route.nexthops, NhExclusive nh) : routeNhKeys (modifiedRoute env vrf route row) = rowNhKeys row := by
  have new := new_nexthops_map route.self nhKey nhRowKey (freshNhs env route row)
    (fun addr nh _ => new_nexthop_key route.self addr nh) vrf.nextAddr
  have keyOfId : ∀ nh ∈ route.nexthops, nhKey nh = some (nhId nh).id := fun nh member => nh_id_key nh (one nh member)
  ext key
  simp only [routeNhKeys, rowNhKeys, List.mem_toFinset, List.mem_map, ← current_idl_nhs_has_key]
  constructor
  · rintro ⟨nh, member, rfl⟩
    rcases List.mem_append.mp member with fresh | kept
    · have listed : nhKey nh ∈ (freshNhs env route row).map nhRowKey :=
        new ▸ List.mem_map.mpr ⟨nh, List.mem_reverse.mp fresh, rfl⟩
      obtain ⟨source, present, same⟩ := List.mem_map.mp listed
      exact ⟨source, (env.order.mem_walk _ _).mp (List.mem_filter.mp present).1, same⟩
    · exact (Keyed.lookup_some_iff_exists nhRowKey).mp (List.mem_filter.mp kept).2
  · rintro ⟨source, member, rfl⟩
    by_cases cached : nhRowId source ∈ (keptNexthops route row).map nhId
    · obtain ⟨nh, kept, same⟩ := List.mem_map.mp cached
      refine ⟨nh, List.mem_append_right _ kept, ?_⟩
      rw [keyOfId nh (List.mem_filter.mp kept).1, same,
        nh_row_id_key source (usable_nhs_key row source (current_idl_nhs_usable row source member))]
    · have fresh : source ∈ freshNhs env route row :=
        List.mem_filter.mpr ⟨(env.order.mem_walk _ _).mpr member, decide_eq_true cached⟩
      have listed : nhRowKey source ∈ (newNexthops route.self vrf.nextAddr (freshNhs env route row)).map nhKey :=
        new ▸ List.mem_map.mpr ⟨source, fresh, rfl⟩
      obtain ⟨nh, present, same⟩ := List.mem_map.mp listed
      exact ⟨nh, List.mem_append_left _ (List.mem_reverse.mpr present), same⟩

theorem route_add_view (apart : ∀ nh ∈ usableNhs row, NhRowApart env nh) (key : String × String) :
    routeView (vrfRouteAdd env vrf row) key =
      if key = routeRowKey row then some (rowNhKeys row) else routeView vrf key := by
  obtain ⟨status, added⟩ := vrf_route_add_eq env vrf row apart
  have addedKey : routeKey (addedRoute vrf row) = routeRowKey row := rfl
  rw [added]
  simp only [routeView, Keyed.lookup_cons, addedKey]
  by_cases here : key = routeRowKey row
  · simp [here, added_route_keys]
  · simp [here, Ne.symm here]

theorem route_delete_view (route : Route) (cache : RouteCache vrf) (member : route ∈ vrf.allRoutes) (key : String × String) :
    routeView (vrfRouteDelete env vrf route) key =
      if key = routeKey route then none else routeView vrf key := by
  rw [vrf_route_delete_eq]
  simp only [routeView]
  by_cases here : key = routeKey route
  · rw [if_pos here, Option.map_eq_none_iff, Keyed.lookup_none_iff]
    intro other present same
    obtain ⟨old, different⟩ := (Keyed.mem_remove routeAddr).mp present
    exact different (congrArg routeAddr (Keyed.unique_mem_eq routeKey cache.keys old member (same.trans here)))
  · rw [if_neg here]
    congr 1
    apply Option.ext
    intro other
    have kept : Keyed.Unique routeKey (Keyed.remove routeAddr (routeAddr route) vrf.allRoutes) :=
      Keyed.unique_filter routeKey cache.keys _
    rw [Keyed.lookup_eq_some_iff routeKey kept, Keyed.lookup_eq_some_iff routeKey cache.keys, Keyed.mem_remove]
    constructor
    · rintro ⟨⟨old, _⟩, same⟩
      exact ⟨old, same⟩
    · rintro ⟨old, same⟩
      refine ⟨⟨old, ?_⟩, same⟩
      intro addrSame
      exact here (same.symm.trans (congrArg routeKey (Keyed.unique_mem_eq routeAddr cache.addrs old member addrSame)))

theorem route_modify_view (route : Route) (row : RouteRow) (cache : RouteCache vrf)
    (member : route ∈ vrf.allRoutes) (apart : ∀ nh ∈ usableNhs row, NhRowApart env nh) (key : String × String) :
    routeView (vrfRouteModify env vrf route row) key =
      if key = routeKey route then some (rowNhKeys row) else routeView vrf key := by
  have one := route_cache_exclusive vrf cache route member
  obtain ⟨status, modified⟩ := vrf_route_modify_eq env vrf route row apart one
    (route_cache_nexthop_addrs vrf cache route member)
  have after := route_cache_modify env vrf route row apart member cache
  rw [modified] at after ⊢
  have stored : modifiedRoute env vrf route row ∈
      Keyed.replace routeAddr (routeAddr route) (fun _ => modifiedRoute env vrf route row) vrf.allRoutes :=
    (Keyed.mem_replace routeAddr).mpr (.inr ⟨route, member, rfl, rfl⟩)
  simp only [routeView]
  by_cases here : key = routeKey route
  · have found := Keyed.lookup_of_mem routeKey after.keys stored
    rw [if_pos here, here]
    exact (congrArg (Option.map routeNhKeys) found).trans (congrArg some (modified_route_keys env vrf route row one))
  · rw [if_neg here]
    congr 1
    apply Option.ext
    intro other
    rw [Keyed.lookup_eq_some_iff routeKey after.keys, Keyed.lookup_eq_some_iff routeKey cache.keys, Keyed.mem_replace]
    constructor
    · rintro ⟨⟨old, _⟩ | ⟨_, _, _, rfl⟩, same⟩
      · exact ⟨old, same⟩
      · exact absurd same.symm here
    · rintro ⟨old, same⟩
      refine ⟨.inl ⟨old, ?_⟩, same⟩
      intro addrSame
      exact here (same.symm.trans (congrArg routeKey (Keyed.unique_mem_eq routeAddr cache.addrs old member addrSame)))

theorem routed_name (vrf after : Vrf) (rows : List RouteRow) (routed : Routed vrf after rows) : after.name = vrf.name := by
  obtain ⟨_, _, _, _, _, rfl, _⟩ := routed
  rfl

structure RouteCacheOf (name : String) (vrf : Vrf) : Prop where
  cache : RouteCache vrf
  name : vrf.name = name

theorem hash_lookup_member (route : Route) (found : vrfRouteHashLookup vrf row = some route) :
    route ∈ vrf.allRoutes ∧ routeKey route = routeRowKey row :=
  ⟨Keyed.lookup_mem routeKey found, Keyed.lookup_key routeKey found⟩

theorem add_new_route_keeps (apart : ∀ nh ∈ usableNhs row, NhRowApart env nh) (valid : RouteCacheOf name vrf) :
    RouteCacheOf name (addNewRoute env vrf row) := by
  unfold addNewRoute
  cases found : vrfRouteHashLookup vrf row with
  | some route => exact valid
  | none => exact ⟨route_cache_add env vrf row apart found valid.cache,
      (routed_name _ _ _ (route_add_routed env vrf row)).trans valid.name⟩

theorem add_new_route_view (apart : ∀ nh ∈ usableNhs row, NhRowApart env nh) (key : String × String) :
    routeView (addNewRoute env vrf row) key =
      if key = routeRowKey row then some ((routeView vrf key).getD (rowNhKeys row)) else routeView vrf key := by
  unfold addNewRoute
  by_cases here : key = routeRowKey row
  · subst here
    cases found : vrfRouteHashLookup vrf row with
    | some route =>
        have view : routeView vrf (routeRowKey row) = some (routeNhKeys route) := congrArg (Option.map routeNhKeys) found
        simp [view]
    | none =>
        have view : routeView vrf (routeRowKey row) = none := congrArg (Option.map routeNhKeys) found
        simp [view, route_add_view env vrf row apart]
  · cases vrfRouteHashLookup vrf row with
    | some route => simp [here]
    | none => simp [here, route_add_view env vrf row apart]

def routeChanged (row : RouteRow) : Bool := row.modified && !row.inserted

theorem check_route_change_keeps (apart : ∀ nh ∈ usableNhs row, NhRowApart env nh) (valid : RouteCacheOf name vrf) :
    RouteCacheOf name (checkRouteChange env vrf row) := by
  unfold checkRouteChange
  split
  · split
    · rename_i route _ found
      have member := (hash_lookup_member vrf row route found).1
      exact ⟨route_cache_modify env vrf route row apart member valid.cache,
        (routed_name _ _ _ (route_modify_routed env vrf route row)).trans valid.name⟩
    · rename_i _ found
      exact ⟨route_cache_add env vrf row apart found valid.cache, (routed_name _ _ _ (route_add_routed env vrf row)).trans valid.name⟩
    · rename_i route _ found
      exact ⟨route_cache_delete env vrf route (hash_lookup_member vrf row route found).1 valid.cache,
        (routed_name _ _ _ (route_delete_routed env vrf route)).trans valid.name⟩
    · exact valid
  · exact valid

theorem check_route_change_view (cache : RouteCache vrf)
    (apart : ∀ nh ∈ usableNhs row, NhRowApart env nh) (own : vrf.name = row.vrf) (key : String × String) :
    routeView (checkRouteChange env vrf row) key =
      if key = routeRowKey row ∧ routeChanged row = true then
        if vrfIsRouteRowSelected row then some (rowNhKeys row) else none
      else routeView vrf key := by
  unfold checkRouteChange routeChanged
  by_cases changed : (row.modified && !row.inserted) = true
  · have entered : (decide (vrf.name = row.vrf) && row.modified && !row.inserted) = true := by
      rw [Bool.and_assoc, changed, own]
      simp
    rw [if_pos entered]
    cases selected : vrfIsRouteRowSelected row <;> cases found : vrfRouteHashLookup vrf row with
    | none =>
        have view : routeView vrf (routeRowKey row) = none := congrArg (Option.map routeNhKeys) found
        by_cases here : key = routeRowKey row <;> simp [here, changed, view, route_add_view env vrf row apart]
    | some route =>
        obtain ⟨member, same⟩ := hash_lookup_member vrf row route found
        by_cases here : key = routeRowKey row <;>
          simp [here, changed, same, route_modify_view env vrf route row cache member apart,
            route_delete_view env vrf route cache member]
  · have skipped : ¬ (decide (vrf.name = row.vrf) && row.modified && !row.inserted) = true := by
      rw [Bool.and_assoc]
      simp [changed]
    rw [if_neg skipped, if_neg (fun both => changed both.2)]

-- A route of the loop is still cached when its turn comes: only routes that
-- were visited before it have left.
theorem delete_routes_rule (P : List Route → Vrf → Prop)
    (keep : ∀ visited s route, RouteCache s → route ∈ s.allRoutes → P visited s →
      P (visited ++ [route]) (vrfRouteDelete env s route))
    (routes : List Route) (addrs : Keyed.Unique routeAddr routes) (visited : List Route) (vrf : Vrf)
    (cache : RouteCache vrf) (cached : ∀ route ∈ routes, route ∈ vrf.allRoutes) (initial : P visited vrf) :
    P (visited ++ routes) (routes.foldl (vrfRouteDelete env) vrf) := by
  induction routes generalizing visited vrf with
  | nil =>
      rw [List.append_nil]
      exact initial
  | cons route rest ih =>
      obtain ⟨fresh, unique⟩ := List.nodup_cons.mp addrs
      have member := cached route (by simp)
      have remaining : ∀ other ∈ rest, other ∈ (vrfRouteDelete env vrf route).allRoutes := by
        intro other present
        rw [route_delete_routes]
        exact (Keyed.mem_remove routeAddr).mpr ⟨cached other (by simp [present]),
          fun same => fresh (List.mem_map.mpr ⟨other, present, same⟩)⟩
      rw [List.append_cons]
      exact ih unique _ _ (route_cache_delete env vrf route member cache) remaining
        (keep visited vrf route cache member initial)

theorem delete_routes_keeps (P : Vrf → Prop)
    (keep : ∀ s route, RouteCache s → route ∈ s.allRoutes → P s → P (vrfRouteDelete env s route)) (vrf : Vrf)
    (cache : RouteCache vrf) (routes : List Route) (addrs : Keyed.Unique routeAddr routes)
    (cached : ∀ route ∈ routes, route ∈ vrf.allRoutes) (initial : P vrf) : P (routes.foldl (vrfRouteDelete env) vrf) :=
  delete_routes_rule env (fun _ s => P s) (fun _ => keep) routes addrs [] vrf cache cached initial

theorem delete_routes_loop (valid : RouteCacheOf name vrf)
    (routes : List Route) (addrs : Keyed.Unique routeAddr routes) (cached : ∀ route ∈ routes, route ∈ vrf.allRoutes) :
    RouteCacheOf name (routes.foldl (vrfRouteDelete env) vrf) ∧
      ∀ key, routeView (routes.foldl (vrfRouteDelete env) vrf) key =
        if ∃ route ∈ routes, routeKey route = key then none else routeView vrf key := by
  refine delete_routes_rule env (fun visited s => RouteCacheOf name s ∧ ∀ key, routeView s key =
    if ∃ route ∈ visited, routeKey route = key then none else routeView vrf key) ?_ routes addrs [] vrf valid.cache cached
    ⟨valid, fun key => by simp⟩
  rintro visited s route cache member ⟨kept, view⟩
  refine ⟨⟨route_cache_delete env s route member cache, (routed_name _ _ _ (route_delete_routed env s route)).trans kept.name⟩, ?_⟩
  intro key
  rw [route_delete_view env s route cache member, view]
  by_cases here : key = routeKey route
  · rw [if_pos here, if_pos ⟨route, by simp, here.symm⟩]
  · have same : (∃ other ∈ visited ++ [route], routeKey other = key) ↔ ∃ other ∈ visited, routeKey other = key := by
      simp [or_and_right, exists_or, Ne.symm here]
    rw [if_neg here]
    simp only [same]

theorem delete_old_routes_filter (idlRoutes : List RouteRow) (routes : List Route) (vrf : Vrf) :
    routes.foldl (deleteOldRoute env idlRoutes) vrf =
      (routes.filter (fun route => (Keyed.lookup routeRowHash (vrfRouteHash route.self.from_ route.self.pfx)
        idlRoutes).isNone)).foldl (vrfRouteDelete env) vrf := by
  induction routes generalizing vrf with
  | nil => rfl
  | cons route rest ih =>
      rw [List.foldl_cons, ih]
      cases wanted : Keyed.lookup routeRowHash (vrfRouteHash route.self.from_ route.self.pfx) idlRoutes <;>
        simp [deleteOldRoute, wanted]

theorem delete_phase_routes (valid : RouteCacheOf name vrf) (idlRoutes : List RouteRow) :
    let after := (env.order.walk vrf.allRoutes).foldl (deleteOldRoute env idlRoutes) vrf
    RouteCacheOf name after ∧ ∀ key, routeView after key =
      if (Keyed.lookup routeRowHash (vrfRouteHash key.1 key.2) idlRoutes).isSome then routeView vrf key else none := by
  intro after
  have walked := Keyed.unique_perm routeAddr (env.order.perm vrf.allRoutes).symm valid.cache.addrs
  have loop := delete_routes_loop env name vrf valid _ (Keyed.unique_filter routeAddr walked
    (fun route => (Keyed.lookup routeRowHash (vrfRouteHash route.self.from_ route.self.pfx) idlRoutes).isNone))
    (fun route member => (env.order.mem_walk _ _).mp (List.mem_filter.mp member).1)
  rw [← delete_old_routes_filter] at loop
  refine ⟨loop.1, ?_⟩
  intro key
  rw [loop.2 key]
  cases found : Keyed.lookup routeKey key vrf.allRoutes with
  | none =>
      have view : routeView vrf key = none := congrArg (Option.map routeNhKeys) found
      simp [view]
  | some route =>
      have member := Keyed.lookup_mem routeKey found
      have same := Keyed.lookup_key routeKey found
      subst same
      have deleted : (∃ other ∈ (env.order.walk vrf.allRoutes).filter (fun route =>
          (Keyed.lookup routeRowHash (vrfRouteHash route.self.from_ route.self.pfx) idlRoutes).isNone),
          routeKey other = routeKey route) ↔
          Keyed.lookup routeRowHash (vrfRouteHash route.self.from_ route.self.pfx) idlRoutes = none := by
        constructor
        · rintro ⟨other, present, equal⟩
          obtain ⟨inside, unwanted⟩ := List.mem_filter.mp present
          obtain rfl := Keyed.unique_mem_eq routeKey valid.cache.keys ((env.order.mem_walk _ _).mp inside) member equal
          simpa using unwanted
        · intro unwanted
          exact ⟨route, List.mem_filter.mpr ⟨(env.order.mem_walk _ _).mpr member, by simp [unwanted]⟩, rfl⟩
      simp only [deleted]
      change _ = if (Keyed.lookup routeRowHash (vrfRouteHash route.self.from_ route.self.pfx) idlRoutes).isSome then _ else _
      cases Keyed.lookup routeRowHash (vrfRouteHash route.self.from_ route.self.pfx) idlRoutes <;> simp

theorem insert_phase_routes (valid : RouteCacheOf name vrf)
    (idlRoutes : List RouteRow) (apart : RowsApart env idlRoutes) (keys : Keyed.Unique routeRowKey idlRoutes) :
    let after := (env.order.walk idlRoutes).foldl (addNewRoute env) vrf
    RouteCacheOf name after ∧ ∀ key, routeView after key =
      (Keyed.lookup routeRowKey key idlRoutes).elim (routeView vrf key)
        (fun row => some ((routeView vrf key).getD (rowNhKeys row))) := by
  intro after
  have walked := Keyed.unique_perm routeRowKey (env.order.perm idlRoutes).symm keys
  have rowApart : ∀ row ∈ env.order.walk idlRoutes, ∀ nh ∈ usableNhs row, NhRowApart env nh :=
    fun row member => apart row ((env.order.mem_walk _ _).mp member)
  have keep : ∀ s, ∀ row ∈ env.order.walk idlRoutes, RouteCacheOf name s → RouteCacheOf name (addNewRoute env s row) :=
    fun s row member => add_new_route_keeps env name s row (rowApart row member)
  refine ⟨Keyed.foldl_keeps (addNewRoute env) (RouteCacheOf name) keep valid, ?_⟩
  intro key
  have loop := Keyed.foldl_view routeRowKey (addNewRoute env) routeView (fun row before => some (before.getD (rowNhKeys row)))
    (RouteCacheOf name) walked keep
    (fun s row member _ => by simp [add_new_route_view env s row (rowApart row member)])
    (fun s row member k different _ => by simp [add_new_route_view env s row (rowApart row member), different])
  rw [loop vrf valid, Keyed.lookup_perm routeRowKey (env.order.perm idlRoutes) walked key]

def ownRows (name : String) (rows : List RouteRow) : List RouteRow := rows.filter (fun row => name = row.vrf)

theorem modify_phase_routes (valid : RouteCacheOf name vrf)
    (rows : List RouteRow) (apart : RowsApart env rows) (keys : Keyed.Unique routeRowKey (ownRows name rows)) :
    let after := rows.foldl (checkRouteChange env) vrf
    RouteCacheOf name after ∧ ∀ key, routeView after key =
      (Keyed.lookup routeRowKey key (ownRows name rows)).elim (routeView vrf key) (fun row =>
        if routeChanged row then (if vrfIsRouteRowSelected row then some (rowNhKeys row) else none)
        else routeView vrf key) := by
  intro after
  have keep : ∀ s, ∀ row ∈ rows, RouteCacheOf name s → RouteCacheOf name (checkRouteChange env s row) :=
    fun s row member => check_route_change_keeps env name s row (apart row member)
  have skip : ∀ s, ∀ row ∈ rows, RouteCacheOf name s → decide (name = row.vrf) = false →
      checkRouteChange env s row = s := by
    intro s row _ own foreign
    unfold checkRouteChange
    rw [own.name, foreign]
    simp
  refine ⟨Keyed.foldl_keeps (checkRouteChange env) (RouteCacheOf name) keep valid, ?_⟩
  intro key
  have inside : ∀ row ∈ ownRows name rows, row ∈ rows ∧ name = row.vrf :=
    fun row member => ⟨(List.mem_filter.mp member).1, by simpa using (List.mem_filter.mp member).2⟩
  have loop := Keyed.foldl_view routeRowKey (checkRouteChange env) routeView
    (fun row before => if routeChanged row then (if vrfIsRouteRowSelected row then some (rowNhKeys row) else none)
      else before) (RouteCacheOf name) keys (fun s row member => keep s row (inside row member).1)
    (fun s row member own => by
      rw [check_route_change_view env s row own.cache (apart row (inside row member).1)
        (own.name.trans (inside row member).2)]
      simp)
    (fun s row member k different own => by
      rw [check_route_change_view env s row own.cache (apart row (inside row member).1)
        (own.name.trans (inside row member).2)]
      simp [different])
  have filtered := Keyed.foldl_filter (checkRouteChange env) (fun row => decide (name = row.vrf)) (RouteCacheOf name)
    keep skip valid
  change routeView (rows.foldl (checkRouteChange env) vrf) key = _
  rw [filtered]
  exact loop vrf valid key

end Loops

end OpsSwitchd
