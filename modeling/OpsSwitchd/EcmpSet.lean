import OpsSwitchd.NeighborPush
import OpsSwitchd.NeighborRun
import OpsSwitchd.RouteFallback

set_option autoImplicit false

namespace OpsSwitchd

def NoMix (held : String → Option NhState) : Prop :=
  ∀ resolved placeholder, isResolved (held resolved) → held placeholder ≠ some .unresolved

def clashes (state : NhState) (held : Option NhState) : Bool :=
  match state with
  | .unresolved => isResolved held
  | .resolved _ => held = some .unresolved

theorem no_mix_update_iff (held after : String → Option NhState) (ip : String) (state : NhState) (clean : NoMix held)
    (here : after ip = some state) (others : ∀ other, other ≠ ip → after other = held other) :
    NoMix after ↔ ∀ other, other ≠ ip → clashes state (held other) = false := by
  constructor
  · intro kept other different
    have same := others other different
    cases state with
    | unresolved =>
        refine Bool.eq_false_iff.mpr (fun resolved => ?_)
        exact kept other ip (same.symm ▸ resolved) here
    | resolved egress => exact decide_eq_false (same ▸ kept ip other (by rw [here]; rfl))
  · intro apart resolved placeholder up down
    by_cases first : resolved = ip
    · subst first
      rw [here] at up
      by_cases second : placeholder = resolved
      · rw [second, here] at down
        rw [Option.some.inj down] at up
        cases up
      · cases state with
        | unresolved => cases up
        | resolved egress => exact of_decide_eq_false (apart placeholder second) (others placeholder second ▸ down)
    · rw [others resolved first] at up
      by_cases second : placeholder = ip
      · rw [second, here] at down
        obtain rfl := Option.some.inj down
        exact Bool.eq_false_iff.mp (apart resolved first) up
      · exact clean resolved placeholder up (others placeholder second ▸ down)

abbrev heldAddress (vrf : Vrf) (ref : RouteRef) (ip : String) : Option NhState :=
  hwNexthop vrf.up.calls (routeFamily ref.isIpv6) ref.pfx ⟨.ipaddr, ip⟩

def currentRow (vrf : Vrf) (route : Route) : Option RouteRow :=
  (vrf.routeRows.filter (fun row => routeRowKey row = routeKey route)).getLast?

def ecmpRoute (vrf : Vrf) (route : Route) : Bool := (currentRow vrf route).any (fun row => row.nexthops.length > 1)

def PlaceholdersDisplaced (vrf : Vrf) : Prop :=
  ∀ route ∈ vrf.allRoutes, ecmpRoute vrf route →
    (∃ nh ∈ route.nexthops, ∃ ip ∈ nh.ipAddr, isResolved (heldAddress vrf route.self ip)) →
    ∀ ip, heldAddress vrf route.self ip ≠ some .unresolved

section Ecmp

variable (env : Env) (vrf : Vrf) (route : Route)

theorem held_address_own (owned : HwOwned vrf) (route : Route) (member : route ∈ vrf.allRoutes) (ip : String)
    (held : (heldAddress vrf route.self ip).isSome) : ∃ nh ∈ route.nexthops, nh.ipAddr = some ip := by
  obtain ⟨nh, present, same⟩ := hw_owned_own vrf owned route member _ held
  exact ⟨nh, present, address_of_id nh (route_cache_exclusive vrf owned.cache route member nh present) ip same⟩

theorem displaced_iff (owned : HwOwned vrf) :
    PlaceholdersDisplaced vrf ↔ ∀ route ∈ vrf.allRoutes, ecmpRoute vrf route → NoMix (heldAddress vrf route.self) := by
  constructor
  · intro displaced route member ecmp resolved placeholder up
    obtain ⟨nh, present, address⟩ := held_address_own vrf owned route member resolved (resolved_is_some _ up)
    exact displaced route member ecmp ⟨nh, present, resolved, address, up⟩ placeholder
  · rintro clean route member ecmp ⟨_, _, resolved, _, up⟩ placeholder
    exact clean route member ecmp resolved placeholder up

theorem current_row_given (vrf after : Vrf) (row : RouteRow) (given : after.routeRows = vrf.routeRows ++ [row])
    (route : Route) :
    currentRow after route = if routeRowKey row = routeKey route then some row else currentRow vrf route := by
  unfold currentRow
  rw [given, List.filter_append, List.filter_singleton]
  by_cases same : routeRowKey row = routeKey route
  · simp [same]
  · simp [same]

theorem ecmp_route_given (vrf after : Vrf) (row : RouteRow) (given : after.routeRows = vrf.routeRows ++ [row])
    (route : Route) (own : routeRowKey row = routeKey route) : ecmpRoute after route = decide (row.nexthops.length > 1) := by
  rw [ecmpRoute, current_row_given vrf after row given, if_pos own]
  rfl

theorem ecmp_route_elsewhere (vrf after : Vrf) (row : RouteRow) (given : after.routeRows = vrf.routeRows ++ [row])
    (route : Route) (other : routeRowKey row ≠ routeKey route) : ecmpRoute after route = ecmpRoute vrf route := by
  rw [ecmpRoute, current_row_given vrf after row given, if_neg other, ecmpRoute]

theorem held_state_is_resolved (ip : String) :
    isResolved (some (heldState vrf ⟨.ipaddr, ip⟩)) = (resolvedEgress vrf ip).isSome := by
  change isResolved (some ((resolvedEgress vrf ip).elim NhState.unresolved NhState.resolved)) = _
  cases resolvedEgress vrf ip <;> rfl

theorem resolved_nexthop_address (row : NexthopRow) (entry : OfprotoNexthop) (ip : String)
    (resolved : resolvedNexthop vrf (nhRowId row) = some entry) (same : entry.nh = ⟨.ipaddr, ip⟩) :
    row.ipAddress = some ip ∧ (resolvedEgress vrf ip).isSome := by
  obtain rfl := resolved_nexthop_held vrf _ entry resolved
  rw [held_nexthop_nh] at same
  rw [same] at resolved
  refine ⟨?_, ?_⟩
  · cases stored : row.ipAddress with
    | none => simp [nhRowId, nhQueryId, stored] at same
    | some address => simpa [nhRowId, nhQueryId, stored] using same
  · obtain ⟨egress, found, _⟩ := Option.map_eq_some_iff.mp resolved
    rw [found]
    rfl

theorem ecmp_nexthops_no_mix (rows : List NexthopRow) :
    NoMix (fun ip => if ⟨.ipaddr, ip⟩ ∈ (ecmpNexthops vrf rows).map OfprotoNexthop.nh then
      some (heldState vrf ⟨.ipaddr, ip⟩) else none) := by
  intro resolved placeholder up down
  dsimp only at up down
  split at up
  case isFalse => cases up
  case isTrue sent =>
    split at down
    case isFalse => cases down
    case isTrue also =>
      have idle : isResolved (some (heldState vrf ⟨.ipaddr, placeholder⟩)) = false := by rw [down]; rfl
      rw [held_state_is_resolved] at up idle
      obtain ⟨entry, listed, same⟩ := List.mem_map.mp sent
      obtain ⟨other, present, otherSame⟩ := List.mem_map.mp also
      unfold ecmpNexthops at listed present
      by_cases none_ : rows.filterMap (fun row => resolvedNexthop vrf (nhRowId row)) = []
      · rw [if_pos none_] at listed present
        obtain rfl := Option.some.inj ((Option.mem_toList.mp listed).symm.trans (Option.mem_toList.mp present))
        obtain rfl := congrArg NhId.id (same.symm.trans otherSame)
        rw [idle] at up
        cases up
      · rw [if_neg none_] at present
        obtain ⟨row, _, found⟩ := List.mem_filterMap.mp present
        have resolvedToo := (resolved_nexthop_address vrf row other placeholder found otherSame).2
        rw [idle] at resolvedToo
        cases resolvedToo

theorem displaced_add (row : RouteRow) (apart : ∀ nh ∈ usableNhs row, NhRowApart env nh)
    (fresh : ∀ route ∈ vrf.allRoutes, routePfx route ≠ row.pfx) (owned : HwOwned vrf)
    (clean : ∀ route ∈ vrf.allRoutes, ecmpRoute vrf route → NoMix (heldAddress vrf route.self)) :
    ∀ route ∈ (vrfRouteAdd env vrf row).allRoutes, ecmpRoute (vrfRouteAdd env vrf row) route →
      NoMix (heldAddress (vrfRouteAdd env vrf row) route.self) := by
  obtain ⟨status, added⟩ := vrf_route_add_eq env vrf row apart
  have given : (vrfRouteAdd env vrf row).routeRows = vrf.routeRows ++ [row] := by rw [added]
  intro route member ecmp
  rw [route_add_routes env vrf row apart] at member
  rcases List.mem_cons.mp member with rfl | old
  · have multiple : row.nexthops.length > 1 := by
      rw [ecmp_route_given vrf _ row given (addedRoute vrf row) rfl] at ecmp
      exact of_decide_eq_true ecmp
    have unheld : ∀ id, hwNexthop vrf.up.calls (routeFamily (newRouteRef vrf row).isIpv6) row.pfx id = none := by
      intro id
      refine Option.not_isSome_iff_eq_none.mp (fun held => ?_)
      obtain ⟨other, present, same, _⟩ := owned.owned _ _ id held
      exact fresh other present same.2
    have sent : heldAddress (vrfRouteAdd env vrf row) (addedRoute vrf row).self =
        fun ip => if ⟨.ipaddr, ip⟩ ∈ (ecmpNexthops vrf (usableNhs row)).map OfprotoNexthop.nh then
          some (heldState vrf ⟨.ipaddr, ip⟩) else none := by
      funext ip
      rw [heldAddress, route_add_calls env vrf row apart]
      refine (hw_nexthop_add vrf vrf.up.calls (newRouteRef vrf row) _
        (held_entries vrf _ _ (added_ofp_held vrf row)) ⟨.ipaddr, ip⟩).trans ?_
      rw [addedOfp, if_pos multiple]
      exact if_congr Iff.rfl rfl (unheld _)
    rw [sent]
    exact ecmp_nexthops_no_mix vrf (usableNhs row)
  · have other : routeRowKey row ≠ routeKey route := fun same => fresh route old (congrArg Prod.snd same).symm
    rw [ecmp_route_elsewhere vrf _ row given route other] at ecmp
    have same : heldAddress (vrfRouteAdd env vrf row) route.self = heldAddress vrf route.self := by
      funext ip
      rw [heldAddress, route_add_calls env vrf row apart,
        hw_nexthop_elsewhere _ _ _ _ _ _ (fun equal => fresh route old equal.2.symm)]
    rw [same]
    exact clean route old ecmp

theorem displaced_delete (member : route ∈ vrf.allRoutes) (owned : HwOwned vrf)
    (clean : ∀ route ∈ vrf.allRoutes, ecmpRoute vrf route → NoMix (heldAddress vrf route.self)) :
    ∀ other ∈ (vrfRouteDelete env vrf route).allRoutes, ecmpRoute (vrfRouteDelete env vrf route) other →
      NoMix (heldAddress (vrfRouteDelete env vrf route) other.self) := by
  intro other present ecmp
  have rows : (vrfRouteDelete env vrf route).routeRows = vrf.routeRows := by
    rw [vrf_route_delete_eq]
    rfl
  rw [ecmpRoute, currentRow, rows] at ecmp
  rw [route_delete_routes] at present
  obtain ⟨old, addrDiffers⟩ := (Keyed.mem_remove routeAddr).mp present
  have same : heldAddress (vrfRouteDelete env vrf route) other.self = heldAddress vrf other.self := by
    funext ip
    rw [heldAddress, route_delete_calls, hw_nexthop_elsewhere]
    intro at_
    exact addrDiffers (congrArg routeAddr (same_pfx_route vrf owned other route old member at_).symm)
  rw [same]
  exact clean other old ecmp

def ModifyDisplaces (env : Env) (vrf : Vrf) (route : Route) (row : RouteRow) : Prop :=
  row.nexthops.length > 1 →
    (∃ nh ∈ keptNexthops route row, ∃ ip ∈ nh.ipAddr, heldAddress vrf route.self ip = some .unresolved) →
    (∀ nh ∈ keptNexthops route row, ∀ ip ∈ nh.ipAddr, isResolved (heldAddress vrf route.self ip) = false) ∧
      ∀ nh ∈ freshNhs env route row, ∀ ip ∈ nh.ipAddress, resolvedEgress vrf ip = none

instance (env : Env) (vrf : Vrf) (route : Route) (row : RouteRow) : Decidable (ModifyDisplaces env vrf route row) :=
  inferInstanceAs (Decidable (row.nexthops.length > 1 → (∃ nh ∈ keptNexthops route row, ∃ ip ∈ nh.ipAddr, _) → _ ∧ _))

theorem nh_row_id_address (row : NexthopRow) (ip : String) (address : row.ipAddress = some ip) :
    nhRowId row = ⟨.ipaddr, ip⟩ := by
  rw [nhRowId, address]
  rfl

theorem modify_sent_address (row : RouteRow) (multiple : row.nexthops.length > 1) (ip : String) :
    ⟨.ipaddr, ip⟩ ∈ (modifySent env vrf route row).map OfprotoNexthop.nh ↔
      (∃ nh ∈ freshNhs env route row, nh.ipAddress = some ip) ∧ (resolvedEgress vrf ip).isSome := by
  rw [modifySent, sentNexthops, if_pos (decide_eq_true multiple)]
  constructor
  · intro sent
    obtain ⟨entry, listed, same⟩ := List.mem_map.mp sent
    obtain ⟨nh, fresh, resolved⟩ := List.mem_filterMap.mp listed
    obtain ⟨address, live⟩ := resolved_nexthop_address vrf nh entry ip resolved same
    exact ⟨⟨nh, fresh, address⟩, live⟩
  · rintro ⟨⟨nh, fresh, address⟩, live⟩
    obtain ⟨egress, found⟩ := Option.isSome_iff_exists.mp live
    refine List.mem_map.mpr ⟨⟨⟨.ipaddr, ip⟩, .resolved egress⟩, List.mem_filterMap.mpr ⟨nh, fresh, ?_⟩, rfl⟩
    rw [nh_row_id_address nh ip address, resolvedNexthop]
    exact congrArg (Option.map _) found

theorem fresh_not_kept (row : RouteRow) (one : ∀ nh ∈ route.nexthops, NhExclusive nh)
    (ip : String) (kept : ∃ nh ∈ keptNexthops route row, nh.ipAddr = some ip) :
    ¬ ∃ nh ∈ freshNhs env route row, nh.ipAddress = some ip := by
  rintro ⟨fresh, listed, address⟩
  obtain ⟨nh, present, same⟩ := kept
  refine of_decide_eq_true (List.mem_filter.mp listed).2 (List.mem_map.mpr ⟨nh, present, ?_⟩)
  rw [nh_row_id_address fresh ip address, exclusive_address_id nh (one nh (List.mem_filter.mp present).1) ip same]

theorem modified_held (row : RouteRow) (multiple : row.nexthops.length > 1)
    (member : route ∈ vrf.allRoutes) (owned : HwOwned vrf) (ip : String) :
    hwNexthop (vrf.up.calls ++ modifiedRequests env vrf route row) (routeFamily route.self.isIpv6) route.self.pfx
        ⟨.ipaddr, ip⟩ =
      if ∃ nh ∈ keptNexthops route row, nh.ipAddr = some ip then heldAddress vrf route.self ip
      else if (∃ nh ∈ freshNhs env route row, nh.ipAddress = some ip) ∧ (resolvedEgress vrf ip).isSome then
        some (heldState vrf ⟨.ipaddr, ip⟩)
      else none := by
  have one := route_cache_exclusive vrf owned.cache route member
  have sent := modify_sent_address env vrf route row multiple ip
  rw [hw_nexthop_modify]
  by_cases kept : ∃ nh ∈ keptNexthops route row, nh.ipAddr = some ip
  · obtain ⟨nh, present, address⟩ := kept
    have stays := kept_not_gone env route row one nh present
    rw [exclusive_address_id nh (one nh (List.mem_filter.mp present).1) ip address] at stays
    have unsent := fun listed => fresh_not_kept env route row one ip ⟨nh, present, address⟩ (sent.mp listed).1
    rw [if_neg unsent, if_neg stays, if_pos ⟨nh, present, address⟩]
  · rw [if_neg kept]
    refine if_congr sent rfl ?_
    split
    case isTrue => rfl
    case isFalse stays =>
      refine Option.not_isSome_iff_eq_none.mp (fun held => kept ?_)
      obtain ⟨nh, present, same⟩ := hw_owned_own vrf owned route member _ held
      exact ⟨nh, not_gone_kept env route row nh present (same ▸ stays), address_of_id nh (one nh present) ip same⟩

theorem modified_no_mix_iff (row : RouteRow) (multiple : row.nexthops.length > 1)
    (member : route ∈ vrf.allRoutes) (owned : HwOwned vrf) :
    NoMix (fun ip => hwNexthop (vrf.up.calls ++ modifiedRequests env vrf route row) (routeFamily route.self.isIpv6)
      route.self.pfx ⟨.ipaddr, ip⟩) ↔ ModifyDisplaces env vrf route row := by
  have one := route_cache_exclusive vrf owned.cache route member
  have held := modified_held env vrf route row multiple member owned
  constructor
  · rintro clean _ ⟨nh, kept, placeholder, address, down⟩
    have downAfter := (held placeholder).trans ((if_pos ⟨nh, kept, address⟩).trans down)
    refine ⟨?_, ?_⟩
    · intro other present ip otherAddress
      refine Bool.eq_false_iff.mpr (fun up => clean ip placeholder ?_ downAfter)
      dsimp only
      rwa [held ip, if_pos ⟨other, present, otherAddress⟩]
    · intro fresh listed ip freshAddress
      refine Option.not_isSome_iff_eq_none.mp (fun live => clean ip placeholder ?_ downAfter)
      have new : ¬ ∃ nh ∈ keptNexthops route row, nh.ipAddr = some ip :=
        fun old => fresh_not_kept env route row one ip old ⟨fresh, listed, freshAddress⟩
      dsimp only
      rwa [held ip, if_neg new, if_pos ⟨⟨fresh, listed, freshAddress⟩, live⟩, held_state_is_resolved]
  · intro displaces resolved placeholder up down
    dsimp only at up down
    rw [held] at up down
    split at down
    case isTrue keptDown =>
      obtain ⟨nh, kept, address⟩ := keptDown
      obtain ⟨allKept, allFresh⟩ := displaces multiple ⟨nh, kept, placeholder, address, down⟩
      split at up
      case isTrue keptUp =>
        obtain ⟨other, present, otherAddress⟩ := keptUp
        exact Bool.eq_false_iff.mp (allKept other present resolved otherAddress) up
      case isFalse =>
        split at up
        case isTrue sent =>
          obtain ⟨⟨fresh, listed, freshAddress⟩, live⟩ := sent
          rw [allFresh fresh listed resolved freshAddress] at live
          cases live
        case isFalse => cases up
    case isFalse =>
      split at down
      case isTrue sent =>
        have live := held_state_is_resolved vrf placeholder
        rw [down, sent.2] at live
        cases live
      case isFalse => cases down

theorem displaced_modify_iff (row : RouteRow)
    (apart : ∀ nh ∈ usableNhs row, NhRowApart env nh) (found : vrfRouteHashLookup vrf row = some route) (owned : HwOwned vrf)
    (clean : ∀ route ∈ vrf.allRoutes, ecmpRoute vrf route → NoMix (heldAddress vrf route.self)) :
    (∀ other ∈ (vrfRouteModify env vrf route row).allRoutes, ecmpRoute (vrfRouteModify env vrf route row) other →
      NoMix (heldAddress (vrfRouteModify env vrf route row) other.self)) ↔ ModifyDisplaces env vrf route row := by
  have member := Keyed.lookup_mem routeKey found
  have key : routeRowKey row = routeKey route := (Keyed.lookup_key routeKey found).symm
  have one := route_cache_exclusive vrf owned.cache route member
  have addrs := route_cache_nexthop_addrs vrf owned.cache route member
  have calls := route_modify_calls env vrf route row apart one addrs
  have routes := route_modify_routes env vrf route row apart one addrs
  obtain ⟨status, modified⟩ := vrf_route_modify_eq env vrf route row apart one addrs
  have given : (vrfRouteModify env vrf route row).routeRows = vrf.routeRows ++ [row] := by rw [modified]
  have ecmpHere := ecmp_route_given vrf _ row given (modifiedRoute env vrf route row) key
  have heldHere : heldAddress (vrfRouteModify env vrf route row) (modifiedRoute env vrf route row).self = fun ip =>
      hwNexthop (vrf.up.calls ++ modifiedRequests env vrf route row) (routeFamily route.self.isIpv6) route.self.pfx
        ⟨.ipaddr, ip⟩ := by
    funext ip
    rw [heldAddress, calls]
    rfl
  rw [routes]
  constructor
  · intro after multiple
    have here := after (modifiedRoute env vrf route row) ((Keyed.mem_replace routeAddr).mpr (.inr ⟨route, member, rfl, rfl⟩))
      (ecmpHere.trans (decide_eq_true multiple))
    rw [heldHere] at here
    exact (modified_no_mix_iff env vrf route row multiple member owned).mp here multiple
  · intro displaces other present ecmp
    rcases (Keyed.mem_replace routeAddr).mp present with ⟨old, addrDiffers⟩ | ⟨_, _, _, rfl⟩
    · have different : other ≠ route := fun same => addrDiffers (congrArg routeAddr same)
      have otherKey : routeRowKey row ≠ routeKey other := fun same =>
        different (Keyed.unique_mem_eq routeKey owned.cache.keys old member (same.symm.trans key))
      have same : heldAddress (vrfRouteModify env vrf route row) other.self = heldAddress vrf other.self := by
        funext ip
        rw [heldAddress, calls, hwNexthop, hw_route_modify_elsewhere, heldAddress, hwNexthop]
        exact fun at_ => different (same_pfx_route vrf owned other route old member at_).symm
      rw [ecmp_route_elsewhere vrf _ row given other otherKey] at ecmp
      rw [same]
      exact clean other old ecmp
    · rw [heldHere]
      rw [ecmpHere] at ecmp
      exact (modified_no_mix_iff env vrf route row (of_decide_eq_true ecmp) member owned).mpr displaces

def PushDisplaces (vrf : Vrf) (ip : String) (state : NhState) : Prop :=
  ∀ route ∈ vrf.allRoutes, ecmpRoute vrf route → (∃ nh ∈ route.nexthops, nh.ipAddr = some ip) →
    ∀ nh ∈ route.nexthops, ∀ other ∈ nh.ipAddr, other ≠ ip → clashes state (heldAddress vrf route.self other) = false

instance (vrf : Vrf) (ip : String) (state : NhState) : Decidable (PushDisplaces vrf ip state) :=
  inferInstanceAs (Decidable (∀ route ∈ vrf.allRoutes, ecmpRoute vrf route → (∃ nh ∈ route.nexthops, _) →
    ∀ nh ∈ route.nexthops, ∀ other ∈ nh.ipAddr, other ≠ ip → _))

theorem clashes_held (state : NhState) (held : Option NhState) (clash : clashes state held = true) : held.isSome := by
  cases state with
  | unresolved => exact resolved_is_some held clash
  | resolved egress =>
      rw [of_decide_eq_true clash]
      rfl

theorem displaced_push_iff (vrf after : Vrf) (ip : String) (push : Option NhState) (pushed : NeighborPush vrf after ip push)
    (owned : HwOwned vrf) (ownedAfter : HwOwned after)
    (clean : ∀ route ∈ vrf.allRoutes, ecmpRoute vrf route → NoMix (heldAddress vrf route.self)) :
    (∀ route ∈ after.allRoutes, ecmpRoute after route → NoMix (heldAddress after route.self)) ↔
      ∀ state ∈ push, PushDisplaces vrf ip state := by
  obtain ⟨calls, neighbors, status, rows, rfl, told⟩ := pushed
  have others : ∀ (ref : RouteRef) other, other ≠ ip →
      heldAddress (vrf.withNeighbors calls neighbors status rows) ref other = heldAddress vrf ref other :=
    fun ref other different => (told vrf.up.calls _ _).2 _ (fun same => different (congrArg NhId.id same))
  have here : ∀ route ∈ vrf.allRoutes, (∃ nh ∈ route.nexthops, nh.ipAddr = some ip) →
      heldAddress (vrf.withNeighbors calls neighbors status rows) route.self ip = push.or (heldAddress vrf route.self ip) :=
    fun route member uses => (told vrf.up.calls _ _).1 ⟨route, member, ⟨rfl, rfl⟩, uses⟩
  have unchanged : ∀ route ∈ vrf.allRoutes, ecmpRoute vrf route →
      heldAddress (vrf.withNeighbors calls neighbors status rows) route.self ip = heldAddress vrf route.self ip →
      NoMix (heldAddress (vrf.withNeighbors calls neighbors status rows) route.self) := by
    intro route member ecmp stays
    have same : heldAddress (vrf.withNeighbors calls neighbors status rows) route.self = heldAddress vrf route.self := by
      funext other
      by_cases equal : other = ip
      · rw [equal, stays]
      · exact others route.self other equal
    rw [same]
    exact clean route member ecmp
  constructor
  · intro after state pushed route member ecmp uses nh _ other _ different
    have reached := here route member uses
    rw [Option.mem_def.mp pushed, Option.some_or] at reached
    exact (no_mix_update_iff _ _ ip state (clean route member ecmp) reached (others route.self)).mp
      (after route member ecmp) other different
  · intro displaces route member ecmp
    by_cases uses : ∃ nh ∈ route.nexthops, nh.ipAddr = some ip
    · have reached := here route member uses
      cases push with
      | none => exact unchanged route member ecmp reached
      | some state =>
          refine (no_mix_update_iff _ _ ip state (clean route member ecmp) reached (others route.self)).mpr ?_
          intro other different
          refine Bool.eq_false_iff.mpr (fun clash => ?_)
          obtain ⟨nh, present, address⟩ := held_address_own vrf owned route member other (clashes_held _ _ clash)
          exact Bool.eq_false_iff.mp (displaces state rfl route member ecmp uses nh present other address different) clash
    · -- Neither before nor after does the provider hold an address that the route does not use.
      refine unchanged route member ecmp ?_
      rw [Option.not_isSome_iff_eq_none.mp (fun held => uses (held_address_own vrf owned route member ip held))]
      exact Option.not_isSome_iff_eq_none.mp (fun held => uses (held_address_own _ ownedAfter route member ip held))

def EventDisplaces (vrf : Vrf) (input : Env × VrfOp) : Prop :=
  ∀ push ∈ stepPush vrf input, PushDisplaces vrf push.1 push.2

instance (vrf : Vrf) (input : Env × VrfOp) : Decidable (EventDisplaces vrf input) :=
  inferInstanceAs (Decidable (∀ push ∈ stepPush vrf input, PushDisplaces vrf push.1 push.2))

def Displaces (vrf : Vrf) (input : Env × VrfOp) : Prop :=
  match input.2 with
  | .routeModify row => ∀ route ∈ vrfRouteHashLookup vrf row, ModifyDisplaces input.1 vrf route row
  | _ => EventDisplaces vrf input

instance (vrf : Vrf) (input : Env × VrfOp) : Decidable (Displaces vrf input) :=
  match input with
  | (env, .routeModify row) =>
      inferInstanceAs (Decidable (∀ route ∈ vrfRouteHashLookup vrf row, ModifyDisplaces env vrf route row))
  | (env, .routeAdd row) => instDecidableEventDisplaces vrf (env, .routeAdd row)
  | (env, .routeDelete key) => instDecidableEventDisplaces vrf (env, .routeDelete key)
  | (env, .neighborCreate row) => instDecidableEventDisplaces vrf (env, .neighborCreate row)
  | (env, .neighborModify row) => instDecidableEventDisplaces vrf (env, .neighborModify row)
  | (env, .neighborDelete ipAddress) => instDecidableEventDisplaces vrf (env, .neighborDelete ipAddress)
  | (env, .ports ports) => instDecidableEventDisplaces vrf (env, .ports ports)

theorem event_displaces_silent (input : Env × VrfOp) (silent : stepPush vrf input = none) :
    EventDisplaces vrf input := by
  intro push told
  rw [silent] at told
  cases told

theorem displaced_event_iff (env : Env) (op : VrfOp) (ip : String) (about : neighborOpAddress op = some ip)
    (owned : HwOwned vrf) (ownedAfter : HwOwned (vrfStep vrf (env, op)))
    (clean : ∀ route ∈ vrf.allRoutes, ecmpRoute vrf route → NoMix (heldAddress vrf route.self)) :
    (∀ route ∈ (vrfStep vrf (env, op)).allRoutes, ecmpRoute (vrfStep vrf (env, op)) route →
      NoMix (heldAddress (vrfStep vrf (env, op)) route.self)) ↔ EventDisplaces vrf (env, op) := by
  obtain ⟨push, pushed, told⟩ := vrf_step_push vrf owned.cache env op ip about
  rw [EventDisplaces, told, displaced_push_iff vrf _ ip push pushed owned ownedAfter clean]
  cases push <;> simp

theorem displaced_step_iff (input : Env × VrfOp) (owned : HwOwned vrf) (displaced : PlaceholdersDisplaced vrf)
    (valid : RouteOpValid vrf input) : PlaceholdersDisplaced (vrfStep vrf input) ↔ Displaces vrf input := by
  have ownedAfter := hw_owned_step vrf input owned valid
  have clean := (displaced_iff vrf owned).mp displaced
  rw [displaced_iff _ ownedAfter]
  obtain ⟨env, op⟩ := input
  cases op with
  | routeAdd row =>
      exact iff_of_true (displaced_add env vrf row valid.1 valid.2 owned clean) (event_displaces_silent vrf _ rfl)
  | routeModify row =>
      cases found : vrfRouteHashLookup vrf row with
      | none =>
          have idle : vrfStep vrf (env, .routeModify row) = vrf := by simp only [vrfStep, found]
          rw [idle]
          exact iff_of_true clean (by simp [Displaces, found])
      | some route =>
          have step : vrfStep vrf (env, .routeModify row) = vrfRouteModify env vrf route row := by simp only [vrfStep, found]
          rw [step, displaced_modify_iff env vrf route row valid found owned clean]
          simp [Displaces, found]
  | routeDelete key =>
      refine iff_of_true ?_ (event_displaces_silent vrf _ rfl)
      unfold vrfStep
      cases found : Keyed.lookup routeKey key vrf.allRoutes with
      | none => simpa only [found] using clean
      | some route => simpa only [found] using displaced_delete env vrf route (Keyed.lookup_mem routeKey found) owned clean
  | neighborCreate row => exact displaced_event_iff vrf env (.neighborCreate row) row.ipAddress rfl owned ownedAfter clean
  | neighborModify row => exact displaced_event_iff vrf env (.neighborModify row) row.ipAddress rfl owned ownedAfter clean
  | neighborDelete ip => exact displaced_event_iff vrf env (.neighborDelete ip) ip rfl owned ownedAfter clean
  | ports ports => exact iff_of_true clean (event_displaces_silent vrf _ rfl)

end Ecmp

theorem placeholders_displaced_iff (row : VrfRow) (inputs : List (Env × VrfOp))
    (valid : Runs.Along vrfStep RouteOpValid (vrfCreate row) inputs) :
    Runs.Always vrfStep PlaceholdersDisplaced (vrfCreate row) inputs ↔
      Runs.Along vrfStep Displaces (vrfCreate row) inputs := by
  have initial : HwOwned (vrfCreate row) ∧ PlaceholdersDisplaced (vrfCreate row) :=
    ⟨hw_owned_start row, fun _ member => nomatch member⟩
  refine Runs.always_iff_along (fun vrf (inv : HwOwned vrf ∧ PlaceholdersDisplaced vrf) => inv.2) ?_ ?_ initial valid
  · intro vrf input inv holds displaces
    exact ⟨hw_owned_step vrf input inv.1 holds, (displaced_step_iff vrf input inv.1 inv.2 holds).mpr displaces⟩
  · intro vrf input inv holds after
    exact (displaced_step_iff vrf input inv.1 inv.2 holds).mp after

theorem resolved_before_added :
    Runs.Always vrfStep PlaceholdersDisplaced (vrfCreate ⟨"vrf_default", []⟩)
      ([.ports portedVrf.up.ports, .neighborCreate (hostRow 1 "00:00:00:00:00:01" "1" true false),
        .routeAdd (ecmpRow ["2.2.2.2", "10.0.0.2"]), .neighborModify (hostRow 1 "00:00:00:00:00:02" "2" false true),
        .routeModify (ecmpRow ["10.0.0.2", "3.3.3.3"]), .neighborDelete "10.0.0.2"].map (fun op => (plainEnv, op))) := by
  refine (placeholders_displaced_iff ⟨"vrf_default", []⟩ _ ?_).mpr ?_
  · simp only [List.map_cons, List.map_nil, Runs.along_cons, Runs.along_nil, and_true]
    decide
  · simp only [List.map_cons, List.map_nil, Runs.along_cons, Runs.along_nil, and_true]
    decide

-- No neighbor is known, so the first nexthop is the placeholder. The second
-- one resolves, is added as resolved, and the placeholder stays.
theorem later_neighbor_leaves_placeholder :
    let inputs := [VrfOp.ports portedVrf.up.ports, .routeAdd (ecmpRow ["2.2.2.2", "10.0.0.2"]),
      .neighborCreate (hostRow 1 "00:00:00:00:00:01" "1" true false)].map (fun op => (plainEnv, op))
    Runs.Along vrfStep RouteOpValid (vrfCreate ⟨"vrf_default", []⟩) inputs ∧
      ¬ PlaceholdersDisplaced (Runs.run vrfStep (vrfCreate ⟨"vrf_default", []⟩) inputs) := by
  intro inputs
  refine ⟨?_, ?_⟩
  · simp only [inputs, List.map_cons, List.map_nil, Runs.along_cons, Runs.along_nil, and_true]
    decide
  · intro displaced
    have here : ∀ route ∈ (Runs.run vrfStep (vrfCreate ⟨"vrf_default", []⟩) inputs).allRoutes, _ → _ → _ :=
      fun route member ecmp resolved => displaced route member ecmp resolved "2.2.2.2"
    exact absurd here (by decide)

end OpsSwitchd
