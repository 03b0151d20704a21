import OpsSwitchd.EgressRefresh
import OpsSwitchd.RouteFallback
import OpsSwitchd.NeighborRun

set_option autoImplicit false

namespace OpsSwitchd

section Egress

variable (aton : String → Bool) (env : Env) (vrf : Vrf)

theorem held_state_resolved (ip : String) (egress : Int) :
    heldState vrf ⟨.ipaddr, ip⟩ = .resolved egress ↔ resolvedEgress vrf ip = some egress := by
  change (resolvedEgress vrf ip).elim NhState.unresolved NhState.resolved = .resolved egress ↔ _
  cases resolvedEgress vrf ip <;> simp

theorem held_state_port (name : String) (egress : Int) : heldState vrf ⟨.port, name⟩ ≠ .resolved egress :=
  nofun

theorem row_address_id (row : NexthopRow) (ip : String) (address : row.ipAddress = some ip) : nhRowId row = ⟨.ipaddr, ip⟩ := by
  rw [nhRowId, address]
  rfl

theorem resolved_row_sent (row : NexthopRow) (ip : String) (egress : Int) (address : row.ipAddress = some ip)
    (resolved : resolvedEgress vrf ip = some egress) :
    resolvedNexthop vrf (nhRowId row) = some ⟨⟨.ipaddr, ip⟩, .resolved egress⟩ := by
  rw [row_address_id row ip address]
  exact congrArg (Option.map _) resolved

theorem sent_nexthops_resolved (ecmp : Bool) (vrf : Vrf) (rows : List NexthopRow) (row : NexthopRow) (member : row ∈ rows)
    (ip : String) (egress : Int) (address : row.ipAddress = some ip) (resolved : resolvedEgress vrf ip = some egress) :
    ⟨.ipaddr, ip⟩ ∈ (sentNexthops ecmp vrf rows).map OfprotoNexthop.nh := by
  cases ecmp with
  | false =>
      refine List.mem_map.mpr ⟨heldNexthop vrf (nhRowId row), List.mem_map.mpr ⟨row, member, rfl⟩, ?_⟩
      rw [held_nexthop_nh, row_address_id row ip address]
  | true =>
      exact List.mem_map.mpr ⟨_, List.mem_filterMap.mpr ⟨row, member, resolved_row_sent vrf row ip egress address resolved⟩, rfl⟩

theorem ecmp_nexthops_resolved (rows : List NexthopRow) (row : NexthopRow) (member : row ∈ rows) (ip : String)
    (egress : Int) (address : row.ipAddress = some ip) (resolved : resolvedEgress vrf ip = some egress) :
    ⟨.ipaddr, ip⟩ ∈ (ecmpNexthops vrf rows).map OfprotoNexthop.nh := by
  have listed : _ ∈ rows.filterMap (fun row => resolvedNexthop vrf (nhRowId row)) :=
    List.mem_filterMap.mpr ⟨row, member, resolved_row_sent vrf row ip egress address resolved⟩
  rw [ecmpNexthops, if_neg (List.ne_nil_of_mem listed)]
  exact List.mem_map.mpr ⟨_, listed, rfl⟩

theorem added_ofp_resolved (row : RouteRow) (source : NexthopRow) (member : source ∈ usableNhs row) (ip : String)
    (egress : Int) (address : source.ipAddress = some ip) (resolved : resolvedEgress vrf ip = some egress) :
    ⟨.ipaddr, ip⟩ ∈ (addedOfp vrf row).map OfprotoNexthop.nh := by
  unfold addedOfp
  split
  · exact ecmp_nexthops_resolved vrf (usableNhs row) source member ip egress address resolved
  · exact sent_nexthops_resolved false vrf (usableNhs row) source member ip egress address resolved

structure RouteFrame (vrf after : Vrf) : Prop where
  neighbors : after.allNeighbors = vrf.allNeighbors
  ports : after.up.ports = vrf.up.ports
  hosts : ∀ ip, hwHost after.up.calls ip = hwHost vrf.up.calls ip

theorem routed_frame (vrf after : Vrf) (rows : List RouteRow) (routed : Routed vrf after rows) : RouteFrame vrf after := by
  obtain ⟨calls, _, _, _, _, rfl, about⟩ := routed
  refine ⟨rfl, rfl, ?_⟩
  intro ip
  change hwHost (vrf.up.calls ++ calls) ip = _
  rw [hw_host_append]
  refine Keyed.foldl_keeps _ (fun host => host = hwHost vrf.up.calls ip) ?_ rfl
  intro host call member same
  obtain ⟨_, _, rfl⟩ := about call member
  exact same

theorem route_frame_egress (vrf after : Vrf) (frame : RouteFrame vrf after) (ip : String) :
    resolvedEgress after ip = resolvedEgress vrf ip := by
  simp only [resolvedEgress, neighborHashLookup, frame.neighbors]

theorem route_frame_neighbors (vrf after : Vrf) (frame : RouteFrame vrf after)
    (cache : NeighborCache aton vrf) : NeighborCache aton after := by
  refine ⟨by rw [frame.neighbors]; exact cache.unique, ?_⟩
  intro ip
  rw [neighborHashLookup, frame.neighbors]
  exact host_fits_congr aton vrf.up after.up ip frame.ports (frame.hosts ip) _ (cache.fits ip)

def PortsUnresolved (vrf : Vrf) : Prop :=
  ∀ family pfx name egress, hwNexthop vrf.up.calls family pfx ⟨.port, name⟩ ≠ some (.resolved egress)

structure EgressInv (aton : String → Bool) (vrf : Vrf) : Prop where
  owned : HwOwned vrf
  neighbors : NeighborCache aton vrf
  agree : ∀ ip, AgreesAt vrf ip
  unresolved : PortsUnresolved vrf

theorem egress_add (row : RouteRow)
    (apart : ∀ nh ∈ usableNhs row, NhRowApart env nh) (fresh : ∀ route ∈ vrf.allRoutes, routePfx route ≠ row.pfx)
    (inv : EgressInv aton vrf) : EgressInv aton (vrfRouteAdd env vrf row) := by
  have frame := routed_frame _ _ _ (route_add_routed env vrf row)
  have calls := route_add_calls env vrf row apart
  have elsewhere := hw_nexthop_elsewhere vrf.up.calls .add (newRouteRef vrf row) (addedOfp vrf row)
  have here := hw_nexthop_add vrf vrf.up.calls (newRouteRef vrf row) _ (held_entries vrf _ _ (added_ofp_held vrf row))
  have nothing : ∀ id, hwNexthop vrf.up.calls (routeFamily (newRouteRef vrf row).isIpv6) (newRouteRef vrf row).pfx id = none := by
    intro id
    by_contra held
    obtain ⟨route, member, at_, _⟩ := inv.owned.owned _ _ id (Option.ne_none_iff_isSome.mp held)
    exact fresh route member at_.2
  refine ⟨hw_owned_add env vrf row apart fresh inv.owned, route_frame_neighbors aton vrf _ frame inv.neighbors, ?_, ?_⟩
  · intro ip family pfx uses egress
    obtain ⟨route, member, at_, nh, present, address⟩ := uses
    rw [route_add_routes env vrf row apart] at member
    rw [calls, route_frame_egress vrf _ frame]
    rcases List.mem_cons.mp member with rfl | old
    · obtain ⟨rfl, rfl⟩ := at_
      obtain ⟨source, usable, at_, _, _, rfl⟩ := new_nexthops_mem _ _ _ nh (List.mem_reverse.mp present)
      rw [new_nexthop_address] at address
      refine (Eq.congr_left (here ⟨.ipaddr, ip⟩)).trans ?_
      split
      case isTrue => rw [Option.some.injEq, held_state_resolved]
      case isFalse unsent =>
        rw [nothing]
        exact iff_of_false nofun (fun resolved => unsent (added_ofp_resolved vrf row source usable ip egress address resolved))
    · have different : ¬ refAt (newRouteRef vrf row) family pfx := fun same => fresh route old (at_.2.trans same.2.symm)
      rw [elsewhere family pfx different]
      exact inv.agree ip family pfx ⟨route, old, at_, nh, present, address⟩ egress
  · intro family pfx name egress
    rw [calls]
    by_cases same : refAt (newRouteRef vrf row) family pfx
    · obtain ⟨rfl, rfl⟩ := same
      rw [here, nothing]
      split
      · exact fun equal => held_state_port vrf name egress (Option.some.inj equal)
      · exact nofun
    · rw [elsewhere family pfx same]
      exact inv.unresolved family pfx name egress

theorem egress_delete (route : Route) (member : route ∈ vrf.allRoutes)
    (inv : EgressInv aton vrf) : EgressInv aton (vrfRouteDelete env vrf route) := by
  have frame := routed_frame _ _ _ (route_delete_routed env vrf route)
  have calls := route_delete_calls env vrf route
  have elsewhere := hw_nexthop_elsewhere vrf.up.calls .delete route.self
    ((env.order.walk route.nexthops).map (fun nh => heldNexthop vrf (nhId nh)))
  have owned := hw_owned_delete env vrf route member inv.owned
  refine ⟨owned, route_frame_neighbors aton vrf _ frame inv.neighbors, ?_, ?_⟩
  · intro ip family pfx uses egress
    obtain ⟨other, present, at_, found⟩ := uses
    rw [route_delete_routes] at present
    obtain ⟨old, addrDiffers⟩ := (Keyed.mem_remove routeAddr).mp present
    have different : ¬ refAt route.self family pfx := by
      intro same
      exact addrDiffers (congrArg routeAddr (Keyed.unique_mem_eq routePfx inv.owned.pfxs old member (at_.2.trans same.2.symm)))
    rw [calls, elsewhere family pfx different, route_frame_egress vrf _ frame]
    exact inv.agree ip family pfx ⟨other, old, at_, found⟩ egress
  · intro family pfx name egress held
    by_cases same : refAt route.self family pfx
    · -- nothing is held for a prefix that no cached route has
      obtain ⟨other, present, at_, _⟩ := owned.owned family pfx _ (by rw [held]; rfl)
      rw [route_delete_routes] at present
      obtain ⟨old, addrDiffers⟩ := (Keyed.mem_remove routeAddr).mp present
      exact addrDiffers (congrArg routeAddr (Keyed.unique_mem_eq routePfx inv.owned.pfxs old member (at_.2.trans same.2.symm)))
    · rw [calls, elsewhere family pfx same] at held
      exact inv.unresolved family pfx name egress held

theorem unsent_resolved_kept (route : Route) (row : RouteRow) (nh : Nexthop)
    (present : nh ∈ (modifiedRoute env vrf route row).nexthops) (ip : String) (address : nh.ipAddr = some ip) (egress : Int)
    (resolved : resolvedEgress vrf ip = some egress)
    (unsent : ⟨.ipaddr, ip⟩ ∉ (modifySent env vrf route row).map OfprotoNexthop.nh) : nh ∈ keptNexthops route row := by
  rcases List.mem_append.mp present with new | old
  · obtain ⟨source, fresh, at_, _, _, rfl⟩ := new_nexthops_mem _ _ _ nh (List.mem_reverse.mp new)
    rw [new_nexthop_address] at address
    exact absurd (sent_nexthops_resolved _ vrf (freshNhs env route row) source fresh ip egress address resolved) unsent
  · exact old

theorem ip_id_address (nh : Nexthop) (one : NhExclusive nh) (ip : String) (id : nhId nh = ⟨.ipaddr, ip⟩) :
    nh.ipAddr = some ip := by
  unfold NhExclusive at one
  unfold nhId at id
  cases port : nh.portName with
  | some name =>
      rw [port] at id
      cases id
  | none =>
      rw [port] at id one
      obtain ⟨address, stored⟩ := Option.isSome_iff_exists.mp (one.trans rfl)
      rw [stored] at id ⊢
      exact congrArg some (congrArg NhId.id id)

theorem modified_agrees (route : Route) (row : RouteRow) (member : route ∈ vrf.allRoutes)
    (owned : HwOwned vrf) (agree : ∀ ip, AgreesAt vrf ip) (nh : Nexthop)
    (present : nh ∈ (modifiedRoute env vrf route row).nexthops) (ip : String) (address : nh.ipAddr = some ip) (egress : Int) :
    hwNexthop (vrf.up.calls ++ modifiedRequests env vrf route row) (routeFamily route.self.isIpv6) route.self.pfx
      ⟨.ipaddr, ip⟩ = some (.resolved egress) ↔ resolvedEgress vrf ip = some egress := by
  have one := route_cache_exclusive vrf owned.cache route member
  have before := fun old inside stored => agree ip _ _ ⟨route, member, ⟨rfl, rfl⟩, old, inside, stored⟩ egress
  rw [hw_nexthop_modify]
  split
  case isTrue => rw [Option.some.injEq, held_state_resolved]
  case isFalse unsent =>
    have kept := unsent_resolved_kept env vrf route row nh present ip address egress
    split
    case isTrue gone =>
      refine iff_of_false nofun (fun resolved => ?_)
      have stays := kept_not_gone env route row one nh (kept resolved unsent)
      rw [exclusive_address_id nh (one nh (List.mem_filter.mp (kept resolved unsent)).1) ip address] at stays
      exact stays gone
    case isFalse =>
      constructor
      · intro held
        obtain ⟨old, inside, id⟩ := hw_owned_own vrf owned route member ⟨.ipaddr, ip⟩ (by rw [held]; rfl)
        exact (before old inside (ip_id_address old (one old inside) ip id)).mp held
      · intro resolved
        exact (before nh (List.mem_filter.mp (kept resolved unsent)).1 address).mpr resolved

theorem egress_modify (route : Route) (row : RouteRow)
    (apart : ∀ nh ∈ usableNhs row, NhRowApart env nh) (member : route ∈ vrf.allRoutes) (inv : EgressInv aton vrf) :
    EgressInv aton (vrfRouteModify env vrf route row) := by
  have one := route_cache_exclusive vrf inv.owned.cache route member
  have addrs := route_cache_nexthop_addrs vrf inv.owned.cache route member
  have frame := routed_frame _ _ _ (route_modify_routed env vrf route row)
  have calls := route_modify_calls env vrf route row apart one addrs
  refine ⟨hw_owned_modify env vrf route row apart member inv.owned, route_frame_neighbors aton vrf _ frame inv.neighbors,
    ?_, ?_⟩
  · intro ip family pfx uses egress
    obtain ⟨other, present, at_, nh, inside, address⟩ := uses
    rw [route_modify_routes env vrf route row apart one addrs] at present
    rw [calls, route_frame_egress vrf _ frame]
    rcases (Keyed.mem_replace routeAddr).mp present with ⟨old, addrDiffers⟩ | ⟨_, _, _, rfl⟩
    · have different : ¬ refAt route.self family pfx := by
        intro same
        exact addrDiffers (congrArg routeAddr
          (Keyed.unique_mem_eq routePfx inv.owned.pfxs old member (at_.2.trans same.2.symm)))
      rw [hwNexthop, hw_route_modify_elsewhere env vrf route row family pfx different, ← hwNexthop]
      exact inv.agree ip family pfx ⟨other, old, at_, nh, inside, address⟩ egress
    · obtain ⟨rfl, rfl⟩ := at_
      exact modified_agrees env vrf route row member inv.owned inv.agree nh inside ip address egress
  · intro family pfx name egress
    rw [calls]
    by_cases same : refAt route.self family pfx
    · obtain ⟨rfl, rfl⟩ := same
      rw [hw_nexthop_modify]
      split
      · exact fun equal => held_state_port vrf name egress (Option.some.inj equal)
      · split
        · intro equal
          cases equal
        · exact inv.unresolved _ _ name egress
    · rw [hwNexthop, hw_route_modify_elsewhere env vrf route row family pfx same, ← hwNexthop]
      exact inv.unresolved family pfx name egress

def PortsPresent (vrf : Vrf) : Prop :=
  ∀ neighbor ∈ vrf.allNeighbors, ∀ name ∈ neighbor.portName, (vrf.up.portLookup name).isSome

instance (vrf : Vrf) : Decidable (PortsPresent vrf) := by
  unfold PortsPresent
  infer_instance

theorem egress_refresh (vrf after : Vrf) (ip : String)
    (view : Option (Option String × Option String)) (frame : NeighborFrame vrf after ip)
    (done : NeighborDone aton env vrf after ip view) (refresh : Refresh vrf after ip) (inv : EgressInv aton vrf) :
    EgressInv aton after := by
  refine ⟨hw_owned_neighbor vrf after ip frame inv.owned, neighbor_cache_done aton env vrf after ip view inv.neighbors done,
    refresh_agrees vrf after ip refresh inv.agree, ?_⟩
  intro family pfx name egress
  rw [refresh.others family pfx _ (by simp)]
  exact inv.unresolved family pfx name egress

theorem egress_create (contract : HostContract aton env) (vrf : Vrf) (row : NeighborRow)
    (absent : neighborHashLookup vrf row.ipAddress = none) (ports : PortsPresent (neighborCreate env vrf row))
    (inv : EgressInv aton vrf) : EgressInv aton (neighborCreate env vrf row) := by
  refine egress_refresh aton env vrf _ row.ipAddress _ (neighbor_create_frame env vrf row)
    (neighbor_create_done aton env contract vrf row inv.neighbors absent ?_)
    (neighbor_create_refresh env vrf inv.owned.cache row contract.adds absent) inv
  intro unwanted
  have idle : hostWanted env (newNeighbor env row) = false := by rw [host_wanted_eq, contract.parse, unwanted]; rfl
  rw [neighbor_create_eq, neighbor_program_unwanted env _ _ idle] at ports
  exact ports (newNeighbor env row) (by simp [Vrf.withNeighbors])

theorem egress_neighbor_modify (contract : HostContract aton env) (vrf : Vrf)
    (neighbor : Neighbor) (row : NeighborRow) (found : neighborHashLookup vrf neighbor.ipAddress = some neighbor)
    (same : row.ipAddress = neighbor.ipAddress) (ports : PortsPresent (neighborModify env vrf neighbor row))
    (inv : EgressInv aton vrf) : EgressInv aton (neighborModify env vrf neighbor row) := by
  refine egress_refresh aton env vrf _ neighbor.ipAddress _ (neighbor_modify_frame env vrf neighbor row)
    (neighbor_modify_done aton env contract vrf neighbor row inv.neighbors found same ?_)
    (neighbor_modify_refresh aton env contract vrf inv.owned.cache inv.neighbors neighbor row found) inv
  intro unwanted
  have shape := neighbor_modify_shape aton env contract vrf neighbor row inv.neighbors found
  have stored : ∀ calls status rows egress, updatedNeighbor neighbor row egress ∈ (vrf.withNeighbors calls
      (Keyed.replace Neighbor.ipAddress neighbor.ipAddress (fun _ => updatedNeighbor neighbor row egress) vrf.allNeighbors)
      status rows).allNeighbors := fun _ _ _ _ => (Keyed.mem_replace Neighbor.ipAddress).mpr
        (.inr ⟨neighbor, Keyed.lookup_mem Neighbor.ipAddress found, rfl, rfl⟩)
  generalize neighborModify env vrf neighbor row = after at shape ports
  cases shape with
  | same status rows live samePort sameMac => exact ports _ (stored _ _ _ _)
  | stored calls status rows before lost =>
      have idle : hostWanted env (updatedNeighbor neighbor row (-1)) = false := by
        rw [host_wanted_eq, contract.parse, unwanted]
        rfl
      rw [programGains, neighbor_program_unwanted env _ _ idle, ite_self] at ports
      exact ports _ (stored _ _ _ _)

theorem egress_step (input : Env × VrfOp) (inv : EgressInv aton vrf)
    (valid : RouteOpValid vrf input) (contract : HostContract aton input.1) (ports : PortsPresent (vrfStep vrf input)) :
    EgressInv aton (vrfStep vrf input) := by
  obtain ⟨env, op⟩ := input
  cases op with
  | routeAdd row => exact egress_add aton env vrf row valid.1 valid.2 inv
  | routeModify row =>
      unfold vrfStep
      cases found : vrfRouteHashLookup vrf row with
      | none => simpa only [found] using inv
      | some route => simpa only [found] using egress_modify aton env vrf route row valid (Keyed.lookup_mem routeKey found) inv
  | routeDelete key =>
      unfold vrfStep
      cases found : Keyed.lookup routeKey key vrf.allRoutes with
      | none => simpa only [found] using inv
      | some route => simpa only [found] using egress_delete aton env vrf route (Keyed.lookup_mem routeKey found) inv
  | neighborCreate row =>
      simp only [vrfStep, addNewNeighbor] at ports ⊢
      cases found : neighborHashLookup vrf row.ipAddress with
      | some neighbor => simpa only [found, Option.isSome_some, if_true] using inv
      | none =>
          simp only [found, Option.isSome_none, Bool.false_eq_true, if_false] at ports ⊢
          exact egress_create aton env contract vrf row found ports inv
  | neighborModify row =>
      unfold vrfStep at ports ⊢
      cases found : neighborHashLookup vrf row.ipAddress with
      | none => simpa only [found] using inv
      | some neighbor =>
          simp only [found] at ports ⊢
          have same := Keyed.lookup_key Neighbor.ipAddress found
          exact egress_neighbor_modify aton env contract vrf neighbor row (same.symm ▸ found) same.symm ports inv
  | neighborDelete ip =>
      unfold vrfStep
      cases found : neighborHashLookup vrf ip with
      | none => simpa only [found] using inv
      | some neighbor =>
          have cached : neighborHashLookup vrf neighbor.ipAddress = some neighbor :=
            (Keyed.lookup_key Neighbor.ipAddress found).symm ▸ found
          simpa only [found] using egress_refresh aton env vrf _ neighbor.ipAddress _ (neighbor_delete_frame env vrf neighbor)
            (neighbor_delete_done aton env contract vrf neighbor inv.neighbors cached)
            (neighbor_delete_refresh aton env vrf inv.owned.cache inv.neighbors neighbor cached) inv
  | ports table =>
      refine ⟨hw_owned_step vrf (env, .ports table) inv.owned trivial, ⟨inv.neighbors.unique, ?_⟩, inv.agree, inv.unresolved⟩
      intro ip
      have fits := inv.neighbors.fits ip
      change HostFits aton (vrf.withPorts table).up ip (neighborHashLookup vrf ip)
      cases found : neighborHashLookup vrf ip with
      | none =>
          rw [found] at fits
          exact fits
      | some neighbor =>
          rw [found] at fits
          exact ⟨fits.1, fits.2.1, ports neighbor (Keyed.lookup_mem Neighbor.ipAddress found)⟩

structure EgressesLive (vrf : Vrf) : Prop where
  live : ∀ family pfx id egress, hwNexthop vrf.up.calls family pfx id = some (.resolved egress) →
    id.type = .ipaddr ∧ ∃ neighbor, neighborHashLookup vrf id.id = some neighbor ∧ neighbor.l3EgressId = egress ∧
      ∃ host, hwHost vrf.up.calls id.id = some host ∧ host.egress = egress
  held : ∀ route ∈ vrf.allRoutes, ∀ nh ∈ route.nexthops, ∀ ip ∈ nh.ipAddr, ∀ neighbor,
    neighborHashLookup vrf ip = some neighbor → 0 < neighbor.l3EgressId →
      hwNexthop vrf.up.calls (routeFamily route.self.isIpv6) route.self.pfx ⟨.ipaddr, ip⟩ =
        some (.resolved neighbor.l3EgressId)

theorem resolved_egress_host (cache : NeighborCache aton vrf) (ip : String) (egress : Int)
    (resolved : resolvedEgress vrf ip = some egress) :
    ∃ neighbor, neighborHashLookup vrf ip = some neighbor ∧ neighbor.l3EgressId = egress ∧
      ∃ host, hwHost vrf.up.calls ip = some host ∧ host.egress = egress := by
  obtain ⟨neighbor, found, positive⟩ := Option.bind_eq_some_iff.mp resolved
  obtain ⟨above, rfl⟩ : 0 < neighbor.l3EgressId ∧ neighbor.l3EgressId = egress := by
    split at positive
    · rename_i above
      exact ⟨above, Option.some.inj positive⟩
    · cases positive
  refine ⟨neighbor, found, rfl, ?_⟩
  have fits := cache.fits ip
  rw [found] at fits
  obtain ⟨held, id, _⟩ := fits
  cases wanted : wantedHost aton neighbor with
  | none =>
      simp only [wanted, Option.isSome_none, Bool.false_eq_true, if_false] at id
      omega
  | some host =>
      rw [wanted] at held
      exact ⟨_, held, rfl⟩

theorem egress_inv_live (inv : EgressInv aton vrf) : EgressesLive vrf := by
  refine ⟨?_, ?_⟩
  · intro family pfx id egress held
    obtain ⟨type, text⟩ := id
    cases type with
    | port => exact absurd held (inv.unresolved family pfx text egress)
    | ipaddr =>
        obtain ⟨route, member, at_, nh, present, same⟩ := inv.owned.owned family pfx _ (by rw [held]; rfl)
        have address := ip_id_address nh (route_cache_exclusive vrf inv.owned.cache route member nh present) text same
        have resolved := (inv.agree text family pfx ⟨route, member, at_, nh, present, address⟩ egress).mp held
        exact ⟨rfl, resolved_egress_host aton vrf inv.neighbors text egress resolved⟩
  · intro route member nh present ip address neighbor found positive
    refine (inv.agree ip _ _ ⟨route, member, ⟨rfl, rfl⟩, nh, present, address⟩ _).mpr ?_
    rw [resolved_egress_found vrf ip neighbor found, egressOf, if_pos positive]

theorem egress_start (row : VrfRow) : EgressInv aton (vrfCreate row) where
  owned := hw_owned_start row
  neighbors := ⟨Keyed.unique_nil Neighbor.ipAddress, fun _ => rfl⟩
  agree := fun _ _ _ uses => nomatch uses
  unresolved := nofun

theorem egress_inv_always (row : VrfRow) (inputs : List (Env × VrfOp))
    (valid : Runs.Along vrfStep RouteOpValid (vrfCreate row) inputs)
    (contract : ∀ input ∈ inputs, HostContract aton input.1)
    (ports : Runs.Always vrfStep PortsPresent (vrfCreate row) inputs) :
    Runs.Always vrfStep (EgressInv aton) (vrfCreate row) inputs := by
  have steps : Runs.Along vrfStep (fun vrf input => RouteOpValid vrf input ∧ HostContract aton input.1 ∧
      PortsPresent (vrfStep vrf input)) (vrfCreate row) inputs := by
    intro before input after split
    exact ⟨valid before input after split, contract input (by simp [split]),
      Runs.always_next ports before input after split⟩
  exact Runs.invariant_always (fun vrf input inv holds => egress_step aton vrf input inv holds.1 holds.2.1 holds.2.2)
    (egress_start aton row) steps

end Egress

theorem egresses_stay_live (aton : String → Bool) (row : VrfRow) (inputs : List (Env × VrfOp))
    (valid : Runs.Along vrfStep RouteOpValid (vrfCreate row) inputs)
    (contract : ∀ input ∈ inputs, HostContract aton input.1)
    (ports : Runs.Always vrfStep PortsPresent (vrfCreate row) inputs) :
    Runs.Always vrfStep EgressesLive (vrfCreate row) inputs :=
  Runs.always_mono (egress_inv_live aton) (egress_inv_always aton row inputs valid contract ports)

theorem changed_neighbor_stays_live :
    Runs.Always vrfStep EgressesLive (vrfCreate ⟨"vrf_default", []⟩)
      ([.ports portedVrf.up.ports, .routeAdd (ecmpRow ["10.0.0.2", "2.2.2.2"]),
        .neighborCreate (hostRow 1 "00:00:00:00:00:01" "1" true false),
        .neighborModify (hostRow 1 "00:00:00:00:00:02" "2" false true),
        .neighborDelete "10.0.0.2"].map (fun op => (plainEnv, op))) := by
  refine egresses_stay_live plainPlatform.etherAton ⟨"vrf_default", []⟩ _ ?_ ?_ ?_
  · simp only [List.map_cons, List.map_nil, Runs.along_cons, Runs.along_nil, and_true]
    decide
  · intro input member
    obtain ⟨op, _, rfl⟩ := List.mem_map.mp member
    exact (neighbor_env_contract ⟨[], false, false, false⟩).1
  · simp only [List.map_cons, List.map_nil, Runs.always_cons, Runs.always_nil]
    decide

end OpsSwitchd
