import OpsSwitchd.HwOwned
import OpsSwitchd.NeighborCache

set_option autoImplicit false

namespace OpsSwitchd

def isResolved : Option NhState → Bool
  | some (.resolved _) => true
  | _ => false

theorem resolved_is_some (held : Option NhState) (resolved : isResolved held) : held.isSome := by
  cases held with
  | none => cases resolved
  | some state => rfl

def AgreesAt (vrf : Vrf) (ip : String) : Prop :=
  ∀ family pfx, UsesAddress vrf family pfx ip → ∀ egress,
    hwNexthop vrf.up.calls family pfx ⟨.ipaddr, ip⟩ = some (.resolved egress) ↔ resolvedEgress vrf ip = some egress

structure Refresh (vrf after : Vrf) (ip : String) : Prop where
  routes : after.allRoutes = vrf.allRoutes
  others : ∀ family pfx id, id ≠ ⟨.ipaddr, ip⟩ →
    hwNexthop after.up.calls family pfx id = hwNexthop vrf.up.calls family pfx id
  elsewhere : ∀ other, other ≠ ip → resolvedEgress after other = resolvedEgress vrf other
  here : AgreesAt vrf ip → AgreesAt after ip

theorem refresh_refl (vrf : Vrf) (ip : String) : Refresh vrf vrf ip :=
  ⟨rfl, fun _ _ _ _ => rfl, fun _ _ => rfl, fun agrees => agrees⟩

theorem refresh_trans (vrf middle after : Vrf) (ip : String) (first : Refresh vrf middle ip)
    (second : Refresh middle after ip) : Refresh vrf after ip where
  routes := second.routes.trans first.routes
  others := fun family pfx id different => (second.others family pfx id different).trans (first.others family pfx id different)
  elsewhere := fun other different => (second.elsewhere other different).trans (first.elsewhere other different)
  here := fun agrees => second.here (first.here agrees)

theorem refresh_agrees (vrf after : Vrf) (ip : String) (refresh : Refresh vrf after ip) (all : ∀ ip, AgreesAt vrf ip)
    (other : String) : AgreesAt after other := by
  by_cases same : other = ip
  · subst same
    exact refresh.here (all other)
  · intro family pfx uses egress
    rw [UsesAddress, refresh.routes] at uses
    have different : (⟨.ipaddr, other⟩ : NhId) ≠ ⟨.ipaddr, ip⟩ := fun equal => same (congrArg NhId.id equal)
    rw [refresh.others family pfx _ different, refresh.elsewhere other same]
    exact all other family pfx uses egress

def HostCalls (calls : List OfprotoCall) : Prop := ∀ call ∈ calls, ∀ action route, call ≠ .l3RouteAction action route

theorem host_calls_nil : HostCalls [] := fun _ member => nomatch member

theorem host_calls_add (entry : HostEntry) (answer : Option Int) : HostCalls [.addL3HostEntry entry answer] := by
  simp [HostCalls]

theorem host_calls_delete (port : String) (isIpv6 : Bool) (ip : String) (answer : Option Int) :
    HostCalls [.deleteL3HostEntry port isIpv6 ip answer] := by
  simp [HostCalls]

theorem hw_nexthop_host_calls (calls : List OfprotoCall) (hosts : HostCalls calls) (base : List OfprotoCall)
    (family : RouteFamily) (pfx : String) (id : NhId) :
    hwNexthop (base ++ calls) family pfx id = hwNexthop base family pfx id := by
  induction calls generalizing base with
  | nil => rw [List.append_nil]
  | cons call rest ih =>
      rw [← List.singleton_append, ← List.append_assoc, ih (fun other member => hosts other (by simp [member])),
        hw_nexthop_other_call base call (hosts call (by simp))]

theorem hw_nexthop_updates (vrf : Vrf) (ip : String) (state : NhState) (family : RouteFamily) (pfx : String)
    (nhs : List Nexthop) (base : List OfprotoCall) :
    let calls := base ++ nhs.map (fun nh =>
      OfprotoCall.l3RouteAction .add (ofprotoRoute (routeAt vrf nh.route) [⟨⟨.ipaddr, ip⟩, state⟩]))
    ((hwNexthop base family pfx ⟨.ipaddr, ip⟩ = some state ∨ ∃ nh ∈ nhs, refAt (routeAt vrf nh.route).self family pfx) →
      hwNexthop calls family pfx ⟨.ipaddr, ip⟩ = some state) ∧
    ∀ id, id ≠ ⟨.ipaddr, ip⟩ → hwNexthop calls family pfx id = hwNexthop base family pfx id := by
  classical
  induction nhs generalizing base with
  | nil => simp
  | cons nh rest ih =>
      have first := fun id => hw_nexthop_update base (routeAt vrf nh.route) ⟨.ipaddr, ip⟩ state family pfx id
      obtain ⟨reached, others⟩ := ih (base ++ [.l3RouteAction .add (ofprotoRoute (routeAt vrf nh.route) [⟨⟨.ipaddr, ip⟩, state⟩])])
      rw [List.append_assoc, List.singleton_append] at reached others
      refine ⟨?_, ?_⟩
      · rintro (held | ⟨other, member, here⟩)
        · exact reached (.inl (by rw [first, held, ite_self]))
        · rcases List.mem_cons.mp member with rfl | later
          · exact reached (.inl (by rw [first, if_pos ⟨here, rfl⟩]))
          · exact reached (.inr ⟨other, later, here⟩)
      · intro id different
        rw [List.map_cons, others id different, first, if_neg (fun both => different both.2)]

theorem route_updates_reach (env : Env) (vrf : Vrf) (cache : RouteCache vrf) (ip : String) (family : RouteFamily)
    (pfx : String) :
    (∃ nh ∈ (env.order.walk vrf.allNexthops).filter (fun nh => nh.ipAddr = some ip),
      refAt (routeAt vrf nh.route).self family pfx) ↔ UsesAddress vrf family pfx ip := by
  simp only [List.mem_filter, HashOrder.mem_walk, decide_eq_true_eq]
  constructor
  · rintro ⟨nh, ⟨listed, address⟩, here⟩
    exact neighbor_call_uses vrf cache ip nh listed address family pfx here
  · rintro ⟨route, member, here, nh, present, address⟩
    refine ⟨nh, ⟨(indexed_nexthop vrf cache nh).mpr ⟨by rw [address]; rfl, route, member, present⟩, address⟩, ?_⟩
    rwa [route_at_owner vrf cache route member nh present]

theorem hw_nexthop_route_updates (env : Env) (vrf : Vrf) (cache : RouteCache vrf) (ip : String) (state : NhState)
    (base : List OfprotoCall) (family : RouteFamily) (pfx : String) :
    (UsesAddress vrf family pfx ip →
      hwNexthop (base ++ routeUpdates env vrf ip state) family pfx ⟨.ipaddr, ip⟩ = some state) ∧
    ∀ id, id ≠ ⟨.ipaddr, ip⟩ →
      hwNexthop (base ++ routeUpdates env vrf ip state) family pfx id = hwNexthop base family pfx id := by
  obtain ⟨reached, others⟩ := hw_nexthop_updates vrf ip state family pfx
    ((env.order.walk vrf.allNexthops).filter (fun nh => nh.ipAddr = some ip)) base
  exact ⟨fun uses => reached (.inr ((route_updates_reach env vrf cache ip family pfx).mpr uses)), others⟩

theorem refresh_quiet (vrf : Vrf) (ip : String) (calls : List OfprotoCall) (hosts : HostCalls calls)
    (neighbors : List Neighbor) (status : List (Uuid × Smap)) (rows : List NeighborRow)
    (same : ∀ other, resolvedEgress (vrf.withNeighbors calls neighbors status rows) other = resolvedEgress vrf other) :
    Refresh vrf (vrf.withNeighbors calls neighbors status rows) ip where
  routes := rfl
  others := fun family pfx id _ => hw_nexthop_host_calls calls hosts _ family pfx id
  elsewhere := fun other _ => same other
  here := by
    intro agrees family pfx uses egress
    rw [same ip]
    exact (Eq.congr_left (hw_nexthop_host_calls calls hosts _ family pfx _)).trans (agrees family pfx uses egress)

theorem refresh_update (env : Env) (vrf : Vrf) (cache : RouteCache vrf) (ip : String) (state : NhState)
    (before later : List OfprotoCall) (hosts : HostCalls before) (also : HostCalls later)
    (neighbors : List Neighbor) (status : List (Uuid × Smap)) (rows : List NeighborRow)
    (elsewhere : ∀ other, other ≠ ip →
      resolvedEgress (vrf.withNeighbors (before ++ routeUpdates env vrf ip state ++ later) neighbors status rows) other =
        resolvedEgress vrf other)
    (here : ∀ egress, state = .resolved egress ↔
      resolvedEgress (vrf.withNeighbors (before ++ routeUpdates env vrf ip state ++ later) neighbors status rows) ip =
        some egress) :
    Refresh vrf (vrf.withNeighbors (before ++ routeUpdates env vrf ip state ++ later) neighbors status rows) ip := by
  have calls : ∀ family pfx id, hwNexthop (vrf.up.calls ++ (before ++ routeUpdates env vrf ip state ++ later)) family pfx id =
      hwNexthop (vrf.up.calls ++ before ++ routeUpdates env vrf ip state) family pfx id := by
    intro family pfx id
    rw [← List.append_assoc, ← List.append_assoc, hw_nexthop_host_calls later also]
  refine ⟨rfl, ?_, elsewhere, ?_⟩
  · intro family pfx id different
    refine (calls family pfx id).trans ?_
    rw [(hw_nexthop_route_updates env vrf cache ip state _ family pfx).2 id different, hw_nexthop_host_calls before hosts]
  · intro _ family pfx uses egress
    refine (Eq.congr_left ((calls family pfx _).trans
      ((hw_nexthop_route_updates env vrf cache ip state _ family pfx).1 uses))).trans ?_
    rw [Option.some.injEq]
    exact here egress

def egressOf (neighbor : Neighbor) : Option Int := if neighbor.l3EgressId > 0 then some neighbor.l3EgressId else none

theorem resolved_egress_found (vrf : Vrf) (ip : String) (neighbor : Neighbor)
    (found : neighborHashLookup vrf ip = some neighbor) : resolvedEgress vrf ip = egressOf neighbor := by
  rw [resolvedEgress, found]
  rfl

theorem resolved_egress_absent (vrf : Vrf) (ip : String) (absent : neighborHashLookup vrf ip = none) :
    resolvedEgress vrf ip = none := by
  rw [resolvedEgress, absent]
  rfl

theorem egress_of_idle (neighbor : Neighbor) (idle : neighbor.l3EgressId = -1) : egressOf neighbor = none := by
  simp [egressOf, idle]

theorem egress_removed (vrf : Vrf) (ip : String) (calls : List OfprotoCall) (status : List (Uuid × Smap))
    (rows : List NeighborRow) :
    let after := vrf.withNeighbors calls (Keyed.remove Neighbor.ipAddress ip vrf.allNeighbors) status rows
    resolvedEgress after ip = none ∧ ∀ other, other ≠ ip → resolvedEgress after other = resolvedEgress vrf other := by
  intro after
  refine ⟨resolved_egress_absent after ip (Keyed.lookup_remove_self Neighbor.ipAddress ip vrf.allNeighbors), ?_⟩
  intro other different
  exact congrArg (fun found => Option.bind found egressOf)
    (Keyed.lookup_remove_other Neighbor.ipAddress different vrf.allNeighbors)

theorem egress_replaced (vrf : Vrf) (neighbor : Neighbor) (cached : (neighborHashLookup vrf neighbor.ipAddress).isSome)
    (calls : List OfprotoCall) (status : List (Uuid × Smap)) (rows : List NeighborRow) :
    let after := vrf.withNeighbors calls
      (Keyed.replace Neighbor.ipAddress neighbor.ipAddress (fun _ => neighbor) vrf.allNeighbors) status rows
    neighborHashLookup after neighbor.ipAddress = some neighbor ∧
      ∀ other, other ≠ neighbor.ipAddress → resolvedEgress after other = resolvedEgress vrf other := by
  intro after
  have kept : ∀ a ∈ vrf.allNeighbors, a.ipAddress = neighbor.ipAddress → neighbor.ipAddress = a.ipAddress :=
    fun a _ equal => equal.symm
  refine ⟨?_, ?_⟩
  · obtain ⟨old, found⟩ := Option.isSome_iff_exists.mp cached
    refine (Keyed.lookup_replace_self Neighbor.ipAddress _ (fun _ => neighbor) vrf.allNeighbors kept).trans ?_
    rw [← neighborHashLookup, found]
    rfl
  · intro other different
    exact congrArg (fun found => Option.bind found egressOf)
      (Keyed.lookup_replace_other Neighbor.ipAddress different _ vrf.allNeighbors kept)

theorem refresh_drop_idle (vrf : Vrf) (neighbor : Neighbor) (found : neighborHashLookup vrf neighbor.ipAddress = some neighbor)
    (idle : neighbor.l3EgressId = -1) (calls : List OfprotoCall) (hosts : HostCalls calls) (status : List (Uuid × Smap))
    (rows : List NeighborRow) :
    Refresh vrf (vrf.withNeighbors calls (Keyed.remove Neighbor.ipAddress neighbor.ipAddress vrf.allNeighbors) status rows)
      neighbor.ipAddress := by
  obtain ⟨gone, elsewhere⟩ := egress_removed vrf neighbor.ipAddress calls status rows
  refine refresh_quiet vrf _ calls hosts _ status rows ?_
  intro other
  by_cases same : other = neighbor.ipAddress
  · rw [same, gone, resolved_egress_found vrf _ neighbor found, egress_of_idle neighbor idle]
  · exact elsewhere other same

theorem neighbor_program_refresh (env : Env) (vrf : Vrf) (cache : RouteCache vrf) (neighbor : Neighbor)
    (adds : ∀ calls entry egress, env.platform.provider.addL3HostEntry calls entry = some egress → 0 < egress)
    (found : neighborHashLookup vrf neighbor.ipAddress = some neighbor) (idle : neighbor.l3EgressId = -1) :
    Refresh vrf (neighborProgram env vrf neighbor) neighbor.ipAddress := by
  cases wanted : hostWanted env neighbor with
  | false =>
      rw [neighbor_program_unwanted env vrf neighbor wanted]
      exact refresh_refl vrf _
  | true =>
      cases present : neighbor.portName.bind vrf.up.portLookup with
      | none =>
          rw [neighbor_program_no_port env vrf neighbor wanted present]
          exact refresh_drop_idle vrf neighbor found idle [] host_calls_nil _ _
      | some port =>
          cases answer : env.platform.provider.addL3HostEntry vrf.up.calls (neighborHostEntry neighbor port) with
          | none =>
              rw [neighbor_program_failed env vrf neighbor wanted port present answer]
              exact refresh_drop_idle vrf neighbor found idle _ (host_calls_add _ _) _ _
          | some egress =>
              obtain ⟨status, added⟩ := neighbor_program_added env vrf neighbor wanted port present egress answer
              obtain ⟨now, elsewhere⟩ := egress_replaced vrf { neighbor with l3EgressId := egress } (by rw [found]; rfl)
                (.addL3HostEntry (neighborHostEntry neighbor port) (some egress) ::
                  routeUpdates env vrf neighbor.ipAddress (.resolved egress)) status vrf.neighborRows
              have refreshed := refresh_update env vrf cache neighbor.ipAddress (.resolved egress)
                [.addL3HostEntry (neighborHostEntry neighbor port) (some egress)] [] (host_calls_add _ _) host_calls_nil
                (Keyed.replace Neighbor.ipAddress neighbor.ipAddress (fun _ => { neighbor with l3EgressId := egress })
                  vrf.allNeighbors) status vrf.neighborRows
              rw [List.append_nil, List.singleton_append] at refreshed
              rw [added]
              refine refreshed elsewhere ?_
              intro other
              rw [resolved_egress_found _ _ _ now, egressOf, if_pos (adds _ _ _ answer)]
              simp

theorem neighbor_create_refresh (env : Env) (vrf : Vrf) (cache : RouteCache vrf) (row : NeighborRow)
    (adds : ∀ calls entry egress, env.platform.provider.addL3HostEntry calls entry = some egress → 0 < egress)
    (absent : neighborHashLookup vrf row.ipAddress = none) : Refresh vrf (neighborCreate env vrf row) row.ipAddress := by
  let next := vrf.withNeighbors [] (newNeighbor env row :: vrf.allNeighbors) vrf.nexthopStatus (vrf.neighborRows ++ [row])
  have now : neighborHashLookup next row.ipAddress = some (newNeighbor env row) :=
    (Keyed.lookup_cons Neighbor.ipAddress row.ipAddress (newNeighbor env row) vrf.allNeighbors).trans (if_pos rfl)
  have stored : Refresh vrf next row.ipAddress := by
    refine refresh_quiet vrf _ [] host_calls_nil _ _ _ ?_
    intro other
    by_cases same : other = row.ipAddress
    · rw [same, resolved_egress_found next _ _ now, egress_of_idle _ rfl, resolved_egress_absent vrf _ absent]
    · exact congrArg (fun found => Option.bind found egressOf)
        ((Keyed.lookup_cons Neighbor.ipAddress other _ vrf.allNeighbors).trans (if_neg (Ne.symm same)))
  rw [neighbor_create_eq]
  exact refresh_trans _ _ _ _ stored (neighbor_program_refresh env next (route_cache_same vrf next rfl rfl rfl cache)
    (newNeighbor env row) adds now rfl)

theorem neighbor_delete_refresh (aton : String → Bool) (env : Env) (vrf : Vrf) (cache : RouteCache vrf)
    (neighbors : NeighborCache aton vrf) (neighbor : Neighbor)
    (found : neighborHashLookup vrf neighbor.ipAddress = some neighbor) :
    Refresh vrf (neighborDelete env vrf neighbor) neighbor.ipAddress := by
  have unresolved := fun calls status => egress_removed vrf neighbor.ipAddress calls status vrf.neighborRows
  have update := fun later also status => refresh_update env vrf cache neighbor.ipAddress .unresolved [] later host_calls_nil also
    (Keyed.remove Neighbor.ipAddress neighbor.ipAddress vrf.allNeighbors) status vrf.neighborRows
    (unresolved _ status).2 (by simp [(unresolved _ status).1])
  by_cases idle : neighbor.l3EgressId = -1
  · obtain ⟨status, deleted⟩ := neighbor_delete_idle env vrf neighbor idle
    rw [deleted]
    simpa using update [] host_calls_nil status
  · obtain ⟨port, present⟩ := live_neighbor_port aton vrf neighbors neighbor found idle
    obtain ⟨status, deleted⟩ := neighbor_delete_live env vrf neighbor idle port present
    rw [deleted]
    exact update _ (host_calls_delete _ _ _ _) status

theorem program_gains_refresh (env : Env) (vrf : Vrf) (cache : RouteCache vrf) (neighbor : Neighbor) (gains : Bool)
    (adds : ∀ calls entry egress, env.platform.provider.addL3HostEntry calls entry = some egress → 0 < egress)
    (found : neighborHashLookup vrf neighbor.ipAddress = some neighbor) (idle : neighbor.l3EgressId = -1) :
    Refresh vrf (programGains env vrf neighbor gains) neighbor.ipAddress := by
  cases gains with
  | false => exact refresh_refl vrf _
  | true => exact neighbor_program_refresh env vrf cache neighbor adds found idle

theorem neighbor_modify_refresh (aton : String → Bool) (env : Env) (contract : HostContract aton env) (vrf : Vrf)
    (cache : RouteCache vrf) (neighbors : NeighborCache aton vrf) (neighbor : Neighbor) (row : NeighborRow)
    (found : neighborHashLookup vrf neighbor.ipAddress = some neighbor) :
    Refresh vrf (neighborModify env vrf neighbor row) neighbor.ipAddress := by
  have isCached : (neighborHashLookup vrf neighbor.ipAddress).isSome := by rw [found]; rfl
  have shape := neighbor_modify_shape aton env contract vrf neighbor row neighbors found
  generalize neighborModify env vrf neighbor row = after at shape ⊢
  cases shape with
  | same status rows live samePort sameMac =>
      obtain ⟨now, elsewhere⟩ := egress_replaced vrf (updatedNeighbor neighbor row neighbor.l3EgressId) isCached [] status rows
      refine refresh_quiet vrf _ [] host_calls_nil _ status rows ?_
      intro other
      by_cases same : other = neighbor.ipAddress
      · rw [same, resolved_egress_found vrf _ _ found]
        exact (resolved_egress_found _ _ _ now).trans rfl
      · exact elsewhere other same
  | stored calls status rows before unwanted =>
      obtain ⟨now, elsewhere⟩ := egress_replaced vrf (updatedNeighbor neighbor row (-1)) isCached calls status rows
      have unresolved := (resolved_egress_found _ _ _ now).trans (egress_of_idle _ rfl)
      refine refresh_trans vrf (vrf.withNeighbors calls (Keyed.replace Neighbor.ipAddress neighbor.ipAddress
        (fun _ => updatedNeighbor neighbor row (-1)) vrf.allNeighbors) status rows) _ _ ?_
        (program_gains_refresh env _ (route_cache_same vrf (vrf.withNeighbors _ _ _ _) rfl rfl rfl cache)
          (updatedNeighbor neighbor row (-1)) _ contract.adds now rfl)
      rcases before with ⟨idle, rfl⟩ | ⟨port, rfl⟩
      · refine refresh_quiet vrf _ [] host_calls_nil _ status rows ?_
        intro other
        by_cases same : other = neighbor.ipAddress
        · rw [same, resolved_egress_found vrf _ _ found, egress_of_idle neighbor idle]
          exact unresolved
        · exact elsewhere other same
      · refine refresh_update env vrf cache neighbor.ipAddress .unresolved [] _ host_calls_nil
          (host_calls_delete _ _ _ _) _ status rows elsewhere ?_
        intro egress
        exact iff_of_false (by simp) (fun resolved => nomatch unresolved.symm.trans resolved)

end OpsSwitchd
