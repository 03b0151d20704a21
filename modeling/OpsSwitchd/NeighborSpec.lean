import OpsSwitchd.RouteSpec

set_option autoImplicit false

namespace OpsSwitchd

def Vrf.withNeighbors (vrf : Vrf) (calls : List OfprotoCall) (neighbors : List Neighbor) (status : List (Uuid × Smap))
    (rows : List NeighborRow) : Vrf :=
  { vrf.emits calls with allNeighbors := neighbors, nexthopStatus := status, neighborRows := rows }

section Neighbors

variable (env : Env) (vrf : Vrf) (neighbor : Neighbor) (row : NeighborRow)

theorem with_neighbors_same :
    vrf.withNeighbors [] vrf.allNeighbors vrf.nexthopStatus vrf.neighborRows = vrf := by
  simp [Vrf.withNeighbors, emits_nil]

theorem with_neighbors_twice (calls more : List OfprotoCall) (neighbors others : List Neighbor)
    (status later : List (Uuid × Smap)) (rows total : List NeighborRow) :
    (vrf.withNeighbors calls neighbors status rows).withNeighbors more others later total =
      vrf.withNeighbors (calls ++ more) others later total := by
  simp [Vrf.withNeighbors, Vrf.emits]

def routeUpdates (env : Env) (vrf : Vrf) (ip : String) (state : NhState) : List OfprotoCall :=
  ((env.order.walk vrf.allNexthops).filter (fun nh => nh.ipAddr = some ip)).map (fun nh =>
    .l3RouteAction .add (ofprotoRoute (routeAt vrf nh.route) [⟨⟨.ipaddr, ip⟩, state⟩]))

theorem update_nexthops_eq (ip : String) (state : NhState) (nexthops : List Nexthop) (vrf : Vrf) :
    ∃ status, nexthops.foldl
        (fun vrf nh => vrfOfprotoRouteAdd env vrf [⟨⟨.ipaddr, ip⟩, state⟩] (routeAt vrf nh.route)) vrf =
      vrf.withNeighbors (nexthops.map (fun nh =>
        .l3RouteAction .add (ofprotoRoute (routeAt vrf nh.route) [⟨⟨.ipaddr, ip⟩, state⟩])))
        vrf.allNeighbors status vrf.neighborRows := by
  induction nexthops generalizing vrf with
  | nil => exact ⟨vrf.nexthopStatus, (with_neighbors_same vrf).symm⟩
  | cons nh rest ih =>
      obtain ⟨first, here⟩ := ofproto_route_add_eq env vrf [⟨⟨.ipaddr, ip⟩, state⟩] (routeAt vrf nh.route)
      have added : vrfOfprotoRouteAdd env vrf [⟨⟨.ipaddr, ip⟩, state⟩] (routeAt vrf nh.route) =
          vrf.withNeighbors [.l3RouteAction .add (ofprotoRoute (routeAt vrf nh.route) [⟨⟨.ipaddr, ip⟩, state⟩])]
            vrf.allNeighbors first vrf.neighborRows := here
      obtain ⟨status, later⟩ := ih (vrfOfprotoRouteAdd env vrf [⟨⟨.ipaddr, ip⟩, state⟩] (routeAt vrf nh.route))
      refine ⟨status, ?_⟩
      rw [List.foldl_cons, later, added]
      exact with_neighbors_twice vrf _ _ _ _ _ _ _ _

theorem update_route_with_neighbor_eq (resolved : Bool) :
    ∃ status, vrfOfprotoUpdateRouteWithNeighbor env vrf neighbor resolved =
      vrf.withNeighbors (routeUpdates env vrf neighbor.ipAddress
        (if resolved then .resolved neighbor.l3EgressId else .unresolved)) vrf.allNeighbors status vrf.neighborRows :=
  update_nexthops_eq env neighbor.ipAddress _ _ vrf

def hostWanted (env : Env) (neighbor : Neighbor) : Bool :=
  neighbor.portName.isSome && neighbor.mac.any env.platform.etherAton

theorem neighbor_program_unwanted (unwanted : hostWanted env neighbor = false) :
    neighborProgram env vrf neighbor = vrf := by
  rw [neighborProgram, ← hostWanted, unwanted]
  rfl

theorem neighbor_program_no_port (wanted : hostWanted env neighbor = true)
    (missing : neighbor.portName.bind vrf.up.portLookup = none) :
    neighborProgram env vrf neighbor = vrf.withNeighbors []
      (Keyed.remove Neighbor.ipAddress neighbor.ipAddress vrf.allNeighbors) vrf.nexthopStatus vrf.neighborRows := by
  rw [neighborProgram, ← hostWanted, wanted, if_pos rfl, neighborSetL3HostEntry, missing]
  simp only [neighborHashDelete, Vrf.withNeighbors, emits_nil]

theorem neighbor_program_failed (wanted : hostWanted env neighbor = true)
    (port : Port) (present : neighbor.portName.bind vrf.up.portLookup = some port)
    (failed : env.platform.provider.addL3HostEntry vrf.up.calls (neighborHostEntry neighbor port) = none) :
    neighborProgram env vrf neighbor = vrf.withNeighbors [.addL3HostEntry (neighborHostEntry neighbor port) none]
      (Keyed.remove Neighbor.ipAddress neighbor.ipAddress vrf.allNeighbors) vrf.nexthopStatus vrf.neighborRows := by
  rw [neighborProgram, ← hostWanted, wanted, if_pos rfl, neighborSetL3HostEntry, present]
  simp only [failed]
  rfl

theorem neighbor_program_added (wanted : hostWanted env neighbor = true)
    (port : Port) (present : neighbor.portName.bind vrf.up.portLookup = some port) (egress : Int)
    (added : env.platform.provider.addL3HostEntry vrf.up.calls (neighborHostEntry neighbor port) = some egress) :
    ∃ status, neighborProgram env vrf neighbor =
      vrf.withNeighbors (.addL3HostEntry (neighborHostEntry neighbor port) (some egress) ::
          routeUpdates env vrf neighbor.ipAddress (.resolved egress))
        (Keyed.replace Neighbor.ipAddress neighbor.ipAddress (fun _ => { neighbor with l3EgressId := egress }) vrf.allNeighbors)
        status vrf.neighborRows := by
  rw [neighborProgram, ← hostWanted, wanted, if_pos rfl, neighborSetL3HostEntry, present]
  simp only [added]
  have set : neighborUpdate (vrf.emit (.addL3HostEntry (neighborHostEntry neighbor port) (some egress)))
      { neighbor with l3EgressId := egress } =
      vrf.withNeighbors [.addL3HostEntry (neighborHostEntry neighbor port) (some egress)]
        (Keyed.replace Neighbor.ipAddress neighbor.ipAddress (fun _ => { neighbor with l3EgressId := egress }) vrf.allNeighbors)
        vrf.nexthopStatus vrf.neighborRows := rfl
  rw [set]
  obtain ⟨status, updated⟩ := update_route_with_neighbor_eq env
    (vrf.withNeighbors [.addL3HostEntry (neighborHostEntry neighbor port) (some egress)]
      (Keyed.replace Neighbor.ipAddress neighbor.ipAddress (fun _ => { neighbor with l3EgressId := egress }) vrf.allNeighbors)
      vrf.nexthopStatus vrf.neighborRows) { neighbor with l3EgressId := egress } true
  refine ⟨status, ?_⟩
  rw [updated, with_neighbors_twice]
  rfl

def withdrawCalls (env : Env) (vrf : Vrf) (neighbor : Neighbor) (port : Port) : List OfprotoCall :=
  let updates := routeUpdates env vrf neighbor.ipAddress .unresolved
  updates ++ [.deleteL3HostEntry port.self.name neighbor.isIpv6Addr neighbor.ipAddress
    (env.platform.provider.deleteL3HostEntry (vrf.up.calls ++ updates) port.self.name neighbor.isIpv6Addr neighbor.ipAddress)]

def withdrawnEgress (env : Env) (vrf : Vrf) (neighbor : Neighbor) (port : Port) : Int :=
  (env.platform.provider.deleteL3HostEntry (vrf.up.calls ++ routeUpdates env vrf neighbor.ipAddress .unresolved)
    port.self.name neighbor.isIpv6Addr neighbor.ipAddress).getD neighbor.l3EgressId

theorem neighbor_withdraw_eq (port : Port) (present : neighbor.portName.bind vrf.up.portLookup = some port) :
    let withdrawn := { neighbor with l3EgressId := withdrawnEgress env vrf neighbor port }
    ∃ status, neighborDeleteL3HostEntry env (vrfOfprotoUpdateRouteWithNeighbor env vrf neighbor false) neighbor =
      (vrf.withNeighbors (withdrawCalls env vrf neighbor port)
        (Keyed.replace Neighbor.ipAddress neighbor.ipAddress (fun _ => withdrawn) vrf.allNeighbors) status vrf.neighborRows,
        withdrawn) := by
  intro withdrawn
  obtain ⟨status, updated⟩ := update_route_with_neighbor_eq env vrf neighbor false
  refine ⟨status, ?_⟩
  have still : neighbor.portName.bind (vrfOfprotoUpdateRouteWithNeighbor env vrf neighbor false).up.portLookup = some port := by
    rw [updated]
    exact present
  rw [neighborDeleteL3HostEntry, still, updated]
  exact Prod.ext (with_neighbors_twice vrf _ _ _ _ _ _ _ _) rfl

theorem neighbor_delete_idle (idle : neighbor.l3EgressId = -1) :
    ∃ status, neighborDelete env vrf neighbor = vrf.withNeighbors (routeUpdates env vrf neighbor.ipAddress .unresolved)
      (Keyed.remove Neighbor.ipAddress neighbor.ipAddress vrf.allNeighbors) status vrf.neighborRows := by
  obtain ⟨status, updated⟩ := update_route_with_neighbor_eq env vrf neighbor false
  refine ⟨status, ?_⟩
  simp only [neighborDelete, idle, updated, ne_eq, not_true_eq_false, if_false]
  rfl

theorem neighbor_delete_live (live : neighbor.l3EgressId ≠ -1)
    (port : Port) (present : neighbor.portName.bind vrf.up.portLookup = some port) :
    ∃ status, neighborDelete env vrf neighbor = vrf.withNeighbors (withdrawCalls env vrf neighbor port)
      (Keyed.remove Neighbor.ipAddress neighbor.ipAddress vrf.allNeighbors) status vrf.neighborRows := by
  obtain ⟨status, withdrawn⟩ := neighbor_withdraw_eq env vrf neighbor port present
  refine ⟨status, ?_⟩
  have removed := Keyed.remove_replace Neighbor.ipAddress neighbor.ipAddress
    (fun _ => { neighbor with l3EgressId := withdrawnEgress env vrf neighbor port }) (fun _ _ => rfl) vrf.allNeighbors
  simp only [neighborDelete, ne_eq, live, not_false_eq_true, if_true, withdrawn]
  simp only [neighborHashDelete, Vrf.withNeighbors, removed]

theorem neighbor_create_eq :
    neighborCreate env vrf row = neighborProgram env
      (vrf.withNeighbors [] (newNeighbor env row :: vrf.allNeighbors) vrf.nexthopStatus (vrf.neighborRows ++ [row]))
      (newNeighbor env row) := by
  rw [neighborCreate, Vrf.withNeighbors, emits_nil]

-- The comparisons of neighbor_modify in closed form.
def neighborStale (neighbor : Neighbor) (row : NeighborRow) : Bool :=
  (neighbor.portName.isSome && neighbor.portName ≠ row.port) ||
    (neighbor.mac.isSome && neighbor.mac ≠ nonEmptyText row.mac)

def neighborGains (neighbor : Neighbor) (row : NeighborRow) : Bool :=
  (row.port.isSome && neighbor.portName ≠ row.port) ||
    ((nonEmptyText row.mac).isSome && neighbor.mac ≠ nonEmptyText row.mac)

def updatedNeighbor (neighbor : Neighbor) (row : NeighborRow) (egress : Int) : Neighbor :=
  { neighbor with cfg := some row, mac := nonEmptyText row.mac, portName := row.port, l3EgressId := egress }

def changedNeighbor (neighbor : Neighbor) (row : NeighborRow) : Neighbor :=
  { neighbor with cfg := some row, mac := nonEmptyText row.mac, portName := neighbor.portName.or row.port }

theorem check_neighbor_port_eq :
    checkNeighborPort row ⟨neighbor, false, false, false, none⟩ =
      ⟨{ neighbor with portName := neighbor.portName.or row.port },
        row.port.isSome && neighbor.portName ≠ row.port, neighbor.portName.isSome && neighbor.portName ≠ row.port,
        neighbor.portName.isSome && neighbor.portName ≠ row.port,
        if neighbor.portName.isSome && neighbor.portName ≠ row.port then row.port else none⟩ := by
  obtain ⟨ip, mac, cfg, v6, port, egress⟩ := neighbor
  unfold checkNeighborPort
  cases row.port with
  | none => cases port <;> simp
  | some rowPort =>
      cases port with
      | none => simp
      | some port => by_cases same : port = rowPort <;> simp [same]

theorem check_neighbor_mac_eq (change : NeighborChange) (row : NeighborRow) :
    checkNeighborMac row change =
      { change with
        neighbor := { change.neighbor with mac := nonEmptyText row.mac }
        addNew := change.addNew || ((nonEmptyText row.mac).isSome && change.neighbor.mac ≠ nonEmptyText row.mac)
        deleteOld := change.deleteOld || (change.neighbor.mac.isSome && change.neighbor.mac ≠ nonEmptyText row.mac) } := by
  obtain ⟨⟨ip, mac, cfg, v6, port, egress⟩, addNew, deleteOld, oldPort, newPort⟩ := change
  unfold checkNeighborMac
  cases nonEmptyText row.mac with
  | none => cases mac <;> simp
  | some rowMac =>
      cases mac with
      | none => simp
      | some mac => by_cases same : mac = rowMac <;> simp [same]

def neighborChange (neighbor : Neighbor) (row : NeighborRow) : NeighborChange :=
  ⟨changedNeighbor neighbor row, neighborGains neighbor row, neighborStale neighbor row,
    neighbor.portName.isSome && neighbor.portName ≠ row.port,
    if neighbor.portName.isSome && neighbor.portName ≠ row.port then row.port else none⟩

theorem neighbor_change_eq :
    checkNeighborMac row (checkNeighborPort row ⟨{ neighbor with cfg := some row }, false, false, false, none⟩) =
      neighborChange neighbor row := by
  rw [check_neighbor_port_eq, check_neighbor_mac_eq]
  rfl

theorem settle_port_eq (egress : Int) :
    settleNeighborPort (neighborChange neighbor row) { changedNeighbor neighbor row with l3EgressId := egress } =
      updatedNeighbor neighbor row egress := by
  obtain ⟨ip, mac, cfg, v6, port, old⟩ := neighbor
  unfold settleNeighborPort neighborChange changedNeighbor updatedNeighbor
  cases port with
  | none => simp
  | some port =>
      cases row.port with
      | none => simp
      | some rowPort => by_cases same : port = rowPort <;> simp [same]

def programGains (env : Env) (vrf : Vrf) (neighbor : Neighbor) (gains : Bool) : Vrf :=
  if gains then neighborProgram env vrf neighbor else vrf

def settleNeighbor (env : Env) (neighbor : Neighbor) (row : NeighborRow) (work : Vrf × Neighbor) : Vrf :=
  let settled := settleNeighborPort (neighborChange neighbor row) work.2
  programGains env (neighborUpdate work.1 settled) settled (neighborGains neighbor row)

theorem neighbor_modify_eq :
    let first := neighborUpdate { vrf with neighborRows := vrf.neighborRows ++ [row] } (changedNeighbor neighbor row)
    neighborModify env vrf neighbor row = settleNeighbor env neighbor row
      (if neighborStale neighbor row && neighbor.l3EgressId ≠ -1 then
        neighborDeleteL3HostEntry env (vrfOfprotoUpdateRouteWithNeighbor env first (changedNeighbor neighbor row) false)
          (changedNeighbor neighbor row)
      else (first, changedNeighbor neighbor row)) := by
  rw [neighborModify, neighbor_change_eq]
  rfl

theorem neighbor_modify_kept (kept : (neighborStale neighbor row && decide (neighbor.l3EgressId ≠ -1)) = false) :
    neighborModify env vrf neighbor row = programGains env
      (vrf.withNeighbors [] (Keyed.replace Neighbor.ipAddress neighbor.ipAddress
          (fun _ => updatedNeighbor neighbor row neighbor.l3EgressId) vrf.allNeighbors)
        vrf.nexthopStatus (vrf.neighborRows ++ [row]))
      (updatedNeighbor neighbor row neighbor.l3EgressId) (neighborGains neighbor row) := by
  have settled : settleNeighborPort (neighborChange neighbor row) (changedNeighbor neighbor row) =
      updatedNeighbor neighbor row neighbor.l3EgressId := settle_port_eq neighbor row neighbor.l3EgressId
  rw [neighbor_modify_eq, kept]
  simp only [Bool.false_eq_true, if_false, settleNeighbor, settled]
  congr 1
  simp only [neighborUpdate, Vrf.withNeighbors, emits_nil, updatedNeighbor, changedNeighbor]
  rw [Keyed.replace_replace Neighbor.ipAddress (by rfl)]

theorem neighbor_modify_withdrawn (stale : neighborStale neighbor row = true) (live : neighbor.l3EgressId ≠ -1) (port : Port)
    (present : neighbor.portName.bind vrf.up.portLookup = some port) :
    ∃ status, neighborModify env vrf neighbor row = programGains env
      (vrf.withNeighbors (withdrawCalls env vrf neighbor port) (Keyed.replace Neighbor.ipAddress neighbor.ipAddress
          (fun _ => updatedNeighbor neighbor row (withdrawnEgress env vrf neighbor port)) vrf.allNeighbors)
        status (vrf.neighborRows ++ [row]))
      (updatedNeighbor neighbor row (withdrawnEgress env vrf neighbor port)) (neighborGains neighbor row) := by
  have samePort : (changedNeighbor neighbor row).portName.bind vrf.up.portLookup = some port := by
    obtain ⟨name, stored, found⟩ := Option.bind_eq_some_iff.mp present
    simp [changedNeighbor, stored, found]
  obtain ⟨status, withdrawn⟩ := neighbor_withdraw_eq env (neighborUpdate { vrf with neighborRows := vrf.neighborRows ++ [row] }
    (changedNeighbor neighbor row)) (changedNeighbor neighbor row) port samePort
  have settled := settle_port_eq neighbor row (withdrawnEgress env vrf neighbor port)
  refine ⟨status, ?_⟩
  rw [neighbor_modify_eq, stale, decide_eq_true live, Bool.and_self, if_pos rfl, withdrawn]
  refine (congrArg (fun n => programGains env (neighborUpdate _ n) n (neighborGains neighbor row)) settled).trans ?_
  congr 1
  simp only [neighborUpdate, Vrf.withNeighbors, Vrf.emits, updatedNeighbor, changedNeighbor]
  rw [Keyed.replace_replace Neighbor.ipAddress (by rfl), Keyed.replace_replace Neighbor.ipAddress (by rfl)]
  rfl

end Neighbors

end OpsSwitchd
