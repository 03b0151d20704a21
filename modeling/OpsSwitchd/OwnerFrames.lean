import OpsSwitchd.CreatedPorts

set_option autoImplicit false

namespace OpsSwitchd

section Ports

def Beside (type : String) (vlans : List Vlan) (br other : Bridge) : Prop :=
  ∃ calls, br = { other with type := type, vlans := vlans, calls := calls }

variable {type : String} {vlans : List Vlan} {br other : Bridge}

theorem beside_self (br : Bridge) : Beside br.type br.vlans br br := ⟨br.calls, rfl⟩

theorem asks_beside (after : Bridge) (asks : Asks br after) (beside : Beside type vlans br other) : Beside type vlans after other := by
  obtain ⟨calls, rfl⟩ := beside
  obtain ⟨more, rfl, _⟩ := asks
  exact ⟨calls ++ more, rfl⟩

theorem emit_beside (call : OfprotoCall) (beside : Beside type vlans br other) :
    Beside type vlans (if br.ofproto then br.emit call else br) (if other.ofproto then other.emit call else other) := by
  obtain ⟨calls, rfl⟩ := beside
  dsimp only
  split
  · exact ⟨calls ++ [call], rfl⟩
  · exact ⟨calls, rfl⟩

theorem foldl_beside {α : Type} (step : Bridge → α → Bridge)
    (each : ∀ br other a, Beside type vlans br other → Beside type vlans (step br a) (step other a)) (items : List α)
    (beside : Beside type vlans br other) : Beside type vlans (items.foldl step br) (items.foldl step other) :=
  List.foldl_rel beside (fun a _ br other here => each br other a here)

theorem port_ifaces_beside (port : PortRef) (beside : Beside type vlans br other) : portIfaces br port = portIfaces other port := by
  obtain ⟨calls, rfl⟩ := beside
  rfl

theorem iface_lookup_beside (name : String) (beside : Beside type vlans br other) : br.ifaceLookup name = other.ifaceLookup name := by
  obtain ⟨calls, rfl⟩ := beside
  rfl

theorem iface_destroy_beside (iface : IfaceRef) (beside : Beside type vlans br other) :
    Beside type vlans (ifaceDestroy' br iface) (ifaceDestroy' other iface) := by
  unfold ifaceDestroy' ifaceUnregister
  cases iface.ofpPort with
  | none =>
      obtain ⟨calls, rfl⟩ := beside
      exact ⟨calls, rfl⟩
  | some ofpPort =>
      obtain ⟨calls, told⟩ := emit_beside (.portUnregister ofpPort) beside
      dsimp only
      rw [told]
      exact ⟨calls, rfl⟩

theorem port_destroy_beside (port : PortRef) (beside : Beside type vlans br other) :
    Beside type vlans (portDestroy br port) (portDestroy other port) := by
  unfold portDestroy
  dsimp only
  have told := emit_beside (.bundleUnregister port.name) beside
  rw [port_ifaces_beside port told]
  obtain ⟨calls, emptied⟩ := foldl_beside (fun br (iface : Iface) => ifaceDestroy' br iface.self)
    (fun _ _ iface => iface_destroy_beside iface.self) (portIfaces (if other.ofproto then _ else other) port) told
  rw [emptied]
  exact ⟨calls, rfl⟩

theorem destroy_empty_beside (port : PortRef) (beside : Beside type vlans br other) :
    Beside type vlans (if portIfaces br port = [] then portDestroy br port else br)
      (if portIfaces other port = [] then portDestroy other port else other) := by
  rw [port_ifaces_beside port beside]
  split
  · exact port_destroy_beside port beside
  · exact beside

theorem del_port_beside (wantedPorts : List PortRow) (port : PortRef) (beside : Beside type vlans br other) :
    Beside type vlans (bridgeDelPort wantedPorts br port) (bridgeDelPort wantedPorts other port) := by
  have entered : ∀ cfg, Beside type vlans (portSetCfg br port cfg) (portSetCfg other port cfg) := by
    intro cfg
    obtain ⟨calls, rfl⟩ := beside
    exact ⟨calls, rfl⟩
  unfold bridgeDelPort
  cases Keyed.lookup PortRow.name port.name wantedPorts with
  | none => exact port_destroy_beside port (entered none)
  | some row =>
      dsimp only
      rw [portDelIfaces, portDelIfaces, port_ifaces_beside port (entered (some row))]
      refine foldl_beside _ (fun br other iface here => ?_) _ (entered (some row))
      split
      · exact here
      · exact destroy_empty_beside iface.self.port (iface_destroy_beside iface.self here)

theorem update_ifaces_beside (env : Env) (wantedPorts : List PortRow) (beside : Beside type vlans br other) :
    Beside type vlans (updateIfaces env br wantedPorts) (updateIfaces env other wantedPorts) := by
  refine foldl_beside _ (fun br other port here => foldl_beside _ (fun br other row also => ?_) port.interfaces here) _ beside
  have same := iface_lookup_beside row.name also
  obtain ⟨calls, rfl⟩ := also
  rw [updateIface, updateIface, same]
  cases other.ifaceLookup row.name <;> exact ⟨calls, rfl⟩

theorem ports_beside (beside : Beside type vlans br other) : br.ports = other.ports := by
  obtain ⟨calls, rfl⟩ := beside
  rfl

theorem del_ports_beside (env : Env) (wantedPorts : List PortRow) (beside : Beside type vlans br other) :
    Beside type vlans (bridgeDelPorts env br wantedPorts) (bridgeDelPorts env other wantedPorts) := by
  rw [bridgeDelPorts, bridgeDelPorts, ports_beside beside]
  exact update_ifaces_beside env wantedPorts (foldl_beside _ (fun _ _ port => del_port_beside wantedPorts port.self) _ beside)

theorem check_ofproto_port_beside (kept : OfprotoPort → Iface → Bool) (entry : OfprotoPort) (gone : List Nat)
    (beside : Beside type vlans br other) :
    Beside type vlans (checkOfprotoPort kept (br, gone) entry).1 (checkOfprotoPort kept (other, gone) entry).1 ∧
      (checkOfprotoPort kept (br, gone) entry).2 = (checkOfprotoPort kept (other, gone) entry).2 := by
  unfold checkOfprotoPort
  dsimp only
  rw [iface_lookup_beside entry.name beside]
  cases other.ifaceLookup entry.name with
  | none => exact ⟨beside, rfl⟩
  | some iface =>
      have same : ifaceAt br iface = ifaceAt other iface := by
        rw [ifaceAt, ifaceAt, port_ifaces_beside iface.port beside]
      dsimp only
      rw [same]
      split
      · exact ⟨beside, rfl⟩
      · exact ⟨destroy_empty_beside iface.port (iface_destroy_beside iface beside), rfl⟩

theorem drop_vanished_beside (names : List String) (port : PortRef) (beside : Beside type vlans br other) :
    Beside type vlans (dropVanishedIfaces names br port) (dropVanishedIfaces names other port) := by
  unfold dropVanishedIfaces
  dsimp only
  rw [port_ifaces_beside port beside]
  refine destroy_empty_beside port (foldl_beside _ (fun br other iface here => ?_) _ beside)
  split
  · exact here
  · exact iface_destroy_beside iface.self here

theorem delete_or_reconfigure_beside (kept : OfprotoPort → Iface → Bool) (order : HashOrder) (dump : List OfprotoPort)
    (beside : Beside type vlans br other) :
    Beside type vlans (deleteOrReconfigurePorts kept order br dump) (deleteOrReconfigurePorts kept order other dump) := by
  obtain ⟨checked, gone⟩ : Beside type vlans (dump.foldl (checkOfprotoPort kept) (br, [])).1
      (dump.foldl (checkOfprotoPort kept) (other, [])).1 ∧
      (dump.foldl (checkOfprotoPort kept) (br, [])).2 = (dump.foldl (checkOfprotoPort kept) (other, [])).2 :=
    List.foldl_rel (r := fun (work more : Bridge × List Nat) => Beside type vlans work.1 more.1 ∧ work.2 = more.2) ⟨beside, rfl⟩
      (fun entry _ work more here => by
        obtain ⟨first, left⟩ := work
        obtain ⟨second, right⟩ := more
        obtain ⟨also, rfl⟩ := here
        exact check_ofproto_port_beside kept entry left also)
  have told := foldl_beside (fun br ofpPort => br.emit (.portDel ofpPort)) (fun _ _ ofpPort here => by
      obtain ⟨calls, rfl⟩ := here
      exact ⟨calls ++ [.portDel ofpPort], rfl⟩)
    (dump.foldl (checkOfprotoPort kept) (other, [])).2 checked
  rw [deleteOrReconfigurePorts, deleteOrReconfigurePorts, gone, ports_beside told]
  exact foldl_beside _ (fun _ _ port => drop_vanished_beside _ port.self) _ told

theorem add_ports_beside (env : Env) (doCreate : IfaceDoCreate) (wantedPorts : List PortRow) (beside : Beside type vlans br other) :
    Beside type vlans (bridgeAddPorts env doCreate br wantedPorts) (bridgeAddPorts env doCreate other wantedPorts) := by
  refine foldl_beside _ (fun br other port here => foldl_beside _ (fun br other row also => ?_) port.interfaces here) _ beside
  have lookup : br.portLookup port.name = other.portLookup port.name := by rw [Bridge.portLookup, Bridge.portLookup, ports_beside also]
  rw [addWantedIface, addWantedIface, iface_lookup_beside row.name also, ifaceCreate, ifaceCreate, lookup]
  obtain ⟨calls, rfl⟩ := also
  split
  · exact ⟨calls, rfl⟩
  · cases doCreate port row with
    | none => exact ⟨calls, rfl⟩
    | some ofpPort => cases other.portLookup port.name <;> exact ⟨calls, rfl⟩

end Ports

section Vrfs

theorem vrf_del_port_beside (env : Env) (wantedPorts : List PortRow) (vrf : Vrf) (other : Bridge) (port : Port) {type : String}
    {vlans : List Vlan} (beside : Beside type vlans vrf.up other) :
    Beside type vlans (vrfDelPort env wantedPorts vrf port).up (bridgeDelPort wantedPorts other port.self) := by
  have same := del_port_beside wantedPorts port.self beside
  unfold vrfDelPort
  cases found : Keyed.lookup PortRow.name port.self.name wantedPorts with
  | some row =>
      rw [bridgeDelPort, found] at same
      exact same
  | none =>
      have entered : Beside type vlans (portSetCfg vrf.up port.self none) (portSetCfg other port.self none) := by
        obtain ⟨calls, eq⟩ := beside
        rw [eq]
        exact ⟨calls, rfl⟩
      have asked := delete_port_neighbors_asks env (vrf.withUp (portSetCfg vrf.up port.self none)) port
      rw [bridgeDelPort, found]
      exact port_destroy_beside port.self (asks_beside _ asked entered)

theorem vrf_del_ports_beside (env : Env) (wantedPorts : List PortRow) (vrf : Vrf) :
    Beside vrf.up.type vrf.up.vlans (vrfDelPorts env vrf wantedPorts).up (bridgeDelPorts env vrf.up wantedPorts) := by
  have loop : Beside vrf.up.type vrf.up.vlans ((env.order.walk vrf.up.ports).foldl (vrfDelPort env wantedPorts) vrf).up
      ((env.order.walk vrf.up.ports).foldl (fun br port => bridgeDelPort wantedPorts br port.self) vrf.up) :=
    List.foldl_rel (r := fun vrf' other => Beside vrf.up.type vrf.up.vlans vrf'.up other) (beside_self vrf.up)
      (fun port _ next other here => vrf_del_port_beside env wantedPorts next other port here)
  exact update_ifaces_beside env wantedPorts loop

end Vrfs

section Views

def NeighborBlind {β : Type} (view : Vrf → β) : Prop := ∀ vrf after ip, NeighborFrame vrf after ip → view after = view vrf

def RouteBlind {β : Type} (view : Vrf → β) : Prop := ∀ vrf after rows, Routed vrf after rows → view after = view vrf

theorem name_neighbor_blind : NeighborBlind Vrf.name := by
  rintro vrf after ip ⟨calls, neighbors, status, rows, rfl, _⟩
  rfl

theorem name_route_blind : RouteBlind Vrf.name := by
  rintro vrf after rows ⟨calls, routes, nexthops, addr, status, rfl, _⟩
  rfl

theorem neighbors_route_blind : RouteBlind Vrf.allNeighbors := by
  rintro vrf after rows ⟨calls, routes, nexthops, addr, status, rfl, _⟩
  rfl

variable {β : Type} {view : Vrf → β}

theorem foldl_view_kept {α : Type} (step : Vrf → α → Vrf) (each : ∀ vrf a, view (step vrf a) = view vrf) (items : List α) (vrf : Vrf) :
    view (items.foldl step vrf) = view vrf :=
  Keyed.foldl_keeps step (fun after => view after = view vrf) (fun next a _ same => (each next a).trans same) rfl

theorem if_view_kept (condition : Bool) (vrf after : Vrf) (kept : view after = view vrf) :
    view (if condition then after else vrf) = view vrf := by
  cases condition with
  | true => exact kept
  | false => rfl

theorem delete_port_neighbors_view (blind : NeighborBlind view) (env : Env) (vrf : Vrf) (port : Port) :
    view (vrfDeletePortNeighbors env vrf port) = view vrf := by
  refine foldl_view_kept _ (fun next neighbor => ?_) _ vrf
  split
  · exact blind _ _ _ (neighbor_delete_frame env next neighbor)
  · rfl

theorem add_new_neighbor_view (blind : NeighborBlind view) (env : Env) (vrf : Vrf) (row : NeighborRow) :
    view (addNewNeighbor env vrf row) = view vrf := by
  unfold addNewNeighbor
  split
  · rfl
  · exact blind _ _ _ (neighbor_create_frame env vrf row)

theorem add_neighbors_view (blind : NeighborBlind view) (env : Env) (vrf : Vrf) : view (vrfAddNeighbors env vrf) = view vrf := by
  refine foldl_view_kept _ (fun next row => ?_) _ vrf
  split
  · exact add_new_neighbor_view blind env next row
  · rfl

theorem neighbor_update_frame (vrf : Vrf) (neighbor : Neighbor) (ip : String) : NeighborFrame vrf (neighborUpdate vrf neighbor) ip := by
  refine ⟨[], (neighborUpdate vrf neighbor).allNeighbors, vrf.nexthopStatus, vrf.neighborRows, ?_,
    fun _ member => absurd member List.not_mem_nil⟩
  rw [Vrf.withNeighbors, emits_nil]
  rfl

theorem neighbors_view_kept (blind : NeighborBlind view) (env : Env) (vrf : Vrf) :
    view (vrfReconfigureNeighbors env vrf) = view vrf := by
  have removed : ∀ next neighbor, view (deleteOldNeighbor env (currentIdlNeighbors vrf env.idl.neighbors.rows) next neighbor) =
      view next := by
    intro next neighbor
    unfold deleteOldNeighbor
    dsimp only
    have updated := fun entry => blind _ _ "" (neighbor_update_frame next entry "")
    split
    · exact (blind _ _ _ (neighbor_delete_frame env _ _)).trans (updated _)
    · exact updated _
  have changed : ∀ next row, view (checkNeighborChange env next row) = view next := by
    intro next row
    unfold checkNeighborChange
    split
    · split
      · exact blind _ _ _ (neighbor_modify_frame env next _ row)
      · rfl
    · rfl
  unfold vrfReconfigureNeighbors
  dsimp only
  split
  · exact foldl_view_kept _ (fun next neighbor => blind _ _ _ (neighbor_delete_frame env next neighbor)) _ vrf
  split
  · rfl
  refine (if_view_kept _ _ _ (foldl_view_kept _ changed _ _)).trans ?_
  exact (foldl_view_kept _ (add_new_neighbor_view blind env) _ _).trans (foldl_view_kept _ removed _ vrf)

theorem routes_view_kept (blind : RouteBlind view) (env : Env) (vrf : Vrf) : view (vrfReconfigureRoutes env vrf) = view vrf := by
  have removed : ∀ next route, view (deleteOldRoute env (currentIdlRoutes vrf env.idl.routes.rows) next route) = view next := by
    intro next route
    unfold deleteOldRoute
    split
    · rfl
    · exact blind _ _ _ (route_delete_routed env next route)
  have added : ∀ next row, view (addNewRoute env next row) = view next := by
    intro next row
    unfold addNewRoute
    split
    · rfl
    · exact blind _ _ _ (route_add_routed env next row)
  have changed : ∀ next row, view (checkRouteChange env next row) = view next := by
    intro next row
    unfold checkRouteChange
    split
    · split
      · exact blind _ _ _ (route_modify_routed env next _ row)
      · exact blind _ _ _ (route_add_routed env next row)
      · exact blind _ _ _ (route_delete_routed env next _)
      · rfl
    · rfl
  unfold vrfReconfigureRoutes
  dsimp only
  split
  · rfl
  split
  · exact foldl_view_kept _ (fun next route => blind _ _ _ (route_delete_routed env next route)) _ vrf
  split
  · rfl
  refine (if_view_kept _ _ _ (foldl_view_kept _ changed _ _)).trans ?_
  exact (if_view_kept _ _ _ (foldl_view_kept _ added _ _)).trans (if_view_kept _ _ _ (foldl_view_kept _ removed _ vrf))

theorem nexthops_view_kept (blind : RouteBlind view) (env : Env) (vrf : Vrf) :
    view (vrfReconfigureNexthops env vrf) = view vrf := by
  unfold vrfReconfigureNexthops
  split
  · rfl
  refine if_view_kept _ _ _ (foldl_view_kept _ (fun next row => ?_) _ vrf)
  unfold checkRouteNexthops
  split
  · split
    · exact blind _ _ _ (route_modify_routed env next _ row)
    · rfl
  · rfl

end Views

end OpsSwitchd
