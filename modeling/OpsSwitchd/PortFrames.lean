import OpsSwitchd.PortAdd
import OpsSwitchd.Reconfigure
import OpsSwitchd.Vlan
import OpsSwitchd.VrfOps

set_option autoImplicit false

namespace OpsSwitchd

-- The neighbor and the route functions leave the tables of ports alone: they
-- ask the provider for something, but never to configure a port.
def Asks (br after : Bridge) : Prop :=
  ∃ more, after = { br with calls := br.calls ++ more } ∧ ∀ port, .bundleRegister port ∉ more

theorem asks_refl (br : Bridge) : Asks br br :=
  ⟨[], by rw [List.append_nil], fun _ member => nomatch member⟩

theorem asks_trans (br middle after : Bridge) (first : Asks br middle) (second : Asks middle after) : Asks br after := by
  obtain ⟨calls, rfl, quiet⟩ := first
  obtain ⟨more, rfl, also⟩ := second
  refine ⟨calls ++ more, by rw [← List.append_assoc], ?_⟩
  intro port member
  rcases List.mem_append.mp member with left | right
  · exact quiet port left
  · exact also port right

theorem asks_foldl {α : Type} (step : Vrf → α → Vrf) (each : ∀ vrf a, Asks vrf.up (step vrf a).up) (items : List α) (vrf : Vrf) :
    Asks vrf.up (items.foldl step vrf).up :=
  Keyed.foldl_keeps step (fun after => Asks vrf.up after.up) (fun next a _ asks => asks_trans _ _ _ asks (each next a))
    (asks_refl vrf.up)

theorem asks_frame (br after : Bridge) (asks : Asks br after) : PortFrame br after := by
  obtain ⟨more, rfl, quiet⟩ := asks
  exact ⟨rfl, rfl, rfl, rfl, more, rfl, quiet⟩

theorem asks_ports (br after : Bridge) (asks : Asks br after) : after.ports = br.ports := by
  obtain ⟨more, rfl, _⟩ := asks
  rfl

theorem asks_drops (br after : Bridge) (index : BridgeIndex br) (asks : Asks br after) : Drops br after (fun _ => true) := by
  have frame := asks_frame br after asks
  obtain ⟨more, rfl, _⟩ := asks
  exact drops_nothing br _ index frame rfl rfl

theorem neighbor_frame_asks (vrf after : Vrf) (ip : String) (frame : NeighborFrame vrf after ip) : Asks vrf.up after.up := by
  obtain ⟨calls, neighbors, status, rows, rfl, fine⟩ := frame
  exact ⟨calls, rfl, fun port member => fine _ member⟩

theorem routed_asks (vrf after : Vrf) (rows : List RouteRow) (routed : Routed vrf after rows) : Asks vrf.up after.up := by
  obtain ⟨calls, _, _, _, _, rfl, about⟩ := routed
  refine ⟨calls, rfl, ?_⟩
  intro port member
  obtain ⟨_, _, same⟩ := about _ member
  cases same

theorem delete_all_neighbors_asks (env : Env) (vrf : Vrf) : Asks vrf.up (vrfDeleteAllNeighbors env vrf).up :=
  asks_foldl _ (fun next neighbor => neighbor_frame_asks _ _ _ (neighbor_delete_frame env next neighbor)) _ vrf

theorem delete_port_neighbors_asks (env : Env) (vrf : Vrf) (port : Port) :
    Asks vrf.up (vrfDeletePortNeighbors env vrf port).up := by
  refine asks_foldl _ (fun next neighbor => ?_) _ vrf
  split
  · exact neighbor_frame_asks _ _ _ (neighbor_delete_frame env next neighbor)
  · exact asks_refl _

theorem vrf_del_port_drops (env : Env) (wantedPorts : List PortRow) (vrf : Vrf) (index : BridgeIndex vrf.up) (port : Port) :
    Drops vrf.up (vrfDelPort env wantedPorts vrf port).up
      (fun ref => ref.port.addr ≠ port.self.addr || rowWants wantedPorts port.self.name ref) := by
  have cfgSet := port_set_cfg_drops vrf.up index port.self (Keyed.lookup PortRow.name port.self.name wantedPorts)
  have next := drops_index _ _ _ index cfgSet
  have dropped := bridge_del_port_drops wantedPorts vrf.up index port.self
  unfold vrfDelPort
  unfold bridgeDelPort at dropped
  cases found : Keyed.lookup PortRow.name port.self.name wantedPorts with
  | some row =>
      rw [found] at dropped
      exact dropped
  | none =>
      rw [found] at cfgSet next
      have asked := delete_port_neighbors_asks env (vrf.withUp (portSetCfg vrf.up port.self none)) port
      have told := asks_drops _ _ next asked
      have destroyed := port_destroy_drops _ (drops_index _ _ _ next told) port.self
      refine drops_congr vrf.up _ _ _ index (fun ref _ => ?_)
        (drops_trans _ _ _ _ _ cfgSet (drops_trans _ _ _ _ _ told destroyed))
      simp [rowWants, found]

theorem vrf_del_ports_drops (env : Env) (wantedPorts : List PortRow) (vrf : Vrf) (index : BridgeIndex vrf.up) :
    Drops vrf.up ((env.order.walk vrf.up.ports).foldl (vrfDelPort env wantedPorts) vrf).up
      (fun ref => rowWants wantedPorts ref.port.name ref) := by
  have looped : ∀ (ports : List Port) (next : Vrf), BridgeIndex next.up →
      Drops next.up (ports.foldl (vrfDelPort env wantedPorts) next).up (fun ref =>
        ports.all (fun port => ref.port.addr ≠ port.self.addr || rowWants wantedPorts port.self.name ref)) := by
    intro ports
    induction ports with
    | nil => exact fun next valid => drops_nothing _ _ valid (port_frame_refl _) rfl rfl
    | cons port rest ih =>
        intro next valid
        have first := vrf_del_port_drops env wantedPorts next valid port
        exact drops_trans _ _ _ _ _ first (ih _ (drops_index _ _ _ valid first))
  exact drops_congr _ _ _ _ index (own_port_decides vrf.up index env.order (rowWants wantedPorts))
    (looped (env.order.walk vrf.up.ports) vrf index)

theorem add_new_neighbor_asks (env : Env) (vrf : Vrf) (row : NeighborRow) : Asks vrf.up (addNewNeighbor env vrf row).up := by
  unfold addNewNeighbor
  split
  · exact asks_refl _
  · exact neighbor_frame_asks _ _ _ (neighbor_create_frame env vrf row)

theorem add_neighbors_asks (env : Env) (vrf : Vrf) : Asks vrf.up (vrfAddNeighbors env vrf).up := by
  refine asks_foldl _ (fun next row => ?_) _ vrf
  split
  · exact add_new_neighbor_asks env next row
  · exact asks_refl _

theorem delete_old_neighbor_asks (env : Env) (idlNeighbors : List NeighborRow) (vrf : Vrf) (neighbor : Neighbor) :
    Asks vrf.up (deleteOldNeighbor env idlNeighbors vrf neighbor).up := by
  unfold deleteOldNeighbor
  dsimp only
  split
  · exact neighbor_frame_asks _ _ _ (neighbor_delete_frame env (neighborUpdate vrf _) _)
  · exact asks_refl _

theorem check_neighbor_change_asks (env : Env) (vrf : Vrf) (row : NeighborRow) :
    Asks vrf.up (checkNeighborChange env vrf row).up := by
  unfold checkNeighborChange
  split
  · split
    · exact neighbor_frame_asks _ _ _ (neighbor_modify_frame env vrf _ row)
    · exact asks_refl _
  · exact asks_refl _

theorem reconfigure_neighbors_asks (env : Env) (vrf : Vrf) : Asks vrf.up (vrfReconfigureNeighbors env vrf).up := by
  have removed := asks_foldl (deleteOldNeighbor env (currentIdlNeighbors vrf env.idl.neighbors.rows))
    (delete_old_neighbor_asks env _) (env.order.walk vrf.allNeighbors) vrf
  unfold vrfReconfigureNeighbors
  dsimp only
  split
  · exact delete_all_neighbors_asks env vrf
  split
  · exact asks_refl _
  refine asks_trans _ _ _ removed (asks_trans _ _ _ (asks_foldl _ (add_new_neighbor_asks env) env.idl.neighbors.rows _) ?_)
  split
  · exact asks_foldl _ (check_neighbor_change_asks env) _ _
  · exact asks_refl _

theorem delete_old_route_asks (env : Env) (idlRoutes : List RouteRow) (vrf : Vrf) (route : Route) :
    Asks vrf.up (deleteOldRoute env idlRoutes vrf route).up := by
  unfold deleteOldRoute
  split
  · exact asks_refl _
  · exact routed_asks _ _ _ (route_delete_routed env vrf route)

theorem add_new_route_asks (env : Env) (vrf : Vrf) (row : RouteRow) : Asks vrf.up (addNewRoute env vrf row).up := by
  unfold addNewRoute
  split
  · exact asks_refl _
  · exact routed_asks _ _ _ (route_add_routed env vrf row)

theorem check_route_change_asks (env : Env) (vrf : Vrf) (row : RouteRow) : Asks vrf.up (checkRouteChange env vrf row).up := by
  unfold checkRouteChange
  split
  · split
    · exact routed_asks _ _ _ (route_modify_routed env vrf _ row)
    · exact routed_asks _ _ _ (route_add_routed env vrf row)
    · exact routed_asks _ _ _ (route_delete_routed env vrf _)
    · exact asks_refl _
  · exact asks_refl _

theorem asks_if (condition : Bool) (vrf after : Vrf) (asks : Asks vrf.up after.up) :
    Asks vrf.up (if condition then after else vrf).up := by
  cases condition with
  | true => exact asks
  | false => exact asks_refl _

theorem reconfigure_routes_asks (env : Env) (vrf : Vrf) : Asks vrf.up (vrfReconfigureRoutes env vrf).up := by
  have removed := asks_if env.idl.routes.anyDeleted _ _ (asks_foldl (deleteOldRoute env (currentIdlRoutes vrf env.idl.routes.rows))
    (delete_old_route_asks env _) (env.order.walk vrf.allRoutes) vrf)
  unfold vrfReconfigureRoutes
  dsimp only
  split
  · exact asks_refl _
  split
  · exact asks_foldl _ (fun next route => routed_asks _ _ _ (route_delete_routed env next route)) _ vrf
  split
  · exact asks_refl _
  have added := asks_if env.idl.routes.anyInserted _ _ (asks_foldl (addNewRoute env) (add_new_route_asks env)
    (env.order.walk (currentIdlRoutes vrf env.idl.routes.rows)) (if env.idl.routes.anyDeleted = true then
      (env.order.walk vrf.allRoutes).foldl (deleteOldRoute env (currentIdlRoutes vrf env.idl.routes.rows)) vrf else vrf))
  exact asks_trans _ _ _ removed (asks_trans _ _ _ added (asks_if _ _ _ (asks_foldl _ (check_route_change_asks env) _ _)))

theorem check_route_nexthops_asks (env : Env) (vrf : Vrf) (row : RouteRow) :
    Asks vrf.up (checkRouteNexthops env vrf row).up := by
  unfold checkRouteNexthops
  split
  · split
    · exact routed_asks _ _ _ (route_modify_routed env vrf _ row)
    · exact asks_refl _
  · exact asks_refl _

theorem reconfigure_nexthops_asks (env : Env) (vrf : Vrf) : Asks vrf.up (vrfReconfigureNexthops env vrf).up := by
  unfold vrfReconfigureNexthops
  split
  · exact asks_refl _
  split
  · exact asks_foldl _ (check_route_nexthops_asks env) _ vrf
  · exact asks_refl _

structure VlansOnly (br after : Bridge) : Prop where
  frame : PortFrame br after
  ports : after.ports = br.ports
  byName : after.ifaceByName = br.ifaceByName

theorem vlans_only_trans (br middle after : Bridge) (first : VlansOnly br middle) (second : VlansOnly middle after) :
    VlansOnly br after :=
  ⟨port_frame_trans _ _ _ first.frame second.frame, second.ports.trans first.ports, second.byName.trans first.byName⟩

theorem vlans_only_foldl {α : Type} (step : Bridge → α → Bridge) (each : ∀ br a, VlansOnly br (step br a)) (items : List α)
    (br : Bridge) : VlansOnly br (items.foldl step br) :=
  Keyed.foldl_keeps step (VlansOnly br) (fun next a _ only => vlans_only_trans _ _ _ only (each next a))
    ⟨port_frame_refl br, rfl, rfl⟩

theorem configure_vlans_only (order : HashOrder) (br : Bridge) : VlansOnly br (bridgeConfigureVlans order br) := by
  have told : ∀ (next : Bridge) vid enable, PortFrame next (next.emit (.setVlan vid enable)) :=
    fun next vid enable => port_frame_emit next _ nofun
  have quiet : ∀ (next : Bridge) vlans, PortFrame next { next with vlans := vlans } :=
    fun next vlans => port_frame_same _ _ rfl rfl rfl rfl rfl
  refine vlans_only_trans _ _ _ (vlans_only_foldl _ (fun next vlan => ?_) _ br)
    (vlans_only_trans _ _ _ (vlans_only_foldl _ (fun next row => ?_) _ _) (vlans_only_foldl _ (fun next vlan => ?_) _ _))
  · unfold deleteOldVlan
    split
    · exact ⟨port_frame_trans _ _ _ (told next _ _) (quiet _ _), rfl, rfl⟩
    · exact ⟨quiet next _, rfl, rfl⟩
  · unfold addNewVlan
    split
    · exact ⟨port_frame_refl _, rfl, rfl⟩
    · exact ⟨quiet next _, rfl, rfl⟩
  · unfold checkVlanChange
    dsimp only
    split
    · split
      · exact ⟨port_frame_trans _ _ _ (quiet next _) (told _ _ _), rfl, rfl⟩
      · exact ⟨port_frame_refl _, rfl, rfl⟩
    · exact ⟨port_frame_refl _, rfl, rfl⟩

end OpsSwitchd
