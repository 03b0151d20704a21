import OpsSwitchd.PortFrames

set_option autoImplicit false

namespace OpsSwitchd

-- A neighbor function or a port phase, in whatever order they are called. The
-- port phases get what bridge_reconfigure collected or what the datapath said.
inductive PortOp where
  | delPorts (row : VrfRow)
  | reconfigurePorts (dump : List OfprotoPort)
  | addPorts (row : VrfRow) (doCreate : IfaceDoCreate)
  | neighborCreate (row : NeighborRow)
  | neighborModify (row : NeighborRow)
  | neighborDelete (ipAddress : String)

def portStep (vrf : Vrf) (input : Env × PortOp) : Vrf :=
  match input.2 with
  | .delPorts row => vrfDelPorts input.1 vrf (vrfCollectWantedPorts row)
  | .reconfigurePorts dump => vrfDeleteOrReconfigurePorts input.1 vrf dump
  | .addPorts row doCreate => vrf.withUp (bridgeAddPorts input.1 doCreate vrf.up (vrfCollectWantedPorts row))
  | .neighborCreate row => addNewNeighbor input.1 vrf row
  | .neighborModify row =>
      match neighborHashLookup vrf row.ipAddress with
      | some neighbor => neighborModify input.1 vrf neighbor row
      | none => vrf
  | .neighborDelete ipAddress =>
      match neighborHashLookup vrf ipAddress with
      | some neighbor => neighborDelete input.1 vrf neighbor
      | none => vrf

def HostsHavePorts (vrf : Vrf) : Prop :=
  ∀ neighbor ∈ vrf.allNeighbors, neighbor.l3EgressId ≠ -1 → (neighbor.portName.bind vrf.up.portLookup).isSome

instance (vrf : Vrf) : Decidable (HostsHavePorts vrf) := by
  unfold HostsHavePorts
  infer_instance

structure PortTables (vrf : Vrf) : Prop where
  index : BridgeIndex vrf.up
  neighbors : Keyed.Unique Neighbor.ipAddress vrf.allNeighbors

theorem neighbor_delete_removes (env : Env) (vrf : Vrf) (neighbor : Neighbor) :
    (neighborDelete env vrf neighbor).allNeighbors =
      Keyed.remove Neighbor.ipAddress neighbor.ipAddress vrf.allNeighbors := by
  by_cases idle : neighbor.l3EgressId = -1
  · obtain ⟨status, deleted⟩ := neighbor_delete_idle env vrf neighbor idle
    rw [deleted]
    rfl
  · cases present : neighbor.portName.bind vrf.up.portLookup with
    | some port =>
        obtain ⟨status, deleted⟩ := neighbor_delete_live env vrf neighbor idle port present
        rw [deleted]
        rfl
    | none =>
        obtain ⟨status, updated⟩ := update_route_with_neighbor_eq env vrf neighbor false
        have still : neighbor.portName.bind (vrfOfprotoUpdateRouteWithNeighbor env vrf neighbor false).up.portLookup = none := by
          rw [updated]
          exact present
        have kept : neighborDeleteL3HostEntry env (vrfOfprotoUpdateRouteWithNeighbor env vrf neighbor false) neighbor =
            (vrfOfprotoUpdateRouteWithNeighbor env vrf neighbor false, neighbor) := by
          rw [neighborDeleteL3HostEntry, still]
        rw [updated] at kept
        simp only [neighborDelete, ne_eq, idle, not_false_eq_true, if_true, updated, kept]
        rfl

theorem delete_neighbors_loop (env : Env) (gone : List Neighbor) (vrf : Vrf) :
    (gone.foldl (neighborDelete env) vrf).allNeighbors =
      Keyed.removeAll Neighbor.ipAddress (gone.map Neighbor.ipAddress) vrf.allNeighbors := by
  induction gone generalizing vrf with
  | nil => exact (Keyed.removeAll_nil _ _).symm
  | cons neighbor rest ih =>
      rw [List.foldl_cons, ih, neighbor_delete_removes, Keyed.removeAll_remove, List.map_cons]

theorem delete_port_neighbors_filter (env : Env) (vrf : Vrf) (unique : Keyed.Unique Neighbor.ipAddress vrf.allNeighbors)
    (port : Port) :
    (vrfDeletePortNeighbors env vrf port).allNeighbors =
      vrf.allNeighbors.filter (fun neighbor => neighbor.portName ≠ some port.self.name) := by
  have chosen : vrfDeletePortNeighbors env vrf port =
      ((env.order.walk vrf.allNeighbors).filter (fun neighbor => neighbor.portName = some port.self.name)).foldl
        (neighborDelete env) vrf := by
    rw [List.foldl_filter]
    simp only [decide_eq_true_eq]
    rfl
  rw [chosen, delete_neighbors_loop]
  refine List.filter_congr (fun neighbor member => ?_)
  rw [decide_eq_decide, not_iff_not]
  constructor
  · intro listed
    obtain ⟨other, found, same⟩ := List.mem_map.mp listed
    obtain ⟨walked, named⟩ := List.mem_filter.mp found
    rw [← Keyed.unique_mem_eq Neighbor.ipAddress unique ((env.order.mem_walk _ _).mp walked) member same]
    simpa using named
  · intro named
    exact List.mem_map.mpr ⟨neighbor, List.mem_filter.mpr ⟨(env.order.mem_walk _ _).mpr member, by simpa using named⟩, rfl⟩

def portWanted (wantedPorts : List PortRow) (name : String) : Bool :=
  (Keyed.lookup PortRow.name name wantedPorts).isSome

theorem vrf_del_port_neighbors (env : Env) (wantedPorts : List PortRow) (vrf : Vrf)
    (unique : Keyed.Unique Neighbor.ipAddress vrf.allNeighbors) (port : Port) :
    (vrfDelPort env wantedPorts vrf port).allNeighbors = vrf.allNeighbors.filter
      (fun neighbor => portWanted wantedPorts port.self.name || neighbor.portName ≠ some port.self.name) := by
  unfold vrfDelPort portWanted
  cases found : Keyed.lookup PortRow.name port.self.name wantedPorts with
  | some row => exact (List.filter_eq_self.mpr (fun _ _ => rfl)).symm
  | none => exact delete_port_neighbors_filter env (vrf.withUp (portSetCfg vrf.up port.self none)) unique port

theorem vrf_del_ports_neighbors (env : Env) (wantedPorts : List PortRow) (ports : List Port) (vrf : Vrf)
    (unique : Keyed.Unique Neighbor.ipAddress vrf.allNeighbors) :
    (ports.foldl (vrfDelPort env wantedPorts) vrf).allNeighbors = vrf.allNeighbors.filter (fun neighbor =>
      ports.all (fun port => portWanted wantedPorts port.self.name || neighbor.portName ≠ some port.self.name)) := by
  induction ports generalizing vrf with
  | nil => exact (List.filter_eq_self.mpr (fun _ _ => rfl)).symm
  | cons port rest ih =>
      have first := vrf_del_port_neighbors env wantedPorts vrf unique port
      rw [List.foldl_cons, ih _ (by rw [first]; exact Keyed.unique_filter Neighbor.ipAddress unique _), first,
        List.filter_filter]
      refine List.filter_congr (fun neighbor _ => ?_)
      rw [List.all_cons, Bool.and_comm]

theorem port_lookup_isSome (br : Bridge) (name : String) :
    (br.portLookup name).isSome ↔ ∃ port ∈ br.ports, port.self.name = name :=
  Keyed.lookup_some_iff_exists portName

theorem drops_port_lookup (br after : Bridge) (keep : IfaceRef → Bool) (drops : Drops br after keep) (name : String) :
    (after.portLookup name).isSome ↔ ∃ port ∈ br.ports, port.self.name = name ∧ ∃ iface ∈ port.ifaces, keep iface.self = true := by
  rw [port_lookup_isSome]
  have names : after.ports.map portName = (keepPorts keep br.ports).map portName := by
    have bare := congrArg (List.map portName) drops.ports
    rw [List.map_map, List.map_map] at bare
    exact bare
  constructor
  · rintro ⟨port, member, rfl⟩
    have listed := List.mem_map_of_mem (f := portName) member
    rw [names] at listed
    obtain ⟨kept, stays, named⟩ := List.mem_map.mp listed
    obtain ⟨before, old, filled, rfl⟩ := mem_keep_ports.mp stays
    obtain ⟨iface, inside⟩ := List.exists_mem_of_ne_nil _ filled
    obtain ⟨present, chosen⟩ := List.mem_filter.mp inside
    exact ⟨before, old, named, iface, present, chosen⟩
  · rintro ⟨port, member, rfl, iface, present, chosen⟩
    have stays : port.keeping keep ∈ keepPorts keep br.ports :=
      mem_keep_ports.mpr ⟨port, member, List.ne_nil_of_mem (List.mem_filter.mpr ⟨present, chosen⟩), rfl⟩
    have listed := List.mem_map_of_mem (f := portName) stays
    rw [← names] at listed
    obtain ⟨later, there, named⟩ := List.mem_map.mp listed
    exact ⟨later, there, named⟩

theorem retags_port_lookup (br after : Bridge) (f : Iface → Iface) (retags : Retags br after f) (name : String) :
    (after.portLookup name).isSome ↔ (br.portLookup name).isSome := by
  simp [port_lookup_isSome, retags.ports, Port.retag]

theorem adds_port_lookup (br after : Bridge) (pairs : List (PortRow × InterfaceRow)) (adds : Adds br after pairs) (name : String)
    (present : (br.portLookup name).isSome) : (after.portLookup name).isSome := by
  have grown := adds.ports name
  obtain ⟨port, found⟩ := Option.isSome_iff_exists.mp present
  rw [found] at grown
  obtain ⟨later, there, _⟩ := grown
  rw [there]
  rfl

end OpsSwitchd
