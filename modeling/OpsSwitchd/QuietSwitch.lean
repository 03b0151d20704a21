import OpsSwitchd.QuietRun

set_option autoImplicit false

namespace OpsSwitchd

section Owners

theorem kept_blind (entry : OfprotoPort) (iface : Iface) : ofprotoPortKept entry iface.quiet = ofprotoPortKept entry iface := rfl

theorem vrf_kept_blind (entry : OfprotoPort) (iface : Iface) : vrfOfprotoPortKept entry iface.quiet = vrfOfprotoPortKept entry iface := rfl

theorem reconfigure_bridge_quiet (input : Reconfiguration) (br : Bridge)
    (current : UpToDate input.env.platform (bridgeCollectWantedPorts br) br) (vlans : VlansUpToDate br)
    (agrees : DumpAgrees ofprotoPortKept (input.datapath.bridgeDump br.name) br) :
    reconfigureBridge input { br with cfg := br.cfg.map BridgeRow.quiet } = some br.quiet := by
  have loaded := up_to_date_quiet_cfg current
  have settled := quiet_up_to_date loaded
  generalize quieted : ({ br with cfg := br.cfg.map BridgeRow.quiet, ports := br.ports.map Port.quiet } : Bridge) = after at settled
  have deleted : bridgeDeletePhase input { br with cfg := br.cfg.map BridgeRow.quiet } = after := by
    rw [bridgeDeletePhase, bridge_wanted_quiet, delete_ports_quiet input.env loaded]
    exact quieted
  have checked : bridgeReconfigurePhase input after = after := by
    rw [bridgeReconfigurePhase, if_pos settled.ofproto]
    refine reconfigure_ports_idle ofprotoPortKept input.env.order _ settled.index ?_
    have same : DumpAgrees ofprotoPortKept (input.datapath.bridgeDump br.name) { br with cfg := br.cfg.map BridgeRow.quiet } :=
      ⟨agrees.known, agrees.all⟩
    rw [← quieted]
    exact quiet_dump ofprotoPortKept kept_blind _ same
  have created : bridgeCreatePhase input after = some after := if_pos settled.ofproto
  have wanted : bridgeCollectWantedPorts after = (bridgeCollectWantedPorts br).map PortRow.quiet := by
    rw [← bridge_wanted_quiet br]
    exact bridge_wanted_congr _ _ (by rw [← quieted]) (by rw [← quieted])
  have added : bridgeAddPhase input after = after := by
    rw [bridgeAddPhase, wanted]
    exact add_ports_idle input.env _ settled
  have configured : configurePorts input.env.order after = after := by
    refine configure_ports_idle input.env.order (fun port member => ?_)
    rw [← quieted] at member
    obtain ⟨old, _, rfl⟩ := List.mem_map.mp member
    exact quiet_needs_nothing old
  rw [reconfigureBridge, deleted, checked, created, Option.map_some, added, bridgeConfigurePhase, configured,
    configure_vlans_quiet input.env.order after vlans (by rw [← quieted]) ?_, ← quieted]
  · rfl
  · rw [← quiet_cfg_vlans br, ← quieted]
    rfl

theorem vrf_del_port_some (env : Env) (wantedPorts : List PortRow) (vrf : Vrf) (up : Bridge) (port : Port)
    (wanted : (Keyed.lookup PortRow.name port.self.name wantedPorts).isSome) :
    vrfDelPort env wantedPorts (vrf.withUp up) port = vrf.withUp (bridgeDelPort wantedPorts up port.self) := by
  obtain ⟨row, found⟩ := Option.isSome_iff_exists.mp wanted
  unfold vrfDelPort bridgeDelPort
  rw [found]
  rfl

theorem vrf_del_ports_some (env : Env) (wantedPorts : List PortRow) (vrf : Vrf) (ports : List Port) (up : Bridge)
    (wanted : ∀ port ∈ ports, (Keyed.lookup PortRow.name port.self.name wantedPorts).isSome) :
    ports.foldl (vrfDelPort env wantedPorts) (vrf.withUp up) =
      vrf.withUp (ports.foldl (fun br port => bridgeDelPort wantedPorts br port.self) up) := by
  induction ports generalizing up with
  | nil => rfl
  | cons port rest ih =>
      rw [List.foldl_cons, List.foldl_cons, vrf_del_port_some env wantedPorts vrf up port (wanted port List.mem_cons_self)]
      exact ih _ (fun other member => wanted other (List.mem_cons_of_mem port member))

theorem vrf_delete_quiet (env : Env) (wantedPorts : List PortRow) (vrf : Vrf) (current : UpToDate env.platform wantedPorts vrf.up) :
    vrfDelPorts env vrf (wantedPorts.map PortRow.quiet) = vrf.withUp { vrf.up with ports := vrf.up.ports.map Port.quiet } := by
  have wanted : ∀ port ∈ env.order.walk vrf.up.ports,
      (Keyed.lookup PortRow.name port.self.name (wantedPorts.map PortRow.quiet)).isSome := by
    intro port walked
    have member := (env.order.mem_walk _ _).mp walked
    obtain ⟨row, _, stored, _, _⟩ := current.ports port member
    rw [quiet_lookup, up_to_date_row current port member, stored]
    rfl
  have loop := vrf_del_ports_some env (wantedPorts.map PortRow.quiet) vrf (env.order.walk vrf.up.ports) vrf.up wanted
  rw [show vrf.withUp vrf.up = vrf from rfl] at loop
  rw [← delete_ports_quiet env current, vrfDelPorts, loop]
  rfl

structure TablesQuiet (env : Env) (vrf : Vrf) : Prop where
  neighbors : env.idl.neighbors.anyInserted = false ∧ env.idl.neighbors.anyModified = false ∧ env.idl.neighbors.anyDeleted = false
  routes : env.idl.routes.anyInserted = false ∧ env.idl.routes.anyModified = false ∧ env.idl.routes.anyDeleted = false
  nexthops : env.idl.nexthops.anyModified = false
  noNeighbors : env.idl.neighbors.rows = [] → vrf.allNeighbors = []
  noRoutes : env.idl.routes.rows = [] → env.platform.provider.hasL3RouteAction = true → vrf.allRoutes = []

theorem walk_nil {α : Type} (order : HashOrder) : order.walk ([] : List α) = [] :=
  List.eq_nil_iff_forall_not_mem.mpr (fun _ walked => List.not_mem_nil ((order.mem_walk _ _).mp walked))

theorem tables_idle (env : Env) (vrf : Vrf) (quiet : TablesQuiet env vrf) :
    vrfReconfigureNeighbors env vrf = vrf ∧ vrfReconfigureRoutes env vrf = vrf ∧ vrfReconfigureNexthops env vrf = vrf := by
  refine ⟨?_, ?_, ?_⟩
  · obtain ⟨inserted, modified, deleted⟩ := quiet.neighbors
    unfold vrfReconfigureNeighbors
    dsimp only
    split
    · rename_i empty
      rw [vrfDeleteAllNeighbors, quiet.noNeighbors empty, walk_nil]
      rfl
    · rw [inserted, modified, deleted]
      rfl
  · obtain ⟨inserted, modified, deleted⟩ := quiet.routes
    unfold vrfReconfigureRoutes
    dsimp only
    split
    · rfl
    · rename_i supported
      split
      · rename_i empty
        rw [quiet.noRoutes empty (by simpa using supported), walk_nil]
        rfl
      · rw [inserted, modified, deleted]
        rfl
  · unfold vrfReconfigureNexthops
    rw [quiet.nexthops]
    split <;> rfl

structure VrfBare (vrf : Vrf) : Prop where
  cfg : vrf.up.cfg = none
  vlans : vrf.up.vlans = []

theorem reconfigure_vrf_quiet (input : Reconfiguration) (row : VrfRow) (vrf : Vrf) (bare : VrfBare vrf)
    (current : UpToDate input.env.platform (vrfCollectWantedPorts row) vrf.up)
    (agrees : DumpAgrees vrfOfprotoPortKept (input.datapath.vrfDump vrf.up.name) vrf.up)
    (tables : TablesQuiet input.env vrf) : reconfigureVrf input (row.quiet, vrf) = some vrf.quiet := by
  have settled := quiet_up_to_date current
  have agreed := quiet_dump vrfOfprotoPortKept vrf_kept_blind _ agrees
  have up : ({ vrf.up with ports := vrf.up.ports.map Port.quiet } : Bridge) = vrf.up.quiet := by
    simp only [Bridge.quiet, bare.cfg, bare.vlans, Option.map_none, List.map_nil]
  rw [up] at settled agreed
  have deleted : vrfDeletePhase input (row.quiet, vrf) = (row.quiet, vrf.quiet) := by
    rw [vrfDeletePhase, vrf_wanted_quiet, vrf_delete_quiet input.env _ vrf current, up]
    rfl
  have checked : vrfReconfigurePhase input (row.quiet, vrf.quiet) = (row.quiet, vrf.quiet) := by
    have idle := reconfigure_ports_idle vrfOfprotoPortKept input.env.order _ settled.index agreed
    rw [vrfReconfigurePhase]
    refine (if_pos settled.ofproto).trans ?_
    exact congrArg (fun up => (row.quiet, vrf.quiet.withUp up)) idle
  have created : vrfCreatePhase input (row.quiet, vrf.quiet) = some (row.quiet, vrf.quiet) := if_pos settled.ofproto
  have added : vrfAddPhase input (row.quiet, vrf.quiet) = vrf.quiet := by
    have idle := add_ports_idle input.env (input.datapath.vrfIface vrf.up.name) settled
    rw [vrfAddPhase, vrf_wanted_quiet]
    exact congrArg (fun up => vrf.quiet.withUp up) idle
  have unneeded : ∀ port ∈ vrf.quiet.up.ports, portNeedsConfigure port = false := by
    intro port member
    obtain ⟨old, _, rfl⟩ := List.mem_map.mp member
    exact quiet_needs_nothing old
  have configured : vrf.quiet.withUp (configurePorts input.env.order vrf.quiet.up) = vrf.quiet := by
    rw [configure_ports_idle input.env.order unneeded]
    rfl
  have none : vrf.quiet.up.ports.any portNeedsConfigure = false := by
    rw [List.any_eq_false]
    intro port member
    rw [unneeded port member]
    exact Bool.false_ne_true
  obtain ⟨neighbors, routes, nexthops⟩ := tables_idle input.env vrf.quiet
    ⟨tables.neighbors, tables.routes, tables.nexthops, tables.noNeighbors, tables.noRoutes⟩
  rw [reconfigureVrf, deleted, checked, created, Option.map_some, added, vrfConfigurePhase]
  rw [configured, none, if_neg Bool.false_ne_true, neighbors, routes, nexthops]

end Owners

section Switch

def OpenVswitchRow.quiet (cfg : OpenVswitchRow) : OpenVswitchRow := ⟨cfg.bridges.map BridgeRow.quiet, cfg.vrfs.map VrfRow.quiet⟩

structure OwnersUpToDate (normalizeType : String → String) (cfg : OpenVswitchRow) (switch : Switch) : Prop where
  bridges : ∀ br ∈ switch.bridges, ∃ row, Keyed.lookup BridgeRow.name br.name cfg.bridges = some row ∧
    nameIgnored br.name = false ∧ br.cfg = some row ∧ br.type = normalizeType row.datapathType
  bridgeRows : ∀ row ∈ cfg.bridges, (Keyed.lookup Bridge.name row.name switch.bridges).isSome
  vrfs : ∀ vrf ∈ switch.vrfs, ∃ row, Keyed.lookup VrfRow.name vrf.up.name cfg.vrfs = some row ∧
    nameIgnored vrf.up.name = false ∧ vrf.name = row.name
  vrfRows : ∀ row ∈ cfg.vrfs, (Keyed.lookup vrfName row.name switch.vrfs).isSome

theorem lookup_unignored {ρ : Type} (name : ρ → String) (quiet : ρ → ρ) (same : ∀ row, name (quiet row) = name row) (rows : List ρ)
    (key : String) (plain : nameIgnored key = false) :
    Keyed.lookup name key (Keyed.collect name ((rows.map quiet).filter (fun row => !nameIgnored (name row)))) =
      (Keyed.lookup name key rows).map quiet := by
  rw [Keyed.lookup_collect, Keyed.lookup_filter name _ key _ (fun row here => by rw [here, plain]; rfl), Keyed.lookup_map name key quiet same]

theorem add_del_bridges_quiet (normalizeType : String → String) (cfg : OpenVswitchRow) (switch : Switch)
    (owners : OwnersUpToDate normalizeType cfg switch) :
    addDelBridges normalizeType cfg.quiet.bridges switch.bridges =
      switch.bridges.map (fun br => { br with cfg := br.cfg.map BridgeRow.quiet }) := by
  have kept : switch.bridges.filterMap (keepBridge normalizeType
      (Keyed.collect BridgeRow.name ((cfg.bridges.map BridgeRow.quiet).filter (fun row => !nameIgnored row.name)))) =
      switch.bridges.map (fun br => { br with cfg := br.cfg.map BridgeRow.quiet }) := by
    conv_rhs => rw [← List.filterMap_eq_map]
    refine List.filterMap_congr (fun br member => ?_)
    obtain ⟨row, found, plain, stored, type⟩ := owners.bridges br member
    have listed := lookup_unignored BridgeRow.name BridgeRow.quiet (fun _ => rfl) cfg.bridges br.name plain
    rw [found, Option.map_some] at listed
    unfold keepBridge
    rw [listed]
    refine (if_pos type).trans ?_
    simp only [Function.comp_apply, stored, Option.map_some]
  unfold addDelBridges OpenVswitchRow.quiet
  dsimp only
  rw [kept]
  refine Keyed.foldl_idle _ (fun row member => if_pos ?_)
  obtain ⟨old, listed, rfl⟩ := List.mem_map.mp member
  rw [Keyed.lookup_map Bridge.name old.quiet.name (fun br => { br with cfg := br.cfg.map BridgeRow.quiet }) (fun _ => rfl),
    Option.isSome_map]
  exact owners.bridgeRows old listed

theorem add_del_vrfs_quiet (normalizeType : String → String) (cfg : OpenVswitchRow) (switch : Switch)
    (names : Keyed.Unique vrfName switch.vrfs) (owners : OwnersUpToDate normalizeType cfg switch) :
    addDelVrfs cfg.quiet.vrfs switch.vrfs =
      switch.vrfs.filterMap (fun vrf => (Keyed.lookup VrfRow.name vrf.up.name cfg.vrfs).map (fun row => (row.quiet, vrf))) := by
  have kept : switch.vrfs.filterMap (keepVrf
      (Keyed.collect VrfRow.name ((cfg.vrfs.map VrfRow.quiet).filter (fun row => !nameIgnored row.name)))) =
      switch.vrfs.filterMap (fun vrf => (Keyed.lookup VrfRow.name vrf.up.name cfg.vrfs).map (fun row => (row.quiet, vrf))) := by
    refine List.filterMap_congr (fun vrf member => ?_)
    obtain ⟨row, found, plain, named⟩ := owners.vrfs vrf member
    have listed := lookup_unignored VrfRow.name VrfRow.quiet (fun _ => rfl) cfg.vrfs vrf.up.name plain
    have same : { vrf with name := row.quiet.name } = vrf := by
      rw [show row.quiet.name = vrf.name from named.symm]
    rw [keepVrf, listed, found, Option.map_some, Option.map_some, Option.map_some, same]
  unfold addDelVrfs OpenVswitchRow.quiet
  dsimp only
  rw [kept]
  refine Keyed.foldl_idle _ (fun row member => if_pos ?_)
  obtain ⟨old, listed, rfl⟩ := List.mem_map.mp member
  rw [Keyed.lookup_filterMap vrfName vrfUpName names _ (fun vrf owner made => ?_)]
  · obtain ⟨vrf, there⟩ := Option.isSome_iff_exists.mp (owners.vrfRows old listed)
    obtain ⟨row, found, _, _⟩ := owners.vrfs vrf (Keyed.lookup_mem vrfName there)
    rw [show old.quiet.name = old.name from rfl, there, Option.bind_some, found]
    rfl
  · obtain ⟨row, _, rfl⟩ := Option.map_eq_some_iff.mp made
    rfl

structure Mirrored (platform : Platform) (normalizeType : String → String) (cfg : OpenVswitchRow) (switch : Switch) : Prop where
  names : Keyed.Unique vrfName switch.vrfs
  owners : OwnersUpToDate normalizeType cfg switch
  bridges : ∀ br ∈ switch.bridges, UpToDate platform (bridgeCollectWantedPorts br) br ∧ VlansUpToDate br
  vrfs : ∀ vrf ∈ switch.vrfs, VrfBare vrf ∧
    ∀ row, Keyed.lookup VrfRow.name vrf.up.name cfg.vrfs = some row → UpToDate platform (vrfCollectWantedPorts row) vrf.up

structure Repeats (cfg : OpenVswitchRow) (switch : Switch) (next : Reconfiguration) : Prop where
  cfg : next.cfg = cfg.quiet
  bridgeDump : ∀ br ∈ switch.bridges, DumpAgrees ofprotoPortKept (next.datapath.bridgeDump br.name) br
  vrfDump : ∀ vrf ∈ switch.vrfs, DumpAgrees vrfOfprotoPortKept (next.datapath.vrfDump vrf.up.name) vrf.up
  tables : ∀ vrf ∈ switch.vrfs, TablesQuiet next.env vrf

theorem mirrored_repeats (cfg : OpenVswitchRow) (switch : Switch) (next : Reconfiguration) (repeats : Repeats cfg switch next)
    (mirrored : Mirrored next.env.platform next.datapath.normalizeType cfg switch) : bridgeReconfigure switch next = switch.quiet := by
  rw [reconfigure_by_owner, repeats.cfg, add_del_bridges_quiet _ cfg switch mirrored.owners,
    add_del_vrfs_quiet _ cfg switch mirrored.names mirrored.owners, List.filterMap_map, List.filterMap_filterMap]
  refine congrArg₂ Switch.mk ?_ ?_
  · rw [← List.filterMap_eq_map]
    refine List.filterMap_congr (fun br member => ?_)
    obtain ⟨current, vlans⟩ := mirrored.bridges br member
    exact reconfigure_bridge_quiet next br current vlans (repeats.bridgeDump br member)
  · rw [← List.filterMap_eq_map]
    refine List.filterMap_congr (fun vrf member => ?_)
    obtain ⟨row, found, _, _⟩ := mirrored.owners.vrfs vrf member
    obtain ⟨bare, current⟩ := mirrored.vrfs vrf member
    rw [found, Option.map_some, Option.bind_some]
    exact reconfigure_vrf_quiet next row vrf bare (current row found) (repeats.vrfDump vrf member) (repeats.tables vrf member)

end Switch

end OpsSwitchd
