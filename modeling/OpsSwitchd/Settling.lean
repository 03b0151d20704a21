import OpsSwitchd.HostPorts
import OpsSwitchd.OwnerFrames
import OpsSwitchd.OwnerSets
import OpsSwitchd.PortsCurrent
import OpsSwitchd.QuietSwitch

set_option autoImplicit false

namespace OpsSwitchd

section Bridges

def Numbers (doCreate : IfaceDoCreate) : Prop := ∀ port iface, doCreate port iface ≠ some none

theorem numbers_numbering (doCreate : IfaceDoCreate) (numbers : Numbers doCreate) : ∃ ofpPorts, doCreate = numbering ofpPorts := by
  refine ⟨fun port iface => (doCreate port iface).join, ?_⟩
  funext port iface
  have real := numbers port iface
  dsimp only [numbering]
  cases answer : doCreate port iface with
  | none => rfl
  | some number =>
      cases number with
      | none => exact absurd answer real
      | some _ => rfl

structure BridgeValid (br : Bridge) : Prop where
  index : BridgeIndex br
  numbered : IfacesNumbered br
  vlans : Keyed.Unique Vlan.name br.vlans

theorem beside_kept {type : String} {vlans : List Vlan} {br : Bridge} (beside : Beside type vlans br br) :
    br.type = type ∧ br.vlans = vlans := by
  obtain ⟨calls, same⟩ := beside
  exact ⟨congrArg Bridge.type same, congrArg Bridge.vlans same⟩

theorem bridge_ready_current (input : Reconfiguration) (br : Bridge) (valid : BridgeValid br) (ready : Bridge)
    (created : bridgeCreatePhase input (bridgeReconfigurePhase input (bridgeDeletePhase input br)) = some ready) :
    PortsCurrent input.env.platform (bridgeCollectWantedPorts br) ready ∧ ready.type = br.type ∧ ready.vlans = br.vlans ∧
      ready.ofproto = true := by
  have deleted : PortsCurrent input.env.platform (bridgeCollectWantedPorts br) (bridgeDeletePhase input br) :=
    deleted_current input.env valid.index valid.numbered
  have apart := del_ports_beside input.env (bridgeCollectWantedPorts br) (beside_self br)
  obtain ⟨current, type, vlans⟩ : PortsCurrent input.env.platform (bridgeCollectWantedPorts br)
      (bridgeReconfigurePhase input (bridgeDeletePhase input br)) ∧
      (bridgeReconfigurePhase input (bridgeDeletePhase input br)).type = br.type ∧
      (bridgeReconfigurePhase input (bridgeDeletePhase input br)).vlans = br.vlans := by
    unfold bridgeReconfigurePhase
    split
    · exact ⟨reconfigured_current _ _ _ deleted, beside_kept (delete_or_reconfigure_beside _ _ _ apart)⟩
    · exact ⟨deleted, beside_kept apart⟩
  generalize bridgeReconfigurePhase input (bridgeDeletePhase input br) = swept at current type vlans created
  unfold bridgeCreatePhase at created
  split at created
  · next up =>
      obtain rfl := Option.some.inj created
      exact ⟨current, type, vlans, up⟩
  · split at created
    · obtain rfl := Option.some.inj created
      exact ⟨current_same_tables _ current rfl rfl rfl rfl rfl, type, vlans, rfl⟩
    · cases created

theorem configure_vlans_rest (order : HashOrder) (br : Bridge) :
    bridgeConfigureVlans order br =
      { br with vlans := (bridgeConfigureVlans order br).vlans, calls := (bridgeConfigureVlans order br).calls } := by
  have keeps : ∀ {α : Type} (step : Bridge → α → Bridge) (items : List α) (start : Bridge),
      (∀ next a, step next a = { next with vlans := (step next a).vlans, calls := (step next a).calls }) →
      start = { br with vlans := start.vlans, calls := start.calls } →
      items.foldl step start = { br with vlans := (items.foldl step start).vlans, calls := (items.foldl step start).calls } := by
    intro α step items start each same
    refine Keyed.foldl_keeps step (fun next => next = { br with vlans := next.vlans, calls := next.calls }) (fun next a _ here => ?_) same
    rw [each next a, here]
  refine keeps checkVlanChange _ _ (fun next vlan => ?_) (keeps addNewVlan _ _ (fun next row => ?_)
    (keeps (deleteOldVlan _) _ _ (fun next vlan => ?_) rfl))
  · unfold checkVlanChange
    dsimp only
    split
    · split <;> rfl
    · rfl
  · unfold addNewVlan
    split <;> rfl
  · unfold deleteOldVlan
    split <;> rfl

structure BridgeDone (input : Reconfiguration) (br after : Bridge) : Prop where
  current : PortsCurrent input.env.platform (bridgeCollectWantedPorts br) after
  vlans : VlansUpToDate after
  name : after.name = br.name
  cfg : after.cfg = br.cfg
  type : after.type = br.type
  ofproto : after.ofproto = true
  present : (∀ port iface, (input.datapath.bridgeIface br.name port iface).isSome) →
    ∀ row ∈ bridgeCollectWantedPorts br, ∀ iface ∈ row.interfaces, (after.ifaceLookup iface.name).isSome

theorem reconfigure_bridge_done (input : Reconfiguration) (br : Bridge) (valid : BridgeValid br)
    (numbers : Numbers (input.datapath.bridgeIface br.name)) (after : Bridge) (done : reconfigureBridge input br = some after) :
    BridgeDone input br after := by
  obtain ⟨ready, created, rfl⟩ := Option.map_eq_some_iff.mp done
  obtain ⟨current, type, vlans, ofproto⟩ := bridge_ready_current input br valid ready created
  have thin := bridge_ready input br valid.index ready created
  obtain ⟨ofpPorts, answers⟩ := numbers_numbering _ numbers
  have added : bridgeAddPhase input ready = bridgeAddPorts input.env (input.datapath.bridgeIface br.name) ready
      (bridgeCollectWantedPorts br) := by
    rw [bridgeAddPhase, thin.name, bridge_wanted_congr br ready thin.name thin.cfg]
  have adds := (add_ports_adds input.env (input.datapath.bridgeIface br.name) ready (bridgeCollectWantedPorts br) current.index).2
  have apart := beside_kept (add_ports_beside input.env (input.datapath.bridgeIface br.name) (bridgeCollectWantedPorts br)
    (beside_self ready))
  have grown := added_current input.env ofpPorts (bridge_wanted_unique br) current
  rw [← answers] at grown
  have configured := configure_vlans_rest input.env.order (configurePorts input.env.order (bridgeAddPhase input ready))
  have upToDate : VlansUpToDate (bridgeConfigurePhase input (bridgeAddPhase input ready)) := by
    refine configured_vlans_up_to_date input.env.order _ ?_
    rw [configure_ports_eq, added, apart.2, vlans]
    exact valid.vlans
  rw [configure_ports_eq, added] at configured
  have rest : bridgeConfigurePhase input (bridgeAddPhase input ready) =
      { bridgeAddPorts input.env (input.datapath.bridgeIface br.name) ready (bridgeCollectWantedPorts br) with
        vlans := (bridgeConfigurePhase input (bridgeAddPhase input ready)).vlans
        calls := (bridgeConfigurePhase input (bridgeAddPhase input ready)).calls } := by
    rw [bridgeConfigurePhase, configure_ports_eq, added]
    exact configured
  generalize bridgeConfigurePhase input (bridgeAddPhase input ready) = final at upToDate rest
  refine ⟨?_, upToDate, ?_, ?_, ?_, ?_, fun accepts row listed iface inside => ?_⟩
  · exact current_same_tables final grown (by rw [rest]) (by rw [rest]) (by rw [rest]) (by rw [rest]) (by rw [rest])
  · rw [rest]
    exact adds.name.trans thin.name
  · rw [rest]
    exact adds.cfg.trans thin.cfg
  · rw [rest]
    exact apart.1.trans type
  · rw [rest]
    exact adds.ofproto.trans ofproto
  · rw [rest]
    exact added_present input.env _ accepts current.index row listed iface inside

theorem bridge_done_valid (input : Reconfiguration) (br after : Bridge) (done : BridgeDone input br after) : BridgeValid after :=
  ⟨done.current.index, done.current.numbered, done.vlans.names⟩

end Bridges

section Vrfs

structure VrfValid (vrf : Vrf) : Prop where
  index : BridgeIndex vrf.up
  numbered : IfacesNumbered vrf.up
  bare : VrfBare vrf

theorem beside_current {platform : Platform} {wantedPorts : List PortRow} {type : String} {vlans : List Vlan} {br other : Bridge}
    (beside : Beside type vlans br other) (current : PortsCurrent platform wantedPorts other) : PortsCurrent platform wantedPorts br := by
  obtain ⟨calls, rfl⟩ := beside
  exact current_same_tables _ current rfl rfl rfl rfl rfl

theorem vrf_del_ports_name (env : Env) (wantedPorts : List PortRow) (vrf : Vrf) : (vrfDelPorts env vrf wantedPorts).name = vrf.name := by
  have each : ∀ next port, Vrf.name (vrfDelPort env wantedPorts next port) = Vrf.name next := by
    intro next port
    unfold vrfDelPort
    cases Keyed.lookup PortRow.name port.self.name wantedPorts with
    | none => exact delete_port_neighbors_view name_neighbor_blind env _ port
    | some row => rfl
  exact foldl_view_kept (vrfDelPort env wantedPorts) each (env.order.walk vrf.up.ports) vrf

theorem vrf_ready_current (input : Reconfiguration) (owner : VrfRow × Vrf) (valid : VrfValid owner.2) (ready : VrfRow × Vrf)
    (created : vrfCreatePhase input (vrfReconfigurePhase input (vrfDeletePhase input owner)) = some ready) :
    PortsCurrent input.env.platform (vrfCollectWantedPorts owner.1) ready.2.up ∧ ready.2.name = owner.2.name ∧
      ready.2.up.vlans = [] ∧ ready.2.up.ofproto = true := by
  have beside := vrf_del_ports_beside input.env (vrfCollectWantedPorts owner.1) owner.2
  have deleted : PortsCurrent input.env.platform (vrfCollectWantedPorts owner.1) (vrfDeletePhase input owner).2.up :=
    beside_current beside (deleted_current input.env valid.index valid.numbered)
  have name : (vrfDeletePhase input owner).2.name = owner.2.name := vrf_del_ports_name input.env _ owner.2
  have vlans : (vrfDeletePhase input owner).2.up.vlans = [] := by
    obtain ⟨calls, same⟩ := beside
    exact (congrArg Bridge.vlans same).trans valid.bare.vlans
  generalize vrfDeletePhase input owner = started at deleted name vlans created
  have swept : PortsCurrent input.env.platform (vrfCollectWantedPorts owner.1) (vrfReconfigurePhase input started).2.up ∧
      (vrfReconfigurePhase input started).2.name = owner.2.name ∧ (vrfReconfigurePhase input started).2.up.vlans = [] := by
    unfold vrfReconfigurePhase
    split
    · have apart := beside_kept (delete_or_reconfigure_beside vrfOfprotoPortKept input.env.order
        (input.datapath.vrfDump started.2.up.name) (beside_self started.2.up))
      exact ⟨reconfigured_current _ _ _ deleted, name, apart.2.trans vlans⟩
    · exact ⟨deleted, name, vlans⟩
  generalize vrfReconfigurePhase input started = last at swept created
  unfold vrfCreatePhase at created
  split at created
  · next up =>
      obtain rfl := Option.some.inj created
      exact ⟨swept.1, swept.2.1, swept.2.2, up⟩
  · split at created
    · obtain rfl := Option.some.inj created
      exact ⟨current_same_tables _ swept.1 rfl rfl rfl rfl rfl, swept.2.1, swept.2.2, rfl⟩
    · cases created

theorem configure_phase_name (input : Reconfiguration) (vrf : Vrf) : (vrfConfigurePhase input vrf).name = vrf.name := by
  refine (nexthops_view_kept name_route_blind input.env _).trans ?_
  refine (routes_view_kept name_route_blind input.env _).trans ?_
  refine (neighbors_view_kept name_neighbor_blind input.env _).trans ?_
  exact if_view_kept _ _ _ (add_neighbors_view name_neighbor_blind input.env _)

theorem configure_phase_neighbors (input : Reconfiguration) (vrf : Vrf) (empty : input.env.idl.neighbors.rows = []) :
    (vrfConfigurePhase input vrf).allNeighbors = [] := by
  refine (nexthops_view_kept neighbors_route_blind input.env _).trans ?_
  refine (routes_view_kept neighbors_route_blind input.env _).trans ?_
  generalize (if vrf.up.ports.any portNeedsConfigure = true then
    vrfAddNeighbors input.env (vrf.withUp (configurePorts input.env.order vrf.up))
    else vrf.withUp (configurePorts input.env.order vrf.up)) = started
  rw [vrfReconfigureNeighbors, if_pos empty, vrfDeleteAllNeighbors, delete_neighbors_loop]
  exact Keyed.removeAll_all Neighbor.ipAddress (fun neighbor member => (input.env.order.mem_walk _ _).mpr member)

theorem delete_routes_removes (env : Env) (gone : List Route) (vrf : Vrf) :
    (gone.foldl (vrfRouteDelete env) vrf).allRoutes = Keyed.removeAll routeAddr (gone.map routeAddr) vrf.allRoutes := by
  induction gone generalizing vrf with
  | nil => exact (Keyed.removeAll_nil _ _).symm
  | cons route rest ih => rw [List.foldl_cons, ih, route_delete_routes, Keyed.removeAll_remove, List.map_cons]

theorem configure_phase_routes (input : Reconfiguration) (vrf : Vrf) (empty : input.env.idl.routes.rows = [])
    (supported : input.env.platform.provider.hasL3RouteAction = true) : (vrfConfigurePhase input vrf).allRoutes = [] := by
  have idle : ∀ next, vrfReconfigureNexthops input.env next = next := by
    intro next
    rw [vrfReconfigureNexthops, empty]
    split
    · rfl
    · split <;> rfl
  unfold vrfConfigurePhase
  dsimp only
  rw [idle]
  generalize vrfReconfigureNeighbors input.env _ = started
  rw [vrfReconfigureRoutes, if_neg (by simp [supported]), if_pos empty, delete_routes_removes]
  exact Keyed.removeAll_all routeAddr (fun route member => (input.env.order.mem_walk _ _).mpr member)

structure VrfDone (input : Reconfiguration) (owner : VrfRow × Vrf) (after : Vrf) : Prop where
  current : PortsCurrent input.env.platform (vrfCollectWantedPorts owner.1) after.up
  bare : VrfBare after
  upName : after.up.name = owner.2.up.name
  name : after.name = owner.2.name
  ofproto : after.up.ofproto = true
  present : (∀ port iface, (input.datapath.vrfIface owner.2.up.name port iface).isSome) →
    ∀ row ∈ vrfCollectWantedPorts owner.1, ∀ iface ∈ row.interfaces, (after.up.ifaceLookup iface.name).isSome
  neighbors : input.env.idl.neighbors.rows = [] → after.allNeighbors = []
  routes : input.env.idl.routes.rows = [] → input.env.platform.provider.hasL3RouteAction = true → after.allRoutes = []

theorem reconfigure_vrf_done (input : Reconfiguration) (owner : VrfRow × Vrf) (valid : VrfValid owner.2)
    (numbers : Numbers (input.datapath.vrfIface owner.2.up.name)) (after : Vrf) (done : reconfigureVrf input owner = some after) :
    VrfDone input owner after := by
  obtain ⟨ready, created, rfl⟩ := Option.map_eq_some_iff.mp done
  obtain ⟨current, name, vlans, ofproto⟩ := vrf_ready_current input owner valid ready created
  obtain ⟨thin, row⟩ := vrf_ready input owner valid.index ready created
  obtain ⟨ofpPorts, answers⟩ := numbers_numbering _ numbers
  have added : (vrfAddPhase input ready).up = bridgeAddPorts input.env (input.datapath.vrfIface owner.2.up.name) ready.2.up
      (vrfCollectWantedPorts owner.1) := by
    rw [← row, ← thin.name]
    rfl
  have adds := (add_ports_adds input.env (input.datapath.vrfIface owner.2.up.name) ready.2.up (vrfCollectWantedPorts owner.1)
    current.index).2
  have apart := beside_kept (add_ports_beside input.env (input.datapath.vrfIface owner.2.up.name) (vrfCollectWantedPorts owner.1)
    (beside_self ready.2.up))
  have unique : Keyed.Unique PortRow.name (vrfCollectWantedPorts owner.1) := Keyed.unique_collect PortRow.name owner.1.ports
  have grown := added_current input.env ofpPorts unique current
  rw [← answers] at grown
  have configured := configure_phase_name input (vrfAddPhase input ready)
  have neighbors := configure_phase_neighbors input (vrfAddPhase input ready)
  have routes := configure_phase_routes input (vrfAddPhase input ready)
  obtain ⟨more, rest, _⟩ := vrf_configure_asks input (vrfAddPhase input ready)
  rw [configure_ports_eq, added] at rest
  generalize vrfConfigurePhase input (vrfAddPhase input ready) = final at configured neighbors routes rest
  refine ⟨?_, ⟨?_, ?_⟩, ?_, ?_, ?_, fun accepts row listed iface inside => ?_, neighbors, routes⟩
  · exact current_same_tables final.up grown (by rw [rest]) (by rw [rest]) (by rw [rest]) (by rw [rest]) (by rw [rest])
  · rw [rest]
    exact adds.cfg.trans (thin.cfg.trans valid.bare.cfg)
  · rw [rest]
    exact apart.2.trans vlans
  · rw [rest]
    exact adds.name.trans thin.name
  · exact configured.trans name
  · rw [rest]
    exact adds.ofproto.trans ofproto
  · rw [rest]
    exact added_present input.env _ accepts current.index row listed iface inside

theorem vrf_done_valid (input : Reconfiguration) (owner : VrfRow × Vrf) (after : Vrf) (done : VrfDone input owner after) :
    VrfValid after :=
  ⟨done.current.index, done.current.numbered, done.bare⟩

end Vrfs

section Switch

structure SwitchValid (switch : Switch) : Prop where
  bridgeNames : Keyed.Unique Bridge.name switch.bridges
  vrfNames : Keyed.Unique vrfName switch.vrfs
  bridges : ∀ br ∈ switch.bridges, BridgeValid br
  vrfs : ∀ vrf ∈ switch.vrfs, VrfValid vrf

theorem empty_switch_valid : SwitchValid ⟨[], []⟩ :=
  ⟨List.nodup_nil, List.nodup_nil, fun _ member => absurd member List.not_mem_nil, fun _ member => absurd member List.not_mem_nil⟩

theorem add_del_bridges_valid (normalizeType : String → String) (rows : List BridgeRow) (bridges : List Bridge)
    (valid : ∀ br ∈ bridges, BridgeValid br) : ∀ br ∈ addDelBridges normalizeType rows bridges, BridgeValid br := by
  refine Keyed.forall_foldl_create Bridge.name BridgeRow.name (bridgeCreate normalizeType) BridgeValid (fun row => ?_) rows ?_
  · have start := ports_inv_start normalizeType row
    exact ⟨start.index, start.numbered, List.nodup_nil⟩
  · intro kept member
    obtain ⟨br, old, found⟩ := List.mem_filterMap.mp member
    obtain ⟨cfg, rfl⟩ := keep_bridge_some _ _ br kept found
    obtain ⟨index, numbered, vlans⟩ := valid br old
    exact ⟨index, ⟨numbered.same, numbered.named, numbered.listed⟩, vlans⟩

theorem add_del_vrfs_valid (rows : List VrfRow) (vrfs : List Vrf) (valid : ∀ vrf ∈ vrfs, VrfValid vrf) :
    ∀ owner ∈ addDelVrfs rows vrfs, VrfValid owner.2 := by
  refine Keyed.forall_foldl_create vrfUpName VrfRow.name (fun row => (row, vrfCreate row)) (fun owner => VrfValid owner.2)
    (fun row => ?_) rows ?_
  · exact ⟨port_index_nil 0, ⟨rfl, fun _ member => absurd member List.not_mem_nil, fun _ member => absurd member List.not_mem_nil⟩,
      rfl, rfl⟩
  · intro kept member
    obtain ⟨vrf, old, found⟩ := List.mem_filterMap.mp member
    obtain ⟨cfg, _, rfl⟩ := Option.map_eq_some_iff.mp found
    obtain ⟨index, numbered, bare⟩ := valid vrf old
    exact ⟨index, numbered, bare.cfg, bare.vlans⟩

theorem add_del_bridges_row (normalizeType : String → String) (rows : List BridgeRow) (bridges : List Bridge)
    (unique : Keyed.Unique Bridge.name bridges) (br : Bridge) (member : br ∈ addDelBridges normalizeType rows bridges) :
    ∃ row, Keyed.lookup BridgeRow.name br.name rows = some row ∧ br.cfg = some row ∧ br.type = normalizeType row.datapathType := by
  have found := Keyed.lookup_of_mem Bridge.name (add_del_bridges_unique normalizeType rows bridges unique) member
  rw [add_del_bridges_eq, Reconcile.reconcile_lookup BridgeRow.name Bridge.name Bridge.name _ _
    (keep_bridge_name normalizeType rows) (fun _ => rfl) rows unique, Option.or_eq_some_iff] at found
  rcases found with kept | ⟨_, made⟩
  · obtain ⟨old, _, here⟩ := Option.bind_eq_some_iff.mp kept
    obtain ⟨_, row, listed, same, rfl⟩ := (keep_bridge_eq_some normalizeType rows old br).mp here
    exact ⟨row, listed, rfl, same⟩
  · obtain ⟨row, listed, rfl⟩ := Option.map_eq_some_iff.mp made
    exact ⟨row, listed, rfl, rfl⟩

theorem add_del_vrfs_row (rows : List VrfRow) (vrfs : List Vrf) (unique : Keyed.Unique vrfName vrfs) (owner : VrfRow × Vrf)
    (member : owner ∈ addDelVrfs rows vrfs) :
    Keyed.lookup VrfRow.name owner.2.up.name rows = some owner.1 ∧ owner.2.name = owner.1.name := by
  have found := Keyed.lookup_of_mem vrfUpName (add_del_vrfs_unique rows vrfs unique) member
  rw [add_del_vrfs_eq, Reconcile.reconcile_lookup VrfRow.name vrfName vrfUpName _ _ (keep_vrf_name rows) (fun _ => rfl) rows unique,
    Option.or_eq_some_iff] at found
  rcases found with kept | ⟨_, made⟩
  · obtain ⟨old, _, here⟩ := Option.bind_eq_some_iff.mp kept
    obtain ⟨_, row, listed, rfl⟩ := (keep_vrf_eq_some rows old owner).mp here
    exact ⟨listed, rfl⟩
  · obtain ⟨row, listed, rfl⟩ := Option.map_eq_some_iff.mp made
    exact ⟨listed, rfl⟩

def AnswersNumbered (input : Reconfiguration) : Prop :=
  ∀ name, Numbers (input.datapath.bridgeIface name) ∧ Numbers (input.datapath.vrfIface name)

structure RunDone (switch : Switch) (input : Reconfiguration) : Prop where
  bridges : ∀ after ∈ (bridgeReconfigure switch input).bridges,
    ∃ br ∈ addDelBridges input.datapath.normalizeType input.cfg.bridges switch.bridges, BridgeDone input br after
  vrfs : ∀ after ∈ (bridgeReconfigure switch input).vrfs, ∃ owner ∈ addDelVrfs input.cfg.vrfs switch.vrfs, VrfDone input owner after

theorem run_done (switch : Switch) (input : Reconfiguration) (answers : AnswersNumbered input) (valid : SwitchValid switch) :
    RunDone switch input := by
  have bridges := add_del_bridges_valid input.datapath.normalizeType input.cfg.bridges switch.bridges valid.bridges
  have vrfs := add_del_vrfs_valid input.cfg.vrfs switch.vrfs valid.vrfs
  constructor
  · rw [reconfigure_by_owner]
    intro after member
    obtain ⟨br, present, done⟩ := List.mem_filterMap.mp member
    exact ⟨br, present, reconfigure_bridge_done input br (bridges br present) (answers br.name).1 after done⟩
  · rw [reconfigure_by_owner]
    intro after member
    obtain ⟨owner, present, done⟩ := List.mem_filterMap.mp member
    exact ⟨owner, present, reconfigure_vrf_done input owner (vrfs owner present) (answers owner.2.up.name).2 after done⟩

theorem switch_valid_index (switch : Switch) (valid : SwitchValid switch) : SwitchIndex switch :=
  ⟨valid.bridgeNames, valid.vrfNames, fun br member => (valid.bridges br member).index, fun vrf member => (valid.vrfs vrf member).index⟩

theorem switch_valid_step (switch : Switch) (input : Reconfiguration) (answers : AnswersNumbered input) (valid : SwitchValid switch) :
    SwitchValid (bridgeReconfigure switch input) := by
  have index := bridge_reconfigure_index switch input (switch_valid_index switch valid)
  have done := run_done switch input answers valid
  refine ⟨index.bridgeNames, index.vrfNames, fun after member => ?_, fun after member => ?_⟩
  · obtain ⟨br, _, made⟩ := done.bridges after member
    exact bridge_done_valid input br after made
  · obtain ⟨owner, _, made⟩ := done.vrfs after member
    exact vrf_done_valid input owner after made

-- Two interfaces of one name overwrite each other, and one of type null is
-- destroyed and created again by every run.
structure RowsUsable (wantedPorts : List PortRow) : Prop where
  distinct : DistinctIfaces wantedPorts
  real : ∀ iface ∈ wantedPorts.flatMap PortRow.interfaces, iface.type ≠ "null"

structure Faultless (input : Reconfiguration) : Prop where
  bridgeNames : ∀ row ∈ input.cfg.bridges, nameIgnored row.name = false
  vrfNames : ∀ row ∈ input.cfg.vrfs, nameIgnored row.name = false
  bridgeRows : ∀ row ∈ input.cfg.bridges, RowsUsable (bridgeCollectWantedPorts (bridgeCreate input.datapath.normalizeType row))
  vrfRows : ∀ row ∈ input.cfg.vrfs, RowsUsable (vrfCollectWantedPorts row)
  createBridge : ∀ name, input.datapath.createBridge name = true
  createVrf : ∀ name, input.datapath.createVrf name = true
  bridgeIface : ∀ name port iface, (input.datapath.bridgeIface name port iface).isSome
  vrfIface : ∀ name port iface, (input.datapath.vrfIface name port iface).isSome

theorem bridge_done_up_to_date (input : Reconfiguration) (faultless : Faultless input) (br after : Bridge) (row : BridgeRow)
    (listed : Keyed.lookup BridgeRow.name br.name input.cfg.bridges = some row) (cfg : br.cfg = some row)
    (done : BridgeDone input br after) : UpToDate input.env.platform (bridgeCollectWantedPorts after) after := by
  have wanted := bridge_wanted_congr br after done.name done.cfg
  have usable := faultless.bridgeRows row (Keyed.lookup_mem BridgeRow.name listed)
  rw [← bridge_wanted_congr (bridgeCreate input.datapath.normalizeType row) br (Keyed.lookup_key BridgeRow.name listed).symm cfg] at usable
  rw [wanted]
  exact current_up_to_date done.current done.ofproto (bridge_wanted_unique br) usable.distinct usable.real
    (done.present (faultless.bridgeIface br.name))

theorem vrf_done_up_to_date (input : Reconfiguration) (faultless : Faultless input) (owner : VrfRow × Vrf) (after : Vrf)
    (listed : Keyed.lookup VrfRow.name owner.2.up.name input.cfg.vrfs = some owner.1) (done : VrfDone input owner after) :
    UpToDate input.env.platform (vrfCollectWantedPorts owner.1) after.up := by
  have usable := faultless.vrfRows owner.1 (Keyed.lookup_mem VrfRow.name listed)
  exact current_up_to_date done.current done.ofproto (Keyed.unique_collect PortRow.name owner.1.ports) usable.distinct usable.real
    (done.present (faultless.vrfIface owner.2.up.name))

theorem bridge_row_kept (switch : Switch) (input : Reconfiguration) (faultless : Faultless input) (valid : SwitchValid switch)
    (row : BridgeRow) (member : row ∈ input.cfg.bridges) :
    (Keyed.lookup Bridge.name row.name (bridgeReconfigure switch input).bridges).isSome := by
  have bridges := add_del_bridges_valid input.datapath.normalizeType input.cfg.bridges switch.bridges valid.bridges
  obtain ⟨br, present, named⟩ := List.mem_map.mp ((add_del_bridges_names input.datapath.normalizeType input.cfg.bridges
    switch.bridges valid.bridgeNames row.name).mpr (List.mem_map_of_mem member))
  have index := (bridges br present).index
  obtain ⟨after, done⟩ := Option.isSome_iff_exists.mp
    ((reconfigure_bridge_isSome input br index).mpr (.inr (faultless.createBridge br.name)))
  rw [reconfigure_by_owner, Keyed.lookup_some_iff_exists Bridge.name]
  exact ⟨after, List.mem_filterMap.mpr ⟨br, present, done⟩, (reconfigure_bridge_index input br index after done).1.trans named⟩

theorem vrf_row_kept (switch : Switch) (input : Reconfiguration) (faultless : Faultless input) (valid : SwitchValid switch)
    (row : VrfRow) (member : row ∈ input.cfg.vrfs) :
    (Keyed.lookup vrfName row.name (bridgeReconfigure switch input).vrfs).isSome := by
  have vrfs := add_del_vrfs_valid input.cfg.vrfs switch.vrfs valid.vrfs
  obtain ⟨owner, present, named⟩ := List.mem_map.mp
    ((add_del_vrfs_names input.cfg.vrfs switch.vrfs valid.vrfNames row.name).mpr (List.mem_map_of_mem member))
  have index := (vrfs owner present).index
  obtain ⟨after, done⟩ := Option.isSome_iff_exists.mp
    ((reconfigure_vrf_isSome input owner index).mpr (.inr (faultless.createVrf owner.2.up.name)))
  rw [reconfigure_by_owner, Keyed.lookup_some_iff_exists vrfName]
  exact ⟨after, List.mem_filterMap.mpr ⟨owner, present, done⟩, (reconfigure_vrf_index input owner index after done).1.trans named⟩

theorem reconfigured_mirrored (switch : Switch) (input : Reconfiguration) (answers : AnswersNumbered input)
    (faultless : Faultless input) (valid : SwitchValid switch) :
    Mirrored input.env.platform input.datapath.normalizeType input.cfg (bridgeReconfigure switch input) := by
  have done := run_done switch input answers valid
  have rowOf := add_del_bridges_row input.datapath.normalizeType input.cfg.bridges switch.bridges valid.bridgeNames
  have vrfRowOf := add_del_vrfs_row input.cfg.vrfs switch.vrfs valid.vrfNames
  refine ⟨(switch_valid_step switch input answers valid).vrfNames, ⟨?_, ?_, ?_, ?_⟩, ?_, ?_⟩
  · intro after member
    obtain ⟨br, present, made⟩ := done.bridges after member
    obtain ⟨row, listed, cfg, type⟩ := rowOf br present
    have plain := faultless.bridgeNames row (Keyed.lookup_mem BridgeRow.name listed)
    rw [Keyed.lookup_key BridgeRow.name listed] at plain
    rw [made.name]
    exact ⟨row, listed, plain, made.cfg.trans cfg, made.type.trans type⟩
  · exact bridge_row_kept switch input faultless valid
  · intro after member
    obtain ⟨owner, present, made⟩ := done.vrfs after member
    obtain ⟨listed, named⟩ := vrfRowOf owner present
    have plain := faultless.vrfNames owner.1 (Keyed.lookup_mem VrfRow.name listed)
    rw [Keyed.lookup_key VrfRow.name listed] at plain
    rw [made.upName]
    exact ⟨owner.1, listed, plain, made.name.trans named⟩
  · exact vrf_row_kept switch input faultless valid
  · intro after member
    obtain ⟨br, present, made⟩ := done.bridges after member
    obtain ⟨row, listed, cfg, _⟩ := rowOf br present
    exact ⟨bridge_done_up_to_date input faultless br after row listed cfg made, made.vlans⟩
  · intro after member
    obtain ⟨owner, present, made⟩ := done.vrfs after member
    obtain ⟨listed, _⟩ := vrfRowOf owner present
    refine ⟨made.bare, fun row found => ?_⟩
    rw [made.upName, listed] at found
    rw [← Option.some.inj found]
    exact vrf_done_up_to_date input faultless owner after listed made

end Switch

section Repetition

structure NothingChanged (input next : Reconfiguration) (switch : Switch) : Prop where
  platform : next.env.platform = input.env.platform
  normalizeType : next.datapath.normalizeType = input.datapath.normalizeType
  cfg : next.cfg = input.cfg.quiet
  bridgeDump : ∀ br ∈ switch.bridges, DumpAgrees ofprotoPortKept (next.datapath.bridgeDump br.name) br
  vrfDump : ∀ vrf ∈ switch.vrfs, DumpAgrees vrfOfprotoPortKept (next.datapath.vrfDump vrf.up.name) vrf.up
  neighbors : next.env.idl.neighbors = ⟨next.env.idl.neighbors.rows, false, false, false⟩
  routes : next.env.idl.routes = ⟨next.env.idl.routes.rows, false, false, false⟩
  nexthops : next.env.idl.nexthops.anyModified = false
  neighborRows : next.env.idl.neighbors.rows = [] ↔ input.env.idl.neighbors.rows = []
  routeRows : next.env.idl.routes.rows = [] ↔ input.env.idl.routes.rows = []

theorem nothing_changed_tables (switch : Switch) (input next : Reconfiguration) (done : RunDone switch input)
    (same : NothingChanged input next (bridgeReconfigure switch input)) (vrf : Vrf)
    (member : vrf ∈ (bridgeReconfigure switch input).vrfs) : TablesQuiet next.env vrf := by
  obtain ⟨owner, _, made⟩ := done.vrfs vrf member
  refine ⟨?_, ?_, same.nexthops, fun empty => made.neighbors (same.neighborRows.mp empty), fun empty supported => ?_⟩
  · rw [same.neighbors]
    exact ⟨rfl, rfl, rfl⟩
  · rw [same.routes]
    exact ⟨rfl, rfl, rfl⟩
  · rw [same.platform] at supported
    exact made.routes (same.routeRows.mp empty) supported

theorem reached_switch_valid (inputs : List Reconfiguration) (answers : ∀ input ∈ inputs, AnswersNumbered input) :
    SwitchValid (Runs.run bridgeReconfigure ⟨[], []⟩ inputs) := by
  have always := Runs.invariant_always (fun switch input valid numbered => switch_valid_step switch input numbered valid)
    empty_switch_valid ((Runs.along_inputs bridgeReconfigure AnswersNumbered ⟨[], []⟩ inputs).mpr answers)
  exact always inputs [] (List.append_nil inputs).symm

theorem reconfiguration_settles (earlier : List Reconfiguration) (input next : Reconfiguration)
    (answers : ∀ one ∈ earlier ++ [input], AnswersNumbered one) (faultless : Faultless input)
    (same : NothingChanged input next (Runs.run bridgeReconfigure ⟨[], []⟩ (earlier ++ [input]))) :
    bridgeReconfigure (Runs.run bridgeReconfigure ⟨[], []⟩ (earlier ++ [input])) next =
      (Runs.run bridgeReconfigure ⟨[], []⟩ (earlier ++ [input])).quiet := by
  have valid := reached_switch_valid earlier (fun one member => answers one (List.mem_append_left _ member))
  have last := answers input (by simp)
  rw [Runs.run_snoc] at same ⊢
  have mirrored := reconfigured_mirrored _ input last faultless valid
  rw [← same.platform, ← same.normalizeType] at mirrored
  have tables := nothing_changed_tables _ input next (run_done _ input last valid) same
  exact mirrored_repeats input.cfg _ next ⟨same.cfg, same.bridgeDump, same.vrfDump, tables⟩ mirrored

def firstRun : Reconfiguration := plainReconfiguration [] [flaggedPort true] []

def secondRun : Reconfiguration := plainReconfiguration ["1"] [flaggedPort false] []

theorem first_run_faultless : Faultless firstRun where
  bridgeNames := by decide
  vrfNames := by decide
  bridgeRows := fun row member => by
    obtain rfl := List.mem_singleton.mp member
    exact ⟨show List.Nodup _ by decide, by decide⟩
  vrfRows := fun row member => by
    obtain rfl := List.mem_singleton.mp member
    exact ⟨List.nodup_nil, fun iface inside => absurd inside List.not_mem_nil⟩
  createBridge := fun _ => rfl
  createVrf := fun _ => rfl
  bridgeIface := fun _ _ _ => rfl
  vrfIface := fun _ _ _ => rfl

theorem second_run_repeats : NothingChanged firstRun secondRun (bridgeReconfigure ⟨[], []⟩ firstRun) where
  platform := rfl
  normalizeType := rfl
  cfg := rfl
  bridgeDump := fun br member => ⟨by revert br; decide, by revert br; decide⟩
  vrfDump := fun vrf member => ⟨by revert vrf; decide, by revert vrf; decide⟩
  neighbors := rfl
  routes := rfl
  nexthops := rfl
  neighborRows := Iff.rfl
  routeRows := Iff.rfl

theorem first_run_settles :
    bridgeReconfigure (Runs.run bridgeReconfigure ⟨[], []⟩ ([] ++ [firstRun])) secondRun =
      (Runs.run bridgeReconfigure ⟨[], []⟩ ([] ++ [firstRun])).quiet := by
  refine reconfiguration_settles [] firstRun secondRun (fun one member name => ?_) first_run_faultless second_run_repeats
  obtain rfl := List.mem_singleton.mp member
  exact ⟨fun _ _ same => absurd (Option.some.inj same) (by decide), fun _ _ same => absurd (Option.some.inj same) (by decide)⟩

end Repetition

end OpsSwitchd
