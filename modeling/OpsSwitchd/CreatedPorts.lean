import OpsSwitchd.PortConfigure

set_option autoImplicit false

namespace OpsSwitchd

theorem iface_at_retags (br after : Bridge) (f : Iface → Iface) (same : ∀ iface, (f iface).self = iface.self)
    (index : BridgeIndex br) (retags : Retags br after f) (ref : IfaceRef) (member : ref ∈ ifaceRefs br.ports) :
    ifaceAt after ref = (ifaceAt br ref).map f := by
  obtain ⟨port, present, iface, inside, rfl⟩ := mem_iface_refs.mp member
  have there : port.retag f ∈ after.ports := by
    rw [retags.ports]
    exact List.mem_map_of_mem present
  have found := iface_at_mem after (retags_index _ _ f same index retags) (port.retag f) there (f iface)
    (List.mem_map_of_mem inside)
  rw [same] at found
  rw [found, iface_at_mem br index port present iface inside]
  rfl

def acceptedByDump (kept : OfprotoPort → Iface → Bool) (env : Env) (wantedPorts : List PortRow) (dump : List OfprotoPort)
    (br : Bridge) (ref : IfaceRef) : Bool :=
  ref.name ∈ dump.map OfprotoPort.name &&
    dump.all (fun entry => entry.name ≠ ref.name || ((ifaceAt br ref).map
      (fun iface => (wantedIfaces env wantedPorts).foldl (retagIface env.platform br.cfg) iface)).any (kept entry))

def ownerKeeps (kept : OfprotoPort → Iface → Bool) (env : Env) (wantedPorts : List PortRow) (dump : List OfprotoPort)
    (br : Bridge) (ref : IfaceRef) : Bool :=
  rowWants wantedPorts ref.port.name ref && (!br.ofproto || acceptedByDump kept env wantedPorts dump br ref)

def ownerCreated (kept : OfprotoPort → Iface → Bool) (env : Env) (wantedPorts : List PortRow) (dump : List OfprotoPort)
    (doCreate : IfaceDoCreate) (br : Bridge) : List (PortRow × InterfaceRow) :=
  createdPairs doCreate (namePresent br (ownerKeeps kept env wantedPorts dump br)) (wantedPairs env wantedPorts)

theorem drops_updated (env : Env) (wantedPorts : List PortRow) (br dropped : Bridge) (keep : IfaceRef → Bool)
    (index : BridgeIndex br) (drops : Drops br dropped keep) :
    PortFrame br (updateIfaces env dropped wantedPorts) ∧ BridgeIndex (updateIfaces env dropped wantedPorts) := by
  have left := drops_index _ _ _ index drops
  have retags := update_wanted_retags env dropped wantedPorts left
  exact ⟨port_frame_trans _ _ _ drops.frame retags.frame,
    retags_index _ _ _ (fun iface => retag_rows_self _ _ _ iface) left retags⟩

theorem owner_thinned (kept : OfprotoPort → Iface → Bool) (env : Env) (wantedPorts : List PortRow) (dump : List OfprotoPort)
    (br dropped : Bridge) (index : BridgeIndex br)
    (drops : Drops br dropped (fun ref => rowWants wantedPorts ref.port.name ref)) :
    Thinned br (if br.ofproto then deleteOrReconfigurePorts kept env.order (updateIfaces env dropped wantedPorts) dump
      else updateIfaces env dropped wantedPorts) (ownerKeeps kept env wantedPorts dump br) := by
  have left := drops_index _ _ _ index drops
  have retags := update_wanted_retags env dropped wantedPorts left
  have self := fun iface => retag_rows_self env.platform dropped.cfg (wantedIfaces env wantedPorts) iface
  have updated := retags_index _ _ _ self left retags
  have thin := thinned_trans _ _ _ _ _ (thinned_by_drops _ _ _ index drops) (thinned_by_retags _ _ _ self left retags)
  cases up : br.ofproto with
  | false =>
      rw [if_neg Bool.false_ne_true]
      exact thinned_congr _ _ _ _ (fun ref _ => by simp [ownerKeeps, up]) thin
  | true =>
      rw [if_pos rfl]
      have swept := thinned_by_drops _ _ _ updated
        (delete_or_reconfigure_drops kept env.order (updateIfaces env dropped wantedPorts) dump updated)
      refine thinned_congr _ _ _ _ (fun ref member => ?_) (thinned_trans _ _ _ _ _ thin swept)
      rw [ownerKeeps, up, Bool.and_true, Bool.not_true, Bool.false_or]
      cases wants : rowWants wantedPorts ref.port.name ref with
      | false => rfl
      | true =>
          have listed : ref ∈ ifaceRefs dropped.ports := by
            rw [drops_refs _ _ _ drops]
            exact List.mem_filter.mpr ⟨member, wants⟩
          rw [Bool.true_and, Bool.true_and, ifaceStays, acceptedByDump, iface_at_retags _ _ _ self left retags ref listed,
            iface_at_drops br dropped _ index drops ref member wants, drops.frame.cfg]

theorem owner_created_iff (env : Env) (wantedPorts : List PortRow) (doCreate : IfaceDoCreate) (br ready final : Bridge)
    (keep : IfaceRef → Bool) (index : BridgeIndex br) (thinned : Thinned br ready keep)
    (rows : Keyed.Unique PortRow.name wantedPorts)
    (later : PortFrame (configurePorts env.order (bridgeAddPorts env doCreate ready wantedPorts)) final)
    (ports : final.ports = (bridgeAddPorts env doCreate ready wantedPorts).ports) :
    PortsConfigured br final ↔
      CreatedFlagged br keep (createdPairs doCreate (namePresent br keep) (wantedPairs env wantedPorts)) := by
  obtain ⟨grown, adds⟩ := add_ports_adds env doCreate ready wantedPorts thinned.index
  have present : (fun name => (ready.ifaceLookup name).isSome) = namePresent br keep :=
    funext (thinned_iface_lookup br ready keep thinned)
  rw [present] at adds
  have calls : ∃ more, (bridgeAddPorts env doCreate ready wantedPorts).calls = br.calls ++ more ∧
      ∀ port, .bundleRegister port ∉ more := by
    rw [adds.calls]
    exact thinned.calls
  rw [ports_configured_iff env.order br _ final grown calls later ports]
  refine new_ports_flagged_iff br ready _ keep _ index thinned grown adds (fun pair here other there same => ?_)
  have row := fun pair member => wanted_pairs_row env wantedPorts pair (created_pairs_mem doCreate (namePresent br keep) _ pair member)
  exact Keyed.unique_mem_eq PortRow.name rows (row pair here) (row other there) same

section Phases

variable (input : Reconfiguration) (br : Bridge) (owner : VrfRow × Vrf)

theorem bridge_wanted_unique : Keyed.Unique PortRow.name (bridgeCollectWantedPorts br) := by
  unfold bridgeCollectWantedPorts
  cases br.cfg with
  | none => exact List.nodup_nil
  | some cfg =>
      have collected := Keyed.unique_collect PortRow.name cfg.ports
      dsimp only
      split
      · next missing =>
          refine Keyed.unique_append_singleton PortRow.name collected ?_
          exact (Keyed.lookup_none_iff PortRow.name).mp missing.2
      · exact collected

theorem bridge_wanted_congr (br other : Bridge) (name : other.name = br.name) (cfg : other.cfg = br.cfg) :
    bridgeCollectWantedPorts other = bridgeCollectWantedPorts br := by
  rw [bridgeCollectWantedPorts, bridgeCollectWantedPorts, cfg, name]

-- All phases of one bridge or one VRF; none if its ofproto cannot be created.
def reconfigureBridge (input : Reconfiguration) (br : Bridge) : Option Bridge :=
  (bridgeCreatePhase input (bridgeReconfigurePhase input (bridgeDeletePhase input br))).map
    (fun ready => bridgeConfigurePhase input (bridgeAddPhase input ready))

def reconfigureVrf (input : Reconfiguration) (owner : VrfRow × Vrf) : Option Vrf :=
  (vrfCreatePhase input (vrfReconfigurePhase input (vrfDeletePhase input owner))).map
    (fun ready => vrfConfigurePhase input (vrfAddPhase input ready))

theorem reconfigure_by_owner (switch : Switch) (input : Reconfiguration) :
    bridgeReconfigure switch input =
      ⟨(addDelBridges input.datapath.normalizeType input.cfg.bridges switch.bridges).filterMap (reconfigureBridge input),
        (addDelVrfs input.cfg.vrfs switch.vrfs).filterMap (reconfigureVrf input)⟩ := by
  unfold bridgeReconfigure
  simp only [List.filterMap_map, List.map_filterMap]
  congr 1
  · refine List.filterMap_congr (fun br _ => ?_)
    simp only [Function.comp_apply, Option.map_map]
    rfl
  · refine List.filterMap_congr (fun owner _ => ?_)
    simp only [Function.comp_apply, Option.map_map]
    rfl

def bridgeKeeps (input : Reconfiguration) (br : Bridge) : IfaceRef → Bool :=
  ownerKeeps ofprotoPortKept input.env (bridgeCollectWantedPorts br) (input.datapath.bridgeDump br.name) br

def bridgeCreated (input : Reconfiguration) (br : Bridge) : List (PortRow × InterfaceRow) :=
  ownerCreated ofprotoPortKept input.env (bridgeCollectWantedPorts br) (input.datapath.bridgeDump br.name)
    (input.datapath.bridgeIface br.name) br

def vrfKeeps (input : Reconfiguration) (owner : VrfRow × Vrf) : IfaceRef → Bool :=
  ownerKeeps vrfOfprotoPortKept input.env (vrfCollectWantedPorts owner.1) (input.datapath.vrfDump owner.2.up.name) owner.2.up

def vrfCreated (input : Reconfiguration) (owner : VrfRow × Vrf) : List (PortRow × InterfaceRow) :=
  ownerCreated vrfOfprotoPortKept input.env (vrfCollectWantedPorts owner.1) (input.datapath.vrfDump owner.2.up.name)
    (input.datapath.vrfIface owner.2.up.name) owner.2.up

theorem bridge_del_ports_frame (env : Env) (br : Bridge) (wantedPorts : List PortRow) (index : BridgeIndex br) :
    PortFrame br (bridgeDelPorts env br wantedPorts) :=
  (drops_updated env wantedPorts br _ _ index (del_ports_drops env.order wantedPorts br index)).1

theorem bridge_delete_phase_frame (index : BridgeIndex br) :
    PortFrame br (bridgeDeletePhase input br) :=
  bridge_del_ports_frame input.env br (bridgeCollectWantedPorts br) index

theorem bridge_deleted_thinned (index : BridgeIndex br) :
    Thinned br (bridgeReconfigurePhase input (bridgeDeletePhase input br)) (bridgeKeeps input br) := by
  have frame := bridge_delete_phase_frame input br index
  have thin := owner_thinned ofprotoPortKept input.env (bridgeCollectWantedPorts br) (input.datapath.bridgeDump br.name) br _
    index (del_ports_drops input.env.order (bridgeCollectWantedPorts br) br index)
  rw [bridgeReconfigurePhase, frame.ofproto, frame.name]
  exact thin

theorem bridge_ready (index : BridgeIndex br) (ready : Bridge)
    (created : bridgeCreatePhase input (bridgeReconfigurePhase input (bridgeDeletePhase input br)) = some ready) :
    Thinned br ready (bridgeKeeps input br) := by
  have thin := bridge_deleted_thinned input br index
  generalize bridgeReconfigurePhase input (bridgeDeletePhase input br) = deleted at thin created
  unfold bridgeCreatePhase at created
  split at created
  · obtain rfl := Option.some.inj created
    exact thin
  · split at created
    · obtain rfl := Option.some.inj created
      exact thinned_with_ofproto br deleted _ thin
    · cases created

theorem configure_ports_only (order : HashOrder) (br : Bridge) :
    (configurePorts order br).ports = br.ports ∧ (configurePorts order br).ifaceByName = br.ifaceByName ∧
      (configurePorts order br).nextAddr = br.nextAddr ∧ (configurePorts order br).name = br.name := by
  rw [configure_ports_eq]
  exact ⟨rfl, rfl, rfl, rfl⟩

theorem bridge_created_iff (index : BridgeIndex br) (after : Bridge) (done : reconfigureBridge input br = some after) :
    PortsConfigured br after ↔ CreatedFlagged br (bridgeKeeps input br) (bridgeCreated input br) := by
  obtain ⟨ready, created, rfl⟩ := Option.map_eq_some_iff.mp done
  have thin := bridge_ready input br index ready created
  have vlans := configure_vlans_only input.env.order (configurePorts input.env.order (bridgeAddPhase input ready))
  have added : bridgeAddPhase input ready = bridgeAddPorts input.env (input.datapath.bridgeIface br.name) ready
      (bridgeCollectWantedPorts br) := by
    rw [bridgeAddPhase, thin.name, bridge_wanted_congr br ready thin.name thin.cfg]
  refine owner_created_iff input.env (bridgeCollectWantedPorts br) (input.datapath.bridgeIface br.name) br ready _
    (bridgeKeeps input br) index thin (bridge_wanted_unique br) ?_ ?_
  · rw [← added]
    exact vlans.frame
  · rw [← added]
    exact vlans.ports.trans (configure_ports_only input.env.order _).1

theorem vrf_delete_phase_frame (index : BridgeIndex owner.2.up) :
    PortFrame owner.2.up (vrfDeletePhase input owner).2.up :=
  (drops_updated input.env (vrfCollectWantedPorts owner.1) owner.2.up _ _ index
    (vrf_del_ports_drops input.env (vrfCollectWantedPorts owner.1) owner.2 index)).1

theorem vrf_deleted_thinned (index : BridgeIndex owner.2.up) :
    Thinned owner.2.up (vrfReconfigurePhase input (vrfDeletePhase input owner)).2.up (vrfKeeps input owner) ∧
      (vrfReconfigurePhase input (vrfDeletePhase input owner)).1 = owner.1 := by
  have frame := vrf_delete_phase_frame input owner index
  have thin := owner_thinned vrfOfprotoPortKept input.env (vrfCollectWantedPorts owner.1)
    (input.datapath.vrfDump owner.2.up.name) owner.2.up _ index
    (vrf_del_ports_drops input.env (vrfCollectWantedPorts owner.1) owner.2 index)
  rw [vrfReconfigurePhase, frame.ofproto, frame.name]
  split
  · next up =>
      rw [if_pos up] at thin
      exact ⟨thin, rfl⟩
  · next down =>
      rw [if_neg down] at thin
      exact ⟨thin, rfl⟩

theorem vrf_ready (index : BridgeIndex owner.2.up) (ready : VrfRow × Vrf)
    (created : vrfCreatePhase input (vrfReconfigurePhase input (vrfDeletePhase input owner)) = some ready) :
    Thinned owner.2.up ready.2.up (vrfKeeps input owner) ∧ ready.1 = owner.1 := by
  have thin := vrf_deleted_thinned input owner index
  generalize vrfReconfigurePhase input (vrfDeletePhase input owner) = deleted at thin created
  unfold vrfCreatePhase at created
  split at created
  · obtain rfl := Option.some.inj created
    exact thin
  · split at created
    · obtain rfl := Option.some.inj created
      exact ⟨thinned_with_ofproto owner.2.up deleted.2.up _ thin.1, thin.2⟩
    · cases created

theorem vrf_configure_asks (vrf : Vrf) :
    Asks (configurePorts input.env.order vrf.up) (vrfConfigurePhase input vrf).up := by
  have neighbors := asks_if (vrf.up.ports.any portNeedsConfigure) _ _
    (add_neighbors_asks input.env (vrf.withUp (configurePorts input.env.order vrf.up)))
  exact asks_trans _ _ _ neighbors (asks_trans _ _ _ (reconfigure_neighbors_asks input.env _)
    (asks_trans _ _ _ (reconfigure_routes_asks input.env _) (reconfigure_nexthops_asks input.env _)))

theorem vrf_created_iff (index : BridgeIndex owner.2.up) (after : Vrf) (done : reconfigureVrf input owner = some after) :
    PortsConfigured owner.2.up after.up ↔ CreatedFlagged owner.2.up (vrfKeeps input owner) (vrfCreated input owner) := by
  obtain ⟨ready, created, rfl⟩ := Option.map_eq_some_iff.mp done
  obtain ⟨thin, row⟩ := vrf_ready input owner index ready created
  have asks := vrf_configure_asks input (vrfAddPhase input ready)
  have added : (vrfAddPhase input ready).up = bridgeAddPorts input.env (input.datapath.vrfIface owner.2.up.name) ready.2.up
      (vrfCollectWantedPorts owner.1) := by
    rw [← row, ← thin.name]
    rfl
  rw [added] at asks
  refine owner_created_iff input.env (vrfCollectWantedPorts owner.1) (input.datapath.vrfIface owner.2.up.name) owner.2.up
    ready.2.up _ (vrfKeeps input owner) index thin (Keyed.unique_collect PortRow.name owner.1.ports) (asks_frame _ _ asks) ?_
  exact (asks_ports _ _ asks).trans (configure_ports_only input.env.order _).1

def vrfName (vrf : Vrf) : String := vrf.up.name

structure SwitchIndex (switch : Switch) : Prop where
  bridgeNames : Keyed.Unique Bridge.name switch.bridges
  vrfNames : Keyed.Unique vrfName switch.vrfs
  bridges : ∀ br ∈ switch.bridges, BridgeIndex br
  vrfs : ∀ vrf ∈ switch.vrfs, BridgeIndex vrf.up

theorem keep_bridge_some (normalizeType : String → String) (newBr : List BridgeRow) (br kept : Bridge)
    (found : keepBridge normalizeType newBr br = some kept) : ∃ cfg, kept = { br with cfg := cfg } := by
  unfold keepBridge at found
  split at found
  · cases found
  · next cfg _ =>
      split at found
      · exact ⟨some cfg, (Option.some.inj found).symm⟩
      · cases found

theorem add_del_bridges_index (normalizeType : String → String) (rows : List BridgeRow) (bridges : List Bridge)
    (names : Keyed.Unique Bridge.name bridges) (index : ∀ br ∈ bridges, BridgeIndex br) :
    Keyed.Unique Bridge.name (addDelBridges normalizeType rows bridges) ∧
      ∀ br ∈ addDelBridges normalizeType rows bridges, BridgeIndex br := by
  refine ⟨Keyed.unique_foldl_create Bridge.name BridgeRow.name (bridgeCreate normalizeType) (fun _ => rfl) rows ?_,
    Keyed.forall_foldl_create Bridge.name BridgeRow.name (bridgeCreate normalizeType) BridgeIndex
      (fun _ => port_index_nil 0) rows ?_⟩
  · refine Keyed.unique_filterMap Bridge.name Bridge.name names _ (fun br _ kept found => ?_)
    obtain ⟨cfg, rfl⟩ := keep_bridge_some _ _ br kept found
    rfl
  · intro kept member
    obtain ⟨br, old, found⟩ := List.mem_filterMap.mp member
    obtain ⟨cfg, rfl⟩ := keep_bridge_some _ _ br kept found
    exact index br old

theorem add_del_vrfs_index (rows : List VrfRow) (vrfs : List Vrf) (names : Keyed.Unique vrfName vrfs)
    (index : ∀ vrf ∈ vrfs, BridgeIndex vrf.up) :
    Keyed.Unique vrfUpName (addDelVrfs rows vrfs) ∧ ∀ owner ∈ addDelVrfs rows vrfs, BridgeIndex owner.2.up := by
  refine ⟨Keyed.unique_foldl_create vrfUpName VrfRow.name (fun row => (row, vrfCreate row)) (fun _ => rfl) rows ?_,
    Keyed.forall_foldl_create vrfUpName VrfRow.name (fun row => (row, vrfCreate row)) (fun owner => BridgeIndex owner.2.up)
      (fun _ => port_index_nil 0) rows ?_⟩
  · refine Keyed.unique_filterMap vrfName vrfUpName names _ (fun vrf _ kept found => ?_)
    obtain ⟨cfg, _, rfl⟩ := Option.map_eq_some_iff.mp found
    rfl
  · intro kept member
    obtain ⟨vrf, old, found⟩ := List.mem_filterMap.mp member
    obtain ⟨cfg, _, rfl⟩ := Option.map_eq_some_iff.mp found
    exact index vrf old

theorem index_of_same_tables (br after : Bridge) (ports : after.ports = br.ports) (byName : after.ifaceByName = br.ifaceByName)
    (nextAddr : after.nextAddr = br.nextAddr) (index : BridgeIndex br) : BridgeIndex after := by
  rw [BridgeIndex, ports, byName, nextAddr]
  exact index

theorem reconfigure_bridge_index (index : BridgeIndex br) (after : Bridge)
    (done : reconfigureBridge input br = some after) : after.name = br.name ∧ BridgeIndex after := by
  obtain ⟨ready, created, rfl⟩ := Option.map_eq_some_iff.mp done
  have thin := bridge_ready input br index ready created
  obtain ⟨grown, adds⟩ := add_ports_adds input.env (input.datapath.bridgeIface ready.name) ready
    (bridgeCollectWantedPorts ready) thin.index
  obtain ⟨ports, byName, nextAddr, name⟩ := configure_ports_only input.env.order (bridgeAddPhase input ready)
  have vlans := configure_vlans_only input.env.order (configurePorts input.env.order (bridgeAddPhase input ready))
  refine ⟨vlans.frame.name.trans (name.trans (adds.name.trans thin.name)), ?_⟩
  exact index_of_same_tables _ _ (vlans.ports.trans ports) (vlans.byName.trans byName) (vlans.frame.nextAddr.trans nextAddr) grown

theorem reconfigure_vrf_index (index : BridgeIndex owner.2.up) (after : Vrf)
    (done : reconfigureVrf input owner = some after) : after.up.name = owner.2.up.name ∧ BridgeIndex after.up := by
  obtain ⟨ready, created, rfl⟩ := Option.map_eq_some_iff.mp done
  obtain ⟨thin, _⟩ := vrf_ready input owner index ready created
  obtain ⟨grown, adds⟩ := add_ports_adds input.env (input.datapath.vrfIface ready.2.up.name) ready.2.up
    (vrfCollectWantedPorts ready.1) thin.index
  obtain ⟨ports, byName, nextAddr, name⟩ := configure_ports_only input.env.order (vrfAddPhase input ready).up
  have configured := index_of_same_tables _ _ ports byName nextAddr grown
  have asks := vrf_configure_asks input (vrfAddPhase input ready)
  exact ⟨(asks_frame _ _ asks).name.trans (name.trans (adds.name.trans thin.name)),
    drops_index _ _ _ configured (asks_drops _ _ configured asks)⟩

theorem bridge_reconfigure_index (switch : Switch) (input : Reconfiguration) (valid : SwitchIndex switch) :
    SwitchIndex (bridgeReconfigure switch input) := by
  obtain ⟨bridgeNames, bridges⟩ := add_del_bridges_index input.datapath.normalizeType input.cfg.bridges switch.bridges
    valid.bridgeNames valid.bridges
  obtain ⟨vrfNames, vrfs⟩ := add_del_vrfs_index input.cfg.vrfs switch.vrfs valid.vrfNames valid.vrfs
  rw [reconfigure_by_owner]
  -- A phase keeps the name of its owner, so distinct owners stay distinct.
  have bridgeSome : ∀ br ∈ addDelBridges input.datapath.normalizeType input.cfg.bridges switch.bridges,
      ∀ after, reconfigureBridge input br = some after → after.name = br.name ∧ BridgeIndex after :=
    fun br member after done => reconfigure_bridge_index input br (bridges br member) after done
  have vrfSome : ∀ owner ∈ addDelVrfs input.cfg.vrfs switch.vrfs,
      ∀ after, reconfigureVrf input owner = some after → after.up.name = owner.2.up.name ∧ BridgeIndex after.up :=
    fun owner member after done => reconfigure_vrf_index input owner (vrfs owner member) after done
  refine ⟨?_, ?_, ?_, ?_⟩
  · exact Keyed.unique_filterMap Bridge.name Bridge.name bridgeNames _ (fun br member after done =>
      (bridgeSome br member after done).1)
  · exact Keyed.unique_filterMap vrfUpName vrfName vrfNames _ (fun owner member after done =>
      (vrfSome owner member after done).1)
  · intro after member
    obtain ⟨br, present, done⟩ := List.mem_filterMap.mp member
    exact (bridgeSome br present after done).2
  · intro after member
    obtain ⟨owner, present, done⟩ := List.mem_filterMap.mp member
    exact (vrfSome owner present after done).2

-- add_del_bridges and add_del_vrfs create no port: a port of the result that
-- its owner did not have right after them was created in the call.
def CreatedPortsConfigured (switch : Switch) (input : Reconfiguration) : Prop :=
  (∀ br ∈ addDelBridges input.datapath.normalizeType input.cfg.bridges switch.bridges,
    ∀ after ∈ (bridgeReconfigure switch input).bridges, after.name = br.name → PortsConfigured br after) ∧
  ∀ owner ∈ addDelVrfs input.cfg.vrfs switch.vrfs,
    ∀ after ∈ (bridgeReconfigure switch input).vrfs, after.up.name = owner.2.up.name → PortsConfigured owner.2.up after.up

def CreatedRowsFlagged (switch : Switch) (input : Reconfiguration) : Prop :=
  (∀ br ∈ addDelBridges input.datapath.normalizeType input.cfg.bridges switch.bridges,
    br.ofproto = true ∨ input.datapath.createBridge br.name = true →
      CreatedFlagged br (bridgeKeeps input br) (bridgeCreated input br)) ∧
  ∀ owner ∈ addDelVrfs input.cfg.vrfs switch.vrfs,
    owner.2.up.ofproto = true ∨ input.datapath.createVrf owner.2.up.name = true →
      CreatedFlagged owner.2.up (vrfKeeps input owner) (vrfCreated input owner)

instance (switch : Switch) (input : Reconfiguration) : Decidable (CreatedPortsConfigured switch input) := by
  unfold CreatedPortsConfigured
  infer_instance

instance (switch : Switch) (input : Reconfiguration) : Decidable (CreatedRowsFlagged switch input) := by
  unfold CreatedRowsFlagged
  infer_instance

theorem bridge_deleted_ofproto (index : BridgeIndex br) :
    (bridgeReconfigurePhase input (bridgeDeletePhase input br)).ofproto = br.ofproto := by
  obtain ⟨frame, updated⟩ := drops_updated input.env (bridgeCollectWantedPorts br) br _ _ index
    (del_ports_drops input.env.order (bridgeCollectWantedPorts br) br index)
  unfold bridgeReconfigurePhase
  split
  · exact (delete_or_reconfigure_drops _ _ _ _ updated).frame.ofproto.trans frame.ofproto
  · exact frame.ofproto

theorem reconfigure_bridge_isSome (index : BridgeIndex br) :
    (reconfigureBridge input br).isSome ↔ br.ofproto = true ∨ input.datapath.createBridge br.name = true := by
  have up := bridge_deleted_ofproto input br index
  have name := (bridge_deleted_thinned input br index).name
  rw [reconfigureBridge, Option.isSome_map, bridgeCreatePhase, up, name]
  cases br.ofproto <;> cases input.datapath.createBridge br.name <;> simp

theorem vrf_deleted_ofproto (index : BridgeIndex owner.2.up) :
    (vrfReconfigurePhase input (vrfDeletePhase input owner)).2.up.ofproto = owner.2.up.ofproto := by
  obtain ⟨frame, updated⟩ := drops_updated input.env (vrfCollectWantedPorts owner.1) owner.2.up _ _ index
    (vrf_del_ports_drops input.env (vrfCollectWantedPorts owner.1) owner.2 index)
  unfold vrfReconfigurePhase
  split
  · exact (delete_or_reconfigure_drops _ _ _ _ updated).frame.ofproto.trans frame.ofproto
  · exact frame.ofproto

theorem reconfigure_vrf_isSome (index : BridgeIndex owner.2.up) :
    (reconfigureVrf input owner).isSome ↔
      owner.2.up.ofproto = true ∨ input.datapath.createVrf owner.2.up.name = true := by
  have up := vrf_deleted_ofproto input owner index
  have name := (vrf_deleted_thinned input owner index).1.name
  rw [reconfigureVrf, Option.isSome_map, vrfCreatePhase, up, name]
  cases owner.2.up.ofproto <;> cases input.datapath.createVrf owner.2.up.name <;> simp

end Phases

theorem created_ports_configured_iff (switch : Switch) (input : Reconfiguration) (valid : SwitchIndex switch) :
    CreatedPortsConfigured switch input ↔ CreatedRowsFlagged switch input := by
  obtain ⟨bridgeNames, bridges⟩ := add_del_bridges_index input.datapath.normalizeType input.cfg.bridges switch.bridges
    valid.bridgeNames valid.bridges
  obtain ⟨vrfNames, vrfs⟩ := add_del_vrfs_index input.cfg.vrfs switch.vrfs valid.vrfNames valid.vrfs
  unfold CreatedPortsConfigured CreatedRowsFlagged
  rw [reconfigure_by_owner]
  refine and_congr (forall_congr' (fun br => forall_congr' (fun member => ?_)))
    (forall_congr' (fun owner => forall_congr' (fun member => ?_)))
  · rw [← reconfigure_bridge_isSome input br (bridges br member)]
    exact Keyed.forall_filterMap_iff Bridge.name Bridge.name (reconfigureBridge input) bridgeNames
      (fun other present after done => (reconfigure_bridge_index input other (bridges other present) after done).1) _ _
      (fun other present after done => bridge_created_iff input other (bridges other present) after done) member
  · rw [← reconfigure_vrf_isSome input owner (vrfs owner member)]
    exact Keyed.forall_filterMap_iff vrfUpName vrfName (reconfigureVrf input) vrfNames
      (fun other present after done => (reconfigure_vrf_index input other (vrfs other present) after done).1) _ _
      (fun other present after done => vrf_created_iff input other (vrfs other present) after done) member

theorem empty_switch_index : SwitchIndex ⟨[], []⟩ :=
  ⟨List.nodup_nil, List.nodup_nil, (fun _ member => nomatch member), (fun _ member => nomatch member)⟩

def plainDatapath (bridgePorts vrfPorts : List String) : Datapath where
  normalizeType type := type
  bridgeDump _ := bridgePorts.map (fun name => ⟨name, "system", 1, false⟩)
  vrfDump _ := vrfPorts.map (fun name => ⟨name, "system", 1, false⟩)
  createBridge _ := true
  createVrf _ := true
  bridgeIface _ _ _ := some (some 1)
  vrfIface _ _ _ := some (some 1)

def plainReconfiguration (present : List String) (bridgePorts vrfPorts : List PortRow) : Reconfiguration where
  env := neighborEnv ⟨[], false, false, false⟩
  datapath := plainDatapath present []
  cfg := ⟨[⟨"bridge_normal", "system", bridgePorts, [], []⟩], [⟨"vrf_default", vrfPorts⟩]⟩

def flaggedPort (flag : Bool) : PortRow := ⟨1, "1", [⟨2, "1", "", flag⟩], flag⟩

def bridgeWithPort : Switch := bridgeReconfigure ⟨[], []⟩ (plainReconfiguration [] [flaggedPort true] [])

theorem changed_port_moves_configured :
    CreatedPortsConfigured bridgeWithPort (plainReconfiguration ["1"] [] [flaggedPort true]) :=
  (created_ports_configured_iff bridgeWithPort (plainReconfiguration ["1"] [] [flaggedPort true])
    (bridge_reconfigure_index _ _ empty_switch_index)).mpr (by decide)

-- The port moves to the VRF and neither its row nor the interface row changed
-- since the last run.
theorem unchanged_port_moves_unconfigured :
    ¬ CreatedPortsConfigured bridgeWithPort (plainReconfiguration ["1"] [] [flaggedPort false]) := by
  decide

end OpsSwitchd
