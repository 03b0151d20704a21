import OpsSwitchd.QuietRows

set_option autoImplicit false

namespace OpsSwitchd

section Datapath

variable {platform : Platform} {wantedPorts : List PortRow} {br : Bridge}

structure DumpAgrees (kept : OfprotoPort → Iface → Bool) (dump : List OfprotoPort) (br : Bridge) : Prop where
  known : ∀ entry ∈ dump, ∃ port ∈ br.ports, ∃ iface ∈ port.ifaces, iface.self.name = entry.name ∧ kept entry iface = true
  all : ∀ port ∈ br.ports, ∀ iface ∈ port.ifaces, iface.self.name ∈ dump.map OfprotoPort.name

theorem reconfigure_ports_idle (kept : OfprotoPort → Iface → Bool) (order : HashOrder) (dump : List OfprotoPort)
    (index : BridgeIndex br) (agrees : DumpAgrees kept dump br) : deleteOrReconfigurePorts kept order br dump = br := by
  have checked : dump.foldl (checkOfprotoPort kept) (br, []) = (br, []) := by
    refine Keyed.foldl_idle _ (fun entry member => ?_)
    obtain ⟨port, present, iface, inside, named, accepted⟩ := agrees.known entry member
    have found : br.ifaceLookup entry.name = some iface.self :=
      (iface_lookup_iff br index entry.name iface.self).mpr ⟨mem_iface_refs.mpr ⟨port, present, iface, inside, rfl⟩, named⟩
    unfold checkOfprotoPort
    dsimp only
    rw [found]
    dsimp only
    rw [iface_at_mem br index port present iface inside]
    exact if_pos accepted
  unfold deleteOrReconfigurePorts
  rw [checked]
  dsimp only [List.foldl_nil]
  refine Keyed.foldl_idle _ (fun port walked => ?_)
  have present : port ∈ br.ports := (order.mem_walk _ _).mp walked
  have ifaces := port_ifaces_mem br index port present
  have kept : (portIfaces br port.self).foldl (fun br iface =>
      if iface.self.name ∈ dump.map OfprotoPort.name then br else ifaceDestroy' br iface.self) br = br := by
    refine Keyed.foldl_idle _ (fun iface inside => if_pos ?_)
    rw [ifaces] at inside
    exact agrees.all port present iface inside
  unfold dropVanishedIfaces
  dsimp only
  rw [kept, ifaces]
  exact if_neg (index.filled port present)

theorem add_ports_idle (env : Env) (doCreate : IfaceDoCreate) (current : UpToDate platform wantedPorts br) :
    bridgeAddPorts env doCreate br wantedPorts = br := by
  refine Keyed.foldl_idle _ (fun row walked => Keyed.foldl_idle _ (fun iface inside => if_pos ?_))
  exact current.present row ((env.order.mem_walk _ _).mp walked) iface inside

theorem configure_ports_idle (order : HashOrder) (quiet : ∀ port ∈ br.ports, portNeedsConfigure port = false) :
    configurePorts order br = br := by
  refine Keyed.foldl_idle _ (fun port walked => if_neg ?_)
  rw [quiet port ((order.mem_walk _ _).mp walked)]
  exact Bool.false_ne_true

theorem quiet_needs_nothing (port : Port) : portNeedsConfigure port.quiet = false := by
  unfold portNeedsConfigure Port.quiet
  rw [Bool.or_eq_false_iff]
  constructor
  · cases port.cfg <;> rfl
  · rw [List.any_eq_false]
    intro iface member
    obtain ⟨old, _, rfl⟩ := List.mem_map.mp member
    exact Bool.false_ne_true

theorem quiet_index (index : BridgeIndex br) : BridgeIndex { br with ports := br.ports.map Port.quiet } := by
  refine retags_index { br with ports := br.ports.map (fun port => { port with cfg := port.cfg.map PortRow.quiet }) } _ Iface.quiet
    (fun _ => rfl) (quiet_rows_index index) ⟨port_frame_same _ _ rfl rfl rfl rfl rfl, ?_, rfl⟩
  rw [List.map_map]
  rfl

theorem quiet_up_to_date (current : UpToDate platform wantedPorts br) :
    UpToDate platform (wantedPorts.map PortRow.quiet) { br with ports := br.ports.map Port.quiet } where
  index := quiet_index current.index
  ofproto := current.ofproto
  rows := by
    rw [Keyed.Unique, List.map_map]
    exact current.rows
  distinct := by
    rw [DistinctIfaces, Keyed.Unique, List.flatMap_map, List.map_flatMap]
    have same : ∀ row : PortRow, row.quiet.interfaces.map InterfaceRow.name = row.interfaces.map InterfaceRow.name := by
      intro row
      rw [PortRow.quiet, List.map_map]
      rfl
    simp only [same]
    rw [← List.map_flatMap]
    exact current.distinct
  ports := fun port member => by
    obtain ⟨old, there, rfl⟩ := List.mem_map.mp member
    obtain ⟨row, listed, stored, named, rows⟩ := current.ports old there
    refine ⟨row.quiet, List.mem_map_of_mem listed, congrArg (Option.map PortRow.quiet) stored, named, fun iface inside => ?_⟩
    obtain ⟨source, deeper, rfl⟩ := List.mem_map.mp inside
    exact List.mem_map_of_mem (rows source deeper)
  ifaces := fun port member iface inside => by
    obtain ⟨old, there, rfl⟩ := List.mem_map.mp member
    obtain ⟨source, deeper, rfl⟩ := List.mem_map.mp inside
    exact current.ifaces old there source deeper
  present := fun row member iface inside => by
    obtain ⟨old, listed, rfl⟩ := List.mem_map.mp member
    obtain ⟨source, deeper, rfl⟩ := List.mem_map.mp inside
    exact current.present old listed source deeper

theorem quiet_dump (kept : OfprotoPort → Iface → Bool) (blind : ∀ entry iface, kept entry iface.quiet = kept entry iface)
    (dump : List OfprotoPort) (agrees : DumpAgrees kept dump br) : DumpAgrees kept dump { br with ports := br.ports.map Port.quiet } where
  known := fun entry member => by
    obtain ⟨port, present, iface, inside, named, accepted⟩ := agrees.known entry member
    exact ⟨port.quiet, List.mem_map_of_mem present, iface.quiet, List.mem_map_of_mem inside, named, (blind entry iface).trans accepted⟩
  all := fun port member iface inside => by
    obtain ⟨old, there, rfl⟩ := List.mem_map.mp member
    obtain ⟨source, deeper, rfl⟩ := List.mem_map.mp inside
    exact agrees.all old there source deeper

end Datapath

section Vlans

variable {br : Bridge}

structure VlansUpToDate (br : Bridge) : Prop where
  names : Keyed.Unique Vlan.name br.vlans
  rows : ∀ vlan ∈ br.vlans, Keyed.lookup VlanRow.name vlan.name (cfgVlans br) = some vlan.cfg
  present : ∀ row ∈ cfgVlans br, (vlanLookupByName br row.name).isSome

def vlansGiven (visited : List Vlan) (vlan : Vlan) : Vlan := if vlan.name ∈ visited.map Vlan.name then vlan.quiet else vlan

theorem quiet_cfg_vlans (br : Bridge) : cfgVlans { br with cfg := br.cfg.map BridgeRow.quiet } = (cfgVlans br).map VlanRow.quiet := by
  unfold cfgVlans
  cases br.cfg <;> rfl

theorem delete_vlan_quiet (current : VlansUpToDate br) (base : Bridge) (visited : List Vlan) (vlan : Vlan) (member : vlan ∈ br.vlans) :
    deleteOldVlan (Keyed.collect VlanRow.name ((cfgVlans br).map VlanRow.quiet)) { base with vlans := br.vlans.map (vlansGiven visited) } vlan =
      { base with vlans := br.vlans.map (vlansGiven (visited ++ [vlan])) } := by
  have found : Keyed.lookup VlanRow.name vlan.name (Keyed.collect VlanRow.name ((cfgVlans br).map VlanRow.quiet)) = some vlan.cfg.quiet := by
    rw [Keyed.lookup_collect, Keyed.lookup_map VlanRow.name vlan.name VlanRow.quiet (fun _ => rfl), current.rows vlan member]
    rfl
  unfold deleteOldVlan
  rw [found]
  refine congrArg (fun vlans => { base with vlans := vlans }) ?_
  unfold Keyed.replace
  rw [List.map_map]
  refine List.map_congr_left (fun other there => ?_)
  have named : (vlansGiven visited other).name = other.name := by
    unfold vlansGiven
    split <;> rfl
  simp only [Function.comp_apply, named]
  by_cases here : other.name = vlan.name
  · obtain rfl := Keyed.unique_mem_eq Vlan.name current.names there member here
    rw [if_pos rfl, vlansGiven, if_pos (List.mem_map_of_mem (by simp))]
    rfl
  · have kept : other.name ∈ (visited ++ [vlan]).map Vlan.name ↔ other.name ∈ visited.map Vlan.name := by
      rw [List.map_append, List.mem_append, List.map_singleton, List.mem_singleton, or_iff_left here]
    rw [if_neg here, vlansGiven, vlansGiven]
    simp only [kept]

theorem delete_vlans_quiet (current : VlansUpToDate br) (order : HashOrder) (base : Bridge) (vlans : base.vlans = br.vlans) :
    (order.walk base.vlans).foldl (deleteOldVlan (Keyed.collect VlanRow.name ((cfgVlans br).map VlanRow.quiet))) base =
      { base with vlans := br.vlans.map Vlan.quiet } := by
  have none : br.vlans.map (vlansGiven []) = br.vlans :=
    (List.map_congr_left (fun _ _ => if_neg List.not_mem_nil)).trans (List.map_id _)
  have started : base = { base with vlans := br.vlans.map (vlansGiven []) } := by rw [none, ← vlans]
  have loop := Keyed.foldl_invariant (deleteOldVlan (Keyed.collect VlanRow.name ((cfgVlans br).map VlanRow.quiet))) (order.walk base.vlans)
    (fun visited next => next = { base with vlans := br.vlans.map (vlansGiven visited) })
    (fun visited vlan rest next split reached => by
      rw [reached]
      exact delete_vlan_quiet current base visited vlan (vlans ▸ (order.mem_walk _ _).mp (by rw [split]; simp)))
    started
  rw [loop]
  refine congrArg (fun vlans => { base with vlans := vlans }) (List.map_congr_left (fun vlan member => ?_))
  exact if_pos (List.mem_map_of_mem ((order.mem_walk _ _).mpr (vlans ▸ member)))

theorem configure_vlans_quiet (order : HashOrder) (base : Bridge) (current : VlansUpToDate br) (vlans : base.vlans = br.vlans)
    (cfg : cfgVlans base = (cfgVlans br).map VlanRow.quiet) :
    bridgeConfigureVlans order base = { base with vlans := br.vlans.map Vlan.quiet } := by
  unfold bridgeConfigureVlans
  dsimp only
  rw [cfg, delete_vlans_quiet current order base vlans]
  have added : (order.walk (Keyed.collect VlanRow.name ((cfgVlans br).map VlanRow.quiet))).foldl addNewVlan
      { base with vlans := br.vlans.map Vlan.quiet } = { base with vlans := br.vlans.map Vlan.quiet } := by
    refine Keyed.foldl_idle _ (fun row walked => if_pos ?_)
    obtain ⟨old, listed, rfl⟩ := List.mem_map.mp (Keyed.mem_of_mem_collect VlanRow.name ((order.mem_walk _ _).mp walked))
    have known := current.present old listed
    unfold vlanLookupByName at known ⊢
    rw [Keyed.lookup_map Vlan.name old.quiet.name Vlan.quiet (fun _ => rfl), Option.isSome_map]
    exact known
  rw [added]
  refine Keyed.foldl_idle _ (fun vlan walked => if_neg ?_)
  obtain ⟨old, _, rfl⟩ := List.mem_map.mp ((order.mem_walk _ _).mp walked)
  exact Bool.false_ne_true

end Vlans

end OpsSwitchd
