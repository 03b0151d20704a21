import OpsSwitchd.QuietRun
import OpsSwitchd.VlanRun

set_option autoImplicit false

namespace OpsSwitchd

section Phases

def IfacesCurrent (platform : Platform) (wantedPorts : List PortRow) (cfg : Option BridgeRow) (ports : List Port) : Prop :=
  ∀ port ∈ ports, ∀ iface ∈ port.ifaces, iface.cfg ∈ wantedPorts.flatMap PortRow.interfaces ∧
    iface.cfg.name = iface.self.name ∧ iface.type = ifaceGetType platform iface.cfg cfg

-- What every phase of a run leaves: the ports and interfaces there are, are
-- wanted and have their rows. Some may be missing. Which of two rows of one
-- name an interface has, depends on the order of the walk.
structure PortsCurrent (platform : Platform) (wantedPorts : List PortRow) (br : Bridge) : Prop where
  index : BridgeIndex br
  numbered : IfacesNumbered br
  wanted : PortsWanted wantedPorts br
  ifaces : DistinctIfaces wantedPorts → IfacesCurrent platform wantedPorts br.cfg br.ports

variable {platform : Platform} {wantedPorts : List PortRow} {br : Bridge}

theorem mem_wanted_ifaces (env : Env) (wantedPorts : List PortRow) (row : InterfaceRow) :
    row ∈ wantedIfaces env wantedPorts ↔ row ∈ wantedPorts.flatMap PortRow.interfaces := by
  unfold wantedIfaces
  simp only [List.mem_flatMap, env.order.mem_walk]

theorem current_same_tables (after : Bridge) (current : PortsCurrent platform wantedPorts br) (ports : after.ports = br.ports)
    (ifaces : after.ifaces = br.ifaces) (byName : after.ifaceByName = br.ifaceByName) (nextAddr : after.nextAddr = br.nextAddr)
    (cfg : after.cfg = br.cfg) : PortsCurrent platform wantedPorts after where
  index := index_of_same_tables br after ports byName nextAddr current.index
  numbered := (lessens_same_ports br after ports ifaces byName current.numbered).numbered
  wanted := lessens_wanted wantedPorts br after (lessens_same_ports br after ports ifaces byName current.numbered) current.wanted
  ifaces := by
    rw [ports, cfg]
    exact current.ifaces

theorem deleted_current (env : Env) (index : BridgeIndex br) (numbered : IfacesNumbered br) :
    PortsCurrent env.platform wantedPorts (bridgeDelPorts env br wantedPorts) := by
  obtain ⟨valid, kept, wanted⟩ := bridge_del_ports_wanted env br wantedPorts index numbered
  refine ⟨valid, kept, wanted, ?_⟩
  have left := drops_index _ _ _ index (del_ports_drops env.order wantedPorts br index)
  have retags := update_wanted_retags env _ wantedPorts left
  intro distinct later member iface inside
  obtain ⟨row, listed, _, _, lists⟩ := wanted later member
  obtain ⟨source, deeper, named⟩ := List.mem_map.mp (lists iface inside)
  rw [bridgeDelPorts, retags.ports] at member
  obtain ⟨port, _, rfl⟩ := List.mem_map.mp member
  obtain ⟨old, _, rfl⟩ := List.mem_map.mp inside
  have there : source ∈ wantedPorts.flatMap PortRow.interfaces := List.mem_flatMap.mpr ⟨row, listed, deeper⟩
  rw [retag_rows_self] at named
  rw [bridgeDelPorts, retags.frame.cfg]
  rw [retag_rows_to _ _ old source ((mem_wanted_ifaces env wantedPorts source).mpr there) named (fun other also same =>
    Keyed.unique_mem_eq InterfaceRow.name distinct ((mem_wanted_ifaces env wantedPorts other).mp also) there (same.trans named.symm))]
  exact ⟨there, named, rfl⟩

theorem reconfigured_current (kept : OfprotoPort → Iface → Bool) (order : HashOrder) (dump : List OfprotoPort)
    (current : PortsCurrent platform wantedPorts br) :
    PortsCurrent platform wantedPorts (deleteOrReconfigurePorts kept order br dump) := by
  have drops := delete_or_reconfigure_drops kept order br dump current.index
  have less := delete_or_reconfigure_lessens kept order br dump current.numbered
  refine ⟨drops_index br _ _ current.index drops, less.numbered, lessens_wanted wantedPorts br _ less current.wanted, ?_⟩
  intro distinct port member iface inside
  have bare : port.bare ∈ (keepPorts (ifaceStays kept br dump) br.ports).map Port.bare := by
    rw [← drops.ports]
    exact List.mem_map_of_mem member
  obtain ⟨later, stays, same⟩ := List.mem_map.mp bare
  obtain ⟨old, present, _, rfl⟩ := mem_keep_ports.mp stays
  have there : iface ∈ (old.keeping (ifaceStays kept br dump)).ifaces := by
    have ifaces : (old.keeping (ifaceStays kept br dump)).bare.ifaces = port.bare.ifaces := congrArg Port.ifaces same
    exact ifaces.symm ▸ inside
  rw [drops.frame.cfg]
  exact current.ifaces distinct old present iface (List.mem_filter.mp there).1

theorem iface_create_rows (env : Env) (doCreate : IfaceDoCreate) (br : Bridge) (ifaceCfg : InterfaceRow) (portCfg : PortRow)
    (port : Port) (member : port ∈ (ifaceCreate env doCreate br ifaceCfg portCfg).ports) (iface : Iface) (inside : iface ∈ port.ifaces) :
    (∃ old ∈ br.ports, iface ∈ old.ifaces) ∨
      (iface.self.name = ifaceCfg.name ∧ iface.cfg = ifaceCfg ∧ iface.type = ifaceGetType env.platform ifaceCfg br.cfg) := by
  unfold ifaceCreate at member
  cases answer : doCreate portCfg ifaceCfg with
  | none =>
      rw [answer] at member
      exact .inl ⟨port, member, inside⟩
  | some ofpPort =>
      rw [answer] at member
      cases found : br.portLookup portCfg.name with
      | some known =>
          rw [found] at member
          rcases (Keyed.mem_replace portAddr).mp member with ⟨old, _⟩ | ⟨old, stored, _, rfl⟩
          · exact .inl ⟨port, old, inside⟩
          · rcases List.mem_append.mp inside with before | last
            · exact .inl ⟨old, stored, before⟩
            · rw [List.mem_singleton.mp last]
              exact .inr ⟨rfl, rfl, rfl⟩
      | none =>
          rw [found] at member
          rcases (Keyed.mem_replace portAddr).mp member with ⟨either, different⟩ | ⟨either, stored, same, rfl⟩
          · rcases List.mem_cons.mp either with rfl | old
            · cases inside
            · exact .inl ⟨port, old, inside⟩
          · rcases List.mem_append.mp inside with before | last
            · rcases List.mem_cons.mp stored with rfl | old
              · cases before
              · exact .inl ⟨either, old, before⟩
            · rw [List.mem_singleton.mp last]
              exact .inr ⟨rfl, rfl, rfl⟩

theorem add_iface_rows (env : Env) (doCreate : IfaceDoCreate) (port : PortRow) (listed : port ∈ wantedPorts) (row : InterfaceRow)
    (inside : row ∈ port.interfaces) (current : IfacesCurrent env.platform wantedPorts br.cfg br.ports) :
    IfacesCurrent env.platform wantedPorts br.cfg (addWantedIface env doCreate port br row).ports := by
  intro later member iface present
  unfold addWantedIface at member
  split at member
  · exact current later member iface present
  · rcases iface_create_rows env doCreate br row port later member iface present with ⟨old, there, deeper⟩ | ⟨name, cfg, type⟩
    · exact current old there iface deeper
    · rw [cfg, name]
      exact ⟨List.mem_flatMap.mpr ⟨port, listed, inside⟩, rfl, type⟩

theorem added_current (env : Env) (ofpPorts : PortRow → InterfaceRow → Option Nat) (rows : Keyed.Unique PortRow.name wantedPorts)
    (current : PortsCurrent env.platform wantedPorts br) :
    PortsCurrent env.platform wantedPorts (bridgeAddPorts env (numbering ofpPorts) br wantedPorts) := by
  refine Keyed.foldl_keeps _ (PortsCurrent env.platform wantedPorts) (fun next port walked here => ?_) current
  have listed : port ∈ wantedPorts := (env.order.mem_walk _ _).mp walked
  refine Keyed.foldl_keeps _ (PortsCurrent env.platform wantedPorts) (fun later row inside inv => ?_) here
  obtain ⟨index, adds⟩ := add_wanted_iface_adds env (numbering ofpPorts) later port row inv.index
  obtain ⟨numbered, wanted⟩ := add_wanted_iface_wanted env ofpPorts wantedPorts rows later port listed row inside inv.index
    inv.numbered inv.wanted
  refine ⟨index, numbered, wanted, fun distinct => ?_⟩
  rw [adds.cfg]
  exact add_iface_rows env (numbering ofpPorts) port listed row inside (inv.ifaces distinct)

theorem created_pairs_cover (doCreate : IfaceDoCreate) (answers : ∀ port iface, (doCreate port iface).isSome)
    (pairs : List (PortRow × InterfaceRow)) (present : String → Bool) (pair : PortRow × InterfaceRow) (member : pair ∈ pairs) :
    (present pair.2.name || (createdPairs doCreate present pairs).any (fun made => made.2.name = pair.2.name)) = true := by
  induction pairs generalizing present with
  | nil => cases member
  | cons first rest ih =>
      obtain ⟨port, iface⟩ := first
      have accepted : (doCreate port iface).isNone = false := by simpa using answers port iface
      rw [createdPairs, accepted, Bool.or_false]
      rcases List.mem_cons.mp member with rfl | later
      · cases known : present iface.name with
        | true => rfl
        | false => simp
      · by_cases known : present iface.name = true
        · rw [if_pos known]
          exact ih present later
        · rw [if_neg known, List.any_cons, ← Bool.or_assoc]
          exact ih (fun name => present name || iface.name = name) later

theorem added_present (env : Env) (doCreate : IfaceDoCreate) (answers : ∀ port iface, (doCreate port iface).isSome)
    (index : BridgeIndex br) (row : PortRow) (listed : row ∈ wantedPorts) (iface : InterfaceRow) (inside : iface ∈ row.interfaces) :
    ((bridgeAddPorts env doCreate br wantedPorts).ifaceLookup iface.name).isSome := by
  have adds := (add_ports_adds env doCreate br wantedPorts index).2
  have member : (row, iface) ∈ wantedPairs env wantedPorts :=
    List.mem_flatMap.mpr ⟨row, (env.order.mem_walk _ _).mpr listed, List.mem_map_of_mem inside⟩
  rw [adds.ifaces]
  exact created_pairs_cover doCreate answers (wantedPairs env wantedPorts) (fun name => (br.ifaceLookup name).isSome) (row, iface)
    member

theorem current_up_to_date (current : PortsCurrent platform wantedPorts br) (ofproto : br.ofproto = true)
    (rows : Keyed.Unique PortRow.name wantedPorts) (distinct : DistinctIfaces wantedPorts)
    (real : ∀ iface ∈ wantedPorts.flatMap PortRow.interfaces, iface.type ≠ "null")
    (present : ∀ row ∈ wantedPorts, ∀ iface ∈ row.interfaces, (br.ifaceLookup iface.name).isSome) :
    UpToDate platform wantedPorts br where
  index := current.index
  ofproto := ofproto
  rows := rows
  distinct := distinct
  ports := fun port member => by
    obtain ⟨row, listed, stored, named, lists⟩ := current.wanted port member
    refine ⟨row, listed, stored, named, fun iface inside => ?_⟩
    obtain ⟨source, deeper, same⟩ := List.mem_map.mp (lists iface inside)
    obtain ⟨wanted, owned, _⟩ := current.ifaces distinct port member iface inside
    rw [Keyed.unique_mem_eq InterfaceRow.name distinct wanted (List.mem_flatMap.mpr ⟨row, listed, deeper⟩) (owned.trans same.symm)]
    exact deeper
  ifaces := fun port member iface inside => by
    obtain ⟨wanted, owned, type⟩ := current.ifaces distinct port member iface inside
    exact ⟨owned, real iface.cfg wanted, type⟩
  present := present

end Phases

section Vlans

theorem configured_vlans_up_to_date (order : HashOrder) (br : Bridge) (names : Keyed.Unique Vlan.name br.vlans) :
    VlansUpToDate (bridgeConfigureVlans order br) := by
  have unique : Keyed.Unique Vlan.name (bridgeConfigureVlans order br).vlans := checked_bridge_names order br (cfgVlans br) names
  have lookup : ∀ name, vlanLookupByName (bridgeConfigureVlans order br) name =
      (Keyed.lookup VlanRow.name name (cfgVlans br)).map (fun row => checkedVlan (preparedVlan br row)) :=
    checked_bridge_lookup order br (cfgVlans br) names
  have rows : cfgVlans (bridgeConfigureVlans order br) = cfgVlans br := by
    rw [cfgVlans, cfgVlans, (configure_vlans_only order br).frame.cfg]
  refine ⟨unique, fun vlan member => ?_, fun row member => ?_⟩
  · have found := lookup vlan.name
    rw [vlanLookupByName, Keyed.lookup_of_mem Vlan.name unique member] at found
    obtain ⟨row, listed, made⟩ := Option.map_eq_some_iff.mp found.symm
    have cfg : vlan.cfg = row := by
      rw [← made, checkedVlan]
      split <;> exact prepared_vlan_cfg br row
    rw [rows, listed, cfg]
  · rw [rows] at member
    obtain ⟨first, listed⟩ := Option.isSome_iff_exists.mp
      ((Keyed.lookup_some_iff_exists VlanRow.name).mpr ⟨row, member, rfl⟩)
    rw [lookup, listed]
    rfl

end Vlans

end OpsSwitchd
