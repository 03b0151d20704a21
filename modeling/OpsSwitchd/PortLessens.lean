import OpsSwitchd.CreatedPorts

set_option autoImplicit false

namespace OpsSwitchd

-- Every interface has an OpenFlow port number, so br->ifaces and
-- iface_by_name are filled and emptied together.
structure IfacesNumbered (br : Bridge) : Prop where
  same : br.ifaces = br.ifaceByName
  named : ∀ ref ∈ br.ifaceByName, ref.ofpPort.isSome
  listed : ∀ port ∈ br.ports, ∀ iface ∈ port.ifaces, iface.self.ofpPort.isSome

structure Lessens (br after : Bridge) : Prop where
  ports : ∀ port ∈ after.ports, ∃ old ∈ br.ports, old.self = port.self ∧ old.cfg = port.cfg ∧
    ∀ iface ∈ port.ifaces, ∃ stored ∈ old.ifaces, stored.self = iface.self
  numbered : IfacesNumbered after

theorem lessens_same_ports (br after : Bridge) (ports : after.ports = br.ports) (ifaces : after.ifaces = br.ifaces)
    (byName : after.ifaceByName = br.ifaceByName) (numbered : IfacesNumbered br) : Lessens br after := by
  refine ⟨?_, ?_, ?_, ?_⟩
  · rw [ports]
    exact fun port member => ⟨port, member, rfl, rfl, fun iface present => ⟨iface, present, rfl⟩⟩
  · rw [ifaces, byName]
    exact numbered.same
  · rw [byName]
    exact numbered.named
  · rw [ports]
    exact numbered.listed

theorem lessens_refl (br : Bridge) (numbered : IfacesNumbered br) : Lessens br br :=
  lessens_same_ports br br rfl rfl rfl numbered

theorem lessens_trans (br middle after : Bridge) (first : Lessens br middle) (second : Lessens middle after) :
    Lessens br after := by
  refine ⟨?_, second.numbered⟩
  intro port member
  obtain ⟨mid, there, self, cfg, ifaces⟩ := second.ports port member
  obtain ⟨old, here, self', cfg', ifaces'⟩ := first.ports mid there
  refine ⟨old, here, self'.trans self, cfg'.trans cfg, ?_⟩
  intro iface present
  obtain ⟨stored, inside, same⟩ := ifaces iface present
  obtain ⟨before, deeper, equal⟩ := ifaces' stored inside
  exact ⟨before, deeper, equal.trans same⟩

theorem lessens_foldl {α : Type} (step : Bridge → α → Bridge) (items : List α) (br : Bridge) (numbered : IfacesNumbered br)
    (each : ∀ next, ∀ a ∈ items, IfacesNumbered next → Lessens next (step next a)) : Lessens br (items.foldl step br) :=
  Keyed.foldl_keeps step (Lessens br)
    (fun next a member less => lessens_trans _ _ _ less (each next a member less.numbered)) (lessens_refl br numbered)

theorem iface_unregister_numbered (br : Bridge) (iface : IfaceRef) (some_ : iface.ofpPort.isSome) :
    (ifaceUnregister br iface).ifaces = Keyed.remove IfaceRef.addr iface.addr br.ifaces := by
  obtain ⟨number, stored⟩ := Option.isSome_iff_exists.mp some_
  rw [ifaceUnregister, stored]
  dsimp only
  split <;> rfl

theorem iface_destroy_lessens (br : Bridge) (iface : IfaceRef) (some_ : iface.ofpPort.isSome)
    (numbered : IfacesNumbered br) : Lessens br (ifaceDestroy' br iface) := by
  obtain ⟨_, ports, byName⟩ := iface_unregister_parts br iface
  have left : ∀ port ∈ (ifaceDestroy' br iface).ports, ∃ old ∈ br.ports, old.self = port.self ∧ old.cfg = port.cfg ∧
      ∀ stored ∈ port.ifaces, stored ∈ old.ifaces := by
    intro port member
    rw [ifaceDestroy', ports] at member
    rcases (Keyed.mem_replace portAddr).mp member with ⟨old, _⟩ | ⟨old, stored, _, rfl⟩
    · exact ⟨port, old, rfl, rfl, fun _ present => present⟩
    · exact ⟨old, stored, rfl, rfl, fun _ present => ((Keyed.mem_remove ifaceAddr).mp present).1⟩
  refine ⟨?_, ?_, ?_, ?_⟩
  · intro port member
    obtain ⟨old, here, self, cfg, ifaces⟩ := left port member
    exact ⟨old, here, self, cfg, fun stored present => ⟨stored, ifaces stored present, rfl⟩⟩
  · change (ifaceUnregister br iface).ifaces = Keyed.remove IfaceRef.addr iface.addr (ifaceUnregister br iface).ifaceByName
    rw [iface_unregister_numbered br iface some_, byName, numbered.same]
  · intro ref member
    change ref ∈ Keyed.remove IfaceRef.addr iface.addr (ifaceUnregister br iface).ifaceByName at member
    rw [byName] at member
    exact numbered.named ref ((Keyed.mem_remove IfaceRef.addr).mp member).1
  · intro port member stored present
    obtain ⟨old, here, _, _, ifaces⟩ := left port member
    exact numbered.listed old here stored (ifaces stored present)

theorem port_ifaces_numbered (br : Bridge) (numbered : IfacesNumbered br) (port : PortRef) (iface : Iface)
    (member : iface ∈ portIfaces br port) : iface.self.ofpPort.isSome := by
  obtain ⟨owner, present, _, inside⟩ := port_ifaces_found br port iface member
  exact numbered.listed owner present iface inside

theorem remove_port_lessens (br : Bridge) (addr : Nat) (numbered : IfacesNumbered br) :
    Lessens br { br with ports := Keyed.remove portAddr addr br.ports } := by
  have old : ∀ port ∈ Keyed.remove portAddr addr br.ports, port ∈ br.ports :=
    fun port member => ((Keyed.mem_remove portAddr).mp member).1
  exact ⟨fun port member => ⟨port, old port member, rfl, rfl, fun iface present => ⟨iface, present, rfl⟩⟩,
    numbered.same, numbered.named, fun port member => numbered.listed port (old port member)⟩

theorem port_destroy_lessens (br : Bridge) (port : PortRef) (numbered : IfacesNumbered br) :
    Lessens br (portDestroy br port) := by
  have told : Lessens br (if br.ofproto then br.emit (.bundleUnregister port.name) else br) := by
    split
    · exact lessens_same_ports br _ rfl rfl rfl numbered
    · exact lessens_refl br numbered
  unfold portDestroy
  dsimp only
  generalize (if br.ofproto then br.emit (.bundleUnregister port.name) else br) = next at told ⊢
  have emptied := lessens_foldl (fun br (iface : Iface) => ifaceDestroy' br iface.self) (portIfaces next port) next
    told.numbered (fun later iface member valid =>
      iface_destroy_lessens later iface.self (port_ifaces_numbered next told.numbered port iface member) valid)
  exact lessens_trans _ _ _ told (lessens_trans _ _ _ emptied (remove_port_lessens _ port.addr emptied.numbered))

theorem destroy_empty_lessens (br after : Bridge) (port : PortRef) (less : Lessens br after) :
    Lessens br (if portIfaces after port = [] then portDestroy after port else after) := by
  split
  · exact lessens_trans _ _ _ less (port_destroy_lessens after port less.numbered)
  · exact less

theorem iface_and_port_destroy_lessens (br : Bridge) (iface : IfaceRef) (some_ : iface.ofpPort.isSome)
    (numbered : IfacesNumbered br) : Lessens br (ifaceDestroy br iface) :=
  destroy_empty_lessens br _ iface.port (iface_destroy_lessens br iface some_ numbered)

theorem port_del_ifaces_lessens (br : Bridge) (port : PortRef) (cfg : PortRow) (numbered : IfacesNumbered br) :
    Lessens br (portDelIfaces br port cfg) := by
  refine lessens_foldl _ (portIfaces br port) br numbered (fun next iface member valid => ?_)
  split
  · exact lessens_refl next valid
  · exact iface_and_port_destroy_lessens next iface.self (port_ifaces_numbered br numbered port iface member) valid

theorem check_ofproto_port_lessens (kept : OfprotoPort → Iface → Bool) (work : Bridge × List Nat) (entry : OfprotoPort)
    (numbered : IfacesNumbered work.1) : Lessens work.1 (checkOfprotoPort kept work entry).1 := by
  unfold checkOfprotoPort
  cases found : work.1.ifaceLookup entry.name with
  | none => exact lessens_refl work.1 numbered
  | some iface =>
      dsimp only
      split
      · exact lessens_refl work.1 numbered
      · have listed := Keyed.lookup_mem IfaceRef.name found
        exact iface_and_port_destroy_lessens work.1 iface (numbered.named iface listed) numbered

theorem check_ofproto_ports_lessens (kept : OfprotoPort → Iface → Bool) (dump : List OfprotoPort) (work : Bridge × List Nat)
    (numbered : IfacesNumbered work.1) : Lessens work.1 (dump.foldl (checkOfprotoPort kept) work).1 :=
  Keyed.foldl_keeps (checkOfprotoPort kept) (fun next => Lessens work.1 next.1)
    (fun next entry _ less => lessens_trans _ _ _ less (check_ofproto_port_lessens kept next entry less.numbered))
    (lessens_refl work.1 numbered)

theorem drop_vanished_lessens (names : List String) (br : Bridge) (port : PortRef) (numbered : IfacesNumbered br) :
    Lessens br (dropVanishedIfaces names br port) := by
  refine destroy_empty_lessens br _ port ?_
  refine lessens_foldl _ (portIfaces br port) br numbered (fun next iface member valid => ?_)
  split
  · exact lessens_refl next valid
  · exact iface_destroy_lessens next iface.self (port_ifaces_numbered br numbered port iface member) valid

theorem delete_or_reconfigure_lessens (kept : OfprotoPort → Iface → Bool) (order : HashOrder) (br : Bridge)
    (dump : List OfprotoPort) (numbered : IfacesNumbered br) : Lessens br (deleteOrReconfigurePorts kept order br dump) := by
  have checked := check_ofproto_ports_lessens kept dump (br, []) numbered
  have told := lessens_foldl (fun br ofpPort => br.emit (.portDel ofpPort)) (dump.foldl (checkOfprotoPort kept) (br, [])).2
    (dump.foldl (checkOfprotoPort kept) (br, [])).1 checked.numbered
    (fun next _ _ valid => lessens_same_ports next _ rfl rfl rfl valid)
  refine lessens_trans _ _ _ checked (lessens_trans _ _ _ told ?_)
  exact lessens_foldl _ _ _ told.numbered (fun next port _ valid => drop_vanished_lessens _ next port.self valid)

theorem bridge_del_port_settles (wantedPorts : List PortRow) (br : Bridge) (port : PortRef) (numbered : IfacesNumbered br) :
    IfacesNumbered (bridgeDelPort wantedPorts br port) ∧ ∀ later ∈ (bridgeDelPort wantedPorts br port).ports,
      ∃ old ∈ br.ports, old.self = later.self ∧
        later.cfg = if portAddr later = port.addr then Keyed.lookup PortRow.name port.name wantedPorts else old.cfg := by
  have entered : IfacesNumbered (portSetCfg br port (Keyed.lookup PortRow.name port.name wantedPorts)) := by
    refine ⟨numbered.same, numbered.named, ?_⟩
    intro later member iface present
    rcases (Keyed.mem_replace portAddr).mp member with ⟨old, _⟩ | ⟨old, stored, _, rfl⟩
    · exact numbered.listed later old iface present
    · exact numbered.listed old stored iface present
  have less : Lessens (portSetCfg br port (Keyed.lookup PortRow.name port.name wantedPorts))
      (bridgeDelPort wantedPorts br port) := by
    unfold bridgeDelPort
    cases found : Keyed.lookup PortRow.name port.name wantedPorts with
    | none =>
        rw [found] at entered
        exact port_destroy_lessens _ port entered
    | some row =>
        rw [found] at entered
        exact port_del_ifaces_lessens _ port row entered
  refine ⟨less.numbered, fun later member => ?_⟩
  obtain ⟨middle, there, self, cfg, _⟩ := less.ports later member
  have addr : portAddr later = portAddr middle := congrArg PortRef.addr self.symm
  rw [← cfg, addr]
  rcases (Keyed.mem_replace portAddr).mp there with ⟨old, different⟩ | ⟨old, stored, same, rfl⟩
  · exact ⟨middle, old, self, (if_neg different).symm⟩
  · exact ⟨old, stored, self, (if_pos same).symm⟩

-- The delete loop in between: the ports it has visited have their rows.
def Settled (wantedPorts : List PortRow) (br : Bridge) (visited : List Port) (next : Bridge) : Prop :=
  IfacesNumbered next ∧ ∀ port ∈ next.ports, port.self ∈ br.ports.map Port.self ∧
    (port.self ∈ visited.map Port.self → port.cfg = Keyed.lookup PortRow.name port.self.name wantedPorts)

theorem settled_step (wantedPorts : List PortRow) (br : Bridge) (index : BridgeIndex br) (visited : List Port)
    (next : Bridge) (port : Port) (stored : port ∈ br.ports) (inv : Settled wantedPorts br visited next) :
    Settled wantedPorts br (visited ++ [port]) (bridgeDelPort wantedPorts next port.self) := by
  obtain ⟨valid, settles⟩ := bridge_del_port_settles wantedPorts next port.self inv.1
  refine ⟨valid, fun later member => ?_⟩
  obtain ⟨old, there, self, cfg⟩ := settles later member
  obtain ⟨first, settled⟩ := inv.2 old there
  rw [self] at first settled
  refine ⟨first, fun listed => ?_⟩
  obtain ⟨before, present, same⟩ := List.mem_map.mp first
  by_cases here : portAddr later = port.self.addr
  · rw [if_pos here] at cfg
    have equal : before = port :=
      Keyed.unique_mem_eq portAddr index.addrs present stored ((congrArg PortRef.addr same).trans here)
    rw [cfg, ← same, equal]
  · rw [if_neg here] at cfg
    rw [List.map_append, List.mem_append] at listed
    rw [cfg]
    refine settled (listed.resolve_right (fun last => here ?_))
    exact congrArg PortRef.addr (List.mem_singleton.mp last)

theorem del_ports_settles (order : HashOrder) (wantedPorts : List PortRow) (br : Bridge) (index : BridgeIndex br)
    (numbered : IfacesNumbered br) :
    let after := (order.walk br.ports).foldl (fun br port => bridgeDelPort wantedPorts br port.self) br
    IfacesNumbered after ∧ ∀ port ∈ after.ports, port.cfg = Keyed.lookup PortRow.name port.self.name wantedPorts := by
  have started : Settled wantedPorts br [] br :=
    ⟨numbered, fun port member => ⟨List.mem_map_of_mem member, fun none_ => nomatch none_⟩⟩
  obtain ⟨valid, looped⟩ := Keyed.foldl_invariant _ (order.walk br.ports) (Settled wantedPorts br)
    (fun visited port rest next split inv => settled_step wantedPorts br index visited next port
      ((order.mem_walk _ _).mp (by rw [split]; simp)) inv) started
  refine ⟨valid, fun port member => ?_⟩
  obtain ⟨old, settled⟩ := looped port member
  obtain ⟨before, stored, same⟩ := List.mem_map.mp old
  exact settled (List.mem_map.mpr ⟨before, (order.mem_walk _ _).mpr stored, same⟩)

end OpsSwitchd
