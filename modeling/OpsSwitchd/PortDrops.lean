import OpsSwitchd.PortIndex

set_option autoImplicit false

namespace OpsSwitchd

theorem iface_unregister_parts (br : Bridge) (iface : IfaceRef) :
    PortFrame br (ifaceUnregister br iface) ∧ (ifaceUnregister br iface).ports = br.ports ∧
      (ifaceUnregister br iface).ifaceByName = br.ifaceByName := by
  unfold ifaceUnregister
  split
  · exact ⟨port_frame_refl br, rfl, rfl⟩
  · dsimp only
    split
    · have told := port_frame_emit br (.portUnregister ‹Nat›) (fun port same => by cases same)
      exact ⟨⟨rfl, rfl, rfl, rfl, told.calls⟩, rfl, rfl⟩
    · exact ⟨port_frame_same _ _ rfl rfl rfl rfl rfl, rfl, rfl⟩

theorem destroy_ifaces_parts (gone : List IfaceRef) (addr : Nat) (owned : ∀ iface ∈ gone, iface.port.addr = addr)
    (br : Bridge) :
    PortFrame br (gone.foldl ifaceDestroy' br) ∧
    (gone.foldl ifaceDestroy' br).ports = Keyed.replace portAddr addr (fun port => { port with
      ifaces := Keyed.removeAll ifaceAddr (gone.map IfaceRef.addr) port.ifaces }) br.ports ∧
    (gone.foldl ifaceDestroy' br).ifaceByName = Keyed.removeAll IfaceRef.addr (gone.map IfaceRef.addr) br.ifaceByName := by
  induction gone generalizing br with
  | nil =>
      refine ⟨port_frame_refl br, ?_, (Keyed.removeAll_nil _ _).symm⟩
      exact (Keyed.replace_same portAddr addr _ (fun port => by simp [Keyed.removeAll_nil]) br.ports).symm
  | cons iface rest ih =>
      obtain ⟨frame, ports, byName⟩ := ih (fun other member => owned other (by simp [member])) (ifaceDestroy' br iface)
      obtain ⟨told, same, index⟩ := iface_unregister_parts br iface
      have here := owned iface (by simp)
      have first : PortFrame br (ifaceDestroy' br iface) := ⟨told.name, told.cfg, told.ofproto, told.nextAddr, told.calls⟩
      refine ⟨port_frame_trans _ _ _ first frame, ?_, ?_⟩
      · rw [List.foldl_cons, ports]
        unfold ifaceDestroy'
        dsimp only
        rw [same, here, Keyed.replace_comp portAddr (by intro _ stored; exact stored)]
        simp only [Keyed.removeAll_remove, List.map_cons]
      · rw [List.foldl_cons, byName]
        unfold ifaceDestroy'
        dsimp only
        rw [index, Keyed.removeAll_remove, List.map_cons]

theorem port_destroy_parts (br : Bridge) (port : PortRef) (owned : ∀ iface ∈ portIfaces br port, iface.self.port.addr = port.addr) :
    PortFrame br (portDestroy br port) ∧ (portDestroy br port).ports = Keyed.remove portAddr port.addr br.ports ∧
      (portDestroy br port).ifaceByName =
        Keyed.removeAll IfaceRef.addr ((portIfaces br port).map ifaceAddr) br.ifaceByName := by
  have told : PortFrame br (if br.ofproto then br.emit (.bundleUnregister port.name) else br) := by
    split
    · exact port_frame_emit br _ nofun
    · exact port_frame_refl br
  have same : ∀ b : Bool, (if b then br.emit (.bundleUnregister port.name) else br).ports = br.ports ∧
      (if b then br.emit (.bundleUnregister port.name) else br).ifaceByName = br.ifaceByName := by
    intro b
    cases b <;> exact ⟨rfl, rfl⟩
  have inside : portIfaces (if br.ofproto then br.emit (.bundleUnregister port.name) else br) port = portIfaces br port := by
    rw [portIfaces, portAt, (same _).1, portIfaces, portAt]
  have refs : ((portIfaces br port).map Iface.self).map IfaceRef.addr = (portIfaces br port).map ifaceAddr := by
    rw [List.map_map]
    rfl
  unfold portDestroy
  dsimp only
  rw [inside, ← List.foldl_map (f := Iface.self) (g := ifaceDestroy')]
  obtain ⟨frame, ports, byName⟩ := destroy_ifaces_parts ((portIfaces br port).map Iface.self) port.addr (by
    intro iface member
    obtain ⟨stored, present, rfl⟩ := List.mem_map.mp member
    exact owned stored present) (if br.ofproto then br.emit (.bundleUnregister port.name) else br)
  have whole := port_frame_trans _ _ _ told frame
  refine ⟨⟨whole.name, whole.cfg, whole.ofproto, whole.nextAddr, whole.calls⟩, ?_, ?_⟩
  · rw [ports, (same _).1]
    exact Keyed.remove_replace portAddr port.addr _ (by intro _ stored; exact stored) br.ports
  · rw [byName, (same _).2, refs]

theorem port_at_mem (br : Bridge) (index : BridgeIndex br) (port : Port) (member : port ∈ br.ports) :
    portAt br port.self = some port :=
  Keyed.lookup_of_mem portAddr index.addrs member

theorem port_ifaces_mem (br : Bridge) (index : BridgeIndex br) (port : Port) (member : port ∈ br.ports) :
    portIfaces br port.self = port.ifaces := by
  rw [portIfaces, port_at_mem br index port member]
  rfl

theorem port_ifaces_found (br : Bridge) (ref : PortRef) (iface : Iface) (member : iface ∈ portIfaces br ref) :
    ∃ port ∈ br.ports, portAddr port = ref.addr ∧ iface ∈ port.ifaces := by
  unfold portIfaces portAt at member
  cases found : Keyed.lookup portAddr ref.addr br.ports with
  | none =>
      rw [found] at member
      cases member
  | some port =>
      rw [found] at member
      exact ⟨port, Keyed.lookup_mem portAddr found, Keyed.lookup_key portAddr found, member⟩

theorem keep_ports_replace (keep : IfaceRef → Bool) (ports : List Port) (addr : Nat) (f : Port → Port)
    (here : ∀ port ∈ ports, portAddr port = addr → keepPort keep port = some (f port))
    (elsewhere : ∀ port ∈ ports, portAddr port ≠ addr → keepPort keep port = some port) :
    keepPorts keep ports = Keyed.replace portAddr addr f ports := by
  unfold Keyed.replace
  rw [← List.filterMap_eq_map]
  refine List.filterMap_congr (fun port member => ?_)
  by_cases same : portAddr port = addr
  · rw [here port member same, Function.comp_apply, if_pos same]
  · rw [elsewhere port member same, Function.comp_apply, if_neg same]

theorem keep_ports_remove (keep : IfaceRef → Bool) (ports : List Port) (addr : Nat)
    (here : ∀ port ∈ ports, portAddr port = addr → keepPort keep port = none)
    (elsewhere : ∀ port ∈ ports, portAddr port ≠ addr → keepPort keep port = some port) :
    keepPorts keep ports = Keyed.remove portAddr addr ports := by
  unfold Keyed.remove
  rw [← List.filterMap_eq_filter]
  refine List.filterMap_congr (fun port member => ?_)
  by_cases same : portAddr port = addr
  · rw [here port member same]
    simp [Option.guard, same]
  · rw [elsewhere port member same]
    simp [Option.guard, same]

abbrev SameStruct (refs : List IfaceRef) (iface : IfaceRef) : Prop := ∀ ref ∈ refs, ref.addr = iface.addr → ref = iface

theorem same_struct_fewer (refs less : List IfaceRef) (iface : IfaceRef) (subset : ∀ ref ∈ less, ref ∈ refs)
    (same : SameStruct refs iface) : SameStruct less iface :=
  fun ref member => same ref (subset ref member)

theorem same_struct_mem (br : Bridge) (index : BridgeIndex br) (iface : IfaceRef) (member : iface ∈ ifaceRefs br.ports) :
    SameStruct (ifaceRefs br.ports) iface :=
  fun _ present equal => Keyed.unique_mem_eq IfaceRef.addr index.ifaceAddrs present member equal

theorem drop_ifaces_drops (br : Bridge) (index : BridgeIndex br) (port : PortRef) (gone : List IfaceRef)
    (owned : ∀ iface ∈ gone, iface.port.addr = port.addr) (same : ∀ iface ∈ gone, SameStruct (ifaceRefs br.ports) iface) :
    let middle := gone.foldl ifaceDestroy' br
    Drops br (if portIfaces middle port = [] then portDestroy middle port else middle)
      (fun ref => ref.addr ∉ gone.map IfaceRef.addr) := by
  intro middle
  obtain ⟨frame, ports, byName⟩ := destroy_ifaces_parts gone port.addr owned br
  have elsewhere : ∀ other ∈ br.ports, portAddr other ≠ port.addr →
      keepPort (fun ref => ref.addr ∉ gone.map IfaceRef.addr) other = some other := by
    intro other member different
    refine keep_port_all _ other (index.filled other member) ?_
    intro iface present
    refine decide_eq_true (fun listed => ?_)
    obtain ⟨target, dropped, equal⟩ := List.mem_map.mp listed
    have struct := same target dropped iface.self (mem_iface_refs.mpr ⟨other, member, iface, present, rfl⟩) equal.symm
    have owner := index.owner other member iface present
    rw [struct] at owner
    exact different (by rw [portAddr, ← owner, owned target dropped])
  have kept : ∀ other : Port, (other.keeping (fun ref => ref.addr ∉ gone.map IfaceRef.addr)).ifaces =
      Keyed.removeAll ifaceAddr (gone.map IfaceRef.addr) other.ifaces := fun _ => rfl
  have left : portIfaces middle port = Keyed.removeAll ifaceAddr (gone.map IfaceRef.addr) (portIfaces br port) := by
    rw [portIfaces, portAt, ports, Keyed.lookup_replace_self portAddr port.addr _ _ (by intros; rfl), ← portAt, portIfaces]
    cases portAt br port <;> rfl
  have ifaces : ∀ other ∈ br.ports, portAddr other = port.addr → portIfaces br port = other.ifaces := by
    intro other member equal
    rw [portIfaces, portAt, ← equal, Keyed.lookup_of_mem portAddr index.addrs member]
    rfl
  by_cases empty : portIfaces middle port = []
  · rw [if_pos empty]
    obtain ⟨destroyed, removed, unlisted⟩ := port_destroy_parts middle port (by simp [empty])
    refine ⟨port_frame_trans _ _ _ frame destroyed, ?_, ?_⟩
    · rw [removed, ports, Keyed.remove_replace portAddr port.addr _ (by intro _ stored; exact stored),
        keep_ports_remove _ br.ports port.addr ?_ elsewhere]
      intro other member equal
      rw [keepPort, if_pos]
      rw [kept, ← ifaces other member equal, ← left, empty]
    · rw [unlisted, empty, List.map_nil, Keyed.removeAll_nil, byName]
      rfl
  · rw [if_neg empty]
    refine ⟨frame, ?_, byName⟩
    rw [ports, keep_ports_replace _ br.ports port.addr _ ?_ elsewhere]
    intro other member equal
    rw [keepPort, if_neg]
    · rfl
    · rw [kept, ← ifaces other member equal, ← left]
      exact empty

theorem iface_owner_addr (br : Bridge) (index : BridgeIndex br) (port : Port) (member : port ∈ br.ports) (iface : Iface)
    (present : iface ∈ port.ifaces) : iface.self.port.addr = portAddr port := by
  rw [index.owner port member iface present]
  rfl

theorem iface_in_port (br : Bridge) (index : BridgeIndex br) (port : PortRef) (ref : IfaceRef)
    (member : ref ∈ ifaceRefs br.ports) :
    ref.port.addr = port.addr ↔ ∃ iface ∈ portIfaces br port, iface.self = ref := by
  obtain ⟨owner, present, iface, inside, rfl⟩ := mem_iface_refs.mp member
  constructor
  · intro equal
    rw [iface_owner_addr br index owner present iface inside] at equal
    refine ⟨iface, ?_, rfl⟩
    rw [portIfaces, portAt, ← equal, Keyed.lookup_of_mem portAddr index.addrs present]
    exact inside
  · rintro ⟨other, found, same⟩
    obtain ⟨holder, listed, equal, there⟩ := port_ifaces_found br port other found
    rw [← same, iface_owner_addr br index holder listed other there, equal]

theorem port_destroy_drops (br : Bridge) (index : BridgeIndex br) (port : PortRef) :
    Drops br (portDestroy br port) (fun ref => ref.port.addr ≠ port.addr) := by
  obtain ⟨frame, ports, byName⟩ := port_destroy_parts br port (by
    intro iface member
    obtain ⟨owner, present, equal, inside⟩ := port_ifaces_found br port iface member
    rw [iface_owner_addr br index owner present iface inside, equal])
  refine ⟨frame, ?_, ?_⟩
  · rw [ports, keep_ports_remove]
    · intro other member equal
      refine keep_port_none _ other (fun iface present => ?_)
      simp [iface_owner_addr br index other member iface present, equal]
    · intro other member different
      refine keep_port_all _ other (index.filled other member) (fun iface present => ?_)
      simp [iface_owner_addr br index other member iface present, different]
  · rw [byName]
    refine List.filter_congr (fun ref member => ?_)
    have listed := index.index.mem_iff.mp member
    rw [decide_eq_decide, not_iff_not, iface_in_port br index port ref listed, List.mem_map]
    constructor
    · rintro ⟨iface, found, equal⟩
      obtain ⟨owner, present, _, inside⟩ := port_ifaces_found br port iface found
      exact ⟨iface, found, same_struct_mem br index ref listed iface.self
        (mem_iface_refs.mpr ⟨owner, present, iface, inside, rfl⟩) equal⟩
    · rintro ⟨iface, found, rfl⟩
      exact ⟨iface, found, rfl⟩

theorem iface_destroy_drops (br : Bridge) (index : BridgeIndex br) (iface : IfaceRef)
    (same : SameStruct (ifaceRefs br.ports) iface) : Drops br (ifaceDestroy br iface) (fun ref => ref.addr ≠ iface.addr) := by
  have dropped := drop_ifaces_drops br index iface.port [iface] (by simp) (by simpa using same)
  refine drops_congr br _ _ _ index (fun ref _ => ?_) dropped
  simp

theorem port_del_ifaces_drops (br : Bridge) (index : BridgeIndex br) (port : PortRef) (cfg : PortRow) :
    Drops br (portDelIfaces br port cfg) (fun ref => ref.port.addr ≠ port.addr || ref.name ∈ newIfaces cfg) := by
  have dropped := drops_foldl
    (fun br (iface : Iface) => if iface.self.name ∈ newIfaces cfg then br else ifaceDestroy br iface.self)
    (fun iface ref => iface.self.name ∈ newIfaces cfg || ref.addr ≠ iface.self.addr)
    (fun refs iface => SameStruct refs iface.self) (fun refs less iface => same_struct_fewer refs less iface.self)
    (by
      intro next iface valid same
      by_cases wanted : iface.self.name ∈ newIfaces cfg
      · simpa only [wanted, if_true, decide_true, Bool.true_or] using
          drops_nothing next next valid (port_frame_refl next) rfl rfl
      · simpa only [wanted, if_false, decide_false, Bool.false_or] using iface_destroy_drops next valid iface.self same)
    (portIfaces br port) br index
    (by
      intro iface member
      obtain ⟨owner, present, _, inside⟩ := port_ifaces_found br port iface member
      exact same_struct_mem br index iface.self (mem_iface_refs.mpr ⟨owner, present, iface, inside, rfl⟩))
  refine drops_congr br _ _ _ index (fun ref member => ?_) dropped
  rw [Bool.eq_iff_iff]
  simp only [List.all_eq_true, Bool.or_eq_true, decide_eq_true_eq]
  constructor
  · intro all
    by_cases here : ref.port.addr = port.addr
    · obtain ⟨iface, found, rfl⟩ := (iface_in_port br index port ref member).mp here
      exact .inr ((all iface found).resolve_right (fun differs => differs rfl))
    · exact .inl here
  · intro kept iface found
    by_cases equal : ref.addr = iface.self.addr
    · obtain ⟨owner, present, _, inside⟩ := port_ifaces_found br port iface found
      have struct := same_struct_mem br index ref member iface.self
        (mem_iface_refs.mpr ⟨owner, present, iface, inside, rfl⟩) equal.symm
      have here := (iface_in_port br index port ref member).mpr ⟨iface, found, struct⟩
      exact .inl (struct ▸ kept.resolve_left (fun differs => differs here))
    · exact .inr equal

theorem port_set_cfg_drops (br : Bridge) (index : BridgeIndex br) (port : PortRef) (cfg : Option PortRow) :
    Drops br (portSetCfg br port cfg) (fun _ => true) := by
  refine drops_nothing br _ index (port_frame_same _ _ rfl rfl rfl rfl rfl) ?_ rfl
  exact Keyed.map_replace portAddr Port.bare port.addr _ br.ports (fun _ _ _ => rfl)

def rowWants (wantedPorts : List PortRow) (port : String) (iface : IfaceRef) : Bool :=
  (Keyed.lookup PortRow.name port wantedPorts).any (fun row => iface.name ∈ newIfaces row)

theorem bridge_del_port_drops (wantedPorts : List PortRow) (br : Bridge) (index : BridgeIndex br) (port : PortRef) :
    Drops br (bridgeDelPort wantedPorts br port)
      (fun ref => ref.port.addr ≠ port.addr || rowWants wantedPorts port.name ref) := by
  have cfgSet := port_set_cfg_drops br index port (Keyed.lookup PortRow.name port.name wantedPorts)
  have next := drops_index br _ _ index cfgSet
  unfold bridgeDelPort rowWants
  cases found : Keyed.lookup PortRow.name port.name wantedPorts with
  | none =>
      rw [found] at cfgSet next
      refine drops_congr br _ _ _ index (fun ref _ => ?_) (drops_trans br _ _ _ _ cfgSet (port_destroy_drops _ next port))
      simp
  | some row =>
      rw [found] at cfgSet next
      exact drops_trans br _ _ _ _ cfgSet (port_del_ifaces_drops _ next port row)

theorem own_port_decides (br : Bridge) (index : BridgeIndex br) (order : HashOrder) (keep : String → IfaceRef → Bool)
    (ref : IfaceRef) (member : ref ∈ ifaceRefs br.ports) :
    (order.walk br.ports).all (fun port => ref.port.addr ≠ port.self.addr || keep port.self.name ref) =
      keep ref.port.name ref := by
  obtain ⟨owner, present, iface, inside, rfl⟩ := mem_iface_refs.mp member
  have self := index.owner owner present iface inside
  rw [Bool.eq_iff_iff]
  simp only [List.all_eq_true, HashOrder.mem_walk, Bool.or_eq_true, decide_eq_true_eq]
  constructor
  · intro all
    have own := (all owner present).resolve_left (fun differs => differs (by rw [self]))
    rwa [self]
  · intro kept port listed
    by_cases equal : iface.self.port.addr = port.self.addr
    · have same : owner = port := Keyed.unique_mem_eq portAddr index.addrs present listed (by rw [self] at equal; exact equal)
      rw [self, same] at kept
      exact .inr kept
    · exact .inl equal

theorem del_ports_drops (order : HashOrder) (wantedPorts : List PortRow) (br : Bridge) (index : BridgeIndex br) :
    Drops br ((order.walk br.ports).foldl (fun br port => bridgeDelPort wantedPorts br port.self) br)
      (fun ref => rowWants wantedPorts ref.port.name ref) := by
  have dropped := drops_foldl (fun br (port : Port) => bridgeDelPort wantedPorts br port.self)
    (fun port ref => ref.port.addr ≠ port.self.addr || rowWants wantedPorts port.self.name ref) (fun _ _ => True)
    (fun _ _ _ _ _ => trivial) (fun next port valid _ => bridge_del_port_drops wantedPorts next valid port.self)
    (order.walk br.ports) br index (fun _ _ => trivial)
  exact drops_congr br _ _ _ index (own_port_decides br index order (rowWants wantedPorts)) dropped

end OpsSwitchd
