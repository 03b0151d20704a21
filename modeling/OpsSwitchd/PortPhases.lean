import OpsSwitchd.PortDrops

set_option autoImplicit false

namespace OpsSwitchd

theorem iface_lookup_iff (br : Bridge) (index : BridgeIndex br) (name : String) (ref : IfaceRef) :
    br.ifaceLookup name = some ref ↔ ref ∈ ifaceRefs br.ports ∧ ref.name = name := by
  have unique := Keyed.unique_perm IfaceRef.name index.index.symm index.ifaceNames
  rw [Bridge.ifaceLookup, Keyed.lookup_eq_some_iff IfaceRef.name unique, index.index.mem_iff]

theorem iface_lookup_none (br : Bridge) (index : BridgeIndex br) (name : String) :
    br.ifaceLookup name = none ↔ ∀ ref ∈ ifaceRefs br.ports, ref.name ≠ name := by
  rw [Bridge.ifaceLookup, Keyed.lookup_none_iff IfaceRef.name]
  exact forall_congr' (fun ref => by rw [index.index.mem_iff])

theorem iface_at_mem (br : Bridge) (index : BridgeIndex br) (port : Port) (member : port ∈ br.ports) (iface : Iface)
    (present : iface ∈ port.ifaces) : ifaceAt br iface.self = some iface := by
  have unique : Keyed.Unique ifaceAddr port.ifaces := by
    have addrs := index.ifaceAddrs
    obtain ⟨before, after, split⟩ := List.append_of_mem member
    rw [Keyed.Unique, ifaceRefs, split, List.flatMap_append, List.flatMap_cons, List.map_append, List.map_append,
      List.map_map] at addrs
    exact (List.nodup_append.mp (List.nodup_append.mp addrs).2.1).1
  rw [ifaceAt, index.owner port member iface present, port_ifaces_mem br index port member]
  exact Keyed.lookup_of_mem ifaceAddr unique present

theorem iface_at_drops (br after : Bridge) (keep : IfaceRef → Bool) (index : BridgeIndex br) (drops : Drops br after keep)
    (ref : IfaceRef) (member : ref ∈ ifaceRefs br.ports) (kept : keep ref = true) : ifaceAt after ref = ifaceAt br ref := by
  obtain ⟨port, present, iface, inside, rfl⟩ := mem_iface_refs.mp member
  have still : iface ∈ (port.keeping keep).ifaces := List.mem_filter.mpr ⟨inside, kept⟩
  have listed : (port.keeping keep).bare ∈ after.ports.map Port.bare := by
    rw [drops.ports]
    exact List.mem_map.mpr ⟨_, mem_keep_ports.mpr ⟨port, present, List.ne_nil_of_mem still, rfl⟩, rfl⟩
  obtain ⟨later, there, bare⟩ := List.mem_map.mp listed
  have same : later.bare.ifaces = (port.keeping keep).bare.ifaces := congrArg Port.ifaces bare
  rw [iface_at_mem br index port present iface inside,
    iface_at_mem after (drops_index br after keep index drops) later there iface (same ▸ still)]

theorem check_ofproto_port_drops (kept : OfprotoPort → Iface → Bool) (work : Bridge × List Nat) (entry : OfprotoPort)
    (index : BridgeIndex work.1) :
    Drops work.1 (checkOfprotoPort kept work entry).1
      (fun ref => entry.name ≠ ref.name || (ifaceAt work.1 ref).any (kept entry)) := by
  have nothing := drops_nothing work.1 work.1 index (port_frame_refl work.1) rfl rfl
  unfold checkOfprotoPort
  cases found : work.1.ifaceLookup entry.name with
  | none =>
      refine drops_congr work.1 _ _ _ index (fun ref member => ?_) nothing
      have other := (iface_lookup_none work.1 index entry.name).mp found ref member
      simp [Ne.symm other]
  | some iface =>
      obtain ⟨listed, name⟩ := (iface_lookup_iff work.1 index entry.name iface).mp found
      have only : ∀ ref ∈ ifaceRefs work.1.ports, entry.name = ref.name → ref = iface :=
        fun ref member same => Keyed.unique_mem_eq IfaceRef.name index.ifaceNames member listed (same.symm.trans name.symm)
      dsimp only
      cases stays : (ifaceAt work.1 iface).any (kept entry) with
      | true =>
          rw [if_pos rfl]
          refine drops_congr work.1 _ _ _ index (fun ref member => ?_) nothing
          by_cases same : entry.name = ref.name
          · rw [only ref member same, stays, Bool.or_true]
          · simp [same]
      | false =>
          rw [if_neg Bool.false_ne_true]
          refine drops_congr work.1 _ _ _ index (fun ref member => ?_)
            (iface_destroy_drops work.1 index iface (same_struct_mem work.1 index iface listed))
          by_cases same : entry.name = ref.name
          · rw [only ref member same, stays]
            simp [name]
          · have differs : ref.addr ≠ iface.addr := fun equal =>
              same (by rw [same_struct_mem work.1 index iface listed ref member equal, name])
            simp [same, differs]

theorem check_ofproto_ports_drops (kept : OfprotoPort → Iface → Bool) (dump : List OfprotoPort) (work : Bridge × List Nat)
    (index : BridgeIndex work.1) :
    Drops work.1 (dump.foldl (checkOfprotoPort kept) work).1
      (fun ref => dump.all (fun entry => entry.name ≠ ref.name || (ifaceAt work.1 ref).any (kept entry))) := by
  induction dump generalizing work with
  | nil => exact drops_nothing work.1 work.1 index (port_frame_refl work.1) rfl rfl
  | cons entry rest ih =>
      have first := check_ofproto_port_drops kept work entry index
      have later := ih (checkOfprotoPort kept work entry) (drops_index _ _ _ index first)
      refine drops_congr work.1 _ _ _ index (fun ref member => ?_) (drops_trans _ _ _ _ _ first later)
      rw [List.all_cons]
      cases stays : (entry.name ≠ ref.name || (ifaceAt work.1 ref).any (kept entry)) with
      | false => rfl
      | true => rw [iface_at_drops work.1 _ _ index first ref member stays]

theorem drop_vanished_drops (names : List String) (br : Bridge) (index : BridgeIndex br) (port : PortRef) :
    Drops br (dropVanishedIfaces names br port) (fun ref => ref.port.addr ≠ port.addr || ref.name ∈ names) := by
  have looped : (portIfaces br port).foldl
      (fun br iface => if iface.self.name ∈ names then br else ifaceDestroy' br iface.self) br =
      (((portIfaces br port).filter (fun iface => iface.self.name ∉ names)).map Iface.self).foldl ifaceDestroy' br := by
    rw [List.foldl_map, List.foldl_filter]
    congr 1
    funext next iface
    by_cases seen : iface.self.name ∈ names <;> simp [seen]
  have found := fun iface member => port_ifaces_found br port iface member
  have dropped := drop_ifaces_drops br index port
    (((portIfaces br port).filter (fun iface => iface.self.name ∉ names)).map Iface.self)
    (by
      intro ref listed
      obtain ⟨iface, member, rfl⟩ := List.mem_map.mp listed
      obtain ⟨owner, present, equal, inside⟩ := found iface (List.mem_filter.mp member).1
      rw [iface_owner_addr br index owner present iface inside, equal])
    (by
      intro ref listed
      obtain ⟨iface, member, rfl⟩ := List.mem_map.mp listed
      obtain ⟨owner, present, _, inside⟩ := found iface (List.mem_filter.mp member).1
      exact same_struct_mem br index iface.self (mem_iface_refs.mpr ⟨owner, present, iface, inside, rfl⟩))
  rw [← looped] at dropped
  refine drops_congr br _ _ _ index (fun ref member => ?_) dropped
  rw [Bool.eq_iff_iff, decide_eq_true_eq, Bool.or_eq_true, decide_eq_true_eq, decide_eq_true_eq, iff_comm]
  rw [← not_iff_not, not_or, not_not, not_not, iface_in_port br index port ref member]
  simp only [List.mem_map, List.mem_filter, decide_eq_true_eq]
  constructor
  · rintro ⟨⟨iface, inside, rfl⟩, unseen⟩
    exact ⟨iface.self, ⟨iface, ⟨inside, unseen⟩, rfl⟩, rfl⟩
  · rintro ⟨gone, ⟨iface, ⟨inside, unseen⟩, rfl⟩, equal⟩
    have same := same_struct_mem br index ref member iface.self (by
      obtain ⟨owner, present, _, there⟩ := found iface inside
      exact mem_iface_refs.mpr ⟨owner, present, iface, there, rfl⟩) equal
    exact ⟨⟨iface, inside, same⟩, same ▸ unseen⟩

def ifaceStays (kept : OfprotoPort → Iface → Bool) (br : Bridge) (dump : List OfprotoPort) (ref : IfaceRef) : Bool :=
  ref.name ∈ dump.map OfprotoPort.name &&
    dump.all (fun entry => entry.name ≠ ref.name || (ifaceAt br ref).any (kept entry))

theorem delete_or_reconfigure_drops (kept : OfprotoPort → Iface → Bool) (order : HashOrder) (br : Bridge)
    (dump : List OfprotoPort) (index : BridgeIndex br) :
    Drops br (deleteOrReconfigurePorts kept order br dump) (ifaceStays kept br dump) := by
  have checked := check_ofproto_ports_drops kept dump (br, []) index
  have valid := drops_index br _ _ index checked
  have told : ∀ (ports : List Nat) (next : Bridge), (ports.foldl (fun br ofpPort => br.emit (.portDel ofpPort)) next).ports =
      next.ports ∧ (ports.foldl (fun br ofpPort => br.emit (.portDel ofpPort)) next).ifaceByName = next.ifaceByName :=
    fun ports next => Keyed.foldl_keeps (fun br ofpPort => br.emit (.portDel ofpPort))
      (fun after : Bridge => after.ports = next.ports ∧ after.ifaceByName = next.ifaceByName)
      (fun _ _ _ same => same) ⟨rfl, rfl⟩
  unfold deleteOrReconfigurePorts
  generalize dump.foldl (checkOfprotoPort kept) (br, []) = work at checked valid
  have emitted := drops_nothing work.1 (work.2.foldl (fun br ofpPort => br.emit (.portDel ofpPort)) work.1) valid
    (port_frame_foldl _ (fun next ofpPort => port_frame_emit next (.portDel ofpPort) nofun) work.2 work.1)
    (by rw [(told work.2 work.1).1]) (told work.2 work.1).2
  have after := drops_index _ _ _ valid emitted
  dsimp only
  generalize work.2.foldl (fun br ofpPort => br.emit (.portDel ofpPort)) work.1 = told at emitted after ⊢
  have swept := drops_foldl (fun br (port : Port) => dropVanishedIfaces (dump.map OfprotoPort.name) br port.self)
    (fun port ref => ref.port.addr ≠ port.self.addr || ref.name ∈ dump.map OfprotoPort.name) (fun _ _ => True)
    (fun _ _ _ _ _ => trivial) (fun next port index _ => drop_vanished_drops _ next index port.self)
    (order.walk told.ports) told after (fun _ _ => trivial)
  have decided := drops_congr told _ _ _ after
    (own_port_decides told after order (fun _ ref => ref.name ∈ dump.map OfprotoPort.name)) swept
  refine drops_congr br _ _ _ index (fun ref _ => ?_)
    (drops_trans _ _ _ _ _ checked (drops_trans _ _ _ _ _ emitted decided))
  rw [ifaceStays, Bool.true_and, Bool.and_comm]

def Port.retag (f : Iface → Iface) (port : Port) : Port := { port with ifaces := port.ifaces.map f }

structure Retags (br after : Bridge) (f : Iface → Iface) : Prop where
  frame : PortFrame br after
  ports : after.ports = br.ports.map (Port.retag f)
  byName : after.ifaceByName = br.ifaceByName

theorem retag_refs (f : Iface → Iface) (same : ∀ iface, (f iface).self = iface.self) (ports : List Port) :
    ifaceRefs (ports.map (Port.retag f)) = ifaceRefs ports := by
  simp only [ifaceRefs, List.flatMap_map, Port.retag, List.map_map]
  congr 1
  funext port
  exact List.map_congr_left (fun iface _ => same iface)

theorem retags_index (br after : Bridge) (f : Iface → Iface) (same : ∀ iface, (f iface).self = iface.self)
    (index : BridgeIndex br) (retags : Retags br after f) : BridgeIndex after := by
  have refs := retag_refs f same br.ports
  have addrs : (br.ports.map (Port.retag f)).map portAddr = br.ports.map portAddr := by simp [Port.retag, portAddr]
  have names : (br.ports.map (Port.retag f)).map portName = br.ports.map portName := by simp [Port.retag, portName]
  rw [BridgeIndex, retags.frame.nextAddr, retags.byName, retags.ports]
  refine ⟨by rw [Keyed.Unique, addrs]; exact index.addrs, by rw [Keyed.Unique, names]; exact index.names,
    by rw [refs]; exact index.ifaceAddrs, by rw [refs]; exact index.ifaceNames, by rw [refs]; exact index.index, ?_, ?_, ?_,
    by rw [refs]; exact index.ifaceBound⟩
  · intro port member iface present
    obtain ⟨before, old, rfl⟩ := List.mem_map.mp member
    obtain ⟨stored, inside, rfl⟩ := List.mem_map.mp present
    rw [same]
    exact index.owner before old stored inside
  · intro port member
    obtain ⟨before, old, rfl⟩ := List.mem_map.mp member
    simpa [Port.retag] using index.filled before old
  · intro port member
    obtain ⟨before, old, rfl⟩ := List.mem_map.mp member
    exact index.bound before old

def retagIface (platform : Platform) (cfg : Option BridgeRow) (iface : Iface) (row : InterfaceRow) : Iface :=
  if iface.self.name = row.name then { iface with cfg := row, type := ifaceGetType platform row cfg } else iface

theorem retag_iface_self (platform : Platform) (cfg : Option BridgeRow) (iface : Iface) (row : InterfaceRow) :
    (retagIface platform cfg iface row).self = iface.self := by
  unfold retagIface
  split <;> rfl

theorem retag_port_eq (f : Iface → Iface) (port : Port) (same : ∀ iface ∈ port.ifaces, f iface = iface) :
    port.retag f = port := by
  unfold Port.retag
  rw [List.map_congr_left (g := id) same, List.map_id]

theorem update_iface_retags (platform : Platform) (br : Bridge) (row : InterfaceRow) (index : BridgeIndex br) :
    Retags br (updateIface platform br row) (fun iface => retagIface platform br.cfg iface row) := by
  unfold updateIface
  cases found : br.ifaceLookup row.name with
  | none =>
      refine ⟨port_frame_refl br, ?_, rfl⟩
      refine (List.map_id _).symm.trans (List.map_congr_left (fun port member => ?_))
      refine (retag_port_eq _ port (fun iface present => ?_)).symm
      exact if_neg ((iface_lookup_none br index row.name).mp found iface.self
        (mem_iface_refs.mpr ⟨port, member, iface, present, rfl⟩))
  | some ref =>
      obtain ⟨listed, name⟩ := (iface_lookup_iff br index row.name ref).mp found
      refine ⟨port_frame_same _ _ rfl rfl rfl rfl rfl, ?_, rfl⟩
      refine List.map_congr_left (fun port member => ?_)
      have only : ∀ iface ∈ port.ifaces, iface.self.name = row.name ↔ iface.self = ref := by
        intro iface present
        have here := mem_iface_refs.mpr ⟨port, member, iface, present, rfl⟩
        exact ⟨fun same => Keyed.unique_mem_eq IfaceRef.name index.ifaceNames here listed (same.trans name.symm),
          fun same => by rw [same, name]⟩
      by_cases own : portAddr port = ref.port.addr
      · rw [if_pos own]
        refine congrArg (fun ifaces => { port with ifaces := ifaces }) (List.map_congr_left (fun iface present => ?_))
        have here := mem_iface_refs.mpr ⟨port, member, iface, present, rfl⟩
        by_cases same : iface.self = ref
        · rw [retagIface, if_pos ((only iface present).mpr same), if_pos (show ifaceAddr iface = ref.addr from congrArg IfaceRef.addr same)]
        · rw [retagIface, if_neg (fun equal => same ((only iface present).mp equal)),
            if_neg (fun equal : ifaceAddr iface = ref.addr => same (same_struct_mem br index ref listed iface.self here equal))]
      · rw [if_neg own]
        refine (retag_port_eq _ port (fun iface present => ?_)).symm
        refine if_neg (fun equal => own ?_)
        rw [← (only iface present).mp equal, iface_owner_addr br index port member iface present]

theorem update_ifaces_retags (platform : Platform) (rows : List InterfaceRow) (br : Bridge) (index : BridgeIndex br) :
    Retags br (rows.foldl (updateIface platform) br) (fun iface => rows.foldl (retagIface platform br.cfg) iface) := by
  induction rows generalizing br with
  | nil =>
      refine ⟨port_frame_refl br, ?_, rfl⟩
      exact (List.map_id _).symm.trans (List.map_congr_left (fun port _ => (retag_port_eq _ port (fun _ _ => rfl)).symm))
  | cons row rest ih =>
      have first := update_iface_retags platform br row index
      have valid := retags_index br _ _ (fun iface => retag_iface_self platform br.cfg iface row) index first
      have later := ih (updateIface platform br row) valid
      rw [first.frame.cfg] at later
      refine ⟨port_frame_trans _ _ _ first.frame later.frame, ?_, later.byName.trans first.byName⟩
      rw [List.foldl_cons, later.ports, first.ports, List.map_map]
      refine List.map_congr_left (fun port _ => ?_)
      simp only [Function.comp_apply, Port.retag, List.map_map]
      rfl

theorem retag_rows_self (platform : Platform) (cfg : Option BridgeRow) (rows : List InterfaceRow) (iface : Iface) :
    (rows.foldl (retagIface platform cfg) iface).self = iface.self :=
  Keyed.foldl_keeps (retagIface platform cfg) (fun after => after.self = iface.self)
    (fun after row _ same => (retag_iface_self platform cfg after row).trans same) rfl

def wantedIfaces (env : Env) (wantedPorts : List PortRow) : List InterfaceRow :=
  (env.order.walk wantedPorts).flatMap PortRow.interfaces

theorem update_wanted_retags (env : Env) (br : Bridge) (wantedPorts : List PortRow) (index : BridgeIndex br) :
    Retags br (updateIfaces env br wantedPorts)
      (fun iface => (wantedIfaces env wantedPorts).foldl (retagIface env.platform br.cfg) iface) := by
  have flat : updateIfaces env br wantedPorts = (wantedIfaces env wantedPorts).foldl (updateIface env.platform) br := by
    rw [wantedIfaces, List.foldl_flatMap]
    rfl
  rw [flat]
  exact update_ifaces_retags env.platform _ br index

end OpsSwitchd
