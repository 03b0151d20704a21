import OpsSwitchd.PortLessens
import OpsSwitchd.Runs

set_option autoImplicit false

namespace OpsSwitchd

def rowLists (row : PortRow) (iface : Iface) : Prop := iface.self.name ∈ row.interfaces.map InterfaceRow.name

def PortsWanted (wantedPorts : List PortRow) (br : Bridge) : Prop :=
  ∀ port ∈ br.ports, ∃ row ∈ wantedPorts, port.cfg = some row ∧ row.name = port.self.name ∧
    ∀ iface ∈ port.ifaces, rowLists row iface

theorem lessens_wanted (wantedPorts : List PortRow) (br after : Bridge) (less : Lessens br after)
    (wanted : PortsWanted wantedPorts br) : PortsWanted wantedPorts after := by
  intro port member
  obtain ⟨old, here, self, cfg, ifaces⟩ := less.ports port member
  obtain ⟨row, listed, stored, named, lists⟩ := wanted old here
  refine ⟨row, listed, cfg.symm.trans stored, named.trans (congrArg PortRef.name self), ?_⟩
  intro iface present
  obtain ⟨before, inside, same⟩ := ifaces iface present
  rw [rowLists, ← same]
  exact lists before inside

theorem retags_lessens (br after : Bridge) (f : Iface → Iface) (same : ∀ iface, (f iface).self = iface.self)
    (retags : Retags br after f) (ifaces : after.ifaces = br.ifaces) (numbered : IfacesNumbered br) : Lessens br after := by
  have old : ∀ port ∈ after.ports, ∃ before ∈ br.ports, before.self = port.self ∧ before.cfg = port.cfg ∧
      ∀ iface ∈ port.ifaces, ∃ stored ∈ before.ifaces, stored.self = iface.self := by
    intro port member
    rw [retags.ports] at member
    obtain ⟨before, stored, rfl⟩ := List.mem_map.mp member
    refine ⟨before, stored, rfl, rfl, fun iface present => ?_⟩
    obtain ⟨source, inside, rfl⟩ := List.mem_map.mp present
    exact ⟨source, inside, (same source).symm⟩
  refine ⟨old, by rw [ifaces, retags.byName]; exact numbered.same, by rw [retags.byName]; exact numbered.named, ?_⟩
  intro port member iface present
  obtain ⟨before, stored, _, _, inside⟩ := old port member
  obtain ⟨source, deeper, equal⟩ := inside iface present
  rw [← equal]
  exact numbered.listed before stored source deeper

theorem update_ifaces_kept (env : Env) (br : Bridge) (wantedPorts : List PortRow) :
    (updateIfaces env br wantedPorts).ifaces = br.ifaces := by
  have one : ∀ (next : Bridge) (row : InterfaceRow), (updateIface env.platform next row).ifaces = next.ifaces := by
    intro next row
    unfold updateIface
    split <;> rfl
  have port : ∀ (next : Bridge) (rows : List InterfaceRow),
      (rows.foldl (updateIface env.platform) next).ifaces = next.ifaces :=
    fun next rows => Keyed.foldl_keeps (updateIface env.platform) (fun after => after.ifaces = next.ifaces)
      (fun later row _ same => (one later row).trans same) rfl
  exact Keyed.foldl_keeps (fun br (port : PortRow) => port.interfaces.foldl (updateIface env.platform) br)
    (fun after => after.ifaces = br.ifaces) (fun later row _ same => (port later row.interfaces).trans same) rfl

theorem row_wants_lists (wantedPorts : List PortRow) (port : String) (iface : Iface)
    (wants : rowWants wantedPorts port iface.self = true) :
    ∃ row, Keyed.lookup PortRow.name port wantedPorts = some row ∧ rowLists row iface := by
  obtain ⟨row, found, inside⟩ := (Option.any_eq_true _ _).mp wants
  obtain ⟨source, kept, named⟩ := List.mem_map.mp (of_decide_eq_true inside)
  exact ⟨row, found, List.mem_map.mpr ⟨source, (List.mem_filter.mp kept).1, named⟩⟩

theorem bridge_del_ports_wanted (env : Env) (br : Bridge) (wantedPorts : List PortRow) (index : BridgeIndex br)
    (numbered : IfacesNumbered br) :
    BridgeIndex (bridgeDelPorts env br wantedPorts) ∧ IfacesNumbered (bridgeDelPorts env br wantedPorts) ∧
      PortsWanted wantedPorts (bridgeDelPorts env br wantedPorts) := by
  have drops := del_ports_drops env.order wantedPorts br index
  have left := drops_index _ _ _ index drops
  obtain ⟨valid, settled⟩ := del_ports_settles env.order wantedPorts br index numbered
  have retags := update_wanted_retags env _ wantedPorts left
  have self := fun iface => retag_rows_self env.platform
    ((env.order.walk br.ports).foldl (fun br port => bridgeDelPort wantedPorts br port.self) br).cfg
    (wantedIfaces env wantedPorts) iface
  have less := retags_lessens _ _ _ self retags (update_ifaces_kept env _ wantedPorts) valid
  refine ⟨retags_index _ _ _ self left retags, less.numbered, lessens_wanted wantedPorts _ _ less ?_⟩
  intro port member
  have wants : ∀ iface ∈ port.ifaces,
      ∃ row, Keyed.lookup PortRow.name port.self.name wantedPorts = some row ∧ rowLists row iface := by
    intro iface present
    have listed := mem_iface_refs.mpr ⟨port, member, iface, present, rfl⟩
    rw [drops_refs _ _ _ drops] at listed
    have kept := (List.mem_filter.mp listed).2
    rw [left.owner port member iface present] at kept
    exact row_wants_lists wantedPorts port.self.name iface kept
  obtain ⟨first, inside⟩ := List.exists_mem_of_ne_nil _ (left.filled port member)
  obtain ⟨row, found, _⟩ := wants first inside
  refine ⟨row, Keyed.lookup_mem PortRow.name found, (settled port member).trans found,
    Keyed.lookup_key PortRow.name found, ?_⟩
  intro iface present
  obtain ⟨other, also, lists⟩ := wants iface present
  rwa [Option.some.inj (found.symm.trans also)]

theorem iface_create_ports (env : Env) (doCreate : IfaceDoCreate) (br : Bridge) (ifaceCfg : InterfaceRow) (portCfg : PortRow)
    (index : BridgeIndex br) (number : Nat) (created : doCreate portCfg ifaceCfg = some (some number)) :
    let after := ifaceCreate env doCreate br ifaceCfg portCfg
    ∃ iface : Iface, iface.self.name = ifaceCfg.name ∧ iface.self.ofpPort = some number ∧
      after.ifaces = iface.self :: br.ifaces ∧ after.ifaceByName = iface.self :: br.ifaceByName ∧
      ∀ port ∈ after.ports, port ∈ br.ports ∨
        (∃ old ∈ br.ports, old.self.name = portCfg.name ∧ port = old.push iface) ∨
        (port.self.name = portCfg.name ∧ port.cfg = some portCfg ∧ port.ifaces = [iface]) := by
  intro after
  unfold after ifaceCreate
  rw [created]
  cases found : br.portLookup portCfg.name with
  | some port =>
      refine ⟨⟨⟨br.nextAddr, ifaceCfg.name, port.self, some number⟩, ifaceGetType env.platform ifaceCfg br.cfg, ifaceCfg⟩,
        rfl, rfl, rfl, rfl, fun later member => ?_⟩
      rcases (Keyed.mem_replace portAddr).mp member with ⟨old, _⟩ | ⟨old, stored, same, rfl⟩
      · exact .inl old
      · refine .inr (.inl ⟨old, stored, ?_, rfl⟩)
        rw [Keyed.unique_mem_eq portAddr index.addrs stored (Keyed.lookup_mem portName found) same]
        exact Keyed.lookup_key portName found
  | none =>
      refine ⟨⟨⟨br.nextAddr + 1, ifaceCfg.name, ⟨br.nextAddr, portCfg.name⟩, some number⟩,
        ifaceGetType env.platform ifaceCfg br.cfg, ifaceCfg⟩, rfl, rfl, rfl, rfl, fun later member => ?_⟩
      rcases (Keyed.mem_replace portAddr).mp member with ⟨either, different⟩ | ⟨either, stored, same, rfl⟩
      · rcases List.mem_cons.mp either with rfl | old
        · exact absurd rfl different
        · exact .inl old
      · rcases List.mem_cons.mp stored with rfl | old
        · exact .inr (.inr ⟨rfl, rfl, rfl⟩)
        · exact absurd same (Nat.ne_of_lt (index.bound either old))

def numbering (ofpPorts : PortRow → InterfaceRow → Option Nat) : IfaceDoCreate :=
  fun port iface => (ofpPorts port iface).map some

theorem add_wanted_iface_wanted (env : Env) (ofpPorts : PortRow → InterfaceRow → Option Nat) (wantedPorts : List PortRow)
    (rows : Keyed.Unique PortRow.name wantedPorts) (br : Bridge) (port : PortRow) (listed : port ∈ wantedPorts)
    (iface : InterfaceRow) (inside : iface ∈ port.interfaces) (index : BridgeIndex br) (numbered : IfacesNumbered br)
    (wanted : PortsWanted wantedPorts br) :
    IfacesNumbered (addWantedIface env (numbering ofpPorts) port br iface) ∧
      PortsWanted wantedPorts (addWantedIface env (numbering ofpPorts) port br iface) := by
  unfold addWantedIface
  split
  · exact ⟨numbered, wanted⟩
  · cases answer : ofpPorts port iface with
    | none =>
        have same : ifaceCreate env (numbering ofpPorts) br iface port = br := by simp [ifaceCreate, numbering, answer]
        rw [same]
        exact ⟨numbered, wanted⟩
    | some number =>
        obtain ⟨new, named, ofpPort, ifaces, byName, ports⟩ :=
          iface_create_ports env (numbering ofpPorts) br iface port index number (congrArg (Option.map some) answer)
        have newNumbered : new.self.ofpPort.isSome := by rw [ofpPort]; rfl
        have newListed : rowLists port new := List.mem_map.mpr ⟨iface, inside, named.symm⟩
        refine ⟨⟨by rw [ifaces, byName, numbered.same], ?_, ?_⟩, ?_⟩
        · rw [byName]
          intro ref member
          rcases List.mem_cons.mp member with rfl | old
          · exact newNumbered
          · exact numbered.named ref old
        · intro later member stored present
          rcases ports later member with old | ⟨old, there, _, rfl⟩ | ⟨_, _, only⟩
          · exact numbered.listed later old stored present
          · rcases List.mem_append.mp present with before | last
            · exact numbered.listed old there stored before
            · rwa [List.mem_singleton.mp last]
          · rw [only] at present
            rwa [List.mem_singleton.mp present]
        · intro later member
          rcases ports later member with old | ⟨old, there, sameName, rfl⟩ | ⟨sameName, cfg, only⟩
          · exact wanted later old
          · obtain ⟨row, known, cfg, rowName, lists⟩ := wanted old there
            obtain rfl := Keyed.unique_mem_eq PortRow.name rows known listed (rowName.trans sameName)
            refine ⟨row, known, cfg, rowName, fun stored present => ?_⟩
            rcases List.mem_append.mp present with before | last
            · exact lists stored before
            · rwa [List.mem_singleton.mp last]
          · refine ⟨port, listed, cfg, sameName.symm, fun stored present => ?_⟩
            rw [only] at present
            rwa [List.mem_singleton.mp present]

theorem bridge_add_ports_wanted (env : Env) (ofpPorts : PortRow → InterfaceRow → Option Nat) (wantedPorts : List PortRow)
    (rows : Keyed.Unique PortRow.name wantedPorts) (br : Bridge) (index : BridgeIndex br) (numbered : IfacesNumbered br)
    (wanted : PortsWanted wantedPorts br) :
    BridgeIndex (bridgeAddPorts env (numbering ofpPorts) br wantedPorts) ∧
      IfacesNumbered (bridgeAddPorts env (numbering ofpPorts) br wantedPorts) ∧
      PortsWanted wantedPorts (bridgeAddPorts env (numbering ofpPorts) br wantedPorts) := by
  refine Keyed.foldl_keeps _ (fun next => BridgeIndex next ∧ IfacesNumbered next ∧ PortsWanted wantedPorts next) ?_
    ⟨index, numbered, wanted⟩
  intro next port walked inv
  have listed : port ∈ wantedPorts := (env.order.mem_walk _ _).mp walked
  refine Keyed.foldl_keeps _ (fun next => BridgeIndex next ∧ IfacesNumbered next ∧ PortsWanted wantedPorts next) ?_ inv
  intro later iface inside here
  exact ⟨(add_wanted_iface_adds env (numbering ofpPorts) later port iface here.1).1,
    add_wanted_iface_wanted env ofpPorts wantedPorts rows later port listed iface inside here.1 here.2.1 here.2.2⟩

-- The interface whose MAC address find_local_hw_addr takes for a port.
def localIface (port : Port) : Option Iface :=
  port.ifaces.foldl (fun iface candidate =>
    match iface with
    | none => some candidate
    | some chosen => if candidate.self.name < chosen.self.name then some candidate else some chosen) none

theorem local_iface_some (port : Port) (filled : port.ifaces ≠ []) : (localIface port).isSome := by
  unfold localIface
  cases listed : port.ifaces with
  | nil => exact absurd listed filled
  | cons first rest =>
      rw [List.foldl_cons]
      refine Keyed.foldl_keeps _ (fun iface : Option Iface => iface.isSome) ?_ rfl
      intro iface candidate _ some_
      obtain ⟨chosen, rfl⟩ := Option.isSome_iff_exists.mp some_
      dsimp only
      split <;> rfl

-- bridge_add_ports with the assertion of iface_create: none is a failure of it.
def ifaceCreateAsserted (env : Env) (doCreate : IfaceDoCreate) (br : Bridge) (ifaceCfg : InterfaceRow) (portCfg : PortRow) :
    Option Bridge :=
  if (br.ifaceLookup ifaceCfg.name).isNone then some (ifaceCreate env doCreate br ifaceCfg portCfg) else none

def addWantedIfaceAsserted (env : Env) (doCreate : IfaceDoCreate) (portCfg : PortRow) (br : Bridge)
    (ifaceCfg : InterfaceRow) : Option Bridge :=
  if (br.ifaceLookup ifaceCfg.name).isSome then some br else ifaceCreateAsserted env doCreate br ifaceCfg portCfg

def bridgeAddPortsAsserted (env : Env) (doCreate : IfaceDoCreate) (br : Bridge) (wantedPorts : List PortRow) :
    Option Bridge :=
  (env.order.walk wantedPorts).foldlM
    (fun br port => port.interfaces.foldlM (addWantedIfaceAsserted env doCreate port) br) br

theorem add_ports_asserted (env : Env) (doCreate : IfaceDoCreate) (br : Bridge) (wantedPorts : List PortRow) :
    bridgeAddPortsAsserted env doCreate br wantedPorts = some (bridgeAddPorts env doCreate br wantedPorts) := by
  have one : ∀ port next iface,
      addWantedIfaceAsserted env doCreate port next iface = pure (addWantedIface env doCreate port next iface) := by
    intro port next iface
    unfold addWantedIfaceAsserted ifaceCreateAsserted addWantedIface
    cases next.ifaceLookup iface.name <;> rfl
  have loop : ∀ (next : Bridge) (port : PortRow), port.interfaces.foldlM (addWantedIfaceAsserted env doCreate port) next =
      pure (port.interfaces.foldl (addWantedIface env doCreate port) next) := by
    intro next port
    rw [funext₂ (one port), List.foldlM_pure]
  unfold bridgeAddPortsAsserted
  rw [funext₂ loop, List.foldlM_pure]
  rfl

structure PortConfig where
  env : Env
  cfg : BridgeRow
  ofproto : Bool
  dump : List OfprotoPort
  ofpPorts : PortRow → InterfaceRow → Option Nat

inductive PortPhase where
  | delPorts
  | deleteOrReconfigure
  | addPorts
deriving DecidableEq, Repr

-- add_del_bridges gives the bridge its row before the first phase.
def portPhaseStep (br : Bridge) (input : PortConfig × PortPhase) : Bridge :=
  let br := { br with ofproto := input.1.ofproto }
  match input.2 with
  | .delPorts =>
      let br := { br with cfg := some input.1.cfg }
      bridgeDelPorts input.1.env br (bridgeCollectWantedPorts br)
  | .deleteOrReconfigure => bridgeDeleteOrReconfigurePorts input.1.env br input.1.dump
  | .addPorts => bridgeAddPorts input.1.env (numbering input.1.ofpPorts) br (bridgeCollectWantedPorts br)

structure PortsSound (br : Bridge) : Prop where
  ports : Keyed.Unique portName br.ports
  ifaces : Keyed.Unique IfaceRef.name br.ifaceByName
  owner : ∀ ref ∈ br.ifaceByName, ∃ port ∈ br.ports, ref.port = port.self ∧ ref ∈ port.ifaces.map Iface.self ∧
    ∀ other ∈ br.ports, ref ∈ other.ifaces.map Iface.self → other = port
  indexed : ∀ port ∈ br.ports, ∀ iface ∈ port.ifaces, iface.self ∈ br.ifaceByName
  numbered : br.ifaces.Perm (br.ifaceByName.filter (fun ref => ref.ofpPort ≠ none))
  filled : ∀ port ∈ br.ports, port.ifaces ≠ []
  represented : ∀ port ∈ br.ports, (localIface port).isSome
  wanted : PortsWanted (bridgeCollectWantedPorts br) br

structure PortsInv (br : Bridge) : Prop where
  index : BridgeIndex br
  numbered : IfacesNumbered br
  wanted : PortsWanted (bridgeCollectWantedPorts br) br

theorem ports_inv_sound (br : Bridge) (inv : PortsInv br) : PortsSound br := by
  have index := inv.index
  refine ⟨index.names, Keyed.unique_perm IfaceRef.name index.index.symm index.ifaceNames, ?_, ?_, ?_, index.filled,
    fun port member => local_iface_some port (index.filled port member), inv.wanted⟩
  · intro ref member
    obtain ⟨port, present, iface, inside, rfl⟩ := mem_iface_refs.mp (index.index.mem_iff.mp member)
    have owner := index.owner port present iface inside
    refine ⟨port, present, owner, List.mem_map_of_mem inside, fun other there listed => ?_⟩
    obtain ⟨stored, deeper, same⟩ := List.mem_map.mp listed
    refine Keyed.unique_mem_eq portAddr index.addrs there present ?_
    rw [← iface_owner_addr br index other there stored deeper, same, iface_owner_addr br index port present iface inside]
  · exact fun port member iface present => index.index.mem_iff.mpr (mem_iface_refs.mpr ⟨port, member, iface, present, rfl⟩)
  · have all : br.ifaceByName.filter (fun ref => ref.ofpPort ≠ none) = br.ifaceByName :=
      List.filter_eq_self.mpr (fun ref member => by simpa [Option.isSome_iff_ne_none] using inv.numbered.named ref member)
    rw [all, inv.numbered.same]

theorem ports_inv_start (normalizeType : String → String) (row : BridgeRow) : PortsInv (bridgeCreate normalizeType row) :=
  ⟨port_index_nil 0, ⟨rfl, (fun _ member => nomatch member), (fun _ member => nomatch member)⟩,
    (fun _ member => nomatch member)⟩

theorem adds_wanted_same (br after : Bridge) (pairs : List (PortRow × InterfaceRow)) (adds : Adds br after pairs) :
    bridgeCollectWantedPorts after = bridgeCollectWantedPorts br := bridge_wanted_congr br after adds.name adds.cfg

theorem frame_wanted_same (br after : Bridge) (frame : PortFrame br after) :
    bridgeCollectWantedPorts after = bridgeCollectWantedPorts br := bridge_wanted_congr br after frame.name frame.cfg

theorem port_phase_step_inv (br : Bridge) (input : PortConfig × PortPhase) (inv : PortsInv br) :
    PortsInv (portPhaseStep br input) := by
  obtain ⟨config, phase⟩ := input
  cases phase with
  | delPorts =>
      let next : Bridge := { br with ofproto := config.ofproto, cfg := some config.cfg }
      have numbered : IfacesNumbered next := ⟨inv.numbered.same, inv.numbered.named, inv.numbered.listed⟩
      obtain ⟨index, valid, wanted⟩ :=
        bridge_del_ports_wanted config.env next (bridgeCollectWantedPorts next) inv.index numbered
      have frame := bridge_del_ports_frame config.env next (bridgeCollectWantedPorts next) inv.index
      exact ⟨index, valid, (frame_wanted_same next _ frame).symm ▸ wanted⟩
  | deleteOrReconfigure =>
      let next : Bridge := { br with ofproto := config.ofproto }
      have numbered : IfacesNumbered next := ⟨inv.numbered.same, inv.numbered.named, inv.numbered.listed⟩
      have drops := delete_or_reconfigure_drops ofprotoPortKept config.env.order next config.dump inv.index
      have less := delete_or_reconfigure_lessens ofprotoPortKept config.env.order next config.dump numbered
      refine ⟨drops_index next _ _ inv.index drops, less.numbered, ?_⟩
      exact (frame_wanted_same next _ drops.frame).symm ▸ lessens_wanted _ next _ less inv.wanted
  | addPorts =>
      let next : Bridge := { br with ofproto := config.ofproto }
      have numbered : IfacesNumbered next := ⟨inv.numbered.same, inv.numbered.named, inv.numbered.listed⟩
      obtain ⟨index, valid, wanted⟩ := bridge_add_ports_wanted config.env config.ofpPorts (bridgeCollectWantedPorts next)
        (bridge_wanted_unique next) next inv.index numbered inv.wanted
      have adds := (add_ports_adds config.env (numbering config.ofpPorts) next (bridgeCollectWantedPorts next) inv.index).2
      exact ⟨index, valid, (adds_wanted_same next _ _ adds).symm ▸ wanted⟩

def AssertionHolds (br : Bridge) (input : PortConfig × PortPhase) : Prop :=
  input.2 = .addPorts → bridgeAddPortsAsserted input.1.env (numbering input.1.ofpPorts)
    { br with ofproto := input.1.ofproto } (bridgeCollectWantedPorts { br with ofproto := input.1.ofproto }) = some (portPhaseStep br input)

theorem ports_stay_sound (normalizeType : String → String) (row : BridgeRow) (inputs : List (PortConfig × PortPhase)) :
    Runs.Always portPhaseStep PortsSound (bridgeCreate normalizeType row) inputs ∧
      Runs.Along portPhaseStep AssertionHolds (bridgeCreate normalizeType row) inputs := by
  have valid : Runs.Along portPhaseStep (fun _ _ => True) (bridgeCreate normalizeType row) inputs := fun _ _ _ _ => trivial
  have inv := Runs.invariant_always (fun br input here _ => port_phase_step_inv br input here)
    (ports_inv_start normalizeType row) valid
  refine ⟨Runs.always_mono ports_inv_sound inv, ?_⟩
  intro before input after _ added
  obtain ⟨config, phase⟩ := input
  obtain rfl : phase = .addPorts := added
  exact add_ports_asserted config.env (numbering config.ofpPorts) _ _

end OpsSwitchd
