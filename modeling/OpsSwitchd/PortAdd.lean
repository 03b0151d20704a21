import OpsSwitchd.PortPhases

set_option autoImplicit false

namespace OpsSwitchd

theorem port_index_grow (nextAddr later : Nat) (byName : List IfaceRef) (ports others : List Port)
    (index : PortIndex nextAddr byName ports) (ref : IfaceRef) (more : (ifaceRefs others).Perm (ref :: ifaceRefs ports))
    (fresh : ∀ other ∈ ifaceRefs ports, other.name ≠ ref.name) (unused : nextAddr ≤ ref.addr) (used : ref.addr < later)
    (addrs : Keyed.Unique portAddr others) (names : Keyed.Unique portName others)
    (owner : ∀ port ∈ others, ∀ iface ∈ port.ifaces, iface.self.port = port.self)
    (filled : ∀ port ∈ others, port.ifaces ≠ []) (bound : ∀ port ∈ others, portAddr port < later) :
    PortIndex later (ref :: byName) others := by
  have apart : ∀ other ∈ ifaceRefs ports, other.addr ≠ ref.addr := fun other member =>
    Nat.ne_of_lt (Nat.lt_of_lt_of_le (index.ifaceBound other member) unused)
  refine ⟨addrs, names, ?_, ?_, (index.index.cons ref).trans more.symm, owner, filled, bound, ?_⟩
  · exact Keyed.unique_perm IfaceRef.addr more.symm (Keyed.unique_cons IfaceRef.addr index.ifaceAddrs apart)
  · exact Keyed.unique_perm IfaceRef.name more.symm (Keyed.unique_cons IfaceRef.name index.ifaceNames fresh)
  · intro other member
    rcases List.mem_cons.mp (more.mem_iff.mp member) with rfl | old
    · exact used
    · exact Nat.lt_trans (index.ifaceBound other old) (Nat.lt_of_le_of_lt unused used)

def Port.push (iface : Iface) (port : Port) : Port := { port with ifaces := port.ifaces ++ [iface] }

theorem push_refs (nextAddr : Nat) (byName : List IfaceRef) (ports : List Port) (index : PortIndex nextAddr byName ports)
    (port : Port) (member : port ∈ ports) (iface : Iface) :
    (ifaceRefs (Keyed.replace portAddr (portAddr port) (Port.push iface) ports)).Perm (iface.self :: ifaceRefs ports) := by
  have pushed := (Keyed.replace_perm portAddr index.addrs member (Port.push iface)).flatMap_right
    (fun port : Port => port.ifaces.map Iface.self)
  have before := (Keyed.perm_cons_remove portAddr index.addrs member).flatMap_right
    (fun port : Port => port.ifaces.map Iface.self)
  refine pushed.trans (List.Perm.trans ?_ (before.symm.cons iface.self))
  simp only [List.flatMap_cons, Port.push, List.map_append, List.map_cons, List.map_nil, List.append_assoc]
  exact List.perm_middle

theorem port_index_push (nextAddr : Nat) (byName : List IfaceRef) (ports : List Port)
    (index : PortIndex nextAddr byName ports) (port : Port) (member : port ∈ ports) (iface : Iface)
    (owner : iface.self.port = port.self) (addr : iface.self.addr = nextAddr)
    (fresh : ∀ other ∈ ifaceRefs ports, other.name ≠ iface.self.name) :
    PortIndex (nextAddr + 1) (iface.self :: byName) (Keyed.replace portAddr (portAddr port) (Port.push iface) ports) := by
  have old : ∀ later ∈ Keyed.replace portAddr (portAddr port) (Port.push iface) ports,
      later ∈ ports ∨ later = port.push iface := by
    intro later found
    rcases (Keyed.mem_replace portAddr).mp found with ⟨stays, _⟩ | ⟨other, stored, same, rfl⟩
    · exact .inl stays
    · rw [Keyed.unique_mem_eq portAddr index.addrs stored member same]
      exact .inr rfl
  refine port_index_grow nextAddr (nextAddr + 1) byName ports _ index iface.self
    (push_refs nextAddr byName ports index port member iface) fresh (Nat.le_of_eq addr.symm) (by omega) ?_ ?_ ?_ ?_ ?_
  · exact Keyed.unique_replace portAddr index.addrs _ _ (fun _ _ _ => rfl)
  · rw [Keyed.Unique, Keyed.map_replace portAddr portName _ (Port.push iface) ports (fun _ _ _ => rfl)]
    exact index.names
  · intro later found stored inside
    rcases old later found with stays | rfl
    · exact index.owner later stays stored inside
    · rcases List.mem_append.mp inside with before | last
      · exact index.owner port member stored before
      · rw [List.mem_singleton.mp last]
        exact owner
  · intro later found
    rcases old later found with stays | rfl
    · exact index.filled later stays
    · simp [Port.push]
  · intro later found
    rcases old later found with stays | rfl
    · exact Nat.lt_succ_of_lt (index.bound later stays)
    · exact Nat.lt_succ_of_lt (index.bound port member)

theorem port_index_cons (nextAddr : Nat) (byName : List IfaceRef) (ports : List Port)
    (index : PortIndex nextAddr byName ports) (port : PortRef) (cfg : Option PortRow) (iface : Iface)
    (addr : port.addr = nextAddr) (name : ∀ other ∈ ports, portName other ≠ port.name) (owner : iface.self.port = port)
    (ifaceAddr : iface.self.addr = nextAddr + 1) (fresh : ∀ other ∈ ifaceRefs ports, other.name ≠ iface.self.name) :
    PortIndex (nextAddr + 1 + 1) (iface.self :: byName) (⟨port, cfg, [iface]⟩ :: ports) := by
  refine port_index_grow nextAddr (nextAddr + 1 + 1) byName ports _ index iface.self (List.Perm.refl _) fresh
    (by omega) (by omega) ?_ ?_ ?_ ?_ ?_
  · refine Keyed.unique_cons portAddr index.addrs (fun other member => ?_)
    have old := index.bound other member
    exact Nat.ne_of_lt (Nat.lt_of_lt_of_eq old addr.symm)
  · exact Keyed.unique_cons portName index.names name
  · intro later found stored inside
    rcases List.mem_cons.mp found with rfl | old
    · rw [List.mem_singleton.mp inside]
      exact owner
    · exact index.owner later old stored inside
  · intro later found
    rcases List.mem_cons.mp found with rfl | old
    · exact List.cons_ne_nil _ _
    · exact index.filled later old
  · intro later found
    rcases List.mem_cons.mp found with rfl | old
    · rw [portAddr, addr]
      omega
    · have bound := index.bound later old
      omega

-- What the interfaces added under one name make of the port of that name: a
-- port that was there keeps its struct, a missing one is created with the
-- first interface that can be.
def PortGrown (first : Nat) (pairs : List (PortRow × InterfaceRow)) (before after : Option Port) : Prop :=
  match before, pairs with
  | some port, _ => ∃ later, after = some later ∧ later.self = port.self ∧ later.cfg = port.cfg ∧
      later.ifaces.map Iface.cfg = port.ifaces.map Iface.cfg ++ pairs.map Prod.snd
  | none, [] => after = none
  | none, (row, _) :: _ => ∃ later, after = some later ∧ first ≤ later.self.addr ∧ later.cfg = some row ∧
      later.ifaces.map Iface.cfg = pairs.map Prod.snd

theorem port_grown_refl (first : Nat) (port : Option Port) : PortGrown first [] port port := by
  cases port with
  | none => rfl
  | some port => exact ⟨port, rfl, rfl, rfl, (List.append_nil _).symm⟩

theorem port_grown_trans (first second : Nat) (pairs more : List (PortRow × InterfaceRow)) (before middle after : Option Port)
    (later : first ≤ second) (left : PortGrown first pairs before middle) (right : PortGrown second more middle after) :
    PortGrown first (pairs ++ more) before after := by
  cases before with
  | some port =>
      obtain ⟨mid, rfl, self, cfg, ifaces⟩ := left
      obtain ⟨last, rfl, self', cfg', ifaces'⟩ := right
      exact ⟨last, rfl, self'.trans self, cfg'.trans cfg, by rw [ifaces', ifaces, List.map_append, List.append_assoc]⟩
  | none =>
      cases pairs with
      | nil =>
          obtain rfl : middle = none := left
          cases more with
          | nil => exact right
          | cons pair rest =>
              obtain ⟨last, rfl, addr, cfg, ifaces⟩ := right
              exact ⟨last, rfl, Nat.le_trans later addr, cfg, ifaces⟩
      | cons pair rest =>
          obtain ⟨mid, rfl, addr, cfg, ifaces⟩ := left
          obtain ⟨last, rfl, self', cfg', ifaces'⟩ := right
          exact ⟨last, rfl, self' ▸ addr, cfg'.trans cfg, by rw [ifaces', ifaces, ← List.map_append]⟩

def pairsOf (name : String) (pairs : List (PortRow × InterfaceRow)) : List (PortRow × InterfaceRow) :=
  pairs.filter (fun pair => pair.1.name = name)

structure Adds (br after : Bridge) (pairs : List (PortRow × InterfaceRow)) : Prop where
  name : after.name = br.name
  cfg : after.cfg = br.cfg
  ofproto : after.ofproto = br.ofproto
  calls : after.calls = br.calls
  nextAddr : br.nextAddr ≤ after.nextAddr
  ifaces : ∀ name, (after.ifaceLookup name).isSome =
    ((br.ifaceLookup name).isSome || pairs.any (fun pair => pair.2.name = name))
  ports : ∀ name, PortGrown br.nextAddr (pairsOf name pairs) (br.portLookup name) (after.portLookup name)

theorem adds_refl (br : Bridge) : Adds br br [] :=
  ⟨rfl, rfl, rfl, rfl, Nat.le_refl _, fun _ => (Bool.or_false _).symm, fun name => port_grown_refl _ (br.portLookup name)⟩

theorem adds_trans (br middle after : Bridge) (pairs more : List (PortRow × InterfaceRow)) (first : Adds br middle pairs)
    (second : Adds middle after more) : Adds br after (pairs ++ more) := by
  refine ⟨second.name.trans first.name, second.cfg.trans first.cfg, second.ofproto.trans first.ofproto,
    second.calls.trans first.calls, Nat.le_trans first.nextAddr second.nextAddr, ?_, ?_⟩
  · intro name
    rw [second.ifaces, first.ifaces, List.any_append, Bool.or_assoc]
  · intro name
    rw [pairsOf, List.filter_append]
    exact port_grown_trans _ _ _ _ _ _ _ first.nextAddr (first.ports name) (second.ports name)

theorem pairs_of_single (name : String) (port : PortRow) (iface : InterfaceRow) :
    pairsOf name [(port, iface)] = if port.name = name then [(port, iface)] else [] := by
  by_cases same : port.name = name <;> simp [pairsOf, same]

theorem replace_port_named (br : Bridge) (index : BridgeIndex br) (port : Port) (member : port ∈ br.ports) (f : Port → Port) :
    Keyed.replace portAddr (portAddr port) f br.ports = Keyed.replace portName (portName port) f br.ports := by
  refine List.map_congr_left (fun other stored => ?_)
  by_cases same : other = port
  · rw [same, if_pos rfl, if_pos rfl]
  · rw [if_neg (fun equal => same (Keyed.unique_mem_eq portAddr index.addrs stored member equal)),
      if_neg (fun equal => same (Keyed.unique_mem_eq portName index.names stored member equal))]

theorem iface_lookup_push (br : Bridge) (ref : IfaceRef) (name : String) :
    (Keyed.lookup IfaceRef.name name (ref :: br.ifaceByName)).isSome = ((br.ifaceLookup name).isSome || ref.name = name) := by
  rw [Keyed.lookup_cons]
  by_cases same : ref.name = name
  · simp [same]
  · simp only [same, if_false, decide_false, Bool.or_false]
    rfl

theorem port_grown_single (br : Bridge) (portCfg : PortRow) (ifaceCfg : InterfaceRow) (after : String → Option Port)
    (grown : Port) (lookup : ∀ name, after name = if portCfg.name = name then some grown else br.portLookup name)
    (here : PortGrown br.nextAddr [(portCfg, ifaceCfg)] (br.portLookup portCfg.name) (some grown)) (name : String) :
    PortGrown br.nextAddr (pairsOf name [(portCfg, ifaceCfg)]) (br.portLookup name) (after name) := by
  rw [lookup, pairs_of_single]
  split
  · next same =>
      subst same
      exact here
  · exact port_grown_refl _ _

theorem push_port_lookup (br : Bridge) (index : BridgeIndex br) (port : Port) (member : port ∈ br.ports)
    (found : br.portLookup port.self.name = some port) (iface : Iface) (name : String) :
    Keyed.lookup portName name (Keyed.replace portAddr (portAddr port) (Port.push iface) br.ports) =
      if port.self.name = name then some (port.push iface) else br.portLookup name := by
  rw [replace_port_named br index port member]
  split
  · next same =>
      subst same
      exact (Keyed.lookup_replace_self portName _ (Port.push iface) _ (fun _ _ _ => rfl)).trans
        (congrArg (Option.map (Port.push iface)) found)
  · next different => exact Keyed.lookup_replace_other portName (Ne.symm different) _ _ (fun _ _ _ => rfl)

theorem iface_create_adds (env : Env) (doCreate : IfaceDoCreate) (br : Bridge) (ifaceCfg : InterfaceRow) (portCfg : PortRow)
    (index : BridgeIndex br) (fresh : br.ifaceLookup ifaceCfg.name = none) (ofpPort : Option Nat)
    (created : doCreate portCfg ifaceCfg = some ofpPort) :
    BridgeIndex (ifaceCreate env doCreate br ifaceCfg portCfg) ∧
      Adds br (ifaceCreate env doCreate br ifaceCfg portCfg) [(portCfg, ifaceCfg)] := by
  have unused := (iface_lookup_none br index ifaceCfg.name).mp fresh
  unfold ifaceCreate
  rw [created]
  cases found : br.portLookup portCfg.name with
  | some port =>
      have member : port ∈ br.ports := Keyed.lookup_mem portName found
      have named : port.self.name = portCfg.name := Keyed.lookup_key portName found
      let iface : Iface := ⟨⟨br.nextAddr, ifaceCfg.name, port.self, ofpPort⟩, ifaceGetType env.platform ifaceCfg br.cfg, ifaceCfg⟩
      refine ⟨port_index_push br.nextAddr br.ifaceByName br.ports index port member iface rfl rfl unused, rfl, rfl, rfl, rfl,
        Nat.le_succ _, ?_, ?_⟩
      · intro name
        rw [List.any_cons, List.any_nil, Bool.or_false]
        exact iface_lookup_push br iface.self name
      · refine port_grown_single br portCfg ifaceCfg _ (port.push iface) (fun name => ?_) ?_
        · have pushed := push_port_lookup br index port member (by rw [named]; exact found) iface name
          rw [named] at pushed
          exact pushed
        · rw [found]
          exact ⟨port.push iface, rfl, rfl, rfl, by simp [Port.push, iface]⟩
  | none =>
      have absent : ∀ other ∈ br.ports, portName other ≠ portCfg.name := (Keyed.lookup_none_iff portName).mp found
      let ref : PortRef := ⟨br.nextAddr, portCfg.name⟩
      let iface : Iface := ⟨⟨br.nextAddr + 1, ifaceCfg.name, ref, ofpPort⟩, ifaceGetType env.platform ifaceCfg br.cfg, ifaceCfg⟩
      have ports : Keyed.replace portAddr br.nextAddr (Port.push iface) (⟨ref, some portCfg, []⟩ :: br.ports) =
          ⟨ref, some portCfg, [iface]⟩ :: br.ports := by
        refine congrArg₂ List.cons (if_pos rfl) ((List.map_congr_left (fun other stored => ?_)).trans (List.map_id _))
        exact if_neg (Nat.ne_of_lt (index.bound other stored))
      have valid := port_index_cons br.nextAddr br.ifaceByName br.ports index ref (some portCfg) iface rfl absent rfl rfl unused
      rw [← ports] at valid
      refine ⟨valid, rfl, rfl, rfl, rfl, Nat.le_succ_of_le (Nat.le_succ _), ?_, ?_⟩
      · intro name
        rw [List.any_cons, List.any_nil, Bool.or_false]
        exact iface_lookup_push br iface.self name
      · refine port_grown_single br portCfg ifaceCfg _ ⟨ref, some portCfg, [iface]⟩ (fun name => ?_) ?_
        · have lookup := congrArg (Keyed.lookup portName name) ports
          rw [Keyed.lookup_cons] at lookup
          exact lookup
        · rw [found]
          exact ⟨_, rfl, Nat.le_refl _, rfl, rfl⟩

def createdPairs (doCreate : IfaceDoCreate) (present : String → Bool) :
    List (PortRow × InterfaceRow) → List (PortRow × InterfaceRow)
  | [] => []
  | (port, iface) :: rest =>
      if present iface.name || (doCreate port iface).isNone then createdPairs doCreate present rest
      else (port, iface) :: createdPairs doCreate (fun name => present name || iface.name = name) rest

def wantedPairs (env : Env) (wantedPorts : List PortRow) : List (PortRow × InterfaceRow) :=
  (env.order.walk wantedPorts).flatMap (fun port => port.interfaces.map (fun iface => (port, iface)))

theorem add_wanted_iface_adds (env : Env) (doCreate : IfaceDoCreate) (br : Bridge) (port : PortRow) (iface : InterfaceRow)
    (index : BridgeIndex br) :
    BridgeIndex (addWantedIface env doCreate port br iface) ∧ Adds br (addWantedIface env doCreate port br iface)
      (if (br.ifaceLookup iface.name).isSome || (doCreate port iface).isNone then [] else [(port, iface)]) := by
  unfold addWantedIface
  cases known : br.ifaceLookup iface.name with
  | some ref => exact ⟨index, adds_refl br⟩
  | none =>
      cases answer : doCreate port iface with
      | none =>
          have same : ifaceCreate env doCreate br iface port = br := by simp [ifaceCreate, answer]
          simpa [same] using And.intro index (adds_refl br)
      | some ofpPort => exact iface_create_adds env doCreate br iface port index known ofpPort answer

theorem add_wanted_ifaces_adds (env : Env) (doCreate : IfaceDoCreate) (pairs : List (PortRow × InterfaceRow)) (br : Bridge)
    (index : BridgeIndex br) :
    let after := pairs.foldl (fun br pair => addWantedIface env doCreate pair.1 br pair.2) br
    BridgeIndex after ∧ Adds br after (createdPairs doCreate (fun name => (br.ifaceLookup name).isSome) pairs) := by
  induction pairs generalizing br with
  | nil => exact ⟨index, adds_refl br⟩
  | cons pair rest ih =>
      obtain ⟨port, iface⟩ := pair
      obtain ⟨valid, added⟩ := add_wanted_iface_adds env doCreate br port iface index
      obtain ⟨last, later⟩ := ih (addWantedIface env doCreate port br iface) valid
      refine ⟨last, ?_⟩
      have whole := adds_trans _ _ _ _ _ added later
      simp only [added.ifaces] at whole
      rw [createdPairs]
      split
      · next skipped =>
          rw [if_pos skipped] at whole
          simpa using whole
      · next taken =>
          rw [if_neg taken] at whole
          simpa using whole

theorem add_ports_adds (env : Env) (doCreate : IfaceDoCreate) (br : Bridge) (wantedPorts : List PortRow)
    (index : BridgeIndex br) :
    BridgeIndex (bridgeAddPorts env doCreate br wantedPorts) ∧ Adds br (bridgeAddPorts env doCreate br wantedPorts)
      (createdPairs doCreate (fun name => (br.ifaceLookup name).isSome) (wantedPairs env wantedPorts)) := by
  have flat : bridgeAddPorts env doCreate br wantedPorts =
      (wantedPairs env wantedPorts).foldl (fun br pair => addWantedIface env doCreate pair.1 br pair.2) br := by
    rw [wantedPairs, List.foldl_flatMap]
    simp only [List.foldl_map]
    rfl
  rw [flat]
  exact add_wanted_ifaces_adds env doCreate _ br index

end OpsSwitchd
