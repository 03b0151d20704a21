import OpsSwitchd.Port

set_option autoImplicit false

namespace OpsSwitchd

def ifaceRefs (ports : List Port) : List IfaceRef := ports.flatMap (fun port => port.ifaces.map Iface.self)

def portName (port : Port) : String := port.self.name

-- The interface hash is an index of the interface lists of the ports; every
-- struct is allocated once, and no port is without an interface.
structure PortIndex (nextAddr : Nat) (byName : List IfaceRef) (ports : List Port) : Prop where
  addrs : Keyed.Unique portAddr ports
  names : Keyed.Unique portName ports
  ifaceAddrs : Keyed.Unique IfaceRef.addr (ifaceRefs ports)
  ifaceNames : Keyed.Unique IfaceRef.name (ifaceRefs ports)
  index : byName.Perm (ifaceRefs ports)
  owner : ∀ port ∈ ports, ∀ iface ∈ port.ifaces, iface.self.port = port.self
  filled : ∀ port ∈ ports, port.ifaces ≠ []
  bound : ∀ port ∈ ports, portAddr port < nextAddr
  ifaceBound : ∀ iface ∈ ifaceRefs ports, iface.addr < nextAddr

abbrev BridgeIndex (br : Bridge) : Prop := PortIndex br.nextAddr br.ifaceByName br.ports

theorem port_index_nil (nextAddr : Nat) : PortIndex nextAddr [] [] :=
  ⟨List.nodup_nil, List.nodup_nil, List.nodup_nil, List.nodup_nil, List.Perm.refl _, (fun _ member => nomatch member),
    (fun _ member => nomatch member), (fun _ member => nomatch member), (fun _ member => nomatch member)⟩

theorem mem_iface_refs {ports : List Port} {ref : IfaceRef} :
    ref ∈ ifaceRefs ports ↔ ∃ port ∈ ports, ∃ iface ∈ port.ifaces, iface.self = ref := by
  simp [ifaceRefs]

theorem iface_refs_cons (port : Port) (rest : List Port) :
    ifaceRefs (port :: rest) = port.ifaces.map Iface.self ++ ifaceRefs rest := rfl

def Port.keeping (keep : IfaceRef → Bool) (port : Port) : Port :=
  { port with ifaces := port.ifaces.filter (fun iface => keep iface.self) }

def keepPort (keep : IfaceRef → Bool) (port : Port) : Option Port :=
  if (port.keeping keep).ifaces = [] then none else some (port.keeping keep)

def keepPorts (keep : IfaceRef → Bool) (ports : List Port) : List Port := ports.filterMap (keepPort keep)

theorem mem_keep_ports {keep : IfaceRef → Bool} {ports : List Port} {port : Port} :
    port ∈ keepPorts keep ports ↔ ∃ before ∈ ports, (before.keeping keep).ifaces ≠ [] ∧ before.keeping keep = port := by
  simp [keepPorts, keepPort, List.mem_filterMap]

theorem keep_ports_refs (keep : IfaceRef → Bool) (ports : List Port) :
    ifaceRefs (keepPorts keep ports) = (ifaceRefs ports).filter keep := by
  induction ports with
  | nil => rfl
  | cons port rest ih =>
      have inside : (port.ifaces.map Iface.self).filter keep = (port.keeping keep).ifaces.map Iface.self := by
        rw [List.filter_map]
        rfl
      rw [iface_refs_cons, List.filter_append, ← ih, inside, keepPorts, List.filterMap_cons, keepPort]
      by_cases empty : (port.keeping keep).ifaces = []
      · rw [if_pos empty, empty]
        rfl
      · rw [if_neg empty]
        rfl

theorem keep_ports_sublist {β : Type} (g : Port → β) (keep : IfaceRef → Bool) (same : ∀ port, g (port.keeping keep) = g port)
    (ports : List Port) : ((keepPorts keep ports).map g).Sublist (ports.map g) := by
  induction ports with
  | nil => exact List.Sublist.refl _
  | cons port rest ih =>
      rw [keepPorts, List.filterMap_cons, keepPort]
      by_cases empty : (port.keeping keep).ifaces = []
      · rw [if_pos empty]
        exact ih.cons _
      · rw [if_neg empty, List.map_cons, List.map_cons, same]
        exact ih.cons_cons _

theorem keep_ports_comp (first second : IfaceRef → Bool) (ports : List Port) :
    keepPorts second (keepPorts first ports) = keepPorts (fun ref => first ref && second ref) ports := by
  unfold keepPorts
  rw [List.filterMap_filterMap]
  refine List.filterMap_congr (fun port _ => ?_)
  have both : (port.keeping first).keeping second = port.keeping (fun ref => first ref && second ref) := by
    simp [Port.keeping, List.filter_filter, Bool.and_comm]
  unfold keepPort
  by_cases empty : (port.keeping first).ifaces = []
  · have nothing : (port.keeping (fun ref => first ref && second ref)).ifaces = [] := by
      rw [← both, Port.keeping, empty]
      rfl
    rw [if_pos empty, if_pos nothing]
    rfl
  · rw [if_neg empty, Option.bind_some, both]

theorem keep_ports_congr (keep other : IfaceRef → Bool) (ports : List Port)
    (same : ∀ ref ∈ ifaceRefs ports, keep ref = other ref) : keepPorts keep ports = keepPorts other ports := by
  refine List.filterMap_congr (fun port member => ?_)
  have inside : port.keeping keep = port.keeping other := by
    unfold Port.keeping
    congr 1
    exact List.filter_congr (fun iface present => same _ (mem_iface_refs.mpr ⟨port, member, iface, present, rfl⟩))
  rw [keepPort, keepPort, inside]

theorem keep_port_all (keep : IfaceRef → Bool) (port : Port) (filled : port.ifaces ≠ [])
    (all : ∀ iface ∈ port.ifaces, keep iface.self = true) : keepPort keep port = some port := by
  have same : port.keeping keep = port := by
    unfold Port.keeping
    rw [List.filter_eq_self.mpr all]
  rw [keepPort, same, if_neg filled]

theorem keep_port_none (keep : IfaceRef → Bool) (port : Port) (no : ∀ iface ∈ port.ifaces, keep iface.self = false) :
    keepPort keep port = none := by
  refine if_pos (List.filter_eq_nil_iff.mpr (fun iface member => ?_))
  simp [no iface member]

theorem port_index_keep (nextAddr : Nat) (byName : List IfaceRef) (ports : List Port) (keep : IfaceRef → Bool)
    (index : PortIndex nextAddr byName ports) : PortIndex nextAddr (byName.filter keep) (keepPorts keep ports) := by
  have refs := keep_ports_refs keep ports
  refine ⟨index.addrs.sublist (keep_ports_sublist portAddr keep (fun _ => rfl) ports),
    index.names.sublist (keep_ports_sublist portName keep (fun _ => rfl) ports), ?_, ?_, ?_, ?_, ?_, ?_, ?_⟩
  · rw [refs]
    exact Keyed.unique_filter IfaceRef.addr index.ifaceAddrs keep
  · rw [refs]
    exact Keyed.unique_filter IfaceRef.name index.ifaceNames keep
  · rw [refs]
    exact index.index.filter keep
  · intro port member iface present
    obtain ⟨before, old, _, rfl⟩ := mem_keep_ports.mp member
    exact index.owner before old iface (List.mem_filter.mp present).1
  · intro port member
    obtain ⟨before, _, some_, rfl⟩ := mem_keep_ports.mp member
    exact some_
  · intro port member
    obtain ⟨before, old, _, rfl⟩ := mem_keep_ports.mp member
    exact index.bound before old
  · intro iface member
    rw [refs] at member
    exact index.ifaceBound iface (List.mem_filter.mp member).1

def Port.bare (port : Port) : Port := { port with cfg := none }

theorem bare_refs (ports : List Port) : ifaceRefs (ports.map Port.bare) = ifaceRefs ports := by
  simp only [ifaceRefs, List.flatMap_map]
  rfl

theorem keep_ports_bare (keep : IfaceRef → Bool) (ports : List Port) :
    keepPorts keep (ports.map Port.bare) = (keepPorts keep ports).map Port.bare := by
  unfold keepPorts
  rw [List.filterMap_map, List.map_filterMap]
  refine List.filterMap_congr (fun port _ => ?_)
  unfold keepPort
  simp only [Function.comp_apply]
  by_cases empty : (port.keeping keep).ifaces = []
  · rw [if_pos empty, if_pos (show (port.bare.keeping keep).ifaces = [] from empty)]
    rfl
  · rw [if_neg empty, if_neg (show ¬ (port.bare.keeping keep).ifaces = [] from empty)]
    rfl

theorem port_index_bare (nextAddr : Nat) (byName : List IfaceRef) (ports : List Port) :
    PortIndex nextAddr byName (ports.map Port.bare) ↔ PortIndex nextAddr byName ports := by
  have addrs : (ports.map Port.bare).map portAddr = ports.map portAddr := by simp [Port.bare, portAddr]
  have names : (ports.map Port.bare).map portName = ports.map portName := by simp [Port.bare, portName]
  constructor
  · intro index
    obtain ⟨a, n, ia, inm, perm, owner, filled, bound, ifaceBound⟩ := index
    rw [Keyed.Unique, addrs] at a
    rw [Keyed.Unique, names] at n
    rw [bare_refs] at ia inm perm ifaceBound
    have lift : ∀ port ∈ ports, port.bare ∈ ports.map Port.bare := fun port member => List.mem_map.mpr ⟨port, member, rfl⟩
    exact ⟨a, n, ia, inm, perm, fun port member => owner port.bare (lift port member),
      fun port member => filled port.bare (lift port member), fun port member => bound port.bare (lift port member), ifaceBound⟩
  · intro index
    refine ⟨by rw [Keyed.Unique, addrs]; exact index.addrs, by rw [Keyed.Unique, names]; exact index.names,
      by rw [bare_refs]; exact index.ifaceAddrs, by rw [bare_refs]; exact index.ifaceNames,
      by rw [bare_refs]; exact index.index, ?_, ?_, ?_, by rw [bare_refs]; exact index.ifaceBound⟩
    · intro port member
      obtain ⟨before, old, rfl⟩ := List.mem_map.mp member
      exact index.owner before old
    · intro port member
      obtain ⟨before, old, rfl⟩ := List.mem_map.mp member
      exact index.filled before old
    · intro port member
      obtain ⟨before, old, rfl⟩ := List.mem_map.mp member
      exact index.bound before old

structure PortFrame (br after : Bridge) : Prop where
  name : after.name = br.name
  cfg : after.cfg = br.cfg
  ofproto : after.ofproto = br.ofproto
  nextAddr : after.nextAddr = br.nextAddr
  calls : ∃ more, after.calls = br.calls ++ more ∧ ∀ port, .bundleRegister port ∉ more

theorem port_frame_same (br after : Bridge) (name : after.name = br.name) (cfg : after.cfg = br.cfg)
    (ofproto : after.ofproto = br.ofproto) (nextAddr : after.nextAddr = br.nextAddr) (calls : after.calls = br.calls) :
    PortFrame br after :=
  ⟨name, cfg, ofproto, nextAddr, [], by rw [calls, List.append_nil], fun _ member => nomatch member⟩

theorem port_frame_refl (br : Bridge) : PortFrame br br := port_frame_same br br rfl rfl rfl rfl rfl

theorem port_frame_trans (br middle after : Bridge) (first : PortFrame br middle) (second : PortFrame middle after) :
    PortFrame br after := by
  obtain ⟨calls, grown, quiet⟩ := first.calls
  obtain ⟨more, longer, also⟩ := second.calls
  refine ⟨second.name.trans first.name, second.cfg.trans first.cfg, second.ofproto.trans first.ofproto,
    second.nextAddr.trans first.nextAddr, calls ++ more, by rw [longer, grown, List.append_assoc], ?_⟩
  intro port member
  rcases List.mem_append.mp member with left | right
  · exact quiet port left
  · exact also port right

theorem port_frame_emit (br : Bridge) (call : OfprotoCall) (other : ∀ port, call ≠ .bundleRegister port) :
    PortFrame br (br.emit call) :=
  ⟨rfl, rfl, rfl, rfl, [call], rfl, fun port member => other port (List.mem_singleton.mp member).symm⟩

theorem port_frame_foldl {α : Type} (step : Bridge → α → Bridge) (each : ∀ br a, PortFrame br (step br a)) (items : List α)
    (br : Bridge) : PortFrame br (items.foldl step br) :=
  Keyed.foldl_keeps step (PortFrame br) (fun next a _ frame => port_frame_trans _ _ _ frame (each next a)) (port_frame_refl br)

structure Drops (br after : Bridge) (keep : IfaceRef → Bool) : Prop where
  frame : PortFrame br after
  ports : after.ports.map Port.bare = (keepPorts keep br.ports).map Port.bare
  byName : after.ifaceByName = br.ifaceByName.filter keep

theorem drops_index (br after : Bridge) (keep : IfaceRef → Bool) (index : BridgeIndex br) (drops : Drops br after keep) :
    BridgeIndex after := by
  have kept := port_index_keep _ _ _ keep index
  rw [BridgeIndex, drops.frame.nextAddr, drops.byName, ← port_index_bare, drops.ports, port_index_bare]
  exact kept

theorem drops_refs (br after : Bridge) (keep : IfaceRef → Bool) (drops : Drops br after keep) :
    ifaceRefs after.ports = (ifaceRefs br.ports).filter keep := by
  rw [← bare_refs after.ports, drops.ports, bare_refs, keep_ports_refs]

theorem drops_trans (br middle after : Bridge) (first second : IfaceRef → Bool) (one : Drops br middle first)
    (two : Drops middle after second) : Drops br after (fun ref => first ref && second ref) := by
  refine ⟨port_frame_trans _ _ _ one.frame two.frame, ?_, ?_⟩
  · rw [two.ports, ← keep_ports_bare, one.ports, keep_ports_bare, keep_ports_comp]
  · rw [two.byName, one.byName, List.filter_filter]
    congr 1
    funext ref
    exact Bool.and_comm _ _

theorem drops_congr (br after : Bridge) (keep other : IfaceRef → Bool) (index : BridgeIndex br)
    (same : ∀ ref ∈ ifaceRefs br.ports, keep ref = other ref) (drops : Drops br after keep) : Drops br after other := by
  refine ⟨drops.frame, ?_, ?_⟩
  · rw [drops.ports, keep_ports_congr keep other br.ports same]
  · rw [drops.byName]
    exact List.filter_congr (fun ref member => same ref (index.index.mem_iff.mp member))

theorem drops_nothing (br after : Bridge) (index : BridgeIndex br) (frame : PortFrame br after)
    (ports : after.ports.map Port.bare = br.ports.map Port.bare) (byName : after.ifaceByName = br.ifaceByName) :
    Drops br after (fun _ => true) := by
  refine ⟨frame, ?_, ?_⟩
  · have all : keepPorts (fun _ => true) br.ports = br.ports := by
      refine (List.filterMap_congr (fun port member => ?_)).trans List.filterMap_some
      exact keep_port_all _ port (index.filled port member) (fun _ _ => rfl)
    rw [ports, all]
  · rw [byName, List.filter_eq_self.mpr (fun _ _ => rfl)]

theorem drops_foldl {α : Type} (step : Bridge → α → Bridge) (keep : α → IfaceRef → Bool) (Ok : List IfaceRef → α → Prop)
    (fewer : ∀ refs less a, (∀ ref ∈ less, ref ∈ refs) → Ok refs a → Ok less a)
    (each : ∀ br a, BridgeIndex br → Ok (ifaceRefs br.ports) a → Drops br (step br a) (keep a))
    (items : List α) (br : Bridge) (index : BridgeIndex br) (ok : ∀ a ∈ items, Ok (ifaceRefs br.ports) a) :
    Drops br (items.foldl step br) (fun ref => items.all (fun a => keep a ref)) := by
  induction items generalizing br with
  | nil => exact drops_nothing br br index (port_frame_refl br) rfl rfl
  | cons a rest ih =>
      have first := each br a index (ok a (by simp))
      have rest := ih (step br a) (drops_index br _ _ index first) (fun b member =>
        fewer _ _ b (fun ref inside => by
          rw [drops_refs br _ _ first] at inside
          exact (List.mem_filter.mp inside).1) (ok b (by simp [member])))
      exact drops_trans br _ _ _ _ first rest

end OpsSwitchd
