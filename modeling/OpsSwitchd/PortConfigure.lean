import OpsSwitchd.PortFrames
import OpsSwitchd.Switch

set_option autoImplicit false

namespace OpsSwitchd

structure Thinned (br after : Bridge) (keep : IfaceRef → Bool) : Prop where
  index : BridgeIndex after
  name : after.name = br.name
  cfg : after.cfg = br.cfg
  nextAddr : after.nextAddr = br.nextAddr
  calls : ∃ more, after.calls = br.calls ++ more ∧ ∀ port, .bundleRegister port ∉ more
  refs : ifaceRefs after.ports = (ifaceRefs br.ports).filter keep

theorem thinned_trans (br middle after : Bridge) (first second : IfaceRef → Bool) (one : Thinned br middle first)
    (two : Thinned middle after second) : Thinned br after (fun ref => first ref && second ref) := by
  obtain ⟨calls, grown, quiet⟩ := one.calls
  obtain ⟨more, longer, also⟩ := two.calls
  refine ⟨two.index, two.name.trans one.name, two.cfg.trans one.cfg, two.nextAddr.trans one.nextAddr,
    ⟨calls ++ more, by rw [longer, grown, List.append_assoc], ?_⟩, ?_⟩
  · intro port member
    rcases List.mem_append.mp member with left | right
    · exact quiet port left
    · exact also port right
  · rw [two.refs, one.refs, List.filter_filter]
    congr 1
    funext ref
    exact Bool.and_comm _ _

theorem thinned_congr (br after : Bridge) (keep other : IfaceRef → Bool)
    (same : ∀ ref ∈ ifaceRefs br.ports, keep ref = other ref) (thinned : Thinned br after keep) : Thinned br after other :=
  { thinned with refs := by rw [thinned.refs]; exact List.filter_congr same }

theorem thinned_by_frame (br after : Bridge) (keep : IfaceRef → Bool) (index : BridgeIndex after) (frame : PortFrame br after)
    (refs : ifaceRefs after.ports = (ifaceRefs br.ports).filter keep) : Thinned br after keep :=
  ⟨index, frame.name, frame.cfg, frame.nextAddr, frame.calls, refs⟩

theorem thinned_by_drops (br after : Bridge) (keep : IfaceRef → Bool) (index : BridgeIndex br) (drops : Drops br after keep) :
    Thinned br after keep :=
  thinned_by_frame br after keep (drops_index _ _ _ index drops) drops.frame (drops_refs _ _ _ drops)

theorem thinned_by_retags (br after : Bridge) (f : Iface → Iface) (same : ∀ iface, (f iface).self = iface.self)
    (index : BridgeIndex br) (retags : Retags br after f) : Thinned br after (fun _ => true) := by
  refine thinned_by_frame br after _ (retags_index _ _ f same index retags) retags.frame ?_
  rw [retags.ports, retag_refs f same, List.filter_eq_self.mpr (fun _ _ => rfl)]

theorem thinned_with_ofproto (br after : Bridge) (keep : IfaceRef → Bool) (thinned : Thinned br after keep) :
    Thinned br { after with ofproto := true } keep := ⟨thinned.index, thinned.name, thinned.cfg, thinned.nextAddr, thinned.calls, thinned.refs⟩

theorem port_lookup_by_refs (br : Bridge) (index : BridgeIndex br) (name : String) :
    (br.portLookup name).isSome ↔ ∃ ref ∈ ifaceRefs br.ports, ref.port.name = name := by
  rw [show (br.portLookup name).isSome ↔ ∃ port ∈ br.ports, port.self.name = name from Keyed.lookup_some_iff_exists portName]
  constructor
  · rintro ⟨port, member, rfl⟩
    obtain ⟨iface, inside⟩ := List.exists_mem_of_ne_nil _ (index.filled port member)
    exact ⟨iface.self, mem_iface_refs.mpr ⟨port, member, iface, inside, rfl⟩, by rw [index.owner port member iface inside]⟩
  · rintro ⟨ref, member, rfl⟩
    obtain ⟨port, present, iface, inside, rfl⟩ := mem_iface_refs.mp member
    exact ⟨port, present, by rw [index.owner port present iface inside]⟩

theorem thinned_port_old (br after : Bridge) (keep : IfaceRef → Bool) (index : BridgeIndex br) (thinned : Thinned br after keep)
    (port : Port) (member : port ∈ after.ports) : port.self ∈ br.ports.map Port.self := by
  obtain ⟨iface, inside⟩ := List.exists_mem_of_ne_nil _ (thinned.index.filled port member)
  have listed := mem_iface_refs.mpr ⟨port, member, iface, inside, rfl⟩
  rw [thinned.refs] at listed
  obtain ⟨before, old, stored, there, same⟩ := mem_iface_refs.mp (List.mem_filter.mp listed).1
  have owner := index.owner before old stored there
  rw [same, thinned.index.owner port member iface inside] at owner
  exact List.mem_map.mpr ⟨before, old, owner.symm⟩

def namePresent (br : Bridge) (keep : IfaceRef → Bool) (name : String) : Bool :=
  (ifaceRefs br.ports).any (fun ref => ref.name = name && keep ref)

theorem thinned_iface_lookup (br after : Bridge) (keep : IfaceRef → Bool) (thinned : Thinned br after keep) (name : String) :
    (after.ifaceLookup name).isSome = namePresent br keep name := by
  rw [Bool.eq_iff_iff, namePresent, List.any_eq_true]
  constructor
  · intro found
    obtain ⟨ref, lookup⟩ := Option.isSome_iff_exists.mp found
    obtain ⟨listed, named⟩ := (iface_lookup_iff after thinned.index name ref).mp lookup
    rw [thinned.refs] at listed
    obtain ⟨old, kept⟩ := List.mem_filter.mp listed
    exact ⟨ref, old, by simp [named, kept]⟩
  · rintro ⟨ref, old, both⟩
    rw [Bool.and_eq_true, decide_eq_true_eq] at both
    have listed : ref ∈ ifaceRefs after.ports := by
      rw [thinned.refs]
      exact List.mem_filter.mpr ⟨old, both.2⟩
    rw [(iface_lookup_iff after thinned.index name ref).mpr ⟨listed, both.1⟩]
    rfl

def PortsConfigured (before after : Bridge) : Prop :=
  ∀ port ∈ after.ports, port.self ∉ before.ports.map Port.self →
    .bundleRegister port.self.name ∈ after.calls.drop before.calls.length

instance (before after : Bridge) : Decidable (PortsConfigured before after) := by
  unfold PortsConfigured
  infer_instance

def CreatedFlagged (br : Bridge) (keep : IfaceRef → Bool) (created : List (PortRow × InterfaceRow)) : Prop :=
  ∀ pair ∈ created, (∃ ref ∈ ifaceRefs br.ports, ref.port.name = pair.1.name ∧ keep ref = true) ∨
    ∃ other ∈ created, other.1.name = pair.1.name ∧ (other.1.modified = true ∨ other.2.modified = true)

instance (br : Bridge) (keep : IfaceRef → Bool) (created : List (PortRow × InterfaceRow)) :
    Decidable (CreatedFlagged br keep created) := by
  unfold CreatedFlagged
  infer_instance

theorem created_pairs_mem (doCreate : IfaceDoCreate) (present : String → Bool) (pairs : List (PortRow × InterfaceRow))
    (pair : PortRow × InterfaceRow) (member : pair ∈ createdPairs doCreate present pairs) : pair ∈ pairs := by
  induction pairs generalizing present with
  | nil => exact member
  | cons first rest ih =>
      rw [createdPairs] at member
      split at member
      · exact List.mem_cons_of_mem _ (ih present member)
      · rcases List.mem_cons.mp member with rfl | later
        · exact List.mem_cons_self
        · exact List.mem_cons_of_mem _ (ih _ later)

theorem wanted_pairs_row (env : Env) (wantedPorts : List PortRow) (pair : PortRow × InterfaceRow)
    (member : pair ∈ wantedPairs env wantedPorts) : pair.1 ∈ wantedPorts := by
  obtain ⟨port, walked, inside⟩ := List.mem_flatMap.mp member
  obtain ⟨iface, _, rfl⟩ := List.mem_map.mp inside
  exact (env.order.mem_walk _ _).mp walked

theorem needs_configure_iff (port : Port) :
    portNeedsConfigure port = true ↔ (∃ row, port.cfg = some row ∧ row.modified = true) ∨
      ∃ row ∈ port.ifaces.map Iface.cfg, row.modified = true := by
  simp only [portNeedsConfigure, Bool.or_eq_true, Option.any_eq_true, List.any_eq_true, List.mem_map]
  constructor
  · rintro (left | ⟨iface, member, flagged⟩)
    · exact .inl left
    · exact .inr ⟨iface.cfg, ⟨iface, member, rfl⟩, flagged⟩
  · rintro (left | ⟨_, ⟨iface, member, rfl⟩, flagged⟩)
    · exact .inl left
    · exact .inr ⟨iface, member, flagged⟩

theorem thinned_port_lookup (br thin : Bridge) (keep : IfaceRef → Bool) (thinned : Thinned br thin keep) (name : String) :
    (thin.portLookup name).isSome ↔ ∃ ref ∈ ifaceRefs br.ports, ref.port.name = name ∧ keep ref = true := by
  rw [port_lookup_by_refs thin thinned.index, thinned.refs]
  simp only [List.mem_filter, and_assoc]
  exact exists_congr (fun ref => and_congr_right (fun _ => and_comm))

theorem mem_pairs_of (name : String) (created : List (PortRow × InterfaceRow)) (pair : PortRow × InterfaceRow) :
    pair ∈ pairsOf name created ↔ pair ∈ created ∧ pair.1.name = name := by
  simp [pairsOf]

theorem created_port (thin after : Bridge) (created : List (PortRow × InterfaceRow)) (adds : Adds thin after created)
    (name : String) (missing : thin.portLookup name = none) (pair : PortRow × InterfaceRow)
    (member : pair ∈ pairsOf name created) :
    ∃ port first, after.portLookup name = some port ∧ thin.nextAddr ≤ port.self.addr ∧ first ∈ pairsOf name created ∧
      port.cfg = some first.1 ∧ port.ifaces.map Iface.cfg = (pairsOf name created).map Prod.snd := by
  have added := adds.ports name
  rw [missing] at added
  cases listed : pairsOf name created with
  | nil =>
      rw [listed] at member
      cases member
  | cons first rest =>
      rw [listed] at added
      obtain ⟨port, found, addr, cfg, ifaces⟩ := added
      exact ⟨port, first, found, addr, List.mem_cons_self, cfg, ifaces⟩

theorem created_port_needs_iff (created : List (PortRow × InterfaceRow)) (name : String) (port : Port)
    (first : PortRow × InterfaceRow) (member : first ∈ pairsOf name created) (cfg : port.cfg = some first.1)
    (ifaces : port.ifaces.map Iface.cfg = (pairsOf name created).map Prod.snd)
    (rows : ∀ pair ∈ created, ∀ other ∈ created, pair.1.name = other.1.name → pair.1 = other.1) :
    portNeedsConfigure port = true ↔
      ∃ other ∈ created, other.1.name = name ∧ (other.1.modified = true ∨ other.2.modified = true) := by
  obtain ⟨here, named⟩ := (mem_pairs_of name created first).mp member
  rw [needs_configure_iff, cfg, ifaces]
  constructor
  · rintro (⟨row, same, flagged⟩ | ⟨row, stored, flagged⟩)
    · obtain rfl := Option.some.inj same
      exact ⟨first, here, named, .inl flagged⟩
    · obtain ⟨other, there, rfl⟩ := List.mem_map.mp stored
      obtain ⟨made, sameName⟩ := (mem_pairs_of name created other).mp there
      exact ⟨other, made, sameName, .inr flagged⟩
  · rintro ⟨other, there, sameName, port | iface⟩
    · exact .inl ⟨first.1, rfl, rows other there first here (sameName.trans named.symm) ▸ port⟩
    · exact .inr ⟨other.2, List.mem_map.mpr ⟨other, (mem_pairs_of name created other).mpr ⟨there, sameName⟩, rfl⟩, iface⟩

theorem new_ports_flagged_iff (br thin after : Bridge) (keep : IfaceRef → Bool) (created : List (PortRow × InterfaceRow))
    (index : BridgeIndex br) (thinned : Thinned br thin keep) (grown : BridgeIndex after) (adds : Adds thin after created)
    (rows : ∀ pair ∈ created, ∀ other ∈ created, pair.1.name = other.1.name → pair.1 = other.1) :
    (∀ port ∈ after.ports, port.self ∉ br.ports.map Port.self → portNeedsConfigure port = true) ↔
      CreatedFlagged br keep created := by
  constructor
  · intro all pair member
    cases stands : thin.portLookup pair.1.name with
    | some old => exact .inl ((thinned_port_lookup br thin keep thinned pair.1.name).mp (by rw [stands]; rfl))
    | none =>
        have mine := (mem_pairs_of pair.1.name created pair).mpr ⟨member, rfl⟩
        obtain ⟨port, first, found, addr, listed, cfg, ifaces⟩ :=
          created_port thin after created adds pair.1.name stands pair mine
        have fresh : port.self ∉ br.ports.map Port.self := by
          intro old
          obtain ⟨before, stored, same⟩ := List.mem_map.mp old
          have bound := index.bound before stored
          rw [portAddr, same] at bound
          rw [thinned.nextAddr] at addr
          omega
        refine .inr ((created_port_needs_iff created _ port first listed cfg ifaces rows).mp ?_)
        exact all port (Keyed.lookup_mem portName found) fresh
  · intro flagged port member fresh
    have found : after.portLookup port.self.name = some port := Keyed.lookup_of_mem portName grown.names member
    have added := adds.ports port.self.name
    rw [found] at added
    cases stands : thin.portLookup port.self.name with
    | some old =>
        rw [stands] at added
        obtain ⟨later, same, self, _⟩ := added
        obtain rfl := Option.some.inj same
        rw [self] at fresh
        exact absurd (thinned_port_old br thin keep index thinned old (Keyed.lookup_mem portName stands)) fresh
    | none =>
        cases listed : pairsOf port.self.name created with
        | nil =>
            rw [stands, listed] at added
            cases added
        | cons head rest =>
            obtain ⟨made, first, same, _, mine, cfg, ifaces⟩ :=
              created_port thin after created adds port.self.name stands head (by rw [listed]; simp)
            obtain rfl := Option.some.inj (found.symm.trans same)
            refine (created_port_needs_iff created _ port first mine cfg ifaces rows).mpr ?_
            obtain ⟨here, named⟩ := (mem_pairs_of _ created first).mp mine
            rcases flagged first here with stays | modified
            · rw [named, ← thinned_port_lookup br thin keep thinned, stands] at stays
              cases stays
            · rwa [named] at modified

def configuredNames (order : HashOrder) (ports : List Port) : List OfprotoCall :=
  ((order.walk ports).filter portNeedsConfigure).map (fun port => .bundleRegister port.self.name)

theorem configure_ports_eq (order : HashOrder) (br : Bridge) :
    configurePorts order br = { br with calls := br.calls ++ configuredNames order br.ports } := by
  have general : ∀ (ports : List Port) (next : Bridge),
      ports.foldl (fun br port => if portNeedsConfigure port then portConfigure br port else br) next =
        { next with calls := next.calls ++ (ports.filter portNeedsConfigure).map (fun port => .bundleRegister port.self.name) } := by
    intro ports
    induction ports with
    | nil =>
        intro next
        rw [List.foldl_nil, List.filter_nil, List.map_nil, List.append_nil]
    | cons port rest ih =>
        intro next
        rw [List.foldl_cons, ih]
        cases needs : portNeedsConfigure port with
        | true => simp [needs, portConfigure, Bridge.emit]
        | false => simp [needs]
  exact general (order.walk br.ports) br

theorem ports_configured_iff (order : HashOrder) (br after final : Bridge) (grown : BridgeIndex after)
    (before : ∃ more, after.calls = br.calls ++ more ∧ ∀ port, .bundleRegister port ∉ more)
    (later : PortFrame (configurePorts order after) final) (ports : final.ports = after.ports) :
    PortsConfigured br final ↔
      ∀ port ∈ after.ports, port.self ∉ br.ports.map Port.self → portNeedsConfigure port = true := by
  obtain ⟨more, calls, quiet⟩ := before
  obtain ⟨rest, longer, silent⟩ := later.calls
  have made : final.calls.drop br.calls.length = more ++ configuredNames order after.ports ++ rest := by
    rw [longer, configure_ports_eq, calls, List.append_assoc, List.append_assoc, List.drop_left, ← List.append_assoc]
  have asked : ∀ port ∈ after.ports,
      .bundleRegister port.self.name ∈ final.calls.drop br.calls.length ↔ portNeedsConfigure port = true := by
    intro port member
    rw [made, List.mem_append, List.mem_append]
    constructor
    · rintro ((first | middle) | last)
      · exact absurd first (quiet _)
      · obtain ⟨other, found, same⟩ := List.mem_map.mp middle
        obtain ⟨walked, needs⟩ := List.mem_filter.mp found
        rwa [← Keyed.unique_mem_eq portName grown.names ((order.mem_walk _ _).mp walked) member
          (OfprotoCall.bundleRegister.inj same)]
      · exact absurd last (silent _)
    · intro needs
      exact .inl (.inr (List.mem_map.mpr ⟨port, List.mem_filter.mpr ⟨(order.mem_walk _ _).mpr member, needs⟩, rfl⟩))
  unfold PortsConfigured
  rw [ports]
  exact forall_congr' (fun port => forall_congr' (fun member => imp_congr_right (fun _ => asked port member)))

end OpsSwitchd
