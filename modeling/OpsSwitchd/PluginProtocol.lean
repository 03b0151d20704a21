import OpsSwitchd.PluginBlocks
import OpsSwitchd.Runs

set_option autoImplicit false

namespace OpsSwitchd.PluginBlocks

section Events

-- The place of a block in enum block_id.
def number : BlockId → Nat
  | .initReconfigure => 1
  | .brDeletePorts => 2
  | .vrfDeletePorts => 3
  | .brReconfigurePorts => 4
  | .vrfReconfigurePorts => 5
  | .brAddPorts => 6
  | .vrfAddPorts => 7
  | .brPortUpdate => 8
  | .brFeatureReconfig => 9
  | .vrfPortUpdate => 10
  | .vrfAddNeighbors => 11
  | .reconfigureNeighbors => 12

-- The loop of bridge_reconfigure that executes a block.
def stage : BlockId → Nat
  | .initReconfigure => 0
  | .brDeletePorts => 1
  | .vrfDeletePorts => 2
  | .brReconfigurePorts => 3
  | .vrfReconfigurePorts => 4
  | .brAddPorts => 5
  | .vrfAddPorts => 6
  | .brPortUpdate | .brFeatureReconfig => 7
  | .vrfPortUpdate | .vrfAddNeighbors | .reconfigureNeighbors => 8

def ofBridges : BlockId → Bool
  | .brDeletePorts | .brReconfigurePorts | .brAddPorts | .brPortUpdate | .brFeatureReconfig => true
  | _ => false

def ofVrfs : BlockId → Bool
  | .vrfDeletePorts | .vrfReconfigurePorts | .vrfAddPorts | .vrfPortUpdate | .vrfAddNeighbors | .reconfigureNeighbors => true
  | _ => false

def ofPorts : BlockId → Bool
  | .brPortUpdate | .vrfPortUpdate => true
  | _ => false

def bridgeTag (event : BlockEvent) : Option String := event.2.br.map Bridge.name

def vrfTag (event : BlockEvent) : Option String := event.2.vrf.map vrfName

def owner (event : BlockEvent) : Option String × Option String := (bridgeTag event, vrfTag event)

def view (event : BlockEvent) : BlockId × Option Port := (event.1, event.2.port)

-- The documented order, but for the blocks of two owners that one loop executes.
def InOrder (first second : BlockEvent) : Prop :=
  number first.1 ≤ number second.1 ∨ stage first.1 = stage second.1 ∧ owner first ≠ owner second

-- The pointers that are set. The header leaves out br in BLK_BR_PORT_UPDATE and
-- vrf in BLK_VRF_PORT_UPDATE.
structure Scoped (event : BlockEvent) : Prop where
  br : event.2.br.isSome = ofBridges event.1
  vrf : event.2.vrf.isSome = ofVrfs event.1
  port : event.2.port.isSome = ofPorts event.1

def shownOwner (event : BlockEvent) : Option Bridge := event.2.br.or (event.2.vrf.map Vrf.up)

def PortShown (event : BlockEvent) : Prop :=
  ∀ port ∈ event.2.port, portNeedsConfigure port = true ∧ ∃ br ∈ shownOwner event, port ∈ br.ports

structure OwnerEvent (tag other : BlockEvent → Option String) (up : Bridge) (place : Nat) (event : BlockEvent) : Prop where
  here : stage event.1 = place
  tag : tag event = some up.name
  other : other event = none
  ofproto : event.2.ofproto = up.ofproto
  pointers : Scoped event
  port : PortShown event

theorem stage_number (first second : BlockId) (earlier : stage first < stage second) : number first ≤ number second := by
  revert earlier
  cases first <;> cases second <;> decide

theorem of_bridge_event (br : Bridge) (blk : BlockId) (bridge : ofBridges blk = true) (other : ofVrfs blk = false)
    (portless : ofPorts blk = false) (seen : Bridge) (name : seen.name = br.name) (ofproto : seen.ofproto = br.ofproto) :
    OwnerEvent bridgeTag vrfTag br (stage blk) (blk, ofBridge seen) :=
  ⟨rfl, congrArg some name, rfl, ofproto, ⟨bridge.symm, other.symm, portless.symm⟩, fun _ shown => absurd shown (Option.not_mem_none _)⟩

theorem of_vrf_event (up : Bridge) (blk : BlockId) (bridge : ofBridges blk = false) (other : ofVrfs blk = true)
    (portless : ofPorts blk = false) (seen : Vrf) (name : seen.up.name = up.name) (ofproto : seen.up.ofproto = up.ofproto) :
    OwnerEvent vrfTag bridgeTag up (stage blk) (blk, ofVrf seen) :=
  ⟨rfl, congrArg some name, rfl, ofproto, ⟨bridge.symm, other.symm, portless.symm⟩, fun _ shown => absurd shown (Option.not_mem_none _)⟩

def updatedPorts (blk : BlockId) (order : HashOrder) (ports : List Port) : List (BlockId × Option Port) :=
  ((order.walk ports).filter portNeedsConfigure).map (fun port => (blk, some port))

section Updates

variable {σ : Type} (up : σ → Bridge) (configure : σ → Port → σ) (event : σ → Port → BlockEvent) (blk : BlockId) (start : σ)

structure PortsTold (About : BlockEvent → Prop) (visited : List Port) (work : σ × List BlockEvent) : Prop where
  state : work.1 = visited.foldl (fun s port => if portNeedsConfigure port then configure s port else s) start
  same : (up work.1).name = (up start).name ∧ (up work.1).ofproto = (up start).ofproto ∧ (up work.1).ports = (up start).ports
  told : work.2.map view = (visited.filter portNeedsConfigure).map (fun port => (blk, some port))
  about : ∀ one ∈ work.2, About one

theorem port_update_step (About : BlockEvent → Prop) (emits : ∀ s port, up (configure s port) = portConfigure (up s) port)
    (seen : ∀ s port, view (event s port) = (blk, some port)) (visited : List Port) (port : Port) (work : σ × List BlockEvent)
    (tells : ∀ s, (up s).name = (up start).name → (up s).ofproto = (up start).ofproto → (up s).ports = (up start).ports →
      portNeedsConfigure port = true → About (event s port))
    (sofar : PortsTold up configure blk start About visited work) :
    PortsTold up configure blk start About (visited ++ [port]) (portUpdate configure event work port) := by
  obtain ⟨state, ⟨name, ofproto, ports⟩, told, about⟩ := sofar
  unfold portUpdate
  cases needed : portNeedsConfigure port with
  | false =>
      rw [if_neg Bool.false_ne_true]
      refine ⟨?_, ⟨name, ofproto, ports⟩, ?_, about⟩
      · rw [List.foldl_append, ← state, List.foldl_cons, List.foldl_nil, needed, if_neg Bool.false_ne_true]
      · rw [told, List.filter_append, List.filter_singleton, needed, cond_false, List.append_nil]
  | true =>
      have next : (up (configure work.1 port)).name = (up start).name ∧ (up (configure work.1 port)).ofproto = (up start).ofproto ∧
          (up (configure work.1 port)).ports = (up start).ports := by
        rw [emits]
        exact ⟨name, ofproto, ports⟩
      rw [if_pos rfl]
      refine ⟨?_, next, ?_, ?_⟩
      · rw [List.foldl_append, ← state, List.foldl_cons, List.foldl_nil, needed, if_pos rfl]
      · rw [List.map_append, told, List.filter_append, List.filter_singleton, needed, cond_true, List.map_append, List.map_singleton,
          List.map_singleton, seen]
      · intro one member
        rcases List.mem_append.mp member with old | last
        · exact about one old
        · rw [List.mem_singleton.mp last]
          exact tells _ next.1 next.2.1 next.2.2 needed

theorem port_updates (About : BlockEvent → Prop) (emits : ∀ s port, up (configure s port) = portConfigure (up s) port)
    (seen : ∀ s port, view (event s port) = (blk, some port)) (order : HashOrder)
    (tells : ∀ s, ∀ port ∈ (up start).ports, (up s).name = (up start).name → (up s).ofproto = (up start).ofproto →
      (up s).ports = (up start).ports → portNeedsConfigure port = true → About (event s port)) :
    PortsTold up configure blk start About (order.walk (up start).ports)
      ((order.walk (up start).ports).foldl (portUpdate configure event) (start, [])) :=
  Keyed.foldl_invariant (portUpdate configure event) (order.walk (up start).ports) (PortsTold up configure blk start About)
    (fun visited port _ work split => port_update_step up configure event blk start About emits seen visited port work
      (fun s => tells s port ((order.mem_walk _ _).mp (split ▸ List.mem_append_right _ List.mem_cons_self))))
    ⟨rfl, ⟨rfl, rfl, rfl⟩, rfl, fun _ member => absurd member List.not_mem_nil⟩

end Updates

theorem bridge_updates (order : HashOrder) (br : Bridge) :
    PortsTold id portConfigure .brPortUpdate br (OwnerEvent bridgeTag vrfTag br (stage .brPortUpdate)) (order.walk br.ports)
      (bridgePortUpdates order br) := by
  refine port_updates id portConfigure _ .brPortUpdate br _ (fun _ _ => rfl) (fun _ _ => rfl) order ?_
  intro seen port member name ofproto ports needed
  refine ⟨rfl, congrArg some name, rfl, ofproto, ⟨rfl, rfl, rfl⟩, fun shown here => ?_⟩
  obtain rfl := Option.some.inj here
  exact ⟨needed, seen, rfl, ports ▸ member⟩

theorem vrf_updates (order : HashOrder) (vrf : Vrf) :
    PortsTold Vrf.up (fun vrf port => vrf.withUp (portConfigure vrf.up port)) .vrfPortUpdate vrf
      (OwnerEvent vrfTag bridgeTag vrf.up (stage .vrfPortUpdate)) (order.walk vrf.up.ports) (vrfPortUpdates order vrf) := by
  refine port_updates Vrf.up _ _ .vrfPortUpdate vrf _ (fun _ _ => rfl) (fun _ _ => rfl) order ?_
  intro seen port member name ofproto ports needed
  refine ⟨rfl, congrArg some name, rfl, ofproto, ⟨rfl, rfl, rfl⟩, fun shown here => ?_⟩
  obtain rfl := Option.some.inj here
  exact ⟨needed, seen.up, rfl, ports ▸ member⟩

theorem vrf_updates_state (order : HashOrder) (vrf : Vrf) :
    (vrfPortUpdates order vrf).1 = vrf.withUp (configurePorts order vrf.up) := by
  rw [(vrf_updates order vrf).state, configurePorts]
  refine List.foldl_hom vrf.withUp (fun br port => ?_)
  split <;> rfl

theorem bridge_configure_blocks (input : Reconfiguration) (br : Bridge) :
    (bridgeConfigureBlocks input br).map view = updatedPorts .brPortUpdate input.env.order br.ports ++ [(.brFeatureReconfig, none)] ∧
      (.brFeatureReconfig, ofBridge (bridgeConfigurePhase input br)) ∈ bridgeConfigureBlocks input br ∧
      ∀ event ∈ bridgeConfigureBlocks input br, OwnerEvent bridgeTag vrfTag br (stage .brFeatureReconfig) event := by
  obtain ⟨state, ⟨name, ofproto, _⟩, told, about⟩ := bridge_updates input.env.order br
  have vlans := (configure_vlans_only input.env.order (bridgePortUpdates input.env.order br).1).frame
  unfold bridgeConfigureBlocks
  dsimp only
  refine ⟨?_, ?_, ?_⟩
  · rw [List.map_append, told]
    rfl
  · rw [state]
    exact List.mem_append_right _ List.mem_cons_self
  · intro event member
    rcases List.mem_append.mp member with old | last
    · exact about event old
    · rw [List.mem_singleton.mp last]
      exact of_bridge_event br .brFeatureReconfig rfl rfl rfl _ (vlans.name.trans name) (vlans.ofproto.trans ofproto)

theorem vrf_configure_blocks (input : Reconfiguration) (vrf : Vrf) :
    (vrfConfigureBlocks input vrf).map view = updatedPorts .vrfPortUpdate input.env.order vrf.up.ports ++
        (if vrf.up.ports.any portNeedsConfigure then [(.vrfAddNeighbors, none)] else []) ++ [(.reconfigureNeighbors, none)] ∧
      (.reconfigureNeighbors, ofVrf (vrfConfigurePhase input vrf)) ∈ vrfConfigureBlocks input vrf ∧
      ∀ event ∈ vrfConfigureBlocks input vrf, OwnerEvent vrfTag bridgeTag vrf.up (stage .reconfigureNeighbors) event := by
  obtain ⟨_, ⟨name, ofproto, _⟩, told, about⟩ := vrf_updates input.env.order vrf
  have configured := vrf_updates_state input.env.order vrf
  have added := asks_if (vrf.up.ports.any portNeedsConfigure) _ _ (add_neighbors_asks input.env (vrfPortUpdates input.env.order vrf).1)
  unfold vrfConfigureBlocks
  dsimp only
  generalize known : (if vrf.up.ports.any portNeedsConfigure = true then
    vrfAddNeighbors input.env (vrfPortUpdates input.env.order vrf).1 else (vrfPortUpdates input.env.order vrf).1) = next at added
  have later := asks_trans _ _ _ (reconfigure_neighbors_asks input.env next)
    (asks_trans _ _ _ (reconfigure_routes_asks input.env _) (reconfigure_nexthops_asks input.env _))
  have early := asks_frame _ _ added
  have last := asks_frame _ _ (asks_trans _ _ _ added later)
  refine ⟨?_, ?_, ?_⟩
  · rw [List.map_append, List.map_append, told]
    split <;> rfl
  · refine List.mem_append_right _ (List.mem_singleton.mpr ?_)
    rw [vrfConfigurePhase, ← configured, known]
  · intro event member
    rcases List.mem_append.mp member with first | final
    · rcases List.mem_append.mp first with old | neighbors
      · exact about event old
      · split at neighbors
        · rw [List.mem_singleton.mp neighbors]
          exact of_vrf_event vrf.up .vrfAddNeighbors rfl rfl rfl _ (early.name.trans name) (early.ofproto.trans ofproto)
        · cases neighbors
    · rw [List.mem_singleton.mp final]
      exact of_vrf_event vrf.up .reconfigureNeighbors rfl rfl rfl _ (last.name.trans name) (last.ofproto.trans ofproto)

end Events

section Loops

structure Kind (α : Type) where
  tag : BlockEvent → Option String
  other : BlockEvent → Option String
  name : α → String
  rows : List α
  unique : Keyed.Unique name rows
  apart : ∀ first second, tag first ≠ tag second → owner first ≠ owner second

-- A loop over what the phases before it have made of the owners, f. It executes
-- the blocks of events for each.
structure Loop {α β : Type} (kind : Kind α) (place : Nat) (f : α → Option β) (up : β → Bridge) (events : β → List BlockEvent) : Prop where
  name : ∀ a ∈ kind.rows, ∀ b, f a = some b → (up b).name = kind.name a
  backed : stage .brAddPorts ≤ place → ∀ a ∈ kind.rows, ∀ b, f a = some b → (up b).ofproto = true
  about : ∀ a ∈ kind.rows, ∀ b, f a = some b → ∀ event ∈ events b, OwnerEvent kind.tag kind.other (up b) place event
  sorted : ∀ b, ((events b).map view).Pairwise (fun first second => number first.1 ≤ number second.1)

structure Shown {α : Type} (kind : Kind α) (place : Nat) (event : BlockEvent) : Prop where
  here : stage event.1 = place
  living : ∃ a ∈ kind.rows, kind.tag event = some (kind.name a)
  other : kind.other event = none
  backed : stage .brAddPorts ≤ place → event.2.ofproto = true
  pointers : Scoped event
  port : PortShown event

variable {α β : Type} {kind : Kind α} {place : Nat} {f : α → Option β} {up : β → Bridge} {events : β → List BlockEvent}
  (loop : Loop kind place f up events) {walked : List β} (walks : walked.Perm (kind.rows.filterMap f))
include walks

theorem loop_row (b : β) (member : b ∈ walked) : ∃ a ∈ kind.rows, f a = some b := List.mem_filterMap.mp (walks.mem_iff.mp member)

include loop

theorem loop_tagged (b : β) (member : b ∈ walked) (event : BlockEvent) (inside : event ∈ events b) :
    kind.tag event = some (up b).name := by
  obtain ⟨a, row, made⟩ := loop_row walks b member
  exact (loop.about a row b made event inside).tag

theorem loop_shown (event : BlockEvent) (member : event ∈ walked.flatMap events) : Shown kind place event := by
  obtain ⟨b, visited, inside⟩ := List.mem_flatMap.mp member
  obtain ⟨a, row, made⟩ := loop_row walks b visited
  have about := loop.about a row b made event inside
  refine ⟨about.here, ⟨a, row, ?_⟩, about.other, fun late => ?_, about.pointers, about.port⟩
  · rw [about.tag, loop.name a row b made]
  · exact about.ofproto.trans (loop.backed late a row b made)

theorem loop_of_other (name : String) : (walked.flatMap events).filter (fun event => kind.other event = some name) = [] := by
  refine Keyed.filter_flatMap_untagged kind.other events walked name (fun b visited event inside => ?_)
  obtain ⟨a, row, made⟩ := loop_row walks b visited
  exact (loop.about a row b made event inside).other

theorem loop_of_owner (a : α) (row : a ∈ kind.rows) :
    (walked.flatMap events).filter (fun event => kind.tag event = some (kind.name a)) = (f a).elim [] events :=
  Keyed.filter_flatMap_filterMap kind.name (fun b => (up b).name) kind.tag events f kind.unique loop.name walks
    (loop_tagged loop walks) row

theorem loop_in_order : (walked.flatMap events).Pairwise InOrder := by
  have unique : Keyed.Unique (fun b => (up b).name) walked :=
    Keyed.unique_perm _ walks.symm (Keyed.unique_filterMap kind.name _ kind.unique f loop.name)
  refine List.pairwise_flatMap.mpr ⟨fun b _ => (List.pairwise_map.mp (loop.sorted b)).imp .inl, ?_⟩
  refine List.Pairwise.imp_of_mem (fun {b c} here there different first inside second later => .inr ⟨?_, ?_⟩) (List.pairwise_map.mp unique)
  · rw [(loop_shown loop walks first (List.mem_flatMap.mpr ⟨b, here, inside⟩)).here,
      (loop_shown loop walks second (List.mem_flatMap.mpr ⟨c, there, later⟩)).here]
  · refine kind.apart first second (fun same => different ?_)
    rw [loop_tagged loop walks b here first inside, loop_tagged loop walks c there second later] at same
    exact Option.some.inj same

end Loops

theorem singleton_sorted (event : BlockEvent) :
    ([event].map view).Pairwise (fun first second => number first.1 ≤ number second.1) := List.pairwise_singleton _ _

theorem updated_sorted (blk : BlockId) (order : HashOrder) (ports : List Port) :
    (updatedPorts blk order ports).Pairwise (fun first second => number first.1 ≤ number second.1) := by
  refine List.pairwise_map.mpr (List.pairwise_of_forall_mem_list (fun _ _ _ _ => ?_))
  exact Nat.le_refl _

theorem updated_block (blk : BlockId) (order : HashOrder) (ports : List Port) (entry : BlockId × Option Port)
    (member : entry ∈ updatedPorts blk order ports) : entry.1 = blk := by
  obtain ⟨_, _, rfl⟩ := List.mem_map.mp member
  rfl

section Bridges

variable (switch : Switch) (input : Reconfiguration)

theorem bridges_index (valid : SwitchIndex switch) :
    Keyed.Unique Bridge.name (bridges switch input) ∧ ∀ br ∈ bridges switch input, BridgeIndex br :=
  add_del_bridges_index input.datapath.normalizeType input.cfg.bridges switch.bridges valid.bridgeNames valid.bridges

def readyBridge (br : Bridge) : Option Bridge := bridgeCreatePhase input (bridgeReconfigurePhase input (bridgeDeletePhase input br))

theorem created_bridges_eq : createdBridges switch input = (bridges switch input).filterMap (readyBridge input) := by
  rw [createdBridges, deletedBridges, List.map_map, List.filterMap_map]
  rfl

theorem ready_bridge_facts (br : Bridge) (index : BridgeIndex br) (ready : Bridge) (made : readyBridge input br = some ready) :
    ready.name = br.name ∧ ready.ofproto = true ∧ (bridgeAddPhase input ready).name = br.name ∧
      (bridgeAddPhase input ready).ofproto = true := by
  have thin := bridge_ready input br index ready made
  have adds := (add_ports_adds input.env (input.datapath.bridgeIface ready.name) ready (bridgeCollectWantedPorts ready) thin.index).2
  have up : ready.ofproto = true := by
    unfold readyBridge bridgeCreatePhase at made
    split at made
    · next here =>
        obtain rfl := Option.some.inj made
        exact here
    · split at made
      · obtain rfl := Option.some.inj made
        rfl
      · cases made
  exact ⟨thin.name, up, adds.name.trans thin.name, adds.ofproto.trans up⟩

def bridgeBlocks (br : Bridge) : List (BlockId × Option Port) :=
  [(.brDeletePorts, none)] ++ (if br.ofproto then [(.brReconfigurePorts, none)] else []) ++
    match readyBridge input br with
    | none => []
    | some ready =>
        [(.brAddPorts, none)] ++ updatedPorts .brPortUpdate input.env.order (bridgeAddPhase input ready).ports ++ [(.brFeatureReconfig, none)]

def bridgeKind (valid : SwitchIndex switch) : Kind Bridge :=
  ⟨bridgeTag, vrfTag, Bridge.name, bridges switch input, (bridges_index switch input valid).1,
    fun _ _ different same => different (congrArg Prod.fst same)⟩

variable (valid : SwitchIndex switch)

theorem bridge_deletes : Loop (bridgeKind switch input valid) (stage .brDeletePorts) some id bridgeDeleteBlocks where
  name := fun _ _ _ made => congrArg Bridge.name (Option.some.inj made).symm
  backed := fun late => absurd late (by decide)
  about := fun _ _ br _ event member => by
    rw [List.mem_singleton.mp member]
    exact of_bridge_event br .brDeletePorts rfl rfl rfl br rfl rfl
  sorted := fun _ => singleton_sorted _

theorem bridge_reconfigures :
    Loop (bridgeKind switch input valid) (stage .brReconfigurePorts) (fun br => some (bridgeDeletePhase input br)) id
      (bridgeReconfigureBlocks input) where
  name := fun br row _ made => by
    rw [← Option.some.inj made]
    exact (bridge_delete_phase_frame input br ((bridges_index switch input valid).2 br row)).name
  backed := fun late => absurd late (by decide)
  about := fun br row deleted made event member => by
    have index := (bridges_index switch input valid).2 br row
    have frame := bridge_delete_phase_frame input br index
    rw [← Option.some.inj made] at member ⊢
    unfold bridgeReconfigureBlocks at member
    split at member
    · rw [List.mem_singleton.mp member]
      exact of_bridge_event _ .brReconfigurePorts rfl rfl rfl _ ((bridge_deleted_thinned input br index).name.trans frame.name.symm)
        ((bridge_deleted_ofproto input br index).trans frame.ofproto.symm)
    · cases member
  sorted := fun br => by
    unfold bridgeReconfigureBlocks
    split
    · exact singleton_sorted _
    · exact List.Pairwise.nil

theorem bridge_adds : Loop (bridgeKind switch input valid) (stage .brAddPorts) (readyBridge input) id (bridgeAddBlocks input) where
  name := fun br row ready made => (ready_bridge_facts input br ((bridges_index switch input valid).2 br row) ready made).1
  backed := fun _ br row ready made => (ready_bridge_facts input br ((bridges_index switch input valid).2 br row) ready made).2.1
  about := fun br row ready made event member => by
    obtain ⟨name, up, addedName, addedUp⟩ := ready_bridge_facts input br ((bridges_index switch input valid).2 br row) ready made
    rw [List.mem_singleton.mp member]
    exact of_bridge_event ready .brAddPorts rfl rfl rfl _ (addedName.trans name.symm) (addedUp.trans up.symm)
  sorted := fun _ => singleton_sorted _

theorem bridge_configures :
    Loop (bridgeKind switch input valid) (stage .brFeatureReconfig) (fun br => (readyBridge input br).map (bridgeAddPhase input)) id
      (bridgeConfigureBlocks input) where
  name := fun br row added made => by
    obtain ⟨ready, here, rfl⟩ := Option.map_eq_some_iff.mp made
    exact (ready_bridge_facts input br ((bridges_index switch input valid).2 br row) ready here).2.2.1
  backed := fun _ br row added made => by
    obtain ⟨ready, here, rfl⟩ := Option.map_eq_some_iff.mp made
    exact (ready_bridge_facts input br ((bridges_index switch input valid).2 br row) ready here).2.2.2
  about := fun _ _ added _ => (bridge_configure_blocks input added).2.2
  sorted := fun added => by
    rw [(bridge_configure_blocks input added).1]
    refine List.pairwise_append.mpr ⟨updated_sorted _ _ _, List.pairwise_singleton _ _, fun entry early last here => ?_⟩
    rw [updated_block _ _ _ entry early, List.mem_singleton.mp here]
    decide

end Bridges

section Vrfs

variable (switch : Switch) (input : Reconfiguration)

theorem vrfs_index (valid : SwitchIndex switch) :
    Keyed.Unique vrfUpName (vrfs switch input) ∧ ∀ owner ∈ vrfs switch input, BridgeIndex owner.2.up :=
  add_del_vrfs_index input.cfg.vrfs switch.vrfs valid.vrfNames valid.vrfs

def readyVrf (owner : VrfRow × Vrf) : Option (VrfRow × Vrf) :=
  vrfCreatePhase input (vrfReconfigurePhase input (vrfDeletePhase input owner))

theorem created_vrfs_eq : createdVrfs switch input = (vrfs switch input).filterMap (readyVrf input) := by
  rw [createdVrfs, deletedVrfs, List.map_map, List.filterMap_map]
  rfl

theorem ready_vrf_facts (owner : VrfRow × Vrf) (index : BridgeIndex owner.2.up) (ready : VrfRow × Vrf)
    (made : readyVrf input owner = some ready) :
    ready.2.up.name = owner.2.up.name ∧ ready.2.up.ofproto = true ∧ (vrfAddPhase input ready).up.name = owner.2.up.name ∧
      (vrfAddPhase input ready).up.ofproto = true := by
  obtain ⟨thin, _⟩ := vrf_ready input owner index ready made
  have adds := (add_ports_adds input.env (input.datapath.vrfIface ready.2.up.name) ready.2.up (vrfCollectWantedPorts ready.1) thin.index).2
  have up : ready.2.up.ofproto = true := by
    unfold readyVrf vrfCreatePhase at made
    split at made
    · next here =>
        obtain rfl := Option.some.inj made
        exact here
    · split at made
      · obtain rfl := Option.some.inj made
        rfl
      · cases made
  exact ⟨thin.name, up, adds.name.trans thin.name, adds.ofproto.trans up⟩

def vrfBlocks (owner : VrfRow × Vrf) : List (BlockId × Option Port) :=
  [(.vrfDeletePorts, none)] ++ (if owner.2.up.ofproto then [(.vrfReconfigurePorts, none)] else []) ++
    match readyVrf input owner with
    | none => []
    | some ready =>
        [(.vrfAddPorts, none)] ++ (updatedPorts .vrfPortUpdate input.env.order (vrfAddPhase input ready).up.ports ++
          (if (vrfAddPhase input ready).up.ports.any portNeedsConfigure then [(.vrfAddNeighbors, none)] else []) ++
          [(.reconfigureNeighbors, none)])

def vrfKind (valid : SwitchIndex switch) : Kind (VrfRow × Vrf) :=
  ⟨vrfTag, bridgeTag, vrfUpName, vrfs switch input, (vrfs_index switch input valid).1,
    fun _ _ different same => different (congrArg Prod.snd same)⟩

def vrfUp (owner : VrfRow × Vrf) : Bridge := owner.2.up

variable (valid : SwitchIndex switch)

theorem vrf_deletes : Loop (vrfKind switch input valid) (stage .vrfDeletePorts) some vrfUp vrfDeleteBlocks where
  name := fun _ _ _ made => congrArg vrfUpName (Option.some.inj made).symm
  backed := fun late => absurd late (by decide)
  about := fun _ _ owner _ event member => by
    rw [List.mem_singleton.mp member]
    exact of_vrf_event owner.2.up .vrfDeletePorts rfl rfl rfl owner.2 rfl rfl
  sorted := fun _ => singleton_sorted _

theorem vrf_reconfigures :
    Loop (vrfKind switch input valid) (stage .vrfReconfigurePorts) (fun owner => some (vrfDeletePhase input owner)) vrfUp
      (vrfReconfigureBlocks input) where
  name := fun owner row _ made => by
    rw [← Option.some.inj made]
    exact (vrf_delete_phase_frame input owner ((vrfs_index switch input valid).2 owner row)).name
  backed := fun late => absurd late (by decide)
  about := fun owner row deleted made event member => by
    have index := (vrfs_index switch input valid).2 owner row
    have frame := vrf_delete_phase_frame input owner index
    rw [← Option.some.inj made] at member ⊢
    unfold vrfReconfigureBlocks at member
    split at member
    · rw [List.mem_singleton.mp member]
      exact of_vrf_event _ .vrfReconfigurePorts rfl rfl rfl _ ((vrf_deleted_thinned input owner index).1.name.trans frame.name.symm)
        ((vrf_deleted_ofproto input owner index).trans frame.ofproto.symm)
    · cases member
  sorted := fun owner => by
    unfold vrfReconfigureBlocks
    split
    · exact singleton_sorted _
    · exact List.Pairwise.nil

theorem vrf_adds : Loop (vrfKind switch input valid) (stage .vrfAddPorts) (readyVrf input) vrfUp (vrfAddBlocks input) where
  name := fun owner row ready made => (ready_vrf_facts input owner ((vrfs_index switch input valid).2 owner row) ready made).1
  backed := fun _ owner row ready made => (ready_vrf_facts input owner ((vrfs_index switch input valid).2 owner row) ready made).2.1
  about := fun owner row ready made event member => by
    obtain ⟨name, up, addedName, addedUp⟩ := ready_vrf_facts input owner ((vrfs_index switch input valid).2 owner row) ready made
    rw [List.mem_singleton.mp member]
    exact of_vrf_event ready.2.up .vrfAddPorts rfl rfl rfl _ (addedName.trans name.symm) (addedUp.trans up.symm)
  sorted := fun _ => singleton_sorted _

theorem vrf_configures :
    Loop (vrfKind switch input valid) (stage .reconfigureNeighbors) (fun owner => (readyVrf input owner).map (vrfAddPhase input)) Vrf.up
      (vrfConfigureBlocks input) where
  name := fun owner row added made => by
    obtain ⟨ready, here, rfl⟩ := Option.map_eq_some_iff.mp made
    exact (ready_vrf_facts input owner ((vrfs_index switch input valid).2 owner row) ready here).2.2.1
  backed := fun _ owner row added made => by
    obtain ⟨ready, here, rfl⟩ := Option.map_eq_some_iff.mp made
    exact (ready_vrf_facts input owner ((vrfs_index switch input valid).2 owner row) ready here).2.2.2
  about := fun _ _ added _ => (vrf_configure_blocks input added).2.2
  sorted := fun added => by
    rw [(vrf_configure_blocks input added).1]
    refine List.pairwise_append.mpr ⟨List.pairwise_append.mpr ⟨updated_sorted _ _ _, ?_, fun entry early later here => ?_⟩,
      List.pairwise_singleton _ _, fun entry early last here => ?_⟩
    · split
      · exact List.pairwise_singleton _ _
      · exact List.Pairwise.nil
    · rw [updated_block _ _ _ entry early]
      split at here
      · rw [List.mem_singleton.mp here]
        decide
      · cases here
    · rw [List.mem_singleton.mp here]
      cases entry.1 <;> decide

end Vrfs

section Run

variable (switch : Switch) (input : Reconfiguration)

structure Living (event : BlockEvent) : Prop where
  bridge : ∀ name, bridgeTag event = some name → ∃ br ∈ bridges switch input, br.name = name
  vrf : ∀ name, vrfTag event = some name → ∃ owner ∈ vrfs switch input, vrfUpName owner = name
  port : PortShown event

structure InStage (place : Nat) (event : BlockEvent) : Prop where
  here : stage event.1 = place
  pointers : Scoped event
  living : Living switch input event
  backed : stage .brAddPorts ≤ place → event.2.ofproto = true

structure UpTo (last : Nat) (events : List BlockEvent) : Prop where
  ordered : events.Pairwise InOrder
  each : ∀ event ∈ events, stage event.1 ≤ last ∧ InStage switch input (stage event.1) event

variable {switch input}

theorem up_to_append {last : Nat} {events more : List BlockEvent} (sofar : UpTo switch input last events)
    (ordered : more.Pairwise InOrder) (next : ∀ event ∈ more, InStage switch input (last + 1) event) :
    UpTo switch input (last + 1) (events ++ more) where
  ordered := by
    refine List.pairwise_append.mpr ⟨sofar.ordered, ordered, fun first old second new => .inl (stage_number _ _ ?_)⟩
    rw [(next second new).here]
    exact Nat.lt_succ_of_le (sofar.each first old).1
  each := fun event member => by
    rcases List.mem_append.mp member with old | new
    · exact ⟨Nat.le_succ_of_le (sofar.each event old).1, (sofar.each event old).2⟩
    · have here := (next event new).here
      exact ⟨Nat.le_of_eq here, here ▸ next event new⟩

variable (valid : SwitchIndex switch)

theorem bridge_shown {place : Nat} (event : BlockEvent) (shown : Shown (bridgeKind switch input valid) place event) :
    InStage switch input place event := by
  refine ⟨shown.here, shown.pointers, ⟨fun name tagged => ?_, fun name tagged => ?_, shown.port⟩, shown.backed⟩
  · obtain ⟨br, row, same⟩ := shown.living
    exact ⟨br, row, Option.some.inj (same.symm.trans tagged)⟩
  · exact absurd (shown.other.symm.trans tagged) (Option.some_ne_none name).symm

theorem vrf_shown {place : Nat} (event : BlockEvent) (shown : Shown (vrfKind switch input valid) place event) :
    InStage switch input place event := by
  refine ⟨shown.here, shown.pointers, ⟨fun name tagged => ?_, fun name tagged => ?_, shown.port⟩, shown.backed⟩
  · exact absurd (shown.other.symm.trans tagged) (Option.some_ne_none name).symm
  · obtain ⟨owner, row, same⟩ := shown.living
    exact ⟨owner, row, Option.some.inj (same.symm.trans tagged)⟩

variable {β : Type} {place : Nat} {up : β → Bridge} {events : β → List BlockEvent} {walked : List β} {sofar : List BlockEvent}

theorem bridge_loop_up_to {f : Bridge → Option β} (loop : Loop (bridgeKind switch input valid) (place + 1) f up events)
    (walks : walked.Perm ((bridges switch input).filterMap f)) (before : UpTo switch input place sofar) :
    UpTo switch input (place + 1) (sofar ++ walked.flatMap events) :=
  up_to_append before (loop_in_order loop walks) (fun event member => bridge_shown valid event (loop_shown loop walks event member))

theorem vrf_loop_up_to {f : VrfRow × Vrf → Option β} (loop : Loop (vrfKind switch input valid) (place + 1) f up events)
    (walks : walked.Perm ((vrfs switch input).filterMap f)) (before : UpTo switch input place sofar) :
    UpTo switch input (place + 1) (sofar ++ walked.flatMap events) :=
  up_to_append before (loop_in_order loop walks) (fun event member => vrf_shown valid event (loop_shown loop walks event member))

theorem bridge_loop_told {f : Bridge → Option β} (loop : Loop (bridgeKind switch input valid) place f up events)
    (walks : walked.Perm ((bridges switch input).filterMap f)) (br : Bridge) (member : br ∈ bridges switch input) :
    (walked.flatMap events).filter (fun event => bridgeTag event = some br.name) = (f br).elim [] events :=
  loop_of_owner loop walks br member

theorem bridge_loop_apart {f : Bridge → Option β} (loop : Loop (bridgeKind switch input valid) place f up events)
    (walks : walked.Perm ((bridges switch input).filterMap f)) (name : String) :
    (walked.flatMap events).filter (fun event => vrfTag event = some name) = [] :=
  loop_of_other loop walks name

theorem vrf_loop_told {f : VrfRow × Vrf → Option β} (loop : Loop (vrfKind switch input valid) place f up events)
    (walks : walked.Perm ((vrfs switch input).filterMap f)) (owner : VrfRow × Vrf) (member : owner ∈ vrfs switch input) :
    (walked.flatMap events).filter (fun event => vrfTag event = some (vrfUpName owner)) = (f owner).elim [] events :=
  loop_of_owner loop walks owner member

theorem vrf_loop_apart {f : VrfRow × Vrf → Option β} (loop : Loop (vrfKind switch input valid) place f up events)
    (walks : walked.Perm ((vrfs switch input).filterMap f)) (name : String) :
    (walked.flatMap events).filter (fun event => bridgeTag event = some name) = [] :=
  loop_of_other loop walks name

variable (switch input)

structure Walks : Prop where
  bridges : (input.env.order.walk (bridges switch input)).Perm ((bridges switch input).filterMap some)
  vrfs : (input.env.order.walk (vrfs switch input)).Perm ((vrfs switch input).filterMap some)
  deletedBridges : (input.env.order.walk (deletedBridges switch input)).Perm
    ((PluginBlocks.bridges switch input).filterMap (fun br => some (bridgeDeletePhase input br)))
  deletedVrfs : (input.env.order.walk (deletedVrfs switch input)).Perm
    ((PluginBlocks.vrfs switch input).filterMap (fun owner => some (vrfDeletePhase input owner)))
  createdBridges : (input.env.order.walk (createdBridges switch input)).Perm
    ((PluginBlocks.bridges switch input).filterMap (readyBridge input))
  createdVrfs : (input.env.order.walk (createdVrfs switch input)).Perm ((PluginBlocks.vrfs switch input).filterMap (readyVrf input))
  addedBridges : (input.env.order.walk ((PluginBlocks.createdBridges switch input).map (bridgeAddPhase input))).Perm
    ((PluginBlocks.bridges switch input).filterMap (fun br => (readyBridge input br).map (bridgeAddPhase input)))
  addedVrfs : (input.env.order.walk ((PluginBlocks.createdVrfs switch input).map (vrfAddPhase input))).Perm
    ((PluginBlocks.vrfs switch input).filterMap (fun owner => (readyVrf input owner).map (vrfAddPhase input)))

theorem walks : Walks switch input where
  bridges := (input.env.order.perm _).trans (by rw [List.filterMap_some])
  vrfs := (input.env.order.perm _).trans (by rw [List.filterMap_some])
  deletedBridges := (input.env.order.perm _).trans (by rw [deletedBridges, List.filterMap_eq_map'])
  deletedVrfs := (input.env.order.perm _).trans (by rw [deletedVrfs, List.filterMap_eq_map'])
  createdBridges := (input.env.order.perm _).trans (by rw [created_bridges_eq])
  createdVrfs := (input.env.order.perm _).trans (by rw [created_vrfs_eq])
  addedBridges := (input.env.order.perm _).trans (by rw [created_bridges_eq, List.map_filterMap])
  addedVrfs := (input.env.order.perm _).trans (by rw [created_vrfs_eq, List.map_filterMap])

include valid

theorem blocks_up_to : UpTo switch input (stage .reconfigureNeighbors) (reconfigureBlocks switch input) := by
  have walked := walks switch input
  have start : UpTo switch input 0 [(.initReconfigure, clearBlkParams)] := by
    refine ⟨List.pairwise_singleton _ _, fun event member => ?_⟩
    rw [List.mem_singleton.mp member]
    refine ⟨Nat.le_refl 0, rfl, ⟨rfl, rfl, rfl⟩, ⟨?_, ?_, ?_⟩, fun late => absurd late (by decide)⟩
    · exact fun name tagged => absurd tagged.symm (Option.some_ne_none name)
    · exact fun name tagged => absurd tagged.symm (Option.some_ne_none name)
    · exact fun port shown => absurd shown (Option.not_mem_none _)
  have deleted := vrf_loop_up_to valid (vrf_deletes switch input valid) walked.vrfs
    (bridge_loop_up_to valid (bridge_deletes switch input valid) walked.bridges start)
  have reconfigured := vrf_loop_up_to valid (vrf_reconfigures switch input valid) walked.deletedVrfs
    (bridge_loop_up_to valid (bridge_reconfigures switch input valid) walked.deletedBridges deleted)
  have added := vrf_loop_up_to valid (vrf_adds switch input valid) walked.createdVrfs
    (bridge_loop_up_to valid (bridge_adds switch input valid) walked.createdBridges reconfigured)
  exact vrf_loop_up_to valid (vrf_configures switch input valid) walked.addedVrfs
    (bridge_loop_up_to valid (bridge_configures switch input valid) walked.addedBridges added)

theorem bridge_blocks_told (br : Bridge) (member : br ∈ bridges switch input) :
    ((reconfigureBlocks switch input).filter (fun event => bridgeTag event = some br.name)).map view = bridgeBlocks input br := by
  have walked := walks switch input
  have deletes := bridge_loop_told valid (bridge_deletes switch input valid) walked.bridges br member
  have reconfigures := bridge_loop_told valid (bridge_reconfigures switch input valid) walked.deletedBridges br member
  have adds := bridge_loop_told valid (bridge_adds switch input valid) walked.createdBridges br member
  have configures := bridge_loop_told valid (bridge_configures switch input valid) walked.addedBridges br member
  have vrfDeletes := vrf_loop_apart valid (vrf_deletes switch input valid) walked.vrfs br.name
  have vrfReconfigures := vrf_loop_apart valid (vrf_reconfigures switch input valid) walked.deletedVrfs br.name
  have vrfAdds := vrf_loop_apart valid (vrf_adds switch input valid) walked.createdVrfs br.name
  have vrfConfigures := vrf_loop_apart valid (vrf_configures switch input valid) walked.addedVrfs br.name
  have start : [((.initReconfigure, clearBlkParams) : BlockEvent)].filter (fun event => bridgeTag event = some br.name) = [] := rfl
  have ofproto := (bridge_delete_phase_frame input br ((bridges_index switch input valid).2 br member)).ofproto
  simp only [reconfigureBlocks, List.filter_append, start, deletes, reconfigures, adds, configures, vrfDeletes, vrfReconfigures, vrfAdds,
    vrfConfigures, List.nil_append, List.append_nil, Option.elim_some, Option.elim_map]
  unfold bridgeBlocks bridgeReconfigureBlocks
  rw [ofproto]
  cases readyBridge input br with
  | none => cases br.ofproto <;> rfl
  | some ready =>
      simp only [List.map_append, Option.elim_some, Function.comp_apply, (bridge_configure_blocks input (bridgeAddPhase input ready)).1]
      cases br.ofproto <;> rfl

theorem vrf_blocks_told (owner : VrfRow × Vrf) (member : owner ∈ vrfs switch input) :
    ((reconfigureBlocks switch input).filter (fun event => vrfTag event = some (vrfUpName owner))).map view = vrfBlocks input owner := by
  have walked := walks switch input
  have deletes := vrf_loop_told valid (vrf_deletes switch input valid) walked.vrfs owner member
  have reconfigures := vrf_loop_told valid (vrf_reconfigures switch input valid) walked.deletedVrfs owner member
  have adds := vrf_loop_told valid (vrf_adds switch input valid) walked.createdVrfs owner member
  have configures := vrf_loop_told valid (vrf_configures switch input valid) walked.addedVrfs owner member
  have bridgeDeletes := bridge_loop_apart valid (bridge_deletes switch input valid) walked.bridges (vrfUpName owner)
  have bridgeReconfigures := bridge_loop_apart valid (bridge_reconfigures switch input valid) walked.deletedBridges (vrfUpName owner)
  have bridgeAdds := bridge_loop_apart valid (bridge_adds switch input valid) walked.createdBridges (vrfUpName owner)
  have bridgeConfigures := bridge_loop_apart valid (bridge_configures switch input valid) walked.addedBridges (vrfUpName owner)
  have start : [((.initReconfigure, clearBlkParams) : BlockEvent)].filter (fun event => vrfTag event = some (vrfUpName owner)) = [] := rfl
  have ofproto := (vrf_delete_phase_frame input owner ((vrfs_index switch input valid).2 owner member)).ofproto
  simp only [reconfigureBlocks, List.filter_append, start, deletes, reconfigures, adds, configures, bridgeDeletes, bridgeReconfigures,
    bridgeAdds, bridgeConfigures, List.nil_append, List.append_nil, Option.elim_some, Option.elim_map]
  unfold vrfBlocks vrfReconfigureBlocks
  rw [ofproto]
  cases readyVrf input owner with
  | none => cases owner.2.up.ofproto <;> rfl
  | some ready =>
      simp only [List.map_append, Option.elim_some, Function.comp_apply, (vrf_configure_blocks input (vrfAddPhase input ready)).1]
      cases owner.2.up.ofproto <;> rfl

end Run

section Runs

structure Protocol (switch : Switch) (input : Reconfiguration) : Prop where
  ordered : (reconfigureBlocks switch input).Pairwise InOrder
  pointers : ∀ event ∈ reconfigureBlocks switch input, Scoped event
  living : ∀ event ∈ reconfigureBlocks switch input, Living switch input event
  backed : ∀ event ∈ reconfigureBlocks switch input, stage .brAddPorts ≤ stage event.1 → event.2.ofproto = true
  bridges : ∀ br ∈ bridges switch input,
    ((reconfigureBlocks switch input).filter (fun event => bridgeTag event = some br.name)).map view = bridgeBlocks input br
  vrfs : ∀ owner ∈ vrfs switch input,
    ((reconfigureBlocks switch input).filter (fun event => vrfTag event = some (vrfUpName owner))).map view = vrfBlocks input owner
  lastBridges : ∀ br ∈ (bridgeReconfigure switch input).bridges, (.brFeatureReconfig, ofBridge br) ∈ reconfigureBlocks switch input
  lastVrfs : ∀ vrf ∈ (bridgeReconfigure switch input).vrfs, (.reconfigureNeighbors, ofVrf vrf) ∈ reconfigureBlocks switch input

theorem reconfigure_protocol (switch : Switch) (input : Reconfiguration) (valid : SwitchIndex switch) : Protocol switch input where
  ordered := (blocks_up_to switch input valid).ordered
  pointers := fun event member => ((blocks_up_to switch input valid).each event member).2.pointers
  living := fun event member => ((blocks_up_to switch input valid).each event member).2.living
  backed := fun event member => ((blocks_up_to switch input valid).each event member).2.backed
  bridges := bridge_blocks_told switch input valid
  vrfs := vrf_blocks_told switch input valid
  lastBridges := fun after member => by
    obtain ⟨added, present, rfl⟩ := List.mem_map.mp member
    have told := (bridge_configure_blocks input added).2.1
    exact List.mem_append_left _ (List.mem_append_right _
      (List.mem_flatMap.mpr ⟨added, (input.env.order.mem_walk _ _).mpr present, told⟩))
  lastVrfs := fun after member => by
    obtain ⟨added, present, rfl⟩ := List.mem_map.mp member
    have told := (vrf_configure_blocks input added).2.1
    exact List.mem_append_right _ (List.mem_flatMap.mpr ⟨added, (input.env.order.mem_walk _ _).mpr present, told⟩)

theorem reached_switch_index (inputs : List Reconfiguration) : SwitchIndex (Runs.run bridgeReconfigure ⟨[], []⟩ inputs) := by
  have always := Runs.invariant_always (fun switch input valid _ => bridge_reconfigure_index switch input valid)
    empty_switch_index ((Runs.along_inputs bridgeReconfigure (fun _ => True) ⟨[], []⟩ inputs).mpr (fun _ _ => trivial))
  exact always inputs [] (List.append_nil inputs).symm

end Runs

end OpsSwitchd.PluginBlocks
