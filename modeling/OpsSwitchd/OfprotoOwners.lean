import OpsSwitchd.Ownership
import OpsSwitchd.PluginProtocol
import OpsSwitchd.Settling

set_option autoImplicit false

namespace OpsSwitchd.Ofprotos

open PluginBlocks (bridges vrfs deletedBridges deletedVrfs)

abbrev OfprotoKey := String × String

def bridgeKey (br : Bridge) : OfprotoKey := (br.name, br.type)

def vrfKey (name : String) : OfprotoKey := (name, "vrf")

-- What the datapath lists includes what a process before this one left.
structure State where
  switch : Switch
  registry : List OfprotoKey

structure Input where
  run : Reconfiguration
  ofprotoDelete : OfprotoKey → Bool

-- What the calls of the ofproto library make of the listed ofprotos. The first
-- argument says that the pointer is not NULL, or that the call succeeds.
structure Library where
  ofprotoDestroy : Bool → OfprotoKey → List OfprotoKey → List OfprotoKey
  ofprotoDelete : Bool → OfprotoKey → List OfprotoKey → List OfprotoKey
  ofprotoCreate : Bool → OfprotoKey → List OfprotoKey → List OfprotoKey

structure Contract (library : Library) : Prop where
  destroyed : ∀ key registry k, k ∈ library.ofprotoDestroy true key registry ↔ k ∈ registry ∧ k ≠ key
  spared : ∀ key registry k, k ∈ library.ofprotoDestroy false key registry ↔ k ∈ registry
  deleted : ∀ key registry k, k ∈ library.ofprotoDelete true key registry ↔ k ∈ registry ∧ k ≠ key
  refused : ∀ key registry k, k ∈ library.ofprotoDelete false key registry ↔ k ∈ registry
  created : ∀ key registry k, k ∈ library.ofprotoCreate true key registry ↔ k ∈ registry ∨ k = key
  failed : ∀ key registry k, k ∈ library.ofprotoCreate false key registry ↔ k ∈ registry

section Calls

variable (library : Library)

def destroyOfprotos {α : Type} (ofproto : α → Bool) (key : α → OfprotoKey) (gone : List α) (registry : List OfprotoKey) : List OfprotoKey :=
  gone.foldl (fun registry owner => library.ofprotoDestroy (ofproto owner) (key owner) registry) registry

def destroyBridges : List Bridge → List OfprotoKey → List OfprotoKey := destroyOfprotos library Bridge.ofproto bridgeKey

def destroyVrfs : List Vrf → List OfprotoKey → List OfprotoKey :=
  destroyOfprotos library (fun vrf => vrf.up.ofproto) (fun vrf => vrfKey vrf.up.name)

def ofprotoWanted (allBridges : List Bridge) (allVrfs : List (VrfRow × Vrf)) (key : OfprotoKey) : Bool :=
  (Keyed.lookup Bridge.name key.1 allBridges).any (fun br => key.2 = br.type) ||
    ((Keyed.lookup vrfUpName key.1 allVrfs).isSome && key.2 = "vrf")

def bridgeDeleteOfprotos (order : HashOrder) (answer : OfprotoKey → Bool) (allBridges : List Bridge)
    (allVrfs : List (VrfRow × Vrf)) (registry : List OfprotoKey) : List OfprotoKey :=
  (order.walk registry).foldl (fun registry key =>
    if ofprotoWanted allBridges allVrfs key then registry else library.ofprotoDelete (answer key) key registry) registry

-- An owner whose ofproto cannot be created is destroyed, without an ofproto.
def createOfproto {α : Type} (ofproto answer : α → Bool) (key : α → OfprotoKey) (registry : List OfprotoKey) (owner : α) :
    List OfprotoKey :=
  if ofproto owner then registry
  else
    let registry := library.ofprotoCreate (answer owner) (key owner) registry
    if answer owner then registry else library.ofprotoDestroy false (key owner) registry

def createBridgeOfproto (input : Reconfiguration) : List OfprotoKey → Bridge → List OfprotoKey :=
  createOfproto library Bridge.ofproto (fun br => input.datapath.createBridge br.name) bridgeKey

def createVrfOfproto (input : Reconfiguration) : List OfprotoKey → VrfRow × Vrf → List OfprotoKey :=
  createOfproto library (fun owner => owner.2.up.ofproto) (fun owner => input.datapath.createVrf owner.2.up.name)
    (fun owner => vrfKey owner.2.up.name)

def reconfigureOfprotos (state : State) (input : Input) : State :=
  let run := input.run
  let order := run.env.order
  let gone := bridgesDestroyed run.datapath.normalizeType run.cfg.bridges state.switch.bridges
  let registry := destroyBridges library (order.walk gone) state.registry
  let registry := destroyVrfs library (order.walk (vrfsDestroyed run.cfg.vrfs state.switch.vrfs)) registry
  let registry := bridgeDeleteOfprotos library order input.ofprotoDelete (deletedBridges state.switch run) (deletedVrfs state.switch run)
    registry
  let readyBridges := (deletedBridges state.switch run).map (bridgeReconfigurePhase run)
  let readyVrfs := (deletedVrfs state.switch run).map (vrfReconfigurePhase run)
  let registry := (order.walk readyBridges).foldl (createBridgeOfproto library run) registry
  let registry := (order.walk readyVrfs).foldl (createVrfOfproto library run) registry
  ⟨bridgeReconfigure state.switch run, registry⟩

end Calls

section Registry

variable {library : Library} (contract : Contract library)
include contract

theorem mem_destroyed {α : Type} (ofproto : α → Bool) (key : α → OfprotoKey) (gone : List α) (registry : List OfprotoKey) (k : OfprotoKey) :
    k ∈ destroyOfprotos library ofproto key gone registry ↔ k ∈ registry ∧ ∀ a ∈ gone, ofproto a = true → key a ≠ k := by
  unfold destroyOfprotos
  induction gone generalizing registry with
  | nil => simp
  | cons a tail ih =>
      rw [List.foldl_cons, ih, List.forall_mem_cons]
      cases ofproto a with
      | false =>
          rw [contract.spared]
          simp
      | true =>
          rw [contract.destroyed]
          constructor
          · rintro ⟨⟨old, other⟩, rest⟩
            exact ⟨old, fun _ same => other same.symm, rest⟩
          · rintro ⟨old, other, rest⟩
            exact ⟨⟨old, fun same => other rfl same.symm⟩, rest⟩

theorem mem_delete_step (allBridges : List Bridge) (allVrfs : List (VrfRow × Vrf)) (answer : Bool) (key k : OfprotoKey)
    (registry : List OfprotoKey) :
    k ∈ (if ofprotoWanted allBridges allVrfs key then registry else library.ofprotoDelete answer key registry) ↔
      k ∈ registry ∧ (k = key → ofprotoWanted allBridges allVrfs key = true ∨ answer = false) := by
  cases ofprotoWanted allBridges allVrfs key with
  | true => simp
  | false =>
      rw [if_neg Bool.false_ne_true]
      cases answer with
      | false =>
          rw [contract.refused]
          simp
      | true =>
          rw [contract.deleted]
          simp

theorem mem_delete_ofprotos (order : HashOrder) (answer : OfprotoKey → Bool) (allBridges : List Bridge)
    (allVrfs : List (VrfRow × Vrf)) (registry : List OfprotoKey) (k : OfprotoKey) :
    k ∈ bridgeDeleteOfprotos library order answer allBridges allVrfs registry ↔
      k ∈ registry ∧ (ofprotoWanted allBridges allVrfs k = true ∨ answer k = false) := by
  have general : ∀ listed start, k ∈ List.foldl (fun registry key =>
      if ofprotoWanted allBridges allVrfs key then registry else library.ofprotoDelete (answer key) key registry) start listed ↔
      k ∈ start ∧ (k ∈ listed → ofprotoWanted allBridges allVrfs k = true ∨ answer k = false) := by
    intro listed
    induction listed with
    | nil => simp
    | cons key tail ih =>
        intro start
        rw [List.foldl_cons, ih, mem_delete_step contract, and_assoc]
        refine and_congr_right (fun _ => ?_)
        constructor
        · rintro ⟨here, later⟩ member
          rcases List.mem_cons.mp member with rfl | rest
          · exact here rfl
          · exact later rest
        · intro spared
          exact ⟨fun same => same ▸ spared (same ▸ List.mem_cons_self), fun rest => spared (List.mem_cons_of_mem _ rest)⟩
  rw [bridgeDeleteOfprotos, general]
  constructor
  · rintro ⟨old, spared⟩
    exact ⟨old, spared ((order.mem_walk _ _).mpr old)⟩
  · rintro ⟨old, spared⟩
    exact ⟨old, fun _ => spared⟩

theorem mem_created {α : Type} (ofproto answer : α → Bool) (key : α → OfprotoKey) (owners : List α)
    (registry : List OfprotoKey) (k : OfprotoKey) :
    k ∈ owners.foldl (createOfproto library ofproto answer key) registry ↔
      k ∈ registry ∨ ∃ a ∈ owners, ofproto a = false ∧ answer a = true ∧ key a = k := by
  induction owners generalizing registry with
  | nil => simp
  | cons a tail ih =>
      rw [List.foldl_cons, ih, List.exists_mem_cons_iff]
      unfold createOfproto
      cases ofproto a with
      | true => simp
      | false =>
          cases answer a with
          | false =>
              rw [if_neg Bool.false_ne_true, if_neg Bool.false_ne_true, contract.spared, contract.failed]
              simp
          | true =>
              rw [if_neg Bool.false_ne_true, if_pos rfl, contract.created, or_assoc]
              refine or_congr_right (or_congr_left ?_)
              simp [eq_comm]

end Registry

section Owners

variable (state : State) (input : Input)

def gone : List Bridge :=
  bridgesDestroyed input.run.datapath.normalizeType input.run.cfg.bridges state.switch.bridges

def goneVrfs : List Vrf := vrfsDestroyed input.run.cfg.vrfs state.switch.vrfs

def held : Ownership.Held OfprotoKey where
  owners := {key | (∃ br ∈ state.switch.bridges, bridgeKey br = key) ∨ ∃ vrf ∈ state.switch.vrfs, vrfKey (vrfName vrf) = key}
  registry := {key | key ∈ state.registry}

def pass : Ownership.Pass OfprotoKey where
  destroyed := {key | (∃ br ∈ gone state input, bridgeKey br = key) ∨ ∃ vrf ∈ goneVrfs state input, vrfKey (vrfName vrf) = key}
  wanted := {key | (∃ br ∈ bridges state.switch input.run, bridgeKey br = key) ∨
    ∃ owner ∈ vrfs state.switch input.run, vrfKey (vrfUpName owner) = key}
  deletes := {key | input.ofprotoDelete key = true}
  creates := {key | (∃ br ∈ bridges state.switch input.run, bridgeKey br = key ∧
      input.run.datapath.createBridge br.name = true) ∨
    ∃ owner ∈ vrfs state.switch input.run, vrfKey (vrfUpName owner) = key ∧
      input.run.datapath.createVrf (vrfUpName owner) = true}

-- Between two runs every owner has an ofproto. A bridge of type "vrf" would
-- share the entry of a VRF.
structure Settled : Prop where
  index : SwitchIndex state.switch
  bridges : ∀ br ∈ state.switch.bridges, br.ofproto = true ∧ br.type ≠ "vrf"
  vrfs : ∀ vrf ∈ state.switch.vrfs, vrf.up.ofproto = true

def TypesApart : Prop :=
  ∀ row ∈ input.run.cfg.bridges, input.run.datapath.normalizeType row.datapathType ≠ "vrf"

variable {state input}

theorem bridge_key_not_vrf {br : Bridge} {name : String} (apart : br.type ≠ "vrf") : vrfKey name ≠ bridgeKey br :=
  fun same => apart (congrArg Prod.snd same).symm

theorem bridge_type_apart (settled : Settled state) (types : TypesApart input) (br : Bridge)
    (member : br ∈ bridges state.switch input.run) : br.type ≠ "vrf" := by
  obtain ⟨row, listed, same⟩ := add_del_bridges_types _ _ _ settled.index.bridgeNames br member
  rw [same]
  exact types row (Keyed.lookup_mem BridgeRow.name listed)

theorem bridge_origin (settled : Settled state) (br : Bridge) (member : br ∈ bridges state.switch input.run) :
    (br.ofproto = true ∧ ∃ old ∈ state.switch.bridges, bridgeKey old = bridgeKey br ∧ old ∉ gone state input) ∨
      (br.ofproto = false ∧ ∀ old ∈ state.switch.bridges, old.name = br.name → old ∈ gone state input) := by
  rw [bridges, add_del_bridges_eq] at member
  rcases Reconcile.reconcile_origin BridgeRow.name Bridge.name Bridge.name _ _ (keep_bridge_name _ _) (fun _ => rfl) _
    settled.index.bridgeNames br member with ⟨old, inside, found⟩ | ⟨⟨row, rfl⟩, replaced⟩
  · obtain ⟨cfg, rfl⟩ := keep_bridge_some _ _ old br found
    refine .inl ⟨(settled.bridges old inside).1, old, inside, rfl, fun destroyed => ?_⟩
    rw [((Reconcile.mem_destroyed _).mp destroyed).2] at found
    cases found
  · exact .inr ⟨rfl, fun old inside same => (Reconcile.mem_destroyed _).mpr ⟨inside, replaced old inside same⟩⟩

theorem vrf_origin (settled : Settled state) (owner : VrfRow × Vrf) (member : owner ∈ vrfs state.switch input.run) :
    (owner.2.up.ofproto = true ∧ ∃ old ∈ state.switch.vrfs, vrfName old = vrfUpName owner ∧ old ∉ goneVrfs state input) ∨
      (owner.2.up.ofproto = false ∧ ∀ old ∈ state.switch.vrfs, vrfName old = vrfUpName owner → old ∈ goneVrfs state input) := by
  rw [vrfs, add_del_vrfs_eq] at member
  rcases Reconcile.reconcile_origin VrfRow.name vrfName vrfUpName _ _ (keep_vrf_name _) (fun _ => rfl) _
    settled.index.vrfNames owner member with ⟨old, inside, found⟩ | ⟨⟨row, rfl⟩, replaced⟩
  · have name := keep_vrf_name _ old owner found
    obtain ⟨_, row, _, rfl⟩ := (keep_vrf_eq_some _ old owner).mp found
    refine .inl ⟨settled.vrfs old inside, old, inside, name.symm, fun destroyed => ?_⟩
    rw [((Reconcile.mem_destroyed _).mp destroyed).2] at found
    cases found
  · exact .inr ⟨rfl, fun old inside same => (Reconcile.mem_destroyed _).mpr ⟨inside, replaced old inside same⟩⟩

theorem bridge_up_iff (settled : Settled state) (types : TypesApart input) (br : Bridge)
    (member : br ∈ bridges state.switch input.run) :
    br.ofproto = true ↔ bridgeKey br ∈ (pass state input).kept (held state) := by
  have apart := bridge_type_apart settled types br member
  rcases bridge_origin settled br member with ⟨up, old, inside, same, alive⟩ | ⟨down, replaced⟩
  · refine ⟨fun _ => ⟨.inl ⟨old, inside, same⟩, ?_⟩, fun _ => up⟩
    rintro (⟨other, destroyed, equal⟩ | ⟨vrf, _, equal⟩)
    · have present := ((Reconcile.mem_destroyed _).mp destroyed).1
      have one := Keyed.unique_mem_eq Bridge.name settled.index.bridgeNames present inside (congrArg Prod.fst (equal.trans same.symm))
      exact alive (one ▸ destroyed)
    · exact bridge_key_not_vrf apart equal
  · refine ⟨fun up => absurd (up.symm.trans down) (by decide), ?_⟩
    rintro ⟨⟨old, inside, same⟩ | ⟨vrf, _, equal⟩, alive⟩
    · exact absurd (.inl ⟨old, replaced old inside (congrArg Prod.fst same), same⟩) alive
    · exact absurd equal (bridge_key_not_vrf apart)

theorem vrf_up_iff (settled : Settled state) (owner : VrfRow × Vrf) (member : owner ∈ vrfs state.switch input.run) :
    owner.2.up.ofproto = true ↔ vrfKey (vrfUpName owner) ∈ (pass state input).kept (held state) := by
  rcases vrf_origin settled owner member with ⟨up, old, inside, same, alive⟩ | ⟨down, replaced⟩
  · refine ⟨fun _ => ⟨.inr ⟨old, inside, congrArg vrfKey same⟩, ?_⟩, fun _ => up⟩
    rintro (⟨br, destroyed, equal⟩ | ⟨other, destroyed, equal⟩)
    · have present := ((Reconcile.mem_destroyed _).mp destroyed).1
      exact bridge_key_not_vrf (settled.bridges br present).2 equal.symm
    · have present := ((Reconcile.mem_destroyed _).mp destroyed).1
      have one := Keyed.unique_mem_eq vrfName settled.index.vrfNames present inside ((congrArg Prod.fst equal).trans same.symm)
      exact alive (one ▸ destroyed)
  · refine ⟨fun up => absurd (up.symm.trans down) (by decide), ?_⟩
    rintro ⟨⟨br, inside, equal⟩ | ⟨old, inside, equal⟩, alive⟩
    · exact absurd equal.symm (bridge_key_not_vrf (settled.bridges br inside).2)
    · exact absurd (.inr ⟨old, replaced old inside (congrArg Prod.fst equal), equal⟩) alive

theorem kept_wanted (settled : Settled state) : (pass state input).kept (held state) ⊆ (pass state input).wanted := by
  rintro key ⟨⟨br, inside, same⟩ | ⟨vrf, inside, same⟩, alive⟩
  · cases found : keepBridge input.run.datapath.normalizeType (newBridges input.run.cfg.bridges) br with
    | none => exact absurd (.inl ⟨br, (Reconcile.mem_destroyed _).mpr ⟨inside, found⟩, same⟩) alive
    | some kept =>
        have member := Reconcile.reconcile_keeps BridgeRow.name Bridge.name Bridge.name _
          (bridgeCreate input.run.datapath.normalizeType) (keep_bridge_name _ _) (fun _ => rfl) input.run.cfg.bridges
          settled.index.bridgeNames br inside kept found
        rw [← add_del_bridges_eq] at member
        obtain ⟨cfg, rfl⟩ := keep_bridge_some _ _ br kept found
        exact .inl ⟨_, member, same⟩
  · cases found : keepVrf (newVrfs input.run.cfg.vrfs) vrf with
    | none => exact absurd (.inr ⟨vrf, (Reconcile.mem_destroyed _).mpr ⟨inside, found⟩, same⟩) alive
    | some owner =>
        have member := Reconcile.reconcile_keeps VrfRow.name vrfName vrfUpName _ (fun row => (row, vrfCreate row))
          (keep_vrf_name _) (fun _ => rfl) input.run.cfg.vrfs settled.index.vrfNames vrf inside owner found
        rw [← add_del_vrfs_eq] at member
        exact .inr ⟨owner, member, (congrArg vrfKey (keep_vrf_name _ vrf owner found)).trans same⟩

end Owners

section Phases

theorem bridge_deleted_type (input : Reconfiguration) (br : Bridge) : (bridgeDeletePhase input br).type = br.type :=
  (beside_kept (del_ports_beside input.env (bridgeCollectWantedPorts br) (beside_self br))).1

theorem bridge_swept_type (input : Reconfiguration) (br : Bridge) :
    (bridgeReconfigurePhase input (bridgeDeletePhase input br)).type = br.type := by
  have apart := del_ports_beside input.env (bridgeCollectWantedPorts br) (beside_self br)
  unfold bridgeReconfigurePhase
  split
  · exact (beside_kept (delete_or_reconfigure_beside _ _ _ apart)).1
  · exact (beside_kept apart).1

theorem reconfigured_bridge_key (input : Reconfiguration) (br : Bridge) (index : BridgeIndex br) (after : Bridge)
    (done : reconfigureBridge input br = some after) : bridgeKey after = bridgeKey br ∧ after.ofproto = true := by
  have name := (reconfigure_bridge_index input br index after done).1
  obtain ⟨ready, created, rfl⟩ := Option.map_eq_some_iff.mp done
  have up := (PluginBlocks.ready_bridge_facts input br index ready created).2.2.2
  have swept := bridge_swept_type input br
  have type : ready.type = br.type := by
    unfold bridgeCreatePhase at created
    split at created
    · exact Option.some.inj created ▸ swept
    · split at created
      · exact Option.some.inj created ▸ swept
      · cases created
  have added := (beside_kept (add_ports_beside input.env (input.datapath.bridgeIface ready.name) (bridgeCollectWantedPorts ready)
    (beside_self ready))).1
  have rest := configure_vlans_rest input.env.order (configurePorts input.env.order (bridgeAddPhase input ready))
  rw [configure_ports_eq] at rest
  have final : (bridgeConfigurePhase input (bridgeAddPhase input ready)).type = ready.type ∧
      (bridgeConfigurePhase input (bridgeAddPhase input ready)).ofproto = (bridgeAddPhase input ready).ofproto := by
    rw [bridgeConfigurePhase, configure_ports_eq, rest]
    exact ⟨added, rfl⟩
  exact ⟨Prod.ext name (final.1.trans type), final.2.trans up⟩

theorem reconfigured_vrf_key (input : Reconfiguration) (owner : VrfRow × Vrf) (index : BridgeIndex owner.2.up) (after : Vrf)
    (done : reconfigureVrf input owner = some after) : vrfName after = vrfUpName owner ∧ after.up.ofproto = true := by
  have name := (reconfigure_vrf_index input owner index after done).1
  obtain ⟨ready, created, rfl⟩ := Option.map_eq_some_iff.mp done
  have up := (PluginBlocks.ready_vrf_facts input owner index ready created).2.2.2
  obtain ⟨_, told, about⟩ := PluginBlocks.vrf_configure_blocks input (vrfAddPhase input ready)
  exact ⟨name, (about _ told).ofproto.trans up⟩

end Phases

section Simulation

variable {library : Library} {state : State} {input : Input} (settled : Settled state)
include settled

theorem ofproto_wanted_iff (key : OfprotoKey) :
    ofprotoWanted (deletedBridges state.switch input.run) (deletedVrfs state.switch input.run) key = true ↔
      key ∈ (pass state input).wanted := by
  obtain ⟨unique, index⟩ := PluginBlocks.bridges_index state.switch input.run settled.index
  obtain ⟨vrfUnique, vrfIndex⟩ := PluginBlocks.vrfs_index state.switch input.run settled.index
  have bridge := Keyed.lookup_map_mem Bridge.name Bridge.name key.1 (bridgeDeletePhase input.run)
    (fun br member => (bridge_delete_phase_frame input.run br (index br member)).name)
  have vrf := Keyed.lookup_map_mem vrfUpName vrfUpName key.1 (vrfDeletePhase input.run)
    (fun owner member => (vrf_delete_phase_frame input.run owner (vrfIndex owner member)).name)
  unfold ofprotoWanted deletedBridges deletedVrfs
  rw [bridge, vrf, Option.any_map, Option.isSome_map, Bool.or_eq_true]
  refine or_congr ?_ ?_
  · rw [Option.any_eq_true]
    constructor
    · rintro ⟨br, found, type⟩
      have same := of_decide_eq_true type
      rw [bridge_deleted_type] at same
      exact ⟨br, Keyed.lookup_mem Bridge.name found, Prod.ext (Keyed.lookup_key Bridge.name found) same.symm⟩
    · rintro ⟨br, member, rfl⟩
      exact ⟨br, Keyed.lookup_of_mem Bridge.name unique member, decide_eq_true (bridge_deleted_type _ br).symm⟩
  · rw [Bool.and_eq_true, Keyed.lookup_some_iff_exists]
    constructor
    · rintro ⟨⟨owner, member, name⟩, type⟩
      exact ⟨owner, member, Prod.ext name (of_decide_eq_true type).symm⟩
    · rintro ⟨owner, member, rfl⟩
      exact ⟨⟨owner, member, rfl⟩, decide_eq_true rfl⟩

variable (types : TypesApart input)
include types

theorem created_bridge_answer (br : Bridge) (member : br ∈ bridges state.switch input.run)
    (created : bridgeKey br ∈ (pass state input).creates) : input.run.datapath.createBridge br.name = true := by
  have apart := bridge_type_apart settled types br member
  rcases created with ⟨other, _, same, answer⟩ | ⟨owner, _, same, _⟩
  · have name : other.name = br.name := congrArg Prod.fst same
    rw [← name]
    exact answer
  · exact absurd same (bridge_key_not_vrf apart)

theorem created_vrf_answer (owner : VrfRow × Vrf)
    (created : vrfKey (vrfUpName owner) ∈ (pass state input).creates) :
    input.run.datapath.createVrf owner.2.up.name = true := by
  rcases created with ⟨br, present, same, _⟩ | ⟨other, _, same, answer⟩
  · exact absurd same.symm (bridge_key_not_vrf (bridge_type_apart settled types br present))
  · have name : vrfUpName other = vrfUpName owner := congrArg Prod.fst same
    rw [name] at answer
    exact answer

theorem owners_after : (held (reconfigureOfprotos library state input)).owners = ((pass state input).apply (held state)).owners := by
  have index := (PluginBlocks.bridges_index state.switch input.run settled.index).2
  have vrfIndex := (PluginBlocks.vrfs_index state.switch input.run settled.index).2
  ext key
  change ((∃ after ∈ (bridgeReconfigure state.switch input.run).bridges, bridgeKey after = key) ∨
    ∃ after ∈ (bridgeReconfigure state.switch input.run).vrfs, vrfKey (vrfName after) = key) ↔ _
  rw [reconfigure_by_owner]
  constructor
  · rintro (⟨after, member, rfl⟩ | ⟨after, member, rfl⟩)
    · obtain ⟨br, present, done⟩ := List.mem_filterMap.mp member
      have same := (reconfigured_bridge_key input.run br (index br present) after done).1
      rw [same]
      refine ⟨.inl ⟨br, present, rfl⟩, ?_⟩
      rcases (reconfigure_bridge_isSome input.run br (index br present)).mp (by rw [done]; rfl) with up | created
      · exact .inl ((bridge_up_iff settled types br present).mp up)
      · exact .inr (.inl ⟨br, present, rfl, created⟩)
    · obtain ⟨owner, present, done⟩ := List.mem_filterMap.mp member
      have same := (reconfigured_vrf_key input.run owner (vrfIndex owner present) after done).1
      rw [same]
      refine ⟨.inr ⟨owner, present, rfl⟩, ?_⟩
      rcases (reconfigure_vrf_isSome input.run owner (vrfIndex owner present)).mp (by rw [done]; rfl) with up | created
      · exact .inl ((vrf_up_iff settled owner present).mp up)
      · exact .inr (.inr ⟨owner, present, rfl, created⟩)
  · rintro ⟨⟨br, present, rfl⟩ | ⟨owner, present, rfl⟩, kept⟩
    · have some : (reconfigureBridge input.run br).isSome := by
        rw [reconfigure_bridge_isSome input.run br (index br present)]
        exact kept.imp (bridge_up_iff settled types br present).mpr (created_bridge_answer settled types br present)
      obtain ⟨after, done⟩ := Option.isSome_iff_exists.mp some
      exact .inl ⟨after, List.mem_filterMap.mpr ⟨br, present, done⟩,
        (reconfigured_bridge_key input.run br (index br present) after done).1⟩
    · have some : (reconfigureVrf input.run owner).isSome := by
        rw [reconfigure_vrf_isSome input.run owner (vrfIndex owner present)]
        exact kept.imp (vrf_up_iff settled owner present).mpr (created_vrf_answer settled types owner)
      obtain ⟨after, done⟩ := Option.isSome_iff_exists.mp some
      exact .inr ⟨after, List.mem_filterMap.mpr ⟨owner, present, done⟩,
        congrArg vrfKey (reconfigured_vrf_key input.run owner (vrfIndex owner present) after done).1⟩

variable (contract : Contract library)
include contract

omit types in
theorem mem_after_destroys (key : OfprotoKey) (order : HashOrder) :
    key ∈ destroyVrfs library (order.walk (goneVrfs state input)) (destroyBridges library (order.walk (gone state input)) state.registry) ↔
      key ∈ (held state).registry ∧ key ∉ (pass state input).destroyed := by
  rw [destroyVrfs, mem_destroyed contract, destroyBridges, mem_destroyed contract, and_assoc]
  refine and_congr_right (fun _ => ?_)
  constructor
  · rintro ⟨noBridge, noVrf⟩ (⟨br, destroyed, same⟩ | ⟨vrf, destroyed, same⟩)
    · have present := ((Reconcile.mem_destroyed _).mp destroyed).1
      exact noBridge br ((order.mem_walk _ _).mpr destroyed) (settled.bridges br present).1 same
    · have present := ((Reconcile.mem_destroyed _).mp destroyed).1
      exact noVrf vrf ((order.mem_walk _ _).mpr destroyed) (settled.vrfs vrf present) same
  · intro spared
    exact ⟨fun br walked _ same => spared (.inl ⟨br, (order.mem_walk _ _).mp walked, same⟩),
      fun vrf walked _ same => spared (.inr ⟨vrf, (order.mem_walk _ _).mp walked, same⟩)⟩

omit contract in
theorem bridge_made_iff (key : OfprotoKey) (order : HashOrder) :
    (∃ swept ∈ order.walk ((deletedBridges state.switch input.run).map (bridgeReconfigurePhase input.run)),
      swept.ofproto = false ∧ input.run.datapath.createBridge swept.name = true ∧ bridgeKey swept = key) ↔
      ∃ br ∈ bridges state.switch input.run, bridgeKey br = key ∧ key ∉ (pass state input).kept (held state) ∧
        key ∈ (pass state input).creates := by
  have index := (PluginBlocks.bridges_index state.switch input.run settled.index).2
  have same : ∀ br ∈ bridges state.switch input.run,
      bridgeKey (bridgeReconfigurePhase input.run (bridgeDeletePhase input.run br)) = bridgeKey br :=
    fun br present => Prod.ext (bridge_deleted_thinned _ br (index br present)).name (bridge_swept_type _ br)
  constructor
  · rintro ⟨swept, walked, down, created, rfl⟩
    rw [order.mem_walk, deletedBridges, List.map_map] at walked
    obtain ⟨br, present, rfl⟩ := List.mem_map.mp walked
    have key := same br present
    have ofproto := bridge_deleted_ofproto input.run br (index br present)
    rw [Function.comp_apply] at down created ⊢
    rw [key]
    refine ⟨br, present, rfl, fun kept => ?_, .inl ⟨br, present, rfl, ?_⟩⟩
    · rw [ofproto, (bridge_up_iff settled types br present).mpr kept] at down
      cases down
    · rw [(bridge_deleted_thinned _ br (index br present)).name] at created
      exact created
  · rintro ⟨br, present, rfl, fresh, created⟩
    refine ⟨_, (order.mem_walk _ _).mpr (List.mem_map_of_mem (List.mem_map_of_mem present)), ?_, ?_, same br present⟩
    · rw [bridge_deleted_ofproto input.run br (index br present)]
      exact Bool.eq_false_iff.mpr (fun up => fresh ((bridge_up_iff settled types br present).mp up))
    · rw [(bridge_deleted_thinned _ br (index br present)).name]
      exact created_bridge_answer settled types br present created

omit contract in
theorem vrf_made_iff (key : OfprotoKey) (order : HashOrder) :
    (∃ swept ∈ order.walk ((deletedVrfs state.switch input.run).map (vrfReconfigurePhase input.run)),
      swept.2.up.ofproto = false ∧ input.run.datapath.createVrf swept.2.up.name = true ∧ vrfKey swept.2.up.name = key) ↔
      ∃ owner ∈ vrfs state.switch input.run, vrfKey (vrfUpName owner) = key ∧
        key ∉ (pass state input).kept (held state) ∧ key ∈ (pass state input).creates := by
  have index := (PluginBlocks.vrfs_index state.switch input.run settled.index).2
  have same : ∀ owner ∈ vrfs state.switch input.run,
      (vrfReconfigurePhase input.run (vrfDeletePhase input.run owner)).2.up.name = vrfUpName owner :=
    fun owner present => (vrf_deleted_thinned _ owner (index owner present)).1.name
  constructor
  · rintro ⟨swept, walked, down, created, rfl⟩
    rw [order.mem_walk, deletedVrfs, List.map_map] at walked
    obtain ⟨owner, present, rfl⟩ := List.mem_map.mp walked
    have name := same owner present
    have ofproto := vrf_deleted_ofproto input.run owner (index owner present)
    rw [Function.comp_apply] at down created ⊢
    rw [name] at created ⊢
    refine ⟨owner, present, rfl, fun kept => ?_, .inr ⟨owner, present, rfl, created⟩⟩
    rw [ofproto, (vrf_up_iff settled owner present).mpr kept] at down
    cases down
  · rintro ⟨owner, present, rfl, fresh, created⟩
    refine ⟨_, (order.mem_walk _ _).mpr (List.mem_map_of_mem (List.mem_map_of_mem present)), ?_, ?_, congrArg vrfKey (same owner present)⟩
    · rw [vrf_deleted_ofproto input.run owner (index owner present)]
      exact Bool.eq_false_iff.mpr (fun up => fresh ((vrf_up_iff settled owner present).mp up))
    · rw [same owner present]
      exact created_vrf_answer settled types owner created

theorem registry_after : (held (reconfigureOfprotos library state input)).registry = ((pass state input).apply (held state)).registry := by
  ext key
  refine (mem_created contract _ _ _ _ _ key).trans ?_
  rw [vrf_made_iff settled types key]
  refine (or_congr_left (mem_created contract _ _ _ _ _ key)).trans ?_
  rw [bridge_made_iff settled types key, mem_delete_ofprotos contract, ofproto_wanted_iff settled]
  rw [or_assoc]
  refine or_congr ?_ ?_
  · refine (and_congr_left' (mem_after_destroys settled contract key _)).trans ?_
    rw [and_assoc, ← Bool.not_eq_true]
    rfl
  · constructor
    · rintro (⟨br, present, same, rest⟩ | ⟨owner, present, same, rest⟩)
      · exact ⟨.inl ⟨br, present, same⟩, rest⟩
      · exact ⟨.inr ⟨owner, present, same⟩, rest⟩
    · rintro ⟨⟨br, present, same⟩ | ⟨owner, present, same⟩, rest⟩
      · exact .inl ⟨br, present, same, rest⟩
      · exact .inr ⟨owner, present, same, rest⟩

theorem reconfigure_is_pass : held (reconfigureOfprotos library state input) = (pass state input).apply (held state) :=
  Ownership.Held.ext (owners_after settled types) (registry_after settled types contract)

omit contract in
theorem settled_step : Settled (reconfigureOfprotos library state input) where
  index := bridge_reconfigure_index state.switch input.run settled.index
  bridges := fun after member => by
    have index := (PluginBlocks.bridges_index state.switch input.run settled.index).2
    rw [show (reconfigureOfprotos library state input).switch = bridgeReconfigure state.switch input.run from rfl,
      reconfigure_by_owner] at member
    obtain ⟨br, present, done⟩ := List.mem_filterMap.mp member
    obtain ⟨key, up⟩ := reconfigured_bridge_key input.run br (index br present) after done
    have type : after.type = br.type := congrArg Prod.snd key
    exact ⟨up, type ▸ bridge_type_apart settled types br present⟩
  vrfs := fun after member => by
    have index := (PluginBlocks.vrfs_index state.switch input.run settled.index).2
    rw [show (reconfigureOfprotos library state input).switch = bridgeReconfigure state.switch input.run from rfl,
      reconfigure_by_owner] at member
    obtain ⟨owner, present, done⟩ := List.mem_filterMap.mp member
    exact (reconfigured_vrf_key input.run owner (index owner present) after done).2

end Simulation

section Runs

variable (library : Library)

structure Sound (left : List OfprotoKey) (state : State) : Prop where
  settled : Settled state
  covered : Ownership.Covered (held state)
  strays : ∀ key ∈ Ownership.strays (held state), key ∈ left

theorem sound_start (left : List OfprotoKey) : Sound left ⟨⟨[], []⟩, left⟩ where
  settled := ⟨empty_switch_index, fun _ member => absurd member List.not_mem_nil, fun _ member => absurd member List.not_mem_nil⟩
  covered := by
    rintro key (⟨br, member, _⟩ | ⟨vrf, member, _⟩)
    · cases member
    · cases member
  strays := fun _ stray => stray.1

theorem sound_step (contract : Contract library) (left : List OfprotoKey) (state : State) (input : Input)
    (sound : Sound left state) (types : TypesApart input) :
    Sound left (reconfigureOfprotos library state input) where
  settled := settled_step sound.settled types
  covered := by
    rw [reconfigure_is_pass sound.settled types contract]
    exact Ownership.apply_covered _ _ sound.covered
  strays := fun key stray => by
    rw [reconfigure_is_pass sound.settled types contract] at stray
    exact sound.strays key (Ownership.apply_strays _ _ (kept_wanted sound.settled) key stray).1

structure Owned (left : List OfprotoKey) (before : State) (input : Input) : Prop where
  bridges : ∀ br ∈ (reconfigureOfprotos library before input).switch.bridges,
    br.ofproto = true ∧ bridgeKey br ∈ (reconfigureOfprotos library before input).registry
  vrfs : ∀ vrf ∈ (reconfigureOfprotos library before input).switch.vrfs,
    vrf.up.ofproto = true ∧ vrfKey (vrfName vrf) ∈ (reconfigureOfprotos library before input).registry
  rest : ∀ key ∈ (reconfigureOfprotos library before input).registry,
    (∃ br ∈ (reconfigureOfprotos library before input).switch.bridges, bridgeKey br = key) ∨
      (∃ vrf ∈ (reconfigureOfprotos library before input).switch.vrfs, vrfKey (vrfName vrf) = key) ∨
      (key ∈ left ∧ (pass before input).Refused key)

theorem ofprotos_owned (contract : Contract library) (left : List OfprotoKey) (earlier : List Input) (input : Input)
    (types : ∀ one ∈ earlier ++ [input], TypesApart one) :
    Owned library left (Runs.run (reconfigureOfprotos library) ⟨⟨[], []⟩, left⟩ earlier) input := by
  have always := Runs.invariant_always (sound_step library contract left) (sound_start left)
    ((Runs.along_inputs (reconfigureOfprotos library) TypesApart ⟨⟨[], []⟩, left⟩ earlier).mpr
      (fun one member => types one (List.mem_append_left _ member)))
  have before := always earlier [] (List.append_nil earlier).symm
  have apart := types input (by simp)
  generalize Runs.run (reconfigureOfprotos library) ⟨⟨[], []⟩, left⟩ earlier = state at before
  have after := sound_step library contract left state input before apart
  refine ⟨fun br member => ?_, fun vrf member => ?_, fun key listed => ?_⟩
  · exact ⟨(after.settled.bridges br member).1, after.covered (.inl ⟨br, member, rfl⟩)⟩
  · exact ⟨after.settled.vrfs vrf member, after.covered (.inr ⟨vrf, member, rfl⟩)⟩
  · by_cases owner : key ∈ (held (reconfigureOfprotos library state input)).owners
    · exact owner.imp id .inl
    · have stray : key ∈ Ownership.strays (held (reconfigureOfprotos library state input)) := ⟨listed, owner⟩
      rw [reconfigure_is_pass before.settled apart contract] at stray
      obtain ⟨old, refused⟩ := Ownership.apply_strays _ _ (kept_wanted before.settled) key stray
      exact .inr (.inr ⟨before.strays key old, refused⟩)

def listLibrary : Library where
  ofprotoDestroy := fun ofproto key registry => if ofproto then Keyed.remove id key registry else registry
  ofprotoDelete := fun answer key registry => if answer then Keyed.remove id key registry else registry
  ofprotoCreate := fun answer key registry => if answer then key :: registry else registry

theorem list_library_contract : Contract listLibrary where
  destroyed := fun _ _ _ => Keyed.mem_remove id
  spared := fun _ _ _ => Iff.rfl
  deleted := fun _ _ _ => Keyed.mem_remove id
  refused := fun _ _ _ => Iff.rfl
  created := fun _ _ _ => List.mem_cons.trans Or.comm
  failed := fun _ _ _ => Iff.rfl

def startInput : Input := ⟨firstRun, fun _ => true⟩

theorem start_clears_left :
    Owned listLibrary [("left", "system")] (Runs.run (reconfigureOfprotos listLibrary) ⟨⟨[], []⟩, [("left", "system")]⟩ []) startInput ∧
      ("left", "system") ∉ (reconfigureOfprotos listLibrary ⟨⟨[], []⟩, [("left", "system")]⟩ startInput).registry := by
  refine ⟨ofprotos_owned listLibrary list_library_contract [("left", "system")] [] startInput (fun one member => ?_), by decide⟩
  rw [List.mem_singleton.mp member]
  unfold TypesApart
  decide

end Runs

end OpsSwitchd.Ofprotos
