import OpsSwitchd.PortBundle
import OpsSwitchd.Runs

set_option autoImplicit false

namespace OpsSwitchd.PortBundle

variable {Mode Mac : Type}

def Synced (lib : Library Mode Mac) (entry : Entry Mode Mac) : Prop :=
  ∃ bundle, entry.bundle = some bundle ∧ bundle.settings = portSettings lib entry.port ∧
    ∀ column, bundle.addresses column = entry.port.addresses column

def AllSynced (lib : Library Mode Mac) (entries : List (Entry Mode Mac)) : Prop := ∀ entry ∈ entries, Synced lib entry

structure Truthful (entries : List (Entry Mode Mac)) (input : Reconfiguration) : Prop where
  columns : ∀ port ∈ input.ports, ∀ entry ∈ lookup entries input port.name, ∀ column, input.columns column = false →
    port.addresses column = entry.port.addresses column
  rows : ∀ port ∈ input.ports, ∀ entry ∈ lookup entries input port.name, port.modified = false →
    port.addresses = entry.port.addresses

def Announced (lib : Library Mode Mac) (input : Reconfiguration) (port : BundlePort) : Option (Entry Mode Mac) → Prop
  | none => needsConfigure port = true ∧ ∀ column, input.columns column = true ∨ port.addresses column = []
  | some entry => needsConfigure port = true ∨ portSettings lib port = portSettings lib entry.port

def AllAnnounced (lib : Library Mode Mac) (entries : List (Entry Mode Mac)) (input : Reconfiguration) : Prop :=
  ∀ port ∈ input.ports, Announced lib input port (lookup entries input port.name)

theorem lookup_mem (entries : List (Entry Mode Mac)) (input : Reconfiguration) (name : String) (entry : Entry Mode Mac)
    (found : lookup entries input name = some entry) : entry ∈ entries := by
  unfold lookup at found
  split at found
  · cases found
  · exact List.mem_of_find?_eq_some found

theorem configured_synced (lib : Library Mode Mac) (input : Reconfiguration) (entry : Entry Mode Mac) :
    Synced lib (portConfigure lib input entry) ↔
      ∀ column, input.columns column = true ∨ entry.bundle.elim (fun _ => []) Bundle.addresses column = entry.port.addresses column := by
  have kept : ∀ column, vrfPortReconfigIpaddr input.columns entry.port (entry.bundle.elim (fun _ => []) Bundle.addresses) column =
      entry.port.addresses column ↔
        (input.columns column = true ∨ entry.bundle.elim (fun _ => []) Bundle.addresses column = entry.port.addresses column) := by
    intro column
    unfold vrfPortReconfigIpaddr
    cases input.columns column <;> simp
  constructor
  · rintro ⟨bundle, registered, _, same⟩ column
    obtain rfl := Option.some.inj registered
    exact (kept column).mp (same column)
  · intro given
    exact ⟨_, rfl, rfl, fun column => (kept column).mpr (given column)⟩

theorem new_port_synced (lib : Library Mode Mac) (entries : List (Entry Mode Mac)) (input : Reconfiguration) (port : BundlePort)
    (new : lookup entries input port.name = none) :
    Synced lib (configurePort lib entries input port) ↔ Announced lib input port none := by
  unfold configurePort arrived Announced
  rw [new]
  cases needed : needsConfigure port with
  | true =>
      rw [if_pos rfl, configured_synced, and_iff_right rfl]
      exact forall_congr' (fun column => or_congr_right eq_comm)
  | false =>
      rw [if_neg Bool.false_ne_true]
      refine ⟨?_, fun announced => absurd announced.1 Bool.false_ne_true⟩
      rintro ⟨bundle, registered, _⟩
      cases registered

theorem old_port_synced (lib : Library Mode Mac) (entries : List (Entry Mode Mac)) (input : Reconfiguration) (port : BundlePort)
    (member : port ∈ input.ports) (truthful : Truthful entries input) (entry : Entry Mode Mac)
    (found : lookup entries input port.name = some entry) (synced : Synced lib entry) :
    Synced lib (configurePort lib entries input port) ↔ Announced lib input port (some entry) := by
  obtain ⟨bundle, registered, settings, addresses⟩ := synced
  unfold configurePort arrived Announced
  rw [found]
  dsimp only
  cases needed : needsConfigure port with
  | true =>
      rw [if_pos rfl, configured_synced, iff_true_right (.inl rfl)]
      intro column
      dsimp only
      rw [registered, Option.elim_some, addresses column]
      cases flagged : input.columns column with
      | true => exact .inl rfl
      | false => exact .inr (truthful.columns port member entry found column flagged).symm
  | false =>
      rw [if_neg Bool.false_ne_true, or_iff_right Bool.false_ne_true]
      have unmodified : port.modified = false := (Bool.or_eq_false_iff.mp needed).1
      constructor
      · rintro ⟨other, same, current, _⟩
        obtain rfl := Option.some.inj (registered.symm.trans same)
        exact current.symm.trans settings
      · intro same
        refine ⟨bundle, registered, settings.trans same.symm, fun column => ?_⟩
        rw [addresses column, truthful.rows port member entry found unmodified]

theorem configure_synced_iff (lib : Library Mode Mac) (entries : List (Entry Mode Mac)) (input : Reconfiguration)
    (synced : AllSynced lib entries) (truthful : Truthful entries input) :
    AllSynced lib (configurePorts lib entries input) ↔ AllAnnounced lib entries input := by
  unfold AllSynced AllAnnounced configurePorts
  rw [List.forall_mem_map]
  refine forall_congr' (fun port => forall_congr' (fun member => ?_))
  cases found : lookup entries input port.name with
  | none => exact new_port_synced lib entries input port found
  | some entry => exact old_port_synced lib entries input port member truthful entry found (synced entry (lookup_mem entries input _ entry found))

theorem bundles_synced_iff (lib : Library Mode Mac) (inputs : List Reconfiguration)
    (truthful : Runs.Along (configurePorts lib) Truthful [] inputs) :
    Runs.Always (configurePorts lib) (AllSynced lib) [] inputs ↔ Runs.Along (configurePorts lib) (AllAnnounced lib) [] inputs :=
  Runs.always_iff_along (fun _ synced => synced)
    (fun entries input synced here announced => (configure_synced_iff lib entries input synced here).mpr announced)
    (fun entries input synced here next => (configure_synced_iff lib entries input synced here).mp next)
    (fun _ member => absurd member List.not_mem_nil) truthful

def sampleLibrary : Library String String :=
  ⟨"enable", true, "rx_enabled", "tx_enabled", "bond_mode", fun _ => none, "l3-src-dst-hash", fun _ => none, fun _ => none, "00:00:00:00:00:00"⟩

def samplePort (modified : Bool) (addresses : IpColumn → List String) : BundlePort :=
  ⟨"1", none, none, [], none, [], [], [], [], none, addresses, modified, [⟨"1", 1, [], false⟩]⟩

def oneAddress : IpColumn → List String
  | .ip4Address => ["10.0.0.1/24"]
  | _ => []

def announcedInputs : List Reconfiguration :=
  [⟨[samplePort true oneAddress], fun _ => false, fun column => decide (column = .ip4Address), fun _ => -1⟩,
    ⟨[samplePort false oneAddress], fun _ => false, fun _ => false, fun _ => -1⟩]

theorem sample_truthful : Runs.Along (configurePorts sampleLibrary) Truthful [] announcedInputs := by
  refine (Runs.along_cons _ _ _ _ _).mpr ⟨⟨?_, ?_⟩, (Runs.along_cons _ _ _ _ _).mpr ⟨⟨?_, ?_⟩, Runs.along_nil _ _ _⟩⟩
  · intro port _ entry found
    cases found
  · intro port _ entry found
    cases found
  · intro port member entry found column _
    obtain rfl := List.mem_singleton.mp member
    obtain rfl := Option.some.inj found
    rfl
  · intro port member entry found _
    obtain rfl := List.mem_singleton.mp member
    obtain rfl := Option.some.inj found
    rfl

theorem sample_bundles_synced :
    Runs.Always (configurePorts sampleLibrary) (AllSynced sampleLibrary) [] announcedInputs := by
  refine (bundles_synced_iff sampleLibrary announcedInputs sample_truthful).mpr ?_
  refine (Runs.along_cons _ _ _ _ _).mpr ⟨fun port member => ?_, (Runs.along_cons _ _ _ _ _).mpr ⟨fun port member => ?_, Runs.along_nil _ _ _⟩⟩
  · obtain rfl := List.mem_singleton.mp member
    exact ⟨rfl, fun column => by cases column <;> decide⟩
  · obtain rfl := List.mem_singleton.mp member
    exact .inr rfl

end OpsSwitchd.PortBundle
