import OpsSwitchd.CreatedPorts
import OpsSwitchd.Reconcile

set_option autoImplicit false

namespace OpsSwitchd

def newBridges (rows : List BridgeRow) : List BridgeRow :=
  Keyed.collect BridgeRow.name (rows.filter (fun row => !nameIgnored row.name))

def newVrfs (rows : List VrfRow) : List VrfRow :=
  Keyed.collect VrfRow.name (rows.filter (fun row => !nameIgnored row.name))

def bridgesDestroyed (normalizeType : String → String) (rows : List BridgeRow) (bridges : List Bridge) : List Bridge :=
  Reconcile.destroyed (keepBridge normalizeType (newBridges rows)) bridges

def bridgesCreated (normalizeType : String → String) (rows : List BridgeRow) (bridges : List Bridge) : List BridgeRow :=
  (Reconcile.reconcile BridgeRow.name Bridge.name (keepBridge normalizeType (newBridges rows)) (bridgeCreate normalizeType)
    rows bridges).2

def vrfsDestroyed (rows : List VrfRow) (vrfs : List Vrf) : List Vrf := Reconcile.destroyed (keepVrf (newVrfs rows)) vrfs

def vrfsCreated (rows : List VrfRow) (vrfs : List Vrf) : List VrfRow :=
  (Reconcile.reconcile VrfRow.name vrfUpName (keepVrf (newVrfs rows)) (fun row => (row, vrfCreate row)) rows vrfs).2

-- all_bridges and all_vrfs are hashed by name, and a create asserts that the
-- name is new.
structure NamedSwitch extends Switch where
  bridgeNames : Keyed.Unique Bridge.name bridges
  vrfNames : Keyed.Unique vrfName vrfs

structure BridgesExact (normalizeType : String → String) (rows : List BridgeRow) (bridges : List Bridge) : Prop where
  once : Keyed.Unique Bridge.name bridges
  names : ∀ name, name ∈ bridges.map Bridge.name ↔ name ∈ rows.map BridgeRow.name ∧ nameIgnored name = false
  types : ∀ br ∈ bridges, ∃ row, Keyed.lookup BridgeRow.name br.name rows = some row ∧
    br.type = normalizeType row.datapathType

structure VrfsExact (rows : List VrfRow) (owners : List (VrfRow × Vrf)) : Prop where
  once : Keyed.Unique vrfUpName owners
  names : ∀ name, name ∈ owners.map vrfUpName ↔ name ∈ rows.map VrfRow.name ∧ nameIgnored name = false

def BridgesSettled (normalizeType : String → String) (rows : List BridgeRow) (bridges : List Bridge) : Prop :=
  bridgesDestroyed normalizeType rows bridges = [] ∧ bridgesCreated normalizeType rows bridges = []

def VrfsSettled (rows : List VrfRow) (vrfs : List Vrf) : Prop := vrfsDestroyed rows vrfs = [] ∧ vrfsCreated rows vrfs = []

section Rows

variable (normalizeType : String → String) (rows : List BridgeRow) (bridges : List Bridge)

theorem add_del_bridges_eq :
    addDelBridges normalizeType rows bridges = (Reconcile.reconcile BridgeRow.name Bridge.name
      (keepBridge normalizeType (newBridges rows)) (bridgeCreate normalizeType) rows bridges).1 := by
  rw [Reconcile.reconcile, Reconcile.create_missing_entries]
  rfl

theorem add_del_vrfs_eq (rows : List VrfRow) (vrfs : List Vrf) :
    addDelVrfs rows vrfs = (Reconcile.reconcile VrfRow.name vrfUpName (keepVrf (newVrfs rows))
      (fun row => (row, vrfCreate row)) rows vrfs).1 := by
  rw [Reconcile.reconcile, Reconcile.create_missing_entries]
  rfl

theorem valid_rows_lookup {ρ : Type} (rowName : ρ → String) (rows : List ρ) (name : String) :
    Keyed.lookup rowName name (Keyed.collect rowName (rows.filter (fun row => !nameIgnored (rowName row)))) =
      if nameIgnored name then none else Keyed.lookup rowName name rows := by
  rw [Keyed.lookup_collect]
  cases ignored : nameIgnored name with
  | true =>
      rw [if_pos rfl, Keyed.lookup_none_iff]
      intro row member same
      have passed := (List.mem_filter.mp member).2
      simp [same, ignored] at passed
  | false =>
      rw [if_neg Bool.false_ne_true, Keyed.lookup_filter]
      intro row same
      simp [same, ignored]

theorem valid_names_iff {ρ : Type} (rowName : ρ → String) (rows : List ρ) (names : List String)
    (all : ∀ name, name ∈ names ↔ name ∈ rows.map rowName) :
    (∀ name, name ∈ names ↔ name ∈ rows.map rowName ∧ nameIgnored name = false) ↔
      ∀ row ∈ rows, nameIgnored (rowName row) = false := by
  constructor
  · intro exact_ row member
    exact ((exact_ (rowName row)).mp ((all (rowName row)).mpr (List.mem_map_of_mem member))).2
  · intro valid name
    rw [all name]
    constructor
    · intro listed
      obtain ⟨row, member, rfl⟩ := List.mem_map.mp listed
      exact ⟨listed, valid row member⟩
    · exact And.left

theorem keep_bridge_eq_some (br kept : Bridge) :
    keepBridge normalizeType (newBridges rows) br = some kept ↔ nameIgnored br.name = false ∧
      ∃ row, Keyed.lookup BridgeRow.name br.name rows = some row ∧ br.type = normalizeType row.datapathType ∧
        kept = { br with cfg := some row } := by
  unfold keepBridge newBridges
  rw [valid_rows_lookup]
  cases ignored : nameIgnored br.name with
  | true => simp
  | false =>
      cases found : Keyed.lookup BridgeRow.name br.name rows with
      | none => simp
      | some row =>
          by_cases same : br.type = normalizeType row.datapathType
          · simp [same, eq_comm]
          · simp [same]

theorem keep_vrf_eq_some (rows : List VrfRow) (vrf : Vrf) (owner : VrfRow × Vrf) :
    keepVrf (newVrfs rows) vrf = some owner ↔ nameIgnored vrf.up.name = false ∧
      ∃ row, Keyed.lookup VrfRow.name vrf.up.name rows = some row ∧ owner = (row, { vrf with name := row.name }) := by
  unfold keepVrf newVrfs
  rw [valid_rows_lookup]
  cases ignored : nameIgnored vrf.up.name with
  | true => simp
  | false => simp [eq_comm]

theorem keep_bridge_name (br kept : Bridge)
    (found : keepBridge normalizeType (newBridges rows) br = some kept) : kept.name = br.name := by
  obtain ⟨_, row, _, _, rfl⟩ := (keep_bridge_eq_some normalizeType rows br kept).mp found
  rfl

theorem keep_vrf_name (rows : List VrfRow) (vrf : Vrf) (owner : VrfRow × Vrf)
    (found : keepVrf (newVrfs rows) vrf = some owner) : vrfUpName owner = vrfName vrf := by
  obtain ⟨_, row, _, rfl⟩ := (keep_vrf_eq_some rows vrf owner).mp found
  rfl

theorem add_del_bridges_names (unique : Keyed.Unique Bridge.name bridges) (name : String) :
    name ∈ (addDelBridges normalizeType rows bridges).map Bridge.name ↔ name ∈ rows.map BridgeRow.name := by
  rw [add_del_bridges_eq]
  refine Reconcile.reconcile_keys BridgeRow.name Bridge.name Bridge.name _ _ (keep_bridge_name normalizeType rows)
    (fun _ => rfl) rows ?_ unique name
  intro br kept found
  obtain ⟨_, row, listed, _⟩ := (keep_bridge_eq_some normalizeType rows br kept).mp found
  exact List.mem_map.mpr ⟨row, Keyed.lookup_mem BridgeRow.name listed, Keyed.lookup_key BridgeRow.name listed⟩

theorem add_del_vrfs_names (rows : List VrfRow) (vrfs : List Vrf) (unique : Keyed.Unique vrfName vrfs) (name : String) :
    name ∈ (addDelVrfs rows vrfs).map vrfUpName ↔ name ∈ rows.map VrfRow.name := by
  rw [add_del_vrfs_eq]
  refine Reconcile.reconcile_keys VrfRow.name vrfName vrfUpName _ _ (keep_vrf_name rows) (fun _ => rfl) rows ?_ unique name
  intro vrf owner found
  obtain ⟨_, row, listed, _⟩ := (keep_vrf_eq_some rows vrf owner).mp found
  exact List.mem_map.mpr ⟨row, Keyed.lookup_mem VrfRow.name listed, Keyed.lookup_key VrfRow.name listed⟩

theorem add_del_bridges_unique (unique : Keyed.Unique Bridge.name bridges) :
    Keyed.Unique Bridge.name (addDelBridges normalizeType rows bridges) := by
  rw [add_del_bridges_eq]
  exact Reconcile.reconcile_unique BridgeRow.name Bridge.name Bridge.name _ _ (keep_bridge_name normalizeType rows)
    (fun _ => rfl) rows unique

theorem add_del_vrfs_unique (rows : List VrfRow) (vrfs : List Vrf) (unique : Keyed.Unique vrfName vrfs) :
    Keyed.Unique vrfUpName (addDelVrfs rows vrfs) := by
  rw [add_del_vrfs_eq]
  exact Reconcile.reconcile_unique VrfRow.name vrfName vrfUpName _ _ (keep_vrf_name rows) (fun _ => rfl) rows unique

theorem add_del_bridges_types (unique : Keyed.Unique Bridge.name bridges) (br : Bridge)
    (member : br ∈ addDelBridges normalizeType rows bridges) :
    ∃ row, Keyed.lookup BridgeRow.name br.name rows = some row ∧ br.type = normalizeType row.datapathType := by
  have found := Keyed.lookup_of_mem Bridge.name (add_del_bridges_unique normalizeType rows bridges unique) member
  rw [add_del_bridges_eq, Reconcile.reconcile_lookup BridgeRow.name Bridge.name Bridge.name _ _
    (keep_bridge_name normalizeType rows) (fun _ => rfl) rows unique, Option.or_eq_some_iff] at found
  rcases found with kept | ⟨_, made⟩
  · obtain ⟨old, _, here⟩ := Option.bind_eq_some_iff.mp kept
    obtain ⟨_, row, listed, same, rfl⟩ := (keep_bridge_eq_some normalizeType rows old br).mp here
    exact ⟨row, listed, same⟩
  · obtain ⟨row, listed, rfl⟩ := Option.map_eq_some_iff.mp made
    exact ⟨row, listed, rfl⟩

theorem add_del_bridges_again (unique : Keyed.Unique Bridge.name bridges) :
    BridgesSettled normalizeType rows (addDelBridges normalizeType rows bridges) ↔
      ∀ row ∈ rows, nameIgnored row.name = false := by
  have names := add_del_bridges_names normalizeType rows bridges unique
  have again := Reconcile.reconcile_again BridgeRow.name Bridge.name Bridge.name (keepBridge normalizeType (newBridges rows))
    (bridgeCreate normalizeType) (keep_bridge_name normalizeType rows) rows
    (add_del_bridges_unique normalizeType rows bridges unique)
    (fun row member => (names row.name).mpr (List.mem_map_of_mem member))
  refine again.trans ⟨?_, ?_⟩
  · intro all row member
    obtain ⟨br, inside, same⟩ := List.mem_map.mp ((names row.name).mpr (List.mem_map_of_mem member))
    obtain ⟨kept, found⟩ := Option.isSome_iff_exists.mp (all br inside)
    rw [← same]
    exact ((keep_bridge_eq_some normalizeType rows br kept).mp found).1
  · intro valid br inside
    obtain ⟨row, listed, same⟩ := add_del_bridges_types normalizeType rows bridges unique br inside
    have clean := valid row (Keyed.lookup_mem BridgeRow.name listed)
    rw [Keyed.lookup_key BridgeRow.name listed] at clean
    exact Option.isSome_iff_exists.mpr ⟨_, (keep_bridge_eq_some normalizeType rows br _).mpr ⟨clean, row, listed, same, rfl⟩⟩

end Rows

theorem add_del_vrfs_again (rows : List VrfRow) (vrfs : List Vrf) (unique : Keyed.Unique vrfName vrfs) :
    VrfsSettled rows ((addDelVrfs rows vrfs).map Prod.snd) ↔ ∀ row ∈ rows, nameIgnored row.name = false := by
  have names := add_del_vrfs_names rows vrfs unique
  have same : ((addDelVrfs rows vrfs).map Prod.snd).map vrfName = (addDelVrfs rows vrfs).map vrfUpName := List.map_map
  have once : Keyed.Unique vrfName ((addDelVrfs rows vrfs).map Prod.snd) := by
    rw [Keyed.Unique, same]
    exact add_del_vrfs_unique rows vrfs unique
  have again := Reconcile.reconcile_again VrfRow.name vrfName vrfUpName (keepVrf (newVrfs rows))
    (fun row => (row, vrfCreate row)) (keep_vrf_name rows) rows once
    (fun row member => by rw [same]; exact (names row.name).mpr (List.mem_map_of_mem member))
  refine again.trans ⟨?_, ?_⟩
  · intro all row member
    obtain ⟨owner, inside, here⟩ := List.mem_map.mp ((names row.name).mpr (List.mem_map_of_mem member))
    obtain ⟨kept, found⟩ := Option.isSome_iff_exists.mp (all owner.2 (List.mem_map_of_mem inside))
    rw [← here]
    exact ((keep_vrf_eq_some rows owner.2 kept).mp found).1
  · intro valid vrf inside
    have listed : vrfName vrf ∈ rows.map VrfRow.name := by
      rw [← names, ← same]
      exact List.mem_map_of_mem inside
    obtain ⟨row, found⟩ := Option.isSome_iff_exists.mp
      ((Keyed.lookup_some_iff_exists VrfRow.name).mpr (List.mem_map.mp listed))
    have clean := valid row (Keyed.lookup_mem VrfRow.name found)
    rw [Keyed.lookup_key VrfRow.name found] at clean
    exact Option.isSome_iff_exists.mpr ⟨_, (keep_vrf_eq_some rows vrf _).mpr ⟨clean, row, found, rfl⟩⟩

theorem owner_sets_exact_iff (normalizeType : String → String) (cfg : OpenVswitchRow) (previous : NamedSwitch) :
    (BridgesExact normalizeType cfg.bridges (addDelBridges normalizeType cfg.bridges previous.bridges) ∧
        BridgesSettled normalizeType cfg.bridges (addDelBridges normalizeType cfg.bridges previous.bridges) ↔
      ∀ row ∈ cfg.bridges, nameIgnored row.name = false) ∧
    (VrfsExact cfg.vrfs (addDelVrfs cfg.vrfs previous.vrfs) ∧
        VrfsSettled cfg.vrfs ((addDelVrfs cfg.vrfs previous.vrfs).map Prod.snd) ↔
      ∀ row ∈ cfg.vrfs, nameIgnored row.name = false) := by
  constructor
  · have settled := add_del_bridges_again normalizeType cfg.bridges previous.bridges previous.bridgeNames
    have names := valid_names_iff BridgeRow.name cfg.bridges _
      (add_del_bridges_names normalizeType cfg.bridges previous.bridges previous.bridgeNames)
    constructor
    · rintro ⟨_, again⟩
      exact settled.mp again
    · intro valid
      refine ⟨⟨add_del_bridges_unique normalizeType cfg.bridges previous.bridges previous.bridgeNames, names.mpr valid, ?_⟩,
        settled.mpr valid⟩
      exact add_del_bridges_types normalizeType cfg.bridges previous.bridges previous.bridgeNames
  · have settled := add_del_vrfs_again cfg.vrfs previous.vrfs previous.vrfNames
    have names := valid_names_iff VrfRow.name cfg.vrfs _ (add_del_vrfs_names cfg.vrfs previous.vrfs previous.vrfNames)
    constructor
    · rintro ⟨_, again⟩
      exact settled.mp again
    · intro valid
      exact ⟨⟨add_del_vrfs_unique cfg.vrfs previous.vrfs previous.vrfNames, names.mpr valid⟩, settled.mpr valid⟩

def slashCfg : OpenVswitchRow := ⟨[⟨"../etc", "", [], [], []⟩], [⟨"../etc", []⟩]⟩

def noOwners : NamedSwitch where
  bridges := []
  vrfs := []
  bridgeNames := Keyed.unique_nil Bridge.name
  vrfNames := Keyed.unique_nil vrfName

-- From nothing, the refused names are created, and the second call destroys
-- and creates both owners again.
theorem refused_names_are_created :
    (¬ BridgesExact id slashCfg.bridges (addDelBridges id slashCfg.bridges noOwners.bridges) ∧
      ¬ BridgesSettled id slashCfg.bridges (addDelBridges id slashCfg.bridges noOwners.bridges)) ∧
    ¬ VrfsExact slashCfg.vrfs (addDelVrfs slashCfg.vrfs noOwners.vrfs) ∧
      ¬ VrfsSettled slashCfg.vrfs ((addDelVrfs slashCfg.vrfs noOwners.vrfs).map Prod.snd) := by
  refine ⟨⟨?_, ?_⟩, ?_, ?_⟩
  · intro exact_
    exact absurd ((exact_.names "../etc").mp (by decide)).2 (by decide)
  · rintro ⟨kept, _⟩
    exact absurd kept (by decide)
  · intro exact_
    exact absurd ((exact_.names "../etc").mp (by decide)).2 (by decide)
  · rintro ⟨kept, _⟩
    exact absurd kept (by decide)

end OpsSwitchd
