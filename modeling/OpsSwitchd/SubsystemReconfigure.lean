import OpsSwitchd.SubsystemTables

set_option autoImplicit false

namespace OpsSwitchd.Subsystems

def freshIface (env : Env) (row : InterfaceRow) : Iface :=
  (ifaceRefreshNetdevStatus env.netdevs ⟨row.name, none, 0, row⟩).1

def createdIface (env : Env) (owner : String) (row : InterfaceRow) : Option Iface :=
  if env.ifaceDoCreate owner row then some (freshIface env row) else none

theorem refresh_name (netdevs : String → Netdev) (iface : Iface) :
    (ifaceRefreshNetdevStatus netdevs iface).1.name = iface.name := by
  unfold ifaceRefreshNetdevStatus
  dsimp only
  split <;> rfl

theorem refresh_subsystem (netdevs : String → Netdev) (iface : Iface) :
    (ifaceRefreshNetdevStatus netdevs iface).1.subsystem = iface.subsystem := by
  unfold ifaceRefreshNetdevStatus
  dsimp only
  split <;> rfl

theorem refresh_cfg (netdevs : String → Netdev) (iface : Iface) :
    (ifaceRefreshNetdevStatus netdevs iface).1.cfg = iface.cfg := by
  unfold ifaceRefreshNetdevStatus
  dsimp only
  split <;> rfl

section Reconfigured

variable (env : Env) (rows : List SubsystemRow) (all : List Subsystem)

theorem created_iface_row (owner : String) (row : InterfaceRow) (iface : Iface)
    (created : createdIface env owner row = some iface) :
    iface.name = row.name ∧ iface.cfg = row ∧ iface.subsystem = none := by
  unfold createdIface at created
  split at created
  · obtain rfl := Option.some.inj created
    exact ⟨refresh_name _ _, refresh_cfg _ _, refresh_subsystem _ _⟩
  · cases created

theorem add_iface_cases (state : Subsystem × List StatusWrite) (row : InterfaceRow) :
    ((addIface env state row = state ∧
        ((Keyed.lookup Iface.name row.name state.1.ifaceByName).isSome ∨ createdIface env state.1.name row = none)) ∨
      (Keyed.lookup Iface.name row.name state.1.ifaceByName = none ∧ env.ifaceDoCreate state.1.name row = true ∧
        addIface env state row = ({ state.1 with ifaceByName := freshIface env row :: state.1.ifaceByName },
          state.2 ++ (ifaceRefreshNetdevStatus env.netdevs ⟨row.name, none, 0, row⟩).2))) := by
  unfold addIface
  split
  · rename_i present
    exact .inl ⟨rfl, .inl present⟩
  · rename_i absent
    cases made : env.ifaceDoCreate state.1.name row with
    | false => exact .inl ⟨by simp [ifaceCreate, made], .inr (by simp [createdIface, made])⟩
    | true => exact .inr ⟨by simpa using absent, rfl, by simp [ifaceCreate, made, freshIface]⟩

theorem add_iface_owner (state : Subsystem × List StatusWrite) (row : InterfaceRow) :
    (addIface env state row).1.name = state.1.name ∧ (addIface env state row).1.cfg = state.1.cfg := by
  obtain ⟨same, _⟩ | ⟨_, _, added⟩ := add_iface_cases env state row
  · rw [same]
    exact ⟨rfl, rfl⟩
  · rw [added]
    exact ⟨rfl, rfl⟩

theorem add_iface_lookup (state : Subsystem × List StatusWrite) (row : InterfaceRow) (k : String) :
    Keyed.lookup Iface.name k (addIface env state row).1.ifaceByName =
      if k = row.name then
        (Keyed.lookup Iface.name k state.1.ifaceByName).or (createdIface env state.1.name row)
      else Keyed.lookup Iface.name k state.1.ifaceByName := by
  obtain ⟨same, kept⟩ | ⟨absent, made, added⟩ := add_iface_cases env state row
  · rw [same]
    split
    · rename_i here
      subst here
      rcases kept with present | refused
      · obtain ⟨iface, found⟩ := Option.isSome_iff_exists.mp present
        rw [found]
        rfl
      · rw [refused, Option.or_none]
    · rfl
  · have named : (freshIface env row).name = row.name := refresh_name _ _
    rw [added, Keyed.lookup_cons, named]
    by_cases here : k = row.name
    · subst here
      simp [absent, createdIface, made]
    · simp [here, Ne.symm here]

theorem add_iface_names (state : Subsystem × List StatusWrite) (row : InterfaceRow)
    (names : Keyed.Unique Iface.name state.1.ifaceByName) : Keyed.Unique Iface.name (addIface env state row).1.ifaceByName := by
  obtain ⟨same, _⟩ | ⟨absent, _, added⟩ := add_iface_cases env state row
  · rw [same]
    exact names
  · have named : (freshIface env row).name = row.name := refresh_name _ _
    rw [added]
    refine Keyed.unique_cons Iface.name names (fun old member => ?_)
    rw [named]
    exact (Keyed.lookup_none_iff Iface.name).mp absent old member

def splitFirst (wanted : List InterfaceRow) : List InterfaceRow :=
  wanted.filter (fun row => row.nSplitChildren ≠ 0) ++ wanted.filter (fun row => row.nSplitChildren = 0)

theorem split_first_perm (wanted : List InterfaceRow) : (splitFirst wanted).Perm wanted := by
  have halves := List.filter_append_perm (fun row : InterfaceRow => decide (row.nSplitChildren ≠ 0)) wanted
  simpa [splitFirst] using halves

theorem subsystem_add_ifaces_eq (ss : Subsystem) :
    subsystemAddIfaces env ss =
      (splitFirst (env.order.walk (subsystemCollectWantedIfaces ss))).foldl (addIface env) (ss, []) := by
  rw [subsystemAddIfaces, splitFirst, List.foldl_append]

theorem wanted_perm (ss : Subsystem) :
    (splitFirst (env.order.walk (subsystemCollectWantedIfaces ss))).Perm (subsystemCollectWantedIfaces ss) :=
  (split_first_perm _).trans (env.order.perm _)

theorem add_ifaces_owner (ss : Subsystem) :
    (subsystemAddIfaces env ss).1.name = ss.name ∧ (subsystemAddIfaces env ss).1.cfg = ss.cfg := by
  rw [subsystem_add_ifaces_eq]
  refine Keyed.foldl_keeps (addIface env) (fun state => state.1.name = ss.name ∧ state.1.cfg = ss.cfg) ?_ ⟨rfl, rfl⟩
  intro state row _ same
  obtain ⟨name, cfg⟩ := add_iface_owner env state row
  exact ⟨name.trans same.1, cfg.trans same.2⟩

theorem add_ifaces_names (ss : Subsystem) (names : Keyed.Unique Iface.name ss.ifaceByName) :
    Keyed.Unique Iface.name (subsystemAddIfaces env ss).1.ifaceByName := by
  rw [subsystem_add_ifaces_eq]
  exact Keyed.foldl_keeps (addIface env) (fun state => Keyed.Unique Iface.name state.1.ifaceByName)
    (fun state row _ unique => add_iface_names env state row unique) names

theorem add_ifaces_lookup (ss : Subsystem) (k : String) :
    Keyed.lookup Iface.name k (subsystemAddIfaces env ss).1.ifaceByName =
      (Keyed.lookup Iface.name k ss.ifaceByName).or
        ((Keyed.lookup InterfaceRow.name k ss.cfg.interfaces).bind (createdIface env ss.name)) := by
  have unique := Keyed.unique_perm InterfaceRow.name (wanted_perm env ss).symm (Keyed.unique_collect InterfaceRow.name _)
  have added := Keyed.foldl_view InterfaceRow.name (addIface env) (fun state k => Keyed.lookup Iface.name k state.1.ifaceByName)
    (fun row found => found.or (createdIface env ss.name row)) (fun state => state.1.name = ss.name) unique
    (fun state row _ same => (add_iface_owner env state row).1.trans same)
    (fun state row _ same => by simp [add_iface_lookup, same])
    (fun state row _ k different _ => by simp [add_iface_lookup, different]) (ss, []) rfl k
  rw [subsystem_add_ifaces_eq, added, Keyed.lookup_perm InterfaceRow.name (wanted_perm env ss) unique,
    subsystemCollectWantedIfaces, Keyed.lookup_collect]
  cases Keyed.lookup InterfaceRow.name k ss.cfg.interfaces with
  | none => simp
  | some row => rfl

def keptSubsystem (order : HashOrder) (row : SubsystemRow) (old : Option Subsystem) : Subsystem :=
  let ss := configuredSubsystem row old
  { ss with ifaceByName := keepIfaces order ss ss.ifaceByName }

def reconfiguredSubsystem (env : Env) (row : SubsystemRow) (old : Option Subsystem) : Subsystem :=
  (subsystemAddIfaces env (keptSubsystem env.order row old)).1

def reconfigureResult (env : Env) (rows : List SubsystemRow) (all : List Subsystem) : List Subsystem × List StatusWrite :=
  let added := (keptResult env.order (addDelResult env.order rows all)).map (subsystemAddIfaces env)
  (added.map Prod.fst, (env.order.walk added).flatMap Prod.snd)

def oldIfaces (all : List Subsystem) (name : String) : List Iface :=
  (Keyed.lookup Subsystem.name name all).elim [] Subsystem.ifaceByName

theorem configured_subsystem_fields (rows : List SubsystemRow) (k : String) (row : SubsystemRow)
    (wanted : Keyed.lookup SubsystemRow.name k rows = some row) :
    configuredSubsystem row (Keyed.lookup Subsystem.name k all) = ⟨k, row, oldIfaces all k⟩ := by
  unfold configuredSubsystem oldIfaces
  cases found : Keyed.lookup Subsystem.name k all with
  | none => rw [Option.elim_none, subsystemCreate, Keyed.lookup_key SubsystemRow.name wanted]; rfl
  | some ss => rw [Option.elim_some, Keyed.lookup_key Subsystem.name found]; rfl

theorem old_ifaces_tables (tables : Tables all) (name : String) :
    Keyed.Unique Iface.name (oldIfaces all name) ∧ ∀ iface ∈ oldIfaces all name, iface.subsystem = none := by
  unfold oldIfaces
  cases found : Keyed.lookup Subsystem.name name all with
  | none => exact ⟨Keyed.unique_nil Iface.name, fun iface member => by cases member⟩
  | some ss =>
      have member := Keyed.lookup_mem Subsystem.name found
      exact ⟨tables.ifaces ss member, tables.null ss member⟩

theorem add_del_result_tables (order : HashOrder) (rows : List SubsystemRow) (all : List Subsystem) (tables : Tables all) :
    Tables (addDelResult order rows all) := by
  have names := add_del_result_names order rows all tables.names
  have entry : ∀ ss ∈ addDelResult order rows all, ss.ifaceByName = oldIfaces all ss.name := by
    intro ss member
    have found := Keyed.lookup_of_mem Subsystem.name names member
    rw [add_del_result_lookup order rows all tables.names] at found
    obtain ⟨row, wanted, made⟩ := Option.map_eq_some_iff.mp found
    rw [configured_subsystem_fields all rows ss.name row wanted] at made
    rw [← made]
  refine ⟨names, fun ss member => ?_, fun ss member => ?_⟩
  · rw [entry ss member]
    exact (old_ifaces_tables all tables ss.name).1
  · rw [entry ss member]
    exact (old_ifaces_tables all tables ss.name).2

def nothingRemoved (rows : List SubsystemRow) (all : List Subsystem) : Bool :=
  all.all (fun ss => ss.ifaceByName.all (fun iface =>
    (Keyed.lookup SubsystemRow.name ss.name rows).any (fun row => ifaceWanted row iface)))

theorem nothing_removed_iff (order : HashOrder) (rows : List SubsystemRow) (all : List Subsystem) (tables : Tables all) :
    (all.all (subsystemStays rows) = true ∧
        (addDelResult order rows all).all (fun ss => ss.ifaceByName.all (ifaceWanted ss.cfg)) = true) ↔
      nothingRemoved rows all = true := by
  simp only [nothingRemoved, List.all_eq_true]
  have names := add_del_result_names order rows all tables.names
  constructor
  · rintro ⟨stay, wanted⟩ ss member iface present
    have here := stay ss member
    cases found : Keyed.lookup SubsystemRow.name ss.name rows with
    | none =>
        simp [subsystemStays, found] at here
        simp [here] at present
    | some row =>
        have configured : (⟨ss.name, row, ss.ifaceByName⟩ : Subsystem) ∈ addDelResult order rows all := by
          refine Keyed.lookup_mem Subsystem.name (k := ss.name) ?_
          rw [add_del_result_lookup order rows all tables.names, found, Option.map_some,
            configured_subsystem_fields all rows ss.name row found, oldIfaces,
            Keyed.lookup_of_mem Subsystem.name tables.names member]
          rfl
        simpa using wanted _ configured iface present
  · intro kept
    refine ⟨fun ss member => ?_, fun ss member iface present => ?_⟩
    · cases ifaces : ss.ifaceByName with
      | nil => simp [subsystemStays, ifaces]
      | cons iface rest =>
          have here := kept ss member iface (by simp [ifaces])
          cases found : Keyed.lookup SubsystemRow.name ss.name rows with
          | none => simp [found] at here
          | some row => simp [subsystemStays, found]
    · have found := Keyed.lookup_of_mem Subsystem.name names member
      rw [add_del_result_lookup order rows all tables.names] at found
      obtain ⟨row, wanted, made⟩ := Option.map_eq_some_iff.mp found
      rw [configured_subsystem_fields all rows ss.name row wanted] at made
      rw [← made] at present ⊢
      simp only at present ⊢
      unfold oldIfaces at present
      cases before : Keyed.lookup Subsystem.name ss.name all with
      | none => simp [before] at present
      | some old =>
          have here := kept old (Keyed.lookup_mem Subsystem.name before) iface (by simpa [before] using present)
          rw [Keyed.lookup_key Subsystem.name before, wanted] at here
          simpa using here

theorem subsystem_reconfigure_null (tables : Tables all) :
    subsystemReconfigure env rows all =
      if nothingRemoved rows all then some (reconfigureResult env rows all) else none := by
  have removed := nothing_removed_iff env.order rows all tables
  rw [subsystemReconfigure, add_del_subsystems_null env.order rows all tables]
  by_cases stay : all.all (subsystemStays rows) = true
  · rw [if_pos stay]
    simp only [Option.bind_eq_bind, Option.bind_some]
    rw [del_ifaces_null env.order _ (add_del_result_tables env.order rows all tables)]
    by_cases wanted : (addDelResult env.order rows all).all (fun ss => ss.ifaceByName.all (ifaceWanted ss.cfg)) = true
    · rw [if_pos wanted, if_pos (removed.mp ⟨stay, wanted⟩)]
      rfl
    · rw [if_neg wanted, if_neg (fun none => wanted (removed.mpr none).2)]
      rfl
  · rw [if_neg stay, if_neg (fun none => stay (removed.mpr none).1)]
    rfl

theorem reconfigure_names (tables : Tables all) :
    Keyed.Unique Subsystem.name (reconfigureResult env rows all).1 := by
  have names := kept_result_names env.order _ (add_del_result_names env.order rows all tables.names)
  have same : (reconfigureResult env rows all).1.map Subsystem.name =
      (keptResult env.order (addDelResult env.order rows all)).map Subsystem.name := by
    simp only [reconfigureResult, List.map_map]
    exact List.map_congr_left (fun ss _ => (add_ifaces_owner env ss).1)
  rw [Keyed.Unique, same]
  exact names

theorem reconfigure_lookup (tables : Tables all) (k : String) :
    Keyed.lookup Subsystem.name k (reconfigureResult env rows all).1 =
      (Keyed.lookup SubsystemRow.name k rows).map (fun row =>
        reconfiguredSubsystem env row (Keyed.lookup Subsystem.name k all)) := by
  have names := add_del_result_names env.order rows all tables.names
  simp only [reconfigureResult, List.map_map]
  rw [Keyed.lookup_map Subsystem.name k (Prod.fst ∘ subsystemAddIfaces env) (fun ss => (add_ifaces_owner env ss).1),
    kept_result_lookup env.order _ names, add_del_result_lookup env.order rows all tables.names]
  simp only [Option.map_map]
  rfl

theorem reconfigured_iface_lookup (tables : Tables all)
    (k : String) (row : SubsystemRow) (wanted : Keyed.lookup SubsystemRow.name k rows = some row) (name : String) :
    Keyed.lookup Iface.name name (reconfiguredSubsystem env row (Keyed.lookup Subsystem.name k all)).ifaceByName =
      ((Keyed.lookup Iface.name name (oldIfaces all k)).map (keptIface row)).or
        ((Keyed.lookup InterfaceRow.name name row.interfaces).bind (createdIface env k)) := by
  rw [reconfiguredSubsystem, add_ifaces_lookup, keptSubsystem, configured_subsystem_fields all rows k row wanted]
  rw [keep_ifaces_lookup env.order ⟨k, row, oldIfaces all k⟩ (old_ifaces_tables all tables k).1 name]

theorem reconfigured_owner (k : String) (row : SubsystemRow) (wanted : Keyed.lookup SubsystemRow.name k rows = some row) :
    (reconfiguredSubsystem env row (Keyed.lookup Subsystem.name k all)).name = k ∧
      (reconfiguredSubsystem env row (Keyed.lookup Subsystem.name k all)).cfg = row := by
  have owner := add_ifaces_owner env (keptSubsystem env.order row (Keyed.lookup Subsystem.name k all))
  rw [reconfiguredSubsystem, owner.1, owner.2, keptSubsystem, configured_subsystem_fields all rows k row wanted]
  exact ⟨rfl, rfl⟩

theorem reconfigured_iface_names (tables : Tables all)
    (k : String) (row : SubsystemRow) (wanted : Keyed.lookup SubsystemRow.name k rows = some row) :
    Keyed.Unique Iface.name (reconfiguredSubsystem env row (Keyed.lookup Subsystem.name k all)).ifaceByName := by
  refine add_ifaces_names env _ ?_
  rw [keptSubsystem, configured_subsystem_fields all rows k row wanted]
  exact keep_ifaces_names env.order ⟨k, row, oldIfaces all k⟩ (old_ifaces_tables all tables k).1

theorem reconfigure_entry (tables : Tables all) (ss : Subsystem) (member : ss ∈ (reconfigureResult env rows all).1) :
    Keyed.lookup SubsystemRow.name ss.name rows = some ss.cfg ∧ Keyed.Unique Iface.name ss.ifaceByName ∧
      ∀ iface ∈ ss.ifaceByName,
        (∃ old ∈ oldIfaces all ss.name, iface = keptIface ss.cfg old) ∨
        ∃ row, Keyed.lookup InterfaceRow.name iface.name ss.cfg.interfaces = some row ∧
          createdIface env ss.name row = some iface := by
  have found := Keyed.lookup_of_mem Subsystem.name (reconfigure_names env rows all tables) member
  rw [reconfigure_lookup env rows all tables] at found
  obtain ⟨row, wanted, made⟩ := Option.map_eq_some_iff.mp found
  have owner := reconfigured_owner env rows all ss.name row wanted
  have names := reconfigured_iface_names env rows all tables ss.name row wanted
  have lookups := reconfigured_iface_lookup env rows all tables ss.name row wanted
  rw [made] at owner names lookups
  rw [owner.2]
  refine ⟨wanted, names, fun iface present => ?_⟩
  have entry := lookups iface.name
  rw [Keyed.lookup_of_mem Iface.name names present] at entry
  cases before : Keyed.lookup Iface.name iface.name (oldIfaces all ss.name) with
  | some old =>
      rw [before] at entry
      exact .inl ⟨old, Keyed.lookup_mem Iface.name before, Option.some.inj entry⟩
  | none =>
      rw [before, Option.map_none, Option.none_or] at entry
      obtain ⟨cfg, configured, created⟩ := Option.bind_eq_some_iff.mp entry.symm
      exact .inr ⟨cfg, configured, created⟩

theorem reconfigure_tables (tables : Tables all) :
    Tables (reconfigureResult env rows all).1 := by
  refine ⟨reconfigure_names env rows all tables, fun ss member => (reconfigure_entry env rows all tables ss member).2.1, ?_⟩
  intro ss member iface present
  obtain ⟨old, before, rfl⟩ | ⟨row, _, created⟩ := (reconfigure_entry env rows all tables ss member).2.2 iface present
  · rw [kept_iface_subsystem]
    exact (old_ifaces_tables all tables ss.name).2 old before
  · exact (created_iface_row env ss.name row iface created).2.2

theorem nothing_removed_wanted (kept : nothingRemoved rows all = true)
    (k : String) (row : SubsystemRow) (wanted : Keyed.lookup SubsystemRow.name k rows = some row) (old : Iface)
    (member : old ∈ oldIfaces all k) : ifaceWanted row old = true := by
  unfold oldIfaces at member
  cases found : Keyed.lookup Subsystem.name k all with
  | none => simp [found] at member
  | some ss =>
      rw [found, Option.elim_some] at member
      have here := List.all_eq_true.mp (List.all_eq_true.mp kept ss (Keyed.lookup_mem Subsystem.name found)) old member
      rw [Keyed.lookup_key Subsystem.name found, wanted] at here
      exact here

theorem reconfigure_wanted (tables : Tables all)
    (kept : nothingRemoved rows all = true) (ss : Subsystem) (member : ss ∈ (reconfigureResult env rows all).1)
    (iface : Iface) (present : iface ∈ ss.ifaceByName) :
    Keyed.lookup InterfaceRow.name iface.name ss.cfg.interfaces = some iface.cfg := by
  obtain ⟨wanted, _, entries⟩ := reconfigure_entry env rows all tables ss member
  obtain ⟨old, before, rfl⟩ | ⟨row, configured, created⟩ := entries iface present
  · have still := nothing_removed_wanted rows all kept ss.name ss.cfg wanted old before
    obtain ⟨cfg, found⟩ := Option.isSome_iff_exists.mp still
    rw [kept_iface_name, found, keptIface, found]
    rfl
  · rw [configured, (created_iface_row env ss.name row iface created).2.1]

end Reconfigured

end OpsSwitchd.Subsystems
