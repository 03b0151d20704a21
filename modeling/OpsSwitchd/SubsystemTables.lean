import OpsSwitchd.Subsystem

set_option autoImplicit false

namespace OpsSwitchd.Subsystems

structure Tables (all : List Subsystem) : Prop where
  names : Keyed.Unique Subsystem.name all
  ifaces : ∀ ss ∈ all, Keyed.Unique Iface.name ss.ifaceByName
  null : ∀ ss ∈ all, ∀ iface ∈ ss.ifaceByName, iface.subsystem = none

theorem update_ifaces_lookup (name : String) (f : List Iface → List Iface) (all : List Subsystem) (k : String) :
    Keyed.lookup Subsystem.name k (updateIfaces name f all) =
      if k = name then (Keyed.lookup Subsystem.name k all).map (fun ss => { ss with ifaceByName := f ss.ifaceByName })
      else Keyed.lookup Subsystem.name k all := by
  split
  · rename_i same
    subst same
    exact Keyed.lookup_replace_self Subsystem.name k _ all (fun _ _ _ => rfl)
  · rename_i different
    exact Keyed.lookup_replace_other Subsystem.name different _ all (fun _ _ _ => rfl)

theorem update_ifaces_names (name : String) (f : List Iface → List Iface) (all : List Subsystem)
    (names : Keyed.Unique Subsystem.name all) : Keyed.Unique Subsystem.name (updateIfaces name f all) :=
  Keyed.unique_replace Subsystem.name names name _ (fun _ _ _ => rfl)

theorem update_ifaces_foldl {α : Type} (name : String) (f : α → List Iface → List Iface) (items : List α)
    (all : List Subsystem) :
    items.foldl (fun all a => updateIfaces name (f a) all) all =
      updateIfaces name (fun ifaces => items.foldl (fun ifaces a => f a ifaces) ifaces) all := by
  induction items generalizing all with
  | nil => exact (Keyed.replace_same Subsystem.name name _ (fun _ => rfl) all).symm
  | cons a rest ih =>
      rw [List.foldl_cons, ih, updateIfaces, updateIfaces]
      exact Keyed.replace_comp Subsystem.name (f := fun ss => { ss with ifaceByName := f a ss.ifaceByName })
        (fun _ same => same) all

section Tables

variable (order : HashOrder) (rows : List SubsystemRow) (all : List Subsystem) (ss : Subsystem)

theorem subsystem_destroy_null (null : ∀ iface ∈ ss.ifaceByName, iface.subsystem = none) :
    subsystemDestroy order all ss =
      if ss.ifaceByName.isEmpty then some (Keyed.remove Subsystem.name ss.name all) else none := by
  have refused : ∀ all, ∀ iface ∈ order.walk ss.ifaceByName,
      ifaceDestroy all iface = if (fun _ => false) iface then some all else none := by
    intro all iface member
    simp [ifaceDestroy, null iface ((order.mem_walk _ _).mp member)]
  rw [subsystemDestroy, Keyed.foldlM_guard ifaceDestroy (fun all _ => all) (fun _ => false) refused]
  cases empty : ss.ifaceByName with
  | nil => simp [List.Perm.eq_nil (order.perm _)]
  | cons iface rest =>
      have visited : iface ∈ order.walk (iface :: rest) := by simp
      have stopped : (order.walk (iface :: rest)).all (fun _ => false) = false := by
        rw [List.all_eq_false]
        exact ⟨iface, visited, by simp⟩
      simp [stopped]

theorem subsystem_exit_ends_iff (tables : Tables all) :
    (subsystemExit order all).isSome ↔ ∀ ss ∈ all, ss.ifaceByName = [] := by
  have each : ∀ next, ∀ ss ∈ order.walk all, subsystemDestroy order next ss =
      if (fun ss : Subsystem => ss.ifaceByName.isEmpty) ss then some (Keyed.remove Subsystem.name ss.name next) else none :=
    fun next ss member => subsystem_destroy_null order next ss (tables.null ss ((order.mem_walk _ _).mp member))
  rw [subsystemExit, Keyed.foldlM_guard _ _ _ each, (order.perm all).all_eq]
  simp

def subsystemStays (rows : List SubsystemRow) (ss : Subsystem) : Bool :=
  (Keyed.lookup SubsystemRow.name ss.name rows).isSome || ss.ifaceByName.isEmpty

def keepSubsystem (rows : List SubsystemRow) (all : List Subsystem) (ss : Subsystem) : List Subsystem :=
  match Keyed.lookup SubsystemRow.name ss.name rows with
  | none => Keyed.remove Subsystem.name ss.name all
  | some cfg => setSubsystemCfg ss.name cfg all

theorem del_subsystem_null (null : ∀ iface ∈ ss.ifaceByName, iface.subsystem = none) :
    delSubsystem order (Keyed.collect SubsystemRow.name rows) all ss =
      if subsystemStays rows ss then some (keepSubsystem rows all ss) else none := by
  rw [delSubsystem, subsystemStays, keepSubsystem, Keyed.lookup_collect]
  cases wanted : Keyed.lookup SubsystemRow.name ss.name rows with
  | none => simpa using subsystem_destroy_null order all ss null
  | some cfg => simp

theorem keep_subsystem_lookup (k : String) :
    Keyed.lookup Subsystem.name k (keepSubsystem rows all ss) =
      if k = ss.name then
        (Keyed.lookup SubsystemRow.name ss.name rows).bind (fun cfg =>
          (Keyed.lookup Subsystem.name k all).map (fun old => { old with cfg := cfg }))
      else Keyed.lookup Subsystem.name k all := by
  unfold keepSubsystem
  by_cases same : k = ss.name
  · subst same
    rw [if_pos rfl]
    cases Keyed.lookup SubsystemRow.name ss.name rows with
    | none => exact Keyed.lookup_remove_self Subsystem.name ss.name all
    | some cfg =>
        exact Keyed.lookup_replace_self Subsystem.name ss.name (fun old => { old with cfg := cfg }) all (fun _ _ _ => rfl)
  · rw [if_neg same]
    cases Keyed.lookup SubsystemRow.name ss.name rows with
    | none => exact Keyed.lookup_remove_other Subsystem.name same all
    | some cfg =>
        exact Keyed.lookup_replace_other Subsystem.name same (fun old => { old with cfg := cfg }) all (fun _ _ _ => rfl)

theorem keep_subsystem_names (names : Keyed.Unique Subsystem.name all) : Keyed.Unique Subsystem.name (keepSubsystem rows all ss) := by
  unfold keepSubsystem
  split
  · exact Keyed.unique_remove Subsystem.name names ss.name
  · exact Keyed.unique_replace Subsystem.name names ss.name _ (fun _ _ _ => rfl)

def configuredSubsystem (row : SubsystemRow) (old : Option Subsystem) : Subsystem :=
  old.elim (subsystemCreate row) (fun ss => { ss with cfg := row })

def addDelResult (order : HashOrder) (rows : List SubsystemRow) (all : List Subsystem) : List Subsystem :=
  rows.foldl (fun all row =>
      if (Keyed.lookup Subsystem.name row.name all).isSome then all else subsystemCreate row :: all)
    ((order.walk all).foldl (keepSubsystem rows) all)

theorem add_del_subsystems_null (tables : Tables all) :
    addDelSubsystems order rows all =
      if all.all (subsystemStays rows) then some (addDelResult order rows all) else none := by
  have each : ∀ next, ∀ ss ∈ order.walk all, delSubsystem order (Keyed.collect SubsystemRow.name rows) next ss =
      if subsystemStays rows ss then some (keepSubsystem rows next ss) else none :=
    fun next ss member => del_subsystem_null order rows next ss (tables.null ss ((order.mem_walk _ _).mp member))
  rw [addDelSubsystems, Keyed.foldlM_guard _ (keepSubsystem rows) (subsystemStays rows) each,
    (order.perm all).all_eq]
  split <;> rfl

theorem add_del_result_names (names : Keyed.Unique Subsystem.name all) : Keyed.Unique Subsystem.name (addDelResult order rows all) :=
  Keyed.unique_foldl_create Subsystem.name SubsystemRow.name subsystemCreate (fun _ => rfl) rows
    (Keyed.foldl_keeps (keepSubsystem rows) (Keyed.Unique Subsystem.name)
      (fun next ss _ unique => keep_subsystem_names rows next ss unique) names)

theorem add_del_result_lookup (names : Keyed.Unique Subsystem.name all) (k : String) :
    Keyed.lookup Subsystem.name k (addDelResult order rows all) =
      (Keyed.lookup SubsystemRow.name k rows).map (fun row =>
        configuredSubsystem row (Keyed.lookup Subsystem.name k all)) := by
  have kept := Keyed.foldl_view Subsystem.name (keepSubsystem rows) (fun next k => Keyed.lookup Subsystem.name k next)
    (fun ss found => (Keyed.lookup SubsystemRow.name ss.name rows).bind (fun cfg =>
      found.map (fun old => { old with cfg := cfg })))
    (fun _ => True) (Keyed.unique_perm Subsystem.name (order.perm all).symm names) (fun _ _ _ _ => trivial)
    (fun next ss _ _ => by simp [keep_subsystem_lookup])
    (fun next ss _ k different _ => by simp [keep_subsystem_lookup, different]) all trivial k
  rw [addDelResult, Keyed.lookup_foldl_create Subsystem.name SubsystemRow.name subsystemCreate (fun _ => rfl), kept,
    ← Keyed.lookup_perm Subsystem.name (order.perm all).symm names]
  cases found : Keyed.lookup Subsystem.name k all with
  | none => cases Keyed.lookup SubsystemRow.name k rows <;> rfl
  | some ss =>
      have named : ss.name = k := Keyed.lookup_key Subsystem.name found
      simp only [Option.elim_some, named]
      cases Keyed.lookup SubsystemRow.name k rows <;> rfl

def ifaceWanted (row : SubsystemRow) (iface : Iface) : Bool :=
  (Keyed.lookup InterfaceRow.name iface.name row.interfaces).isSome

def keptIface (row : SubsystemRow) (iface : Iface) : Iface :=
  (Keyed.lookup InterfaceRow.name iface.name row.interfaces).elim iface (fun cfg => { iface with cfg := cfg })

def keepIface (row : SubsystemRow) (ifaces : List Iface) (iface : Iface) : List Iface :=
  (Keyed.lookup InterfaceRow.name iface.name row.interfaces).elim ifaces (fun cfg => setIfaceCfg iface.name cfg ifaces)

def keepIfaces (order : HashOrder) (ss : Subsystem) (ifaces : List Iface) : List Iface :=
  (order.walk ss.ifaceByName).foldl (keepIface ss.cfg) ifaces

theorem kept_iface_name (row : SubsystemRow) (iface : Iface) : (keptIface row iface).name = iface.name := by
  unfold keptIface
  cases Keyed.lookup InterfaceRow.name iface.name row.interfaces <;> rfl

theorem kept_iface_subsystem (row : SubsystemRow) (iface : Iface) : (keptIface row iface).subsystem = iface.subsystem := by
  unfold keptIface
  cases Keyed.lookup InterfaceRow.name iface.name row.interfaces <;> rfl

theorem keep_iface_lookup (row : SubsystemRow) (ifaces : List Iface) (iface : Iface) (k : String) :
    Keyed.lookup Iface.name k (keepIface row ifaces iface) =
      if k = iface.name then (Keyed.lookup Iface.name k ifaces).map (keptIface row)
      else Keyed.lookup Iface.name k ifaces := by
  unfold keepIface
  by_cases same : k = iface.name
  · subst same
    rw [if_pos rfl]
    cases wanted : Keyed.lookup InterfaceRow.name iface.name row.interfaces with
    | none =>
        cases found : Keyed.lookup Iface.name iface.name ifaces with
        | none => exact found
        | some old =>
            rw [Option.map_some, keptIface, Keyed.lookup_key Iface.name found, wanted]
            exact found
    | some cfg =>
        have replaced := Keyed.lookup_replace_self Iface.name iface.name (fun old => { old with cfg := cfg }) ifaces
          (fun _ _ _ => rfl)
        rw [Option.elim_some, setIfaceCfg, replaced]
        cases found : Keyed.lookup Iface.name iface.name ifaces with
        | none => rfl
        | some old => rw [Option.map_some, Option.map_some, keptIface, Keyed.lookup_key Iface.name found, wanted]; rfl
  · rw [if_neg same]
    cases Keyed.lookup InterfaceRow.name iface.name row.interfaces with
    | none => rfl
    | some cfg =>
        exact Keyed.lookup_replace_other Iface.name same (fun old => { old with cfg := cfg }) ifaces (fun _ _ _ => rfl)

theorem keep_iface_names (row : SubsystemRow) (ifaces : List Iface) (iface : Iface) (names : Keyed.Unique Iface.name ifaces) :
    Keyed.Unique Iface.name (keepIface row ifaces iface) := by
  unfold keepIface
  cases Keyed.lookup InterfaceRow.name iface.name row.interfaces with
  | none => exact names
  | some cfg => exact Keyed.unique_replace Iface.name names iface.name _ (fun _ _ _ => rfl)

theorem keep_ifaces_names (names : Keyed.Unique Iface.name ss.ifaceByName) :
    Keyed.Unique Iface.name (keepIfaces order ss ss.ifaceByName) :=
  Keyed.foldl_keeps (keepIface ss.cfg) (Keyed.Unique Iface.name)
    (fun ifaces iface _ unique => keep_iface_names ss.cfg ifaces iface unique) names

theorem keep_ifaces_lookup (names : Keyed.Unique Iface.name ss.ifaceByName) (k : String) :
    Keyed.lookup Iface.name k (keepIfaces order ss ss.ifaceByName) =
      (Keyed.lookup Iface.name k ss.ifaceByName).map (keptIface ss.cfg) := by
  have kept := Keyed.foldl_view Iface.name (keepIface ss.cfg) (fun ifaces k => Keyed.lookup Iface.name k ifaces)
    (fun _ found => found.map (keptIface ss.cfg)) (fun _ => True)
    (Keyed.unique_perm Iface.name (order.perm ss.ifaceByName).symm names) (fun _ _ _ _ => trivial)
    (fun ifaces iface _ _ => by simp [keep_iface_lookup])
    (fun ifaces iface _ k different _ => by simp [keep_iface_lookup, different]) ss.ifaceByName trivial k
  rw [keepIfaces, kept, ← Keyed.lookup_perm Iface.name (order.perm ss.ifaceByName).symm names]
  cases Keyed.lookup Iface.name k ss.ifaceByName <;> rfl

theorem del_iface_null (all : List Subsystem) (iface : Iface) (null : iface.subsystem = none) :
    delIface ss all iface =
      if ifaceWanted ss.cfg iface then some (updateIfaces ss.name (fun ifaces => keepIface ss.cfg ifaces iface) all)
      else none := by
  rw [delIface, subsystemCollectWantedIfaces, Keyed.lookup_collect, ifaceWanted]
  unfold keepIface
  cases Keyed.lookup InterfaceRow.name iface.name ss.cfg.interfaces with
  | none => simp [ifaceDestroy, null]
  | some cfg => simp

theorem subsystem_del_ifaces_null (null : ∀ iface ∈ ss.ifaceByName, iface.subsystem = none) :
    subsystemDelIfaces order all ss =
      if ss.ifaceByName.all (ifaceWanted ss.cfg) then some (updateIfaces ss.name (keepIfaces order ss) all) else none := by
  have each : ∀ next, ∀ iface ∈ order.walk ss.ifaceByName, delIface ss next iface =
      if ifaceWanted ss.cfg iface then some (updateIfaces ss.name (fun ifaces => keepIface ss.cfg ifaces iface) next)
      else none :=
    fun next iface member => del_iface_null ss next iface (null iface ((order.mem_walk _ _).mp member))
  rw [subsystemDelIfaces, Keyed.foldlM_guard _ _ (ifaceWanted ss.cfg) each, (order.perm ss.ifaceByName).all_eq,
    update_ifaces_foldl ss.name (fun iface ifaces => keepIface ss.cfg ifaces iface)]
  rfl

def keptResult (order : HashOrder) (all : List Subsystem) : List Subsystem :=
  (order.walk all).foldl (fun next ss => updateIfaces ss.name (keepIfaces order ss) next) all

theorem del_ifaces_null (tables : Tables all) :
    (order.walk all).foldlM (subsystemDelIfaces order) all =
      if all.all (fun ss => ss.ifaceByName.all (ifaceWanted ss.cfg)) then some (keptResult order all) else none := by
  have each : ∀ next, ∀ ss ∈ order.walk all, subsystemDelIfaces order next ss =
      if (fun ss : Subsystem => ss.ifaceByName.all (ifaceWanted ss.cfg)) ss then
        some (updateIfaces ss.name (keepIfaces order ss) next)
      else none :=
    fun next ss member => subsystem_del_ifaces_null order next ss (tables.null ss ((order.mem_walk _ _).mp member))
  rw [Keyed.foldlM_guard _ _ _ each, (order.perm all).all_eq]
  rfl

theorem kept_result_names (names : Keyed.Unique Subsystem.name all) :
    Keyed.Unique Subsystem.name (keptResult order all) :=
  Keyed.foldl_keeps _ (Keyed.Unique Subsystem.name)
    (fun next ss _ unique => update_ifaces_names ss.name (keepIfaces order ss) next unique) names

theorem kept_result_lookup (names : Keyed.Unique Subsystem.name all) (k : String) :
    Keyed.lookup Subsystem.name k (keptResult order all) =
      (Keyed.lookup Subsystem.name k all).map (fun ss => { ss with ifaceByName := keepIfaces order ss ss.ifaceByName }) := by
  have kept := Keyed.foldl_view Subsystem.name
    (fun (next : List Subsystem) (ss : Subsystem) => updateIfaces ss.name (keepIfaces order ss) next)
    (fun next k => Keyed.lookup Subsystem.name k next)
    (fun ss found => found.map (fun old => { old with ifaceByName := keepIfaces order ss old.ifaceByName }))
    (fun _ => True) (Keyed.unique_perm Subsystem.name (order.perm all).symm names) (fun _ _ _ _ => trivial)
    (fun next ss _ _ => by simp [update_ifaces_lookup])
    (fun next ss _ k different _ => by simp [update_ifaces_lookup, different]) all trivial k
  rw [keptResult, kept, ← Keyed.lookup_perm Subsystem.name (order.perm all).symm names]
  cases Keyed.lookup Subsystem.name k all <;> rfl

end Tables

end OpsSwitchd.Subsystems
