import OpsSwitchd.Runs
import OpsSwitchd.SubsystemReconfigure

set_option autoImplicit false

namespace OpsSwitchd.Subsystems

-- tables is none after a null dereference; rows is the configuration last seen.
structure TableState where
  tables : Option (List Subsystem)
  rows : List SubsystemRow

structure Configuration where
  env : Env
  rows : List SubsystemRow

def tableStep (state : TableState) (input : Configuration) : TableState :=
  ⟨state.tables.bind (fun all => (subsystemReconfigure input.env input.rows all).map Prod.fst), input.rows⟩

structure TablesSound (rows : List SubsystemRow) (all : List Subsystem) : Prop where
  back : ∀ ss ∈ all, ∀ iface ∈ ss.ifaceByName, iface.subsystem = some ss.name
  names : Keyed.Unique Subsystem.name all
  configured : ∀ name, (Keyed.lookup Subsystem.name name all).map Subsystem.cfg = Keyed.lookup SubsystemRow.name name rows
  ifaceNames : ∀ ss ∈ all, Keyed.Unique Iface.name ss.ifaceByName
  wanted : ∀ ss ∈ all, ∀ iface ∈ ss.ifaceByName,
    Keyed.lookup InterfaceRow.name iface.name ss.cfg.interfaces = some iface.cfg

structure TablesFollow (rows : List SubsystemRow) (all : List Subsystem) : Prop extends Tables all where
  configured : ∀ name, (Keyed.lookup Subsystem.name name all).map Subsystem.cfg = Keyed.lookup SubsystemRow.name name rows
  wanted : ∀ ss ∈ all, ∀ iface ∈ ss.ifaceByName,
    Keyed.lookup InterfaceRow.name iface.name ss.cfg.interfaces = some iface.cfg

def Sound (state : TableState) : Prop := ∃ all, state.tables = some all ∧ TablesSound state.rows all

def CreatesNothing (input : Configuration) : Prop :=
  ∀ row ∈ Keyed.collect SubsystemRow.name input.rows, ∀ iface ∈ Keyed.collect InterfaceRow.name row.interfaces,
    input.env.ifaceDoCreate row.name iface = false

structure EmptyTables (state : TableState) (all : List Subsystem) : Prop where
  tables : state.tables = some all
  names : Keyed.Unique Subsystem.name all
  configured : ∀ name, (Keyed.lookup Subsystem.name name all).map Subsystem.cfg =
    Keyed.lookup SubsystemRow.name name state.rows
  empty : ∀ ss ∈ all, ss.ifaceByName = []

def Idle (state : TableState) : Prop := ∃ all, EmptyTables state all

theorem idle_sound (state : TableState) (idle : Idle state) : Sound state := by
  obtain ⟨all, inv⟩ := idle
  refine ⟨all, inv.tables, ?_, inv.names, inv.configured, ?_, ?_⟩
  · intro ss member iface present
    simp [inv.empty ss member] at present
  · intro ss member
    rw [inv.empty ss member]
    exact Keyed.unique_nil Iface.name
  · intro ss member iface present
    simp [inv.empty ss member] at present

theorem idle_tables (state : TableState) (all : List Subsystem) (inv : EmptyTables state all) : Tables all := by
  refine ⟨inv.names, fun ss member => ?_, fun ss member iface present => ?_⟩
  · rw [inv.empty ss member]
    exact Keyed.unique_nil Iface.name
  · simp [inv.empty ss member] at present

theorem idle_old_ifaces (state : TableState) (all : List Subsystem) (inv : EmptyTables state all) (name : String) :
    oldIfaces all name = [] := by
  unfold oldIfaces
  cases found : Keyed.lookup Subsystem.name name all with
  | none => rfl
  | some ss => exact inv.empty ss (Keyed.lookup_mem Subsystem.name found)

theorem idle_step (state : TableState) (input : Configuration) (all : List Subsystem) (inv : EmptyTables state all) :
    tableStep state input = ⟨some (reconfigureResult input.env input.rows all).1, input.rows⟩ := by
  have kept : nothingRemoved input.rows all = true :=
    List.all_eq_true.mpr (fun ss member => by rw [inv.empty ss member]; rfl)
  rw [tableStep, inv.tables, Option.bind_some,
    subsystem_reconfigure_null input.env input.rows all (idle_tables state all inv), if_pos kept]
  rfl

theorem reconfigure_configured (env : Env) (rows : List SubsystemRow) (all : List Subsystem) (tables : Tables all)
    (name : String) :
    (Keyed.lookup Subsystem.name name (reconfigureResult env rows all).1).map Subsystem.cfg =
      Keyed.lookup SubsystemRow.name name rows := by
  rw [reconfigure_lookup env rows all tables]
  cases wanted : Keyed.lookup SubsystemRow.name name rows with
  | none => rfl
  | some row => exact congrArg some (reconfigured_owner env rows all name row wanted).2

theorem follow_step (state : TableState) (input : Configuration)
    (follow : ∀ all, state.tables = some all → TablesFollow state.rows all) (_ : True) (after : List Subsystem)
    (ended : (tableStep state input).tables = some after) : TablesFollow (tableStep state input).rows after := by
  obtain ⟨all, before, reconfigured⟩ := Option.bind_eq_some_iff.mp ended
  have tables := (follow all before).toTables
  rw [subsystem_reconfigure_null input.env input.rows all tables] at reconfigured
  split at reconfigured
  · rename_i kept
    obtain rfl := Option.some.inj reconfigured
    exact ⟨reconfigure_tables _ _ all tables, reconfigure_configured _ _ all tables, reconfigure_wanted _ _ all tables kept⟩
  · cases reconfigured

theorem idle_step_keeps (state : TableState) (input : Configuration) (idle : Idle state) (_ : True)
    (nothing : CreatesNothing input) : Idle (tableStep state input) := by
  obtain ⟨all, inv⟩ := idle
  have tables := idle_tables state all inv
  rw [idle_step state input all inv]
  refine ⟨_, rfl, reconfigure_names _ _ all tables, reconfigure_configured _ _ all tables, fun ss member => ?_⟩
  obtain ⟨wanted, _, entries⟩ := reconfigure_entry input.env input.rows all tables ss member
  refine List.eq_nil_iff_forall_not_mem.mpr (fun iface present => ?_)
  obtain ⟨old, before, _⟩ | ⟨row, configured, created⟩ := entries iface present
  · simp [idle_old_ifaces state all inv] at before
  · have owner : ss.cfg ∈ Keyed.collect SubsystemRow.name input.rows := by
      rw [Keyed.mem_collect_iff, Keyed.lookup_key SubsystemRow.name wanted]
      exact wanted
    have chosen : row ∈ Keyed.collect InterfaceRow.name ss.cfg.interfaces := by
      rw [Keyed.mem_collect_iff, Keyed.lookup_key InterfaceRow.name configured]
      exact configured
    have refused := nothing ss.cfg owner row chosen
    rw [Keyed.lookup_key SubsystemRow.name wanted] at refused
    simp [createdIface, refused] at created

theorem idle_step_needs (state : TableState) (input : Configuration) (idle : Idle state) (_ : True)
    (sound : Sound (tableStep state input)) : CreatesNothing input := by
  obtain ⟨all, inv⟩ := idle
  have tables := idle_tables state all inv
  rw [idle_step state input all inv] at sound
  obtain ⟨after, same, sound⟩ := sound
  obtain rfl := Option.some.inj same
  intro owner configured row chosen
  rw [Keyed.mem_collect_iff] at configured chosen
  by_contra made
  -- The created entry is found under its name, with the null back pointer.
  have entry := reconfigured_iface_lookup input.env input.rows all tables owner.name owner configured row.name
  rw [idle_old_ifaces state all inv, chosen, Option.bind_some, createdIface, if_pos (by simpa using made)] at entry
  have member : reconfiguredSubsystem input.env owner (Keyed.lookup Subsystem.name owner.name all) ∈
      (reconfigureResult input.env input.rows all).1 := by
    refine Keyed.lookup_mem Subsystem.name (k := owner.name) ?_
    rw [reconfigure_lookup _ _ all tables, configured]
    rfl
  have pointed := sound.back _ member _ (Keyed.lookup_mem Iface.name entry)
  rw [freshIface, refresh_subsystem] at pointed
  cases pointed

def noSubsystems : TableState := ⟨some [], []⟩

theorem no_subsystems_idle : Idle noSubsystems :=
  ⟨[], rfl, Keyed.unique_nil Subsystem.name, fun _ => rfl, fun ss member => by cases member⟩

theorem ended_tables_follow (inputs : List Configuration) :
    Runs.Always tableStep (fun state => ∀ all, state.tables = some all → TablesFollow state.rows all)
      noSubsystems inputs := by
  refine Runs.invariant_always follow_step ?_ (fun _ _ _ _ => trivial)
  intro all same
  obtain rfl := Option.some.inj same
  refine ⟨⟨Keyed.unique_nil Subsystem.name, ?_, ?_⟩, fun _ => rfl, ?_⟩ <;>
    exact fun ss member => by cases member

theorem tables_sound_iff_nothing_created (inputs : List Configuration) :
    Runs.Always tableStep Sound noSubsystems inputs ↔ ∀ input ∈ inputs, CreatesNothing input := by
  rw [Runs.always_iff_along idle_sound idle_step_keeps idle_step_needs no_subsystems_idle
    (fun _ _ _ _ => trivial)]
  exact Runs.along_inputs tableStep CreatesNothing noSubsystems inputs

def idleNetdev : Netdev := ⟨1, none, some false, false, 0, none, none, none⟩

def plainEnv : Env := ⟨HashOrder.listed, fun _ _ => true, fun _ => idleNetdev⟩

-- The second configuration drops the only interface of the subsystem.
theorem dropped_interface_dereferences_null :
    ¬ Runs.Always tableStep Sound noSubsystems
      [⟨plainEnv, [⟨"base", [⟨1, "1", 0⟩]⟩]⟩, ⟨plainEnv, [⟨"base", []⟩]⟩] := by
  intro all
  obtain ⟨tables, ended, _⟩ := all _ [] (List.append_nil _).symm
  have stopped : (Runs.run tableStep noSubsystems
      [⟨plainEnv, [⟨"base", [⟨1, "1", 0⟩]⟩]⟩, ⟨plainEnv, [⟨"base", []⟩]⟩]).tables = none := by decide
  rw [stopped] at ended
  cases ended

end OpsSwitchd.Subsystems
