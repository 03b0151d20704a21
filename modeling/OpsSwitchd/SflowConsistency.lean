import OpsSwitchd.SflowCommands

set_option autoImplicit false

namespace OpsSwitchd.Sflow

open CText (atoi)
open Mirrors (smapReplace)

section Steps

structure Targets (targets : List (List Char)) : Prop where
  distinct : targets.Nodup
  texts : ∀ target ∈ targets, ValidCollector (written target) ∧ collectorText (written target) = target

def RowTargets (db : Database) : Prop := ∀ row ∈ db.rows, Targets row.targets

structure Sound (db : Database) (edit : SflowRow → SflowRow) : Prop where
  uuid : ∀ row, (edit row).uuid = row.uuid
  targets : RowTargets db → ∀ row : SflowRow, Targets row.targets → Targets (edit row).targets
  numbers : ∀ row column value, (edit row).number column = some value →
    row.number column = some value ∨ low column ≤ value ∧ value ≤ high column

inductive Change (db : Database) : Database → Prop where
  | same : Change db db
  | edit (edit : SflowRow → SflowRow) (sound : Sound db edit) : Change db (editRow db edit)
  | enable (off : db.system = some none) :
      Change db { editRow db id with system := some ((editRow db id).rows.head?.map SflowRow.uuid) }
  | disable : Change db { db with system := some none }
  | ports (ports : List SflowPort) (names : ports.map SflowPort.name = db.ports.map SflowPort.name) :
      Change db { db with ports := ports }

theorem finish_db (txn : Txn) (db next : Database) :
    (cliDoConfigFinish txn db next).db = db ∨ (cliDoConfigFinish txn db next).db = next := by
  unfold cliDoConfigFinish
  split
  · exact .inr rfl
  · exact .inl rfl

theorem finish_change (txn : Txn) (db next : Database) (change : Change db next) :
    Change db (cliDoConfigFinish txn db next).db := by
  rcases finish_db txn db next with same | committed
  · rw [same]
    exact .same
  · rw [committed]
    exact change

theorem id_sound (db : Database) : Sound db id := ⟨fun _ => rfl, fun _ _ distinct => distinct, fun _ _ _ written => .inl written⟩

theorem set_number_sound (db : Database) (column : NumberColumn) (arg : Option (RangeArg (low column) (high column))) :
    Sound db (fun row => row.setNumber column (arg.map (fun a => atoi a.text))) where
  uuid := fun row => by cases column <;> rfl
  targets := fun _ row distinct => by cases column <;> exact distinct
  numbers := fun row other value written => by
    by_cases same : other = column
    · subst same
      have given : arg.map (fun a => atoi a.text) = some value := by cases other <;> exact written
      obtain ⟨a, _, rfl⟩ := Option.map_eq_some_iff.mp given
      exact .inr a.within
    · left
      cases column <;> cases other <;> first | exact absurd rfl same | exact written

theorem set_number_change (column : NumberColumn) (txn : Txn) (db : Database)
    (arg : Option (RangeArg (low column) (high column))) :
    Change db (setNumber column txn db (arg.map (fun a => atoi a.text))).db := by
  unfold setNumber
  split
  · exact .same
  · split
    · exact .same
    · exact finish_change txn db _ (.edit _ (set_number_sound db column arg))

theorem set_other_config_names (ports : List SflowPort) (name : String) (change : Smap → Smap) :
    (setOtherConfig ports name change).map SflowPort.name = ports.map SflowPort.name := by
  rw [setOtherConfig, List.map_map]
  refine List.map_congr_left (fun port _ => ?_)
  dsimp only [Function.comp_apply]
  split <;> rfl

theorem set_port_config_change (txn : Txn) (db : Database) (port : String) (set : Bool) :
    Change db (sflowSetPortConfig txn db port set).db := by
  unfold sflowSetPortConfig
  split
  · exact .same
  · split
    · exact .same
    · split
      · exact .same
      · exact finish_change txn db _ (.ports _ (set_other_config_names db.ports port _))

theorem set_global_status_cases (txn : Txn) (db : Database) (status : Bool) :
    (sflowSetGlobalStatus txn db status).db = db ∨
      db.system = some none ∧ (sflowSetGlobalStatus txn db status).db =
        { editRow db id with system := some ((editRow db id).rows.head?.map SflowRow.uuid) } ∨
      db.system.isNone = false ∧ (sflowSetGlobalStatus txn db status).db = { db with system := some none } := by
  unfold sflowSetGlobalStatus
  split
  · exact .inl rfl
  · cases sflow : db.system with
    | none => exact .inl rfl
    | some reference =>
        dsimp only
        split
        · cases reference with
          | some uuid => exact .inl rfl
          | none => exact (finish_db txn db _).imp id (fun enabled => .inl ⟨rfl, enabled⟩)
        · split
          · exact (finish_db txn db _).imp id (fun disabled => .inr ⟨rfl, disabled⟩)
          · exact .inl rfl

theorem set_global_status_change (txn : Txn) (db : Database) (status : Bool) :
    Change db (sflowSetGlobalStatus txn db status).db := by
  rcases set_global_status_cases txn db status with same | ⟨off, enabled⟩ | ⟨_, disabled⟩
  · rw [same]
    exact .same
  · rw [enabled]
    exact .enable off
  · rw [disabled]
    exact .disable

theorem targets_nil : Targets [] := ⟨List.nodup_nil, fun _ member => absurd member List.not_mem_nil⟩

theorem targets_stored (targets : List (List Char))
    (texts : ∀ target ∈ targets, ValidCollector (written target) ∧ collectorText (written target) = target) :
    Targets (SetColumn.stored targets) :=
  ⟨SetColumn.nodup_stored targets, fun target member => texts target (SetColumn.mem_stored.mp member)⟩

theorem command_keeps_targets (targets : List (List Char)) (sound : Targets targets) (c : Collector) (valid : ValidCollector c)
    (set : Bool) : Targets (commandTargets targets c set) := by
  cases set with
  | true =>
      rcases add_cases targets c with same | ⟨_, added⟩
      · rw [same]
        exact sound
      · rw [added]
        refine targets_stored _ (fun target member => ?_)
        rcases List.mem_append.mp member with old | new
        · exact sound.texts target old
        · rw [List.mem_singleton.mp new, written_text c valid]
          exact ⟨valid, rfl⟩
  | false =>
      unfold commandTargets sflowCollectorRemove
      simp only [Bool.false_eq_true, if_false]
      split
      · exact sound
      · rename_i changed removed
        split at removed
        · cases removed
        · split at removed
          · rw [← Except.ok.inj removed]
            exact targets_stored _ (fun target member => sound.texts target (List.mem_of_mem_filter member))
          · cases removed

theorem set_collector_keeps_targets (parser : AddressParser) (table : SflowTable) (cmd : Command)
    (sound : Targets (targetsOf table)) : Targets (targetsOf (sflowSetCollector parser table cmd.collector cmd.set).table) := by
  by_cases accepts : Accepts parser cmd.collector
  · rw [set_collector_targets parser table cmd.collector cmd.set accepts]
    exact command_keeps_targets _ sound cmd.collector (command_valid parser cmd accepts) cmd.set
  · rw [set_collector_rejected parser table cmd.collector cmd.set accepts]
    exact sound

theorem head_targets (db : Database) (sound : RowTargets db) : Targets (targetsOf (db.rows.head?.map SflowRow.targets)) := by
  cases rows : db.rows with
  | nil => exact targets_nil
  | cons row rest => exact sound row (rows ▸ List.mem_cons_self)

theorem set_collector_change (parser : AddressParser) (txn : Txn) (db : Database) (cmd : Command) :
    Change db (sflowSetCollectorRow parser txn db cmd).db := by
  unfold sflowSetCollectorRow
  split
  · exact .same
  · dsimp only
    split
    · exact .same
    · refine finish_change txn db _ (.edit _ ⟨fun _ => rfl, fun distinct _ _ => ?_, fun _ column _ written => ?_⟩)
      · exact set_collector_keeps_targets parser _ cmd (head_targets db distinct)
      · exact .inl (by cases column <;> exact written)

theorem set_agent_change (txn : Txn) (db : Database) (interface family : Option String) (set : Bool) :
    Change db (sflowSetAgentInterface txn db interface family set).db := by
  unfold sflowSetAgentInterface
  split
  · exact .same
  · split
    · exact .same
    · split
      · exact .same
      · exact finish_change txn db _ (.edit _
          ⟨fun _ => rfl, fun _ _ distinct => distinct, fun _ column _ written => .inl (by cases column <;> exact written)⟩)

theorem apply_change (parser : AddressParser) (db : Database) (input : Input) : Change db (apply parser db input) := by
  cases input with
  | modifyPort name otherConfig =>
      refine .ports _ ?_
      rw [List.map_map]
      refine List.map_congr_left (fun port _ => ?_)
      dsimp only [Function.comp_apply]
      split <;> rfl
  | command txn cmd =>
      cases cmd with
      | status enable => exact set_global_status_change txn db enable
      | portStatus port enable => exact set_port_config_change txn db port enable
      | number column arg => cases column <;> exact set_number_change _ txn db arg
      | collector cmd => exact set_collector_change parser txn db cmd
      | agentInterface interface family => exact set_agent_change txn db (some interface) family true
      | noAgentInterface => exact set_agent_change txn db none none false

end Steps

section Invariant

structure Consistent (db : Database) : Prop where
  single : db.rows.length ≤ 1
  referenced : ∀ uuid, db.system = some (some uuid) → ∃ row, db.rows = [row] ∧ row.uuid = uuid
  targets : RowTargets db
  numbers : ∀ row ∈ db.rows, ∀ column value, row.number column = some value → low column ≤ value ∧ value ≤ high column
  ports : (db.ports.map SflowPort.name).Nodup

theorem edit_row_single (db : Database) (edit : SflowRow → SflowRow) (single : db.rows.length ≤ 1) :
    ∃ row, (editRow db edit).rows = [edit row] ∧ (db.rows = [] ∧ row = sflowInsert db ∨ db.rows = [row]) := by
  unfold editRow
  cases rows : db.rows with
  | nil => exact ⟨sflowInsert db, rfl, .inl ⟨rfl, rfl⟩⟩
  | cons row rest =>
      cases rest with
      | nil => exact ⟨row, rfl, .inr rfl⟩
      | cons other more => simp [rows] at single

theorem edit_row_frame (db : Database) (edit : SflowRow → SflowRow) :
    (editRow db edit).system = db.system ∧ (editRow db edit).ports = db.ports ∧
      (editRow db edit).interfaces = db.interfaces := by
  unfold editRow
  split <;> exact ⟨rfl, rfl, rfl⟩

theorem inserted_number (db : Database) (column : NumberColumn) : (sflowInsert db).number column = none := by cases column <;> rfl

theorem edit_consistent (db : Database) (edit : SflowRow → SflowRow) (sound : Sound db edit) (consistent : Consistent db) :
    Consistent (editRow db edit) := by
  obtain ⟨row, rows, origin⟩ := edit_row_single db edit consistent.single
  obtain ⟨system, ports, _⟩ := edit_row_frame db edit
  refine ⟨by simp [rows], fun uuid reference => ⟨edit row, rows, ?_⟩, fun edited member => ?_, fun edited member => ?_,
    ports ▸ consistent.ports⟩
  · obtain ⟨kept, single, same⟩ := consistent.referenced uuid (system ▸ reference)
    rcases origin with ⟨empty, _⟩ | alone
    · rw [empty] at single
      cases single
    · rw [sound.uuid, ← same]
      rw [alone] at single
      exact congrArg SflowRow.uuid (List.cons.inj single).1
  · obtain rfl := List.mem_singleton.mp (rows ▸ member)
    refine sound.targets consistent.targets row ?_
    rcases origin with ⟨_, rfl⟩ | alone
    · exact targets_nil
    · exact consistent.targets row (alone ▸ List.mem_singleton_self row)
  · obtain rfl := List.mem_singleton.mp (rows ▸ member)
    intro column value written
    rcases sound.numbers row column value written with old | given
    · rcases origin with ⟨_, rfl⟩ | alone
      · rw [inserted_number] at old
        cases old
      · exact consistent.numbers row (alone ▸ List.mem_singleton_self row) column value old
    · exact given

theorem change_consistent (db next : Database) (change : Change db next) (consistent : Consistent db) : Consistent next := by
  cases change with
  | same => exact consistent
  | edit edit sound => exact edit_consistent db edit sound consistent
  | disable => exact ⟨consistent.single, fun _ reference => absurd (Option.some.inj reference).symm (Option.some_ne_none _),
      consistent.targets, consistent.numbers, consistent.ports⟩
  | ports ports names => exact ⟨consistent.single, consistent.referenced, consistent.targets, consistent.numbers,
      names ▸ consistent.ports⟩
  | enable off =>
      have edited := edit_consistent db id (id_sound db) consistent
      obtain ⟨row, rows, _⟩ := edit_row_single db id consistent.single
      refine ⟨edited.single, fun uuid reference => ⟨row, rows, ?_⟩, edited.targets, edited.numbers, edited.ports⟩
      simpa [rows] using reference

theorem apply_consistent (parser : AddressParser) (db : Database) (input : Input) (consistent : Consistent db) (_ : True) :
    Consistent (apply parser db input) := change_consistent db _ (apply_change parser db input) consistent

structure Unconfigured (db : Database) : Prop where
  rows : db.rows = []
  system : ∀ uuid, db.system ≠ some (some uuid)
  ports : (db.ports.map SflowPort.name).Nodup

theorem unconfigured_consistent (db : Database) (unconfigured : Unconfigured db) : Consistent db where
  single := by simp [unconfigured.rows]
  referenced := fun uuid reference => absurd reference (unconfigured.system uuid)
  targets := fun row member => absurd (unconfigured.rows ▸ member) List.not_mem_nil
  numbers := fun row member => absurd (unconfigured.rows ▸ member) List.not_mem_nil
  ports := unconfigured.ports

end Invariant

section Entries

theorem configure_sflow_entries (defaults : NumberColumn → Nat) (db : Database) (number : Nat) (names : List String) :
    configureSflow defaults db number names = (names.zipIdx number).map
      (fun entry => (entry.1, (systemRow db).map (fun row => bridgeConfigureSflow defaults db.ports row entry.2))) := by
  induction names generalizing number with
  | nil => rfl
  | cons name rest ih =>
      rw [configureSflow, List.zipIdx_cons, List.map_cons]
      cases system : systemRow db with
      | some row =>
          rw [system] at ih
          exact congrArg (List.cons _) (ih (number + 1))
      | none =>
          have unnumbered : ∀ first : Nat, (rest.zipIdx first).map (fun entry => (entry.1, (none : Option Options))) =
              rest.map (fun name => (name, none)) := by
            intro first
            conv_rhs => rw [← List.zipIdx_map_fst first rest, List.map_map]
            rfl
          rw [system] at ih
          refine congrArg (List.cons _) ((ih number).trans ?_)
          exact (unnumbered number).trans (unnumbered (number + 1)).symm

theorem system_row_of_enabled (db : Database) (consistent : Consistent db) (uuid : Nat) (enabled : db.system = some (some uuid)) :
    ∃ row, db.rows = [row] ∧ systemRow db = some row := by
  obtain ⟨row, rows, same⟩ := consistent.referenced uuid enabled
  refine ⟨row, rows, ?_⟩
  rw [systemRow, enabled, rows]
  simp [same]

theorem system_row_some (db : Database) (consistent : Consistent db) (row : SflowRow) (pushed : systemRow db = some row) :
    db.rows = [row] ∧ ∃ uuid, db.system = some (some uuid) := by
  obtain ⟨sflow, system, later⟩ := Option.bind_eq_some_iff.mp pushed
  obtain ⟨uuid, rfl, _⟩ := Option.bind_eq_some_iff.mp later
  obtain ⟨other, rows, found⟩ := system_row_of_enabled db consistent uuid system
  rw [found] at pushed
  rw [rows, Option.some.inj pushed]
  exact ⟨rfl, uuid, system⟩

theorem entry_pushed (defaults : NumberColumn → Nat) (db : Database) (consistent : Consistent db) (names : List String) (name : String)
    (o : Options) (entry : (name, some o) ∈ configureSflow defaults db 0 names) :
    ∃ row number uuid, o = bridgeConfigureSflow defaults db.ports row number ∧ db.rows = [row] ∧ db.system = some (some uuid) ∧
      Targets row.targets := by
  rw [configure_sflow_entries] at entry
  obtain ⟨⟨_, number⟩, _, same⟩ := List.mem_map.mp entry
  obtain ⟨row, pushed, options⟩ := Option.map_eq_some_iff.mp (Prod.mk.inj same).2
  obtain ⟨rows, uuid, system⟩ := system_row_some db consistent row pushed
  exact ⟨row, number, uuid, options.symm, rows, system, consistent.targets row (rows ▸ List.mem_singleton_self row)⟩

end Entries

def sampleDatabase : Database := ⟨[], 0, some none, [⟨"1", [], ["system"], none, none⟩], [⟨"1", []⟩]⟩

def sampleInputs : List Input :=
  [.command ⟨true, true⟩ (.number .sampling (some ⟨['1', '0', '0'], by decide⟩)), .command ⟨true, true⟩ (.status true),
    .command ⟨true, true⟩ (.portStatus "1" false)]

theorem sample_unconfigured : Unconfigured sampleDatabase := ⟨rfl, fun uuid same => absurd same (by simp [sampleDatabase]), by decide⟩

end OpsSwitchd.Sflow
