import OpsSwitchd.SflowConsistency

set_option autoImplicit false

namespace OpsSwitchd.Sflow

open CText (atoi)

def settingsOf (db : Database) : SflowRow :=
  { db.rows.head?.getD ⟨0, [], none, none, none, none, none, none⟩ with uuid := 0 }

structure Alike (a b : Database) : Prop where
  settings : settingsOf a = settingsOf b
  ports : a.ports = b.ports
  interfaces : a.interfaces = b.interfaces
  system : a.system.isNone = b.system.isNone

def configures : Input → Bool
  | .command _ (.status _) => false
  | _ => true

section Edits

variable (parser : AddressParser) (txn : Txn) (db : Database) (edit : SflowRow → SflowRow)

theorem alike_refl : Alike db db := ⟨rfl, rfl, rfl, rfl⟩

theorem alike_symm (a b : Database) (alike : Alike a b) : Alike b a :=
  ⟨alike.settings.symm, alike.ports.symm, alike.interfaces.symm, alike.system.symm⟩

theorem alike_trans (a b c : Database) (first : Alike a b) (second : Alike b c) : Alike a c :=
  ⟨first.settings.trans second.settings, first.ports.trans second.ports, first.interfaces.trans second.interfaces,
    first.system.trans second.system⟩

theorem settings_edit (blind : ∀ row, { edit row with uuid := 0 } = edit { row with uuid := 0 }) :
    settingsOf (editRow db edit) = edit (settingsOf db) := by
  unfold settingsOf editRow
  cases rows : db.rows with
  | nil => exact blind (sflowInsert db)
  | cons row rest => exact blind row

theorem edit_alike (a b : Database) (alike : Alike a b) (edit : SflowRow → SflowRow)
    (blind : ∀ row, { edit row with uuid := 0 } = edit { row with uuid := 0 }) : Alike (editRow a edit) (editRow b edit) := by
  obtain ⟨systemA, portsA, interfacesA⟩ := edit_row_frame a edit
  obtain ⟨systemB, portsB, interfacesB⟩ := edit_row_frame b edit
  refine ⟨?_, ?_, ?_, ?_⟩
  · rw [settings_edit a edit blind, settings_edit b edit blind, alike.settings]
  · rw [portsA, portsB, alike.ports]
  · rw [interfacesA, interfacesB, alike.interfaces]
  · rw [systemA, systemB, alike.system]

theorem edit_idle (blind : ∀ row, { edit row with uuid := 0 } = edit { row with uuid := 0 })
    (idle : edit (settingsOf db) = settingsOf db) : Alike db (editRow db edit) := by
  obtain ⟨system, ports, interfaces⟩ := edit_row_frame db edit
  exact ⟨by rw [settings_edit db edit blind, idle], ports.symm, interfaces.symm, by rw [system]⟩

def committed (txn : Txn) (db : Database) (edit : SflowRow → SflowRow) : Database :=
  if txn.started && txn.commits then editRow db edit else db

theorem committed_alike (a b : Database) (alike : Alike a b) (edit : SflowRow → SflowRow)
    (blind : ∀ row, { edit row with uuid := 0 } = edit { row with uuid := 0 }) :
    Alike (committed txn a edit) (committed txn b edit) := by
  unfold committed
  split
  · exact edit_alike a b alike edit blind
  · exact alike

theorem idle_committed (blind : ∀ row, { edit row with uuid := 0 } = edit { row with uuid := 0 })
    (idle : edit (settingsOf db) = settingsOf db) : Alike db (committed txn db edit) := by
  unfold committed
  split
  · exact edit_idle db edit blind idle
  · exact alike_refl db

theorem finish_committed (started : txn.started = true) :
    (cliDoConfigFinish txn db (editRow db edit)).db = committed txn db edit := by
  unfold cliDoConfigFinish committed
  rw [started, Bool.true_and]
  split <;> rfl

theorem unstarted_committed (failed : txn.started = false) :
    committed txn db edit = db := by
  rw [committed, failed, Bool.false_and, if_neg Bool.false_ne_true]

theorem set_number_blind (column : NumberColumn) (value : Option Int) (row : SflowRow) :
    { row.setNumber column value with uuid := 0 } = SflowRow.setNumber { row with uuid := 0 } column value := by
  cases column <;> rfl

-- Without a row the command for a default is aborted; it would have had no
-- effect.
theorem set_number_committed (column : NumberColumn) (txn : Txn) (db : Database) (value : Option Int) :
    Alike (setNumber column txn db value).db (committed txn db (fun row => row.setNumber column value)) := by
  unfold setNumber
  cases started : txn.started with
  | false =>
      rw [unstarted_committed txn db _ started]
      exact alike_refl db
  | true =>
      rw [Bool.not_true, if_neg Bool.false_ne_true]
      split
      · rename_i missing
        rw [Bool.and_eq_true, List.isEmpty_iff, Option.isNone_iff_eq_none] at missing
        refine idle_committed txn db _ (set_number_blind column value) ?_
        rw [settingsOf, missing.1, missing.2]
        cases column <;> rfl
      · rw [finish_committed txn db _ started]
        exact alike_refl _

theorem through_committed (blind : ∀ row, { edit row with uuid := 0 } = edit { row with uuid := 0 }) (a b nextA nextB : Database)
    (alike : Alike a b) (ofA : Alike nextA (committed txn a edit)) (ofB : Alike nextB (committed txn b edit)) : Alike nextA nextB :=
  alike_trans _ _ _ ofA (alike_trans _ _ _ (committed_alike txn a b alike edit blind) (alike_symm _ _ ofB))

theorem set_number_alike (column : NumberColumn) (txn : Txn) (value : Option Int) (a b : Database) (alike : Alike a b) :
    Alike (setNumber column txn a value).db (setNumber column txn b value).db :=
  through_committed txn _ (set_number_blind column value) a b _ _ alike (set_number_committed column txn a value)
    (set_number_committed column txn b value)

theorem set_agent_committed (interface : String) (family : Option String)
    (known : db.interfaces.all (fun row => decide (some row.name ≠ some interface)) = false) :
    (sflowSetAgentInterface txn db (some interface) family true).db =
      committed txn db (fun row => { row with agent := some interface, agentAddrFamily := family }) := by
  unfold sflowSetAgentInterface
  rw [Bool.true_and, known, Bool.not_true, Bool.false_and, if_neg Bool.false_ne_true, if_neg Bool.false_ne_true]
  cases started : txn.started with
  | false => exact (unstarted_committed txn db _ started).symm
  | true => exact finish_committed txn db _ started

theorem no_agent_committed :
    Alike (sflowSetAgentInterface txn db none none false).db
      (committed txn db (fun row => { row with agent := none, agentAddrFamily := none })) := by
  unfold sflowSetAgentInterface
  rw [Bool.false_and, Bool.not_false, Bool.true_and, if_neg Bool.false_ne_true]
  cases started : txn.started with
  | false =>
      rw [unstarted_committed txn db _ started]
      exact alike_refl db
  | true =>
      rw [Bool.not_true, if_neg Bool.false_ne_true]
      split
      · rename_i missing
        refine idle_committed txn db _ (fun _ => rfl) ?_
        rw [settingsOf, List.isEmpty_iff.mp missing]
        rfl
      · rw [finish_committed txn db _ started]
        exact alike_refl _

theorem set_agent_alike (interface : String) (family : Option String) (a b : Database) (alike : Alike a b) :
    Alike (sflowSetAgentInterface txn a (some interface) family true).db
      (sflowSetAgentInterface txn b (some interface) family true).db := by
  cases known : a.interfaces.all (fun row => decide (some row.name ≠ some interface)) with
  | false =>
      rw [set_agent_committed txn a interface family known, set_agent_committed txn b interface family (alike.interfaces ▸ known)]
      exact committed_alike txn a b alike _ (fun _ => rfl)
  | true =>
      have unchanged : ∀ db : Database, db.interfaces.all (fun row => decide (some row.name ≠ some interface)) = true →
          (sflowSetAgentInterface txn db (some interface) family true).db = db := by
        intro db unknown
        unfold sflowSetAgentInterface
        rw [Bool.true_and, unknown, if_pos rfl]
        split <;> rfl
      rw [unchanged a known, unchanged b (alike.interfaces ▸ known)]
      exact alike

theorem set_collector_text (table : SflowTable) (c : Collector) (set : Bool) (text : List Char)
    (aborted : (sflowSetCollector parser table c set).text = some text) : (sflowSetCollector parser table c set).table = table := by
  unfold sflowSetCollector at aborted ⊢
  cases parsed : parser.str2prefix c.ip with
  | none => rfl
  | some address =>
      rw [parsed] at aborted
      dsimp only at aborted ⊢
      split
      · rfl
      · rename_i canonical
        rw [if_neg canonical] at aborted
        split
        · rfl
        · rename_i permitted
          rw [if_neg permitted] at aborted
          split
          · rfl
          · rename_i present
            rw [if_neg present] at aborted
            unfold changeTargets at aborted ⊢
            split
            · rfl
            · rename_i changed
              rw [changed] at aborted
              cases aborted

theorem set_collector_blank (table : SflowTable) (c : Collector) (set : Bool) :
    targetsOf (sflowSetCollector parser table c set).table =
      targetsOf (sflowSetCollector parser (some (targetsOf table)) c set).table := by
  by_cases accepts : Accepts parser c
  · rw [set_collector_targets parser table c set accepts, set_collector_targets parser _ c set accepts]
    rfl
  · rw [set_collector_rejected parser table c set accepts, set_collector_rejected parser _ c set accepts]
    rfl

theorem settings_targets : (settingsOf db).targets = targetsOf (db.rows.head?.map SflowRow.targets) := by
  unfold settingsOf targetsOf
  cases db.rows <;> rfl

theorem set_collector_committed (cmd : Command) :
    Alike (sflowSetCollectorRow parser txn db cmd).db
      (committed txn db (fun row =>
        { row with targets := targetsOf (sflowSetCollector parser (some (settingsOf db).targets) cmd.collector cmd.set).table })) := by
  rw [settings_targets, ← set_collector_blank]
  unfold sflowSetCollectorRow
  cases started : txn.started with
  | false =>
      rw [unstarted_committed txn db _ started]
      exact alike_refl db
  | true =>
      rw [Bool.not_true, if_neg Bool.false_ne_true]
      dsimp only
      split
      · rename_i text aborted
        refine idle_committed txn db _ (fun _ => rfl) ?_
        rw [set_collector_text parser _ _ _ text aborted, ← settings_targets]
      · rw [finish_committed txn db _ started]
        exact alike_refl _

theorem set_collector_alike (cmd : Command) (a b : Database) (alike : Alike a b) :
    Alike (sflowSetCollectorRow parser txn a cmd).db (sflowSetCollectorRow parser txn b cmd).db := by
  have ofB := set_collector_committed parser txn b cmd
  rw [← alike.settings] at ofB
  exact through_committed txn _ (fun _ => rfl) a b _ _ alike (set_collector_committed parser txn a cmd) ofB

theorem set_port_config_alike (port : String) (set : Bool) (a b : Database) (alike : Alike a b) :
    Alike (sflowSetPortConfig txn a port set).db (sflowSetPortConfig txn b port set).db := by
  unfold sflowSetPortConfig cliDoConfigFinish
  rw [alike.system, alike.ports]
  split
  · exact alike
  · split
    · exact alike
    · split
      · exact alike
      · dsimp only
        split
        · exact ⟨alike.settings, rfl, alike.interfaces, alike.system⟩
        · exact alike

theorem apply_alike (input : Input) (configuring : configures input = true) (a b : Database)
    (alike : Alike a b) : Alike (apply parser a input) (apply parser b input) := by
  cases input with
  | modifyPort name otherConfig =>
      refine ⟨alike.settings, ?_, alike.interfaces, alike.system⟩
      simp only [apply, modifyPort, alike.ports]
  | command txn cmd =>
      cases cmd with
      | status enable => cases configuring
      | portStatus port enable => exact set_port_config_alike txn port enable a b alike
      | number column arg => cases column <;> exact set_number_alike _ txn _ a b alike
      | collector cmd => exact set_collector_alike parser txn cmd a b alike
      | agentInterface interface family => exact set_agent_alike txn interface family a b alike
      | noAgentInterface =>
          exact through_committed txn _ (fun _ => rfl) a b _ _ alike (no_agent_committed txn a) (no_agent_committed txn b)

theorem status_alike (input : Input) (status : configures input = false) (db : Database) :
    Alike (apply parser db input) db := by
  cases input with
  | modifyPort name otherConfig => cases status
  | command txn cmd =>
      cases cmd with
      | status enable =>
          show Alike (sflowSetGlobalStatus txn db enable).db db
          rcases set_global_status_cases txn db enable with same | ⟨off, enabled⟩ | ⟨present, disabled⟩
          · rw [same]
            exact alike_refl db
          · have edited := edit_idle db id (fun _ => rfl) rfl
            rw [enabled]
            exact ⟨edited.settings.symm, edited.ports.symm, edited.interfaces.symm, by rw [off]; rfl⟩
          · rw [disabled]
            exact ⟨rfl, rfl, rfl, present.symm⟩
      | _ => cases status

theorem runs_alike (inputs : List Input) (a b : Database) (alike : Alike a b) :
    Alike (Runs.run (apply parser) a inputs) (Runs.run (apply parser) b (inputs.filter configures)) := by
  induction inputs generalizing a b with
  | nil => exact alike
  | cons input rest ih =>
      cases kind : configures input with
      | true =>
          rw [List.filter_cons_of_pos kind]
          exact ih _ _ (apply_alike parser input kind a b alike)
      | false =>
          rw [List.filter_cons_of_neg (by simp [kind])]
          exact ih _ b (alike_trans _ _ _ (status_alike parser input kind a) alike)

end Edits

theorem pushed_independent_of_status (parser : AddressParser) (defaults : NumberColumn → Nat) (start : Database)
    (unconfigured : Unconfigured start) (inputs : List Input) (names : List String) (name : String) (o : Options)
    (pushed : (name, some o) ∈ configureSflow defaults (Runs.run (apply parser) start inputs) 0 names) :
    ∃ number, o = bridgeConfigureSflow defaults (Runs.run (apply parser) start (inputs.filter configures)).ports
      (settingsOf (Runs.run (apply parser) start (inputs.filter configures))) number := by
  have always : Runs.Always (apply parser) Consistent start inputs :=
    Runs.invariant_always (apply_consistent parser) (unconfigured_consistent start unconfigured) (fun _ _ _ _ => trivial)
  have consistent := always inputs [] (List.append_nil inputs).symm
  have alike := runs_alike parser inputs start start (alike_refl start)
  obtain ⟨row, number, _, rfl, rows, _⟩ := entry_pushed defaults _ consistent names name o pushed
  have settings : settingsOf (Runs.run (apply parser) start inputs) = { row with uuid := 0 } := by
    rw [settingsOf, rows]
    rfl
  refine ⟨number, ?_⟩
  rw [← alike.ports, ← alike.settings, settings]
  rfl

def sampleOptions : Options :=
  bridgeConfigureSflow (fun _ => 128) [⟨"1", [(sflowEnabledKey, "false")], ["system"], none, none⟩] ⟨0, [], none, none, some 100, none, none, none⟩ 0

theorem sample_pushed_independent :
    ("bridge_normal", some sampleOptions) ∈ configureSflow (fun _ => 128) (Runs.run (apply sampleParser) sampleDatabase sampleInputs) 0 ["bridge_normal"] ∧
      ∃ number, sampleOptions =
        bridgeConfigureSflow (fun _ => 128) (Runs.run (apply sampleParser) sampleDatabase (sampleInputs.filter configures)).ports
          (settingsOf (Runs.run (apply sampleParser) sampleDatabase (sampleInputs.filter configures))) number := by
  have pushed : ("bridge_normal", some sampleOptions) ∈
      configureSflow (fun _ => 128) (Runs.run (apply sampleParser) sampleDatabase sampleInputs) 0 ["bridge_normal"] := List.mem_singleton.mpr rfl
  exact ⟨pushed, pushed_independent_of_status sampleParser (fun _ => 128) sampleDatabase sample_unconfigured sampleInputs ["bridge_normal"]
    "bridge_normal" sampleOptions pushed⟩

end OpsSwitchd.Sflow
