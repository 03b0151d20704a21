import OpsSwitchd.PluginBlocks
import OpsSwitchd.Runs
import Mathlib.Data.List.Nodup
import Mathlib.Logic.Function.Basic

set_option autoImplicit false

namespace OpsSwitchd.EcmpConfig

inductive EcmpSetting where
  | enabled
  | srcIpEnabled
  | dstIpEnabled
  | srcPortEnabled
  | dstPortEnabled
  | resilientHashEnabled
deriving DecidableEq, Repr

abbrev Ecmp := EcmpSetting → Bool

def ecmpConfigStart : Ecmp := fun _ => true

-- The SYSTEM_ECMP_CONFIG words of the schema header.
structure EcmpWords where
  status : String
  hashSrcIp : String
  hashDstIp : String
  hashSrcPort : String
  hashDstPort : String
  enableDefault : Bool

def settingWord (words : EcmpWords) : EcmpSetting → String
  | .enabled => words.status
  | .srcIpEnabled => words.hashSrcIp
  | .dstIpEnabled => words.hashDstIp
  | .srcPortEnabled => words.hashSrcPort
  | .dstPortEnabled => words.hashDstPort
  | .resilientHashEnabled => "resilient_hash_enabled"

-- modified is OVSREC_IDL_IS_COLUMN_MODIFIED of the ecmp_config column.
structure SystemRow where
  ecmpConfig : Smap
  modified : Bool

-- enabled is vrf_l3_ecmp_set, each other setting a vrf_l3_ecmp_hash_set.
structure EcmpCall where
  vrf : String
  setting : EcmpSetting
  enable : Bool
deriving DecidableEq, Repr

structure EcmpWork where
  config : Ecmp
  calls : List EcmpCall

def wantedSettings (words : EcmpWords) (row : SystemRow) : Ecmp :=
  fun setting => smapGetBool row.ecmpConfig (settingWord words setting) words.enableDefault

def reconfigureSetting (words : EcmpWords) (row : SystemRow) (vrf : String) (work : EcmpWork) (setting : EcmpSetting) : EcmpWork :=
  let val := wantedSettings words row setting
  if val ≠ work.config setting then ⟨Function.update work.config setting val, work.calls ++ [⟨vrf, setting, val⟩]⟩ else work

def settingsInOrder : List EcmpSetting :=
  [.enabled, .srcIpEnabled, .dstIpEnabled, .srcPortEnabled, .dstPortEnabled, .resilientHashEnabled]

def vrfReconfigureEcmp (words : EcmpWords) (system : Option SystemRow) (work : EcmpWork) (vrf : String) : EcmpWork :=
  match system with
  | none => work
  | some row => if row.modified then settingsInOrder.foldl (reconfigureSetting words row vrf) work else work

structure Input where
  reconfiguration : Reconfiguration
  system : Option SystemRow

structure State where
  switch : Switch
  work : EcmpWork

def vrfsWalked (switch : Switch) (run : Reconfiguration) : List String :=
  (run.env.order.walk ((PluginBlocks.createdVrfs switch run).map (vrfAddPhase run))).map vrfName

def reconfigureEcmp (words : EcmpWords) (state : State) (input : Input) : State where
  switch := bridgeReconfigure state.switch input.reconfiguration
  work := (vrfsWalked state.switch input.reconfiguration).foldl (vrfReconfigureEcmp words input.system) state.work

def heard (words : EcmpWords) (switch : Switch) (input : Input) (config : Ecmp) : Ecmp :=
  match input.system with
  | none => config
  | some row => if row.modified && !(vrfsWalked switch input.reconfiguration).isEmpty then wantedSettings words row else config

def followColumn (words : EcmpWords) (state : Switch × Ecmp) (input : Input) : Switch × Ecmp :=
  (bridgeReconfigure state.1 input.reconfiguration, heard words state.1 input state.2)

def replay (calls : List EcmpCall) (config : Ecmp) : Ecmp :=
  calls.foldl (fun config call => Function.update config call.setting call.enable) config

structure Told (walked : List String) (before after : EcmpWork) (calls : List EcmpCall) : Prop where
  appended : after.calls = before.calls ++ calls
  result : replay calls before.config = after.config
  target : ∀ call ∈ calls, walked.head? = some call.vrf
  changes : ∀ call ∈ calls, call.enable ≠ before.config call.setting
  once : (calls.map EcmpCall.setting).Nodup

section OneVrf

variable (words : EcmpWords) (row : SystemRow) (vrf : String)

structure Visited (before : EcmpWork) (visited : List EcmpSetting) (work : EcmpWork) : Prop where
  config : work.config = fun setting => if setting ∈ visited then wantedSettings words row setting else before.config setting
  calls : work.calls = before.calls ++ (visited.filter (fun setting => wantedSettings words row setting ≠ before.config setting)).map
    (fun setting => ⟨vrf, setting, wantedSettings words row setting⟩)

theorem visit_setting (before : EcmpWork) (visited : List EcmpSetting) (work : EcmpWork) (setting : EcmpSetting)
    (fresh : setting ∉ visited) (sofar : Visited words row vrf before visited work) :
    Visited words row vrf before (visited ++ [setting]) (reconfigureSetting words row vrf work setting) := by
  have here : work.config setting = before.config setting := by
    rw [sofar.config]
    exact if_neg fresh
  unfold reconfigureSetting
  dsimp only
  split
  · next changed =>
      rw [here] at changed
      refine ⟨?_, ?_⟩
      · funext other
        by_cases same : other = setting
        · subst same
          simp
        · refine (Function.update_of_ne same _ _).trans ?_
          rw [sofar.config]
          simp [same]
      · rw [sofar.calls, List.filter_append, List.map_append, List.append_assoc]
        simp [changed]
  · next unchanged =>
      rw [here, not_not] at unchanged
      refine ⟨?_, ?_⟩
      · funext other
        by_cases same : other = setting
        · subst same
          rw [here, ← unchanged]
          simp
        · rw [sofar.config]
          simp [same]
      · rw [sofar.calls, List.filter_append, List.map_append]
        simp [unchanged]

theorem visit_settings (before : EcmpWork) :
    Visited words row vrf before settingsInOrder (settingsInOrder.foldl (reconfigureSetting words row vrf) before) := by
  refine Keyed.foldl_invariant (reconfigureSetting words row vrf) settingsInOrder (Visited words row vrf before)
    (fun visited setting after work split sofar => visit_setting words row vrf before visited work setting ?_ sofar) ?_
  · have distinct : settingsInOrder.Nodup := by decide
    rw [split, List.nodup_append] at distinct
    exact fun member => distinct.2.2 setting member setting List.mem_cons_self rfl
  · exact ⟨by simp, by simp⟩

theorem all_settings (setting : EcmpSetting) : setting ∈ settingsInOrder := by
  cases setting <;> decide

def changedSettings (before : Ecmp) : List EcmpSetting :=
  settingsInOrder.filter (fun setting => wantedSettings words row setting ≠ before setting)

def changeCalls (before : Ecmp) : List EcmpCall :=
  (changedSettings words row before).map (fun setting => ⟨vrf, setting, wantedSettings words row setting⟩)

theorem vrf_ecmp_modified (modified : row.modified = true) (before : EcmpWork) :
    vrfReconfigureEcmp words (some row) before vrf = ⟨wantedSettings words row, before.calls ++ changeCalls words row vrf before.config⟩ := by
  obtain ⟨config, calls⟩ := visit_settings words row vrf before
  unfold vrfReconfigureEcmp
  dsimp only
  rw [if_pos modified]
  generalize settingsInOrder.foldl (reconfigureSetting words row vrf) before = after at config calls
  have everywhere : after.config = wantedSettings words row := by
    rw [config]
    funext setting
    exact if_pos (all_settings setting)
  cases after
  exact congrArg₂ EcmpWork.mk everywhere calls

theorem vrf_ecmp_again (modified : row.modified = true) (work : EcmpWork) (same : work.config = wantedSettings words row) :
    vrfReconfigureEcmp words (some row) work vrf = work := by
  have none : changeCalls words row vrf work.config = [] := by
    simp [changeCalls, changedSettings, same]
  rw [vrf_ecmp_modified words row vrf modified, none, List.append_nil, ← same]

theorem replay_settings (visited : List EcmpSetting) (config : Ecmp) (setting : EcmpSetting) :
    replay (visited.map (fun setting => ⟨vrf, setting, wantedSettings words row setting⟩)) config setting =
      if setting ∈ visited then wantedSettings words row setting else config setting := by
  induction visited generalizing config with
  | nil => rfl
  | cons first rest ih =>
      rw [List.map_cons]
      refine (ih (Function.update config first (wantedSettings words row first))).trans ?_
      by_cases same : setting = first
      · subst same
        simp
      · simp [same]

theorem replay_changes (config : Ecmp) : replay (changeCalls words row vrf config) config = wantedSettings words row := by
  funext setting
  rw [changeCalls, replay_settings]
  split
  · rfl
  · next outside =>
      by_contra different
      exact outside (List.mem_filter.mpr ⟨all_settings setting, decide_eq_true (Ne.symm different)⟩)

end OneVrf

section Runs

variable (words : EcmpWords)

theorem told_nothing (walked : List String) (work : EcmpWork) : Told walked work work [] :=
  ⟨(List.append_nil _).symm, rfl, fun _ member => absurd member List.not_mem_nil, fun _ member => absurd member List.not_mem_nil,
    List.nodup_nil⟩

theorem told_changes (row : SystemRow) (vrf : String) (rest : List String) (work : EcmpWork) :
    Told (vrf :: rest) work ⟨wantedSettings words row, work.calls ++ changeCalls words row vrf work.config⟩
      (changeCalls words row vrf work.config) where
  appended := rfl
  result := replay_changes words row vrf work.config
  target := fun call member => by
    obtain ⟨setting, _, rfl⟩ := List.mem_map.mp member
    rfl
  changes := fun call member => by
    obtain ⟨setting, changed, rfl⟩ := List.mem_map.mp member
    exact of_decide_eq_true (List.mem_filter.mp changed).2
  once := by
    have distinct : settingsInOrder.Nodup := by decide
    rw [changeCalls, List.map_map]
    exact (List.map_id _).symm ▸ distinct.filter _

-- The first VRF that is walked takes the change; the global copy then hides it
-- from the others.
theorem ecmp_run (state : State) (input : Input) :
    (reconfigureEcmp words state input).work.config = heard words state.switch input state.work.config ∧
      ∃ calls, Told (vrfsWalked state.switch input.reconfiguration) state.work (reconfigureEcmp words state input).work calls := by
  obtain ⟨run, system⟩ := input
  unfold reconfigureEcmp heard
  dsimp only
  cases system with
  | none =>
      rw [Keyed.foldl_idle (vrfReconfigureEcmp words none) (fun _ _ => rfl)]
      exact ⟨rfl, [], told_nothing _ _⟩
  | some row =>
      cases modified : row.modified with
      | false =>
          have idle : ∀ work vrf, vrfReconfigureEcmp words (some row) work vrf = work :=
            fun work vrf => if_neg (by simp [modified])
          rw [Keyed.foldl_idle _ (fun vrf _ => idle state.work vrf)]
          exact ⟨by simp [modified], [], told_nothing _ _⟩
      | true =>
          cases walked : vrfsWalked state.switch run with
          | nil => exact ⟨by simp, [], told_nothing _ _⟩
          | cons vrf rest =>
              rw [List.foldl_cons, vrf_ecmp_modified words row vrf modified,
                Keyed.foldl_idle _ (fun other _ => vrf_ecmp_again words row other modified _ rfl)]
              exact ⟨by simp [modified], _, told_changes words row vrf rest state.work⟩

structure Follows (before : State) (input : Input) (column : Ecmp) : Prop where
  config : (reconfigureEcmp words before input).work.config = column
  asked : replay (reconfigureEcmp words before input).work.calls ecmpConfigStart = column
  told : ∃ calls, Told (vrfsWalked before.switch input.reconfiguration) before.work (reconfigureEcmp words before input).work calls

structure Agree (state : State) (column : Switch × Ecmp) : Prop where
  switch : state.switch = column.1
  config : state.work.config = column.2
  asked : replay state.work.calls ecmpConfigStart = column.2

def startState : State := ⟨⟨[], []⟩, ecmpConfigStart, []⟩

theorem agree_step (state : State) (column : Switch × Ecmp) (input : Input) (agree : Agree state column) :
    Agree (reconfigureEcmp words state input) (followColumn words column input) := by
  obtain ⟨config, calls, told⟩ := ecmp_run words state input
  have same : heard words state.switch input state.work.config = (followColumn words column input).2 := by
    rw [agree.switch, agree.config]
    rfl
  refine ⟨congrArg (fun switch => bridgeReconfigure switch input.reconfiguration) agree.switch, config.trans same, ?_⟩
  rw [told.appended, replay, List.foldl_append]
  have before : state.work.calls.foldl (fun config call => Function.update config call.setting call.enable) ecmpConfigStart =
      state.work.config := agree.asked.trans agree.config.symm
  rw [before]
  exact told.result.trans (config.trans same)

theorem agree_run (inputs : List Input) (state : State) (column : Switch × Ecmp) (agree : Agree state column) :
    Agree (Runs.run (reconfigureEcmp words) state inputs) (Runs.run (followColumn words) column inputs) := by
  induction inputs generalizing state column with
  | nil => exact agree
  | cons input rest ih => exact ih _ _ (agree_step words state column input agree)

theorem ecmp_follows_column (earlier : List Input) (input : Input) :
    Follows words (Runs.run (reconfigureEcmp words) startState earlier) input
      (Runs.run (followColumn words) (⟨[], []⟩, ecmpConfigStart) (earlier ++ [input])).2 := by
  have after := agree_run words (earlier ++ [input]) startState (⟨[], []⟩, ecmpConfigStart) ⟨rfl, rfl, rfl⟩
  rw [Runs.run_snoc] at after
  exact ⟨after.config, after.asked, (ecmp_run words _ input).2⟩

end Runs

end OpsSwitchd.EcmpConfig
