import OpsSwitchd.Rows

set_option autoImplicit false

namespace OpsSwitchd.Bufmon

inductive ConfigKey where
  | enabled
  | countersMode
  | periodicCollectionEnabled
  | collectionPeriod
  | thresholdTriggerCollectionEnabled
  | triggerRateLimit
  | snapshotOnThresholdTrigger
  | other (key : String)
deriving DecidableEq, Repr

abbrev ConfigMap := List (ConfigKey × String)

inductive CollectionMode where
  | current
  | peak
deriving DecidableEq, Repr

structure SystemConfig where
  enabled : Bool
  countersMode : CollectionMode
  periodicCollectionEnabled : Bool
  collectionPeriod : Int
  thresholdTriggerCollectionEnabled : Bool
  thresholdTriggerRateLimit : Int
  snapshotOnThresholdTrigger : Bool
deriving DecidableEq, Repr

inductive Status where
  | ok
  | triggered
deriving DecidableEq, Repr

structure CounterInfo where
  counterValue : Int
  vendorInfo : Smap
  enabled : Bool
  hwUnitId : Int
  name : String
  status : Status
  triggerThreshold : Int
deriving DecidableEq, Repr

structure CounterRow where
  uuid : Uuid
  name : String
  hwUnitId : Int
  enabled : Option Bool
  triggerThreshold : Option Int
  vendorInfo : Smap
  inserted : Bool
  modified : Bool
deriving DecidableEq, Repr

-- configModified is OVSREC_IDL_IS_COLUMN_MODIFIED of bufmon_config.
structure SystemRow where
  bufmonConfig : ConfigMap
  inserted : Bool
  configModified : Bool
deriving DecidableEq, Repr

structure CounterWrite where
  uuid : Uuid
  name : String
  counterValue : Int
  status : Status
deriving DecidableEq, Repr

-- counterList is none for a null pointer. written is what the last step set in
-- the Bufmon table, none if it read outside the counter list.
structure State where
  idlSeqno : Nat
  cfg : SystemConfig
  counterList : Option (List CounterInfo)
  numActiveCounters : Nat
  latch : Bool
  nextPollInterval : Int
  written : Option (List CounterWrite)
deriving DecidableEq, Repr

structure RunInput where
  lockContended : Bool
  hasLock : Bool
  seqno : Nat
  system : Option SystemRow
  rows : List CounterRow
deriving DecidableEq, Repr

def defaultCollectionInterval : Int := 5

def defaultTriggerRateLimitCount : Int := 60

-- Seconds.
def defaultTriggerRateLimitDuration : Int := 60

-- Milliseconds.
def defaultTriggerReportInterval : Int := 100

def enabledCountersCount (cfg : SystemConfig) (rows : List CounterRow) : Nat :=
  if !cfg.enabled then 0 else rows.countP (fun row => row.enabled.getD false)

def counterInfo (row : CounterRow) : CounterInfo where
  counterValue := 0
  vendorInfo := row.vendorInfo
  enabled := row.enabled.getD false
  hwUnitId := row.hwUnitId
  name := row.name
  status := .ok
  triggerThreshold := row.triggerThreshold.getD 0

-- An entry as xcalloc leaves it.
def zeroCounter : CounterInfo := ⟨0, [], false, 0, "", .ok, 0⟩

def storeAt (list : List CounterInfo) (i : Nat) (counter : CounterInfo) : Option (List CounterInfo) :=
  if i < list.length then some (list.set i counter) else none

def fillCounter (fill : List CounterInfo × Nat) (row : CounterRow) : Option (List CounterInfo × Nat) :=
  if row.enabled.isSome then (storeAt fill.1 fill.2 (counterInfo row)).map (fun list => (list, fill.2 + 1)) else some fill

-- No result is a write past the allocated entries.
def createCountersList (state : State) (rows : List CounterRow) : Option State :=
  let count := enabledCountersCount state.cfg rows
  if count = 0 then some { state with counterList := none, numActiveCounters := 0 }
  else (rows.foldlM fillCounter (List.replicate count zeroCounter, 0)).map (fun fill =>
    { state with counterList := some fill.1, numActiveCounters := count })

def readAt (state : State) (i : Nat) : Option CounterInfo :=
  if i < state.numActiveCounters then state.counterList.bind (fun list => list[i]?) else none

def updateRow (state : State) (update : List CounterWrite × Nat) (row : CounterRow) : Option (List CounterWrite × Nat) :=
  if row.enabled.isSome then
    (readAt state update.2).map (fun counter =>
      (update.1 ++ [⟨row.uuid, row.name, counter.counterValue, counter.status⟩], update.2 + 1))
  else some update

-- The commit result is ignored and the transaction destroyed.
def ovsdbUpdate (state : State) (rows : List CounterRow) : Option (List CounterWrite) :=
  (rows.foldlM (updateRow state) ([], 0)).map Prod.fst

def collectedStatus (triggered : Bool) (counter : CounterInfo) : Status :=
  if triggered && counter.triggerThreshold ≠ 0 && counter.counterValue ≥ counter.triggerThreshold then .triggered else .ok

def collectCounter (triggered : Bool) (stats : CounterInfo → Int) (counter : CounterInfo) : CounterInfo :=
  let counter := { counter with counterValue := stats counter }
  { counter with status := collectedStatus triggered counter }

def getCurrentCountersValue (triggered : Bool) (stats : CounterInfo → Int) (state : State) : State :=
  match state.counterList with
  | none => state
  | some list =>
      if state.numActiveCounters = 0 then state
      else { state with counterList := some (list.map (collectCounter triggered stats)), latch := true }

def collects (state : State) (triggered : Bool) (now : Int) : Bool :=
  state.cfg.enabled && (state.cfg.periodicCollectionEnabled || state.cfg.thresholdTriggerCollectionEnabled) &&
    ((state.cfg.periodicCollectionEnabled && !decide (now < state.nextPollInterval)) || triggered) &&
    (!triggered || state.cfg.thresholdTriggerCollectionEnabled)

def runStatsUpdate (state : State) (triggered : Bool) (now : Int) (stats : CounterInfo → Int) : State :=
  if collects state triggered now then
    { getCurrentCountersValue triggered stats state with
      nextPollInterval := now + CText.toInt (state.cfg.collectionPeriod * 1000) }
  else state

def systemConfigUpdate (row : SystemRow) : SystemConfig where
  enabled := smapGetBool row.bufmonConfig .enabled false
  countersMode := if smapGet row.bufmonConfig .countersMode = some "peak" then .peak else .current
  periodicCollectionEnabled := smapGetBool row.bufmonConfig .periodicCollectionEnabled false
  collectionPeriod :=
    max (smapGetInt row.bufmonConfig .collectionPeriod defaultCollectionInterval) defaultCollectionInterval
  thresholdTriggerCollectionEnabled := smapGetBool row.bufmonConfig .thresholdTriggerCollectionEnabled false
  thresholdTriggerRateLimit := smapGetInt row.bufmonConfig .triggerRateLimit defaultTriggerRateLimitCount
  snapshotOnThresholdTrigger := smapGetBool row.bufmonConfig .snapshotOnThresholdTrigger false

def bufmonModified (rows : List CounterRow) : Bool := rows.any (fun row => row.inserted || row.modified)

def systemModified (row : SystemRow) : Bool := row.inserted || row.configModified

-- bufmon_counter_config_update only hands a row to the provider.
def bufmonReconfigure (state : State) (system : Option SystemRow) (rows : List CounterRow) : Option State :=
  match system with
  | none => some state
  | some row =>
      if row.bufmonConfig.isEmpty then some state
      else
        let state := if systemModified row then { state with cfg := systemConfigUpdate row } else state
        if bufmonModified rows then createCountersList state rows else some state

def runs (input : RunInput) : Bool := !input.lockContended && input.hasLock

def runReconfigure (state : State) (input : RunInput) : Option State :=
  if input.seqno ≠ state.idlSeqno then
    (bufmonReconfigure state input.system input.rows).map (fun state => { state with idlSeqno := input.seqno })
  else some state

def runUpdate (state : State) (rows : List CounterRow) : State :=
  if state.cfg.enabled && state.latch then { state with latch := false, written := ovsdbUpdate state rows } else state

def bufmonRun (state : State) (input : RunInput) : Option State :=
  if runs input then (runReconfigure state input).map (fun state => runUpdate state input.rows) else some state

-- The statistics thread runs bufmon_run_stats_update, the main thread bufmon_run;
-- both hold the mutex, so they interleave as whole steps.
inductive Op where
  | bufmonRun (input : RunInput)
  | runStatsUpdate (triggered : Bool) (now : Int) (stats : CounterInfo → Int)

def step (state : Option State) (op : Op) : Option State :=
  state.bind (fun state =>
    let state := { state with written := some [] }
    match op with
    | .bufmonRun input => bufmonRun state input
    | .runStatsUpdate triggered now stats => some (runStatsUpdate state triggered now stats))

def idleConfig : SystemConfig := ⟨false, .current, false, 0, false, 0, false⟩

def start (idlSeqno : Nat) : State := ⟨idlSeqno, idleConfig, none, 0, false, 0, some []⟩

end OpsSwitchd.Bufmon
