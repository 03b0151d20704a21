import OpsSwitchd.BufmonList

set_option autoImplicit false

namespace OpsSwitchd.Bufmon

theorem bufmon_run_eq (state : State) (input : RunInput) (held : runs input = true) :
    bufmonRun state input =
      if rebuilds state input = true → FillSafe (nextConfig state input) input.rows then
        some (runUpdate (reconfigured state input) input.rows)
      else none := by
  rw [bufmonRun, if_pos held, run_reconfigure_eq]
  split <;> rfl

theorem bufmon_run_idle (state : State) (input : RunInput) (held : runs input = false) :
    bufmonRun state input = some state := by
  simp [bufmonRun, held]

theorem reconfigured_cfg (state : State) (input : RunInput) : (reconfigured state input).cfg = nextConfig state input := by
  unfold reconfigured
  split <;> rfl

theorem reconfigured_latch (state : State) (input : RunInput) : (reconfigured state input).latch = state.latch := by
  unfold reconfigured
  split <;> rfl

theorem reconfigured_written (state : State) (input : RunInput) : (reconfigured state input).written = state.written := by
  unfold reconfigured
  split <;> rfl

theorem reconfigured_count (state : State) (input : RunInput) :
    (reconfigured state input).numActiveCounters =
      if rebuilds state input then enabledCountersCount (nextConfig state input) input.rows else state.numActiveCounters := by
  unfold reconfigured
  split <;> rfl

theorem run_update_counted (state : State) (rows : List CounterRow) (counted : ListCounted state) :
    ListCounted (runUpdate state rows) := by
  unfold runUpdate
  split <;> exact counted

structure StatsUpdated (triggered : Bool) (stats : CounterInfo → Int) (state after : State) : Prop where
  cfg : after.cfg = state.cfg
  written : after.written = state.written
  count : after.numActiveCounters = state.numActiveCounters
  entries : entries after = entries state ∨ entries after = (entries state).map (collectCounter triggered stats)

theorem run_stats_updated (state : State) (triggered : Bool) (now : Int) (stats : CounterInfo → Int) :
    StatsUpdated triggered stats state (runStatsUpdate state triggered now stats) := by
  unfold runStatsUpdate
  split
  · unfold getCurrentCountersValue
    cases list : state.counterList with
    | none => exact ⟨rfl, rfl, rfl, .inl (by simp [entries, list])⟩
    | some counters =>
        dsimp only
        split
        · exact ⟨rfl, rfl, rfl, .inl (by simp [entries, list])⟩
        · exact ⟨rfl, rfl, rfl, .inr (by simp [entries, list])⟩
  · exact ⟨rfl, rfl, rfl, .inl rfl⟩

theorem run_stats_update_counted (state : State) (triggered : Bool) (now : Int) (stats : CounterInfo → Int)
    (counted : ListCounted state) : ListCounted (runStatsUpdate state triggered now stats) := by
  have updated := run_stats_updated state triggered now stats
  rw [ListCounted, updated.count]
  rcases updated.entries with same | collected
  · rw [same]
    exact counted
  · rw [collected, List.length_map]
    exact counted

def Bounded (state : Option State) : Prop := state.any (fun state => state.written.isSome) = true

instance (state : Option State) : Decidable (Bounded state) :=
  inferInstanceAs (Decidable (state.any (fun state => state.written.isSome) = true))

def readable (state : State) (input : RunInput) : Nat :=
  if rebuilds state input then enabledCountersCount (nextConfig state input) input.rows else state.numActiveCounters

def writesBack (state : State) (input : RunInput) : Bool := (nextConfig state input).enabled && state.latch

structure RunSafe (state : State) (input : RunInput) : Prop where
  fill : rebuilds state input = true → FillSafe (nextConfig state input) input.rows
  update : writesBack state input = true → (visited input.rows).length ≤ readable state input

def OpSafe (state : State) : Op → Prop
  | .bufmonRun input => runs input = true → RunSafe state input
  | .runStatsUpdate _ _ _ => True

def StepSafe (state : Option State) (op : Op) : Prop := ∀ before ∈ state, OpSafe before op

def Healthy (state : Option State) : Prop := ∃ now, state = some now ∧ ListCounted now ∧ now.written.isSome

theorem healthy_bounded (state : Option State) (healthy : Healthy state) : Bounded state := by
  obtain ⟨now, rfl, _, written⟩ := healthy
  exact written

def cleared (state : State) : State := { state with written := some [] }

theorem run_writes_iff (state : State) (input : RunInput) (counted : ListCounted state) (held : runs input = true) :
    Bounded (bufmonRun (cleared state) input) ↔ RunSafe state input := by
  have shape : bufmonRun (cleared state) input =
      if rebuilds state input = true → FillSafe (nextConfig state input) input.rows then
        some (runUpdate (reconfigured (cleared state) input) input.rows)
      else none := bufmon_run_eq (cleared state) input held
  by_cases fill : rebuilds state input = true → FillSafe (nextConfig state input) input.rows
  · rw [shape, if_pos fill]
    have settled := reconfigured_counted (cleared state) input counted fill
    have count : (reconfigured (cleared state) input).numActiveCounters = readable state input :=
      reconfigured_count (cleared state) input
    have goes : ((reconfigured (cleared state) input).cfg.enabled && (reconfigured (cleared state) input).latch) =
        writesBack state input := by
      rw [reconfigured_cfg, reconfigured_latch]
      rfl
    unfold runUpdate Bounded
    rw [goes, Option.any_some]
    cases back : writesBack state input with
    | false =>
        simp only [Bool.false_eq_true, if_false, reconfigured_written]
        exact ⟨fun _ => ⟨fill, fun on => by simp [back] at on⟩, fun _ => rfl⟩
    | true =>
        rw [if_pos rfl, ovsdb_update_eq _ settled, count]
        constructor
        · intro written
          refine ⟨fill, fun _ => ?_⟩
          by_contra past
          simp [past] at written
        · intro safe
          simp [safe.update back]
  · rw [shape, if_neg fill]
    exact ⟨fun written => (by cases written), fun safe => absurd safe.fill fill⟩

theorem healthy_step (state : Option State) (op : Op) (healthy : Healthy state) (_ : True) (safe : StepSafe state op) :
    Healthy (step state op) := by
  obtain ⟨now, rfl, counted, _⟩ := healthy
  have here := safe now rfl
  cases op with
  | runStatsUpdate triggered time stats =>
      refine ⟨_, rfl, run_stats_update_counted (cleared now) triggered time stats counted, ?_⟩
      rw [(run_stats_updated _ triggered time stats).written]
      rfl
  | bufmonRun input =>
      cases held : runs input with
      | false => exact ⟨cleared now, bufmon_run_idle (cleared now) input held, counted, rfl⟩
      | true =>
          have bounded := (run_writes_iff now input counted held).mpr (here held)
          have fill := (here held).fill
          have ended : bufmonRun (cleared now) input = some (runUpdate (reconfigured (cleared now) input) input.rows) :=
            (bufmon_run_eq (cleared now) input held).trans (if_pos fill)
          refine ⟨_, ended, run_update_counted _ _ (reconfigured_counted (cleared now) input counted fill), ?_⟩
          rw [ended] at bounded
          exact bounded

theorem bounded_needs (state : Option State) (op : Op) (healthy : Healthy state) (_ : True)
    (bounded : Bounded (step state op)) : StepSafe state op := by
  obtain ⟨now, rfl, counted, _⟩ := healthy
  intro before same
  obtain rfl := Option.some.inj same
  cases op with
  | runStatsUpdate triggered time stats => trivial
  | bufmonRun input => exact fun held => (run_writes_iff now input counted held).mp bounded

def counterRow (uuid : Uuid) (name : String) (enabled : Option Bool) (inserted : Bool) : CounterRow :=
  ⟨uuid, name, 0, enabled, some 10, [], inserted, false⟩

def systemRow (config : ConfigMap) (configModified : Bool) : SystemRow := ⟨config, false, configModified⟩

def monitoring : ConfigMap := [(.enabled, "true"), (.periodicCollectionEnabled, "true")]

def bufmonRunOf (seqno : Nat) (system : SystemRow) (rows : List CounterRow) : Op :=
  .bufmonRun ⟨false, true, seqno, some system, rows⟩

end OpsSwitchd.Bufmon
