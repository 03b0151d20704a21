import OpsSwitchd.BufmonRun

set_option autoImplicit false

namespace OpsSwitchd.Bufmon

structure Seen where
  state : Option State
  system : Option SystemRow
  rows : List CounterRow

def seenStep (seen : Seen) (op : Op) : Seen :=
  match op with
  | .bufmonRun input =>
      if runs input then ⟨step seen.state op, input.system, input.rows⟩ else { seen with state := step seen.state op }
  | .runStatsUpdate _ _ _ => { seen with state := step seen.state op }

def configEnabled (system : Option SystemRow) : Bool := system.any (fun row => smapGetBool row.bufmonConfig .enabled false)

def activeRows (rows : List CounterRow) : List CounterRow := rows.filter (fun row => row.enabled.getD false)

def listedRow (row : CounterRow) : String × Int := (row.name, row.triggerThreshold.getD 0)

def listedCounter (counter : CounterInfo) : String × Int := (counter.name, counter.triggerThreshold)

@[mk_iff] structure ListShows (state : State) (rows : List CounterRow) : Prop where
  listed : ((entries state).map listedCounter).Perm ((activeRows rows).map listedRow)
  counted : state.numActiveCounters = (activeRows rows).length

instance (state : State) (rows : List CounterRow) : Decidable (ListShows state rows) :=
  decidable_of_iff _ (listShows_iff state rows).symm

def ListFollows (seen : Seen) : Prop :=
  ∃ now, seen.state = some now ∧ (configEnabled seen.system = true → ListShows now seen.rows)

@[mk_iff] structure RunSeen (seen : Seen) (input : RunInput) : Prop where
  domain : ∀ row ∈ input.rows, row.enabled ≠ some false
  same : ∀ now ∈ seen.state, input.seqno = now.idlSeqno →
    input.rows = seen.rows ∧ input.system.map SystemRow.bufmonConfig = seen.system.map SystemRow.bufmonConfig
  unflagged : ∀ row ∈ input.system, systemModified row = false →
    seen.system.map SystemRow.bufmonConfig = some row.bufmonConfig

instance (seen : Seen) (input : RunInput) : Decidable (RunSeen seen input) :=
  decidable_of_iff _ (runSeen_iff seen input).symm

def SeenValid (seen : Seen) : Op → Prop
  | .bufmonRun input => runs input = true → RunSeen seen input
  | .runStatsUpdate _ _ _ => True

def ListInPlace (seen : Seen) : Op → Prop
  | .bufmonRun input => runs input = true → ∀ now ∈ seen.state, input.seqno ≠ now.idlSeqno →
      configEnabled input.system = true → bufmonModified input.rows = false → ListShows now input.rows
  | .runStatsUpdate _ _ _ => True

structure Followed (seen : Seen) (now : State) : Prop where
  state : seen.state = some now
  config : ∀ row ∈ seen.system, row.bufmonConfig.isEmpty = false → now.cfg.enabled = smapGetBool row.bufmonConfig .enabled false
  shows : configEnabled seen.system = true → ListShows now seen.rows

theorem followed_follows (seen : Seen) (followed : ∃ now, Followed seen now) : ListFollows seen := by
  obtain ⟨now, inv⟩ := followed
  exact ⟨now, inv.state, inv.shows⟩

theorem config_enabled_row (system : Option SystemRow) (enabled : configEnabled system = true) :
    ∃ row, system = some row ∧ smapGetBool row.bufmonConfig .enabled false = true ∧ row.bufmonConfig.isEmpty = false := by
  cases system with
  | none => cases enabled
  | some row =>
      refine ⟨row, rfl, enabled, ?_⟩
      cases map : row.bufmonConfig with
      | nil => simp [configEnabled, smapGetBool, smapGet, map, Keyed.lookup] at enabled
      | cons entry rest => rfl

theorem run_update_shows (state : State) (rows seenRows : List CounterRow) :
    ListShows (runUpdate state rows) seenRows ↔ ListShows state seenRows := by
  unfold runUpdate
  split
  · exact ⟨fun shows => ⟨shows.listed, shows.counted⟩, fun shows => ⟨shows.listed, shows.counted⟩⟩
  · exact Iff.rfl

theorem run_update_cfg (state : State) (rows : List CounterRow) : (runUpdate state rows).cfg = state.cfg := by
  unfold runUpdate
  split <;> rfl

theorem filled_list_shows (state : State) (rows : List CounterRow) (enabled : state.cfg.enabled = true)
    (domain : ∀ row ∈ rows, row.enabled ≠ some false) : ListShows (filledList state rows) rows := by
  have count : enabledCountersCount state.cfg rows = (activeRows rows).length := by
    rw [enabledCountersCount, enabled, activeRows, List.countP_eq_length_filter]
    rfl
  refine ⟨?_, count⟩
  have filled : entries (filledList state rows) = (activeRows rows).map counterInfo := by
    unfold entries filledList
    rw [count, visited_eq_enabled rows domain, ← activeRows]
    cases active : activeRows rows with
    | nil => rfl
    | cons row rest => rfl
  rw [filled, List.map_map]
  exact List.Perm.refl _

theorem reconfigured_unbuilt_shows (state : State) (input : RunInput) (rows : List CounterRow)
    (unbuilt : rebuilds state input = false) : ListShows (reconfigured state input) rows ↔ ListShows state rows := by
  unfold reconfigured
  rw [unbuilt]
  exact ⟨fun shows => ⟨shows.listed, shows.counted⟩, fun shows => ⟨shows.listed, shows.counted⟩⟩

theorem run_stats_update_shows (state : State) (triggered : Bool) (now : Int) (stats : CounterInfo → Int)
    (rows : List CounterRow) (shows : ListShows state rows) : ListShows (runStatsUpdate state triggered now stats) rows := by
  have updated := run_stats_updated state triggered now stats
  refine ⟨?_, updated.count.trans shows.counted⟩
  rcases updated.entries with same | collected
  · rw [same]
    exact shows.listed
  · -- collecting an entry leaves the name and the threshold it is listed by
    rw [collected, List.map_map]
    exact shows.listed

theorem next_config_enabled (seen : Seen) (now : State) (followed : Followed seen now) (input : RunInput)
    (valid : RunSeen seen input) (row : SystemRow) (system : input.system = some row)
    (filled : row.bufmonConfig.isEmpty = false) : (nextConfig now input).enabled = smapGetBool row.bufmonConfig .enabled false := by
  have carried : seen.system.map SystemRow.bufmonConfig = some row.bufmonConfig →
      now.cfg.enabled = smapGetBool row.bufmonConfig .enabled false := by
    intro before
    obtain ⟨prior, found, equal⟩ := Option.map_eq_some_iff.mp before
    rw [← equal] at filled ⊢
    exact followed.config prior found filled
  unfold nextConfig
  by_cases changed : input.seqno = now.idlSeqno
  · have still : configures now input = false := by simp [configures, changed]
    rw [still]
    refine carried ?_
    rw [← (valid.same now followed.state changed).2, system]
    rfl
  · have goes : configures now input = true := by simp [configures, system, filled, changed]
    rw [goes, if_pos rfl, system, Option.elim_some]
    cases flagged : systemModified row with
    | true => rfl
    | false => exact carried (valid.unflagged row system flagged)

theorem held_run_ended (seen : Seen) (now : State) (state : seen.state = some now) (input : RunInput)
    (held : runs input = true) (valid : RunSeen seen input) :
    seenStep seen (.bufmonRun input) =
      ⟨some (runUpdate (reconfigured (cleared now) input) input.rows), input.system, input.rows⟩ := by
  have ended : bufmonRun (cleared now) input = some (runUpdate (reconfigured (cleared now) input) input.rows) :=
    (bufmon_run_eq (cleared now) input held).trans (if_pos (fun _ => .inr valid.domain))
  rw [seenStep, if_pos held, state]
  exact congrArg (fun after => (⟨after, input.system, input.rows⟩ : Seen)) ended

theorem held_run_shows (seen : Seen) (now : State) (followed : Followed seen now) (input : RunInput)
    (held : runs input = true) (valid : RunSeen seen input) (place : ListInPlace seen (.bufmonRun input))
    (enabled : configEnabled input.system = true) : ListShows (reconfigured (cleared now) input) input.rows := by
  obtain ⟨row, system, on, filled⟩ := config_enabled_row input.system enabled
  have memory := next_config_enabled seen now followed input valid row system filled
  cases rebuilt : rebuilds now input with
  | true =>
      have shape : reconfigured (cleared now) input =
          { filledList { cleared now with cfg := nextConfig now input } input.rows with idlSeqno := input.seqno } := by
        unfold reconfigured
        rw [show rebuilds (cleared now) input = true from rebuilt]
        rfl
      have shows := filled_list_shows { cleared now with cfg := nextConfig now input } input.rows (memory.trans on) valid.domain
      rw [shape]
      exact ⟨shows.listed, shows.counted⟩
  | false =>
      refine (reconfigured_unbuilt_shows (cleared now) input input.rows rebuilt).mpr ?_
      by_cases changed : input.seqno = now.idlSeqno
      · obtain ⟨rows, config⟩ := valid.same now followed.state changed
        have before : configEnabled seen.system = true := by
          rw [system, Option.map_some] at config
          obtain ⟨prior, found, equal⟩ := Option.map_eq_some_iff.mp config.symm
          rw [found, configEnabled, Option.any_some, equal]
          exact on
        have shows := followed.shows before
        rw [rows]
        exact ⟨shows.listed, shows.counted⟩
      · have goes : configures now input = true := by simp [configures, system, filled, changed]
        have unflagged : bufmonModified input.rows = false := by simpa [rebuilds, goes] using rebuilt
        have shows := place held now followed.state changed enabled unflagged
        exact ⟨shows.listed, shows.counted⟩

theorem followed_step (seen : Seen) (op : Op) (followed : ∃ now, Followed seen now) (valid : SeenValid seen op)
    (place : ListInPlace seen op) : ∃ now, Followed (seenStep seen op) now := by
  obtain ⟨now, inv⟩ := followed
  cases op with
  | runStatsUpdate triggered time stats =>
      refine ⟨runStatsUpdate (cleared now) triggered time stats, ?_, ?_, ?_⟩
      · simp only [seenStep, step, inv.state]
        rfl
      · intro row member filled
        rw [(run_stats_updated _ triggered time stats).cfg]
        exact inv.config row member filled
      · intro enabled
        have shows := inv.shows enabled
        exact run_stats_update_shows _ triggered time stats seen.rows ⟨shows.listed, shows.counted⟩
  | bufmonRun input =>
      cases held : runs input with
      | false =>
          refine ⟨cleared now, ?_, ?_, ?_⟩ <;> rw [seenStep, if_neg (by simp [held])]
          · rw [step, inv.state]
            exact bufmon_run_idle (cleared now) input held
          · exact inv.config
          · exact fun enabled => ⟨(inv.shows enabled).listed, (inv.shows enabled).counted⟩
      | true =>
          rw [held_run_ended seen now inv.state input held (valid held)]
          refine ⟨_, rfl, ?_, ?_⟩
          · intro row member filled
            rw [run_update_cfg, reconfigured_cfg]
            exact next_config_enabled seen now inv input (valid held) row member filled
          · intro enabled
            exact (run_update_shows _ _ _).mpr (held_run_shows seen now inv input held (valid held) place enabled)

theorem follows_needs (seen : Seen) (op : Op) (followed : ∃ now, Followed seen now) (valid : SeenValid seen op)
    (follows : ListFollows (seenStep seen op)) : ListInPlace seen op := by
  obtain ⟨now, inv⟩ := followed
  cases op with
  | runStatsUpdate triggered time stats => trivial
  | bufmonRun input =>
      intro held before same changed enabled unflagged
      obtain rfl := Option.some.inj (same.symm.trans inv.state)
      rw [held_run_ended seen before inv.state input held (valid held)] at follows
      obtain ⟨after, ended, shows⟩ := follows
      obtain rfl := Option.some.inj ended
      have unbuilt : rebuilds (cleared before) input = false := by simp [rebuilds, unflagged]
      have kept := (reconfigured_unbuilt_shows _ input _ unbuilt).mp ((run_update_shows _ _ _).mp (shows enabled))
      exact ⟨kept.listed, kept.counted⟩

def seenStart (idlSeqno : Nat) : Seen := ⟨some (start idlSeqno), none, []⟩

theorem counter_list_follows_iff_in_place (idlSeqno : Nat) (ops : List Op)
    (valid : Runs.Along seenStep SeenValid (seenStart idlSeqno) ops) :
    Runs.Always seenStep ListFollows (seenStart idlSeqno) ops ↔
      Runs.Along seenStep ListInPlace (seenStart idlSeqno) ops := by
  refine Runs.always_iff_along followed_follows followed_step follows_needs ⟨start idlSeqno, rfl, ?_, ?_⟩ valid
  · intro row member
    cases member
  · intro enabled
    cases enabled

theorem inserted_counter_is_listed :
    Runs.Always seenStep ListFollows (seenStart 0)
      [bufmonRunOf 1 (systemRow monitoring true) [counterRow 1 "a" (some true) true],
        .runStatsUpdate false 5000 (fun _ => 7),
        bufmonRunOf 2 (systemRow monitoring false) [counterRow 1 "a" (some true) false, counterRow 2 "b" (some true) true]] := by
  refine (counter_list_follows_iff_in_place 0 _ ?_).mpr ?_
  · simp only [Runs.along_cons, bufmonRunOf, SeenValid]
    exact ⟨by decide, trivial, by decide, Runs.along_nil _ _ _⟩
  · simp only [Runs.along_cons, bufmonRunOf, ListInPlace]
    exact ⟨by decide, trivial, by decide, Runs.along_nil _ _ _⟩

-- The counter arrives while monitoring is off; switching it on lists nothing.
theorem enabled_after_counters_lists_nothing :
    ¬ Runs.Always seenStep ListFollows (seenStart 0)
      [bufmonRunOf 1 (systemRow [(.enabled, "false")] true) [counterRow 1 "a" (some true) true],
        bufmonRunOf 2 (systemRow [(.enabled, "true")] true) [counterRow 1 "a" (some true) false]] := by
  intro all
  obtain ⟨now, state, shows⟩ := all _ [] (List.append_nil _).symm
  have counted := (shows rfl).counted
  have active : now.numActiveCounters = 0 := by
    obtain rfl := Option.some.inj state
    decide
  rw [active] at counted
  cases counted

end OpsSwitchd.Bufmon
