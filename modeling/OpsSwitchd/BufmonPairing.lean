import OpsSwitchd.BufmonRun

set_option autoImplicit false

namespace OpsSwitchd.Bufmon

abbrev Collected := String × Int × Status

def collectedOf (counter : CounterInfo) : Collected := (counter.name, counter.counterValue, counter.status)

-- collected is the value and status last collected for each counter name.
structure Observed where
  state : Option State
  collected : List Collected

def observe (collected : List Collected) (state : State) : List Collected :=
  (entries state).map collectedOf ++ collected.filter (fun old => old.1 ∉ (entries state).map CounterInfo.name)

def observedStep (observed : Observed) (op : Op) : Observed :=
  match op with
  | .bufmonRun _ => { observed with state := step observed.state op }
  | .runStatsUpdate triggered now stats =>
      ⟨step observed.state op, observed.state.elim observed.collected (fun state =>
        if collects state triggered now then observe observed.collected (runStatsUpdate state triggered now stats)
        else observed.collected)⟩

def WritesCollected (observed : Observed) : Prop :=
  ∃ now writes, observed.state = some now ∧ now.written = some writes ∧
    ∀ write ∈ writes, (write.name, write.counterValue, write.status) ∈ observed.collected

def RowsInDomain (_ : Observed) : Op → Prop
  | .bufmonRun input => ∀ row ∈ input.rows, row.enabled ≠ some false
  | .runStatsUpdate _ _ _ => True

def names (rows : List CounterRow) : List String := (visited rows).map CounterRow.name

def PairingKept (observed : Observed) : Op → Prop
  | .bufmonRun input => runs input = true → ∀ now ∈ observed.state,
      (rebuilds now input = true → now.latch = false) ∧
      (writesBack now input = true → names input.rows <+: (entries now).map CounterInfo.name)
  | .runStatsUpdate _ _ _ => True

structure Paired (observed : Observed) (now : State) : Prop where
  state : observed.state = some now
  counted : ListCounted now
  fresh : now.latch = true → ∀ counter ∈ entries now, collectedOf counter ∈ observed.collected
  written : ∃ writes, now.written = some writes ∧
    ∀ write ∈ writes, (write.name, write.counterValue, write.status) ∈ observed.collected

theorem paired_writes (observed : Observed) (paired : ∃ now, Paired observed now) : WritesCollected observed := by
  obtain ⟨now, inv⟩ := paired
  obtain ⟨writes, written, collected⟩ := inv.written
  exact ⟨now, writes, inv.state, written, collected⟩

theorem mem_paired_writes (rows : List CounterRow) (counters : List CounterInfo)
    (pairs : rows.map CounterRow.name <+: counters.map CounterInfo.name) (write : CounterWrite)
    (member : write ∈ List.zipWith counterWrite rows counters) :
    ∃ counter ∈ counters, (write.name, write.counterValue, write.status) = collectedOf counter := by
  induction rows generalizing counters with
  | nil => simp at member
  | cons row rest ih =>
      cases counters with
      | nil => simp at member
      | cons counter later =>
          rw [List.map_cons, List.map_cons, List.cons_prefix_cons] at pairs
          rw [List.zipWith_cons_cons, List.mem_cons] at member
          rcases member with rfl | there
          · refine ⟨counter, List.mem_cons_self, ?_⟩
            rw [counterWrite, collectedOf, pairs.1]
          · obtain ⟨found, present, same⟩ := ih later pairs.2 there
            exact ⟨found, List.mem_cons_of_mem counter present, same⟩

theorem write_back_collected (state : State) (counted : ListCounted state) (rows : List CounterRow)
    (collected : List Collected) (pairs : names rows <+: (entries state).map CounterInfo.name)
    (fresh : ∀ counter ∈ entries state, collectedOf counter ∈ collected) :
    ∃ writes, ovsdbUpdate state rows = some writes ∧
      ∀ write ∈ writes, (write.name, write.counterValue, write.status) ∈ collected := by
  have fits : (visited rows).length ≤ state.numActiveCounters := by
    have bound := pairs.length_le
    rw [names, List.length_map, List.length_map] at bound
    rw [← show (entries state).length = state.numActiveCounters from counted]
    exact bound
  rw [ovsdb_update_eq state counted, if_pos fits]
  refine ⟨_, rfl, fun write member => ?_⟩
  obtain ⟨counter, present, same⟩ := mem_paired_writes _ _ pairs write member
  rw [same]
  exact fresh counter present

theorem held_run_paired (observed : Observed) (now : State) (inv : Paired observed now) (input : RunInput)
    (held : runs input = true) (domain : ∀ row ∈ input.rows, row.enabled ≠ some false)
    (kept : PairingKept observed (.bufmonRun input)) :
    Paired (observedStep observed (.bufmonRun input)) (runUpdate (reconfigured (cleared now) input) input.rows) := by
  obtain ⟨unlatched, pairs⟩ := kept held now inv.state
  have fill : rebuilds now input = true → FillSafe (nextConfig now input) input.rows := fun _ => .inr domain
  have settled := reconfigured_counted (cleared now) input inv.counted fill
  -- While the latch is set the list is the one the collection filled.
  have same : now.latch = true → entries (reconfigured (cleared now) input) = entries now := by
    intro latched
    have unbuilt : rebuilds (cleared now) input = false := by
      cases rebuilt : rebuilds now input with
      | false => exact rebuilt
      | true => simp [unlatched rebuilt] at latched
    unfold reconfigured
    rw [unbuilt]
    rfl
  have goes : ((reconfigured (cleared now) input).cfg.enabled && (reconfigured (cleared now) input).latch) =
      writesBack now input := by
    rw [reconfigured_cfg, reconfigured_latch]
    rfl
  refine ⟨?_, run_update_counted _ _ settled, ?_, ?_⟩
  · rw [observedStep, step, inv.state]
    exact (bufmon_run_eq (cleared now) input held).trans (if_pos fill)
  · unfold runUpdate
    rw [goes]
    cases back : writesBack now input with
    | true => exact fun latched => by cases latched
    | false =>
        intro latched counter member
        rw [if_neg (by simp), reconfigured_latch] at latched
        rw [if_neg (by simp), same latched] at member
        exact inv.fresh latched counter member
  · unfold runUpdate
    rw [goes]
    cases back : writesBack now input with
    | false =>
        refine ⟨[], ?_, fun write member => by cases member⟩
        rw [if_neg (by simp), reconfigured_written]
        rfl
    | true =>
        have latched : now.latch = true := (Bool.and_eq_true _ _ ▸ back).2
        rw [if_pos rfl]
        refine write_back_collected _ settled input.rows observed.collected ?_ ?_
        · rw [same latched]
          exact pairs back
        · rw [same latched]
          exact inv.fresh latched

theorem collect_paired (observed : Observed) (now : State) (inv : Paired observed now) (triggered : Bool) (time : Int)
    (stats : CounterInfo → Int) :
    Paired (observedStep observed (.runStatsUpdate triggered time stats)) (runStatsUpdate (cleared now) triggered time stats) := by
  refine ⟨?_, run_stats_update_counted (cleared now) triggered time stats inv.counted, ?_, [], ?_, ?_⟩
  · rw [observedStep, step, inv.state]
    rfl
  · intro latched counter member
    simp only [observedStep, inv.state, Option.elim_some]
    cases collecting : collects now triggered time with
    | true =>
        have same : entries (runStatsUpdate (cleared now) triggered time stats) =
            entries (runStatsUpdate now triggered time stats) := by
          unfold runStatsUpdate
          rw [show collects (cleared now) triggered time = true from collecting, collecting]
          unfold getCurrentCountersValue
          cases list : now.counterList with
          | none => simp [cleared, list, entries]
          | some counters =>
              by_cases none : now.numActiveCounters = 0 <;> simp [cleared, list, none, entries]
        rw [if_pos rfl]
        refine List.mem_append_left _ (List.mem_map_of_mem ?_)
        rw [← same]
        exact member
    | false =>
        have same : runStatsUpdate (cleared now) triggered time stats = cleared now := by
          rw [runStatsUpdate, show collects (cleared now) triggered time = false from collecting]
          rfl
        rw [same] at latched member
        rw [if_neg (by simp)]
        exact inv.fresh latched counter member
  · exact (run_stats_updated (cleared now) triggered time stats).written
  · intro write member
    cases member

theorem paired_step (observed : Observed) (op : Op) (paired : ∃ now, Paired observed now)
    (met : RowsInDomain observed op ∧ PairingKept observed op) : ∃ now, Paired (observedStep observed op) now := by
  obtain ⟨now, inv⟩ := paired
  cases op with
  | runStatsUpdate triggered time stats => exact ⟨_, collect_paired observed now inv triggered time stats⟩
  | bufmonRun input =>
      cases held : runs input with
      | true => exact ⟨_, held_run_paired observed now inv input held met.1 met.2⟩
      | false =>
          refine ⟨cleared now, ?_, inv.counted, inv.fresh, [], rfl, fun write member => by cases member⟩
          rw [observedStep, step, inv.state]
          exact bufmon_run_idle (cleared now) input held

def observedStart (idlSeqno : Nat) : Observed := ⟨some (start idlSeqno), []⟩

theorem observed_start_paired (idlSeqno : Nat) : Paired (observedStart idlSeqno) (start idlSeqno) :=
  ⟨rfl, rfl, fun latched => (by cases latched), [], rfl, fun write member => (by cases member)⟩

def statsByName (counter : CounterInfo) : Int := if counter.name = "a" then 5 else 7

def twoCounters (inserted : Bool) : List CounterRow :=
  [counterRow 1 "a" (some true) inserted, counterRow 2 "b" (some true) inserted]

end OpsSwitchd.Bufmon
