import OpsSwitchd.Bufmon
import OpsSwitchd.Runs

set_option autoImplicit false

namespace OpsSwitchd.Bufmon

def visited (rows : List CounterRow) : List CounterRow := rows.filter (fun row => row.enabled.isSome)

def entries (state : State) : List CounterInfo := state.counterList.getD []

def counterWrite (row : CounterRow) (counter : CounterInfo) : CounterWrite :=
  ⟨row.uuid, row.name, counter.counterValue, counter.status⟩

theorem fill_counters (rows : List CounterRow) (before after : List CounterInfo) :
    rows.foldlM fillCounter (before ++ after, before.length) =
      if (visited rows).length ≤ after.length then
        some (before ++ (visited rows).map counterInfo ++ after.drop (visited rows).length,
          before.length + (visited rows).length)
      else none := by
  induction rows generalizing before after with
  | nil => simp [visited]
  | cons row rest ih =>
      rw [List.foldlM_cons]
      cases present : row.enabled.isSome with
      | false =>
          have skipped : visited (row :: rest) = visited rest := List.filter_cons_of_neg (by simp [present])
          have same : fillCounter (before ++ after, before.length) row = some (before ++ after, before.length) := by
            simp [fillCounter, present]
          rw [same, skipped]
          exact ih before after
      | true =>
          have chosen : visited (row :: rest) = row :: visited rest := List.filter_cons_of_pos present
          rw [chosen]
          cases after with
          | nil => simp [fillCounter, present, storeAt]
          | cons entry later =>
              have stored : fillCounter (before ++ entry :: later, before.length) row =
                  some ((before ++ [counterInfo row]) ++ later, (before ++ [counterInfo row]).length) := by
                simp [fillCounter, present, storeAt]
              rw [stored]
              refine (ih (before ++ [counterInfo row]) later).trans ?_
              simp [Nat.add_assoc, Nat.add_comm 1]

theorem visited_le_enabled_iff (rows : List CounterRow) :
    (visited rows).length ≤ rows.countP (fun row => row.enabled.getD false) ↔
      ∀ row ∈ rows, row.enabled ≠ some false := by
  have fewer : ∀ rows : List CounterRow, rows.countP (fun row => row.enabled.getD false) ≤ (visited rows).length := by
    intro rows
    rw [visited, ← List.countP_eq_length_filter]
    refine List.countP_mono_left (fun row _ chosen => ?_)
    cases enabled : row.enabled with
    | none => simp [enabled] at chosen
    | some value => rfl
  induction rows with
  | nil => simp [visited]
  | cons row rest ih =>
      have later := fewer rest
      rw [List.forall_mem_cons]
      refine Iff.trans ?_ (and_congr Iff.rfl ih)
      cases enabled : row.enabled with
      | none => simp [visited, enabled]
      | some value =>
          cases value with
          | true => simp [visited, enabled]
          | false =>
              have chosen : visited (row :: rest) = row :: visited rest := List.filter_cons_of_pos (by simp [enabled])
              have counted : (row :: rest).countP (fun row => row.enabled.getD false) =
                  rest.countP (fun row => row.enabled.getD false) := List.countP_cons_of_neg (by simp [enabled])
              rw [chosen, counted, List.length_cons]
              simp
              omega

theorem visited_eq_enabled (rows : List CounterRow) (all : ∀ row ∈ rows, row.enabled ≠ some false) :
    visited rows = rows.filter (fun row => row.enabled.getD false) := by
  refine List.filter_congr (fun row member => ?_)
  have here := all row member
  cases enabled : row.enabled with
  | none => rfl
  | some value =>
      cases value with
      | true => rfl
      | false => exact absurd enabled here

theorem enabled_of_count (cfg : SystemConfig) (rows : List CounterRow) (positive : enabledCountersCount cfg rows ≠ 0) :
    cfg.enabled = true := by
  cases on : cfg.enabled with
  | true => rfl
  | false => simp [enabledCountersCount, on] at positive

def FillSafe (cfg : SystemConfig) (rows : List CounterRow) : Prop :=
  enabledCountersCount cfg rows = 0 ∨ ∀ row ∈ rows, row.enabled ≠ some false

instance (cfg : SystemConfig) (rows : List CounterRow) : Decidable (FillSafe cfg rows) :=
  inferInstanceAs (Decidable (_ ∨ _))

def filledList (state : State) (rows : List CounterRow) : State :=
  let count := enabledCountersCount state.cfg rows
  { state with
    counterList := if count = 0 then none else some ((visited rows).map counterInfo)
    numActiveCounters := count }

theorem create_counters_list_eq (state : State) (rows : List CounterRow) :
    createCountersList state rows = if FillSafe state.cfg rows then some (filledList state rows) else none := by
  unfold createCountersList
  by_cases empty : enabledCountersCount state.cfg rows = 0
  · have safe : FillSafe state.cfg rows := .inl empty
    simp [empty, safe, filledList]
  · have enabled := enabled_of_count state.cfg rows empty
    have count : enabledCountersCount state.cfg rows = rows.countP (fun row => row.enabled.getD false) := by
      simp [enabledCountersCount, enabled]
    have filled := fill_counters rows [] (List.replicate (enabledCountersCount state.cfg rows) zeroCounter)
    simp only [List.nil_append, List.length_nil, List.length_replicate, Nat.zero_add] at filled
    rw [if_neg empty, filled]
    by_cases all : ∀ row ∈ rows, row.enabled ≠ some false
    · have fits := (visited_le_enabled_iff rows).mpr all
      have full : (visited rows).length = enabledCountersCount state.cfg rows := by
        rw [count, visited_eq_enabled rows all, List.countP_eq_length_filter]
      rw [if_pos (Nat.le_of_eq full), if_pos (show FillSafe state.cfg rows from .inr all), Option.map_some]
      simp [filledList, empty, full]
    · have overflows : ¬ (visited rows).length ≤ enabledCountersCount state.cfg rows := by
        rw [count]
        exact fun fits => all ((visited_le_enabled_iff rows).mp fits)
      have overflow : ¬ FillSafe state.cfg rows := fun safe => safe.elim empty all
      rw [if_neg overflows, if_neg overflow]
      rfl

def ListCounted (state : State) : Prop := (entries state).length = state.numActiveCounters

theorem read_at_eq (state : State) (counted : ListCounted state) (i : Nat) : readAt state i = (entries state)[i]? := by
  unfold readAt
  unfold ListCounted entries at counted
  unfold entries
  rw [← counted]
  cases state.counterList with
  | none => simp
  | some list =>
      split
      · rfl
      · rename_i past
        exact (List.getElem?_eq_none (Nat.le_of_not_lt past)).symm

theorem update_rows (state : State) (counted : ListCounted state) (rows : List CounterRow) (before after : List CounterInfo)
    (split : entries state = before ++ after) (written : List CounterWrite) :
    rows.foldlM (updateRow state) (written, before.length) =
      if (visited rows).length ≤ after.length then
        some (written ++ List.zipWith counterWrite (visited rows) after, before.length + (visited rows).length)
      else none := by
  induction rows generalizing before after written with
  | nil => simp [visited]
  | cons row rest ih =>
      rw [List.foldlM_cons]
      cases present : row.enabled.isSome with
      | false =>
          have skipped : visited (row :: rest) = visited rest := List.filter_cons_of_neg (by simp [present])
          have same : updateRow state (written, before.length) row = some (written, before.length) := by
            simp [updateRow, present]
          rw [same, skipped]
          exact ih before after split written
      | true =>
          have chosen : visited (row :: rest) = row :: visited rest := List.filter_cons_of_pos present
          have read : readAt state before.length = after[0]? := by
            rw [read_at_eq state counted, split, List.getElem?_append_right (Nat.le_refl _), Nat.sub_self]
          rw [chosen]
          cases after with
          | nil => simp [updateRow, present, read]
          | cons entry later =>
              have stored : updateRow state (written, before.length) row =
                  some (written ++ [counterWrite row entry], (before ++ [entry]).length) := by
                simp [updateRow, present, read, counterWrite]
              rw [stored]
              refine (ih (before ++ [entry]) later (by simp [split]) (written ++ [counterWrite row entry])).trans ?_
              simp [Nat.add_assoc, Nat.add_comm 1]

theorem ovsdb_update_eq (state : State) (counted : ListCounted state) (rows : List CounterRow) :
    ovsdbUpdate state rows =
      if (visited rows).length ≤ state.numActiveCounters then
        some (List.zipWith counterWrite (visited rows) (entries state))
      else none := by
  have updated := update_rows state counted rows [] (entries state) rfl []
  rw [List.length_nil] at updated
  rw [ovsdbUpdate, updated, show (entries state).length = state.numActiveCounters from counted]
  split <;> rfl

def configures (state : State) (input : RunInput) : Bool :=
  decide (input.seqno ≠ state.idlSeqno) && input.system.any (fun row => !row.bufmonConfig.isEmpty)

def nextConfig (state : State) (input : RunInput) : SystemConfig :=
  if configures state input then
    input.system.elim state.cfg (fun row => if systemModified row then systemConfigUpdate row else state.cfg)
  else state.cfg

def rebuilds (state : State) (input : RunInput) : Bool := configures state input && bufmonModified input.rows

def reconfigured (state : State) (input : RunInput) : State :=
  let state' := { state with cfg := nextConfig state input }
  { (if rebuilds state input then filledList state' input.rows else state') with idlSeqno := input.seqno }

theorem run_reconfigure_eq (state : State) (input : RunInput) :
    runReconfigure state input =
      if rebuilds state input = true → FillSafe (nextConfig state input) input.rows then some (reconfigured state input)
      else none := by
  unfold runReconfigure
  by_cases changed : input.seqno = state.idlSeqno
  · have still : configures state input = false := by simp [configures, changed]
    simp [changed, rebuilds, still, reconfigured, nextConfig]
  · rw [if_pos changed]
    unfold bufmonReconfigure
    cases system : input.system with
    | none =>
        have still : configures state input = false := by simp [configures, system]
        simp [rebuilds, still, reconfigured, nextConfig]
    | some row =>
        cases empty : row.bufmonConfig.isEmpty with
        | true =>
            have still : configures state input = false := by simp [configures, system, empty]
            simp [empty, rebuilds, still, reconfigured, nextConfig]
        | false =>
            have goes : configures state input = true := by simp [configures, system, empty, changed]
            have config : (if systemModified row then { state with cfg := systemConfigUpdate row } else state) =
                { state with cfg := nextConfig state input } := by
              simp only [nextConfig, goes, if_true, system, Option.elim_some]
              split <;> rfl
            simp only [empty, Bool.false_eq_true, if_false]
            rw [config]
            cases flagged : bufmonModified input.rows with
            | false => simp [rebuilds, flagged, reconfigured]
            | true =>
                rw [if_pos rfl, create_counters_list_eq]
                by_cases safe : FillSafe (nextConfig state input) input.rows <;>
                  simp [rebuilds, goes, flagged, reconfigured, safe]

theorem filled_list_counted (state : State) (rows : List CounterRow) (safe : FillSafe state.cfg rows) :
    ListCounted (filledList state rows) := by
  by_cases empty : enabledCountersCount state.cfg rows = 0
  · simp [ListCounted, entries, filledList, empty]
  · have all := safe.resolve_left empty
    have enabled := enabled_of_count state.cfg rows empty
    simp only [ListCounted, entries, filledList, if_neg empty, Option.getD_some, List.length_map]
    rw [visited_eq_enabled rows all, enabledCountersCount, enabled, List.countP_eq_length_filter]
    rfl

theorem reconfigured_counted (state : State) (input : RunInput) (counted : ListCounted state)
    (safe : rebuilds state input = true → FillSafe (nextConfig state input) input.rows) :
    ListCounted (reconfigured state input) := by
  unfold reconfigured
  cases rebuilt : rebuilds state input with
  | false => exact counted
  | true => exact filled_list_counted { state with cfg := nextConfig state input } input.rows (safe rebuilt)

end OpsSwitchd.Bufmon
