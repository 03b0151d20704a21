import OpsSwitchd.SystemStats

set_option autoImplicit false

namespace OpsSwitchd.SystemStats

open Handover

section Ownership

def inFlight : Collector → List Nat
  | .gathering number _ => [number]
  | _ => []

-- A snapshot is pending, recorded or freed, or still being gathered. Only a
-- main loop that has no row to write to and yet sees statistics on would leak.
structure Owned (s : State) : Prop where
  account : ((Handover.account s.slot).map Snapshot.number ++ inFlight s.collector).Perm (List.range s.next)
  taken : s.slot.taken = s.recorded.map Prod.fst
  leaked : s.leaked = []
  rowless : s.stale = false → s.row = none → s.enabled = false
  settled : s.pc = .stats → s.stale = false

theorem in_flight_woken (s : State) (heard : Heard s) : inFlight (woken s) = inFlight s.collector := by
  unfold woken
  cases started : s.started with
  | false =>
      rw [(heard.unstarted started).1]
      rfl
  | true =>
      by_cases asleep : s.collector = .asleep
      · simp [asleep, inFlight]
      · simp [asleep]

theorem account_numbers (slot next : Slot Snapshot) (busy : List Nat) (limit : Nat)
    (same : (Handover.account next).Perm (Handover.account slot))
    (account : ((Handover.account slot).map Snapshot.number ++ busy).Perm (List.range limit)) :
    ((Handover.account next).map Snapshot.number ++ busy).Perm (List.range limit) :=
  ((same.map Snapshot.number).append_right busy).trans account

theorem turn_owned (s next : State) (turn : Turn s next) (heard : Heard s) (owned : Owned s) : Owned next := by
  cases turn with
  | none => exact owned
  | received row idle =>
      exact ⟨owned.account, owned.taken, owned.leaked, fun fresh => Bool.noConfusion fresh,
        fun here => absurd (idle.symm.trans here) (by decide)⟩
  | contended => exact ⟨owned.account, owned.taken, owned.leaked, fun _ _ => rfl, owned.settled⟩
  | entered idle =>
      refine ⟨owned.account, owned.taken, owned.leaked, owned.rowless, fun here => ?_⟩
      dsimp only at here ⊢
      cases stale : s.stale with
      | false => rfl
      | true => simp [stale] at here
  | switchedOn row off =>
      refine ⟨?_, owned.taken, owned.leaked, fun _ gone => absurd (row.symm.trans gone) (by decide), fun _ => rfl⟩
      rw [in_flight_woken s heard]
      exact account_numbers s.slot _ _ _ (drop_account s.slot) owned.account
  | stayedOn row on =>
      exact ⟨owned.account, owned.taken, owned.leaked, fun _ gone => absurd (row.symm.trans gone) (by decide), fun _ => rfl⟩
  | switchedOff row applied => exact ⟨owned.account, owned.taken, owned.leaked, fun _ _ => rfl, fun _ => rfl⟩
  | nothing empty => exact ⟨owned.account, owned.taken, owned.leaked, owned.rowless, fun here => Pc.noConfusion here⟩
  | recorded here snapshot waiting on row applied =>
      refine ⟨account_numbers s.slot _ _ _ (take_account s.slot) owned.account, ?_, owned.leaked, owned.rowless,
        fun later => Pc.noConfusion later⟩
      simp [take, waiting, owned.taken]
  | leaked here snapshot waiting on row => exact absurd (owned.rowless (owned.settled here) row) (by simp [on])
  | dropped snapshot waiting off =>
      exact ⟨account_numbers s.slot _ _ _ (drop_account s.slot) owned.account, owned.taken, owned.leaked, owned.rowless,
        fun later => Pc.noConfusion later⟩
  | began checking on =>
      refine ⟨?_, owned.taken, owned.leaked, owned.rowless, owned.settled⟩
      have account := owned.account
      simp only [checking, inFlight, List.append_nil] at account
      rw [List.range_succ]
      exact account.append_right [s.next]
  | slept checking off =>
      refine ⟨?_, owned.taken, owned.leaked, owned.rowless, owned.settled⟩
      simpa only [checking, inFlight] using owned.account
  | returned waiting =>
      refine ⟨?_, owned.taken, owned.leaked, owned.rowless, owned.settled⟩
      rcases waiting with asleep | resting
      · simpa only [asleep, inFlight] using owned.account
      · simpa only [resting, inFlight] using owned.account
  | published number begun busy =>
      refine ⟨?_, owned.taken, owned.leaked, owned.rowless, owned.settled⟩
      have account := owned.account
      simp only [busy, inFlight] at account
      have moved := ((put_account s.slot ⟨number, begun, s.period⟩).map Snapshot.number).trans
        (List.perm_append_singleton number ((Handover.account s.slot).map Snapshot.number)).symm
      simpa only [inFlight, List.append_nil] using moved.trans account

def Accounted (s : State) : Prop :=
  (s.slot.pending.toList.map Snapshot.number ++ s.recorded.map (fun entry => entry.1.number) ++
      s.slot.dropped.map Snapshot.number ++ inFlight s.collector).Perm (List.range s.next) ∧ s.leaked = []

theorem owned_accounted (s : State) (owned : Owned s) : Accounted s := by
  refine ⟨?_, owned.leaked⟩
  have account := owned.account
  rw [Handover.account, owned.taken] at account
  simpa only [List.map_append, List.map_map, Function.comp_def] using account

theorem initial_owned (row : Option Bool) (column : Option Snapshot) : Owned (initial row column) :=
  ⟨.refl _, rfl, rfl, fun fresh => Bool.noConfusion fresh, fun here => Pc.noConfusion here⟩

theorem snapshots_accounted (row : Option Bool) (column : Option Snapshot) (inputs : List Step) :
    Runs.Always step Accounted (initial row column) inputs :=
  Runs.always_mono owned_accounted (turns_always turn_owned (initial_owned row column) inputs)

end Ownership

section Freshness

def RecordedNow (s : State) : Prop := ∃ entry ∈ s.recorded, entry.2 = s.period

structure Current (s : State) : Prop where
  pending : ∀ snapshot ∈ s.slot.pending, snapshot.period = s.period
  recorded : ∀ entry ∈ s.recorded, entry.1.period = entry.2
  order : ∃ offered, InOrder offered s.slot ∧
    (offered.map Snapshot.number ++ inFlight s.collector).Sublist (List.range s.next)

theorem turn_current (s next : State) (turn : Turn s next) (heard : Heard s) (current : Current s) : Current next := by
  obtain ⟨pending, recorded, offered, order, numbers⟩ := current
  have emptied (slot : Slot Snapshot) (period : Nat) (empty : slot.pending = none) : ∀ snapshot ∈ slot.pending, snapshot.period = period := by
    rw [empty]
    exact fun _ member => absurd member (Option.not_mem_none _)
  cases turn with
  | none => exact ⟨pending, recorded, offered, order, numbers⟩
  | received row idle => exact ⟨pending, recorded, offered, order, numbers⟩
  | contended => exact ⟨pending, recorded, offered, order, numbers⟩
  | entered idle => exact ⟨pending, recorded, offered, order, numbers⟩
  | switchedOn row off =>
      refine ⟨emptied _ _ rfl, recorded, offered, drop_in_order offered s.slot order, ?_⟩
      rwa [in_flight_woken s heard]
  | stayedOn row on => exact ⟨pending, recorded, offered, order, numbers⟩
  | switchedOff row applied => exact ⟨pending, recorded, offered, order, numbers⟩
  | nothing empty => exact ⟨pending, recorded, offered, order, numbers⟩
  | recorded here snapshot waiting on row applied =>
      refine ⟨emptied _ _ rfl, fun entry member => ?_, offered, take_in_order offered s.slot order, numbers⟩
      rcases List.mem_append.mp member with old | new
      · exact recorded entry old
      · rw [List.mem_singleton.mp new]
        exact pending snapshot waiting
  | leaked here snapshot waiting on row => exact ⟨emptied _ _ rfl, recorded, offered, take_in_order offered s.slot order, numbers⟩
  | dropped snapshot waiting off => exact ⟨emptied _ _ rfl, recorded, offered, drop_in_order offered s.slot order, numbers⟩
  | began checking on =>
      refine ⟨pending, recorded, offered, order, ?_⟩
      simp only [checking, inFlight, List.append_nil] at numbers
      rw [List.range_succ]
      exact numbers.append_right [s.next]
  | slept checking off =>
      simp only [checking, inFlight] at numbers
      exact ⟨pending, recorded, offered, order, numbers⟩
  | returned waiting =>
      refine ⟨pending, recorded, offered, order, ?_⟩
      rcases waiting with asleep | resting
      · simpa only [asleep, inFlight] using numbers
      · simpa only [resting, inFlight] using numbers
  | published number begun busy =>
      simp only [busy, inFlight] at numbers
      refine ⟨fun snapshot member => ?_, recorded, offered ++ [⟨number, begun, s.period⟩], put_in_order offered s.slot _ order, ?_⟩
      · rw [← Option.some.inj member]
      · simpa only [List.map_append, List.map_cons, List.map_nil, inFlight, List.append_nil] using numbers

structure Begun (s : State) : Prop where
  bounded : ∀ entry ∈ s.recorded, entry.2 ≤ s.period
  gathering : s.slot.pending ≠ none ∨ RecordedNow s → ∀ number begun, s.collector = .gathering number begun → begun = s.period
  pending : RecordedNow s → ∀ snapshot ∈ s.slot.pending, snapshot.begun = s.period
  later : s.recorded.Pairwise (fun first second => first.2 = second.2 → second.1.begun = second.2)

theorem emptied_begun (s : State) (slot : Slot Snapshot) (begun : Begun s) (empty : slot.pending = none) :
    Begun { s with latch := .clear, slot := slot } where
  bounded := begun.bounded
  gathering := fun published => begun.gathering (.inr (published.resolve_left (fun waits => waits empty)))
  pending := fun _ snapshot member => by
    rw [show slot.pending = none from empty] at member
    cases member
  later := begun.later

theorem recorded_begun (s : State) (snapshot : Snapshot) (begun : Begun s) (waiting : s.slot.pending = some snapshot) :
    Begun { s with latch := .clear, slot := take s.slot, recorded := s.recorded ++ [(snapshot, s.period)] } where
  bounded := fun entry member => by
    rcases List.mem_append.mp member with old | new
    · exact begun.bounded entry old
    · rw [List.mem_singleton.mp new]
  gathering := fun _ => begun.gathering (.inl (by rw [waiting]; exact Option.some_ne_none snapshot))
  pending := fun _ other member => by cases member
  later := by
    refine List.pairwise_append.mpr ⟨begun.later, List.pairwise_singleton _ _, fun first member last here same => ?_⟩
    rw [List.mem_singleton.mp here] at same ⊢
    exact begun.pending ⟨first, member, same⟩ snapshot waiting

theorem turn_begun (s next : State) (turn : Turn s next) (begun : Begun s) : Begun next := by
  have same : Begun s := begun
  obtain ⟨bounded, gathering, pending, later⟩ := begun
  cases turn with
  | none => exact same
  | received row idle => exact ⟨bounded, gathering, pending, later⟩
  | contended => exact ⟨bounded, gathering, pending, later⟩
  | entered idle => exact ⟨bounded, gathering, pending, later⟩
  | switchedOn row off =>
      have unrecorded : ∀ entry ∈ s.recorded, entry.2 ≠ s.period + 1 := fun entry member now =>
        absurd (bounded entry member) (by omega)
      refine ⟨fun entry member => Nat.le_succ_of_le (bounded entry member), ?_, fun _ _ member => (by cases member), later⟩
      rintro (waits | ⟨entry, member, now⟩)
      · exact absurd rfl waits
      · exact absurd now (unrecorded entry member)
  | stayedOn row on => exact ⟨bounded, gathering, pending, later⟩
  | switchedOff row applied => exact ⟨bounded, gathering, pending, later⟩
  | nothing empty => exact ⟨bounded, gathering, pending, later⟩
  | recorded here snapshot waiting on row applied =>
      have taken := recorded_begun s snapshot same waiting
      exact ⟨taken.bounded, taken.gathering, taken.pending, taken.later⟩
  | leaked here snapshot waiting on row =>
      have taken := emptied_begun s (take s.slot) same rfl
      exact ⟨taken.bounded, taken.gathering, taken.pending, taken.later⟩
  | dropped snapshot waiting off =>
      have dropped := emptied_begun s (drop s.slot) same rfl
      exact ⟨dropped.bounded, dropped.gathering, dropped.pending, dropped.later⟩
  | began checking on =>
      refine ⟨bounded, fun _ number begun busy => ?_, pending, later⟩
      exact (Collector.gathering.inj busy).2.symm
  | slept checking off => exact ⟨bounded, fun _ _ _ busy => Collector.noConfusion busy, pending, later⟩
  | returned waiting => exact ⟨bounded, fun _ _ _ busy => Collector.noConfusion busy, pending, later⟩
  | published number begun busy =>
      refine ⟨bounded, fun _ _ _ busy => Collector.noConfusion busy, fun now snapshot member => ?_, later⟩
      rw [← Option.some.inj member]
      exact gathering (.inr now) number begun busy

structure RecordedCurrent (s : State) : Prop where
  published : ∀ entry ∈ s.recorded, entry.1.period = entry.2
  begun : s.recorded.Pairwise (fun first second => first.2 = second.2 → second.1.begun = second.2)
  ordered : (s.recorded.map (fun entry => entry.1.number)).Pairwise (· < ·)

theorem recorded_current (s : State) (owned : Owned s) (current : Current s) (begun : Begun s) : RecordedCurrent s := by
  obtain ⟨_, recorded, offered, order, numbers⟩ := current
  refine ⟨recorded, begun.later, ?_⟩
  have taken : (s.slot.taken.map Snapshot.number).Sublist (List.range s.next) :=
    (((List.sublist_append_left _ _).trans order).map _).trans ((List.sublist_append_left _ _).trans numbers)
  rw [owned.taken, List.map_map] at taken
  exact (List.pairwise_lt_range).sublist taken

theorem initial_current (row : Option Bool) (column : Option Snapshot) : Current (initial row column) :=
  ⟨fun _ member => absurd member (Option.not_mem_none _), fun _ member => absurd member List.not_mem_nil, [], .refl _, .refl _⟩

theorem initial_begun (row : Option Bool) (column : Option Snapshot) : Begun (initial row column) :=
  ⟨fun _ member => absurd member List.not_mem_nil, fun _ _ _ busy => Collector.noConfusion busy,
    fun _ _ member => absurd member (Option.not_mem_none _), List.Pairwise.nil⟩

theorem recorded_snapshots_current (row : Option Bool) (column : Option Snapshot) (inputs : List Step) :
    Runs.Always step RecordedCurrent (initial row column) inputs :=
  Runs.always_mono (fun s all => recorded_current s all.1 all.2.1 all.2.2)
    (turns_always (P := fun s => Owned s ∧ Current s ∧ Begun s)
      (fun s next turn heard all => ⟨turn_owned s next turn heard all.1, turn_current s next turn heard all.2.1,
        turn_begun s next turn all.2.2⟩)
      ⟨initial_owned row column, initial_current row column, initial_begun row column⟩ inputs)

-- A snapshot that was begun before statistics went off and on again.
example : (Runs.run step (initial (some true) none)
    [.idlRun .held none, .reconfigure true, .runSystemStats true, .check,
      .idlRun .held (some (some false)), .reconfigure true, .runSystemStats true,
      .idlRun .held (some (some true)), .reconfigure true, .runSystemStats true, .publish,
      .idlRun .held none, .runSystemStats true]).recorded = [(⟨0, 1, 2⟩, 2)] := by
  decide

end Freshness

section Column

def Quiet (s : State) : Prop := s.stale = false → s.enabled = false → s.column = none

def Clears (s : State) : Step → Prop
  | .idlRun .contended none => s.pc = .idle → s.stale = false → s.column = none
  | .reconfigure applied => s.pc = .reconfigure → s.row.getD false = false → applied = true ∨ s.column = none
  | _ => True

theorem stale_quiet (s : State) (stale : s.stale = true) : Quiet s := by
  intro fresh
  rw [stale] at fresh
  cases fresh

theorem run_quiet (s : State) (applied : Bool) (heard : Heard s) (quiet : Quiet s) : Quiet (runSystemStats s applied) := by
  unfold runSystemStats
  rcases run_cases s heard with ⟨_, same⟩ | ⟨snapshot, _, ⟨on, taken⟩ | ⟨_, dropped⟩⟩
  · rwa [same]
  · rw [taken]
    dsimp only
    split <;> exact fun _ disabled => absurd (on.symm.trans disabled) (by decide)
  · rw [dropped]
    exact quiet

theorem step_quiet (s : State) (input : Step) (heard : Heard s) (quiet : Quiet s) (clears : Clears s input) :
    Quiet (step s input) := by
  cases input with
  | idlRun lock update =>
      simp only [step]
      split
      · rename_i idle
        cases update with
        | none =>
            cases lock with
            | contended =>
                simp only [receive, enable_off]
                exact fun fresh _ => clears idle fresh
            | missing => exact quiet
            | held => exact quiet
        | some row =>
            cases lock with
            | contended =>
                simp only [receive, enable_off]
                exact stale_quiet _ rfl
            | missing => exact stale_quiet _ rfl
            | held => exact stale_quiet _ rfl
      · exact quiet
  | reconfigure applied =>
      simp only [step]
      split
      · rename_i here
        intro _ disabled
        dsimp only at disabled ⊢
        cases row : s.row.getD false with
        | false =>
            rw [reconfigure_off s applied row]
            rcases clears here row with applied | empty
            · simp [applied]
            · simp [empty]
        | true =>
            rw [reconfigure_on s applied row, enabled_by_enable] at disabled
            cases disabled
      · exact quiet
  | runSystemStats applied =>
      simp only [step]
      split
      · exact run_quiet s applied heard quiet
      · exact quiet
  | wait =>
      simp only [step, wait_same s heard, ite_self]
      exact quiet
  | check =>
      simp only [step]
      split
      · split <;> exact quiet
      · exact quiet
  | spuriousWakeup =>
      simp only [step]
      split <;> exact quiet
  | publish =>
      simp only [step, touchLatch]
      split
      · split <;> exact quiet
      · exact quiet
  | rested =>
      simp only [step]
      split <;> exact quiet

theorem quiet_clears (s : State) (input : Step) (quiet : Quiet (step s input)) : Clears s input := by
  cases input with
  | idlRun lock update =>
      cases lock with
      | contended =>
          cases update with
          | none =>
              intro idle fresh
              simp only [step, idle, if_true, receive, enable_off] at quiet
              exact quiet fresh rfl
          | some row => trivial
      | missing => trivial
      | held => trivial
  | reconfigure applied =>
      intro here row
      simp only [step, here, if_true, reconfigure_off s applied row] at quiet
      have column := quiet rfl rfl
      cases applied with
      | true => exact .inl rfl
      | false => exact .inr column
  | _ => trivial

theorem disabled_column_empty_iff (row : Option Bool) (column : Option Snapshot) (inputs : List Step) :
    Runs.Always step Quiet (initial row column) inputs ↔ Runs.Along step Clears (initial row column) inputs := by
  have implies : ∀ s, Heard s ∧ Quiet s → Quiet s := fun _ both => both.2
  have keep : ∀ s input, Heard s ∧ Quiet s → True → Clears s input → Heard (step s input) ∧ Quiet (step s input) :=
    fun s input both _ clears => ⟨step_heard s input both.1, step_quiet s input both.1 both.2 clears⟩
  exact Runs.always_iff_along implies keep (fun s input _ _ quiet => quiet_clears s input quiet)
    ⟨initial_heard row column, stale_quiet _ rfl⟩ (fun _ _ _ _ => trivial)

end Column

end OpsSwitchd.SystemStats
