import OpsSwitchd.SubsystemReconfigure
import OpsSwitchd.Writes

set_option autoImplicit false

namespace OpsSwitchd.Subsystems

structure StatusState where
  tables : Option (List Subsystem)
  idlSeqno : Nat
  netdevs : String → Netdev
  db : Uuid → StatusColumns

-- applied says whether the transaction of this iteration reaches the database.
structure RunInput where
  hasLock : Bool
  seqno : Nat
  cfg : Option (List SubsystemRow)
  order : HashOrder
  ifaceDoCreate : String → InterfaceRow → Bool
  applied : Bool

inductive StatusOp where
  | netdevChange (name : String) (netdev : Netdev)
  | subsystemRun (input : RunInput)

def runEnv (state : StatusState) (input : RunInput) : Env := ⟨input.order, input.ifaceDoCreate, state.netdevs⟩

def runReconfigure (state : StatusState) (input : RunInput) (all : List Subsystem) :
    Option (List Subsystem × List StatusWrite) :=
  if input.seqno ≠ state.idlSeqno then subsystemReconfigure (runEnv state input) (input.cfg.getD []) all
  else some (all, [])

-- run_stats_update reads other_config of the system row, which may be null.
def runTransaction (state : StatusState) (input : RunInput) : Option (List Subsystem × List StatusWrite) := do
  let all ← state.tables
  let reconfigured ← runReconfigure state input all
  let updated := runStatusUpdate (runEnv state input) reconfigured.1
  let _ ← input.cfg
  return (updated.1, reconfigured.2 ++ updated.2)

def subsystemRun (state : StatusState) (input : RunInput) : StatusState :=
  if !input.hasLock then state
  else
    match runTransaction state input with
    | none => { state with tables := none }
    | some (all, txn) =>
        { state with
          tables := some all
          idlSeqno := input.seqno
          db := if input.applied then Writes.apply txn state.db else state.db }

def netdevChange (state : StatusState) (name : String) (netdev : Netdev) : StatusState :=
  { state with netdevs := Function.update state.netdevs name { netdev with changeSeq := (state.netdevs name).changeSeq + 1 } }

def statusStep (state : StatusState) : StatusOp → StatusState
  | .netdevChange name netdev => netdevChange state name netdev
  | .subsystemRun input => subsystemRun state input

def eachIface (all : List Subsystem) (P : Iface → Prop) : Prop := ∀ ss ∈ all, ∀ iface ∈ ss.ifaceByName, P iface

instance (all : List Subsystem) (P : Iface → Prop) [DecidablePred P] : Decidable (eachIface all P) :=
  inferInstanceAs (Decidable (∀ ss ∈ all, ∀ iface ∈ ss.ifaceByName, P iface))

def Shown (state : StatusState) (iface : Iface) : Prop :=
  state.db iface.cfg.uuid = statusColumns (state.netdevs iface.name)

instance (state : StatusState) : DecidablePred (Shown state) := fun iface =>
  inferInstanceAs (Decidable (state.db iface.cfg.uuid = statusColumns (state.netdevs iface.name)))

structure Entry where
  uuid : Uuid
  device : String
  recorded : Nat
deriving DecidableEq, Repr

def keptEntries (all : List Subsystem) : List Entry :=
  all.flatMap (fun ss => ss.ifaceByName.map (fun iface => ⟨iface.cfg.uuid, iface.name, iface.changeSeq⟩))

def wantedEntry (input : RunInput) (owner : String) (ifaces : List Iface) (row : InterfaceRow) : Option Entry :=
  match Keyed.lookup Iface.name row.name ifaces with
  | some iface => some ⟨row.uuid, row.name, iface.changeSeq⟩
  | none => if input.ifaceDoCreate owner row then some ⟨row.uuid, row.name, 0⟩ else none

def wantedEntries (input : RunInput) (all : List Subsystem) : List Entry :=
  (Keyed.collect SubsystemRow.name (input.cfg.getD [])).flatMap (fun owner =>
    (Keyed.collect InterfaceRow.name owner.interfaces).filterMap (wantedEntry input owner.name (oldIfaces all owner.name)))

def runEntries (state : StatusState) (input : RunInput) (all : List Subsystem) : List Entry :=
  if input.seqno ≠ state.idlSeqno then wantedEntries input all else keptEntries all

def RunEnds (state : StatusState) (input : RunInput) (all : List Subsystem) : Prop :=
  input.cfg.isSome = true ∧ (input.seqno ≠ state.idlSeqno → nothingRemoved (input.cfg.getD []) all = true)

instance (state : StatusState) (input : RunInput) (all : List Subsystem) : Decidable (RunEnds state input all) :=
  inferInstanceAs (Decidable (_ ∧ _))

def RunPublishes (state : StatusState) (input : RunInput) : Prop :=
  input.hasLock = true → ∀ all ∈ state.tables, RunEnds state input all → ∀ entry ∈ runEntries state input all,
    state.db entry.uuid = statusColumns (state.netdevs entry.device) ∨
      (input.applied = true ∧ ∃ twin ∈ runEntries state input all,
        twin.uuid = entry.uuid ∧ twin.recorded ≠ (state.netdevs twin.device).changeSeq)

instance (state : StatusState) (input : RunInput) : Decidable (RunPublishes state input) :=
  inferInstanceAs (Decidable (input.hasLock = true → ∀ all ∈ state.tables, _))

def StepPublishes (state : StatusState) : StatusOp → Prop
  | .netdevChange _ _ => True
  | .subsystemRun input => RunPublishes state input

def RunWrites (state : StatusState) (input : RunInput) : Prop :=
  input.hasLock = true → ∀ ended ∈ runTransaction state input, eachIface ended.1 (fun iface =>
    (input.applied = true ∧ ∃ write ∈ ended.2, write.1 = iface.cfg.uuid) ∨ Shown state iface)

section Publishing

variable (state : StatusState) (input : RunInput) (netdevs : String → Netdev) (all : List Subsystem)

theorem refresh_change_seq (iface : Iface) :
    (ifaceRefreshNetdevStatus netdevs iface).1.changeSeq = (netdevs iface.name).changeSeq := by
  unfold ifaceRefreshNetdevStatus
  dsimp only
  split
  · assumption
  · rfl

theorem mem_refresh_writes (iface : Iface) (write : StatusWrite) :
    write ∈ (ifaceRefreshNetdevStatus netdevs iface).2 ↔
      iface.changeSeq ≠ (netdevs iface.name).changeSeq ∧
        write = (iface.cfg.uuid, statusColumns (netdevs iface.name)) := by
  unfold ifaceRefreshNetdevStatus
  dsimp only
  split
  · rename_i current
    simp [current]
  · rename_i changed
    simp [changed]

def WriteOf (netdevs : String → Netdev) (write : StatusWrite) (iface : Iface) : Prop :=
  write = (iface.cfg.uuid, statusColumns (netdevs iface.name))

theorem add_ifaces_fold_writes (env : Env) (rows : List InterfaceRow) (unique : Keyed.Unique InterfaceRow.name rows)
    (state : Subsystem × List StatusWrite) (write : StatusWrite) :
    write ∈ (rows.foldl (addIface env) state).2 ↔ write ∈ state.2 ∨ ∃ row ∈ rows,
      Keyed.lookup Iface.name row.name state.1.ifaceByName = none ∧ env.ifaceDoCreate state.1.name row = true ∧
        write ∈ (ifaceRefreshNetdevStatus env.netdevs ⟨row.name, none, 0, row⟩).2 := by
  induction rows generalizing state with
  | nil => simp
  | cons row rest ih =>
      obtain ⟨apart, uniqueRest⟩ := List.nodup_cons.mp unique
      have others : ∀ other ∈ rest, Keyed.lookup Iface.name other.name (addIface env state row).1.ifaceByName =
          Keyed.lookup Iface.name other.name state.1.ifaceByName := by
        intro other member
        rw [add_iface_lookup, if_neg (fun same => apart (List.mem_map.mpr ⟨other, member, same⟩))]
      have later : (∃ other ∈ rest, Keyed.lookup Iface.name other.name (addIface env state row).1.ifaceByName = none ∧
          env.ifaceDoCreate (addIface env state row).1.name other = true ∧
            write ∈ (ifaceRefreshNetdevStatus env.netdevs ⟨other.name, none, 0, other⟩).2) ↔
          ∃ other ∈ rest, Keyed.lookup Iface.name other.name state.1.ifaceByName = none ∧
            env.ifaceDoCreate state.1.name other = true ∧
              write ∈ (ifaceRefreshNetdevStatus env.netdevs ⟨other.name, none, 0, other⟩).2 := by
        rw [(add_iface_owner env state row).1]
        exact exists_congr fun other => and_congr_right fun member => by rw [others other member]
      rw [List.foldl_cons, ih uniqueRest, later]
      simp only [List.exists_mem_cons_iff]
      obtain ⟨same, kept⟩ | ⟨absent, made, added⟩ := add_iface_cases env state row
      · rw [same]
        have idle : ¬ (Keyed.lookup Iface.name row.name state.1.ifaceByName = none ∧ env.ifaceDoCreate state.1.name row = true ∧
            write ∈ (ifaceRefreshNetdevStatus env.netdevs ⟨row.name, none, 0, row⟩).2) := by
          rintro ⟨absent, made, _⟩
          rcases kept with present | refused
          · simp [absent] at present
          · simp [createdIface, made] at refused
        simp only [idle, false_or]
      · rw [added]
        simp only [List.mem_append, absent, made, true_and, or_assoc]

theorem mem_reconfigure_writes (env : Env) (rows : List SubsystemRow) (all : List Subsystem) (write : StatusWrite) :
    write ∈ (reconfigureResult env rows all).2 ↔ ∃ ss ∈ keptResult env.order (addDelResult env.order rows all),
      ∃ row ∈ subsystemCollectWantedIfaces ss, Keyed.lookup Iface.name row.name ss.ifaceByName = none ∧
        env.ifaceDoCreate ss.name row = true ∧ write ∈ (ifaceRefreshNetdevStatus env.netdevs ⟨row.name, none, 0, row⟩).2 := by
  have each : ∀ ss : Subsystem, write ∈ (subsystemAddIfaces env ss).2 ↔ ∃ row ∈ subsystemCollectWantedIfaces ss,
      Keyed.lookup Iface.name row.name ss.ifaceByName = none ∧ env.ifaceDoCreate ss.name row = true ∧
        write ∈ (ifaceRefreshNetdevStatus env.netdevs ⟨row.name, none, 0, row⟩).2 := by
    intro ss
    have perm := wanted_perm env ss
    rw [subsystem_add_ifaces_eq, add_ifaces_fold_writes env _
      (Keyed.unique_perm InterfaceRow.name perm.symm (Keyed.unique_collect InterfaceRow.name _))]
    simp [perm.mem_iff]
  simp [reconfigureResult, each]

theorem mem_refreshed (P : Iface → Prop) :
    eachIface (all.map (refreshSubsystem netdevs)) P ↔
      eachIface all (fun iface => P (ifaceRefreshNetdevStatus netdevs iface).1) := by
  constructor
  · intro each ss member iface present
    exact each (refreshSubsystem netdevs ss) (List.mem_map_of_mem member) _ (List.mem_map_of_mem present)
  · intro each ss member iface present
    obtain ⟨before, old, rfl⟩ := List.mem_map.mp member
    obtain ⟨entry, kept, rfl⟩ := List.mem_map.mp present
    exact each before old entry kept

theorem mem_status_writes (env : Env) (all : List Subsystem) (write : StatusWrite) :
    write ∈ (runStatusUpdate env all).2 ↔ ∃ ss ∈ all, ∃ iface ∈ ss.ifaceByName,
      iface.changeSeq ≠ (env.netdevs iface.name).changeSeq ∧ WriteOf env.netdevs write iface := by
  simp only [runStatusUpdate, List.mem_flatMap, HashOrder.mem_walk, mem_refresh_writes, WriteOf]

theorem run_transaction_cases (txn : List StatusWrite) (ended : runTransaction state input = some (all, txn)) :
    ∃ before middle writes, state.tables = some before ∧ runReconfigure state input before = some (middle, writes) ∧
      all = middle.map (refreshSubsystem state.netdevs) ∧ txn = writes ++ (runStatusUpdate (runEnv state input) middle).2 := by
  unfold runTransaction at ended
  simp only [Option.bind_eq_bind, Option.bind_eq_some_iff, Option.pure_def, Option.some.injEq, Prod.mk.injEq] at ended
  obtain ⟨before, tables, ⟨middle, writes⟩, reconfigured, _, _, rfl, rfl⟩ := ended
  exact ⟨before, middle, writes, tables, reconfigured, rfl, rfl⟩

theorem kept_lookup (order : HashOrder) (rows : List SubsystemRow) (all : List Subsystem) (tables : Tables all) (k : String) :
    Keyed.lookup Subsystem.name k (keptResult order (addDelResult order rows all)) =
      (Keyed.lookup SubsystemRow.name k rows).map (fun row => keptSubsystem order row (Keyed.lookup Subsystem.name k all)) := by
  rw [kept_result_lookup order _ (add_del_result_names order rows all tables.names),
    add_del_result_lookup order rows all tables.names, Option.map_map]
  rfl

theorem kept_subsystem_ifaces (order : HashOrder) (rows : List SubsystemRow) (all : List Subsystem) (tables : Tables all)
    (k : String) (row : SubsystemRow) (wanted : Keyed.lookup SubsystemRow.name k rows = some row) (name : String) :
    Keyed.lookup Iface.name name (keptSubsystem order row (Keyed.lookup Subsystem.name k all)).ifaceByName =
      (Keyed.lookup Iface.name name (oldIfaces all k)).map (keptIface row) := by
  rw [keptSubsystem, configured_subsystem_fields all rows k row wanted]
  exact keep_ifaces_lookup order ⟨k, row, oldIfaces all k⟩ (old_ifaces_tables all tables k).1 name

theorem kept_subsystem_owner (order : HashOrder) (rows : List SubsystemRow) (all : List Subsystem) (k : String)
    (row : SubsystemRow) (wanted : Keyed.lookup SubsystemRow.name k rows = some row) :
    (keptSubsystem order row (Keyed.lookup Subsystem.name k all)).name = k ∧
      (keptSubsystem order row (Keyed.lookup Subsystem.name k all)).cfg = row := by
  rw [keptSubsystem, configured_subsystem_fields all rows k row wanted]
  exact ⟨rfl, rfl⟩

theorem reconfigure_iface_iff (env : Env) (rows : List SubsystemRow) (all : List Subsystem) (tables : Tables all) (k : String)
    (iface : Iface) :
    (∃ ss ∈ (reconfigureResult env rows all).1, ss.name = k ∧ iface ∈ ss.ifaceByName) ↔
      ∃ owner, Keyed.lookup SubsystemRow.name k rows = some owner ∧
        ((Keyed.lookup Iface.name iface.name (oldIfaces all k)).map (keptIface owner)).or
          ((Keyed.lookup InterfaceRow.name iface.name owner.interfaces).bind (createdIface env k)) = some iface := by
  have names := reconfigure_names env rows all tables
  constructor
  · rintro ⟨ss, member, rfl, present⟩
    have found := Keyed.lookup_of_mem Subsystem.name names member
    rw [reconfigure_lookup env rows all tables] at found
    obtain ⟨owner, wanted, made⟩ := Option.map_eq_some_iff.mp found
    have unique := reconfigured_iface_names env rows all tables ss.name owner wanted
    refine ⟨owner, wanted, ?_⟩
    rw [← reconfigured_iface_lookup env rows all tables ss.name owner wanted]
    rw [made] at unique ⊢
    exact Keyed.lookup_of_mem Iface.name unique present
  · rintro ⟨owner, wanted, entry⟩
    have found : Keyed.lookup Subsystem.name k (reconfigureResult env rows all).1 =
        some (reconfiguredSubsystem env owner (Keyed.lookup Subsystem.name k all)) := by
      rw [reconfigure_lookup env rows all tables, wanted]
      rfl
    rw [← reconfigured_iface_lookup env rows all tables k owner wanted] at entry
    exact ⟨_, Keyed.lookup_mem Subsystem.name found, Keyed.lookup_key Subsystem.name found, Keyed.lookup_mem Iface.name entry⟩

theorem mem_wanted_entries (entry : Entry) :
    entry ∈ wantedEntries input all ↔ ∃ k owner name row, Keyed.lookup SubsystemRow.name k (input.cfg.getD []) = some owner ∧
      Keyed.lookup InterfaceRow.name name owner.interfaces = some row ∧ wantedEntry input k (oldIfaces all k) row = some entry := by
  simp only [wantedEntries, List.mem_flatMap, List.mem_filterMap, Keyed.mem_collect_iff]
  constructor
  · rintro ⟨owner, wanted, row, listed, made⟩
    exact ⟨owner.name, owner, row.name, row, wanted, listed, made⟩
  · rintro ⟨k, owner, name, row, wanted, listed, made⟩
    obtain rfl := Keyed.lookup_key SubsystemRow.name wanted
    obtain rfl := Keyed.lookup_key InterfaceRow.name listed
    exact ⟨owner, wanted, row, listed, made⟩

structure Handles (netdevs : String → Netdev) (all : List Subsystem) (written : List StatusWrite) (entries : List Entry) : Prop where
  covered : eachIface all (fun iface => ∃ entry ∈ entries, entry.uuid = iface.cfg.uuid ∧ entry.device = iface.name ∧
    (iface.changeSeq ≠ (netdevs iface.name).changeSeq → entry.recorded = iface.changeSeq))
  present : ∀ entry ∈ entries, ∃ ss ∈ all, ∃ iface ∈ ss.ifaceByName, iface.cfg.uuid = entry.uuid ∧ iface.name = entry.device ∧
    (entry.recorded ≠ (netdevs entry.device).changeSeq →
      iface.changeSeq ≠ (netdevs iface.name).changeSeq ∨ ∃ write ∈ written, write.1 = entry.uuid)
  early : ∀ write ∈ written, ∃ entry ∈ entries, write = (entry.uuid, statusColumns (netdevs entry.device)) ∧
    entry.recorded ≠ (netdevs entry.device).changeSeq

theorem kept_handles : Handles netdevs all [] (keptEntries all) where
  covered := fun ss member iface present => ⟨⟨iface.cfg.uuid, iface.name, iface.changeSeq⟩,
    List.mem_flatMap.mpr ⟨ss, member, List.mem_map.mpr ⟨iface, present, rfl⟩⟩, rfl, rfl, fun _ => rfl⟩
  present := by
    intro entry member
    obtain ⟨ss, here, listed⟩ := List.mem_flatMap.mp member
    obtain ⟨iface, present, rfl⟩ := List.mem_map.mp listed
    exact ⟨ss, here, iface, present, rfl, rfl, .inl⟩
  early := fun write member => by cases member

theorem kept_iface_seq (row : SubsystemRow) (iface : Iface) : (keptIface row iface).changeSeq = iface.changeSeq := by
  rw [keptIface]
  cases Keyed.lookup InterfaceRow.name iface.name row.interfaces <;> rfl

theorem fresh_iface_seq (env : Env) (row : InterfaceRow) :
    (freshIface env row).changeSeq = (env.netdevs (freshIface env row).name).changeSeq := by
  rw [freshIface, refresh_name]
  exact refresh_change_seq _ _

section Wanted

variable {state input all} (tables : Tables all)
include tables

theorem reconfigure_covered (kept : nothingRemoved (input.cfg.getD []) all = true) :
    eachIface (reconfigureResult (runEnv state input) (input.cfg.getD []) all).1 (fun iface => ∃ entry ∈ wantedEntries input all,
      entry.uuid = iface.cfg.uuid ∧ entry.device = iface.name ∧
        (iface.changeSeq ≠ (state.netdevs iface.name).changeSeq → entry.recorded = iface.changeSeq)) := by
  intro ss member iface present
  have listed := reconfigure_wanted _ _ all tables kept ss member iface present
  have named := Keyed.lookup_key InterfaceRow.name listed
  obtain ⟨owner, wanted, entry⟩ := (reconfigure_iface_iff _ _ all tables ss.name iface).mp ⟨ss, member, rfl, present⟩
  have same : owner = ss.cfg := Option.some.inj (wanted.symm.trans (reconfigure_entry _ _ all tables ss member).1)
  subst same
  have made : ∀ recorded, wantedEntry input ss.name (oldIfaces all ss.name) iface.cfg = some ⟨iface.cfg.uuid, iface.cfg.name, recorded⟩ →
      ⟨iface.cfg.uuid, iface.cfg.name, recorded⟩ ∈ wantedEntries input all :=
    fun recorded entered => (mem_wanted_entries input all _).mpr ⟨ss.name, ss.cfg, _, _, wanted, listed, entered⟩
  cases before : Keyed.lookup Iface.name iface.name (oldIfaces all ss.name) with
  | some old =>
      rw [before] at entry
      have seq := kept_iface_seq ss.cfg old
      rw [Option.some.inj entry] at seq
      exact ⟨_, made old.changeSeq (by rw [wantedEntry, named, before]), rfl, named, fun _ => seq.symm⟩
  | none =>
      rw [before, Option.map_none, Option.none_or, listed, Option.bind_some] at entry
      have creates : input.ifaceDoCreate ss.name iface.cfg = true := by
        by_contra refused
        simp [createdIface, runEnv, refused] at entry
      have created : createdIface (runEnv state input) ss.name iface.cfg = some (freshIface (runEnv state input) iface.cfg) :=
        if_pos creates
      have seq := fresh_iface_seq (runEnv state input) iface.cfg
      rw [Option.some.inj (created.symm.trans entry)] at seq
      refine ⟨_, made 0 ?_, rfl, named, fun stale => absurd seq stale⟩
      rw [wantedEntry, named, before, creates]
      rfl

theorem created_written {k : String} {owner : SubsystemRow} {row : InterfaceRow}
    (wanted : Keyed.lookup SubsystemRow.name k (input.cfg.getD []) = some owner)
    (listed : Keyed.lookup InterfaceRow.name row.name owner.interfaces = some row)
    (absent : Keyed.lookup Iface.name row.name (oldIfaces all k) = none) (creates : input.ifaceDoCreate k row = true)
    (stale : 0 ≠ (state.netdevs row.name).changeSeq) :
    (row.uuid, statusColumns (state.netdevs row.name)) ∈ (reconfigureResult (runEnv state input) (input.cfg.getD []) all).2 := by
  have found := kept_lookup (runEnv state input).order (input.cfg.getD []) all tables k
  rw [wanted, Option.map_some] at found
  have owned := kept_subsystem_owner (runEnv state input).order (input.cfg.getD []) all k owner wanted
  refine (mem_reconfigure_writes _ _ all _).mpr ⟨_, Keyed.lookup_mem Subsystem.name found, row, ?_, ?_, ?_, ?_⟩
  · rw [subsystemCollectWantedIfaces, owned.2, Keyed.mem_collect_iff]
    exact listed
  · rw [kept_subsystem_ifaces _ _ all tables k owner wanted, absent]
    rfl
  · rw [owned.1]
    exact creates
  · exact (mem_refresh_writes _ _ _).mpr ⟨stale, rfl⟩

theorem reconfigure_present (entry : Entry) (member : entry ∈ wantedEntries input all) :
    ∃ ss ∈ (reconfigureResult (runEnv state input) (input.cfg.getD []) all).1, ∃ iface ∈ ss.ifaceByName,
      iface.cfg.uuid = entry.uuid ∧ iface.name = entry.device ∧ (entry.recorded ≠ (state.netdevs entry.device).changeSeq →
        iface.changeSeq ≠ (state.netdevs iface.name).changeSeq ∨
          ∃ write ∈ (reconfigureResult (runEnv state input) (input.cfg.getD []) all).2, write.1 = entry.uuid) := by
  obtain ⟨k, owner, name, row, wanted, listed, made⟩ := (mem_wanted_entries input all entry).mp member
  obtain rfl := Keyed.lookup_key InterfaceRow.name listed
  unfold wantedEntry at made
  cases before : Keyed.lookup Iface.name row.name (oldIfaces all k) with
  | some old =>
      rw [before] at made
      obtain rfl := Option.some.inj made
      have named := Keyed.lookup_key Iface.name before
      have cfg : keptIface owner old = { old with cfg := row } := by
        rw [keptIface, named, listed]
        rfl
      obtain ⟨ss, here, _, present⟩ := (reconfigure_iface_iff (runEnv state input) _ all tables k (keptIface owner old)).mpr
        ⟨owner, wanted, by rw [kept_iface_name, named, before]; rfl⟩
      rw [cfg] at present
      exact ⟨ss, here, _, present, rfl, named, fun stale => .inl (named ▸ stale)⟩
  | none =>
      rw [before] at made
      dsimp only at made
      split at made
      · rename_i creates
        obtain rfl := Option.some.inj made
        have named : (freshIface (runEnv state input) row).name = row.name := refresh_name _ _
        have created : createdIface (runEnv state input) k row = some (freshIface (runEnv state input) row) := if_pos creates
        obtain ⟨ss, here, _, present⟩ := (reconfigure_iface_iff (runEnv state input) _ all tables k _).mpr
          ⟨owner, wanted, by rw [named, before, listed, Option.map_none, Option.none_or, Option.bind_some, created]⟩
        exact ⟨ss, here, _, present, congrArg InterfaceRow.uuid (refresh_cfg _ _), named,
          fun stale => .inr ⟨_, created_written tables wanted listed before creates stale, rfl⟩⟩
      · cases made

theorem reconfigure_early (write : StatusWrite)
    (member : write ∈ (reconfigureResult (runEnv state input) (input.cfg.getD []) all).2) :
    ∃ entry ∈ wantedEntries input all, write = (entry.uuid, statusColumns (state.netdevs entry.device)) ∧
      entry.recorded ≠ (state.netdevs entry.device).changeSeq := by
  obtain ⟨ss, here, row, listed, absent, creates, written⟩ := (mem_reconfigure_writes _ _ all write).mp member
  have names := kept_result_names (runEnv state input).order _
    (add_del_result_names (runEnv state input).order (input.cfg.getD []) all tables.names)
  have found := Keyed.lookup_of_mem Subsystem.name names here
  rw [kept_lookup _ _ all tables] at found
  obtain ⟨owner, wanted, made⟩ := Option.map_eq_some_iff.mp found
  have owned := kept_subsystem_owner (runEnv state input).order (input.cfg.getD []) all ss.name owner wanted
  have ifaces := kept_subsystem_ifaces (runEnv state input).order (input.cfg.getD []) all tables ss.name owner wanted row.name
  rw [made] at owned ifaces
  rw [ifaces, Option.map_eq_none_iff] at absent
  rw [subsystemCollectWantedIfaces, owned.2, Keyed.mem_collect_iff] at listed
  obtain ⟨stale, rfl⟩ := (mem_refresh_writes _ _ _).mp written
  refine ⟨⟨row.uuid, row.name, 0⟩, (mem_wanted_entries input all _).mpr ⟨ss.name, owner, row.name, row, wanted, listed, ?_⟩,
    rfl, stale⟩
  rw [wantedEntry, absent]
  exact if_pos creates

variable (state input all) in
theorem reconfigure_handles (kept : nothingRemoved (input.cfg.getD []) all = true) :
    Handles state.netdevs (reconfigureResult (runEnv state input) (input.cfg.getD []) all).1
      (reconfigureResult (runEnv state input) (input.cfg.getD []) all).2 (wantedEntries input all) :=
  ⟨reconfigure_covered tables kept, reconfigure_present tables, reconfigure_early tables⟩

end Wanted

theorem handles_written (env : Env) (all : List Subsystem) (written : List StatusWrite) (entries : List Entry)
    (handles : Handles env.netdevs all written entries) (uuid : Uuid) :
    (∃ write ∈ written ++ (runStatusUpdate env all).2, write.1 = uuid) ↔
      ∃ entry ∈ entries, entry.uuid = uuid ∧ entry.recorded ≠ (env.netdevs entry.device).changeSeq := by
  constructor
  · rintro ⟨write, member, rfl⟩
    rcases List.mem_append.mp member with early | late
    · obtain ⟨entry, listed, made, stale⟩ := handles.early write early
      exact ⟨entry, listed, (congrArg Prod.fst made).symm, stale⟩
    · obtain ⟨ss, here, iface, present, stale, made⟩ := (mem_status_writes env all write).mp late
      obtain ⟨entry, listed, uuid, device, recorded⟩ := handles.covered ss here iface present
      refine ⟨entry, listed, uuid.trans (congrArg Prod.fst made).symm, ?_⟩
      rw [recorded stale, device]
      exact stale
  · rintro ⟨entry, listed, rfl, stale⟩
    obtain ⟨ss, here, iface, present, uuid, device, later⟩ := handles.present entry listed
    rcases later stale with pending | ⟨write, early, same⟩
    · exact ⟨(iface.cfg.uuid, statusColumns (env.netdevs iface.name)),
        List.mem_append_right _ ((mem_status_writes env all _).mpr ⟨ss, here, iface, present, pending, rfl⟩), uuid⟩
    · exact ⟨write, List.mem_append_left _ early, same⟩

theorem handles_each (written : List StatusWrite) (entries : List Entry)
    (handles : Handles netdevs all written entries) (P : Uuid → String → Prop) :
    eachIface (all.map (refreshSubsystem netdevs)) (fun iface => P iface.cfg.uuid iface.name) ↔
      ∀ entry ∈ entries, P entry.uuid entry.device := by
  rw [mem_refreshed]
  simp only [refresh_cfg, refresh_name]
  constructor
  · intro each entry listed
    obtain ⟨ss, here, iface, present, uuid, device, _⟩ := handles.present entry listed
    exact uuid ▸ device ▸ each ss here iface present
  · intro each ss here iface present
    obtain ⟨entry, listed, uuid, device, _⟩ := handles.covered ss here iface present
    exact uuid ▸ device ▸ each entry listed

theorem reconfigured_handles (tables : Tables all) (middle : List Subsystem) (written : List StatusWrite)
    (reconfigured : runReconfigure state input all = some (middle, written)) :
    (input.seqno ≠ state.idlSeqno → nothingRemoved (input.cfg.getD []) all = true) ∧
      Handles state.netdevs middle written (runEntries state input all) := by
  unfold runReconfigure at reconfigured
  unfold runEntries
  split at reconfigured
  · rename_i changed
    rw [subsystem_reconfigure_null _ _ all tables] at reconfigured
    split at reconfigured
    · rename_i kept
      have handles := reconfigure_handles state input all tables kept
      rw [Option.some.inj reconfigured] at handles
      rw [if_pos changed]
      exact ⟨fun _ => kept, handles⟩
    · cases reconfigured
  · rename_i plain
    obtain ⟨rfl, rfl⟩ := Prod.mk.inj (Option.some.inj reconfigured)
    rw [if_neg plain]
    exact ⟨fun changed => absurd changed plain, kept_handles state.netdevs all⟩

theorem ended_run (tables : Tables all) (here : state.tables = some all) (ended : List Subsystem × List StatusWrite)
    (found : runTransaction state input = some ended) :
    RunEnds state input all ∧ ∃ middle written,
      ended = (middle.map (refreshSubsystem state.netdevs), written ++ (runStatusUpdate (runEnv state input) middle).2) ∧
        Handles state.netdevs middle written (runEntries state input all) := by
  obtain ⟨before, middle, written, same, reconfigured, rest⟩ := run_transaction_cases state input ended.1 ended.2 found
  obtain rfl := Option.some.inj (here.symm.trans same)
  obtain ⟨kept, handles⟩ := reconfigured_handles state input all tables middle written reconfigured
  have configured : input.cfg.isSome = true := by
    cases cfg : input.cfg with
    | some rows => rfl
    | none => simp [runTransaction, cfg] at found
  exact ⟨⟨configured, kept⟩, middle, written, Prod.ext rest.1 rest.2, handles⟩

theorem run_ends_isSome (tables : Tables all) (here : state.tables = some all) (ends : RunEnds state input all) :
    (runTransaction state input).isSome = true := by
  obtain ⟨rows, cfg⟩ := Option.isSome_iff_exists.mp ends.1
  have reconfigured : (runReconfigure state input all).isSome = true := by
    unfold runReconfigure
    split
    · rename_i changed
      rw [subsystem_reconfigure_null _ _ all tables, if_pos (ends.2 changed)]
      rfl
    · rfl
  obtain ⟨result, done⟩ := Option.isSome_iff_exists.mp reconfigured
  simp [runTransaction, here, done, cfg]

theorem run_publishes_iff (tables : ∀ all, state.tables = some all → Tables all) :
    RunPublishes state input ↔ RunWrites state input := by
  unfold RunPublishes RunWrites
  refine imp_congr_right fun _ => ?_
  cases here : state.tables with
  | none => simp [runTransaction, here]
  | some all =>
      have ends := ended_run state input all (tables all here) here
      have each : ∀ result ∈ runTransaction state input,
          eachIface result.1 (fun iface => (input.applied = true ∧ ∃ write ∈ result.2, write.1 = iface.cfg.uuid) ∨
            Shown state iface) ↔
          ∀ entry ∈ runEntries state input all, state.db entry.uuid = statusColumns (state.netdevs entry.device) ∨
            (input.applied = true ∧ ∃ twin ∈ runEntries state input all,
              twin.uuid = entry.uuid ∧ twin.recorded ≠ (state.netdevs twin.device).changeSeq) := by
        intro result found
        obtain ⟨_, middle, written, rfl, handles⟩ := ends result found
        have writes := handles_written (runEnv state input) middle written _ handles
        refine (handles_each state.netdevs middle written _ handles (fun uuid device =>
          (input.applied = true ∧ ∃ write ∈ written ++ (runStatusUpdate (runEnv state input) middle).2, write.1 = uuid) ∨
            state.db uuid = statusColumns (state.netdevs device))).trans ?_
        simp only [writes]
        exact forall₂_congr fun entry _ => or_comm
      constructor
      · intro publishes result found
        exact (each result found).mpr (publishes all rfl (ends result found).1)
      · intro writes other same stops
        obtain rfl := Option.some.inj same
        obtain ⟨result, found⟩ := Option.isSome_iff_exists.mp (run_ends_isSome state input _ (tables _ here) here stops)
        exact (each result found).mp (writes result found)

end Publishing

end OpsSwitchd.Subsystems
