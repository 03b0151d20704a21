import OpsSwitchd.HashOrder
import OpsSwitchd.Rows
import OpsSwitchd.Runs
import OpsSwitchd.Writes

set_option autoImplicit false

namespace OpsSwitchd.Mirrors

structure MirrorRow where
  uuid : Uuid
  name : String
  active : Option Bool
  outputPort : Option String
  selectSrcPort : List String
  selectDstPort : List String
  mirrorStatus : Smap
deriving DecidableEq, Repr

structure MirrorColumn where
  rows : List MirrorRow
  unique : Keyed.Unique MirrorRow.uuid rows

structure Mirror where
  uuid : Uuid
  name : String
deriving DecidableEq, Repr

inductive OperationState where
  | active
  | shutdown
  | external
  | internal
  | noMemory
  | unknown
deriving DecidableEq, Repr

-- The array of bundles has a slot for every configured port, and the count is
-- that of the ports that were found.
structure MirrorSettings where
  name : String
  outBundle : String
  srcs : List (Option String)
  nSrcs : Nat
  dsts : List (Option String)
  nDsts : Nat

-- The key and the texts come from the schema's header.
structure StatusTexts where
  operationState : String
  text : OperationState → String

-- portLookup is mirror_port_lookup, with the bridges and VRFs of this run.
structure MirrorEnv where
  order : HashOrder
  texts : StatusTexts
  ofproto : Bool
  portLookup : String → Bool
  register : Uuid → MirrorSettings → Int
  unregister : Uuid → Int

structure MirrorWork where
  mirrors : List Mirror
  status : List (Uuid × Smap)

def mirrorStrerror (errnum : Int) : OperationState :=
  if errnum = 14 then .external else if errnum = 6 then .internal else if errnum = 12 then .noMemory else .unknown

def smapReplace (map : Smap) (name value : String) : Smap := Keyed.remove Prod.fst name map ++ [(name, value)]

def setMirrorStatus (env : MirrorEnv) (work : MirrorWork) (cfgRow : MirrorRow) (state : OperationState) : MirrorWork :=
  { work with
    status := work.status ++ [(cfgRow.uuid, smapReplace cfgRow.mirrorStatus env.texts.operationState (env.texts.text state))] }

def mirrorDestroy (env : MirrorEnv) (work : MirrorWork) (uuid : Uuid) : MirrorWork × Int :=
  ({ work with mirrors := Keyed.remove Mirror.uuid uuid work.mirrors }, if env.ofproto then env.unregister uuid else 0)

def mirrorCollectPorts (env : MirrorEnv) (inPorts : List String) : List (Option String) × Nat :=
  (inPorts.map (fun name => if env.portLookup name then some name else none), inPorts.countP env.portLookup)

-- The function returns a bool, so every error of the provider becomes 1.
def mirrorConfigure (env : MirrorEnv) (cfg : MirrorRow) : Int :=
  match cfg.outputPort with
  | none => 1
  | some port =>
      if env.portLookup port then
        let srcs := mirrorCollectPorts env cfg.selectSrcPort
        let dsts := mirrorCollectPorts env cfg.selectDstPort
        if env.register cfg.uuid ⟨cfg.name, port, srcs.1, srcs.2, dsts.1, dsts.2⟩ ≠ 0 then 1 else 0
      else 1

-- The removal loop: gone from the column, or explicitly inactive.
def removeMirror (env : MirrorEnv) (rows : List MirrorRow) (work : MirrorWork) (m : Mirror) : MirrorWork :=
  match Keyed.lookup MirrorRow.uuid m.uuid rows with
  | none => (mirrorDestroy env work m.uuid).1
  | some cfgRow =>
      if cfgRow.active = some false then
        let destroyed := mirrorDestroy env work m.uuid
        setMirrorStatus env destroyed.1 cfgRow (if destroyed.2 ≠ 0 then mirrorStrerror destroyed.2 else .shutdown)
      else work

def renameMirror (work : MirrorWork) (cfgRow : MirrorRow) : MirrorWork :=
  { work with mirrors := Keyed.replace Mirror.uuid cfgRow.uuid (fun m => { m with name := cfgRow.name }) work.mirrors }

def mirrorCreate (work : MirrorWork) (cfgRow : MirrorRow) : MirrorWork :=
  { work with mirrors := ⟨cfgRow.uuid, cfgRow.name⟩ :: work.mirrors }

def programMirror (env : MirrorEnv) (work : MirrorWork) (cfgRow : MirrorRow) : MirrorWork :=
  let named := renameMirror work cfgRow
  let err := mirrorConfigure env cfgRow
  if err = 0 then setMirrorStatus env named cfgRow .active
  else setMirrorStatus env (mirrorDestroy env named cfgRow.uuid).1 cfgRow (mirrorStrerror err)

def present (work : MirrorWork) (uuid : Uuid) : Bool := (Keyed.lookup Mirror.uuid uuid work.mirrors).isSome

-- The creation loop, for the rows that are flagged as modified.
def configureMirror (env : MirrorEnv) (modified : MirrorRow → Bool) (work : MirrorWork) (cfgRow : MirrorRow) : MirrorWork :=
  if !modified cfgRow then work
  else if present work cfgRow.uuid then programMirror env work cfgRow
  else if cfgRow.active = some true then programMirror env (mirrorCreate work cfgRow) cfgRow
  else work

def bridgeConfigureMirrors (env : MirrorEnv) (modified : MirrorRow → Bool) (rows : List MirrorRow) (mirrors : List Mirror) :
    MirrorWork :=
  rows.foldl (configureMirror env modified) ((env.order.walk mirrors).foldl (removeMirror env rows) ⟨mirrors, []⟩)

structure MirrorState where
  mirrors : List Mirror
  rows : List MirrorRow

-- touched are the rows flagged for a column that these functions do not read.
structure MirrorRun where
  env : MirrorEnv
  column : MirrorColumn
  touched : Uuid → Bool

-- The status column is registered without alerts: a change to it flags nothing.
def sameConfig (old row : MirrorRow) : Bool := decide ({ old with mirrorStatus := row.mirrorStatus } = row)

def rowModified (s : MirrorState) (run : MirrorRun) (row : MirrorRow) : Bool :=
  !s.rows.any (fun old => sameConfig old row) || run.touched row.uuid

def mirrorStep (s : MirrorState) (run : MirrorRun) : MirrorState where
  mirrors := (bridgeConfigureMirrors run.env (rowModified s run) run.column.rows s.mirrors).mirrors
  rows := run.column.rows

def noMirrors : MirrorState := ⟨[], []⟩

def OnlyActive (s : MirrorState) : Prop :=
  ∀ m ∈ s.mirrors, ∃ row ∈ s.rows, row.uuid = m.uuid ∧ row.active = some true

instance (s : MirrorState) : Decidable (OnlyActive s) :=
  inferInstanceAs (Decidable (∀ m ∈ s.mirrors, ∃ row ∈ s.rows, row.uuid = m.uuid ∧ row.active = some true))

def NotEmptied (s : MirrorState) (run : MirrorRun) : Prop :=
  ∀ row ∈ run.column.rows, row.active = none → (Keyed.lookup Mirror.uuid row.uuid s.mirrors).isSome →
    mirrorConfigure run.env row ≠ 0

def staysConfigured (rows : List MirrorRow) (uuid : Uuid) : Bool :=
  (Keyed.lookup MirrorRow.uuid uuid rows).any (fun row => row.active ≠ some false)

theorem smap_replace_get (map : Smap) (name value : String) : smapGet (smapReplace map name value) name = some value := by
  unfold smapGet smapReplace
  rw [Keyed.lookup_append, Keyed.lookup_remove_self]
  simp [Keyed.lookup]

theorem smap_replace_get_other (map : Smap) (name value key : String) (different : key ≠ name) :
    smapGet (smapReplace map name value) key = smapGet map key := by
  unfold smapGet smapReplace
  rw [Keyed.lookup_append, Keyed.lookup_remove_other Prod.fst different]
  simp [Keyed.lookup, Ne.symm different]

section Work

variable (env : MirrorEnv) (modified : MirrorRow → Bool) (db : Uuid → Smap) (work : MirrorWork)

theorem status_present (cfgRow : MirrorRow) (state : OperationState) (uuid : Uuid) :
    present (setMirrorStatus env work cfgRow state) uuid = present work uuid := rfl

theorem destroy_present (uuid other : Uuid) :
    present (mirrorDestroy env work uuid).1 other = (present work other && decide (other ≠ uuid)) := by
  unfold present mirrorDestroy
  by_cases same : other = uuid
  · subst same
    simp [Keyed.lookup_remove_self]
  · simp [Keyed.lookup_remove_other Mirror.uuid same, same]

theorem rename_present (cfgRow : MirrorRow) (uuid : Uuid) :
    present (renameMirror work cfgRow) uuid = present work uuid := by
  have kept : ∀ m ∈ work.mirrors, m.uuid = cfgRow.uuid → ({ m with name := cfgRow.name } : Mirror).uuid = m.uuid :=
    fun _ _ _ => rfl
  unfold present renameMirror
  by_cases same : uuid = cfgRow.uuid
  · rw [same]
    dsimp only
    rw [Keyed.lookup_replace_self Mirror.uuid cfgRow.uuid (fun m => { m with name := cfgRow.name }) work.mirrors kept,
      Option.isSome_map]
  · dsimp only
    rw [Keyed.lookup_replace_other Mirror.uuid same (fun m => { m with name := cfgRow.name }) work.mirrors kept]

theorem create_present (cfgRow : MirrorRow) (uuid : Uuid) :
    present (mirrorCreate work cfgRow) uuid = (decide (uuid = cfgRow.uuid) || present work uuid) := by
  unfold present mirrorCreate
  rw [Keyed.lookup_cons]
  by_cases same : cfgRow.uuid = uuid
  · simp [same]
  · simp [same, Ne.symm same]

def destroyAnswer (env : MirrorEnv) (uuid : Uuid) : Int := if env.ofproto then env.unregister uuid else 0

def written (env : MirrorEnv) (cfgRow : MirrorRow) (state : OperationState) : Smap :=
  smapReplace cfgRow.mirrorStatus env.texts.operationState (env.texts.text state)

def outcome (db : Uuid → Smap) (work : MirrorWork) (uuid : Uuid) : Bool × Smap :=
  (present work uuid, Writes.apply work.status db uuid)

def removedOutcome (env : MirrorEnv) (rows : List MirrorRow) (m : Mirror) (before : Bool × Smap) : Bool × Smap :=
  match Keyed.lookup MirrorRow.uuid m.uuid rows with
  | none => (false, before.2)
  | some cfgRow =>
      if cfgRow.active = some false then
        (false, written env cfgRow (if destroyAnswer env m.uuid ≠ 0 then mirrorStrerror (destroyAnswer env m.uuid) else .shutdown))
      else before

def programmedOutcome (env : MirrorEnv) (cfgRow : MirrorRow) : Bool × Smap :=
  (decide (mirrorConfigure env cfgRow = 0),
    written env cfgRow (if mirrorConfigure env cfgRow = 0 then .active else mirrorStrerror (mirrorConfigure env cfgRow)))

def configuredOutcome (env : MirrorEnv) (modified : MirrorRow → Bool) (cfgRow : MirrorRow) (before : Bool × Smap) :
    Bool × Smap :=
  if modified cfgRow && (before.1 || decide (cfgRow.active = some true)) then programmedOutcome env cfgRow else before

theorem set_status_here (cfgRow : MirrorRow) (state : OperationState) :
    outcome db (setMirrorStatus env work cfgRow state) cfgRow.uuid = (present work cfgRow.uuid, written env cfgRow state) := by
  unfold outcome
  rw [status_present]
  simp [setMirrorStatus, Writes.apply, written]

theorem set_status_elsewhere (cfgRow : MirrorRow) (state : OperationState) (uuid : Uuid) (different : uuid ≠ cfgRow.uuid) :
    outcome db (setMirrorStatus env work cfgRow state) uuid = outcome db work uuid := by
  unfold outcome
  rw [status_present]
  simp [setMirrorStatus, Writes.apply, Function.update_of_ne different]

theorem destroy_outcome (uuid other : Uuid) :
    outcome db (mirrorDestroy env work uuid).1 other =
      (present work other && decide (other ≠ uuid), (outcome db work other).2) := by
  unfold outcome
  rw [destroy_present]
  rfl

theorem remove_mirror_outcome_here (rows : List MirrorRow) (db : Uuid → Smap) (work : MirrorWork) (m : Mirror) :
    outcome db (removeMirror env rows work m) m.uuid = removedOutcome env rows m (outcome db work m.uuid) := by
  unfold removeMirror removedOutcome
  cases found : Keyed.lookup MirrorRow.uuid m.uuid rows with
  | none => simp [destroy_outcome]
  | some cfgRow =>
      have key : cfgRow.uuid = m.uuid := Keyed.lookup_key MirrorRow.uuid found
      by_cases inactive : cfgRow.active = some false
      · simp only [inactive, if_true]
        rw [← key, set_status_here, destroy_present]
        simp [mirrorDestroy, destroyAnswer]
      · simp [inactive]

theorem remove_mirror_outcome_elsewhere (rows : List MirrorRow) (db : Uuid → Smap) (work : MirrorWork)
    (m : Mirror) (uuid : Uuid) (different : uuid ≠ m.uuid) :
    outcome db (removeMirror env rows work m) uuid = outcome db work uuid := by
  have destroyed : outcome db (mirrorDestroy env work m.uuid).1 uuid = outcome db work uuid := by
    rw [destroy_outcome]
    simp [outcome, different]
  unfold removeMirror
  cases found : Keyed.lookup MirrorRow.uuid m.uuid rows with
  | none => exact destroyed
  | some cfgRow =>
      have key : cfgRow.uuid = m.uuid := Keyed.lookup_key MirrorRow.uuid found
      by_cases inactive : cfgRow.active = some false
      · simp only [inactive, if_true]
        rw [set_status_elsewhere env db _ cfgRow _ uuid (key ▸ different), destroyed]
      · simp [inactive]

theorem program_mirror_outcome_here (cfgRow : MirrorRow) (here : present work cfgRow.uuid = true) :
    outcome db (programMirror env work cfgRow) cfgRow.uuid = programmedOutcome env cfgRow := by
  unfold programMirror programmedOutcome
  by_cases configured : mirrorConfigure env cfgRow = 0
  · simp only [configured, if_true, set_status_here, rename_present, here, decide_true]
  · simp only [configured, if_false, set_status_here, destroy_present, decide_false]
    simp

theorem program_mirror_outcome_elsewhere (cfgRow : MirrorRow) (uuid : Uuid) (different : uuid ≠ cfgRow.uuid) :
    outcome db (programMirror env work cfgRow) uuid = outcome db work uuid := by
  have named : outcome db (renameMirror work cfgRow) uuid = outcome db work uuid := by
    unfold outcome
    rw [rename_present]
    rfl
  unfold programMirror
  by_cases configured : mirrorConfigure env cfgRow = 0
  · simp only [configured, if_true]
    rw [set_status_elsewhere env db _ cfgRow _ uuid different, named]
  · simp only [configured, if_false]
    rw [set_status_elsewhere env db _ cfgRow _ uuid different, destroy_outcome, ← named]
    simp [outcome, different]

theorem create_outcome_elsewhere (cfgRow : MirrorRow) (uuid : Uuid)
    (different : uuid ≠ cfgRow.uuid) : outcome db (mirrorCreate work cfgRow) uuid = outcome db work uuid := by
  unfold outcome
  rw [create_present]
  simp [different, mirrorCreate]

theorem configure_mirror_outcome_here (row : MirrorRow) :
    outcome db (configureMirror env modified work row) row.uuid =
      configuredOutcome env modified row (outcome db work row.uuid) := by
  unfold configureMirror configuredOutcome
  cases flagged : modified row with
  | false => simp
  | true =>
      by_cases found : present work row.uuid
      · simp [found, outcome, ← program_mirror_outcome_here env db work row found]
      · by_cases asked : row.active = some true
        · simp [found, asked, program_mirror_outcome_here env db (mirrorCreate work row) row (by simp [create_present])]
        · simp [found, asked, outcome]

theorem configure_mirror_outcome_elsewhere (row : MirrorRow) (uuid : Uuid) (different : uuid ≠ row.uuid) :
    outcome db (configureMirror env modified work row) uuid = outcome db work uuid := by
  unfold configureMirror
  cases flagged : modified row with
  | false => simp
  | true =>
      by_cases found : present work row.uuid
      · simp [found, program_mirror_outcome_elsewhere env db work row uuid different]
      · by_cases asked : row.active = some true
        · simp [found, asked, program_mirror_outcome_elsewhere env db (mirrorCreate work row) row uuid different,
            create_outcome_elsewhere db work row uuid different]
        · simp [found, asked]

theorem removal_loop_outcome (rows : List MirrorRow) (mirrors : List Mirror)
    (unique : Keyed.Unique Mirror.uuid mirrors) (db : Uuid → Smap) (uuid : Uuid) :
    outcome db ((env.order.walk mirrors).foldl (removeMirror env rows) ⟨mirrors, []⟩) uuid =
      (Keyed.lookup Mirror.uuid uuid mirrors).elim (false, db uuid) (fun m => removedOutcome env rows m (true, db uuid)) := by
  have walked := Keyed.unique_perm Mirror.uuid (env.order.perm mirrors).symm unique
  rw [Keyed.foldl_view Mirror.uuid (removeMirror env rows) (outcome db) (removedOutcome env rows) (fun _ => True) walked
    (fun _ _ _ _ => trivial) (fun work m _ _ => remove_mirror_outcome_here env rows db work m)
    (fun work m _ uuid different _ => remove_mirror_outcome_elsewhere env rows db work m uuid different) _ trivial uuid,
    Keyed.lookup_perm Mirror.uuid (env.order.perm mirrors) walked]
  cases found : Keyed.lookup Mirror.uuid uuid mirrors with
  | none => simp [outcome, present, found, Writes.apply]
  | some m => simp [outcome, present, found, Writes.apply]

theorem configure_loop_outcome (column : MirrorColumn) (db : Uuid → Smap) (work : MirrorWork) (uuid : Uuid) :
    outcome db (column.rows.foldl (configureMirror env modified) work) uuid =
      (Keyed.lookup MirrorRow.uuid uuid column.rows).elim (outcome db work uuid)
        (fun row => configuredOutcome env modified row (outcome db work uuid)) :=
  Keyed.foldl_view MirrorRow.uuid (configureMirror env modified) (outcome db) (configuredOutcome env modified)
    (fun _ => True) column.unique (fun _ _ _ _ => trivial)
    (fun work row _ _ => configure_mirror_outcome_here env modified db work row)
    (fun work row _ uuid different _ => configure_mirror_outcome_elsewhere env modified db work row uuid different) work trivial uuid

theorem removal_loop_present (rows : List MirrorRow) (mirrors : List Mirror)
    (unique : Keyed.Unique Mirror.uuid mirrors) (uuid : Uuid) :
    present ((env.order.walk mirrors).foldl (removeMirror env rows) ⟨mirrors, []⟩) uuid =
      ((Keyed.lookup Mirror.uuid uuid mirrors).isSome && staysConfigured rows uuid) := by
  refine (congrArg Prod.fst (removal_loop_outcome env rows mirrors unique (fun _ => []) uuid)).trans ?_
  cases found : Keyed.lookup Mirror.uuid uuid mirrors with
  | none => rfl
  | some m =>
      have key : m.uuid = uuid := Keyed.lookup_key Mirror.uuid found
      unfold staysConfigured
      cases row : Keyed.lookup MirrorRow.uuid uuid rows with
      | none => simp [removedOutcome, key, row]
      | some cfgRow => by_cases inactive : cfgRow.active = some false <;> simp [removedOutcome, key, row, inactive]

def configuredAfter (env : MirrorEnv) (modified : MirrorRow → Bool) (row : MirrorRow) (before : Bool) : Bool :=
  if modified row then (before || decide (row.active = some true)) && decide (mirrorConfigure env row = 0) else before

theorem configured_outcome_present (row : MirrorRow) (before : Bool × Smap) :
    (configuredOutcome env modified row before).1 = configuredAfter env modified row before.1 := by
  unfold configuredOutcome configuredAfter programmedOutcome
  cases modified row with
  | false => rfl
  | true =>
      rw [Bool.true_and, if_pos rfl]
      cases tried : before.1 || decide (row.active = some true) with
      | false => exact (Bool.or_eq_false_iff.mp tried).1
      | true => rfl

theorem configure_mirrors_present (column : MirrorColumn)
    (mirrors : List Mirror) (unique : Keyed.Unique Mirror.uuid mirrors) (uuid : Uuid) :
    present (bridgeConfigureMirrors env modified column.rows mirrors) uuid =
      (Keyed.lookup MirrorRow.uuid uuid column.rows).any (fun row => configuredAfter env modified row
        ((Keyed.lookup Mirror.uuid uuid mirrors).isSome && decide (row.active ≠ some false))) := by
  have remaining := removal_loop_present env column.rows mirrors unique uuid
  refine (congrArg Prod.fst (configure_loop_outcome env modified column (fun _ => []) _ uuid)).trans ?_
  cases found : Keyed.lookup MirrorRow.uuid uuid column.rows with
  | none =>
      refine remaining.trans ?_
      simp [staysConfigured, found]
  | some row =>
      refine (configured_outcome_present env modified row _).trans (congrArg _ (remaining.trans ?_))
      simp [staysConfigured, found]

theorem remove_mirror_unique (rows : List MirrorRow) (work : MirrorWork) (m : Mirror)
    (unique : Keyed.Unique Mirror.uuid work.mirrors) : Keyed.Unique Mirror.uuid (removeMirror env rows work m).mirrors := by
  have removed := Keyed.unique_remove Mirror.uuid unique m.uuid
  unfold removeMirror
  cases found : Keyed.lookup MirrorRow.uuid m.uuid rows with
  | none => exact removed
  | some cfgRow =>
      dsimp only
      by_cases inactive : cfgRow.active = some false
      · rw [if_pos inactive]
        exact removed
      · rw [if_neg inactive]
        exact unique

theorem program_mirror_unique (cfgRow : MirrorRow)
    (unique : Keyed.Unique Mirror.uuid work.mirrors) : Keyed.Unique Mirror.uuid (programMirror env work cfgRow).mirrors := by
  have named : Keyed.Unique Mirror.uuid (renameMirror work cfgRow).mirrors :=
    Keyed.unique_replace Mirror.uuid unique cfgRow.uuid _ (fun _ _ _ => rfl)
  unfold programMirror
  dsimp only
  split
  · exact named
  · exact Keyed.unique_remove Mirror.uuid named cfgRow.uuid

theorem configure_mirror_unique (row : MirrorRow) (unique : Keyed.Unique Mirror.uuid work.mirrors) :
    Keyed.Unique Mirror.uuid (configureMirror env modified work row).mirrors := by
  unfold configureMirror
  split
  · exact unique
  · split
    · exact program_mirror_unique env work row unique
    · rename_i absent
      split
      · have fresh : Keyed.lookup Mirror.uuid row.uuid work.mirrors = none := by simpa [present] using absent
        exact program_mirror_unique env _ row
          (Keyed.unique_cons Mirror.uuid unique ((Keyed.lookup_none_iff Mirror.uuid).mp fresh))
      · exact unique

theorem configure_mirrors_unique (rows : List MirrorRow)
    (mirrors : List Mirror) (unique : Keyed.Unique Mirror.uuid mirrors) :
    Keyed.Unique Mirror.uuid (bridgeConfigureMirrors env modified rows mirrors).mirrors := by
  refine Keyed.foldl_keeps (configureMirror env modified) (fun work => Keyed.Unique Mirror.uuid work.mirrors)
    (fun work row _ => configure_mirror_unique env modified work row) ?_
  exact Keyed.foldl_keeps (removeMirror env rows) (fun work => Keyed.Unique Mirror.uuid work.mirrors)
    (fun work m _ => remove_mirror_unique env rows work m) unique

end Work

structure MirrorInv (s : MirrorState) : Prop where
  mirrors : Keyed.Unique Mirror.uuid s.mirrors
  rows : Keyed.Unique MirrorRow.uuid s.rows
  active : OnlyActive s

theorem no_mirrors_inv : MirrorInv noMirrors where
  mirrors := Keyed.unique_nil Mirror.uuid
  rows := Keyed.unique_nil MirrorRow.uuid
  active := fun _ member => absurd member List.not_mem_nil

theorem only_active_iff_lookup (s : MirrorState) (rows : Keyed.Unique MirrorRow.uuid s.rows) :
    OnlyActive s ↔ ∀ uuid, (Keyed.lookup Mirror.uuid uuid s.mirrors).isSome →
      ∃ row, Keyed.lookup MirrorRow.uuid uuid s.rows = some row ∧ row.active = some true := by
  constructor
  · intro only uuid found
    obtain ⟨m, at_⟩ := Option.isSome_iff_exists.mp found
    obtain ⟨row, member, same, asked⟩ := only m (Keyed.lookup_mem Mirror.uuid at_)
    have key : row.uuid = uuid := same.trans (Keyed.lookup_key Mirror.uuid at_)
    exact ⟨row, key ▸ Keyed.lookup_of_mem MirrorRow.uuid rows member, asked⟩
  · intro all m member
    obtain ⟨row, found, asked⟩ := all m.uuid ((Keyed.lookup_some_iff_exists Mirror.uuid).mpr ⟨m, member, rfl⟩)
    exact ⟨row, Keyed.lookup_mem MirrorRow.uuid found, Keyed.lookup_key MirrorRow.uuid found, asked⟩

theorem emptied_row_modified (s : MirrorState) (run : MirrorRun) (inv : MirrorInv s) (row : MirrorRow)
    (empty : row.active = none) (before : (Keyed.lookup Mirror.uuid row.uuid s.mirrors).isSome) :
    rowModified s run row = true := by
  obtain ⟨last, found, asked⟩ := (only_active_iff_lookup s inv.rows).mp inv.active row.uuid before
  unfold rowModified
  rw [Bool.or_eq_true, Bool.not_eq_true', List.any_eq_false]
  left
  intro old member same
  have config : { old with mirrorStatus := row.mirrorStatus } = row := by simpa [sameConfig] using same
  have uuid : old.uuid = row.uuid := by rw [← config]
  have active : old.active = row.active := by rw [← config]
  have here := Keyed.lookup_of_mem MirrorRow.uuid inv.rows member
  rw [uuid, found, Option.some.injEq] at here
  rw [here, active, empty] at asked
  cases asked

theorem mirror_step_only_active (s : MirrorState) (run : MirrorRun) (inv : MirrorInv s) :
    OnlyActive (mirrorStep s run) ↔ NotEmptied s run := by
  have after := configure_mirrors_present run.env (rowModified s run) run.column s.mirrors inv.mirrors
  rw [only_active_iff_lookup (mirrorStep s run) run.column.unique]
  constructor
  · intro all row member empty before configured
    have found := Keyed.lookup_of_mem MirrorRow.uuid run.column.unique member
    have flagged := emptied_row_modified s run inv row empty before
    have stays : present (bridgeConfigureMirrors run.env (rowModified s run) run.column.rows s.mirrors) row.uuid = true := by
      rw [after row.uuid, found]
      simp [configuredAfter, flagged, before, empty, configured]
    obtain ⟨other, same, asked⟩ := all row.uuid stays
    have agree : row = other := Option.some.inj (found.symm.trans same)
    rw [← agree, empty] at asked
    cases asked
  · intro kept uuid stays
    have here := (after uuid).symm.trans stays
    obtain ⟨row, found, configured⟩ := (Option.any_eq_true _ _).mp here
    refine ⟨row, found, ?_⟩
    have member := Keyed.lookup_mem MirrorRow.uuid found
    have key := Keyed.lookup_key MirrorRow.uuid found
    cases active : row.active with
    | none =>
        have before : (Keyed.lookup Mirror.uuid row.uuid s.mirrors).isSome := by
          rw [key]
          by_contra absent
          simp [configuredAfter, active, absent] at configured
        have flagged := emptied_row_modified s run inv row active before
        have refused := kept row member active before
        simp [configuredAfter, flagged, refused] at configured
    | some value =>
        cases value with
        | true => rfl
        | false => simp [configuredAfter, active] at configured

theorem mirror_step_inv (s : MirrorState) (run : MirrorRun) (inv : MirrorInv s) (kept : NotEmptied s run) :
    MirrorInv (mirrorStep s run) where
  mirrors := configure_mirrors_unique run.env (rowModified s run) run.column.rows s.mirrors inv.mirrors
  rows := run.column.unique
  active := (mirror_step_only_active s run inv).mpr kept

theorem mirrors_only_active_iff (runs : List MirrorRun) :
    Runs.Always mirrorStep OnlyActive noMirrors runs ↔ Runs.Along mirrorStep NotEmptied noMirrors runs := by
  refine Runs.always_iff_along (fun s inv => inv.active) (fun s run inv (_ : True) kept => mirror_step_inv s run inv kept)
    (fun s run inv _ only => (mirror_step_only_active s run inv).mp only) no_mirrors_inv (fun _ _ _ _ => trivial)

def listedEnv : MirrorEnv where
  order := HashOrder.listed
  texts := ⟨"operation_state", fun _ => ""⟩
  ofproto := true
  portLookup := fun _ => true
  register := fun _ _ => 0
  unregister := fun _ => 0

def oneMirror (active : Option Bool) : MirrorRun where
  env := listedEnv
  column := ⟨[⟨1, "span", active, some "7", ["1"], [], []⟩], List.nodup_singleton _⟩
  touched := fun _ => false

-- true, then no value: the removal loop wants false, and the creation loop
-- programs the flagged row again.
theorem emptied_mirror_stays : ¬ ∀ runs, Runs.Always mirrorStep OnlyActive noMirrors runs := by
  intro all
  exact absurd (all [oneMirror (some true), oneMirror none] _ [] (List.append_nil _).symm) (by decide)

end OpsSwitchd.Mirrors
