import OpsSwitchd.Mirrors

set_option autoImplicit false

namespace OpsSwitchd.Mirrors

def registerAnswer (env : MirrorEnv) (cfg : MirrorRow) : Option Int :=
  match cfg.outputPort with
  | none => none
  | some port =>
      if env.portLookup port then
        let srcs := mirrorCollectPorts env cfg.selectSrcPort
        let dsts := mirrorCollectPorts env cfg.selectDstPort
        some (env.register cfg.uuid ⟨cfg.name, port, srcs.1, srcs.2, dsts.1, dsts.2⟩)
      else none

theorem configure_answer (env : MirrorEnv) (cfg : MirrorRow) (e : Int) (answered : registerAnswer env cfg = some e) :
    mirrorConfigure env cfg = if e ≠ 0 then 1 else 0 := by
  unfold registerAnswer at answered
  unfold mirrorConfigure
  cases output : cfg.outputPort with
  | none => simp [output] at answered
  | some port =>
      by_cases found : env.portLookup port
      · simp only [output, found, if_true, Option.some.injEq] at answered
        simp only [found, if_true, answered]
      · simp [output, found] at answered

def attempted (modified : MirrorRow → Bool) (mirrors : List Mirror) (row : MirrorRow) : Bool :=
  modified row && ((Keyed.lookup Mirror.uuid row.uuid mirrors).isSome && decide (row.active ≠ some false) ||
    decide (row.active = some true))

theorem attempted_outcome (env : MirrorEnv) (modified : MirrorRow → Bool) (column : MirrorColumn) (mirrors : List Mirror)
    (unique : Keyed.Unique Mirror.uuid mirrors) (db : Uuid → Smap) (row : MirrorRow) (member : row ∈ column.rows)
    (tried : attempted modified mirrors row = true) :
    outcome db (bridgeConfigureMirrors env modified column.rows mirrors) row.uuid = programmedOutcome env row := by
  have here := Keyed.lookup_of_mem MirrorRow.uuid column.unique member
  unfold bridgeConfigureMirrors
  rw [configure_loop_outcome, here, Option.elim_some, removal_loop_outcome env column.rows mirrors unique db]
  unfold configuredOutcome
  unfold attempted at tried
  rw [Bool.and_eq_true] at tried
  refine if_pos ?_
  rw [tried.1, Bool.true_and]
  cases found : Keyed.lookup Mirror.uuid row.uuid mirrors with
  | none => simpa [found] using tried.2
  | some m =>
      have key : m.uuid = row.uuid := Keyed.lookup_key Mirror.uuid found
      by_cases inactive : row.active = some false
      · simp [found, inactive] at tried
      · simp [removedOutcome, key, here, inactive]

theorem disabled_outcome (env : MirrorEnv) (modified : MirrorRow → Bool) (column : MirrorColumn) (mirrors : List Mirror)
    (unique : Keyed.Unique Mirror.uuid mirrors) (db : Uuid → Smap) (row : MirrorRow) (member : row ∈ column.rows)
    (inactive : row.active = some false) (before : (Keyed.lookup Mirror.uuid row.uuid mirrors).isSome)
    (failed : destroyAnswer env row.uuid ≠ 0) :
    outcome db (bridgeConfigureMirrors env modified column.rows mirrors) row.uuid =
      (false, written env row (mirrorStrerror (destroyAnswer env row.uuid))) := by
  have here := Keyed.lookup_of_mem MirrorRow.uuid column.unique member
  obtain ⟨m, found⟩ := Option.isSome_iff_exists.mp before
  have key : m.uuid = row.uuid := Keyed.lookup_key Mirror.uuid found
  unfold bridgeConfigureMirrors
  rw [configure_loop_outcome, here, Option.elim_some, removal_loop_outcome env column.rows mirrors unique db, found]
  simp [configuredOutcome, removedOutcome, key, here, inactive, failed]

def Reported (env : MirrorEnv) (db : Uuid → Smap) (work : MirrorWork) (uuid : Uuid) (e : Int) : Prop :=
  smapGet (Writes.apply work.status db uuid) env.texts.operationState = some (env.texts.text (mirrorStrerror e)) ∧
    present work uuid = false

structure FailuresReported (env : MirrorEnv) (modified : MirrorRow → Bool) (rows : List MirrorRow) (mirrors : List Mirror)
    (db : Uuid → Smap) : Prop where
  registered : ∀ row ∈ rows, attempted modified mirrors row → ∀ e, registerAnswer env row = some e → e ≠ 0 →
    Reported env db (bridgeConfigureMirrors env modified rows mirrors) row.uuid e
  unregistered : ∀ row ∈ rows, row.active = some false → (Keyed.lookup Mirror.uuid row.uuid mirrors).isSome →
    destroyAnswer env row.uuid ≠ 0 →
    Reported env db (bridgeConfigureMirrors env modified rows mirrors) row.uuid (destroyAnswer env row.uuid)

theorem written_state (env : MirrorEnv) (cfgRow : MirrorRow) (state : OperationState) :
    smapGet (written env cfgRow state) env.texts.operationState = some (env.texts.text state) :=
  smap_replace_get cfgRow.mirrorStatus env.texts.operationState (env.texts.text state)

theorem reported_of_outcome (env : MirrorEnv) (db : Uuid → Smap) (work : MirrorWork) (cfgRow : MirrorRow)
    (state : OperationState) (e : Int) (result : outcome db work cfgRow.uuid = (false, written env cfgRow state)) :
    Reported env db work cfgRow.uuid e ↔ env.texts.text state = env.texts.text (mirrorStrerror e) := by
  unfold outcome at result
  obtain ⟨gone, status⟩ := Prod.mk.inj result
  unfold Reported
  rw [status, written_state, gone, Option.some.injEq, and_iff_left rfl]

-- 1 is not among the errors that have a text of their own.
theorem failed_register_outcome (env : MirrorEnv) (cfgRow : MirrorRow) (e : Int) (answered : registerAnswer env cfgRow = some e)
    (failed : e ≠ 0) : programmedOutcome env cfgRow = (false, written env cfgRow .unknown) := by
  unfold programmedOutcome
  rw [configure_answer env cfgRow e answered, if_pos failed]
  rfl

theorem failures_reported_iff (env : MirrorEnv) (modified : MirrorRow → Bool) (column : MirrorColumn) (mirrors : List Mirror)
    (unique : Keyed.Unique Mirror.uuid mirrors) (db : Uuid → Smap) :
    FailuresReported env modified column.rows mirrors db ↔
      ∀ row ∈ column.rows, attempted modified mirrors row → ∀ e, registerAnswer env row = some e → e ≠ 0 →
        env.texts.text .unknown = env.texts.text (mirrorStrerror e) := by
  have programmed : ∀ row ∈ column.rows, attempted modified mirrors row → ∀ e, registerAnswer env row = some e → e ≠ 0 →
      (Reported env db (bridgeConfigureMirrors env modified column.rows mirrors) row.uuid e ↔
        env.texts.text .unknown = env.texts.text (mirrorStrerror e)) := by
    intro row member tried e answered failed
    refine reported_of_outcome env db _ row .unknown e ?_
    rw [attempted_outcome env modified column mirrors unique db row member tried]
    exact failed_register_outcome env row e answered failed
  constructor
  · intro reported row member tried e answered failed
    exact (programmed row member tried e answered failed).mp (reported.registered row member tried e answered failed)
  · intro same
    refine ⟨fun row member tried e answered failed =>
      (programmed row member tried e answered failed).mpr (same row member tried e answered failed), ?_⟩
    intro row member inactive before failed
    exact (reported_of_outcome env db _ row _ _
      (disabled_outcome env modified column mirrors unique db row member inactive before failed)).mpr rfl

def plainTexts : StatusTexts where
  operationState := "operation_state"
  text := fun state => match state with
    | .active => "active"
    | .shutdown => "shutdown"
    | .external => "external error"
    | .internal => "internal error"
    | .noMemory => "Cannot allocate memory"
    | .unknown => "unknown error"

def refusingEnv (answer : Int) : MirrorEnv := { listedEnv with texts := plainTexts, register := fun _ _ => answer }

theorem io_error_reported : FailuresReported (refusingEnv 5) (fun _ => true) (oneMirror (some true)).column.rows [] (fun _ => []) :=
  (failures_reported_iff (refusingEnv 5) (fun _ => true) (oneMirror (some true)).column [] (Keyed.unique_nil Mirror.uuid)
    (fun _ => [])).mpr (by
      intro row member _ e answered _
      obtain rfl : row = ⟨1, "span", some true, some "7", ["1"], [], []⟩ := List.mem_singleton.mp member
      obtain rfl : 5 = e := Option.some.inj answered
      rfl)

theorem fault_reported_unknown :
    ¬ FailuresReported (refusingEnv 14) (fun _ => true) (oneMirror (some true)).column.rows [] (fun _ => []) := by
  intro reported
  have state := (reported.registered _ List.mem_cons_self (by decide) 14 (by decide) (by decide)).1
  exact absurd state (by decide)

end OpsSwitchd.Mirrors
