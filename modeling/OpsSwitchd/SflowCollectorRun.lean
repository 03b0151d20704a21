import OpsSwitchd.Runs
import OpsSwitchd.SflowCollectors

set_option autoImplicit false

namespace OpsSwitchd.Sflow

open CText (strtok atoi decimal)

def written (target : List Char) : Collector :=
  match target.splitOnP (fun c => decide (c = '/')) with
  | [ip] => ⟨ip, none, none⟩
  | [ip, field] => if field = defaultVrfName then ⟨ip, none, some field⟩ else ⟨ip, some field, none⟩
  | [ip, port, vrf] => ⟨ip, some port, some vrf⟩
  | _ => ⟨target, none, none⟩

def denoted (c : Collector) : List Char × Int × List Char :=
  (c.ip, (c.port.map atoi).getD defaultCollectorPort, c.vrf.getD defaultVrfName)

structure RangeArg (low high : Int) where
  text : List Char
  within : low ≤ atoi text ∧ atoi text ≤ high

structure PortArg extends RangeArg 0 65535 where
  typed : PortText text

structure Command where
  set : Bool
  ip : List Char
  port : Option PortArg
  vrf : Option (List Char)

-- The port is kept as it was typed.
def Command.collector (cmd : Command) : Collector := ⟨cmd.ip, cmd.port.map (fun arg => arg.text), cmd.vrf⟩

def collectorStep (parser : AddressParser) (table : SflowTable) (cmd : Command) : SflowTable :=
  (sflowSetCollector parser table cmd.collector cmd.set).table

-- The test of sflow_collector_add for a collector that is present.
def Detects (c : Collector) (target : List Char) : Prop := (tokens target).ip = some c.ip ∧ (tokens target).port = c.port

instance (c : Collector) (target : List Char) : Decidable (Detects c target) := inferInstanceAs (Decidable (_ ∧ _))

theorem port_not_vrf (text : List Char) (port : PortText text) : text ≠ defaultVrfName := by
  rintro rfl
  exact absurd port.numeral (by decide)

theorem split_last (field : List Char) (plain : '/' ∉ field) : field.splitOnP (fun c => decide (c = '/')) = [field] := by
  refine List.splitOnP_eq_singleton (fun c member => ?_)
  rw [decide_eq_false_iff_not]
  exact fun same => plain (same ▸ member)

theorem split_field (field rest : List Char) (plain : '/' ∉ field) :
    (field ++ '/' :: rest).splitOnP (fun c => decide (c = '/')) = field :: rest.splitOnP (fun c => decide (c = '/')) := by
  rw [List.splitOnP_append_cons field rest (by simp), split_last field plain]
  rfl

theorem written_text (c : Collector) (valid : ValidCollector c) : written (collectorText c) = c := by
  rw [collector_text_eq c valid]
  obtain ⟨ip, port, vrf⟩ := c
  have first := fun rest => split_field ip rest valid.plain
  unfold written joinedFields
  cases port with
  | none =>
      cases vrf with
      | none => simp only [split_last ip valid.plain]
      | some text =>
          obtain rfl := valid.vrf text rfl
          simp only [first, split_last defaultVrfName default_vrf_plain, if_true]
  | some text =>
      have plain := port_plain text (valid.port text rfl)
      cases vrf with
      | none => simp only [first, split_last text plain, port_not_vrf text (valid.port text rfl), if_false]
      | some name =>
          obtain rfl := valid.vrf name rfl
          simp only [first, split_field text defaultVrfName plain, split_last defaultVrfName default_vrf_plain]

theorem denoted_valid (c : Collector) (valid : ValidCollector c) :
    denoted c = (c.ip, (c.port.map atoi).getD defaultCollectorPort, defaultVrfName) := by
  unfold denoted
  cases vrf : c.vrf with
  | none => rfl
  | some text => rw [valid.vrf text vrf, Option.getD_some]

theorem detects_iff (c w : Collector) (valid : ValidCollector w) :
    Detects c (collectorText w) ↔ w.ip = c.ip ∧ w.port.or w.vrf = c.port := by
  unfold Detects
  rw [tokens_joined w valid, Option.some.injEq]

theorem detected_port (c w : Collector) (valid : ValidCollector c) (wellFormed : ValidCollector w)
    (same : w.port.or w.vrf = c.port) : w.port = c.port ∧ (c.port = none → w.vrf = none) := by
  cases port : w.port with
  | some text =>
      rw [port, Option.some_or] at same
      refine ⟨same, fun absent => ?_⟩
      rw [absent] at same
      cases same
  | none =>
      rw [port, Option.none_or] at same
      cases vrf : w.vrf with
      | none => exact ⟨vrf ▸ same, fun _ => rfl⟩
      | some name =>
          rw [vrf] at same
          exact absurd (wellFormed.vrf name vrf) (port_not_vrf name (valid.port name same.symm))

theorem detected_denoted (c w : Collector) (valid : ValidCollector c) (wellFormed : ValidCollector w)
    (detects : Detects c (collectorText w)) : denoted w = denoted c := by
  obtain ⟨ip, second⟩ := (detects_iff c w wellFormed).mp detects
  rw [denoted_valid c valid, denoted_valid w wellFormed, ip, (detected_port c w valid wellFormed second).1]

theorem add_check_none_iff (nTargets : Nat) (c : Collector) (target : List Char) (room : nTargets ≠ 3) :
    collectorAddCheck nTargets c target = none ↔ ¬ Detects c target := by
  unfold collectorAddCheck Detects
  by_cases ip : (tokens target).ip = some c.ip
  · rw [if_pos ip, and_iff_right ip]
    cases token : (tokens target).port with
    | none => cases port : c.port <;> simp
    | some text =>
        cases port : c.port with
        | none => simp
        | some given =>
            by_cases same : given = text
            · simp [same]
            · simp [same, room, Ne.symm same]
  · simp [ip]

theorem command_add (targets : List (List Char)) (c : Collector) :
    commandTargets targets c true =
      if targets.length = 3 ∨ ∃ target ∈ targets, Detects c target then targets
      else SetColumn.stored (targets ++ [collectorText c]) := by
  unfold commandTargets sflowCollectorAdd
  rw [if_pos rfl]
  by_cases full : targets.length = 3
  · rw [if_pos (Or.inl full)]
    cases targets.findSome? (collectorAddCheck targets.length c) <;> simp [full]
  · have checks := fun target => add_check_none_iff targets.length c target full
    by_cases present : ∃ target ∈ targets, Detects c target
    · rw [if_pos (Or.inr present)]
      cases found : targets.findSome? (collectorAddCheck targets.length c) with
      | some text => rfl
      | none =>
          obtain ⟨target, member, detects⟩ := present
          exact absurd detects ((checks target).mp (List.findSome?_eq_none_iff.mp found target member))
    · have found : targets.findSome? (collectorAddCheck targets.length c) = none :=
        List.findSome?_eq_none_iff.mpr (fun target member =>
          (checks target).mpr (fun detects => present ⟨target, member, detects⟩))
      rw [found, if_neg (not_or.mpr ⟨full, present⟩)]
      simp only [if_neg full]

theorem command_remove (targets : List (List Char)) (c : Collector) (kept : SetColumn.stored targets = targets) :
    commandTargets targets c false = SetColumn.stored (targets.filter (fun target => decide (collectorText c ≠ target))) := by
  unfold commandTargets sflowCollectorRemove
  rw [if_neg Bool.false_ne_true]
  by_cases empty : targets.length = 0
  · rw [if_pos empty, List.length_eq_zero_iff.mp empty]
    rfl
  · rw [if_neg empty]
    by_cases member : collectorText c ∈ targets
    · rw [if_pos member]
    · have all : targets.filter (fun target => decide (collectorText c ≠ target)) = targets :=
        List.filter_eq_self.mpr (fun target inside => decide_eq_true (fun same => member (same ▸ inside)))
      rw [if_neg member, all, kept]

structure TargetsInv (targets : List (List Char)) : Prop where
  kept : SetColumn.stored targets = targets
  bounded : targets.length ≤ 3
  texts : ∀ target ∈ targets, ValidCollector (written target) ∧ collectorText (written target) = target
  distinct : ∀ a ∈ targets, ∀ b ∈ targets, denoted (written a) = denoted (written b) → a = b

def CollectorsDistinct (table : SflowTable) : Prop :=
  (targetsOf table).length ≤ 3 ∧
    ∀ a ∈ targetsOf table, ∀ b ∈ targetsOf table, a ≠ b → denoted (written a) ≠ denoted (written b)

instance (table : SflowTable) : Decidable (CollectorsDistinct table) := inferInstanceAs (Decidable (_ ∧ _))

def DuplicateIgnored (parser : AddressParser) (table : SflowTable) (cmd : Command) : Prop :=
  cmd.set = true → (∃ target ∈ targetsOf table, denoted (written target) = denoted cmd.collector) →
    targetsOf (collectorStep parser table cmd) = targetsOf table

def AdditionUndone (parser : AddressParser) (table : SflowTable) (cmd : Command) : Prop :=
  cmd.set = true → (∀ target ∈ targetsOf table, denoted (written target) ≠ denoted cmd.collector) →
    targetsOf (collectorStep parser (collectorStep parser table cmd) { cmd with set := false }) = targetsOf table

-- While there is room, a collector that is present is asked for again with its
-- port typed the same way; one without a port is not asked for without its VRF
-- if it was added with it.
def SpelledAlike (parser : AddressParser) (table : SflowTable) (cmd : Command) : Prop :=
  cmd.set = true → Accepts parser cmd.collector → (targetsOf table).length < 3 →
    ∀ target ∈ targetsOf table, denoted (written target) = denoted cmd.collector →
      (written target).port = cmd.collector.port ∧
        (cmd.collector.port = none → (written target).vrf = none ∨ (written target).vrf = cmd.vrf)

section Commands

variable (parser : AddressParser) (table : SflowTable) (cmd : Command)

theorem command_valid (accepts : Accepts parser cmd.collector) :
    ValidCollector cmd.collector := by
  refine accepted_valid parser cmd.collector accepts ?_
  intro text member
  obtain ⟨arg, _, rfl⟩ := Option.map_eq_some_iff.mp member
  exact arg.typed

theorem present_detected (targets : List (List Char)) (inv : TargetsInv targets) (c : Collector) (valid : ValidCollector c)
    (target : List Char) (member : target ∈ targets) (detects : Detects c target) :
    denoted (written target) = denoted c ∧ (written target).port = c.port ∧ (c.port = none → (written target).vrf = none) := by
  obtain ⟨wellFormed, text⟩ := inv.texts target member
  rw [← text] at detects
  obtain ⟨_, second⟩ := (detects_iff c (written target) wellFormed).mp detects
  exact ⟨detected_denoted c (written target) valid wellFormed detects, detected_port c (written target) valid wellFormed second⟩

theorem stored_member (targets : List (List Char)) (inv : TargetsInv targets) (c : Collector) (member : collectorText c ∈ targets) :
    SetColumn.stored (targets ++ [collectorText c]) = targets := by
  conv_rhs => rw [← inv.kept]
  refine SetColumn.stored_congr (fun target => ?_)
  rw [List.mem_append, List.mem_singleton]
  exact ⟨fun either => either.elim id (fun same => same ▸ member), Or.inl⟩

theorem command_adds (targets : List (List Char)) (c : Collector) (room : targets.length < 3)
    (absent : ¬ ∃ target ∈ targets, Detects c target) :
    commandTargets targets c true = SetColumn.stored (targets ++ [collectorText c]) := by
  rw [command_add, if_neg (not_or.mpr ⟨Nat.ne_of_lt room, absent⟩)]

theorem missed_vrf (c other : Collector) (valid : ValidCollector other) (ip : other.ip = c.ip) (port : other.port = c.port)
    (missed : ¬ Detects c (collectorText other)) : c.port = none ∧ other.vrf ≠ none := by
  rw [detects_iff c other valid, port, not_and] at missed
  cases given : c.port with
  | some text => exact absurd (by rw [given, Option.some_or]) (missed ip)
  | none =>
      refine ⟨rfl, fun absent => missed ip ?_⟩
      rw [given, absent, Option.none_or]

theorem duplicate_unchanged_iff (targets : List (List Char)) (inv : TargetsInv targets) (c : Collector) (valid : ValidCollector c)
    (room : targets.length < 3) (target : List Char) (member : target ∈ targets)
    (same : denoted (written target) = denoted c) :
    commandTargets targets c true = targets ↔
      (written target).port = c.port ∧ (c.port = none → (written target).vrf = none ∨ (written target).vrf = c.vrf) := by
  obtain ⟨wellFormed, text⟩ := inv.texts target member
  have ip : (written target).ip = c.ip := congrArg Prod.fst same
  by_cases present : ∃ other ∈ targets, Detects c other
  · rw [command_add, if_pos (Or.inr present)]
    refine ⟨fun _ => ?_, fun _ => rfl⟩
    obtain ⟨other, inside, detects⟩ := present
    obtain ⟨agrees, port, vrf⟩ := present_detected targets inv c valid other inside detects
    obtain rfl := inv.distinct other inside target member (agrees.trans same.symm)
    exact ⟨port, fun absent => Or.inl (vrf absent)⟩
  · rw [command_adds targets c room present]
    constructor
    · intro unchanged
      have added : collectorText c ∈ targets := by
        rw [← unchanged, SetColumn.mem_stored]
        simp
      have fields := written_text c valid
      obtain rfl := inv.distinct (collectorText c) added target member (by rw [fields, same])
      rw [fields]
      exact ⟨rfl, fun _ => Or.inr rfl⟩
    · rintro ⟨port, vrf⟩
      have missed : ¬ Detects c (collectorText (written target)) := fun detects =>
        present ⟨target, member, text ▸ detects⟩
      have bare := missed_vrf c (written target) wellFormed ip port missed
      have whole : written target = c := Collector.ext ip port ((vrf bare.1).resolve_left bare.2)
      exact stored_member targets inv c (by rw [← whole, text]; exact member)

theorem step_targets (accepts : Accepts parser cmd.collector) :
    targetsOf (collectorStep parser table cmd) = commandTargets (targetsOf table) cmd.collector cmd.set :=
  set_collector_targets parser table cmd.collector cmd.set accepts

theorem step_rejected (rejects : ¬ Accepts parser cmd.collector) :
    collectorStep parser table cmd = table :=
  set_collector_rejected parser table cmd.collector cmd.set rejects

theorem targets_inv_subset (targets smaller : List (List Char)) (inv : TargetsInv targets) (subset : ∀ t ∈ smaller, t ∈ targets)
    (short : smaller.length ≤ targets.length) : TargetsInv (SetColumn.stored smaller) where
  kept := SetColumn.stored_stored smaller
  bounded := Nat.le_trans (SetColumn.length_stored_le smaller) (Nat.le_trans short inv.bounded)
  texts := fun target member => inv.texts target (subset target (SetColumn.mem_stored.mp member))
  distinct := fun a inA b inB => inv.distinct a (subset a (SetColumn.mem_stored.mp inA)) b (subset b (SetColumn.mem_stored.mp inB))

theorem targets_inv_added (targets : List (List Char)) (inv : TargetsInv targets) (c : Collector) (valid : ValidCollector c)
    (room : targets.length < 3) (fresh : ∀ target ∈ targets, denoted (written target) ≠ denoted c) :
    TargetsInv (SetColumn.stored (targets ++ [collectorText c])) := by
  have fields := written_text c valid
  have cases_ : ∀ target ∈ SetColumn.stored (targets ++ [collectorText c]), target ∈ targets ∨ target = collectorText c := by
    intro target member
    rwa [SetColumn.mem_stored, List.mem_append, List.mem_singleton] at member
  refine ⟨SetColumn.stored_stored _, ?_, ?_, ?_⟩
  · refine Nat.le_trans (SetColumn.length_stored_le _) ?_
    rw [List.length_append, List.length_singleton]
    exact room
  · intro target member
    rcases cases_ target member with old | rfl
    · exact inv.texts target old
    · rw [fields]
      exact ⟨valid, rfl⟩
  · intro a inA b inB same
    rcases cases_ a inA with oldA | rfl
    · rcases cases_ b inB with oldB | rfl
      · exact inv.distinct a oldA b oldB same
      · rw [fields] at same
        exact absurd same (fresh a oldA)
    · rcases cases_ b inB with oldB | rfl
      · rw [fields] at same
        exact absurd same.symm (fresh b oldB)
      · rfl

theorem duplicate_ignored_iff (inv : TargetsInv (targetsOf table)) :
    DuplicateIgnored parser table cmd ↔ SpelledAlike parser table cmd := by
  constructor
  · intro ignored set accepts room target member same
    have unchanged := ignored set ⟨target, member, same⟩
    rw [step_targets parser table cmd accepts, set] at unchanged
    exact (duplicate_unchanged_iff (targetsOf table) inv cmd.collector (command_valid parser cmd accepts) room target member same).mp
      unchanged
  · rintro alike set ⟨target, member, same⟩
    by_cases accepts : Accepts parser cmd.collector
    · rw [step_targets parser table cmd accepts, set]
      by_cases full : (targetsOf table).length = 3
      · rw [command_add, if_pos (Or.inl full)]
      · have room : (targetsOf table).length < 3 := Nat.lt_of_le_of_ne inv.bounded full
        exact (duplicate_unchanged_iff (targetsOf table) inv cmd.collector (command_valid parser cmd accepts) room target member
          same).mpr (alike set accepts room target member same)
    · rw [step_rejected parser table cmd accepts]

theorem step_inv (inv : TargetsInv (targetsOf table))
    (alike : SpelledAlike parser table cmd) : TargetsInv (targetsOf (collectorStep parser table cmd)) := by
  by_cases accepts : Accepts parser cmd.collector
  · cases set : cmd.set with
    | false =>
        rw [step_targets parser table cmd accepts, set, command_remove (targetsOf table) cmd.collector inv.kept]
        exact targets_inv_subset (targetsOf table) _ inv (fun target member => (List.mem_filter.mp member).1)
          (List.length_filter_le _ _)
    | true =>
        by_cases known : ∃ target ∈ targetsOf table, denoted (written target) = denoted cmd.collector
        · rw [(duplicate_ignored_iff parser table cmd inv).mpr alike set known]
          exact inv
        · rw [step_targets parser table cmd accepts, set]
          rcases add_cases (targetsOf table) cmd.collector with same | ⟨notFull, added⟩
          · rw [same]
            exact inv
          · rw [added]
            exact targets_inv_added (targetsOf table) inv cmd.collector (command_valid parser cmd accepts)
              (Nat.lt_of_le_of_ne inv.bounded notFull) (fun target member same => known ⟨target, member, same⟩)
  · rw [step_rejected parser table cmd accepts]
    exact inv

theorem addition_undone (inv : TargetsInv (targetsOf table)) :
    AdditionUndone parser table cmd := by
  intro set fresh
  by_cases accepts : Accepts parser cmd.collector
  · have valid := command_valid parser cmd accepts
    have absent : collectorText cmd.collector ∉ targetsOf table := by
      intro member
      exact fresh _ member (by rw [written_text cmd.collector valid])
    have kept : SetColumn.stored (targetsOf (collectorStep parser table cmd)) = targetsOf (collectorStep parser table cmd) := by
      refine (step_inv parser table cmd inv ?_).kept
      exact fun _ _ _ target member same => absurd same (fresh target member)
    have removed := step_targets parser (collectorStep parser table cmd) { cmd with set := false } accepts
    rw [removed]
    dsimp only
    rw [show Command.collector { cmd with set := false } = cmd.collector from rfl,
      command_remove _ cmd.collector kept, ← inv.kept]
    refine SetColumn.stored_congr (fun target => ?_)
    rw [List.mem_filter, decide_eq_true_eq, step_targets parser table cmd accepts, set]
    have others : target ∈ targetsOf table → collectorText cmd.collector ≠ target := fun member same => absent (same ▸ member)
    rcases add_cases (targetsOf table) cmd.collector with same | ⟨_, added⟩
    · rw [same]
      exact ⟨And.left, fun member => ⟨member, others member⟩⟩
    · rw [added, SetColumn.mem_stored, List.mem_append, List.mem_singleton]
      exact ⟨fun both => both.1.resolve_right (Ne.symm both.2), fun member => ⟨Or.inl member, others member⟩⟩
  · have rejects : ¬ Accepts parser (Command.collector { cmd with set := false }) := accepts
    rw [step_rejected parser _ { cmd with set := false } rejects, step_rejected parser table cmd accepts]

theorem inv_distinct (inv : TargetsInv (targetsOf table)) : CollectorsDistinct table :=
  ⟨inv.bounded, fun a inA b inB different same => different (inv.distinct a inA b inB same)⟩

end Commands

theorem empty_targets_inv : TargetsInv [] where
  kept := SetColumn.stored_nil
  bounded := Nat.zero_le 3
  texts := fun _ member => absurd member List.not_mem_nil
  distinct := fun _ member => absurd member List.not_mem_nil

theorem collectors_distinct_iff (parser : AddressParser) (start : SflowTable) (empty : targetsOf start = []) (cmds : List Command) :
    (Runs.Always (collectorStep parser) CollectorsDistinct start cmds ∧
        Runs.Along (collectorStep parser)
          (fun table cmd => DuplicateIgnored parser table cmd ∧ AdditionUndone parser table cmd) start cmds) ↔
      Runs.Along (collectorStep parser) (SpelledAlike parser) start cmds := by
  have initial : TargetsInv (targetsOf start) := empty ▸ empty_targets_inv
  have conditions : Runs.Along (collectorStep parser)
      (fun table cmd => DuplicateIgnored parser table cmd ∧ AdditionUndone parser table cmd) start cmds ↔
      Runs.Along (collectorStep parser) (SpelledAlike parser) start cmds := by
    refine Runs.along_congr (fun table cmd inv => ?_) (step_inv parser) initial
    rw [duplicate_ignored_iff parser table cmd inv]
    exact and_iff_left (addition_undone parser table cmd inv)
  rw [conditions]
  refine and_iff_right_of_imp (fun alike => ?_)
  exact Runs.always_mono inv_distinct (Runs.invariant_always (step_inv parser) initial alike)

def addSample (port : Option PortArg) (vrf : Option (List Char)) : Command := ⟨true, sampleIp, port, vrf⟩

def typedPort (text : List Char) (within : 0 ≤ atoi text ∧ atoi text ≤ 65535) (numeral : CText.isNumeral text = true)
    (short : text.length ≤ 26) : Option PortArg := some ⟨⟨text, within⟩, numeral, short⟩

def eighty : Option PortArg := typedPort ['8', '0'] (by decide) (by decide) (by decide)

def eightyPadded : Option PortArg := typedPort ['0', '8', '0'] (by decide) (by decide) (by decide)

def sflowPort : Option PortArg := typedPort ['6', '3', '4', '3'] (by decide) (by decide) (by decide)

theorem repeated_collector_ignored :
    Runs.Always (collectorStep sampleParser) CollectorsDistinct none [addSample eighty none, addSample eighty none] := by
  refine ((collectors_distinct_iff sampleParser none rfl [addSample eighty none, addSample eighty none]).mpr ?_).1
  rw [Runs.along_cons, Runs.along_cons]
  refine ⟨fun _ _ _ target member => absurd member List.not_mem_nil, ?_, Runs.along_nil _ _ _⟩
  intro _ _ _ target member _
  have fields : ∀ target ∈ targetsOf (collectorStep sampleParser none (addSample eighty none)),
      (written target).port = (addSample eighty none).collector.port := by decide
  exact ⟨fields target member, fun absent => absurd absent (by decide)⟩

-- The default port, left out and then spelled out; and a port with and without
-- a leading zero.
theorem default_port_added_twice :
    ¬ Runs.Always (collectorStep sampleParser) CollectorsDistinct none [addSample none none, addSample sflowPort none] ∧
      ¬ Runs.Always (collectorStep sampleParser) CollectorsDistinct none [addSample eighty none, addSample eightyPadded none] := by
  constructor
  · intro all
    exact absurd (all _ [] (List.append_nil _).symm) (by decide)
  · intro all
    exact absurd (all _ [] (List.append_nil _).symm) (by decide)

end OpsSwitchd.Sflow
