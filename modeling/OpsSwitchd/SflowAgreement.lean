import OpsSwitchd.SflowConsistency

set_option autoImplicit false

namespace OpsSwitchd.Sflow

open CText (decimal)

theorem range_unsigned (column : NumberColumn) (value : Int) (within : low column ≤ value ∧ value ≤ high column) :
    0 ≤ value ∧ value < 4294967296 := by
  have lowest : 0 ≤ low column := by cases column <;> decide
  have highest : high column ≤ 1000000000 := by cases column <;> decide
  omega

theorem printed_u64 (value : Int) (unsigned : 0 ≤ value ∧ value < 4294967296) : printU64 value = decimal (uint32 value) := by
  have kept : value % 4294967296 = value := Int.emod_eq_of_lt unsigned.1 unsigned.2
  have printed : value % 18446744073709551616 = value := Int.emod_eq_of_lt unsigned.1 (by omega)
  rw [printU64, uint32, kept, printed]

theorem shown_number_iff (shown pushed : NumberColumn → Nat) (db : Database) (consistent : Consistent db) (row : SflowRow)
    (member : row ∈ db.rows) (number : Nat) (column : NumberColumn) :
    shownNumber shown row column = decimal ((bridgeConfigureSflow pushed db.ports row number).number column) ↔
      row.number column ≠ none ∨ shown column = pushed column := by
  unfold shownNumber bridgeConfigureSflow
  dsimp only
  cases written : row.number column with
  | none =>
      have unset : ¬ (none : Option Int) ≠ none := fun set => set rfl
      rw [or_iff_right unset]
      exact ⟨CText.decimal_inj _ _, congrArg decimal⟩
  | some value =>
      have unsigned := range_unsigned column value (consistent.numbers row member column value written)
      refine iff_of_true ?_ (.inl (Option.some_ne_none value))
      rw [Option.elim_some]
      exact printed_u64 value unsigned

theorem caseless_false_not_true (value : String) (off : caselessEq "false" value = true) :
    "true".toList.isPrefixOf value.toList = false := by
  have lowered : "false".toList.map Char.toLower = value.toList.map Char.toLower := of_decide_eq_true off
  cases chars : value.toList with
  | nil => decide
  | cons c rest =>
      rw [chars, List.map_cons] at lowered
      have first : 'f' = Char.toLower c := (List.cons.inj lowered).1
      have other : c ≠ 't' := by
        intro same
        rw [same] at first
        exact absurd first (by decide)
      have initial : ('t' == c) = false := beq_false_of_ne other.symm
      show (('t' == c) && _) = false
      rw [initial, Bool.false_and]

-- A value that the command does not print as enabled, on a port that is not
-- reported as disabled either.
def Misread (db : Database) (interface : String) : Prop :=
  ∃ port ∈ db.ports, port.name = interface ∧ ∃ value, smapGet port.otherConfig sflowEnabledKey = some value ∧
    "true".toList.isPrefixOf value.toList = false ∧
    (defaultBridgeName.isPrefixOf interface.toList = true ∨ caselessEq "false" value = false)

theorem port_disabled_iff (ports : List SflowPort) (distinct : (ports.map SflowPort.name).Nodup) (port : SflowPort)
    (member : port ∈ ports) :
    port.name ∈ sflowPortsDisabled ports ↔
      defaultBridgeName.isPrefixOf port.name.toList = false ∧
        ∃ value, smapGet port.otherConfig sflowEnabledKey = some value ∧ caselessEq "false" value = true := by
  have filled : ∀ value, smapGet port.otherConfig sflowEnabledKey = some value → port.otherConfig.isEmpty = false := by
    intro value found
    cases config : port.otherConfig with
    | nil => rw [config] at found; cases found
    | cons entry rest => rfl
  unfold sflowPortsDisabled
  constructor
  · intro listed
    obtain ⟨other, kept, same⟩ := List.mem_map.mp listed
    obtain ⟨present, tested⟩ := List.mem_filter.mp kept
    obtain rfl := List.inj_on_of_nodup_map distinct present member same
    simp only [Bool.and_eq_true, Bool.not_eq_true'] at tested
    obtain ⟨visible, _, off⟩ := tested
    refine ⟨visible, ?_⟩
    unfold smapGetBool at off
    cases found : smapGet other.otherConfig sflowEnabledKey with
    | none => rw [found] at off; cases off
    | some value =>
        rw [found] at off
        exact ⟨value, rfl, by simpa using off⟩
  · rintro ⟨visible, value, found, off⟩
    refine List.mem_map.mpr ⟨port, List.mem_filter.mpr ⟨member, ?_⟩, rfl⟩
    simp [visible, filled value found, smapGetBool, found, off]

theorem find_port (ports : List SflowPort) (name : String) :
    (∃ port ∈ ports, port.name = name ∧ ports.find? (fun port => decide (port.name = name)) = some port) ∨
      (ports.find? (fun port => decide (port.name = name)) = none ∧ name ∉ ports.map SflowPort.name) := by
  cases found : ports.find? (fun port => decide (port.name = name)) with
  | some port =>
      exact .inl ⟨port, List.mem_of_find?_eq_some found, by simpa using List.find?_some found, rfl⟩
  | none =>
      refine .inr ⟨rfl, fun listed => ?_⟩
      obtain ⟨port, member, same⟩ := List.mem_map.mp listed
      exact List.find?_eq_none.mp found port member (decide_eq_true same)

theorem shown_status_iff (db : Database) (consistent : Consistent db) (uuid : Nat) (interface : String) :
    (shownStatus db (some uuid) interface = true ↔ interface ∉ sflowPortsDisabled db.ports) ↔ ¬ Misread db interface := by
  unfold shownStatus
  rw [Option.isSome_some, Bool.true_and]
  rcases find_port db.ports interface with ⟨port, member, rfl, found⟩ | ⟨found, absent⟩
  · have disabled := port_disabled_iff db.ports consistent.ports port member
    have misread : Misread db port.name ↔ ∃ value, smapGet port.otherConfig sflowEnabledKey = some value ∧
        "true".toList.isPrefixOf value.toList = false ∧
        (defaultBridgeName.isPrefixOf port.name.toList = true ∨ caselessEq "false" value = false) := by
      constructor
      · rintro ⟨other, present, same, read⟩
        obtain rfl := List.inj_on_of_nodup_map consistent.ports present member same
        exact read
      · exact fun read => ⟨port, member, rfl, read⟩
    rw [found, Option.bind_some, disabled, misread]
    cases stored : smapGet port.otherConfig sflowEnabledKey with
    | none => simp
    | some value =>
        have exclusive := caseless_false_not_true value
        simp only [Option.all_some, Option.some.injEq, exists_eq_left']
        cases off : caselessEq "false" value with
        | false => cases "true".toList.isPrefixOf value.toList <;> simp
        | true =>
            rw [exclusive off]
            cases defaultBridgeName.isPrefixOf port.name.toList <;> simp
  · rw [found, Option.bind_none]
    have unlisted : interface ∉ sflowPortsDisabled db.ports := by
      intro listed
      obtain ⟨port, kept, same⟩ := List.mem_map.mp listed
      exact absent (List.mem_map.mpr ⟨port, (List.mem_filter.mp kept).1, same⟩)
    have read : ¬ Misread db interface := by
      rintro ⟨port, member, same, _⟩
      exact absent (List.mem_map.mpr ⟨port, member, same⟩)
    simp [unlisted, read]

structure ShownAsPushed (shown pushed : NumberColumn → Nat) (db : Database) : Prop where
  status : ∀ names, ∀ entry ∈ configureSflow pushed db 0 names, (statusLine true ∈ sflowShow shown db ↔ entry.2.isSome = true)
  collectors : ∀ names name o, (name, some o) ∈ configureSflow pushed db 0 names → ∀ i target, o.targets[i]? = some target →
    ((sflowShow shown db)[4 + i]? = some (collectorLine i (written target) ++ ['\n']) ↔ ¬ TakenForVrf (written target))
  agent : ∀ names name o, (name, some o) ∈ configureSflow pushed db 0 names →
    (sflowShow shown db)[4 + o.targets.length]? = some (line "Agent Interface               " (o.agentDevice.getD "Not set").toList)
  numbers : ∀ names name o, (name, some o) ∈ configureSflow pushed db 0 names → ∀ column,
    (line (numberLabel column) (decimal (o.number column)) ∈ sflowShow shown db ↔
      (∃ row ∈ db.rows, row.number column ≠ none) ∨ shown column = pushed column)
  numbered : ∀ names, ((configureSflow pushed db 0 names).filterMap (fun entry => entry.2.map Options.subId)).Nodup
  interface : ∀ names name o, (name, some o) ∈ configureSflow pushed db 0 names → ∀ ifrow ∈ db.interfaces,
    ((statusLine true ∈ sflowShowIntfStatistics shown db ifrow.name ↔ ifrow.name ∉ o.ports) ↔ ¬ Misread db ifrow.name)

section Texts

def starting (c : Char) (texts : List (List Char)) : List (List Char) := texts.filter (fun text => decide (text.head? = some c))

theorem mem_starting (c : Char) (text : List Char) (texts : List (List Char)) (first : text.head? = some c) :
    text ∈ texts ↔ text ∈ starting c texts := by
  rw [starting, List.mem_filter, decide_eq_true_eq]
  exact (and_iff_left first).symm

def initial : NumberColumn → Char
  | .sampling => 'S'
  | .polling => 'P'
  | .header => 'H'
  | .maxDatagram => 'M'

theorem number_line_head (column : NumberColumn) (value : List Char) :
    (line (numberLabel column) value).head? = some (initial column) := by
  cases column <;> rfl

theorem status_line_head (enabled : Bool) : (statusLine enabled).head? = some 's' := rfl

theorem status_line_inj (a b : Bool) : statusLine a = statusLine b ↔ a = b := by
  cases a <;> cases b <;> decide

theorem line_inj (label : String) (a b : List Char) (same : line label a = line label b) : a = b :=
  List.append_cancel_right (List.append_cancel_left same)

theorem target_line_head (i : Nat) (target : List Char) (address : (tokens target).ip.isSome = true) :
    (sflowShowTarget i target ++ ['\n']).head? = some ' ' := by
  have padded : ∀ rest : List Char, (padding i ++ rest ++ ['\n']).head? = some ' ' := by
    intro rest
    unfold padding
    split <;> rfl
  unfold sflowShowTarget
  cases ip : (tokens target).ip with
  | none =>
      rw [ip] at address
      cases address
  | some ip => rcases shownPort (tokens target) with ⟨_ | _, _ | _⟩ <;> exact padded _

theorem target_ip (targets : List (List Char)) (sound : Targets targets) (target : List Char) (member : target ∈ targets) :
    (tokens target).ip.isSome = true := by
  obtain ⟨valid, text⟩ := sound.texts target member
  rw [← text, tokens_joined _ valid]
  rfl

theorem target_lines_eq (targets : List (List Char)) (sound : Targets targets) :
    targetLines targets = targets.zipIdx.map (fun entry => sflowShowTarget entry.2 entry.1 ++ ['\n']) := by
  unfold targetLines
  rw [← List.flatMap_pure_eq_map]
  refine List.flatMap_congr (fun entry member => ?_)
  have address := target_ip targets sound entry.1 (List.fst_mem_of_mem_zipIdx member)
  rw [← Option.not_isSome, address, Bool.not_true, if_neg Bool.false_ne_true]
  rfl

theorem collector_text_head (targets : List (List Char)) (sound : Targets targets) (text : List Char)
    (member : text ∈ collectorTexts targets) : text.head? = some 'C' ∨ text.head? = some ' ' := by
  rcases List.mem_cons.mp member with rfl | listed
  · left
    unfold collectorHeading
    split <;> rfl
  · right
    rw [target_lines_eq targets sound] at listed
    obtain ⟨entry, inside, rfl⟩ := List.mem_map.mp listed
    exact target_line_head _ _ (target_ip targets sound entry.1 (List.fst_mem_of_mem_zipIdx inside))

theorem collector_texts_starting (c : Char) (notHeading : c ≠ 'C') (notTarget : c ≠ ' ') (targets : List (List Char))
    (sound : Targets targets) : starting c (collectorTexts targets) = [] := by
  refine List.filter_eq_nil_iff.mpr (fun text member => ?_)
  rcases collector_text_head targets sound text member with first | first
  · rw [first, decide_eq_true_eq, Option.some.injEq]
    exact notHeading.symm
  · rw [first, decide_eq_true_eq, Option.some.injEq]
    exact notTarget.symm

variable (shown : NumberColumn → Nat) (db : Database) (row : SflowRow) (sflow : Option Nat)

def settingTexts : List (List Char) :=
  [line "Agent Interface               " (row.agent.getD "Not set").toList,
    line "Agent Address Family          " (row.agentAddrFamily.getD "ipv4").toList,
    numberLine shown row .sampling, numberLine shown row .polling, numberLine shown row .header,
    numberLine shown row .maxDatagram, line "Number of Samples             " (printU64 (sflowAggregateSampleCount db))]

theorem show_texts (rows : db.rows = [row]) (system : db.system = some sflow) :
    sflowShow shown db = ["\nsFlow Configuration \n".toList, dashes, statusLine sflow.isSome] ++
      (collectorTexts row.targets ++ settingTexts shown db row) := by
  unfold sflowShow
  rw [rows, system]
  rfl

theorem show_starting (c : Char) (notHeading : c ≠ 'C') (notTarget : c ≠ ' ') (rows : db.rows = [row])
    (system : db.system = some sflow) (sound : Targets row.targets) :
    starting c (sflowShow shown db) =
      starting c ["\nsFlow Configuration \n".toList, dashes, statusLine sflow.isSome] ++ starting c (settingTexts shown db row) := by
  have targets := collector_texts_starting c notHeading notTarget row.targets sound
  rw [show_texts shown db row sflow rows system]
  unfold starting at targets ⊢
  rw [List.filter_append, List.filter_append, targets, List.nil_append]

theorem status_shown_iff (rows : db.rows = [row]) (system : db.system = some sflow) (sound : Targets row.targets) :
    statusLine true ∈ sflowShow shown db ↔ sflow.isSome = true := by
  have texts : starting 's' (sflowShow shown db) = [statusLine sflow.isSome] := by
    rw [show_starting shown db row sflow 's' (by decide) (by decide) rows system sound]
    rfl
  rw [mem_starting 's' _ _ (status_line_head true), texts, List.mem_singleton, status_line_inj]
  exact eq_comm

theorem number_shown_iff (rows : db.rows = [row]) (system : db.system = some sflow) (sound : Targets row.targets)
    (column : NumberColumn) (value : List Char) :
    line (numberLabel column) value ∈ sflowShow shown db ↔ shownNumber shown row column = value := by
  have texts : starting (initial column) (sflowShow shown db) = [numberLine shown row column] := by
    rw [show_starting shown db row sflow (initial column) (by cases column <;> decide) (by cases column <;> decide) rows system sound]
    cases column <;> rfl
  rw [mem_starting _ _ _ (number_line_head column value), texts, List.mem_singleton]
  exact ⟨fun same => (line_inj _ _ _ same).symm, fun same => congrArg (line (numberLabel column)) same.symm⟩

theorem collector_shown (rows : db.rows = [row]) (system : db.system = some sflow) (sound : Targets row.targets) (i : Nat)
    (target : List Char) (listed : row.targets[i]? = some target) :
    (sflowShow shown db)[4 + i]? = some (sflowShowTarget i target ++ ['\n']) := by
  have line : (targetLines row.targets)[i]? = some (sflowShowTarget i target ++ ['\n']) := by
    rw [target_lines_eq row.targets sound, List.getElem?_map, List.getElem?_zipIdx, listed]
    simp
  have place : (sflowShow shown db)[4 + i]? = (targetLines row.targets ++ settingTexts shown db row)[i]? := by
    rw [show_texts shown db row sflow rows system, Nat.add_comm]
    rfl
  rw [place, List.getElem?_append_left (List.getElem?_eq_some_iff.mp line).1]
  exact line

theorem agent_shown (rows : db.rows = [row]) (system : db.system = some sflow) (sound : Targets row.targets) :
    (sflowShow shown db)[4 + row.targets.length]? =
      some (line "Agent Interface               " (row.agent.getD "Not set").toList) := by
  have size : (targetLines row.targets).length = row.targets.length := by
    rw [target_lines_eq row.targets sound, List.length_map, List.length_zipIdx]
  have place : (sflowShow shown db)[4 + row.targets.length]? =
      (targetLines row.targets ++ settingTexts shown db row)[row.targets.length]? := by
    rw [show_texts shown db row sflow rows system, Nat.add_comm]
    rfl
  rw [place, List.getElem?_append_right (Nat.le_of_eq size), size, Nat.sub_self]
  rfl

theorem interface_shown_iff (rows : db.rows = [row]) (system : db.system = some sflow) (ifrow : SflowInterface)
    (member : ifrow ∈ db.interfaces) :
    statusLine true ∈ sflowShowIntfStatistics shown db ifrow.name ↔ shownStatus db sflow ifrow.name = true := by
  cases found : db.interfaces.find? (fun other => decide (other.name = ifrow.name)) with
  | none => exact absurd (decide_eq_true rfl) (List.find?_eq_none.mp found ifrow member)
  | some other =>
      have texts : starting 's' (sflowShowIntfStatistics shown db ifrow.name) = [statusLine (shownStatus db sflow ifrow.name)] := by
        unfold sflowShowIntfStatistics
        rw [rows, system]
        dsimp only [List.head?_cons]
        rw [found]
        rfl
      rw [mem_starting 's' _ _ (status_line_head true), texts, List.mem_singleton, status_line_inj]
      exact eq_comm

end Texts

section Agreement

theorem sub_ids_nodup (defaults : NumberColumn → Nat) (db : Database) (names : List String) :
    ((configureSflow defaults db 0 names).filterMap (fun entry => entry.2.map Options.subId)).Nodup := by
  rw [configure_sflow_entries, List.filterMap_map]
  cases system : systemRow db with
  | none => simp
  | some row =>
      have numbers : (names.zipIdx 0).filterMap ((fun entry : String × Option Options => entry.2.map Options.subId) ∘
          (fun entry => (entry.1, (some row).map (fun row => bridgeConfigureSflow defaults db.ports row entry.2)))) =
          (names.zipIdx 0).map Prod.snd := by
        rw [← List.filterMap_eq_map]
        rfl
      rw [numbers, List.zipIdx_map_snd]
      exact List.nodup_range'

theorem unconfigured_shown (shown : NumberColumn → Nat) (db : Database) (rows : db.rows = []) :
    statusLine true ∉ sflowShow shown db := by
  have texts : sflowShow shown db = [notConfigured] := by
    unfold sflowShow
    rw [rows]
    rfl
  rw [texts]
  decide

theorem status_agrees (shown : NumberColumn → Nat) (db : Database) (consistent : Consistent db) :
    statusLine true ∈ sflowShow shown db ↔ (systemRow db).isSome = true := by
  cases pushed : systemRow db with
  | some row =>
      obtain ⟨rows, uuid, enabled⟩ := system_row_some db consistent row pushed
      exact status_shown_iff shown db row (some uuid) rows enabled (consistent.targets row (rows ▸ List.mem_singleton_self row))
  | none =>
      refine iff_of_false ?_ Bool.false_ne_true
      rcases Nat.le_one_iff_eq_zero_or_eq_one.mp consistent.single with empty | one
      · exact unconfigured_shown shown db (List.length_eq_zero_iff.mp empty)
      · obtain ⟨row, rows⟩ := List.length_eq_one_iff.mp one
        cases system : db.system with
        | none =>
            unfold sflowShow
            rw [system, rows]
            exact List.not_mem_nil
        | some sflow =>
            rw [status_shown_iff shown db row sflow rows system (consistent.targets row (rows ▸ List.mem_singleton_self row))]
            intro enabled
            obtain ⟨uuid, rfl⟩ := Option.isSome_iff_exists.mp enabled
            obtain ⟨_, _, found⟩ := system_row_of_enabled db consistent uuid system
            rw [found] at pushed
            cases pushed

theorem consistent_shown (shown pushed : NumberColumn → Nat) (db : Database) (consistent : Consistent db) :
    ShownAsPushed shown pushed db where
  status := fun names entry member => by
    rw [configure_sflow_entries] at member
    obtain ⟨_, _, rfl⟩ := List.mem_map.mp member
    rw [status_agrees shown db consistent, Option.isSome_map]
  collectors := fun names name o entry i target listed => by
    obtain ⟨row, number, uuid, rfl, rows, system, sound⟩ := entry_pushed pushed db consistent names name o entry
    rw [show (bridgeConfigureSflow pushed db.ports row number).targets = row.targets from sound.distinct.dedup] at listed
    obtain ⟨valid, text⟩ := sound.texts target (List.mem_of_getElem? listed)
    rw [collector_shown shown db row (some uuid) rows system sound i target listed, Option.some.injEq, List.append_left_inj,
      ← shown_stored i (written target) valid, text]
  agent := fun names name o entry => by
    obtain ⟨row, number, uuid, rfl, rows, system, sound⟩ := entry_pushed pushed db consistent names name o entry
    rw [show (bridgeConfigureSflow pushed db.ports row number).targets = row.targets from sound.distinct.dedup]
    exact agent_shown shown db row (some uuid) rows system sound
  numbers := fun names name o entry column => by
    obtain ⟨row, number, uuid, rfl, rows, system, sound⟩ := entry_pushed pushed db consistent names name o entry
    rw [number_shown_iff shown db row (some uuid) rows system sound,
      shown_number_iff shown pushed db consistent row (rows ▸ List.mem_singleton_self row) number column, rows]
    simp
  numbered := sub_ids_nodup pushed db
  interface := fun names name o entry ifrow member => by
    obtain ⟨row, number, uuid, rfl, rows, system, _⟩ := entry_pushed pushed db consistent names name o entry
    rw [interface_shown_iff shown db row (some uuid) rows system ifrow member]
    exact shown_status_iff db consistent uuid ifrow.name

theorem shown_as_pushed (parser : AddressParser) (shown pushed : NumberColumn → Nat) (start : Database)
    (unconfigured : Unconfigured start) (inputs : List Input) :
    Runs.Always (apply parser) (ShownAsPushed shown pushed) start inputs :=
  Runs.always_mono (consistent_shown shown pushed)
    (Runs.invariant_always (apply_consistent parser) (unconfigured_consistent start unconfigured) (fun _ _ _ _ => trivial))

theorem enabled_shown_as_pushed :
    (systemRow (Runs.run (apply sampleParser) sampleDatabase sampleInputs)).isSome = true ∧
      Runs.Always (apply sampleParser) (ShownAsPushed (fun _ => 128) (fun _ => 128)) sampleDatabase sampleInputs :=
  ⟨by decide, shown_as_pushed sampleParser (fun _ => 128) (fun _ => 128) sampleDatabase sample_unconfigured sampleInputs⟩

end Agreement

end OpsSwitchd.Sflow
