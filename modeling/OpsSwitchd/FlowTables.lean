import OpsSwitchd.Keyed
import OpsSwitchd.Positional

set_option autoImplicit false

namespace OpsSwitchd.FlowTables

structure MfSubfield where
  field : Nat
  ofs : Nat
  nBits : Nat
deriving DecidableEq, Repr

-- mf_parse_subfield__ answers a message and stores nothing, or it stores a
-- subfield and moves the string to what follows it.
inductive ParseResult where
  | error (msg : String)
  | parsed (subfield : MfSubfield) (rest : String)
deriving DecidableEq, Repr

structure FlowTableRow where
  name : Option String
  flowLimit : Option Int
  overflowPolicy : Option String
  groups : List String
deriving DecidableEq, Repr

structure TableMap where
  entries : List (Int × FlowTableRow)
  increasing : (entries.map Prod.fst).Pairwise (· < ·)
  nonneg : ∀ entry ∈ entries, 0 ≤ entry.1

-- An empty slot of groups is memory that nothing was stored in.
structure TableSettings where
  name : Option String
  maxFlows : Nat
  groups : List (Option MfSubfield)
  nGroups : Nat
deriving DecidableEq, Repr

inductive TableWarning where
  | groupError (table : Nat) (msg : String)
  | trailingGarbage (table : Nat) (element : String)
  | ignored (key : Int)
deriving DecidableEq, Repr

structure TableWork where
  j : Nat
  configured : List (Nat × TableSettings)
  warnings : List TableWarning
deriving DecidableEq, Repr

def uintMax : Nat := 4294967295

section Groups

variable (parse : String → ParseResult)

def stored (string : String) : Option MfSubfield :=
  match parse string with
  | .error _ => none
  | .parsed subfield _ => some subfield

def complete (string : String) : Bool :=
  match parse string with
  | .error _ => false
  | .parsed _ rest => decide (rest = "")

def groupWarning (table : Nat) (string : String) : Option TableWarning :=
  match parse string with
  | .error msg => some (.groupError table msg)
  | .parsed _ rest => if rest = "" then none else some (.trailingGarbage table string)

def evicts (cfg : FlowTableRow) : Bool := decide (cfg.overflowPolicy = some "evict")

-- The conversion to unsigned int, of a limit that was compared as a 64-bit
-- integer.
def maxFlows (cfg : FlowTableRow) : Nat :=
  match cfg.flowLimit with
  | some limit => if limit < uintMax then (limit % 4294967296).toNat else uintMax
  | none => uintMax

def defaultSettings : TableSettings := ⟨none, uintMax, [], 0⟩

def rowSettings (cfg : FlowTableRow) : TableSettings :=
  let groups := if evicts cfg then Positional.fill (stored parse) (complete parse) cfg.groups else ⟨[], 0⟩
  ⟨cfg.name, maxFlows cfg, groups.slots, groups.count⟩

def rowWarnings (table : Nat) (cfg : FlowTableRow) : List TableWarning :=
  if evicts cfg then cfg.groups.filterMap (groupWarning parse table) else []

-- none is a read past the last key. default_prefix_fields are used for every
-- table, since the prefixes column is compiled out.
def configureTable (entries : List (Int × FlowTableRow)) (work : TableWork) (i : Nat) : Option TableWork :=
  if work.j < entries.length then do
    let (key, cfg) ← entries[work.j]?
    if (i : Int) = key then
      some ⟨work.j + 1, work.configured ++ [(i, rowSettings parse cfg)], work.warnings ++ rowWarnings parse i cfg⟩
    else some { work with configured := work.configured ++ [(i, defaultSettings)] }
  else some { work with configured := work.configured ++ [(i, defaultSettings)] }

def ignoreTable (entries : List (Int × FlowTableRow)) (work : TableWork) (j : Nat) : Option TableWork := do
  let (key, _) ← entries[j]?
  some { work with j := j + 1, warnings := work.warnings ++ [.ignored key] }

def bridgeConfigureTables (nTables : Nat) (tables : TableMap) : Option TableWork := do
  let work ← (List.range nTables).foldlM (configureTable parse tables.entries) ⟨0, [], []⟩
  (List.range' work.j (tables.entries.length - work.j)).foldlM (ignoreTable tables.entries) work

def settingsOf (entries : List (Int × FlowTableRow)) (i : Nat) : TableSettings :=
  match Keyed.lookup Prod.fst (i : Int) entries with
  | some entry => rowSettings parse entry.2
  | none => defaultSettings

def ignoredKey (warning : TableWarning) : Option Int :=
  match warning with
  | .ignored key => some key
  | _ => none

-- The second cursor stands between the keys below the first cursor and the
-- keys that are not.
structure Merged (entries : List (Int × FlowTableRow)) (i : Nat) (work : TableWork) : Prop where
  cursor : ∃ before after, entries = before ++ after ∧ work.j = before.length ∧
    (∀ entry ∈ before, entry.1 < i) ∧ ∀ entry ∈ after, (i : Int) ≤ entry.1
  configured : work.configured = (List.range i).map (fun table => (table, settingsOf parse entries table))
  warnings : work.warnings.filterMap ignoredKey = []

theorem row_warnings_not_ignored (table : Nat) (cfg : FlowTableRow) :
    (rowWarnings parse table cfg).filterMap ignoredKey = [] := by
  unfold rowWarnings
  split
  · rw [List.filterMap_filterMap, List.filterMap_eq_nil_iff]
    intro string _
    unfold groupWarning
    cases parse string with
    | error msg => rfl
    | parsed subfield rest => by_cases ended : rest = "" <;> simp [ended, ignoredKey]
  · rfl

theorem settings_skipped (before after : List (Int × FlowTableRow)) (i : Nat) (below : ∀ entry ∈ before, entry.1 < i)
    (above : ∀ entry ∈ after, (i : Int) < entry.1) : settingsOf parse (before ++ after) i = defaultSettings := by
  have absent : Keyed.lookup Prod.fst (i : Int) (before ++ after) = none := by
    rw [Keyed.lookup_none_iff]
    intro entry member
    rcases List.mem_append.mp member with left | right
    · exact Int.ne_of_lt (below entry left)
    · exact Int.ne_of_gt (above entry right)
  unfold settingsOf
  rw [absent]

theorem settings_matched (before after : List (Int × FlowTableRow)) (i : Nat) (cfg : FlowTableRow)
    (below : ∀ entry ∈ before, entry.1 < i) :
    settingsOf parse (before ++ ((i : Int), cfg) :: after) i = rowSettings parse cfg := by
  have absent : Keyed.lookup Prod.fst (i : Int) before = none := by
    rw [Keyed.lookup_none_iff]
    exact fun entry member => Int.ne_of_lt (below entry member)
  unfold settingsOf
  rw [Keyed.lookup_append, absent, Keyed.lookup_cons, if_pos rfl]
  rfl

theorem configured_next (entries : List (Int × FlowTableRow)) (i : Nat) (configured : List (Nat × TableSettings))
    (settings : TableSettings) (done : configured = (List.range i).map (fun table => (table, settingsOf parse entries table)))
    (here : settingsOf parse entries i = settings) :
    configured ++ [(i, settings)] = (List.range (i + 1)).map (fun table => (table, settingsOf parse entries table)) := by
  rw [List.range_succ, List.map_append, ← done, ← here]
  rfl

theorem configure_table_read (entries : List (Int × FlowTableRow)) (work : TableWork) (i : Nat) (key : Int) (cfg : FlowTableRow)
    (read : entries[work.j]? = some (key, cfg)) :
    configureTable parse entries work i =
      if (i : Int) = key then
        some ⟨work.j + 1, work.configured ++ [(i, rowSettings parse cfg)], work.warnings ++ rowWarnings parse i cfg⟩
      else some { work with configured := work.configured ++ [(i, defaultSettings)] } := by
  have inside : work.j < entries.length := (List.getElem?_eq_some_iff.mp read).1
  unfold configureTable
  rw [if_pos inside, read]
  rfl

theorem later_keys (tables : TableMap) (before rest : List (Int × FlowTableRow)) (key : Int) (cfg : FlowTableRow)
    (split : tables.entries = before ++ (key, cfg) :: rest) (entry : Int × FlowTableRow) (member : entry ∈ rest) :
    key < entry.1 := by
  have increasing := tables.increasing
  rw [split, List.map_append, List.map_cons] at increasing
  have tail := (List.pairwise_cons.mp (List.pairwise_append.mp increasing).2.1).1
  exact tail entry.1 (List.mem_map_of_mem member)

theorem below_next (before : List (Int × FlowTableRow)) (i : Nat) (below : ∀ entry ∈ before, entry.1 < i)
    (entry : Int × FlowTableRow) (member : entry ∈ before) : entry.1 < ((i + 1 : Nat) : Int) := by
  have := below entry member
  omega

theorem merged_skipped (entries before after : List (Int × FlowTableRow)) (i : Nat) (work : TableWork)
    (merged : Merged parse entries i work) (split : entries = before ++ after) (at_ : work.j = before.length)
    (below : ∀ entry ∈ before, entry.1 < i) (higher : ∀ entry ∈ after, (i : Int) < entry.1) :
    Merged parse entries (i + 1) { work with configured := work.configured ++ [(i, defaultSettings)] } := by
  refine ⟨⟨before, after, split, at_, below_next before i below, fun entry member => ?_⟩, ?_, merged.warnings⟩
  · have := higher entry member
    omega
  · refine configured_next parse entries i work.configured defaultSettings merged.configured ?_
    rw [split]
    exact settings_skipped parse before after i below higher

theorem merged_matched (entries before rest : List (Int × FlowTableRow)) (i : Nat) (cfg : FlowTableRow) (work : TableWork)
    (merged : Merged parse entries i work) (split : entries = before ++ ((i : Int), cfg) :: rest)
    (at_ : work.j = before.length) (below : ∀ entry ∈ before, entry.1 < i) (later : ∀ entry ∈ rest, (i : Int) < entry.1) :
    Merged parse entries (i + 1)
      ⟨work.j + 1, work.configured ++ [(i, rowSettings parse cfg)], work.warnings ++ rowWarnings parse i cfg⟩ := by
  refine ⟨⟨before ++ [((i : Int), cfg)], rest, by simp [split], by simp [at_], ?_, ?_⟩, ?_, ?_⟩
  · intro entry member
    rcases List.mem_append.mp member with left | right
    · exact below_next before i below entry left
    · rw [List.mem_singleton.mp right]
      omega
  · intro entry member
    have := later entry member
    omega
  · refine configured_next parse entries i work.configured _ merged.configured ?_
    rw [split]
    exact settings_matched parse before rest i cfg below
  · rw [List.filterMap_append, merged.warnings, row_warnings_not_ignored, List.nil_append]

theorem configure_table_merged (tables : TableMap) (i : Nat) (work : TableWork) (merged : Merged parse tables.entries i work) :
    ∃ next, configureTable parse tables.entries work i = some next ∧ Merged parse tables.entries (i + 1) next := by
  obtain ⟨before, after, split, at_, below, above⟩ := merged.cursor
  have skip := merged_skipped parse tables.entries before after i work merged split at_ below
  cases after with
  | nil =>
      refine ⟨_, ?_, skip (fun entry member => absurd member List.not_mem_nil)⟩
      simp [configureTable, split, at_]
  | cons head rest =>
      obtain ⟨key, cfg⟩ := head
      have later := later_keys tables before rest key cfg split
      have read : tables.entries[work.j]? = some (key, cfg) := by simp [split, at_]
      have step := configure_table_read parse tables.entries work i key cfg read
      by_cases same : (i : Int) = key
      · subst same
        rw [if_pos rfl] at step
        exact ⟨_, step, merged_matched parse tables.entries before rest i cfg work merged split at_ below later⟩
      · have here := above (key, cfg) List.mem_cons_self
        rw [if_neg same] at step
        refine ⟨_, step, skip ?_⟩
        intro entry member
        rcases List.mem_cons.mp member with first | tail
        · rw [first]
          omega
        · have := later entry tail
          omega

theorem configure_tables_merged (tables : TableMap) (nTables : Nat) :
    ∃ work, (List.range nTables).foldlM (configureTable parse tables.entries) ⟨0, [], []⟩ = some work ∧
      Merged parse tables.entries nTables work := by
  induction nTables with
  | zero => exact ⟨_, rfl, ⟨[], tables.entries, rfl, rfl, by simp, tables.nonneg⟩, rfl, rfl⟩
  | succ n ih =>
      obtain ⟨work, reached, merged⟩ := ih
      obtain ⟨next, step, after⟩ := configure_table_merged parse tables n work merged
      refine ⟨next, ?_, after⟩
      rw [List.range_succ, List.foldlM_append, reached]
      simp [step]

theorem ignore_tables (before after : List (Int × FlowTableRow)) (work : TableWork) :
    ∃ j, (List.range' before.length after.length).foldlM (ignoreTable (before ++ after)) work =
      some { work with j := j, warnings := work.warnings ++ after.map (fun entry => .ignored entry.1) } := by
  induction after generalizing before work with
  | nil => exact ⟨work.j, by simp⟩
  | cons head rest ih =>
      obtain ⟨j, reached⟩ := ih (before ++ [head])
        { work with j := before.length + 1, warnings := work.warnings ++ [.ignored head.1] }
      refine ⟨j, ?_⟩
      rw [List.length_cons, List.range'_succ, List.foldlM_cons]
      simpa [ignoreTable] using reached

theorem bridge_configure_tables_eq (nTables : Nat) (tables : TableMap) :
    ∃ work, bridgeConfigureTables parse nTables tables = some work ∧
      work.configured = (List.range nTables).map (fun i => (i, settingsOf parse tables.entries i)) ∧
      work.warnings.filterMap ignoredKey = (tables.entries.map Prod.fst).filter (fun key => decide ((nTables : Int) ≤ key)) := by
  obtain ⟨work, reached, merged⟩ := configure_tables_merged parse tables nTables
  obtain ⟨before, after, split, at_, below, above⟩ := merged.cursor
  obtain ⟨j, ignored⟩ := ignore_tables before after work
  refine ⟨{ work with j := j, warnings := work.warnings ++ after.map (fun entry => .ignored entry.1) }, ?_, merged.configured, ?_⟩
  · unfold bridgeConfigureTables
    rw [reached]
    simp only [Option.bind_eq_bind, Option.bind_some]
    rw [split, at_, List.length_append, Nat.add_sub_cancel_left]
    exact ignored
  · have kept : (before.map Prod.fst).filter (fun key => decide ((nTables : Int) ≤ key)) = [] := by
      rw [List.filter_eq_nil_iff]
      intro key member
      obtain ⟨entry, inside, rfl⟩ := List.mem_map.mp member
      have := below entry inside
      simpa using this
    have all : (after.map Prod.fst).filter (fun key => decide ((nTables : Int) ≤ key)) = after.map Prod.fst := by
      rw [List.filter_eq_self]
      intro key member
      obtain ⟨entry, inside, rfl⟩ := List.mem_map.mp member
      simpa using above entry inside
    rw [List.filterMap_append, merged.warnings, split, List.map_append, List.filter_append, kept, all,
      List.filterMap_map, List.nil_append, List.nil_append]
    exact congrFun List.filterMap_eq_map after

theorem settings_of_entry (tables : TableMap) (i : Nat) (cfg : FlowTableRow) (member : ((i : Int), cfg) ∈ tables.entries) :
    settingsOf parse tables.entries i = rowSettings parse cfg := by
  have unique : Keyed.Unique Prod.fst tables.entries := tables.increasing.imp (fun less => Int.ne_of_lt less)
  have found := Keyed.lookup_of_mem Prod.fst unique member
  unfold settingsOf
  rw [found]

theorem settings_without_entry (tables : TableMap) (i : Nat) (absent : ∀ cfg, ((i : Int), cfg) ∉ tables.entries) :
    settingsOf parse tables.entries i = defaultSettings := by
  have missing : Keyed.lookup Prod.fst (i : Int) tables.entries = none := by
    rw [Keyed.lookup_none_iff]
    intro entry member same
    exact absent entry.2 (same ▸ member)
  unfold settingsOf
  rw [missing]

theorem max_flows_unlimited (cfg : FlowTableRow) (unlimited : cfg.flowLimit = none) : maxFlows cfg = uintMax := by
  unfold maxFlows
  rw [unlimited]

theorem max_flows_limit (cfg : FlowTableRow) (limit : Nat) (limited : cfg.flowLimit = some (limit : Int)) :
    maxFlows cfg = min limit uintMax := by
  unfold maxFlows uintMax
  rw [limited]
  dsimp only
  split <;> omega

theorem tables_configured_once (nTables : Nat) (tables : TableMap) :
    ∃ work, bridgeConfigureTables parse nTables tables = some work ∧
      work.configured.map Prod.fst = List.range nTables ∧
      (∀ table ∈ work.configured,
        (∀ cfg, ((table.1 : Int), cfg) ∈ tables.entries → table.2.name = cfg.name ∧
          (cfg.flowLimit = none → table.2.maxFlows = uintMax) ∧
          ∀ limit : Nat, cfg.flowLimit = some (limit : Int) → table.2.maxFlows = min limit uintMax) ∧
        ((∀ cfg, ((table.1 : Int), cfg) ∉ tables.entries) → table.2 = ⟨none, uintMax, [], 0⟩)) ∧
      work.warnings.filterMap ignoredKey = (tables.entries.map Prod.fst).filter (fun key => decide ((nTables : Int) ≤ key)) := by
  obtain ⟨work, reached, configured, ignored⟩ := bridge_configure_tables_eq parse nTables tables
  refine ⟨work, reached, ?_, ?_, ignored⟩
  · rw [configured, List.map_map]
    exact List.map_id _
  · intro table member
    rw [configured] at member
    obtain ⟨i, _, rfl⟩ := List.mem_map.mp member
    refine ⟨fun cfg keyed => ?_, settings_without_entry parse tables i⟩
    dsimp only
    rw [settings_of_entry parse tables i cfg keyed]
    exact ⟨rfl, max_flows_unlimited cfg, max_flows_limit cfg⟩

def completeSubfield (string : String) : Option MfSubfield := if complete parse string then stored parse string else none

def GroupsExact (cfg : FlowTableRow) (s : TableSettings) : Prop :=
  s.nGroups = cfg.groups.countP (complete parse) ∧
    s.groups.take s.nGroups = (cfg.groups.filterMap (completeSubfield parse)).map some

instance (cfg : FlowTableRow) (s : TableSettings) : Decidable (GroupsExact parse cfg s) :=
  inferInstanceAs (Decidable (_ ∧ _))

def RanksAgree (groups : List String) : Prop :=
  ∀ rank, rank < groups.countP (complete parse) →
    groups[rank]?.bind (stored parse) = (groups.filterMap (completeSubfield parse))[rank]?

theorem complete_subfield_some (string : String) : (completeSubfield parse string).isSome = complete parse string := by
  unfold completeSubfield complete stored
  cases parse string with
  | error msg => rfl
  | parsed subfield rest => by_cases ended : rest = "" <;> simp [ended]

theorem groups_exact_ranks (cfg : FlowTableRow) (evict : evicts cfg = true) :
    GroupsExact parse cfg (rowSettings parse cfg) ↔ RanksAgree parse cfg.groups := by
  have length := Positional.length_counted (completeSubfield parse) (complete parse)
    (fun string (_ : string ∈ cfg.groups) => complete_subfield_some parse string)
  have within : cfg.groups.countP (complete parse) ≤ cfg.groups.length := List.countP_le_length
  unfold GroupsExact RanksAgree rowSettings
  rw [if_pos evict, Positional.fill_eq, and_iff_right rfl, List.ext_getElem?_iff]
  refine forall_congr' (fun rank => ?_)
  by_cases below : rank < cfg.groups.countP (complete parse)
  · have read := List.getElem?_eq_getElem (Nat.lt_of_lt_of_le below within)
    have ranked := List.getElem?_eq_getElem (length.symm ▸ below)
    simp [below, read, ranked]
  · have beyond := Nat.le_of_not_lt below
    rw [List.getElem?_eq_none (Nat.le_trans (List.length_take_le _ _) beyond),
      List.getElem?_eq_none (by rw [List.length_map, length]; exact beyond)]
    exact ⟨fun _ inside => absurd inside below, fun _ => rfl⟩

theorem groups_exact_ordered (cfg : FlowTableRow) (evict : evicts cfg = true)
    (clean : ∀ string ∈ cfg.groups, (stored parse string).isSome → complete parse string) :
    GroupsExact parse cfg (rowSettings parse cfg) ↔
      cfg.groups.Pairwise (fun first second => complete parse second → complete parse first) := by
  have filled : ∀ string ∈ cfg.groups, (stored parse string).isSome = complete parse string := by
    intro string member
    have closed := clean string member
    have subfield := complete_subfield_some parse string
    unfold completeSubfield at subfield
    cases done : complete parse string with
    | true => simpa [done] using subfield
    | false => simpa [done] using closed
  have same : cfg.groups.filterMap (completeSubfield parse) = cfg.groups.filterMap (stored parse) := by
    refine List.filterMap_congr (fun string member => ?_)
    have here := filled string member
    unfold completeSubfield
    cases done : complete parse string with
    | true => rfl
    | false =>
        rw [done, Option.isSome_eq_false_iff, Option.isNone_iff_eq_none] at here
        exact here.symm
  unfold GroupsExact rowSettings
  rw [if_pos evict, same, ← Positional.CountedFirst, ← Positional.read_back_iff (stored parse) (complete parse) filled]
  exact and_iff_right (by rw [Positional.fill_eq])

theorem evict_groups_exact_iff (nTables : Nat) (tables : TableMap) (work : TableWork) (i : Nat) (s : TableSettings)
    (cfg : FlowTableRow) (configured : bridgeConfigureTables parse nTables tables = some work) (passed : (i, s) ∈ work.configured)
    (keyed : ((i : Int), cfg) ∈ tables.entries) (evict : cfg.overflowPolicy = some "evict") :
    (GroupsExact parse cfg s ↔ RanksAgree parse cfg.groups) ∧
      ((∀ string ∈ cfg.groups, (stored parse string).isSome → complete parse string) →
        (GroupsExact parse cfg s ↔ cfg.groups.Pairwise (fun first second => complete parse second → complete parse first))) := by
  have policy : evicts cfg = true := decide_eq_true evict
  obtain ⟨_, reached, every, _⟩ := bridge_configure_tables_eq parse nTables tables
  obtain rfl := Option.some.inj (configured.symm.trans reached)
  rw [every] at passed
  obtain ⟨table, _, same⟩ := List.mem_map.mp passed
  obtain ⟨rfl, rfl⟩ := Prod.mk.inj same
  rw [settings_of_entry parse tables table cfg keyed]
  exact ⟨groups_exact_ranks parse cfg policy, groups_exact_ordered parse cfg policy⟩

end Groups

def sampleParse (string : String) : ParseResult :=
  if string = "nw_src[]" then .parsed ⟨9, 0, 32⟩ "" else .error "unknown field"

def evictRow (groups : List String) : FlowTableRow := ⟨some "main", some 100, some "evict", groups⟩

def evictTables (groups : List String) : TableMap where
  entries := [(0, evictRow groups)]
  increasing := List.pairwise_singleton _ _
  nonneg := by simp

theorem complete_groups_kept :
    GroupsExact sampleParse (evictRow ["nw_src[]", "nw_src"]) (rowSettings sampleParse (evictRow ["nw_src[]", "nw_src"])) := by
  have clean : ∀ string ∈ ["nw_src[]", "nw_src"], (stored sampleParse string).isSome → complete sampleParse string := by decide
  exact ((evict_groups_exact_iff sampleParse 1 (evictTables ["nw_src[]", "nw_src"])
    ⟨1, [(0, rowSettings sampleParse (evictRow ["nw_src[]", "nw_src"]))], [.groupError 0 "unknown field"]⟩ 0 _
    (evictRow ["nw_src[]", "nw_src"]) (by decide) List.mem_cons_self List.mem_cons_self rfl).2 clean).mpr (by decide)

-- The only valid group is counted, but the slot that is read is the one of the
-- invalid string.
theorem invalid_group_first :
    ∃ work s, bridgeConfigureTables sampleParse 1 (evictTables ["nw_src", "nw_src[]"]) = some work ∧
      (0, s) ∈ work.configured ∧ ¬ GroupsExact sampleParse (evictRow ["nw_src", "nw_src[]"]) s :=
  ⟨⟨1, [(0, rowSettings sampleParse (evictRow ["nw_src", "nw_src[]"]))], [.groupError 0 "unknown field"]⟩, _,
    by decide, List.mem_cons_self, by decide⟩

end OpsSwitchd.FlowTables
