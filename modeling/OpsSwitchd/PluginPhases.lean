import OpsSwitchd.Keyed
import OpsSwitchd.HashOrder
import Mathlib.Data.List.Count
import Mathlib.Data.List.Induction

set_option autoImplicit false

namespace OpsSwitchd.Plugins

-- What ltdl finds in a file. The name is that of lt_dlgetinfo.
structure PluginFile where
  handle : Option Nat
  init : Bool
  run : Bool
  wait : Bool
  destroy : Bool
  name : Option String
deriving DecidableEq, Repr

structure HashNode where
  name : String
  phaseId : Nat
  handle : Nat
deriving DecidableEq, Repr

-- The caller data of a handle that ltdl has open: a pointer to a plugin_class,
-- which may have been freed.
structure CallerData where
  handle : Nat
  live : Bool
deriving DecidableEq, Repr

structure PluginTable where
  shPlugins : List HashNode
  data : List CallerData
deriving DecidableEq, Repr

def PluginTable.classes (table : PluginTable) : List Nat := table.data.map CallerData.handle

def usable (file : PluginFile) : Option Nat :=
  if file.init && file.run && file.wait && file.destroy then file.handle else none

-- lt_dlcaller_set_data has replaced the data when it returns the old one, and
-- the error path then frees the new class. A handle is closed for good on the
-- last lt_dlclose only.
def pluginsOpenPlugin (table : PluginTable) (file : PluginFile) : PluginTable :=
  match usable file with
  | none => table
  | some handle =>
      if handle ∈ table.classes then
        { table with data := Keyed.replace CallerData.handle handle (fun entry => { entry with live := false }) table.data }
      else
        match file.name with
        | none => table
        | some name =>
            { data := ⟨handle, true⟩ :: table.data
              shPlugins := Keyed.addOnce HashNode.name table.shPlugins ⟨name, 0, handle⟩ }

def pluginsOpened (files : List PluginFile) : PluginTable := files.foldl pluginsOpenPlugin ⟨[], []⟩

structure InitCall where
  handle : Nat
  phaseId : Nat
deriving DecidableEq, Repr

structure InitWork where
  nodes : List HashNode
  calls : List InitCall

def callInit (work : InitWork) (node : HashNode) : InitWork where
  nodes := Keyed.replace HashNode.name node.name (fun node => { node with phaseId := node.phaseId + 1 }) work.nodes
  calls := work.calls ++ [⟨node.handle, node.phaseId⟩]

def initListed (classes : List Nat) (work : InitWork) (name : String) : InitWork :=
  match Keyed.lookup HashNode.name name work.nodes with
  | none => work
  | some node => if node.handle ∈ classes then callInit work node else work

-- A node is visited once, so its phase is still the one it had before the loop.
def initUnlisted (classes : List Nat) (work : InitWork) (node : HashNode) : InitWork :=
  if node.phaseId = 0 ∧ node.handle ∈ classes then callInit work node else work

-- No list is an empty one for the calls. The name is that of the source.
def pluginsInitializaton (order : HashOrder) (table : PluginTable) (pluginsList : Option (List String)) : InitWork :=
  let work := (pluginsList.getD []).foldl (initListed table.classes) ⟨table.shPlugins, []⟩
  (order.walk work.nodes).foldl (initUnlisted table.classes) work

structure Opened (table : PluginTable) : Prop where
  names : Keyed.Unique HashNode.name table.shPlugins
  handles : Keyed.Unique HashNode.handle table.shPlugins
  classes : ∀ node ∈ table.shPlugins, node.handle ∈ table.classes
  fresh : ∀ node ∈ table.shPlugins, node.phaseId = 0
  data : Keyed.Unique CallerData.handle table.data

theorem freed_opened (table : PluginTable) (handle : Nat) (opened : Opened table) :
    Opened { table with data := Keyed.replace CallerData.handle handle (fun entry => { entry with live := false }) table.data } := by
  have same := Keyed.map_replace CallerData.handle CallerData.handle handle (fun entry => { entry with live := false }) table.data
    (fun _ _ _ => rfl)
  refine ⟨opened.names, opened.handles, ?_, opened.fresh, Keyed.unique_replace CallerData.handle opened.data handle _ (fun _ _ _ => rfl)⟩
  unfold PluginTable.classes
  rw [same]
  exact opened.classes

theorem entered_opened (table : PluginTable) (handle : Nat) (name : String) (opened : Opened table) (unused : handle ∉ table.classes) :
    Opened ⟨Keyed.addOnce HashNode.name table.shPlugins ⟨name, 0, handle⟩, ⟨handle, true⟩ :: table.data⟩ := by
  have data : Keyed.Unique CallerData.handle (⟨handle, true⟩ :: table.data) := List.nodup_cons.mpr ⟨unused, opened.data⟩
  unfold Keyed.addOnce
  split
  · exact ⟨opened.names, opened.handles, fun node member => List.mem_cons_of_mem _ (opened.classes node member), opened.fresh, data⟩
  · rename_i absent
    have named := (Keyed.lookup_none_iff HashNode.name).mp (by simpa using absent)
    have unheld : ∀ node ∈ table.shPlugins, node.handle ≠ handle :=
      fun node member same => unused (same ▸ opened.classes node member)
    refine ⟨Keyed.unique_append_singleton HashNode.name opened.names named,
      Keyed.unique_append_singleton HashNode.handle opened.handles unheld, ?_, ?_, data⟩
    · intro node member
      rcases List.mem_append.mp member with old | new
      · exact List.mem_cons_of_mem _ (opened.classes node old)
      · rw [List.mem_singleton.mp new]
        exact List.mem_cons_self
    · intro node member
      rcases List.mem_append.mp member with old | new
      · exact opened.fresh node old
      · rw [List.mem_singleton.mp new]

theorem open_plugin_opened (table : PluginTable) (file : PluginFile) (opened : Opened table) :
    Opened (pluginsOpenPlugin table file) := by
  unfold pluginsOpenPlugin
  cases usable file with
  | none => exact opened
  | some handle =>
      dsimp only
      split
      · exact freed_opened table handle opened
      · rename_i unused
        cases file.name with
        | none => exact opened
        | some name => exact entered_opened table handle name opened unused

theorem plugins_opened (files : List PluginFile) : Opened (pluginsOpened files) := by
  refine Keyed.foldl_keeps pluginsOpenPlugin Opened (fun table file _ opened => open_plugin_opened table file opened) ?_
  exact ⟨List.nodup_nil, List.nodup_nil, by simp, by simp, List.nodup_nil⟩

def counted (names : List String) (nodes : List HashNode) : List HashNode :=
  nodes.map (fun node => { node with phaseId := names.count node.name })

-- The phase of a node is the number of times its name has been met, and the
-- calls for it so far have had the phases below that.
structure Listed (plugins : List HashNode) (names : List String) (work : InitWork) : Prop where
  counts : work.nodes = counted names plugins
  order : work.calls.map InitCall.handle =
    names.filterMap (fun name => (Keyed.lookup HashNode.name name plugins).map HashNode.handle)
  phases : ∀ node ∈ plugins, (work.calls.filter (fun call => call.handle = node.handle)).map InitCall.phaseId =
    List.range (names.count node.name)

theorem counted_lookup (names : List String) (nodes : List HashNode) (name : String) :
    Keyed.lookup HashNode.name name (counted names nodes) =
      (Keyed.lookup HashNode.name name nodes).map (fun node => { node with phaseId := names.count node.name }) :=
  Keyed.lookup_map HashNode.name name (fun node => { node with phaseId := names.count node.name }) (fun _ => rfl) nodes

theorem init_listed_step (table : PluginTable) (opened : Opened table) (names : List String) (work : InitWork) (name : String)
    (listed : Listed table.shPlugins names work) :
    Listed table.shPlugins (names ++ [name]) (initListed table.classes work name) := by
  have lookup := counted_lookup names table.shPlugins name
  unfold initListed
  rw [listed.counts, lookup]
  cases found : Keyed.lookup HashNode.name name table.shPlugins with
  | none =>
      have absent := (Keyed.lookup_none_iff HashNode.name).mp found
      have same : ∀ node ∈ table.shPlugins, (names ++ [name]).count node.name = names.count node.name := by
        intro node member
        simp [Ne.symm (absent node member)]
      refine ⟨?_, ?_, ?_⟩
      · rw [Option.map_none, listed.counts]
        exact List.map_congr_left (fun node member => by rw [same node member])
      · simp [listed.order, found]
      · intro node member
        rw [same node member]
        exact listed.phases node member
  | some found_ =>
      have member := Keyed.lookup_mem HashNode.name found
      obtain rfl := Keyed.lookup_key HashNode.name found
      rw [Option.map_some]
      dsimp only
      rw [if_pos (opened.classes found_ member)]
      refine ⟨?_, ?_, ?_⟩
      · rw [callInit, listed.counts, counted, counted, Keyed.replace, List.map_map]
        refine List.map_congr_left (fun node _ => ?_)
        by_cases same : node.name = found_.name
        · simp [same]
        · simp [same, Ne.symm same]
      · simp [callInit, listed.order, found]
      · intro node present
        rw [callInit, List.filter_append, List.map_append, listed.phases node present]
        by_cases same : node.name = found_.name
        · obtain rfl := Keyed.unique_mem_eq HashNode.name opened.names present member same
          simp [List.range_succ]
        · have apart : ¬ found_.handle = node.handle :=
            fun equal => same (congrArg HashNode.name (Keyed.unique_mem_eq HashNode.handle opened.handles present member equal.symm))
          simp [apart, Ne.symm same]

theorem listed_loop (table : PluginTable) (opened : Opened table) (names : List String) :
    Listed table.shPlugins names (names.foldl (initListed table.classes) ⟨table.shPlugins, []⟩) := by
  -- The last name is split off, because the invariant is about the names met so far.
  induction names using List.reverseRecOn with
  | nil =>
      refine ⟨?_, rfl, fun _ _ => rfl⟩
      refine ((List.map_congr_left (fun node member => ?_)).trans (List.map_id _)).symm
      have fresh := opened.fresh node member
      cases node
      exact congrArg (HashNode.mk _ · _) fresh.symm
  | append_singleton names name ih =>
      rw [List.foldl_append]
      exact init_listed_step table opened names _ name ih

def unlistedCalls (classes : List Nat) (nodes : List HashNode) : List InitCall :=
  (nodes.filter (fun node => node.phaseId = 0 ∧ node.handle ∈ classes)).map (fun node => ⟨node.handle, node.phaseId⟩)

theorem unlisted_loop (classes : List Nat) (nodes : List HashNode) (work : InitWork) :
    (nodes.foldl (initUnlisted classes) work).calls = work.calls ++ unlistedCalls classes nodes := by
  unfold unlistedCalls
  induction nodes generalizing work with
  | nil => simp
  | cons node rest ih =>
      rw [List.foldl_cons, ih, initUnlisted]
      by_cases uncalled : node.phaseId = 0 ∧ node.handle ∈ classes
      · rw [if_pos uncalled, List.filter_cons_of_pos (by simpa using uncalled), callInit]
        simp
      · rw [if_neg uncalled, List.filter_cons_of_neg (by simpa using uncalled)]

theorem unlisted_call_mem (order : HashOrder) (classes : List Nat) (plugins : List HashNode) (names : List String) (call : InitCall) :
    call ∈ unlistedCalls classes (order.walk (counted names plugins)) ↔
      ∃ node ∈ plugins, (node.name ∉ names ∧ node.handle ∈ classes) ∧ call = ⟨node.handle, 0⟩ := by
  unfold unlistedCalls
  rw [List.mem_map]
  constructor
  · intro called
    obtain ⟨node, kept, rfl⟩ := called
    obtain ⟨walked, uncalled⟩ := List.mem_filter.mp kept
    obtain ⟨plugin, member, rfl⟩ := List.mem_map.mp ((order.mem_walk _ node).mp walked)
    obtain ⟨zero, class_⟩ := of_decide_eq_true uncalled
    exact ⟨plugin, member, ⟨List.count_eq_zero.mp zero, class_⟩, congrArg (InitCall.mk plugin.handle) zero⟩
  · intro unlisted
    obtain ⟨plugin, member, ⟨absent, class_⟩, rfl⟩ := unlisted
    have zero : names.count plugin.name = 0 := List.count_eq_zero.mpr absent
    refine ⟨{ plugin with phaseId := names.count plugin.name }, List.mem_filter.mpr ⟨?_, ?_⟩, ?_⟩
    · exact (order.mem_walk _ _).mpr (List.mem_map_of_mem member)
    · exact decide_eq_true ⟨zero, class_⟩
    · exact congrArg (InitCall.mk plugin.handle) zero

theorem unlisted_handles (order : HashOrder) (table : PluginTable) (opened : Opened table) (names : List String) :
    ((unlistedCalls table.classes (order.walk (counted names table.shPlugins))).map InitCall.handle).Nodup := by
  have handles : (counted names table.shPlugins).map HashNode.handle = table.shPlugins.map HashNode.handle := by
    unfold counted
    rw [List.map_map]
    rfl
  have unique : Keyed.Unique HashNode.handle (counted names table.shPlugins) := by
    rw [Keyed.Unique, handles]
    exact opened.handles
  have walked := Keyed.unique_perm HashNode.handle (order.perm (counted names table.shPlugins)).symm unique
  unfold unlistedCalls
  rw [List.map_map]
  exact walked.sublist (List.filter_sublist.map HashNode.handle)

theorem unlisted_phases (order : HashOrder) (table : PluginTable) (opened : Opened table) (names : List String) (node : HashNode)
    (member : node ∈ table.shPlugins) :
    ((unlistedCalls table.classes (order.walk (counted names table.shPlugins))).filter
      (fun call => call.handle = node.handle)).map InitCall.phaseId = if node.name ∈ names then [] else [0] := by
  have calls := unlisted_call_mem order table.classes table.shPlugins names
  by_cases inside : node.name ∈ names
  · rw [if_pos inside, List.map_eq_nil_iff, List.filter_eq_nil_iff]
    intro call called same
    obtain ⟨plugin, present, ⟨absent, _⟩, rfl⟩ := (calls call).mp called
    have equal := Keyed.unique_mem_eq HashNode.handle opened.handles present member (of_decide_eq_true same)
    exact absent (equal ▸ inside)
  · have called := (calls ⟨node.handle, 0⟩).mpr ⟨node, member, ⟨inside, opened.classes node member⟩, rfl⟩
    have once := List.count_eq_one_of_mem (unlisted_handles order table opened names) (List.mem_map_of_mem called)
    rw [if_neg inside, ← List.replicate_one]
    refine List.eq_replicate_iff.mpr ⟨?_, fun phase had => ?_⟩
    · rw [List.count, List.countP_map, List.countP_eq_length_filter] at once
      rw [List.length_map]
      exact once
    · obtain ⟨call, kept, rfl⟩ := List.mem_map.mp had
      obtain ⟨plugin, _, _, rfl⟩ := (calls call).mp (List.mem_filter.mp kept).1
      rfl

theorem nodes_initialised (order : HashOrder) (table : PluginTable) (opened : Opened table) (pluginsList : Option (List String)) :
    ∃ listed unlisted, (pluginsInitializaton order table pluginsList).calls = listed ++ unlisted ∧
      listed.map InitCall.handle = (pluginsList.getD []).filterMap (fun name =>
        (Keyed.lookup HashNode.name name table.shPlugins).map HashNode.handle) ∧
      (∀ call ∈ unlisted, ∃ node ∈ table.shPlugins, node.name ∉ pluginsList.getD [] ∧ call = ⟨node.handle, 0⟩) ∧
      ∀ node ∈ table.shPlugins,
        ((listed ++ unlisted).filter (fun call => call.handle = node.handle)).map InitCall.phaseId =
          if node.name ∈ pluginsList.getD [] then List.range ((pluginsList.getD []).count node.name) else [0] := by
  have listed := listed_loop table opened (pluginsList.getD [])
  refine ⟨_, _, unlisted_loop table.classes _ _, listed.order, ?_, ?_⟩
  · intro call called
    rw [listed.counts] at called
    obtain ⟨node, member, ⟨absent, _⟩, same⟩ := (unlisted_call_mem order _ _ _ call).mp called
    exact ⟨node, member, absent, same⟩
  · intro node member
    rw [List.filter_append, List.map_append, listed.phases node member, listed.counts,
      unlisted_phases order table opened _ node member]
    by_cases inside : node.name ∈ pluginsList.getD []
    · rw [if_pos inside, if_pos inside, List.append_nil]
    · rw [if_neg inside, if_neg inside, List.count_eq_zero.mpr inside]
      rfl

end OpsSwitchd.Plugins
