import OpsSwitchd.PluginPhases

set_option autoImplicit false

namespace OpsSwitchd.Plugins

def Apart (first second : PluginFile) : Prop :=
  ∀ handle name, usable first = some handle → first.name = some name → (usable second).isSome →
    usable second ≠ some handle ∧ second.name ≠ some name

section Opening

def Good (table : PluginTable) : Prop :=
  ∀ entry ∈ table.data, entry.live = true ∧ ∃ node ∈ table.shPlugins, node.handle = entry.handle

structure Exact (files : List PluginFile) (table : PluginTable) : Prop where
  nodes : ∀ node, node ∈ table.shPlugins ↔
    ∃ file ∈ files, usable file = some node.handle ∧ file.name = some node.name ∧ node.phaseId = 0
  data : ∀ entry, entry ∈ table.data ↔
    ∃ file ∈ files, usable file = some entry.handle ∧ file.name.isSome ∧ entry.live = true

theorem exact_good (files : List PluginFile) (table : PluginTable) (exact_ : Exact files table) : Good table := by
  intro entry member
  obtain ⟨file, listed, opens, named, live⟩ := (exact_.data entry).mp member
  obtain ⟨name, given⟩ := Option.isSome_iff_exists.mp named
  exact ⟨live, ⟨name, 0, entry.handle⟩, (exact_.nodes _).mpr ⟨file, listed, opens, given, rfl⟩, rfl⟩

theorem exists_mem_snoc {α : Type} (rows : List α) (last : α) (P : α → Prop) : (∃ a ∈ rows ++ [last], P a) ↔ (∃ a ∈ rows, P a) ∨ P last := by
  simp [or_and_right, exists_or]

theorem exact_unchanged (files : List PluginFile) (file : PluginFile) (table : PluginTable) (sofar : Exact files table)
    (unused : usable file = none ∨ file.name = none) : Exact (files ++ [file]) table where
  nodes := fun node => by
    rw [sofar.nodes, exists_mem_snoc, or_iff_left]
    rintro ⟨opens, named, _⟩
    rcases unused with closed | nameless
    · rw [closed] at opens
      cases opens
    · rw [nameless] at named
      cases named
  data := fun entry => by
    rw [sofar.data, exists_mem_snoc, or_iff_left]
    rintro ⟨opens, named, _⟩
    rcases unused with closed | nameless
    · rw [closed] at opens
      cases opens
    · rw [nameless] at named
      cases named

theorem exact_added (files : List PluginFile) (file : PluginFile) (table : PluginTable) (sofar : Exact files table)
    (handle : Nat) (name : String) (opens : usable file = some handle) (named : file.name = some name) :
    Exact (files ++ [file]) ⟨table.shPlugins ++ [⟨name, 0, handle⟩], ⟨handle, true⟩ :: table.data⟩ where
  nodes := fun node => by
    rw [exists_mem_snoc, List.mem_append, List.mem_singleton, sofar.nodes, opens, named]
    refine or_congr_right ⟨?_, ?_⟩
    · rintro rfl
      exact ⟨rfl, rfl, rfl⟩
    · rintro ⟨held, called, phase⟩
      obtain ⟨name, phaseId, handle⟩ := node
      cases held
      cases called
      cases phase
      rfl
  data := fun entry => by
    rw [exists_mem_snoc, List.mem_cons, sofar.data, opens, named, or_comm]
    refine or_congr_right ⟨?_, ?_⟩
    · rintro rfl
      exact ⟨rfl, rfl, rfl⟩
    · rintro ⟨held, _, live⟩
      obtain ⟨handle, live_⟩ := entry
      cases held
      cases live
      rfl

theorem mem_classes (table : PluginTable) (handle : Nat) : handle ∈ table.classes ↔ ∃ entry ∈ table.data, entry.handle = handle :=
  List.mem_map

theorem exact_step (files : List PluginFile) (file : PluginFile) (table : PluginTable) (sofar : Exact files table)
    (apart : ∀ one ∈ files, Apart one file) : Exact (files ++ [file]) (pluginsOpenPlugin table file) := by
  unfold pluginsOpenPlugin
  cases opens : usable file with
  | none => exact exact_unchanged files file table sofar (.inl opens)
  | some handle =>
      dsimp only
      have fresh : handle ∉ table.classes := by
        intro held
        obtain ⟨entry, member, rfl⟩ := (mem_classes table handle).mp held
        obtain ⟨one, listed, same, named, _⟩ := (sofar.data entry).mp member
        obtain ⟨name, given⟩ := Option.isSome_iff_exists.mp named
        exact (apart one listed entry.handle name same given (by rw [opens]; rfl)).1 opens
      rw [if_neg fresh]
      cases named : file.name with
      | none => exact exact_unchanged files file table sofar (.inr named)
      | some name =>
          have unnamed : ¬ ∃ node ∈ table.shPlugins, node.name = name := by
            rintro ⟨node, member, rfl⟩
            obtain ⟨one, listed, same, given, _⟩ := (sofar.nodes node).mp member
            exact (apart one listed node.handle node.name same given (by rw [opens]; rfl)).2 named
          dsimp only
          rw [Keyed.addOnce, if_neg (fun found => unnamed ((Keyed.lookup_some_iff_exists HashNode.name).mp found))]
          exact exact_added files file table sofar handle name opens named

theorem apart_exact (files : List PluginFile) (apart : files.Pairwise Apart) : Exact files (pluginsOpened files) := by
  induction files using List.reverseRecOn with
  | nil => refine ⟨?_, ?_⟩ <;> simp [pluginsOpened]
  | append_singleton files file ih =>
      obtain ⟨before, _, across⟩ := List.pairwise_append.mp apart
      rw [pluginsOpened, List.foldl_append]
      exact exact_step files file _ (ih before) (fun one member => across one member file List.mem_cons_self)

theorem good_before (table : PluginTable) (file : PluginFile) (good : Good (pluginsOpenPlugin table file)) : Good table := by
  intro entry member
  unfold pluginsOpenPlugin at good
  cases opens : usable file with
  | none =>
      rw [opens] at good
      exact good entry member
  | some handle =>
      rw [opens] at good
      dsimp only at good
      split at good
      · by_cases same : entry.handle = handle
        · have dead := good { entry with live := false } ((Keyed.mem_replace CallerData.handle).mpr (.inr ⟨entry, member, same, rfl⟩))
          exact absurd dead.1 Bool.false_ne_true
        · exact good entry ((Keyed.mem_replace CallerData.handle).mpr (.inl ⟨member, same⟩))
      · next absent =>
          cases named : file.name with
          | none =>
              rw [named] at good
              exact good entry member
          | some name =>
              rw [named] at good
              obtain ⟨live, node, present, same⟩ := good entry (List.mem_cons_of_mem _ member)
              refine ⟨live, node, ?_, same⟩
              dsimp only at present
              unfold Keyed.addOnce at present
              split at present
              · exact present
              · rcases List.mem_append.mp present with old | last
                · exact old
                · rw [List.mem_singleton.mp last] at same
                  exact absurd ((mem_classes table handle).mpr ⟨entry, member, same.symm⟩) absent

theorem good_apart (files : List PluginFile) (file : PluginFile) (table : PluginTable) (opened : Opened table)
    (sofar : Exact files table) (good : Good (pluginsOpenPlugin table file)) : ∀ one ∈ files, Apart one file := by
  intro one member handle name opens named uses
  obtain ⟨other, opensOther⟩ := Option.isSome_iff_exists.mp uses
  unfold pluginsOpenPlugin at good
  rw [opensOther] at good
  dsimp only at good
  split at good
  · next found =>
      obtain ⟨entry, present, same⟩ := (mem_classes table other).mp found
      have dead := good { entry with live := false } ((Keyed.mem_replace CallerData.handle).mpr (.inr ⟨entry, present, same, rfl⟩))
      exact absurd dead.1 Bool.false_ne_true
  · next absent =>
      refine ⟨fun again => ?_, fun again => ?_⟩
      · rw [opensOther] at again
        rw [Option.some.inj again, mem_classes] at absent
        exact absent ⟨⟨handle, true⟩, (sofar.data _).mpr ⟨one, member, opens, by rw [named]; rfl, rfl⟩, rfl⟩
      · rw [again] at good
        have taken : ∃ node ∈ table.shPlugins, node.name = name :=
          ⟨⟨name, 0, handle⟩, (sofar.nodes _).mpr ⟨one, member, opens, named, rfl⟩, rfl⟩
        obtain ⟨_, node, inside, held⟩ := good ⟨other, true⟩ List.mem_cons_self
        dsimp only at inside
        rw [Keyed.addOnce, if_pos ((Keyed.lookup_some_iff_exists HashNode.name).mpr taken)] at inside
        have known := opened.classes node inside
        rw [held] at known
        exact absent known

theorem good_iff_apart (files : List PluginFile) : Good (pluginsOpened files) ↔ files.Pairwise Apart := by
  constructor
  · intro good
    induction files using List.reverseRecOn with
    | nil => exact List.Pairwise.nil
    | append_singleton files file ih =>
        rw [pluginsOpened, List.foldl_append] at good
        have before := ih (good_before _ file good)
        refine List.pairwise_append.mpr ⟨before, List.pairwise_singleton _ _, fun one member last here => ?_⟩
        rw [List.mem_singleton.mp here]
        exact good_apart files file _ (plugins_opened files) (apart_exact files before) good one member
  · exact fun apart => exact_good files _ (apart_exact files apart)

theorem data_of_file (files : List PluginFile) : ∀ entry ∈ (pluginsOpened files).data,
    ∃ file ∈ files, usable file = some entry.handle ∧ file.name.isSome := by
  induction files using List.reverseRecOn with
  | nil => exact fun entry member => absurd member List.not_mem_nil
  | append_singleton files file ih =>
      intro entry member
      rw [exists_mem_snoc]
      rw [pluginsOpened, List.foldl_append] at member
      change entry ∈ (pluginsOpenPlugin (pluginsOpened files) file).data at member
      unfold pluginsOpenPlugin at member
      cases opens : usable file with
      | none =>
          rw [opens] at member
          exact .inl (ih entry member)
      | some handle =>
          rw [opens] at member
          dsimp only at member
          split at member
          · rcases (Keyed.mem_replace CallerData.handle).mp member with ⟨old, _⟩ | ⟨old, present, _, rfl⟩
            · exact .inl (ih entry old)
            · exact .inl (ih old present)
          · cases named : file.name with
            | none =>
                rw [named] at member
                exact .inl (ih entry member)
            | some name =>
                rw [named] at member
                rcases List.mem_cons.mp member with rfl | old
                · exact .inr ⟨rfl, rfl⟩
                · exact .inl (ih entry old)

end Opening

section Initialised

def initPhases (calls : List InitCall) (handle : Nat) : List Nat :=
  (calls.filter (fun call => call.handle = handle)).map InitCall.phaseId

theorem called_of_phases (calls : List InitCall) (handle : Nat) (names : List String) (name : String)
    (phases : initPhases calls handle = if name ∈ names then List.range (names.count name) else [0]) :
    ∃ call ∈ calls, call.handle = handle := by
  have some_ : initPhases calls handle ≠ [] := by
    rw [phases]
    split
    · next inside => exact fun empty => List.count_eq_zero.mp (List.range_eq_nil.mp empty) inside
    · exact List.cons_ne_nil 0 []
  obtain ⟨phase, member⟩ := List.exists_mem_of_ne_nil _ some_
  obtain ⟨call, kept, _⟩ := List.mem_map.mp member
  exact ⟨call, (List.mem_filter.mp kept).1, of_decide_eq_true (List.mem_filter.mp kept).2⟩

theorem init_called_iff (order : HashOrder) (table : PluginTable) (opened : Opened table) (pluginsList : Option (List String)) (handle : Nat) :
    (∃ call ∈ (pluginsInitializaton order table pluginsList).calls, call.handle = handle) ↔
      ∃ node ∈ table.shPlugins, node.handle = handle := by
  obtain ⟨listed, unlisted, calls, inOrder, others, phases⟩ := nodes_initialised order table opened pluginsList
  rw [calls]
  constructor
  · rintro ⟨call, member, rfl⟩
    rcases List.mem_append.mp member with early | late
    · have inside := List.mem_map_of_mem (f := InitCall.handle) early
      rw [inOrder] at inside
      obtain ⟨name, _, found⟩ := List.mem_filterMap.mp inside
      obtain ⟨node, here, same⟩ := Option.map_eq_some_iff.mp found
      exact ⟨node, Keyed.lookup_mem HashNode.name here, same⟩
    · obtain ⟨node, present, _, rfl⟩ := others call late
      exact ⟨node, present, rfl⟩
  · rintro ⟨node, present, rfl⟩
    exact called_of_phases (listed ++ unlisted) node.handle (pluginsList.getD []) node.name (phases node present)

def loadedHandle (files : List PluginFile) (name : String) : Option Nat :=
  (files.find? (fun file => (usable file).isSome && decide (file.name = some name))).bind usable

structure PluginsInitialised (order : HashOrder) (files : List PluginFile) (pluginsList : Option (List String)) : Prop where
  phases : ∀ file ∈ files, ∀ handle name, usable file = some handle → file.name = some name →
    ⟨handle, true⟩ ∈ (pluginsOpened files).data ∧
      initPhases (pluginsInitializaton order (pluginsOpened files) pluginsList).calls handle =
        if name ∈ pluginsList.getD [] then List.range ((pluginsList.getD []).count name) else [0]
  order : ∃ listed unlisted, (pluginsInitializaton order (pluginsOpened files) pluginsList).calls = listed ++ unlisted ∧
    listed.map InitCall.handle = (pluginsList.getD []).filterMap (loadedHandle files) ∧
    ∀ call ∈ unlisted, ∃ file ∈ files, ∃ name, usable file = some call.handle ∧ file.name = some name ∧ name ∉ pluginsList.getD []

theorem loaded_handle_eq (files : List PluginFile) (table : PluginTable) (opened : Opened table) (sofar : Exact files table)
    (name : String) : (Keyed.lookup HashNode.name name table.shPlugins).map HashNode.handle = loadedHandle files name := by
  unfold loadedHandle
  cases found : files.find? (fun file => (usable file).isSome && decide (file.name = some name)) with
  | none =>
      have absent : Keyed.lookup HashNode.name name table.shPlugins = none := by
        refine (Keyed.lookup_none_iff HashNode.name).mpr (fun node member same => ?_)
        obtain ⟨file, listed, opens, named, _⟩ := (sofar.nodes node).mp member
        exact List.find?_eq_none.mp found file listed (by simp [opens, named, same])
      rw [absent]
      rfl
  | some file =>
      have passed := List.find?_some found
      rw [Bool.and_eq_true, decide_eq_true_eq] at passed
      obtain ⟨handle, opens⟩ := Option.isSome_iff_exists.mp passed.1
      have node : (⟨name, 0, handle⟩ : HashNode) ∈ table.shPlugins :=
        (sofar.nodes _).mpr ⟨file, List.mem_of_find?_eq_some found, opens, passed.2, rfl⟩
      rw [Option.bind_some, opens]
      exact congrArg (Option.map HashNode.handle) (Keyed.lookup_of_mem HashNode.name opened.names node)

theorem exact_initialised (order : HashOrder) (files : List PluginFile) (pluginsList : Option (List String))
    (exact_ : Exact files (pluginsOpened files)) : PluginsInitialised order files pluginsList := by
  have opened := plugins_opened files
  obtain ⟨listed, unlisted, calls, inOrder, others, phases⟩ := nodes_initialised order (pluginsOpened files) opened pluginsList
  refine ⟨fun file member handle name opens named => ⟨?_, ?_⟩, listed, unlisted, calls, ?_, fun call late => ?_⟩
  · exact (exact_.data _).mpr ⟨file, member, opens, by rw [named]; rfl, rfl⟩
  · have node : (⟨name, 0, handle⟩ : HashNode) ∈ (pluginsOpened files).shPlugins :=
      (exact_.nodes _).mpr ⟨file, member, opens, named, rfl⟩
    rw [initPhases, calls]
    exact phases _ node
  · rw [inOrder]
    exact List.filterMap_congr (fun name _ => loaded_handle_eq files _ opened exact_ name)
  · obtain ⟨node, member, absent, rfl⟩ := others call late
    obtain ⟨file, listed, opens, named, _⟩ := (exact_.nodes node).mp member
    exact ⟨file, listed, node.name, opens, named, absent⟩

theorem initialised_good (order : HashOrder) (files : List PluginFile) (pluginsList : Option (List String))
    (initialised : PluginsInitialised order files pluginsList) : Good (pluginsOpened files) := by
  intro entry member
  have opened := plugins_opened files
  obtain ⟨file, listed, opens, named⟩ := data_of_file files entry member
  obtain ⟨name, given⟩ := Option.isSome_iff_exists.mp named
  obtain ⟨live, phases⟩ := initialised.phases file listed entry.handle name opens given
  have whole := Keyed.unique_mem_eq CallerData.handle opened.data member live rfl
  refine ⟨by rw [whole], (init_called_iff order _ opened pluginsList entry.handle).mp ?_⟩
  exact called_of_phases _ entry.handle (pluginsList.getD []) name phases

theorem plugins_initialised_iff (order : HashOrder) (files : List PluginFile) (pluginsList : Option (List String)) :
    PluginsInitialised order files pluginsList ↔ files.Pairwise Apart := by
  constructor
  · exact fun initialised => (good_iff_apart files).mp (initialised_good order files pluginsList initialised)
  · exact fun apart => exact_initialised order files pluginsList (apart_exact files apart)

-- Two libraries that ltdl gives one name: a-b.so and a_b.so.
def namedAlike : List PluginFile := [⟨some 0, true, true, true, true, some "a_b"⟩, ⟨some 1, true, true, true, true, some "a_b"⟩]

theorem second_library_uninitialised :
    (pluginsOpened namedAlike).data = [⟨1, true⟩, ⟨0, true⟩] ∧
      (pluginsInitializaton HashOrder.listed (pluginsOpened namedAlike) none).calls = [⟨0, 0⟩] ∧
      ¬ PluginsInitialised HashOrder.listed namedAlike none := by
  refine ⟨by decide, by decide, fun initialised => ?_⟩
  have phases := (initialised.phases ⟨some 1, true, true, true, true, some "a_b"⟩ (by decide) 1 "a_b" rfl rfl).2
  exact absurd phases (by decide)

end Initialised

def CallsSound (order : HashOrder) (pluginsList : Option (List String)) (table : PluginTable) : Prop :=
  ∀ entry ∈ table.data, entry.live = true ∧
    ∃ call ∈ (pluginsInitializaton order table pluginsList).calls, call.handle = entry.handle

theorem plugin_calls_sound_iff (order : HashOrder) (files : List PluginFile) (pluginsList : Option (List String)) :
    CallsSound order pluginsList (pluginsOpened files) ↔ files.Pairwise Apart := by
  have opened := plugins_opened files
  rw [← good_iff_apart]
  unfold CallsSound Good
  refine forall_congr' (fun entry => forall_congr' (fun _ => and_congr_right' ?_))
  exact init_called_iff order _ opened pluginsList entry.handle

end OpsSwitchd.Plugins
