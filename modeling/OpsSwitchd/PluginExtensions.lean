import OpsSwitchd.Keyed
import OpsSwitchd.Runs
import Mathlib.Data.List.Induction

set_option autoImplicit false

namespace OpsSwitchd.PluginExtensions

-- struct plugin_extension_interface. A null plugin_interface is none.
structure Extension where
  pluginName : String
  major : Int
  minor : Int
  pluginInterface : Option Nat
deriving DecidableEq, Repr

def einval : Nat := 22

def registerPluginExtension (newExtension : Option Extension) (shExtensions : List Extension) : List Extension × Nat :=
  match newExtension with
  | none => (shExtensions, einval)
  | some extension =>
      match Keyed.lookup Extension.pluginName extension.pluginName shExtensions with
      | none => (shExtensions ++ [extension], 0)
      | some _ => (shExtensions, einval)

def unregisterPluginExtension (pluginName : String) (shExtensions : List Extension) : List Extension × Nat :=
  match Keyed.lookup Extension.pluginName pluginName shExtensions with
  | none => (shExtensions, einval)
  | some _ => (Keyed.remove Extension.pluginName pluginName shExtensions, 0)

def findPluginExtension (shExtensions : List Extension) (pluginName : String) (major minor : Int) : Option Extension × Nat :=
  match Keyed.lookup Extension.pluginName pluginName shExtensions with
  | none => (none, einval)
  | some extension =>
      if major ≠ extension.major then (none, einval)
      else if minor > extension.minor then (none, einval)
      else (some extension, 0)

structure State where
  shExtensions : List Extension
  asicInterface : Option Nat

def findAsicInterface (shExtensions : List Extension) : Option Nat :=
  (findPluginExtension shExtensions "ASIC_PLUGIN" 1 1).1.bind Extension.pluginInterface

def getPluginAsicInterface (state : State) : State × Option Nat :=
  match state.asicInterface with
  | some interface => (state, some interface)
  | none => ({ state with asicInterface := findAsicInterface state.shExtensions }, findAsicInterface state.shExtensions)

inductive Op where
  | register (newExtension : Option Extension)
  | unregister (pluginName : String)
  | getAsicInterface
deriving DecidableEq, Repr

def step (state : State) (op : Op) : State :=
  match op with
  | .register newExtension => { state with shExtensions := (registerPluginExtension newExtension state.shExtensions).1 }
  | .unregister pluginName => { state with shExtensions := (unregisterPluginExtension pluginName state.shExtensions).1 }
  | .getAsicInterface => (getPluginAsicInterface state).1

def reached (history : List Op) : State := Runs.run step ⟨[], none⟩ history

def Standing (history : List Op) (extension : Extension) : Prop :=
  ∃ before after, history = before ++ .register (some extension) :: after ∧
    (∀ other ∈ (reached before).shExtensions, other.pluginName ≠ extension.pluginName) ∧
    .unregister extension.pluginName ∉ after

def freshAnswers : State → List Op → List (Option Nat)
  | _, [] => []
  | state, op :: rest =>
      (if op = .getAsicInterface then [findAsicInterface state.shExtensions] else []) ++ freshAnswers (step state op) rest

section History

theorem standing_snoc (history : List Op) (op : Op) (extension : Extension) :
    Standing (history ++ [op]) extension ↔ (Standing history extension ∧ op ≠ .unregister extension.pluginName) ∨
      (op = .register (some extension) ∧ ∀ other ∈ (reached history).shExtensions, other.pluginName ≠ extension.pluginName) := by
  constructor
  · rintro ⟨before, after, split, free, stays⟩
    rcases List.eq_nil_or_concat after with rfl | ⟨rest, last, rfl⟩
    · obtain ⟨rfl, same⟩ := List.append_inj' split rfl
      exact .inr ⟨(List.cons.inj same).1, free⟩
    · rw [List.concat_eq_append] at split stays
      rw [← List.cons_append, ← List.append_assoc] at split
      obtain ⟨rfl, same⟩ := List.append_inj' split rfl
      obtain rfl := (List.cons.inj same).1
      exact .inl ⟨⟨before, rest, rfl, free, fun member => stays (List.mem_append_left _ member)⟩,
        fun gone => stays (by simp [gone])⟩
  · rintro (⟨⟨before, after, rfl, free, stays⟩, kept⟩ | ⟨rfl, free⟩)
    · refine ⟨before, after ++ [op], by simp, free, fun member => ?_⟩
      rcases List.mem_append.mp member with old | last
      · exact stays old
      · exact kept (List.mem_singleton.mp last).symm
    · exact ⟨history, [], rfl, free, List.not_mem_nil⟩

theorem reached_snoc (history : List Op) (op : Op) : reached (history ++ [op]) = step (reached history) op :=
  Runs.run_snoc _ history op

theorem mem_registered (newExtension : Option Extension) (shExtensions : List Extension) (extension : Extension) :
    extension ∈ (registerPluginExtension newExtension shExtensions).1 ↔ extension ∈ shExtensions ∨
      (newExtension = some extension ∧ ∀ other ∈ shExtensions, other.pluginName ≠ extension.pluginName) := by
  unfold registerPluginExtension
  cases newExtension with
  | none => simp
  | some new =>
      cases found : Keyed.lookup Extension.pluginName new.pluginName shExtensions with
      | none =>
          have free := (Keyed.lookup_none_iff Extension.pluginName).mp found
          simp only [found, List.mem_append, List.mem_singleton]
          refine or_congr_right ⟨?_, fun both => (Option.some.inj both.1).symm⟩
          rintro rfl
          exact ⟨rfl, free⟩
      | some taken =>
          have member := Keyed.lookup_mem Extension.pluginName found
          have name := Keyed.lookup_key Extension.pluginName found
          simp only [found]
          refine (or_iff_left ?_).symm
          rintro ⟨same, free⟩
          obtain rfl := Option.some.inj same
          exact free taken member name

theorem mem_unregistered (pluginName : String) (shExtensions : List Extension) (extension : Extension) :
    extension ∈ (unregisterPluginExtension pluginName shExtensions).1 ↔ extension ∈ shExtensions ∧ extension.pluginName ≠ pluginName := by
  unfold unregisterPluginExtension
  cases found : Keyed.lookup Extension.pluginName pluginName shExtensions with
  | none =>
      have free := (Keyed.lookup_none_iff Extension.pluginName).mp found
      exact ⟨fun member => ⟨member, free extension member⟩, And.left⟩
  | some taken => exact Keyed.mem_remove Extension.pluginName

theorem get_asic_interface (state : State) :
    (getPluginAsicInterface state).1.asicInterface = state.asicInterface.or (findAsicInterface state.shExtensions) ∧
      (getPluginAsicInterface state).2 = state.asicInterface.or (findAsicInterface state.shExtensions) := by
  unfold getPluginAsicInterface
  cases held : state.asicInterface with
  | none => exact ⟨rfl, rfl⟩
  | some interface => exact ⟨held, rfl⟩

theorem get_asic_table (state : State) : (getPluginAsicInterface state).1.shExtensions = state.shExtensions := by
  unfold getPluginAsicInterface
  split <;> rfl

theorem mem_reached_iff (history : List Op) (extension : Extension) :
    extension ∈ (reached history).shExtensions ↔ Standing history extension := by
  induction history using List.reverseRecOn with
  | nil =>
      refine ⟨fun member => absurd member List.not_mem_nil, ?_⟩
      rintro ⟨before, after, split, _⟩
      simp at split
  | append_singleton history op ih =>
      rw [reached_snoc, standing_snoc, ← ih]
      cases op with
      | register newExtension =>
          refine (mem_registered newExtension _ extension).trans ?_
          simp
      | unregister pluginName =>
          refine (mem_unregistered pluginName _ extension).trans ?_
          simp [eq_comm]
      | getAsicInterface =>
          rw [step, get_asic_table]
          simp

theorem registered_unique (newExtension : Option Extension) (shExtensions : List Extension)
    (unique : Keyed.Unique Extension.pluginName shExtensions) :
    Keyed.Unique Extension.pluginName (registerPluginExtension newExtension shExtensions).1 := by
  unfold registerPluginExtension
  split
  · exact unique
  · split
    · next free =>
        exact Keyed.unique_append_singleton Extension.pluginName unique ((Keyed.lookup_none_iff Extension.pluginName).mp free)
    · exact unique

theorem unregistered_unique (pluginName : String) (shExtensions : List Extension)
    (unique : Keyed.Unique Extension.pluginName shExtensions) :
    Keyed.Unique Extension.pluginName (unregisterPluginExtension pluginName shExtensions).1 := by
  unfold unregisterPluginExtension
  split
  · exact unique
  · exact Keyed.unique_remove Extension.pluginName unique pluginName

theorem reached_names (history : List Op) : Keyed.Unique Extension.pluginName (reached history).shExtensions := by
  refine Keyed.foldl_keeps step (fun state => Keyed.Unique Extension.pluginName state.shExtensions) (fun state op _ unique => ?_) List.nodup_nil
  cases op with
  | register newExtension => exact registered_unique newExtension _ unique
  | unregister pluginName => exact unregistered_unique pluginName _ unique
  | getAsicInterface =>
      rw [step, get_asic_table]
      exact unique

theorem asic_interface_first (history : List Op) (state : State) :
    (Runs.run step state history).asicInterface = state.asicInterface.or ((freshAnswers state history).findSome? id) := by
  induction history generalizing state with
  | nil => exact (Option.or_none).symm
  | cons op rest ih =>
      refine (ih (step state op)).trans ?_
      rw [freshAnswers, List.findSome?_append]
      cases op with
      | register newExtension => rfl
      | unregister pluginName => rfl
      | getAsicInterface =>
          have same : [findAsicInterface state.shExtensions].findSome? id = findAsicInterface state.shExtensions := by
            cases findAsicInterface state.shExtensions <;> rfl
          rw [if_pos rfl, ← Option.or_assoc, same]
          exact congrArg (Option.or · _) (get_asic_interface state).1

end History

structure FollowsHistory (history : List Op) : Prop where
  find : ∀ pluginName major minor extension,
    findPluginExtension (reached history).shExtensions pluginName major minor = (some extension, 0) ↔
      Standing history extension ∧ extension.pluginName = pluginName ∧ extension.major = major ∧ minor ≤ extension.minor
  refuse : ∀ pluginName major minor, (∀ extension,
    findPluginExtension (reached history).shExtensions pluginName major minor ≠ (some extension, 0)) →
      findPluginExtension (reached history).shExtensions pluginName major minor = (none, einval)
  asic : (getPluginAsicInterface (reached history)).2 =
    (freshAnswers ⟨[], none⟩ (history ++ [.getAsicInterface])).findSome? id

theorem extensions_follow_history (history : List Op) : FollowsHistory history where
  find := fun pluginName major minor extension => by
    rw [← mem_reached_iff]
    unfold findPluginExtension
    cases found : Keyed.lookup Extension.pluginName pluginName (reached history).shExtensions with
    | none =>
        have free := (Keyed.lookup_none_iff Extension.pluginName).mp found
        constructor
        · intro same
          cases same
        · rintro ⟨member, name, _⟩
          exact absurd name (free extension member)
    | some taken =>
        have member := Keyed.lookup_mem Extension.pluginName found
        have name := Keyed.lookup_key Extension.pluginName found
        dsimp only
        constructor
        · intro same
          split at same
          · cases same
          · next version =>
              split at same
              · cases same
              · next newer =>
                  obtain rfl := Option.some.inj (congrArg Prod.fst same)
                  exact ⟨member, name, (not_not.mp version).symm, Int.not_lt.mp newer⟩
        · rintro ⟨present, same, rfl, enough⟩
          obtain rfl := Keyed.unique_mem_eq Extension.pluginName (reached_names history) member present (name.trans same.symm)
          rw [if_neg (not_not.mpr rfl), if_neg (Int.not_lt.mpr enough)]
  refuse := fun pluginName major minor none_ => by
    revert none_
    unfold findPluginExtension
    split
    · exact fun _ => rfl
    · next extension found =>
        split
        · exact fun _ => rfl
        · split
          · exact fun _ => rfl
          · exact fun none_ => absurd rfl (none_ extension)
  asic := by
    have first := asic_interface_first (history ++ [.getAsicInterface]) ⟨[], none⟩
    have answer := get_asic_interface (reached history)
    rw [Runs.run_snoc] at first
    exact (answer.2.trans answer.1.symm).trans (first.trans Option.none_or)

end OpsSwitchd.PluginExtensions
