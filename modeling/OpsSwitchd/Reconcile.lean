import OpsSwitchd.Keyed

set_option autoImplicit false

-- A table is brought to a configuration in two passes: the entries that the
-- configuration no longer wants are destroyed, then the missing ones are made.
namespace Reconcile

variable {ρ α β κ : Type} [DecidableEq κ] (rowKey : ρ → κ) (oldKey : α → κ) (key : β → κ)

def createMissing (make : ρ → β) (rows : List ρ) (entries : List β) : List β × List ρ :=
  rows.foldl (fun acc row =>
    if (Keyed.lookup key (rowKey row) acc.1).isSome then acc else (make row :: acc.1, acc.2 ++ [row])) (entries, [])

def destroyed (keep : α → Option β) (old : List α) : List α := old.filter (fun a => (keep a).isNone)

def reconcile (keep : α → Option β) (make : ρ → β) (rows : List ρ) (old : List α) : List β × List ρ :=
  createMissing rowKey key make rows (old.filterMap keep)

theorem create_missing_entries (make : ρ → β) (rows : List ρ) (entries : List β) :
    (createMissing rowKey key make rows entries).1 = rows.foldl (fun acc row =>
      if (Keyed.lookup key (rowKey row) acc).isSome then acc else make row :: acc) entries := by
  have general : ∀ made, (rows.foldl (fun (acc : List β × List ρ) row =>
      if (Keyed.lookup key (rowKey row) acc.1).isSome then acc else (make row :: acc.1, acc.2 ++ [row])) (entries, made)).1 =
      rows.foldl (fun acc row => if (Keyed.lookup key (rowKey row) acc).isSome then acc else make row :: acc) entries := by
    induction rows generalizing entries with
    | nil => exact fun _ => rfl
    | cons row tail ih =>
        intro made
        rw [List.foldl_cons, List.foldl_cons]
        dsimp only
        split
        · exact ih entries made
        · exact ih (make row :: entries) (made ++ [row])
  exact general []

theorem create_missing_none (make : ρ → β) (rows : List ρ) (entries : List β)
    (present : ∀ row ∈ rows, (Keyed.lookup key (rowKey row) entries).isSome) :
    createMissing rowKey key make rows entries = (entries, []) := by
  unfold createMissing
  induction rows with
  | nil => rfl
  | cons row tail ih =>
      rw [List.foldl_cons, if_pos (present row List.mem_cons_self)]
      exact ih (fun other member => present other (List.mem_cons_of_mem row member))

theorem destroyed_nil_iff (keep : α → Option β) (old : List α) : destroyed keep old = [] ↔ ∀ a ∈ old, (keep a).isSome := by
  simp [destroyed, List.filter_eq_nil_iff, Option.isSome_iff_ne_none]

variable (keep : α → Option β) (make : ρ → β)

theorem reconcile_lookup (kept : ∀ a b, keep a = some b → key b = oldKey a) (made : ∀ row, key (make row) = rowKey row)
    (rows : List ρ) {old : List α} (unique : Keyed.Unique oldKey old) (k : κ) :
    Keyed.lookup key k (reconcile rowKey key keep make rows old).1 =
      ((Keyed.lookup oldKey k old).bind keep).or ((Keyed.lookup rowKey k rows).map make) := by
  rw [reconcile, create_missing_entries, Keyed.lookup_foldl_create key rowKey make made,
    Keyed.lookup_filterMap oldKey key unique keep kept]

theorem reconcile_unique (kept : ∀ a b, keep a = some b → key b = oldKey a) (made : ∀ row, key (make row) = rowKey row)
    (rows : List ρ) {old : List α} (unique : Keyed.Unique oldKey old) :
    Keyed.Unique key (reconcile rowKey key keep make rows old).1 := by
  rw [reconcile, create_missing_entries]
  exact Keyed.unique_foldl_create key rowKey make made rows
    (Keyed.unique_filterMap oldKey key unique keep (fun a _ => kept a))

theorem reconcile_keys (kept : ∀ a b, keep a = some b → key b = oldKey a) (made : ∀ row, key (make row) = rowKey row)
    (rows : List ρ) (wanted : ∀ a b, keep a = some b → oldKey a ∈ rows.map rowKey)
    {old : List α} (unique : Keyed.Unique oldKey old) (k : κ) :
    k ∈ (reconcile rowKey key keep make rows old).1.map key ↔ k ∈ rows.map rowKey := by
  have found := reconcile_lookup rowKey oldKey key keep make kept made rows unique k
  rw [List.mem_map, List.mem_map, ← Keyed.lookup_some_iff_exists key, found, ← Keyed.lookup_some_iff_exists rowKey,
    Option.isSome_or, Option.isSome_map, Bool.or_eq_true]
  constructor
  · rintro (before | listed)
    · obtain ⟨b, here⟩ := Option.isSome_iff_exists.mp before
      obtain ⟨a, at_, made⟩ := Option.bind_eq_some_iff.mp here
      have member := wanted a b made
      rw [Keyed.lookup_key oldKey at_] at member
      exact (Keyed.lookup_some_iff_exists rowKey).mpr (List.mem_map.mp member)
    · exact listed
  · exact Or.inr

theorem reconcile_origin (kept : ∀ a b, keep a = some b → key b = oldKey a) (made : ∀ row, key (make row) = rowKey row)
    (rows : List ρ) {old : List α} (unique : Keyed.Unique oldKey old) (b : β)
    (member : b ∈ (reconcile rowKey key keep make rows old).1) :
    (∃ a ∈ old, keep a = some b) ∨ ((∃ row, b = make row) ∧ ∀ a ∈ old, oldKey a = key b → keep a = none) := by
  have found := Keyed.lookup_of_mem key (reconcile_unique rowKey oldKey key keep make kept made rows unique) member
  rw [reconcile_lookup rowKey oldKey key keep make kept made rows unique, Option.or_eq_some_iff] at found
  rcases found with before | ⟨absent, new⟩
  · obtain ⟨a, inside, here⟩ := Option.bind_eq_some_iff.mp before
    exact .inl ⟨a, Keyed.lookup_mem oldKey inside, here⟩
  · obtain ⟨row, _, rfl⟩ := Option.map_eq_some_iff.mp new
    refine .inr ⟨⟨row, rfl⟩, fun a inside same => ?_⟩
    rw [← same, Keyed.lookup_of_mem oldKey unique inside] at absent
    exact absent

theorem reconcile_keeps (kept : ∀ a b, keep a = some b → key b = oldKey a) (made : ∀ row, key (make row) = rowKey row)
    (rows : List ρ) {old : List α} (unique : Keyed.Unique oldKey old) (a : α) (member : a ∈ old) (b : β) (found : keep a = some b) :
    b ∈ (reconcile rowKey key keep make rows old).1 := by
  refine Keyed.lookup_mem key (k := oldKey a) ?_
  rw [reconcile_lookup rowKey oldKey key keep make kept made rows unique, Keyed.lookup_of_mem oldKey unique member, Option.bind_some, found]
  rfl

theorem mem_destroyed {old : List α} {a : α} : a ∈ destroyed keep old ↔ a ∈ old ∧ keep a = none := by
  simp [destroyed]

theorem reconcile_again (kept : ∀ a b, keep a = some b → key b = oldKey a) (rows : List ρ) {old : List α}
    (unique : Keyed.Unique oldKey old) (covers : ∀ row ∈ rows, rowKey row ∈ old.map oldKey) :
    (destroyed keep old = [] ∧ (reconcile rowKey key keep make rows old).2 = []) ↔ ∀ a ∈ old, (keep a).isSome := by
  rw [destroyed_nil_iff]
  constructor
  · exact And.left
  · intro all
    refine ⟨all, ?_⟩
    have present : ∀ row ∈ rows, (Keyed.lookup key (rowKey row) (old.filterMap keep)).isSome := by
      intro row member
      obtain ⟨a, inside, same⟩ := List.mem_map.mp (covers row member)
      rw [Keyed.lookup_filterMap oldKey key unique keep kept, ← same, Keyed.lookup_of_mem oldKey unique inside]
      exact all a inside
    rw [reconcile, create_missing_none rowKey key make rows _ present]

end Reconcile
