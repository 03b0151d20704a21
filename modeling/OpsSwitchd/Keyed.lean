import Mathlib.Data.List.Nodup
import Mathlib.Data.List.Perm.Basic

set_option autoImplicit false

namespace Keyed

variable {α κ : Type} (key : α → κ)

def Unique (rows : List α) : Prop := (rows.map key).Nodup

theorem unique_mem_eq {rows : List α} (unique : Unique key rows) {a b : α} (left : a ∈ rows) (right : b ∈ rows)
    (same : key a = key b) : a = b :=
  List.inj_on_of_nodup_map unique left right same

theorem unique_perm {rows other : List α} (same : rows.Perm other) (unique : Unique key rows) : Unique key other :=
  (same.map key).nodup_iff.mp unique

theorem unique_nil : Unique key [] := List.nodup_nil

theorem unique_cons {rows : List α} (unique : Unique key rows) {a : α} (fresh : ∀ b ∈ rows, key b ≠ key a) :
    Unique key (a :: rows) := by
  refine List.nodup_cons.mpr ⟨?_, unique⟩
  intro member
  obtain ⟨b, present, same⟩ := List.mem_map.mp member
  exact fresh b present same

theorem unique_append_singleton {rows : List α} (unique : Unique key rows) {a : α}
    (fresh : ∀ b ∈ rows, key b ≠ key a) : Unique key (rows ++ [a]) :=
  unique_perm key (List.perm_append_singleton a rows).symm (unique_cons key unique fresh)

theorem unique_filter {rows : List α} (unique : Unique key rows) (p : α → Bool) : Unique key (rows.filter p) :=
  unique.sublist ((List.filter_sublist (p := p)).map key)

theorem unique_filterMap {β : Type} (other : β → κ) {rows : List α} (unique : Unique key rows) (f : α → Option β)
    (same : ∀ a ∈ rows, ∀ b, f a = some b → other b = key a) : Unique other (rows.filterMap f) := by
  induction rows with
  | nil => exact List.nodup_nil
  | cons a tail ih =>
      obtain ⟨fresh, rest⟩ := List.nodup_cons.mp unique
      have later := ih rest (fun b member => same b (List.mem_cons_of_mem a member))
      cases found : f a with
      | none =>
          rw [List.filterMap_cons_none found]
          exact later
      | some b =>
          rw [List.filterMap_cons_some found]
          refine unique_cons other later ?_
          intro c member equal
          obtain ⟨before, old, made⟩ := List.mem_filterMap.mp member
          rw [same a List.mem_cons_self b found, same before (List.mem_cons_of_mem a old) c made] at equal
          exact fresh (List.mem_map.mpr ⟨before, old, equal⟩)

theorem forall_filterMap_iff {β : Type} (other : β → κ) (run : α → Option β) {rows : List α} (unique : Unique key rows)
    (kept : ∀ a ∈ rows, ∀ b, run a = some b → other b = key a) (P : α → β → Prop) (Q : α → Prop)
    (agree : ∀ a ∈ rows, ∀ b, run a = some b → (P a b ↔ Q a)) {a : α} (member : a ∈ rows) :
    (∀ b ∈ rows.filterMap run, other b = key a → P a b) ↔ ((run a).isSome → Q a) := by
  constructor
  · intro all done
    obtain ⟨b, made⟩ := Option.isSome_iff_exists.mp done
    exact (agree a member b made).mp (all b (List.mem_filterMap.mpr ⟨a, member, made⟩) (kept a member b made))
  · intro holds b found same
    obtain ⟨source, present, made⟩ := List.mem_filterMap.mp found
    obtain rfl := unique_mem_eq key unique present member ((kept source present b made).symm.trans same)
    exact (agree source present b made).mpr (holds (by rw [made]; rfl))

variable [DecidableEq κ]

instance (rows : List α) : Decidable (Unique key rows) := inferInstanceAs (Decidable (rows.map key).Nodup)

def lookup (k : κ) (rows : List α) : Option α := rows.find? (fun a => key a = k)

def remove (k : κ) (rows : List α) : List α := rows.filter (fun a => key a ≠ k)

def replace (k : κ) (f : α → α) (rows : List α) : List α := rows.map (fun a => if key a = k then f a else a)

def removeAll (ks : List κ) (rows : List α) : List α := rows.filter (fun a => key a ∉ ks)

-- First come, first kept: an entry whose key is already present is dropped.
def addOnce (rows : List α) (a : α) : List α :=
  if (lookup key (key a) rows).isSome then rows else rows ++ [a]

def collect (rows : List α) : List α := rows.foldl (addOnce key) []

theorem lookup_mem {k : κ} {rows : List α} {a : α} (found : lookup key k rows = some a) : a ∈ rows :=
  List.mem_of_find?_eq_some found

theorem lookup_key {k : κ} {rows : List α} {a : α} (found : lookup key k rows = some a) : key a = k := by
  simpa using List.find?_some found

theorem lookup_none_iff {k : κ} {rows : List α} : lookup key k rows = none ↔ ∀ a ∈ rows, key a ≠ k := by
  simp [lookup, List.find?_eq_none]

theorem lookup_some_iff_exists {k : κ} {rows : List α} :
    (lookup key k rows).isSome ↔ ∃ a ∈ rows, key a = k := by
  simp [lookup]

theorem lookup_of_mem {rows : List α} (unique : Unique key rows) {a : α} (member : a ∈ rows) :
    lookup key (key a) rows = some a := by
  cases found : lookup key (key a) rows with
  | none => exact absurd rfl ((lookup_none_iff key).mp found a member)
  | some b => rw [unique_mem_eq key unique (lookup_mem key found) member (lookup_key key found)]

theorem lookup_eq_some_iff {rows : List α} (unique : Unique key rows) {k : κ} {a : α} :
    lookup key k rows = some a ↔ a ∈ rows ∧ key a = k := by
  constructor
  · intro found
    exact ⟨lookup_mem key found, lookup_key key found⟩
  · rintro ⟨member, rfl⟩
    exact lookup_of_mem key unique member

theorem unique_remove {rows : List α} (unique : Unique key rows) (k : κ) : Unique key (remove key k rows) :=
  unique_filter key unique _

theorem mem_remove {k : κ} {rows : List α} {a : α} : a ∈ remove key k rows ↔ a ∈ rows ∧ key a ≠ k := by
  simp [remove]

theorem remove_eq_self {k : κ} {rows : List α} (absent : ∀ a ∈ rows, key a ≠ k) : remove key k rows = rows :=
  List.filter_eq_self.mpr (fun a member => decide_eq_true (absent a member))

theorem replace_perm {rows : List α} (unique : Unique key rows) {a : α} (member : a ∈ rows) (f : α → α) :
    (replace key (key a) f rows).Perm (f a :: remove key (key a) rows) := by
  induction rows with
  | nil => cases member
  | cons b tail ih =>
      obtain ⟨fresh, rest⟩ := List.nodup_cons.mp unique
      have other : ∀ c ∈ tail, key c ≠ key b := fun c present same => fresh (List.mem_map.mpr ⟨c, present, same⟩)
      rcases List.mem_cons.mp member with rfl | later
      · have kept : tail.map (fun c => if key c = key a then f c else c) = tail := by
          conv => rhs; rw [← List.map_id tail]
          exact List.map_congr_left (fun c present => by simp [other c present])
        simp only [replace, List.map_cons, if_true, kept]
        rw [remove, List.filter_cons_of_neg (by simp), ← remove, remove_eq_self key other]
      · have different : key b ≠ key a := (other a later).symm
        simp only [replace, List.map_cons, if_neg different]
        rw [remove, List.filter_cons_of_pos (by simpa using different)]
        exact ((ih rest later).cons b).trans (List.Perm.swap _ _ _)

theorem perm_cons_remove {rows : List α} (unique : Unique key rows) {a : α} (member : a ∈ rows) :
    rows.Perm (a :: remove key (key a) rows) := by
  have same := replace_perm key unique member id
  rwa [replace, show (fun b => if key b = key a then id b else b) = id from funext (fun b => by simp), List.map_id] at same

theorem removeAll_nil (rows : List α) : removeAll key [] rows = rows := by
  simp [removeAll]

theorem removeAll_all {rows removed : List α} (all : ∀ a ∈ rows, a ∈ removed) : removeAll key (removed.map key) rows = [] := by
  refine List.filter_eq_nil_iff.mpr (fun a member => ?_)
  simpa using ⟨a, all a member, rfl⟩

theorem removeAll_remove (k : κ) (ks : List κ) (rows : List α) :
    removeAll key ks (remove key k rows) = removeAll key (k :: ks) rows := by
  simp [removeAll, remove, List.filter_filter, Bool.and_comm]

theorem remove_replace (k : κ) (f : α → α) (same : ∀ a, key a = k → key (f a) = k) (rows : List α) :
    remove key k (replace key k f rows) = remove key k rows := by
  induction rows with
  | nil => rfl
  | cons a rest ih =>
      by_cases here : key a = k
      · simpa [remove, replace, here, same a here] using ih
      · simpa [remove, replace, here] using ih

theorem replace_same (k : κ) (f : α → α) (same : ∀ a, f a = a) (rows : List α) : replace key k f rows = rows := by
  simp [replace, same]

theorem replace_comp {k : κ} {f g : α → α} (same : ∀ a, key a = k → key (f a) = k) (rows : List α) :
    replace key k g (replace key k f rows) = replace key k (fun a => g (f a)) rows := by
  unfold replace
  rw [List.map_map]
  refine List.map_congr_left (fun c _ => ?_)
  by_cases here : key c = k
  · simp [here, same c here]
  · simp [here]

theorem replace_replace {k : κ} {a b : α} (same : key a = k) (rows : List α) :
    replace key k (fun _ => b) (replace key k (fun _ => a) rows) = replace key k (fun _ => b) rows :=
  replace_comp key (fun _ _ => same) rows

theorem map_replace {β : Type} (g : α → β) (k : κ) (f : α → α) (rows : List α)
    (kept : ∀ a ∈ rows, key a = k → g (f a) = g a) : (replace key k f rows).map g = rows.map g := by
  simp only [replace, List.map_map]
  apply List.map_congr_left
  intro a member
  by_cases same : key a = k
  · simpa [same] using kept a member same
  · simp [same]

theorem unique_replace {rows : List α} (unique : Unique key rows) (k : κ) (f : α → α)
    (kept : ∀ a ∈ rows, key a = k → key (f a) = key a) : Unique key (replace key k f rows) := by
  rw [Unique, map_replace key key k f rows kept]
  exact unique

theorem mem_replace {k : κ} {f : α → α} {rows : List α} {a : α} :
    a ∈ replace key k f rows ↔ (a ∈ rows ∧ key a ≠ k) ∨ ∃ b ∈ rows, key b = k ∧ f b = a := by
  simp only [replace, List.mem_map]
  constructor
  · rintro ⟨b, member, rfl⟩
    by_cases same : key b = k
    · exact .inr ⟨b, member, same, by simp [same]⟩
    · exact .inl ⟨by simpa [same] using member, by simp [same]⟩
  · rintro (⟨member, different⟩ | ⟨b, member, same, rfl⟩)
    · exact ⟨a, member, by simp [different]⟩
    · exact ⟨b, member, by simp [same]⟩

theorem lookup_perm {rows other : List α} (same : rows.Perm other) (unique : Unique key rows) (k : κ) :
    lookup key k rows = lookup key k other := by
  apply Option.ext
  intro a
  rw [lookup_eq_some_iff key unique, lookup_eq_some_iff key (unique_perm key same unique), same.mem_iff]

theorem lookup_append (k : κ) (rows other : List α) :
    lookup key k (rows ++ other) = (lookup key k rows).or (lookup key k other) := by
  simp [lookup, List.find?_append]

theorem lookup_cons (k : κ) (a : α) (rows : List α) :
    lookup key k (a :: rows) = if key a = k then some a else lookup key k rows := by
  simp only [lookup, List.find?_cons]
  by_cases same : key a = k <;> simp [same]

theorem lookup_map (k : κ) (f : α → α) (same : ∀ a, key (f a) = key a) (rows : List α) :
    lookup key k (rows.map f) = (lookup key k rows).map f := by
  simp only [lookup, List.find?_map, Function.comp_def, same]

theorem lookup_map_mem {β : Type} (other : β → κ) (k : κ) (f : α → β) {rows : List α} (same : ∀ a ∈ rows, other (f a) = key a) :
    lookup other k (rows.map f) = (lookup key k rows).map f := by
  induction rows with
  | nil => rfl
  | cons a tail ih =>
      rw [List.map_cons, lookup_cons, lookup_cons, same a List.mem_cons_self, ih (fun b member => same b (List.mem_cons_of_mem a member))]
      split <;> rfl

theorem lookup_remove_self (k : κ) (rows : List α) : lookup key k (remove key k rows) = none := by
  rw [lookup_none_iff]
  intro a member
  exact ((mem_remove key).mp member).2

theorem lookup_remove_other {k other : κ} (different : other ≠ k) (rows : List α) :
    lookup key other (remove key k rows) = lookup key other rows := by
  simp only [lookup, remove, List.find?_filter]
  congr 1
  funext a
  by_cases same : key a = other
  · simp [same, different]
  · simp [same]

theorem lookup_replace_other {k other : κ} (different : other ≠ k) (f : α → α) (rows : List α)
    (kept : ∀ a ∈ rows, key a = k → key (f a) = key a) :
    lookup key other (replace key k f rows) = lookup key other rows := by
  induction rows with
  | nil => rfl
  | cons a tail ih =>
      have rest := ih (fun b member => kept b (by simp [member]))
      by_cases same : key a = k
      · have moved : key (f a) = k := (kept a (by simp) same).trans same
        simpa [replace, lookup_cons, same, moved, Ne.symm different] using rest
      · simp only [replace, List.map_cons, if_neg same, lookup_cons]
        by_cases here : key a = other
        · simp [here]
        · simpa [here, replace] using rest

theorem lookup_replace_self (k : κ) (f : α → α) (rows : List α)
    (kept : ∀ a ∈ rows, key a = k → key (f a) = key a) :
    lookup key k (replace key k f rows) = (lookup key k rows).map f := by
  induction rows with
  | nil => rfl
  | cons a tail ih =>
      have rest := ih (fun b member => kept b (by simp [member]))
      by_cases same : key a = k
      · have moved : key (f a) = k := (kept a (by simp) same).trans same
        simp [replace, lookup_cons, same, moved]
      · simpa [replace, lookup_cons, same] using rest

theorem lookup_addOnce (k : κ) (rows : List α) (a : α) :
    lookup key k (addOnce key rows a) = (lookup key k rows).or (if key a = k then some a else none) := by
  by_cases present : (lookup key (key a) rows).isSome
  · rw [addOnce, if_pos present]
    by_cases same : key a = k
    · subst same
      cases found : lookup key (key a) rows with
      | none => simp [found] at present
      | some b => rfl
    · simp [same]
  · rw [addOnce, if_neg present, lookup_append, lookup_cons]
    rfl

theorem lookup_foldl_addOnce (k : κ) (rows acc : List α) :
    lookup key k (rows.foldl (addOnce key) acc) = (lookup key k acc).or (lookup key k rows) := by
  induction rows generalizing acc with
  | nil => simp [lookup]
  | cons a tail ih =>
      rw [List.foldl_cons, ih, lookup_addOnce, lookup_cons, Option.or_assoc]
      by_cases same : key a = k <;> simp [same]

theorem lookup_collect (k : κ) (rows : List α) : lookup key k (collect key rows) = lookup key k rows := by
  rw [collect, lookup_foldl_addOnce]
  rfl

theorem collect_map (f : α → α) (same : ∀ a, key (f a) = key a) (rows : List α) :
    collect key (rows.map f) = (collect key rows).map f := by
  have general : ∀ acc : List α, (rows.map f).foldl (addOnce key) (acc.map f) = (rows.foldl (addOnce key) acc).map f := by
    induction rows with
    | nil => exact fun _ => rfl
    | cons a tail ih =>
        intro acc
        have once : addOnce key (acc.map f) (f a) = (addOnce key acc a).map f := by
          unfold addOnce
          rw [same, lookup_map key (key a) f same acc, Option.isSome_map]
          split
          · rfl
          · rw [List.map_append]
            rfl
        rw [List.map_cons, List.foldl_cons, once]
        exact ih (addOnce key acc a)
  exact general []

theorem unique_addOnce {rows : List α} (unique : Unique key rows) (a : α) : Unique key (addOnce key rows a) := by
  by_cases present : (lookup key (key a) rows).isSome
  · rw [addOnce, if_pos present]
    exact unique
  · rw [addOnce, if_neg present]
    apply unique_append_singleton key unique
    exact (lookup_none_iff key).mp (by simpa using present)

theorem unique_foldl_addOnce (rows : List α) {acc : List α} (unique : Unique key acc) :
    Unique key (rows.foldl (addOnce key) acc) := by
  induction rows generalizing acc with
  | nil => exact unique
  | cons a tail ih => exact ih (unique_addOnce key unique a)

theorem unique_collect (rows : List α) : Unique key (collect key rows) :=
  unique_foldl_addOnce key rows (unique_nil key)

theorem mem_collect_iff {rows : List α} {a : α} : a ∈ collect key rows ↔ lookup key (key a) rows = some a := by
  rw [← lookup_collect, lookup_eq_some_iff key (unique_collect key rows)]
  simp

theorem mem_of_mem_collect {rows : List α} {a : α} (member : a ∈ collect key rows) : a ∈ rows :=
  lookup_mem key ((mem_collect_iff key).mp member)

theorem mem_collect_of_unique {rows : List α} (unique : Unique key rows) {a : α} :
    a ∈ collect key rows ↔ a ∈ rows := by
  rw [mem_collect_iff, lookup_eq_some_iff key unique]
  simp

-- A loop over rows of distinct keys whose body only touches what a view shows
-- at its own key: the view after the loop is one body applied at each key.
theorem foldl_view {σ β : Type} (step : σ → α → σ) (view : σ → κ → β) (effect : α → β → β) (Inv : σ → Prop)
    {rows : List α} (unique : Unique key rows)
    (keep : ∀ s, ∀ a ∈ rows, Inv s → Inv (step s a))
    (here : ∀ s, ∀ a ∈ rows, Inv s → view (step s a) (key a) = effect a (view s (key a)))
    (elsewhere : ∀ s, ∀ a ∈ rows, ∀ k, k ≠ key a → Inv s → view (step s a) k = view s k)
    (start : σ) (initial : Inv start) (k : κ) :
    view (rows.foldl step start) k = (lookup key k rows).elim (view start k) (fun a => effect a (view start k)) := by
  induction rows generalizing start with
  | nil => rfl
  | cons a tail ih =>
      obtain ⟨fresh, rest⟩ := List.nodup_cons.mp unique
      rw [List.foldl_cons, ih rest (fun s b member => keep s b (by simp [member]))
        (fun s b member => here s b (by simp [member])) (fun s b member => elsewhere s b (by simp [member]))
        (step start a) (keep start a (by simp) initial), lookup_cons]
      by_cases same : key a = k
      · subst same
        have absent : lookup key (key a) tail = none :=
          (lookup_none_iff key).mpr (fun b member equal => fresh (List.mem_map.mpr ⟨b, member, equal⟩))
        simp [absent, here start a (by simp) initial]
      · rw [if_neg same, elsewhere start a (by simp) k (Ne.symm same) initial]

theorem foldl_idle {σ : Type} (step : σ → α → σ) {rows : List α} {start : σ} (idle : ∀ a ∈ rows, step start a = start) :
    rows.foldl step start = start := by
  induction rows with
  | nil => rfl
  | cons a tail ih =>
      rw [List.foldl_cons, idle a List.mem_cons_self]
      exact ih (fun b member => idle b (List.mem_cons_of_mem a member))

theorem foldl_keeps {σ : Type} (step : σ → α → σ) (Inv : σ → Prop) {rows : List α}
    (keep : ∀ s, ∀ a ∈ rows, Inv s → Inv (step s a)) {start : σ} (initial : Inv start) :
    Inv (rows.foldl step start) := by
  induction rows generalizing start with
  | nil => exact initial
  | cons a tail ih =>
      exact ih (fun s b member => keep s b (by simp [member])) (keep start a (by simp) initial)

theorem foldl_invariant {σ : Type} (step : σ → α → σ) (rows : List α) (Inv : List α → σ → Prop)
    (keep : ∀ before a after s, rows = before ++ a :: after → Inv before s → Inv (before ++ [a]) (step s a))
    {start : σ} (initial : Inv [] start) : Inv rows (rows.foldl step start) := by
  have general : ∀ after before s, rows = before ++ after → Inv before s → Inv rows (after.foldl step s) := by
    intro after
    induction after with
    | nil =>
        intro before s split holds
        rwa [split, List.append_nil]
    | cons a rest ih =>
        intro before s split holds
        exact ih (before ++ [a]) (step s a) (by simp [split]) (keep before a rest s split holds)
  exact general rows [] start rfl initial

theorem foldl_filter {σ : Type} (step : σ → α → σ) (p : α → Bool) (Inv : σ → Prop) {rows : List α}
    (keep : ∀ s, ∀ a ∈ rows, Inv s → Inv (step s a)) (skip : ∀ s, ∀ a ∈ rows, Inv s → p a = false → step s a = s)
    {start : σ} (initial : Inv start) : rows.foldl step start = (rows.filter p).foldl step start := by
  induction rows generalizing start with
  | nil => rfl
  | cons a tail ih =>
      have rest : ∀ next, Inv next → tail.foldl step next = (tail.filter p).foldl step next := fun next holds =>
        ih (fun s b member => keep s b (by simp [member])) (fun s b member => skip s b (by simp [member])) holds
      cases chosen : p a with
      | true =>
          rw [List.filter_cons_of_pos chosen, List.foldl_cons, List.foldl_cons]
          exact rest (step start a) (keep start a (by simp) initial)
      | false =>
          rw [List.filter_cons_of_neg (by simp [chosen]), List.foldl_cons, skip start a (by simp) initial chosen]
          exact rest start initial

theorem lookup_filterMap {β : Type} (other : β → κ) {rows : List α} (unique : Unique key rows) (f : α → Option β)
    (same : ∀ a b, f a = some b → other b = key a) (k : κ) :
    lookup other k (rows.filterMap f) = (lookup key k rows).bind f := by
  apply Option.ext
  intro b
  rw [lookup_eq_some_iff other (unique_filterMap key other unique f (fun a _ => same a)), List.mem_filterMap,
    Option.bind_eq_some_iff]
  constructor
  · rintro ⟨⟨a, member, made⟩, here⟩
    exact ⟨a, (lookup_eq_some_iff key unique).mpr ⟨member, (same a b made).symm.trans here⟩, made⟩
  · rintro ⟨a, found, made⟩
    exact ⟨⟨a, lookup_mem key found, made⟩, (same a b made).trans (lookup_key key found)⟩

theorem lookup_filter (p : α → Bool) (k : κ) (rows : List α) (passes : ∀ a, key a = k → p a = true) :
    lookup key k (rows.filter p) = lookup key k rows := by
  simp only [lookup, List.find?_filter]
  congr 1
  funext a
  by_cases here : key a = k
  · simp [here, passes a here]
  · simp [here]

theorem lookup_foldl_create {β : Type} (other : β → κ) (make : β → α) (same : ∀ b, key (make b) = other b) (k : κ)
    (rows : List β) (acc : List α) :
    lookup key k (rows.foldl (fun acc b => if (lookup key (other b) acc).isSome then acc else make b :: acc) acc) =
      (lookup key k acc).or ((lookup other k rows).map make) := by
  induction rows generalizing acc with
  | nil => simp [lookup]
  | cons b tail ih =>
      rw [List.foldl_cons, ih, lookup_cons other]
      by_cases here : other b = k
      · subst here
        cases found : lookup key (other b) acc with
        | none => simp [lookup_cons, same]
        | some a => simp [found]
      · rw [if_neg here]
        split
        · rfl
        · rw [lookup_cons, if_neg (by rw [same]; exact here)]

theorem unique_foldl_create {β : Type} (other : β → κ) (make : β → α) (same : ∀ b, key (make b) = other b)
    (rows : List β) {acc : List α} (unique : Unique key acc) :
    Unique key (rows.foldl (fun acc b => if (lookup key (other b) acc).isSome then acc else make b :: acc) acc) := by
  induction rows generalizing acc with
  | nil => exact unique
  | cons b tail ih =>
      refine ih ?_
      dsimp only
      split
      · exact unique
      · rename_i absent
        refine unique_cons key unique (fun a member => ?_)
        rw [same]
        exact (lookup_none_iff key).mp (by simpa using absent) a member

theorem forall_foldl_create {β : Type} (other : β → κ) (make : β → α) (Q : α → Prop) (made : ∀ b, Q (make b)) (rows : List β)
    {acc : List α} (all : ∀ a ∈ acc, Q a) :
    ∀ a ∈ rows.foldl (fun acc b => if (lookup key (other b) acc).isSome then acc else make b :: acc) acc, Q a := by
  refine foldl_keeps _ (fun acc => ∀ a ∈ acc, Q a) (fun acc b _ valid => ?_) all
  split
  · exact valid
  · exact List.forall_mem_cons.mpr ⟨made b, valid⟩

theorem filter_flatMap_absent {β : Type} (tag : β → Option κ) (events : α → List β) (rows : List α)
    (tagged : ∀ a ∈ rows, ∀ event ∈ events a, tag event = some (key a)) {k : κ} (absent : ∀ a ∈ rows, key a ≠ k) :
    (rows.flatMap events).filter (fun event => tag event = some k) = [] := by
  refine List.filter_eq_nil_iff.mpr (fun event member => ?_)
  obtain ⟨a, row, inside⟩ := List.mem_flatMap.mp member
  rw [tagged a row event inside]
  simpa using absent a row

theorem filter_flatMap_untagged {β : Type} (tag : β → Option κ) (events : α → List β) (rows : List α) (k : κ)
    (untagged : ∀ a ∈ rows, ∀ event ∈ events a, tag event = none) :
    (rows.flatMap events).filter (fun event => tag event = some k) = [] := by
  refine List.filter_eq_nil_iff.mpr (fun event member => ?_)
  obtain ⟨a, row, inside⟩ := List.mem_flatMap.mp member
  rw [untagged a row event inside]
  simp

theorem filter_flatMap_key {β : Type} (tag : β → Option κ) (events : α → List β) {rows : List α} (unique : Unique key rows)
    (tagged : ∀ a ∈ rows, ∀ event ∈ events a, tag event = some (key a)) {a : α} (member : a ∈ rows) :
    (rows.flatMap events).filter (fun event => tag event = some (key a)) = events a := by
  obtain ⟨before, after, rfl⟩ := List.append_of_mem member
  rw [Unique, List.map_append, List.map_cons, List.nodup_append, List.nodup_cons] at unique
  obtain ⟨_, ⟨alone, _⟩, apart⟩ := unique
  have own : (events a).filter (fun event => tag event = some (key a)) = events a :=
    List.filter_eq_self.mpr (fun event inside => by simpa using tagged a member event inside)
  have left := filter_flatMap_absent key tag events before (fun b row => tagged b (by simp [row])) (k := key a)
    (fun b row same => apart (key b) (List.mem_map_of_mem row) (key a) (by simp) same)
  have right := filter_flatMap_absent key tag events after (fun b row => tagged b (by simp [row])) (k := key a)
    (fun b row same => alone (same ▸ List.mem_map_of_mem row))
  rw [List.flatMap_append, List.flatMap_cons, List.filter_append, List.filter_append, left, own, right]
  simp

theorem filter_flatMap_filterMap {β γ : Type} (other : γ → κ) (tag : β → Option κ) (events : γ → List β) (f : α → Option γ)
    {rows : List α} (unique : Unique key rows) (same : ∀ a ∈ rows, ∀ b, f a = some b → other b = key a) {walked : List γ}
    (walks : walked.Perm (rows.filterMap f)) (tagged : ∀ b ∈ walked, ∀ event ∈ events b, tag event = some (other b))
    {a : α} (member : a ∈ rows) :
    (walked.flatMap events).filter (fun event => tag event = some (key a)) = (f a).elim [] events := by
  have alone := unique_perm other walks.symm (unique_filterMap key other unique f same)
  cases made : f a with
  | none =>
      refine filter_flatMap_absent other tag events walked tagged (fun b present equal => ?_)
      obtain ⟨row, inside, here⟩ := List.mem_filterMap.mp (walks.mem_iff.mp present)
      have shared : row = a := unique_mem_eq key unique inside member ((same row inside b here).symm.trans equal)
      rw [shared, made] at here
      cases here
  | some b =>
      rw [← same a member b made]
      exact filter_flatMap_key other tag events alone tagged (walks.mem_iff.mpr (List.mem_filterMap.mpr ⟨a, member, made⟩))

theorem foldl_tells {σ β γ : Type} (step : σ × List β → α → σ × List β) (view : β → γ) (Kept : σ → Prop) (events : α → List γ)
    (rows : List α)
    (each : ∀ a ∈ rows, ∀ work, Kept work.1 → Kept (step work a).1 ∧ (step work a).2.map view = work.2.map view ++ events a)
    (work : σ × List β) (kept : Kept work.1) :
    Kept (rows.foldl step work).1 ∧ (rows.foldl step work).2.map view = work.2.map view ++ rows.flatMap events := by
  induction rows generalizing work with
  | nil => exact ⟨kept, (List.append_nil _).symm⟩
  | cons a tail ih =>
      obtain ⟨next, told⟩ := each a List.mem_cons_self work kept
      obtain ⟨last, rest⟩ := ih (fun b member => each b (List.mem_cons_of_mem a member)) (step work a) next
      refine ⟨last, ?_⟩
      rw [List.foldl_cons, rest, told, List.flatMap_cons, List.append_assoc]

theorem foldlM_guard {σ : Type} (step : σ → α → Option σ) (total : σ → α → σ) (ok : α → Bool) {rows : List α}
    (each : ∀ s, ∀ a ∈ rows, step s a = if ok a then some (total s a) else none) (start : σ) :
    rows.foldlM step start = if rows.all ok then some (rows.foldl total start) else none := by
  induction rows generalizing start with
  | nil => rfl
  | cons a tail ih =>
      have rest := ih (fun s b member => each s b (List.mem_cons_of_mem a member))
      rw [List.foldlM_cons, each start a List.mem_cons_self]
      cases chosen : ok a with
      | true => simpa [chosen] using rest (total start a)
      | false => simp [chosen]

end Keyed
