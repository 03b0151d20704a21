import Mathlib.Data.List.Basic
import Mathlib.Data.List.Infix

set_option autoImplicit false

namespace Pathnames

section Slashes

variable {α : Type} [DecidableEq α] (slash : α)

-- Of every run of slashes the last one stays.
def collapse : List α → List α
  | [] => []
  | c :: rest => if c = slash ∧ rest.head? = some slash then collapse rest else c :: collapse rest

def skip (path : List α) : List α := path.dropWhile (fun c => decide (c = slash))

def components (path : List α) : List (List α) :=
  (path.splitOnP (fun c => decide (c = slash))).filter (fun name => decide (name ≠ []))

@[simp] theorem collapse_nil : collapse slash [] = [] := rfl

theorem collapse_other (c : α) (rest : List α) (other : c ≠ slash) : collapse slash (c :: rest) = c :: collapse slash rest := by
  rw [collapse, if_neg (fun both => other both.1)]

theorem collapse_slash (rest : List α) : collapse slash (slash :: rest) = slash :: collapse slash (skip slash rest) := by
  induction rest with
  | nil => simp [collapse, skip]
  | cons c rest ih =>
      by_cases same : c = slash
      · subst same
        rw [collapse, if_pos ⟨rfl, rfl⟩, ih]
        simp [skip]
      · rw [collapse, if_neg (by simp [same])]
        simp [skip, same]

theorem skip_take (path : List α) (n : Nat) :
    skip slash (path.take n) = (skip slash path).take (n - (path.length - (skip slash path).length)) := by
  unfold skip
  induction path generalizing n with
  | nil => simp
  | cons c rest ih =>
      have shorter : (rest.dropWhile (fun c => decide (c = slash))).length ≤ rest.length := (List.dropWhile_sublist _).length_le
      cases n with
      | zero => simp
      | succ n =>
          rw [List.take_succ_cons]
          by_cases same : c = slash
          · rw [List.dropWhile_cons_of_pos (by simpa using same), List.dropWhile_cons_of_pos (by simpa using same), ih n,
              List.length_cons]
            congr 1
            omega
          · rw [List.dropWhile_cons_of_neg (by simpa using same), List.dropWhile_cons_of_neg (by simpa using same),
              Nat.sub_self, Nat.sub_zero, List.take_succ_cons]

theorem collapse_cons (c : α) (rest : List α) : ∃ tail, collapse slash (c :: rest) = c :: tail := by
  by_cases same : c = slash
  · subst same
    exact ⟨_, collapse_slash c rest⟩
  · exact ⟨_, collapse_other slash c rest same⟩

theorem collapse_append (first rest : List α) (plain : slash ∉ first) :
    collapse slash (first ++ rest) = first ++ collapse slash rest := by
  induction first with
  | nil => rfl
  | cons c first ih =>
      rw [List.mem_cons, not_or] at plain
      rw [List.cons_append, collapse_other slash c _ (Ne.symm plain.1), ih plain.2, List.cons_append]

theorem collapse_concat_slash (path : List α) : ∃ start, collapse slash (path ++ [slash]) = start ++ [slash] := by
  induction path with
  | nil => exact ⟨[], by simp [collapse]⟩
  | cons c path ih =>
      obtain ⟨start, ended⟩ := ih
      rw [List.cons_append, collapse, ended]
      split
      · exact ⟨start, rfl⟩
      · exact ⟨c :: start, rfl⟩

theorem components_nil : components slash ([] : List α) = [] := by
  simp [components]

theorem components_slash (first rest : List α) :
    components slash (first ++ slash :: rest) = components slash first ++ components slash rest := by
  unfold components
  rw [List.splitOnP_append_cons first rest (by simp), List.filter_append]

theorem components_cons_slash (rest : List α) : components slash (slash :: rest) = components slash rest := by
  have cut := components_slash slash [] rest
  rwa [components_nil] at cut

theorem components_concat_slash (path : List α) : components slash (path ++ [slash]) = components slash path := by
  rw [components_slash, components_nil, List.append_nil]

theorem components_plain (name : List α) (nonempty : name ≠ []) (plain : slash ∉ name) : components slash name = [name] := by
  unfold components
  rw [List.splitOnP_eq_singleton (fun c member => by
    rw [decide_eq_false_iff_not]
    exact fun same => plain (same ▸ member))]
  simp [nonempty]

theorem components_skip (path : List α) : components slash (skip slash path) = components slash path := by
  induction path with
  | nil => rfl
  | cons c path ih =>
      by_cases same : c = slash
      · subst same
        rw [components_cons_slash, ← ih]
        simp [skip]
      · simp [skip, same]

theorem components_collapse (path : List α) : components slash (collapse slash path) = components slash path := by
  -- The induction is on the length: the path is cut at its first slash, and the
  -- rest of that run of slashes is skipped.
  induction size : path.length using Nat.strong_induction_on generalizing path with
  | _ n ih =>
      by_cases member : slash ∈ path
      · obtain ⟨first, rest, rfl, plain⟩ := List.eq_append_cons_of_mem member
        have shorter : (skip slash rest).length < n := by
          have bound : (skip slash rest).length ≤ rest.length := (List.dropWhile_sublist _).length_le
          rw [List.length_append, List.length_cons] at size
          omega
        rw [collapse_append slash first _ plain, collapse_slash, components_slash, components_slash,
          ih _ shorter (skip slash rest) rfl, components_skip]
      · have kept := collapse_append slash path [] member
        rw [List.append_nil, collapse, List.append_nil] at kept
        rw [kept]

theorem components_of_prefix (directory path : List α) (starts : collapse slash (directory ++ [slash]) <+: collapse slash path) :
    components slash directory <+: components slash path := by
  obtain ⟨rest, whole⟩ := starts
  obtain ⟨start, ended⟩ := collapse_concat_slash slash directory
  have head : components slash start = components slash directory := by
    rw [← components_concat_slash slash start, ← ended, components_collapse, components_concat_slash]
  refine ⟨components slash rest, ?_⟩
  rw [← components_collapse slash path, ← whole, ended, List.append_assoc, List.singleton_append, components_slash, head]

end Slashes

section Resolution

variable {ν : Type} [DecidableEq ν] (here up : ν)

def enter (base : List ν) (name : ν) : List ν :=
  if name = here then base else if name = up then base.dropLast else base ++ [name]

def resolve (base names : List ν) : List ν := names.foldl (enter here up) base

-- A sequence of names without a base: how far it climbs, and what it then
-- enters.
structure Relative (ν : Type) where
  climbs : Nat
  names : List ν
deriving DecidableEq, Repr

def Relative.enter (relative : Relative ν) (name : ν) : Relative ν :=
  if name = here then relative
  else if name = up then
    if relative.names = [] then ⟨relative.climbs + 1, []⟩ else ⟨relative.climbs, relative.names.dropLast⟩
  else ⟨relative.climbs, relative.names ++ [name]⟩

def relative (names : List ν) : Relative ν := names.foldl (Relative.enter here up) ⟨0, []⟩

def Relative.applied (relative : Relative ν) (base : List ν) : List ν :=
  base.take (base.length - relative.climbs) ++ relative.names

theorem enter_applied (base : List ν) (relative : Relative ν) (name : ν) :
    enter here up (relative.applied base) name = (relative.enter here up name).applied base := by
  unfold enter Relative.enter Relative.applied
  by_cases stays : name = here
  · simp [stays]
  · by_cases climbs : name = up
    · rw [if_neg stays, if_pos climbs, if_neg stays, if_pos climbs]
      by_cases empty : relative.names = []
      · simp only [empty, if_true, List.append_nil]
        rw [List.dropLast_eq_take, List.take_take, List.length_take]
        congr 1
        omega
      · simp only [empty, if_false]
        rw [List.dropLast_append_of_ne_nil empty]
    · simp [stays, climbs]

theorem resolve_relative (base names : List ν) : resolve here up base names = (relative here up names).applied base := by
  have general : ∀ start : Relative ν, names.foldl (enter here up) (start.applied base) =
      (names.foldl (Relative.enter here up) start).applied base := by
    induction names with
    | nil => exact fun _ => rfl
    | cons name names ih =>
        intro start
        rw [List.foldl_cons, List.foldl_cons, enter_applied, ih]
  have begun := general ⟨0, []⟩
  rwa [show Relative.applied ⟨0, []⟩ base = base by simp [Relative.applied]] at begun

theorem resolve_append (base first second : List ν) :
    resolve here up base (first ++ second) = resolve here up (resolve here up base first) second :=
  List.foldl_append

theorem resolve_plain (base names : List ν) (plain : ∀ name ∈ names, name ≠ here ∧ name ≠ up) :
    resolve here up base names = base ++ names := by
  induction names generalizing base with
  | nil => exact (List.append_nil base).symm
  | cons name names ih =>
      obtain ⟨notHere, notUp⟩ := plain name List.mem_cons_self
      have step : enter here up base name = base ++ [name] := by rw [enter, if_neg notHere, if_neg notUp]
      rw [resolve, List.foldl_cons, step, ← resolve, ih _ (fun other member => plain other (List.mem_cons_of_mem name member)),
        List.append_assoc, List.singleton_append]

theorem prefix_resolve_iff (base names : List ν) :
    base <+: resolve here up base names ↔
      base.drop (base.length - (relative here up names).climbs) <+: (relative here up names).names := by
  have cut := List.take_append_drop (base.length - (relative here up names).climbs) base
  rw [resolve_relative, Relative.applied]
  conv_lhs => lhs; rw [← cut]
  exact List.prefix_append_right_inj _

end Resolution

end Pathnames
