import OpsSwitchd.Controllers
import OpsSwitchd.CText

set_option autoImplicit false

namespace OpsSwitchd.PathnameCursors

open CText (nul strspn)
open Controllers (equalPathnames)
open Pathnames (collapse skip)

def sizeMax : Nat := 0xffffffffffffffff

structure PathString where
  text : List Char
  plain : nul ∉ text
  fits : text.length < sizeMax

def PathString.memory (s : PathString) : List Char := s.text ++ [nul]

inductive PathStep where
  | pastTerminator
  | done (equal : Bool)
  | next (offset : Nat) (a b : List Char)

-- One round of the loop. a and b are the memory from the two cursors up to and
-- with the terminators, and offset is b - b_start.
def stepPathnames (bStoplen offset : Nat) (a b : List Char) : PathStep :=
  if bStoplen ≤ offset then .done true
  else
    match a.head?, b.head? with
    | some c, some d =>
        if c ≠ d then .done false
        else if c = '/' then
          match strspn '/' a, strspn '/' b with
          | some n, some m => .next (offset + m) (a.drop n) (b.drop m)
          | _, _ => .pastTerminator
        else if c = nul then .done true
        else .next (offset + 1) a.tail b.tail
    | _, _ => .pastTerminator

theorem strspn_slash_pos (rest : List Char) (n : Nat) (spanned : strspn '/' ('/' :: rest) = some n) : 0 < n := by
  rw [strspn, if_pos rfl] at spanned
  obtain ⟨m, _, rfl⟩ := Option.map_eq_some_iff.mp spanned
  exact Nat.succ_pos m

theorem step_pathnames_advances (bStoplen offset next : Nat) (a b a' b' : List Char)
    (step : stepPathnames bStoplen offset a b = .next next a' b') : a'.length < a.length := by
  unfold stepPathnames at step
  by_cases stopped : bStoplen ≤ offset
  · rw [if_pos stopped] at step
    cases step
  · rw [if_neg stopped] at step
    cases a with
    | nil => cases step
    | cons c a =>
        cases b with
        | nil => cases step
        | cons d b =>
            simp only [List.head?_cons] at step
            by_cases different : c ≠ d
            · rw [if_pos different] at step
              cases step
            · rw [if_neg different] at step
              by_cases slash : c = '/'
              · subst slash
                rw [if_pos rfl] at step
                split at step
                · rename_i n m spanned _
                  cases step
                  have advanced := strspn_slash_pos a n spanned
                  rw [List.length_drop, List.length_cons]
                  omega
                · cases step
              · rw [if_neg slash] at step
                by_cases ended : c = nul
                · rw [if_pos ended] at step
                  cases step
                · rw [if_neg ended] at step
                  cases step
                  exact Nat.lt_succ_self _

-- none is a run that reads past a terminator.
def comparePathnames (bStoplen offset : Nat) (a b : List Char) : Option Bool :=
  match _step : stepPathnames bStoplen offset a b with
  | .pastTerminator => none
  | .done equal => some equal
  | .next offset a' b' => comparePathnames bStoplen offset a' b'
termination_by a.length
decreasing_by exact step_pathnames_advances bStoplen _ _ a b a' b' _step

theorem compare_done (bStoplen offset : Nat) (a b : List Char) (equal : Bool)
    (step : stepPathnames bStoplen offset a b = .done equal) : comparePathnames bStoplen offset a b = some equal := by
  rw [comparePathnames]
  split <;> simp_all

theorem compare_next (bStoplen offset next : Nat) (a b a' b' : List Char)
    (step : stepPathnames bStoplen offset a b = .next next a' b') :
    comparePathnames bStoplen offset a b = comparePathnames bStoplen next a' b' := by
  rw [comparePathnames]
  split <;> simp_all

theorem step_slash (bStoplen offset : Nat) (a b : List Char) (left : offset < bStoplen) :
    stepPathnames bStoplen offset ('/' :: a ++ [nul]) ('/' :: b ++ [nul]) =
      .next (offset + 1 + (b.length - (skip '/' b).length)) (skip '/' a ++ [nul]) (skip '/' b ++ [nul]) := by
  have shorter := Controllers.skip_length_le b
  obtain ⟨n, spannedA, _, droppedA⟩ := CText.strspn_ended '/' ('/' :: a) [] (by decide)
  obtain ⟨m, spannedB, sizeB, droppedB⟩ := CText.strspn_ended '/' ('/' :: b) [] (by decide)
  have same (path : List Char) : ('/' :: path).dropWhile (fun d => decide (d = '/')) = skip '/' path :=
    List.dropWhile_cons_of_pos (by decide)
  rw [same] at droppedA droppedB sizeB
  have offsets : offset + m = offset + 1 + (b.length - (skip '/' b).length) := by
    rw [List.length_cons] at sizeB
    omega
  unfold stepPathnames
  rw [if_neg (Nat.not_le.mpr left), spannedA, spannedB]
  dsimp only [List.cons_append, List.head?_cons] at droppedA droppedB ⊢
  rw [if_neg (not_not.mpr rfl), if_pos rfl, droppedA, droppedB, offsets]

theorem compare_pathnames_eq (bStoplen offset : Nat) (a b : List Char) (plainA : nul ∉ a) (plainB : nul ∉ b) :
    comparePathnames bStoplen offset (a ++ [nul]) (b ++ [nul]) = some (equalPathnames (some bStoplen) offset a b) := by
  fun_induction equalPathnames (some bStoplen) offset a b with
  | case1 offset a b stopped =>
      have reached : bStoplen ≤ offset := by simpa using stopped
      exact compare_done bStoplen offset _ _ true (if_pos reached)
  | case2 offset running =>
      have left : ¬ bStoplen ≤ offset := by simpa using running
      exact compare_done bStoplen offset _ _ true (by simp [stepPathnames, left, nul])
  | case3 offset running c a d b different =>
      have left : ¬ bStoplen ≤ offset := by simpa using running
      exact compare_done bStoplen offset _ _ false (by simp [stepPathnames, left, different])
  | case4 offset running a d b same ih =>
      obtain rfl : '/' = d := not_not.mp same
      have left : offset < bStoplen := by simpa using running
      have kept (path : List Char) (plain : nul ∉ '/' :: path) : nul ∉ skip '/' path :=
        fun member => plain (List.mem_cons_of_mem _ ((List.dropWhile_sublist _).subset member))
      rw [compare_next bStoplen offset _ _ _ _ _ (step_slash bStoplen offset a b left)]
      exact ih (kept a plainA) (kept b plainB)
  | case5 offset running c a d b same slashless ih =>
      obtain rfl : c = d := not_not.mp same
      have left : ¬ bStoplen ≤ offset := by simpa using running
      rw [List.mem_cons, not_or] at plainA plainB
      have step : stepPathnames bStoplen offset (c :: a ++ [nul]) (c :: b ++ [nul]) =
          .next (offset + 1) (a ++ [nul]) (b ++ [nul]) := by
        simp [stepPathnames, left, slashless, Ne.symm plainA.1]
      rw [compare_next bStoplen offset _ _ _ _ _ step]
      exact ih plainA.2 plainB.2
  | case6 offset a b running notEmpty notBoth =>
      have left : ¬ bStoplen ≤ offset := by simpa using running
      refine compare_done bStoplen offset _ _ false ?_
      cases a with
      | nil =>
          cases b with
          | nil => exact absurd rfl (notEmpty rfl)
          | cons d b =>
              rw [List.mem_cons, not_or] at plainB
              simp [stepPathnames, left, plainB.1]
      | cons c a =>
          cases b with
          | nil =>
              rw [List.mem_cons, not_or] at plainA
              simp [stepPathnames, left, Ne.symm plainA.1]
          | cons d b => exact absurd rfl (notBoth c a d b rfl)

theorem equal_pathnames_unstopped (bStoplen offset : Nat) (a b : List Char) (short : offset + b.length < bStoplen) :
    equalPathnames (some bStoplen) offset a b = equalPathnames none offset a b := by
  fun_induction equalPathnames none offset a b with
  | case1 offset a b stopped => simp at stopped
  | case2 offset running =>
      rw [equalPathnames]
      simp
  | case3 offset running c a d b different =>
      have left : ¬ bStoplen ≤ offset := by omega
      rw [equalPathnames]
      simp [left, different]
  | case4 offset running a d b same ih =>
      have shorter := Controllers.skip_length_le b
      rw [List.length_cons] at short
      rw [← ih (by omega), equalPathnames]
      have left : ¬ bStoplen ≤ offset := by omega
      simp [left, same]
  | case5 offset running c a d b same slashless ih =>
      rw [List.length_cons] at short
      rw [← ih (by omega), equalPathnames]
      have left : ¬ bStoplen ≤ offset := by omega
      simp [left, same, slashless]
  | case6 offset a b running notEmpty notBoth =>
      have left : ¬ bStoplen ≤ offset := by omega
      rw [equalPathnames]
      · simp [left]
      · exact notEmpty
      · exact notBoth

theorem pathnames_compared (a b : PathString) :
    (∃ equal, comparePathnames sizeMax 0 a.memory b.memory = some equal ∧
      (equal = true ↔ collapse '/' a.text = collapse '/' b.text)) ∧
    (∀ n ≤ b.text.length, ∃ equal, comparePathnames n 0 a.memory b.memory = some equal ∧
      (equal = true ↔ collapse '/' (b.text.take n) <+: collapse '/' a.text)) ∧
    ∀ n, (comparePathnames n 0 a.memory b.memory).isSome = true := by
  have compared (n : Nat) := compare_pathnames_eq n 0 a.text b.text a.plain b.plain
  refine ⟨⟨_, compared sizeMax, ?_⟩, fun n bound => ⟨_, compared n, ?_⟩, fun n => ?_⟩
  · have short : 0 + b.text.length < sizeMax := (Nat.zero_add _).trans_lt b.fits
    rw [equal_pathnames_unstopped sizeMax 0 a.text b.text short]
    exact Controllers.equal_pathnames_whole 0 a.text b.text
  · have size : n ≤ 0 + b.text.length := bound.trans (Nat.zero_add _).ge
    exact Controllers.equal_pathnames_prefix n 0 a.text b.text size
  · exact Option.isSome_iff_exists.mpr ⟨_, compared n⟩

end OpsSwitchd.PathnameCursors
