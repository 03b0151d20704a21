import Mathlib.Data.List.Basic

set_option autoImplicit false

-- A loop over rows of several owners that is meant to act on the rows of one
-- owner. The rows it acts on are recorded in a log.
namespace Bystander

variable {σ α : Type} (step : σ → α → σ) (own : α → Bool) (acts : σ → α → Bool)

def Quiet (s : σ) : List α → Prop
  | [] => True
  | a :: rest => (own a = true → Quiet (step s a) rest) ∧ (own a = false → acts s a = false ∧ Quiet s rest)

variable {step own acts}

theorem foldl_quiet (idle : ∀ s a, acts s a = false → step s a = s) {s : σ} {rows : List α}
    (quiet : Quiet step own acts s rows) : rows.foldl step s = (rows.filter own).foldl step s := by
  induction rows generalizing s with
  | nil => rfl
  | cons a rest ih =>
      cases mine : own a with
      | true => rw [List.filter_cons_of_pos mine, List.foldl_cons, List.foldl_cons, ih (quiet.1 mine)]
      | false =>
          obtain ⟨still, later⟩ := quiet.2 mine
          rw [List.filter_cons_of_neg (by simp [mine]), List.foldl_cons, idle s a still, ih later]

theorem quiet_iff_turns (s : σ) (rows : List α) :
    Quiet step own acts s rows ↔ ∀ before a after, rows = before ++ a :: after → own a = false →
      acts ((before.filter own).foldl step s) a = false := by
  induction rows generalizing s with
  | nil => simp [Quiet]
  | cons b rest ih =>
      constructor
      · intro quiet before a after split foreign
        cases before with
        | nil =>
            obtain ⟨rfl, rfl⟩ := List.cons.inj split
            exact (quiet.2 foreign).1
        | cons first more =>
            obtain ⟨rfl, rfl⟩ := List.cons.inj split
            cases mine : own b with
            | true =>
                rw [List.filter_cons_of_pos mine, List.foldl_cons]
                exact (ih (step s b)).mp (quiet.1 mine) more a after rfl foreign
            | false =>
                rw [List.filter_cons_of_neg (by simp [mine])]
                exact (ih s).mp (quiet.2 mine).2 more a after rfl foreign
      · intro turns
        constructor
        · intro mine
          rw [ih]
          intro before a after split foreign
          have turn := turns (b :: before) a after (congrArg (b :: ·) split) foreign
          rwa [List.filter_cons_of_pos mine, List.foldl_cons] at turn
        · intro mine
          refine ⟨turns [] b rest rfl mine, ?_⟩
          rw [ih]
          intro before a after split foreign
          have turn := turns (b :: before) a after (congrArg (b :: ·) split) foreign
          rwa [List.filter_cons_of_neg (by simp [mine])] at turn

section Log

variable (log : σ → List α) (idle : ∀ s a, acts s a = false → step s a = s)
  (logged : ∀ s a, acts s a = true → log (step s a) = log s ++ [a])

include idle logged

theorem foldl_logs (s : σ) (rows : List α) : ∃ new, log (rows.foldl step s) = log s ++ new := by
  induction rows generalizing s with
  | nil => exact ⟨[], (List.append_nil _).symm⟩
  | cons a rest ih =>
      obtain ⟨new, later⟩ := ih (step s a)
      rw [List.foldl_cons, later]
      cases active : acts s a with
      | false => exact ⟨new, by rw [idle s a active]⟩
      | true => exact ⟨a :: new, by rw [logged s a active, List.append_assoc, List.singleton_append]⟩

theorem quiet_iff_logged (s : σ) (rows : List α) :
    Quiet step own acts s rows ↔ ∃ new, log (rows.foldl step s) = log s ++ new ∧ ∀ a ∈ new, own a = true := by
  induction rows generalizing s with
  | nil => exact ⟨fun _ => ⟨[], (List.append_nil _).symm, fun _ member => nomatch member⟩, fun _ => trivial⟩
  | cons a rest ih =>
      rw [List.foldl_cons]
      cases active : acts s a with
      | false =>
          have still := idle s a active
          rw [still, ← ih s]
          cases mine : own a with
          | true => simp [Quiet, mine, still]
          | false => simp [Quiet, mine, active]
      | true =>
          cases mine : own a with
          | true =>
              simp only [Quiet, mine, true_imp_iff, Bool.true_eq_false, false_imp_iff, and_true]
              rw [ih (step s a), logged s a active]
              constructor
              · rintro ⟨new, later, owned⟩
                refine ⟨a :: new, by rw [later, List.append_assoc, List.singleton_append], ?_⟩
                intro b member
                rcases List.mem_cons.mp member with rfl | old
                · exact mine
                · exact owned b old
              · rintro ⟨new, later, owned⟩
                obtain ⟨rest, tail⟩ := foldl_logs log idle logged (step s a) rest
                rw [logged s a active, List.append_assoc, List.singleton_append] at tail
                have same : new = a :: rest := List.append_cancel_left (later.symm.trans tail)
                refine ⟨rest, by rw [tail, List.append_assoc, List.singleton_append], ?_⟩
                exact fun b member => owned b (by simp [same, member])
          | false =>
              simp only [Quiet, mine, Bool.false_eq_true, false_imp_iff, true_imp_iff, true_and, active, Bool.true_eq_false,
                false_and, false_iff]
              rintro ⟨new, later, owned⟩
              obtain ⟨rest, tail⟩ := foldl_logs log idle logged (step s a) rest
              rw [logged s a active, List.append_assoc, List.singleton_append] at tail
              have same : new = a :: rest := List.append_cancel_left (later.symm.trans tail)
              have foreign := owned a (by simp [same])
              rw [mine] at foreign
              cases foreign

end Log

-- Two loops, one after the other.
theorem quiet_pair_iff_logged {next : σ → α → σ} {more : σ → α → Bool} (log : σ → List α)
    (idle : ∀ s a, acts s a = false → step s a = s) (logged : ∀ s a, acts s a = true → log (step s a) = log s ++ [a])
    (nextIdle : ∀ s a, more s a = false → next s a = s) (nextLogged : ∀ s a, more s a = true → log (next s a) = log s ++ [a])
    (s : σ) (rows : List α) :
    Quiet step own acts s rows ∧ Quiet next own more ((rows.filter own).foldl step s) rows ↔
      ∃ new, log (rows.foldl next (rows.foldl step s)) = log s ++ new ∧ ∀ a ∈ new, own a = true := by
  obtain ⟨first, early⟩ := foldl_logs log idle logged s rows
  obtain ⟨second, late⟩ := foldl_logs log nextIdle nextLogged (rows.foldl step s) rows
  have total : log (rows.foldl next (rows.foldl step s)) = log s ++ (first ++ second) := by
    rw [late, early, List.append_assoc]
  have one : Quiet step own acts s rows ↔ ∀ a ∈ first, own a = true := by
    rw [quiet_iff_logged log idle logged, early]
    simp
  have two : Quiet next own more (rows.foldl step s) rows ↔ ∀ a ∈ second, own a = true := by
    rw [quiet_iff_logged log nextIdle nextLogged, late]
    simp
  have both : (∃ new, log (rows.foldl next (rows.foldl step s)) = log s ++ new ∧ ∀ a ∈ new, own a = true) ↔
      (∀ a ∈ first, own a = true) ∧ ∀ a ∈ second, own a = true := by
    rw [total]
    simp [or_imp, forall_and]
  rw [both, ← one, ← two]
  exact and_congr_right fun quiet => by rw [foldl_quiet idle quiet]

end Bystander
