import Mathlib.Data.List.Basic
import Mathlib.Data.List.TakeWhile

set_option autoImplicit false

namespace OpsSwitchd.CommandOutput

def newline : UInt8 := 10

def hash : UInt8 := 35

def takeLine (output : List UInt8) : List UInt8 × List UInt8 :=
  match output with
  | [] => ([], [])
  | c :: rest => if c = newline then ([c], rest) else ((c :: (takeLine rest).1), (takeLine rest).2)

theorem take_line_shorter (c : UInt8) (rest : List UInt8) : (takeLine (c :: rest)).2.length < (c :: rest).length := by
  induction rest generalizing c with
  | nil =>
      rw [takeLine]
      split <;> simp [takeLine]
  | cons d rest ih =>
      rw [takeLine]
      split
      · simp
      · exact Nat.lt_trans (ih d) (Nat.lt_succ_self _)

def lines : List UInt8 → List (List UInt8)
  | [] => []
  | c :: rest => (takeLine (c :: rest)).1 :: lines (takeLine (c :: rest)).2
termination_by output => output.length
decreasing_by exact take_line_shorter c rest

structure Getline where
  result : Int
  buf : Option (List UInt8)
  rest : List UInt8

-- At the end of the file getline answers -1. memory is then the first byte of
-- the block it has allocated, or none if it has not allocated one.
def getline (memory : Option UInt8) (output : List UInt8) : Getline :=
  match output with
  | [] => ⟨-1, memory.map (fun c => [c]), []⟩
  | c :: rest => ⟨(takeLine (c :: rest)).1.length, some (takeLine (c :: rest)).1, (takeLine (c :: rest)).2⟩

def toSize (n : Int) : Nat := if 0 ≤ n then n.toNat else (n + 0x10000000000000000).toNat

inductive CmdStep where
  | done (output : Option (List UInt8))
  | next (rest : List UInt8)
  | outside

-- One round of the loop of get_sys_cmd_out. An output is the bytes before the
-- terminator that is stored at nbytes-1.
def cmdStep (memory : Option UInt8) (output : List UInt8) : CmdStep :=
  let line := getline memory output
  let nbytes := toSize line.result
  if nbytes ≤ 0 then .done none
  else
    match line.buf with
    | none => .outside
    | some buf =>
        match buf.head? with
        | none => .outside
        | some c =>
            if c = hash then .next line.rest
            else if c ≠ 0 then
              if nbytes - 1 < buf.length then .done (some (buf.take (nbytes - 1))) else .outside
            else .next line.rest

-- n numbers the calls of getline. none is a loop that has not ended after fuel
-- rounds.
def getSysCmdOut (memory : Nat → Option UInt8) (fuel n : Nat) (output : List UInt8) : Option CmdStep :=
  match fuel with
  | 0 => none
  | fuel + 1 =>
      match cmdStep (memory n) output with
      | .next rest => getSysCmdOut memory fuel (n + 1) rest
      | step => some step

def comment (line : List UInt8) : Bool := line.head? = some hash

def stripNewline (line : List UInt8) : List UInt8 := if line.getLast? = some newline then line.dropLast else line

def expectedOutput (output : List UInt8) : Option (List UInt8) :=
  ((lines output).find? (fun line => !comment line)).map stripNewline

def OutputParsed (memory : Nat → Option UInt8) (output : List UInt8) : Prop :=
  ∃ fuel, getSysCmdOut memory fuel 0 output = some (.done (expectedOutput output))

def FirstLineEnded (output : List UInt8) : Prop :=
  ∃ line, (lines output).find? (fun line => !comment line) = some line ∧ line.head? ≠ some 0 ∧ line.getLast? = some newline

theorem take_line_head (c : UInt8) (rest : List UInt8) : ∃ tail, (takeLine (c :: rest)).1 = c :: tail := by
  rw [takeLine]
  split
  · exact ⟨[], rfl⟩
  · exact ⟨_, rfl⟩

theorem to_size_nat (n : Nat) : toSize n = n := by
  rw [toSize, if_pos (Int.natCast_nonneg n), Int.toNat_natCast]

theorem cmd_step_line (memory : Option UInt8) (c : UInt8) (rest : List UInt8) :
    cmdStep memory (c :: rest) =
      if c = hash then .next (takeLine (c :: rest)).2
      else if c ≠ 0 then .done (some (takeLine (c :: rest)).1.dropLast) else .next (takeLine (c :: rest)).2 := by
  obtain ⟨tail, line⟩ := take_line_head c rest
  unfold cmdStep getline
  dsimp only
  rw [line, to_size_nat]
  simp [List.dropLast_eq_take]

-- -1 is neither below nor equal to zero once it is a size_t.
theorem cmd_step_end (memory : Option UInt8) :
    cmdStep memory [] = .next [] ∨ cmdStep memory [] = .outside := by
  unfold cmdStep getline
  cases memory with
  | none => exact .inr rfl
  | some c =>
      by_cases comment : c = hash
      · exact .inl (by simp [toSize, comment])
      · by_cases zero : c = 0
        · exact .inl (by simp [toSize, zero, hash])
        · exact .inr (by simp [toSize, comment, zero])

theorem cmd_out_end (memory : Nat → Option UInt8) (fuel n : Nat) (result : Option (List UInt8)) :
    getSysCmdOut memory fuel n [] ≠ some (.done result) := by
  induction fuel generalizing n with
  | zero => simp [getSysCmdOut]
  | succ fuel ih =>
      rw [getSysCmdOut]
      rcases cmd_step_end (memory n) with next | outside
      · rw [next]
        exact ih (n + 1)
      · rw [outside]
        simp

def returned (line : List UInt8) : Bool := !comment line && line.head? ≠ some 0

theorem cmd_out_done_iff (memory : Nat → Option UInt8) (n : Nat) (output : List UInt8) (result : Option (List UInt8)) :
    (∃ fuel, getSysCmdOut memory fuel n output = some (.done result)) ↔
      ∃ line, (lines output).find? returned = some line ∧ result = some line.dropLast := by
  fun_induction lines output generalizing n with
  | case1 => simp [cmd_out_end]
  | case2 c rest ih =>
      obtain ⟨tail, line⟩ := take_line_head c rest
      have rounds : (∃ fuel, getSysCmdOut memory fuel n (c :: rest) = some (.done result)) ↔
          ∃ fuel, getSysCmdOut memory (fuel + 1) n (c :: rest) = some (.done result) := by
        constructor
        · intro ended
          obtain ⟨fuel, reached⟩ := ended
          cases fuel with
          | zero => cases reached
          | succ fuel => exact ⟨fuel, reached⟩
        · exact fun ended => ⟨_, ended.choose_spec⟩
      rw [rounds]
      simp only [getSysCmdOut, cmd_step_line]
      by_cases skipped : c = hash ∨ c = 0
      · have passed : returned (takeLine (c :: rest)).1 = false := by
          rw [line]
          rcases skipped with same | same <;> simp [returned, comment, same]
        have next : (if c = hash then CmdStep.next (takeLine (c :: rest)).2
            else if c ≠ 0 then .done (some (takeLine (c :: rest)).1.dropLast) else .next (takeLine (c :: rest)).2) =
              .next (takeLine (c :: rest)).2 := by
          rcases skipped with same | same <;> simp [same, hash]
        rw [next, List.find?_cons, passed]
        exact ih (n + 1)
      · rw [not_or] at skipped
        have kept : returned (takeLine (c :: rest)).1 = true := by
          rw [line]
          simp [returned, comment, skipped]
        rw [if_neg skipped.1, if_pos skipped.2, List.find?_cons, kept]
        simp [eq_comm]

theorem line_nonempty (output line : List UInt8) (member : line ∈ lines output) : line ≠ [] := by
  fun_induction lines output with
  | case1 => cases member
  | case2 c rest ih =>
      rcases List.mem_cons.mp member with rfl | later
      · obtain ⟨tail, started⟩ := take_line_head c rest
        rw [started]
        exact List.cons_ne_nil c tail
      · exact ih later

theorem strip_zero_line (line : List UInt8) (zero : line.head? = some 0) : (stripNewline line).head? = some 0 := by
  unfold stripNewline
  cases line with
  | nil => cases zero
  | cons c rest =>
      obtain rfl : c = 0 := Option.some.inj zero
      cases rest with
      | nil => rfl
      | cons d rest => split <;> rfl

theorem strip_drops_iff (line : List UInt8) (nonempty : line ≠ []) :
    stripNewline line = line.dropLast ↔ line.getLast? = some newline := by
  unfold stripNewline
  by_cases ended : line.getLast? = some newline
  · simp [ended]
  · rw [if_neg ended]
    refine iff_of_false (fun same => ?_) ended
    have sizes := congrArg List.length same
    have positive := List.length_pos_of_ne_nil nonempty
    rw [List.length_dropLast] at sizes
    omega

theorem drop_last_head (line : List UInt8) (nonzero : line.head? ≠ some 0) : line.dropLast.head? ≠ some 0 := by
  cases line with
  | nil => simp
  | cons c rest =>
      cases rest with
      | nil => simp
      | cons d rest => simpa using nonzero

theorem first_returned (output line : List UInt8) (found : (lines output).find? (fun line => !comment line) = some line)
    (nonzero : line.head? ≠ some 0) : (lines output).find? returned = some line := by
  rw [List.find?_eq_some_iff_append] at found ⊢
  obtain ⟨uncommented, before, after, split, comments⟩ := found
  refine ⟨by simp [returned, nonzero, uncommented], before, after, split, fun earlier member => ?_⟩
  simp [returned, comments earlier member]

theorem output_parsed_iff (memory : Nat → Option UInt8) (output : List UInt8) :
    OutputParsed memory output ↔ FirstLineEnded output := by
  unfold OutputParsed FirstLineEnded expectedOutput
  rw [cmd_out_done_iff]
  constructor
  · intro parsed
    obtain ⟨line, found, same⟩ := parsed
    obtain ⟨first, uncommented, stripped⟩ := Option.map_eq_some_iff.mp same
    have usable := List.find?_some found
    have nonempty := line_nonempty output first (List.mem_of_find?_eq_some uncommented)
    have nonzero : first.head? ≠ some 0 := by
      intro zero
      have start := strip_zero_line first zero
      rw [stripped] at start
      exact drop_last_head line (by simpa using (Bool.and_eq_true_iff.mp usable).2) start
    obtain rfl : first = line := Option.some.inj ((first_returned output first uncommented nonzero).symm.trans found)
    exact ⟨first, uncommented, nonzero, (strip_drops_iff first nonempty).mp stripped⟩
  · intro ended
    obtain ⟨line, found, nonzero, last⟩ := ended
    refine ⟨line, first_returned output line found nonzero, ?_⟩
    rw [found, Option.map_some,
      (strip_drops_iff line (line_nonempty output line (List.mem_of_find?_eq_some found))).mpr last]

-- Only a comment: the result -1 of the second getline passes the test, and the
-- terminator goes to the index SIZE_MAX - 1 of the buffer.
theorem comment_only_overruns :
    getSysCmdOut (fun _ => some 65) 2 0 [hash, newline] = some .outside ∧
      ¬ OutputParsed (fun _ => some 65) [hash, newline] := by
  refine ⟨rfl, fun parsed => ?_⟩
  obtain ⟨line, found, _⟩ := (cmd_out_done_iff (fun _ => some 65) 0 [hash, newline] _).mp parsed
  have commented : lines [hash, newline] = [[hash, newline]] := by
    simp [lines, takeLine, hash, newline]
  rw [commented] at found
  cases found

end OpsSwitchd.CommandOutput
