import OpsSwitchd.CText

set_option autoImplicit false

namespace OpsSwitchd.PluginTokens

open CText (nul)

inductive YamlToken where
  | noToken
  | streamStart
  | streamEnd
  | versionDirective
  | tagDirective
  | documentStart
  | documentEnd
  | blockSequenceStart
  | blockMappingStart
  | blockEnd
  | flowSequenceStart
  | flowSequenceEnd
  | flowMappingStart
  | flowMappingEnd
  | blockEntry
  | flowEntry
  | key
  | value
  | alias
  | anchor
  | tag
  | scalar (value : List Char)
deriving DecidableEq, Repr

-- What yaml_parser_scan delivers for one input: the tokens, and after them the
-- end of the stream or, when the scanner or the reader fails, no token ever
-- again. A scalar may hold zero bytes.
structure Scan where
  tokens : List YamlToken
  wellFormed : Bool
  open_ : .streamEnd ∉ tokens

def Scan.token (scan : Scan) (n : Nat) : YamlToken :=
  match scan.tokens[n]? with
  | some token => token
  | none => if scan.wellFormed && n = scan.tokens.length then .streamEnd else .noToken

-- strlen and memcpy take the value up to its first zero byte.
def copyName (value : List Char) : String := String.ofList (value.takeWhile (fun c => decide (c ≠ nul)))

def pushName (names : List String) : YamlToken → List String
  | .scalar value => names ++ [copyName value]
  | _ => names

-- n counts the calls of yaml_parser_scan, whose return code is ignored.
def tokenLoop (scan : Scan) (fuel n : Nat) (names : List String) : Option (List String) :=
  match fuel with
  | 0 => none
  | fuel + 1 =>
      if scan.token n = .streamEnd then some (pushName names (scan.token n))
      else tokenLoop scan fuel (n + 1) (pushName names (scan.token n))

def scalarValue : YamlToken → Option (List Char)
  | .scalar value => some value
  | _ => none

structure TokensRead (scan : Scan) : Prop where
  ends : ∃ fuel names, tokenLoop scan fuel 0 [] = some names
  scalars : scan.wellFormed = true → ∃ fuel, tokenLoop scan fuel 0 [] = some ((scan.tokens.filterMap scalarValue).map String.ofList)

theorem push_name_eq (names : List String) (token : YamlToken) : pushName names token = names ++ (scalarValue token).toList.map copyName := by
  cases token <;> simp [pushName, scalarValue]

theorem token_inside (scan : Scan) (n : Nat) (inside : n < scan.tokens.length) : scan.token n = scan.tokens[n] := by
  unfold Scan.token
  rw [List.getElem?_eq_getElem inside]

theorem token_end (scan : Scan) (ended : scan.wellFormed = true) : scan.token scan.tokens.length = .streamEnd := by
  unfold Scan.token
  rw [List.getElem?_eq_none (Nat.le_refl _), ended]
  simp

theorem token_loop_eq (scan : Scan) (ended : scan.wellFormed = true) (fuel n : Nat) (names : List String)
    (bound : n ≤ scan.tokens.length) :
    tokenLoop scan fuel n names =
      if scan.tokens.length - n < fuel then some (names ++ ((scan.tokens.drop n).filterMap scalarValue).map copyName) else none := by
  induction fuel generalizing n names with
  | zero => rfl
  | succ fuel ih =>
      rw [tokenLoop, push_name_eq]
      rcases Nat.lt_or_eq_of_le bound with inside | last
      · have more : scan.tokens[n] ≠ .streamEnd := fun same => scan.open_ (same ▸ List.getElem_mem inside)
        have scans : scan.tokens.length - (n + 1) < fuel ↔ scan.tokens.length - n < fuel + 1 := by omega
        rw [token_inside scan n inside, if_neg more, ih (n + 1) _ inside, List.append_assoc, List.drop_eq_getElem_cons inside]
        simp only [scans]
        cases found : scalarValue scan.tokens[n] with
        | none =>
            rw [List.filterMap_cons_none found]
            rfl
        | some value =>
            rw [List.filterMap_cons_some found]
            rfl
      · subst last
        rw [token_end scan ended, if_pos rfl, if_pos (by omega), List.drop_length]
        rfl

theorem token_loop_runs_on (scan : Scan) (failed : scan.wellFormed = false) (fuel n : Nat) (names : List String) :
    tokenLoop scan fuel n names = none := by
  have more (n : Nat) : scan.token n ≠ .streamEnd := by
    unfold Scan.token
    cases found : scan.tokens[n]? with
    | none => simp [failed]
    | some token =>
        intro same
        exact scan.open_ (same ▸ List.mem_of_getElem? found)
  induction fuel generalizing n names with
  | zero => rfl
  | succ fuel ih =>
      rw [tokenLoop, if_neg (more n)]
      exact ih (n + 1) _

theorem copy_name_iff (value : List Char) : copyName value = String.ofList value ↔ nul ∉ value := by
  unfold copyName
  rw [String.ofList_inj, List.takeWhile_eq_self_iff]
  constructor
  · intro kept member
    exact of_decide_eq_true (kept nul member) rfl
  · intro plain c member
    exact decide_eq_true (fun same => plain (same ▸ member))

theorem scalar_value_mem (tokens : List YamlToken) (value : List Char) :
    value ∈ tokens.filterMap scalarValue ↔ .scalar value ∈ tokens := by
  rw [List.mem_filterMap]
  constructor
  · intro found
    obtain ⟨token, member, same⟩ := found
    cases token with
    | scalar other => exact Option.some.inj same ▸ member
    | _ => cases same
  · exact fun member => ⟨.scalar value, member, rfl⟩

theorem copied_names_iff (tokens : List YamlToken) :
    (tokens.filterMap scalarValue).map copyName = (tokens.filterMap scalarValue).map String.ofList ↔
      ∀ value, .scalar value ∈ tokens → nul ∉ value := by
  rw [List.map_inj_left]
  simp only [copy_name_iff, scalar_value_mem]

theorem tokens_read_iff (scanner : List UInt8 → Scan) (input : List UInt8) :
    TokensRead (scanner input) ↔
      (scanner input).wellFormed = true ∧ ∀ value, .scalar value ∈ (scanner input).tokens → nul ∉ value := by
  have all (ended : (scanner input).wellFormed = true) (fuel : Nat) :=
    token_loop_eq (scanner input) ended fuel 0 [] (Nat.zero_le _)
  rw [← copied_names_iff]
  constructor
  · intro read
    obtain ⟨fuel, names, reached⟩ := read.ends
    have ended : (scanner input).wellFormed = true := by
      by_contra failed
      rw [token_loop_runs_on (scanner input) (by simpa using failed)] at reached
      cases reached
    obtain ⟨scans, listed⟩ := read.scalars ended
    rw [all ended scans] at listed
    split at listed
    · exact ⟨ended, by simpa using listed⟩
    · cases listed
  · intro good
    obtain ⟨ended, copied⟩ := good
    have reached : tokenLoop (scanner input) ((scanner input).tokens.length + 1) 0 [] =
        some (((scanner input).tokens.filterMap scalarValue).map String.ofList) := by
      rw [all ended, if_pos (by omega), List.drop_zero, copied]
      rfl
    exact ⟨⟨_, _, reached⟩, fun _ => ⟨_, reached⟩⟩

def quoteScan : Scan := ⟨[.streamStart], false, by decide⟩

theorem unterminated_quote_loops : ¬ TokensRead quoteScan := by
  intro read
  obtain ⟨fuel, names, reached⟩ := read.ends
  rw [token_loop_runs_on quoteScan rfl] at reached
  cases reached

end OpsSwitchd.PluginTokens
