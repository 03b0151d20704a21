import OpsSwitchd.CText
import OpsSwitchd.SetColumn
import Mathlib.Data.List.Lex
import Mathlib.Data.Char

set_option autoImplicit false

namespace OpsSwitchd.Sflow

open CText (strtok atoi decimal)

def defaultVrfName : List Char := ['v', 'r', 'f', '_', 'd', 'e', 'f', 'a', 'u', 'l', 't']

def defaultCollectorPort : Nat := 6343

def maxCollectorLength : Nat := 89

@[ext] structure Collector where
  ip : List Char
  port : Option (List Char)
  vrf : Option (List Char)
deriving DecidableEq, Repr

-- str2prefix, followed by prefix2str when it succeeds. The header counts 49
-- characters for an address.
structure AddressParser where
  str2prefix : List Char → Option (List Char)
  short : ∀ ip text rest, str2prefix ip = some text → strtok ['/'] text = some (ip, rest) → ip.length ≤ 49

inductive CmdResult where
  | success
  | warning
  | ovsdbFailure
deriving DecidableEq, Repr

abbrev SflowTable : Type := Option (List (List Char))

structure Reply where
  code : CmdResult
  text : Option (List Char)
  table : SflowTable

def joinedFields (c : Collector) : List Char :=
  match c.port, c.vrf with
  | none, none => c.ip
  | some port, none => c.ip ++ '/' :: port
  | none, some vrf => c.ip ++ '/' :: vrf
  | some port, some vrf => c.ip ++ '/' :: (port ++ '/' :: vrf)

-- snprintf leaves room for the terminator.
def collectorText (c : Collector) : List Char := (joinedFields c).take (maxCollectorLength - 1)

structure Tokens where
  ip : Option (List Char)
  port : Option (List Char)
  rest : Option (List Char)
deriving DecidableEq, Repr

-- The third call has no delimiters, and takes what is left.
def tokens (target : List Char) : Tokens :=
  let first := strtok ['/'] (target.take maxCollectorLength)
  let second := first.bind (fun token => strtok ['/'] token.2)
  let third := second.bind (fun token => strtok [] token.2)
  ⟨first.map Prod.fst, second.map Prod.fst, third.map Prod.fst⟩

def padding (i : Nat) : List Char := List.replicate (if i = 0 then 9 else 30) ' '

-- Without a third token, a second one that atoi reads as 0 is taken for a VRF.
def shownPort (t : Tokens) : Option (List Char) × Option (List Char) :=
  match t.rest, t.port with
  | none, some port => if atoi port = 0 then (none, some port) else (some port, none)
  | rest, port => (port, rest)

def sflowShowTarget (i : Nat) (target : List Char) : List Char :=
  match (tokens target).ip, shownPort (tokens target) with
  | none, _ => []
  | some _, (some _, some _) => padding i ++ target
  | some _, (some _, none) => padding i ++ (target ++ '/' :: defaultVrfName)
  | some ip, (none, some vrf) => padding i ++ (ip ++ '/' :: (decimal defaultCollectorPort ++ '/' :: vrf))
  | some _, (none, none) => padding i ++ (target ++ '/' :: (decimal defaultCollectorPort ++ '/' :: defaultVrfName))

def alreadyPresent : List Char := "sFlow collector already present.".toList

def maximumReached : List Char := "Maximum of 3 sFlow collectors allowed.".toList

def collectorAddCheck (nTargets : Nat) (c : Collector) (target : List Char) : Option (List Char) :=
  if (tokens target).ip = some c.ip then
    match (tokens target).port, c.port with
    | some token, some port =>
        if port = token then some alreadyPresent else if nTargets = 3 then some maximumReached else none
    | none, none => some alreadyPresent
    | _, _ => none
  else none

def sflowCollectorAdd (targets : List (List Char)) (c : Collector) : Except (List Char) (List (List Char)) :=
  match targets.findSome? (collectorAddCheck targets.length c) with
  | some text => .error text
  | none =>
      if targets.length = 3 then .error maximumReached else .ok (SetColumn.stored (targets ++ [collectorText c]))

def sflowCollectorRemove (targets : List (List Char)) (c : Collector) : Except (List Char) (List (List Char)) :=
  if targets.length = 0 then .error "No sFlow collector present.".toList
  else if collectorText c ∈ targets then .ok (SetColumn.stored (targets.filter (fun target => decide (collectorText c ≠ target))))
  else .error "sFlow collector not found.".toList

-- A transaction that is not aborted is applied.
def changeTargets (table : SflowTable) (c : Collector) (set : Bool) : Reply :=
  match if set then sflowCollectorAdd (table.getD []) c else sflowCollectorRemove (table.getD []) c with
  | .error text => ⟨.success, some text, table⟩
  | .ok targets => ⟨.success, none, some targets⟩

def sflowSetCollector (parser : AddressParser) (table : SflowTable) (c : Collector) (set : Bool) : Reply :=
  match parser.str2prefix c.ip with
  | none => ⟨.warning, some "Malformed address format".toList, table⟩
  | some text =>
      if (strtok ['/'] text).map Prod.fst ≠ some c.ip then
        ⟨.ovsdbFailure, some ("Invalid IP address. Valid address: ".toList ++ ((strtok ['/'] text).map Prod.fst).getD []), table⟩
      else if c.vrf.any (fun vrf => decide (vrf ≠ defaultVrfName)) then
        ⟨.success, some "Only vrf_default is permitted.".toList, table⟩
      else if table.isNone && !set then ⟨.success, some "No sFlow configuration present.".toList, table⟩
      else changeTargets table c set

def portText (p : Fin 65536) : List Char := decimal p.val

structure PortText (text : List Char) : Prop where
  numeral : CText.isNumeral text = true
  short : text.length ≤ 26

structure ValidCollector (c : Collector) : Prop where
  nonempty : c.ip ≠ []
  plain : '/' ∉ c.ip
  short : c.ip.length ≤ 49
  port : ∀ text ∈ c.port, PortText text
  vrf : ∀ text ∈ c.vrf, text = defaultVrfName

theorem port_text_valid (p : Fin 65536) : PortText (portText p) where
  numeral := CText.decimal_numeral p.val
  short := by
    have size : (decimal p.val).length ≤ 5 :=
      (Nat.length_toDigits_le_iff (by decide) (by decide)).mpr (Nat.lt_trans p.isLt (by decide))
    exact Nat.le_trans size (by decide)

theorem port_nonempty (text : List Char) (port : PortText text) : text ≠ [] := CText.numeral_nonempty text port.numeral

theorem port_plain (text : List Char) (port : PortText text) : '/' ∉ text := by
  intro member
  exact absurd (CText.numeral_char text port.numeral '/' member) (by decide)

theorem joined_length (c : Collector) (valid : ValidCollector c) : (joinedFields c).length ≤ 88 := by
  have ip := valid.short
  unfold joinedFields
  cases port : c.port with
  | none =>
      cases vrf : c.vrf with
      | none =>
          dsimp only
          omega
      | some text =>
          obtain rfl := valid.vrf text vrf
          simp only [List.length_append, List.length_cons, defaultVrfName, List.length_nil]
          omega
  | some text =>
      have size := (valid.port text port).short
      cases vrf : c.vrf with
      | none =>
          simp only [List.length_append, List.length_cons]
          omega
      | some name =>
          obtain rfl := valid.vrf name vrf
          simp only [List.length_append, List.length_cons, defaultVrfName, List.length_nil]
          omega

theorem collector_text_eq (c : Collector) (valid : ValidCollector c) : collectorText c = joinedFields c :=
  List.take_of_length_le (Nat.le_trans (joined_length c valid) (by decide))

theorem slash_free (token : List Char) (plain : '/' ∉ token) (c : Char) (member : c ∈ token) : c ∉ ['/'] := by
  rw [List.mem_singleton]
  exact fun same => plain (same ▸ member)

theorem strtok_slash (token rest : List Char) (nonempty : token ≠ []) (plain : '/' ∉ token) :
    strtok ['/'] (token ++ '/' :: rest) = some (token, rest) :=
  CText.strtok_ended ['/'] token ('/' :: rest) nonempty (slash_free token plain) (by simp)

theorem strtok_slash_last (token : List Char) (nonempty : token ≠ []) (plain : '/' ∉ token) :
    strtok ['/'] token = some (token, []) :=
  CText.strtok_last ['/'] token nonempty (slash_free token plain)

theorem default_vrf_plain : '/' ∉ defaultVrfName := by decide

theorem tokens_joined (c : Collector) (valid : ValidCollector c) :
    tokens (collectorText c) = ⟨some c.ip, c.port.or c.vrf, if c.port.isSome then c.vrf else none⟩ := by
  have whole : (joinedFields c).take maxCollectorLength = joinedFields c :=
    List.take_of_length_le (Nat.le_trans (joined_length c valid) (by decide))
  have ip := fun rest => strtok_slash c.ip rest valid.nonempty valid.plain
  unfold tokens
  rw [collector_text_eq c valid, whole]
  unfold joinedFields
  cases port : c.port with
  | none =>
      cases vrf : c.vrf with
      | none => simp [strtok_slash_last c.ip valid.nonempty valid.plain, CText.strtok_nil]
      | some text =>
          obtain rfl := valid.vrf text vrf
          simp [ip, strtok_slash_last defaultVrfName (by decide) default_vrf_plain, CText.strtok_nil]
  | some text =>
      have nonempty := port_nonempty text (valid.port text port)
      have plain := port_plain text (valid.port text port)
      cases vrf : c.vrf with
      | none => simp [ip, strtok_slash_last text nonempty plain, CText.strtok_nil]
      | some name =>
          obtain rfl := valid.vrf name vrf
          simp [ip, strtok_slash text defaultVrfName nonempty plain, CText.strtok_last [] defaultVrfName (by decide) (by simp)]

structure Accepts (parser : AddressParser) (c : Collector) : Prop where
  address : ∃ text rest, parser.str2prefix c.ip = some text ∧ strtok ['/'] text = some (c.ip, rest)
  vrf : ∀ text ∈ c.vrf, text = defaultVrfName

def targetsOf (table : SflowTable) : List (List Char) := table.getD []

def commandTargets (targets : List (List Char)) (c : Collector) (set : Bool) : List (List Char) :=
  match if set then sflowCollectorAdd targets c else sflowCollectorRemove targets c with
  | .error _ => targets
  | .ok changed => changed

theorem set_collector_rejected (parser : AddressParser) (table : SflowTable) (c : Collector) (set : Bool)
    (rejects : ¬ Accepts parser c) : (sflowSetCollector parser table c set).table = table := by
  unfold sflowSetCollector
  cases parsed : parser.str2prefix c.ip with
  | none => rfl
  | some text =>
      dsimp only
      split
      · rfl
      · rename_i canonical
        split
        · rfl
        · rename_i permitted
          refine absurd ⟨⟨text, ?_⟩, fun vrf member => ?_⟩ rejects
          · obtain ⟨token, found, same⟩ := Option.map_eq_some_iff.mp (not_not.mp canonical)
            exact ⟨token.2, parsed, by rw [found, ← same]⟩
          · have member : c.vrf = some vrf := member
            simpa [member] using permitted

theorem change_targets (table : SflowTable) (c : Collector) (set : Bool) :
    targetsOf (changeTargets table c set).table = commandTargets (targetsOf table) c set := by
  unfold changeTargets commandTargets targetsOf
  cases (if set then sflowCollectorAdd (table.getD []) c else sflowCollectorRemove (table.getD []) c) with
  | error text => rfl
  | ok targets => rfl

theorem set_collector_targets (parser : AddressParser) (table : SflowTable) (c : Collector) (set : Bool)
    (accepts : Accepts parser c) :
    targetsOf (sflowSetCollector parser table c set).table = commandTargets (targetsOf table) c set := by
  obtain ⟨text, rest, parsed, token⟩ := accepts.address
  have permitted : c.vrf.any (fun vrf => decide (vrf ≠ defaultVrfName)) = false := by
    cases vrf : c.vrf with
    | none => rfl
    | some name => simp [accepts.vrf name vrf]
  unfold sflowSetCollector
  rw [parsed]
  simp only [token, Option.map_some, ne_eq, not_true_eq_false, if_false, permitted, Bool.false_eq_true]
  split
  · rename_i missing
    rw [Bool.and_eq_true, Option.isNone_iff_eq_none, Bool.not_eq_true'] at missing
    rw [missing.1, missing.2]
    rfl
  · exact change_targets table c set

theorem add_cases (targets : List (List Char)) (c : Collector) :
    commandTargets targets c true = targets ∨
      (targets.length ≠ 3 ∧ commandTargets targets c true = SetColumn.stored (targets ++ [collectorText c])) := by
  unfold commandTargets sflowCollectorAdd
  rw [if_pos rfl]
  cases targets.findSome? (collectorAddCheck targets.length c) with
  | some text => exact Or.inl rfl
  | none =>
      by_cases full : targets.length = 3
      · refine Or.inl ?_
        simp only [if_pos full]
      · refine Or.inr ⟨full, ?_⟩
        simp only [if_neg full]

theorem accepted_valid (parser : AddressParser) (c : Collector) (accepts : Accepts parser c)
    (port : ∀ text ∈ c.port, PortText text) : ValidCollector c := by
  obtain ⟨text, rest, parsed, token⟩ := accepts.address
  obtain ⟨nonempty, free⟩ := CText.strtok_token ['/'] text c.ip rest token
  exact ⟨nonempty, fun member => free '/' member List.mem_cons_self, parser.short c.ip text rest parsed token, port, accepts.vrf⟩

def collectorLine (i : Nat) (c : Collector) : List Char :=
  padding i ++ (c.ip ++ '/' :: (c.port.getD (decimal defaultCollectorPort) ++ '/' :: c.vrf.getD defaultVrfName))

def TakenForVrf (c : Collector) : Prop := c.port.any (fun text => decide (atoi text = 0)) = true ∧ c.vrf = none

instance (c : Collector) : Decidable (TakenForVrf c) := inferInstanceAs (Decidable (_ ∧ _))

theorem shown_stored (i : Nat) (c : Collector) (valid : ValidCollector c) :
    sflowShowTarget i (collectorText c) = collectorLine i c ↔ ¬ TakenForVrf c := by
  have named : atoi defaultVrfName = 0 := by decide
  unfold sflowShowTarget TakenForVrf
  rw [tokens_joined c valid, collector_text_eq c valid]
  unfold shownPort collectorLine joinedFields
  cases port : c.port with
  | none =>
      cases vrf : c.vrf with
      | none => simp
      | some text =>
          obtain rfl := valid.vrf text vrf
          simp [named]
  | some text =>
      cases vrf : c.vrf with
      | some name => simp
      | none =>
          by_cases zero : atoi text = 0
          · have longer : decimal defaultCollectorPort ++ '/' :: text ≠ text ++ '/' :: defaultVrfName := by
              intro same
              have sizes := congrArg List.length same
              have digits : (decimal defaultCollectorPort).length = 4 := by decide
              have name : defaultVrfName.length = 11 := by decide
              simp only [List.length_append, List.length_cons, digits, name] at sizes
              omega
            simpa [zero] using longer
          · simp [zero]

theorem stored_is_text (parser : AddressParser) (table : SflowTable) (c : Collector) (target : List Char)
    (fresh : target ∉ targetsOf table) (kept : target ∈ targetsOf (sflowSetCollector parser table c true).table) :
    Accepts parser c ∧ target = collectorText c := by
  by_cases accepts : Accepts parser c
  · refine ⟨accepts, ?_⟩
    rw [set_collector_targets parser table c true accepts] at kept
    rcases add_cases (targetsOf table) c with same | ⟨_, added⟩
    · rw [same] at kept
      exact absurd kept fresh
    · rw [added, SetColumn.mem_stored, List.mem_append, List.mem_singleton] at kept
      exact kept.resolve_left fresh
  · rw [set_collector_rejected parser table c true accepts] at kept
    exact absurd kept fresh

theorem collector_shown_iff (parser : AddressParser) (table : SflowTable) (ip : List Char) (port : Option (Fin 65536))
    (vrf : Option (List Char)) (target : List Char) (fresh : target ∉ targetsOf table)
    (kept : target ∈ targetsOf (sflowSetCollector parser table ⟨ip, port.map portText, vrf⟩ true).table) (i : Nat) :
    sflowShowTarget i target =
        padding i ++ (ip ++ '/' :: ((port.map portText).getD (decimal 6343) ++ '/' :: vrf.getD defaultVrfName)) ↔
      ¬ (port = some 0 ∧ vrf = none) := by
  obtain ⟨accepts, rfl⟩ := stored_is_text parser table _ target fresh kept
  have ports : ∀ text ∈ port.map portText, PortText text := by
    intro text member
    obtain ⟨p, _, rfl⟩ := Option.map_eq_some_iff.mp member
    exact port_text_valid p
  have zero : TakenForVrf ⟨ip, port.map portText, vrf⟩ ↔ port = some 0 ∧ vrf = none := by
    refine and_congr_left (fun _ => ?_)
    cases port with
    | none => simp
    | some p =>
        rw [Option.map_some, Option.any_some, decide_eq_true_iff, portText, CText.atoi_decimal, Option.some.injEq, Fin.ext_iff]
        exact Int.natCast_eq_zero
  rw [← zero]
  exact shown_stored i ⟨ip, port.map portText, vrf⟩ (accepted_valid parser _ accepts ports)

def sampleIp : List Char := ['1', '0', '.', '0', '.', '0', '.', '1']

def sampleParser : AddressParser where
  str2prefix := fun ip => if ip = sampleIp then some (sampleIp ++ ['/', '3', '2']) else none
  short := by
    intro ip text rest parsed _
    by_cases same : ip = sampleIp
    · rw [same]
      decide
    · rw [if_neg same] at parsed
      cases parsed

theorem port_eighty_shown :
    sflowShowTarget 0 "10.0.0.1/80".toList =
      padding 0 ++ (sampleIp ++ '/' :: (((some 80 : Option (Fin 65536)).map portText).getD (decimal 6343) ++
        '/' :: (none : Option (List Char)).getD defaultVrfName)) :=
  (collector_shown_iff sampleParser none sampleIp (some 80) none "10.0.0.1/80".toList (by decide) (by decide) 0).mpr (by decide)

-- The port is taken for a VRF, and the default port is printed.
theorem port_zero_shown_as_vrf :
    targetsOf (sflowSetCollector sampleParser none ⟨sampleIp, some (portText 0), none⟩ true).table = ["10.0.0.1/0".toList] ∧
      sflowShowTarget 0 "10.0.0.1/0".toList = "         10.0.0.1/6343/0".toList ∧
      sflowShowTarget 0 "10.0.0.1/0".toList ≠ "         10.0.0.1/0/vrf_default".toList := by
  decide

end OpsSwitchd.Sflow
