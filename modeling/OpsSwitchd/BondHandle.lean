import OpsSwitchd.CText
import OpsSwitchd.Mirrors
import OpsSwitchd.Runs

set_option autoImplicit false

namespace OpsSwitchd.BondHandle

open Mirrors (smapReplace)

structure Handle where
  value : Int
  low : -2147483648 ≤ value
  high : value ≤ 2147483647
deriving DecidableEq, Repr

def noHandle : Handle := ⟨-1, by decide, by decide⟩

def handleKey : String := "bond_hw_handle"

-- snprintf into 20 bytes.
def formatHandle (h : Handle) : String := String.ofList ((CText.signedDecimal h.value).take 19)

def smapRemove (map : Smap) (name : String) : Smap := Keyed.remove Prod.fst name map

structure BondState where
  bondHwHandle : Option Handle
  status : Smap
deriving DecidableEq, Repr

-- configure carries what ofproto_bundle_get answers.
inductive BondEvent where
  | create
  | configure (answer : Handle)
  | destroy
deriving DecidableEq, Repr

def publishHandle (status : Smap) (prev handle : Handle) : Smap :=
  if prev ≠ handle then
    if handle ≠ noHandle then smapReplace status handleKey (formatHandle handle) else smapRemove status handleKey
  else status

def bondStep (s : BondState) : BondEvent → BondState
  | .create => match s.bondHwHandle with
    | none => { s with bondHwHandle := some noHandle }
    | some _ => s
  | .configure answer => match s.bondHwHandle with
    | none => s
    | some prev => ⟨some answer, publishHandle s.status prev answer⟩
  | .destroy => { s with bondHwHandle := none }

def decimalValue (h : Handle) : String := String.ofList (CText.signedDecimal h.value)

def Published (status : Smap) (h : Handle) : Prop :=
  smapGet status handleKey = if h = noHandle then none else some (decimalValue h)

instance (status : Smap) (h : Handle) : Decidable (Published status h) := inferInstanceAs (Decidable (_ = _))

def ConfigurePublishes (s : BondState) (event : BondEvent) : Prop :=
  ∀ answer, event = .configure answer → s.bondHwHandle.isSome →
    Published (bondStep s event).status answer ∧
      ∀ key, key ≠ handleKey → smapGet (bondStep s event).status key = smapGet s.status key

def NothingStale (s : BondState) (event : BondEvent) : Prop :=
  s.bondHwHandle = some noHandle → event = .configure noHandle → smapGet s.status handleKey = none

def MemoryPublished (s : BondState) : Prop := ∀ h, s.bondHwHandle = some h → h ≠ noHandle → Published s.status h

theorem format_handle_eq (h : Handle) : formatHandle h = decimalValue h := by
  have size := CText.signed_decimal_length h.value h.low h.high
  unfold formatHandle decimalValue
  rw [List.take_of_length_le (Nat.le_trans size (by decide))]

theorem remove_get (map : Smap) (name : String) : smapGet (smapRemove map name) name = none := by
  unfold smapGet smapRemove
  rw [Keyed.lookup_remove_self, Option.map_none]

theorem remove_get_other (map : Smap) (name key : String) (different : key ≠ name) :
    smapGet (smapRemove map name) key = smapGet map key := by
  unfold smapGet smapRemove
  rw [Keyed.lookup_remove_other Prod.fst different]

theorem publish_changed (status : Smap) (prev handle : Handle) (changed : prev ≠ handle) :
    Published (publishHandle status prev handle) handle := by
  unfold publishHandle Published
  rw [if_pos changed]
  by_cases valid : handle = noHandle
  · rw [if_neg (not_not.mpr valid), if_pos valid, remove_get]
  · rw [if_pos valid, if_neg valid, Mirrors.smap_replace_get, format_handle_eq]

theorem publish_other_keys (status : Smap) (prev handle : Handle) (key : String) (different : key ≠ handleKey) :
    smapGet (publishHandle status prev handle) key = smapGet status key := by
  unfold publishHandle
  split
  · split
    · exact Mirrors.smap_replace_get_other status handleKey _ key different
    · exact remove_get_other status handleKey key different
  · rfl

theorem publish_iff (status : Smap) (prev handle : Handle) (memory : prev ≠ noHandle → Published status prev) :
    Published (publishHandle status prev handle) handle ↔
      (prev = noHandle → handle = noHandle → smapGet status handleKey = none) := by
  by_cases same : prev = handle
  · subst same
    have kept : publishHandle status prev prev = status := if_neg (not_not.mpr rfl)
    rw [kept]
    by_cases absent : prev = noHandle
    · subst absent
      unfold Published
      rw [if_pos rfl]
      exact ⟨fun missing _ _ => missing, fun agrees => agrees rfl rfl⟩
    · exact ⟨fun _ none_ => absurd none_ absent, fun _ => memory absent⟩
  · refine ⟨fun _ before after => absurd (before.trans after.symm) same, fun _ => publish_changed status prev handle same⟩

theorem configure_publishes_iff (s : BondState) (event : BondEvent) (memory : MemoryPublished s) :
    ConfigurePublishes s event ↔ NothingStale s event := by
  unfold ConfigurePublishes NothingStale
  cases event with
  | create => simp
  | destroy => simp
  | configure answer =>
      cases held : s.bondHwHandle with
      | none => simp
      | some prev =>
          have after : bondStep s (.configure answer) = ⟨some answer, publishHandle s.status prev answer⟩ := by
            rw [bondStep, held]
          have stale := publish_iff s.status prev answer (memory prev held)
          rw [after]
          constructor
          · intro publishes before asked
            exact stale.mp (publishes answer rfl rfl).1 (Option.some.inj before) (BondEvent.configure.inj asked)
          · intro agrees got same _
            obtain rfl := BondEvent.configure.inj same
            refine ⟨stale.mpr (fun before asked => agrees (before ▸ rfl) (asked ▸ rfl)), ?_⟩
            exact fun key different => publish_other_keys s.status prev answer key different

theorem bond_step_memory (s : BondState) (event : BondEvent) (memory : MemoryPublished s) (agrees : NothingStale s event) :
    MemoryPublished (bondStep s event) := by
  intro h held valid
  cases event with
  | create =>
      cases before : s.bondHwHandle with
      | none =>
          rw [bondStep, before] at held
          exact absurd (Option.some.inj held).symm valid
      | some prev =>
          have same : bondStep s .create = s := by rw [bondStep, before]
          rw [same] at held ⊢
          exact memory h held valid
  | destroy => cases held
  | configure answer =>
      cases before : s.bondHwHandle with
      | none =>
          have same : bondStep s (.configure answer) = s := by rw [bondStep, before]
          rw [same, before] at held
          cases held
      | some prev =>
          have published := (configure_publishes_iff s (.configure answer) memory).mpr agrees answer rfl (by rw [before]; rfl)
          have kept : (bondStep s (.configure answer)).bondHwHandle = some answer := by rw [bondStep, before]
          obtain rfl := Option.some.inj (kept.symm.trans held)
          exact published.1

theorem bond_handle_published_iff (status : Smap) (history : List BondEvent) :
    Runs.Along bondStep ConfigurePublishes ⟨none, status⟩ history ↔
      Runs.Along bondStep NothingStale ⟨none, status⟩ history := by
  have initial : MemoryPublished ⟨none, status⟩ := by
    intro h held
    cases held
  exact Runs.along_congr configure_publishes_iff bond_step_memory initial

theorem published_read (status : Smap) (h : Handle) (published : Published status h) :
    smapGetInt status handleKey (-1) = h.value := by
  unfold smapGetInt
  rw [published]
  by_cases absent : h = noHandle
  · rw [if_pos absent, absent]
    rfl
  · rw [if_neg absent]
    simp [decimalValue, CText.atoi_signed_decimal, CText.to_int_of_range h.value h.low h.high]

def handleFive : Handle := ⟨5, by decide, by decide⟩

-- The second struct port starts without a handle, and the key of the first one
-- stays.
theorem stale_handle_stays :
    ¬ Runs.Along bondStep ConfigurePublishes ⟨none, []⟩
      [.create, .configure handleFive, .destroy, .create, .configure noHandle] := by
  intro all
  have last := (all [.create, .configure handleFive, .destroy, .create] (.configure noHandle) [] rfl noHandle rfl rfl).1
  exact absurd last (by decide)

end OpsSwitchd.BondHandle
