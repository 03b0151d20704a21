import OpsSwitchd.Port
import OpsSwitchd.Pathnames

set_option autoImplicit false

namespace OpsSwitchd.Controllers

open Pathnames (collapse components resolve relative skip)

-- The end of a list is the terminator of the string, and a stoplen of none is
-- SIZE_MAX, which no string reaches.
def equalPathnames (bStoplen : Option Nat) (offset : Nat) (a b : List Char) : Bool :=
  if bStoplen.any (fun stoplen => decide (stoplen ≤ offset)) then true
  else
    match a, b with
    | [], [] => true
    | c :: a, d :: b =>
        if c ≠ d then false
        else if c = '/' then
          equalPathnames bStoplen (offset + 1 + (b.length - (skip '/' b).length)) (skip '/' a) (skip '/' b)
        else equalPathnames bStoplen (offset + 1) a b
    | _, _ => false
termination_by a.length
decreasing_by
  · exact Nat.lt_succ_of_le (List.dropWhile_sublist _).length_le
  · exact Nat.lt_succ_self _

theorem skip_length_le (path : List Char) : (skip '/' path).length ≤ path.length := (List.dropWhile_sublist _).length_le

theorem equal_pathnames_whole (offset : Nat) (a b : List Char) :
    equalPathnames none offset a b = true ↔ collapse '/' a = collapse '/' b := by
  fun_induction equalPathnames none offset a b with
  | case1 offset a b stopped => simp at stopped
  | case2 => simp
  | case3 offset running c a d b different =>
      obtain ⟨tail, first⟩ := Pathnames.collapse_cons '/' c a
      obtain ⟨other, second⟩ := Pathnames.collapse_cons '/' d b
      simp [first, second, different]
  | case4 offset running a d b same ih =>
      obtain rfl : '/' = d := not_not.mp same
      rw [ih, Pathnames.collapse_slash, Pathnames.collapse_slash, List.cons.injEq, and_iff_right rfl]
  | case5 offset running c a d b same plain ih =>
      obtain rfl : c = d := not_not.mp same
      rw [ih, Pathnames.collapse_other '/' c a plain, Pathnames.collapse_other '/' c b plain, List.cons.injEq, and_iff_right rfl]
  | case6 offset a b running notEmpty notBoth =>
      cases a with
      | nil =>
          cases b with
          | nil => exact absurd rfl (notEmpty rfl)
          | cons d b =>
              obtain ⟨other, second⟩ := Pathnames.collapse_cons '/' d b
              simp [second]
      | cons c a =>
          cases b with
          | nil =>
              obtain ⟨tail, first⟩ := Pathnames.collapse_cons '/' c a
              simp [first]
          | cons d b => exact absurd rfl (notBoth c a d b rfl)

theorem equal_pathnames_prefix (stoplen offset : Nat) (a b : List Char) (size : stoplen ≤ offset + b.length) :
    equalPathnames (some stoplen) offset a b = true ↔ collapse '/' (b.take (stoplen - offset)) <+: collapse '/' a := by
  fun_induction equalPathnames (some stoplen) offset a b with
  | case1 offset a b stopped =>
      have reached : stoplen ≤ offset := by simpa using stopped
      simp [Nat.sub_eq_zero_of_le reached]
  | case2 => simp
  | case3 offset running c a d b different =>
      have left : offset < stoplen := by simpa using running
      obtain ⟨n, more⟩ := Nat.exists_eq_succ_of_ne_zero (Nat.sub_ne_zero_of_lt left)
      obtain ⟨tail, first⟩ := Pathnames.collapse_cons '/' c a
      obtain ⟨other, second⟩ := Pathnames.collapse_cons '/' d (b.take n)
      rw [more, List.take_succ_cons, first, second]
      simp [List.cons_prefix_cons, Ne.symm different]
  | case4 offset running a d b same ih =>
      obtain rfl : '/' = d := not_not.mp same
      have left : offset < stoplen := by simpa using running
      have bound := skip_length_le b
      rw [List.length_cons] at size
      obtain ⟨n, more⟩ := Nat.exists_eq_succ_of_ne_zero (Nat.sub_ne_zero_of_lt left)
      have remaining : stoplen - (offset + 1 + (b.length - (skip '/' b).length)) = n - (b.length - (skip '/' b).length) := by
        omega
      rw [ih (by omega), more, List.take_succ_cons, Pathnames.collapse_slash, Pathnames.collapse_slash, Pathnames.skip_take,
        remaining, List.cons_prefix_cons, and_iff_right rfl]
  | case5 offset running c a d b same plain ih =>
      obtain rfl : c = d := not_not.mp same
      have left : offset < stoplen := by simpa using running
      rw [List.length_cons] at size
      obtain ⟨n, more⟩ := Nat.exists_eq_succ_of_ne_zero (Nat.sub_ne_zero_of_lt left)
      have remaining : stoplen - (offset + 1) = n := by omega
      rw [ih (by omega), more, List.take_succ_cons, Pathnames.collapse_other '/' c a plain,
        Pathnames.collapse_other '/' c _ plain, remaining, List.cons_prefix_cons, and_iff_right rfl]
  | case6 offset a b running notEmpty notBoth =>
      have left : offset < stoplen := by simpa using running
      obtain ⟨n, more⟩ := Nat.exists_eq_succ_of_ne_zero (Nat.sub_ne_zero_of_lt left)
      cases b with
      | nil =>
          rw [List.length_nil] at size
          omega
      | cons d b =>
          cases a with
          | nil =>
              obtain ⟨other, second⟩ := Pathnames.collapse_cons '/' d (b.take n)
              rw [more, List.take_succ_cons, second]
              simp
          | cons c a => exact absurd rfl (notBoth c a d b rfl)

-- dscp is what smap_get_int finds in other_config.
structure ControllerRow where
  target : String
  maxBackoff : Option Int
  inactivityProbe : Option Int
  connectionMode : Option String
  rateLimit : Option Int
  burstLimit : Option Int
  enableAsyncMessages : Option Bool
  dscp : Option Int
deriving DecidableEq, Repr

inductive Band where
  | inBand
  | outOfBand
deriving DecidableEq, Repr

structure OfprotoController where
  target : String
  maxBackoff : Int
  probeInterval : Int
  band : Band
  rateLimit : Int
  burstLimit : Int
  enableAsyncMsgs : Bool
  dscp : Int
deriving DecidableEq, Repr

structure RemotesEnv where
  rundir : String
  dscpDefault : Int

structure RemotesRow where
  controllers : List ControllerRow
  disableInBand : Bool

def bridgeGetControllers (cfg : RemotesRow) : List ControllerRow :=
  if cfg.controllers.map ControllerRow.target = ["none"] then [] else cfg.controllers

theorem get_controllers_targets (cfg : RemotesRow) (row : BridgeRow)
    (same : row.controllers = cfg.controllers.map ControllerRow.target) :
    (bridgeGetControllers cfg).map ControllerRow.target = OpsSwitchd.bridgeGetControllers row := by
  unfold bridgeGetControllers OpsSwitchd.bridgeGetControllers
  rw [same]
  by_cases none : cfg.controllers.map ControllerRow.target = ["none"]
  · rw [if_pos none, if_pos none]
    rfl
  · rw [if_neg none, if_neg none]

def controllerForMgmt (env : RemotesEnv) (bridge : String) : OfprotoController :=
  ⟨"punix:" ++ env.rundir ++ "/" ++ bridge ++ ".mgmt", 0, 60, .outOfBand, 0, 0, true, 0⟩

-- Division of C truncates towards zero.
def controllerFromOvsrec (env : RemotesEnv) (c : ControllerRow) : OfprotoController where
  target := c.target
  maxBackoff := c.maxBackoff.elim 8 (fun backoff => backoff.tdiv 1000)
  probeInterval := c.inactivityProbe.elim 5 (fun probe => probe.tdiv 1000)
  band := if c.connectionMode = none ∨ c.connectionMode = some "in-band" then .inBand else .outOfBand
  rateLimit := c.rateLimit.getD 0
  burstLimit := c.burstLimit.getD 0
  enableAsyncMsgs := c.enableAsyncMessages.getD true
  dscp := if 0 ≤ c.dscp.getD env.dscpDefault ∧ c.dscp.getD env.dscpDefault ≤ 63 then c.dscp.getD env.dscpDefault else env.dscpDefault

def unixTag : List Char := ['u', 'n', 'i', 'x', ':']

def punixTag : List Char := ['p', 'u', 'n', 'i', 'x', ':']

def controllerSuffix : List Char := ['.', 'c', 'o', 'n', 't', 'r', 'o', 'l', 'l', 'e', 'r']

def unixWhitelist (rundir : List Char) : List Char := unixTag ++ (rundir ++ ['/'])

def punixWhitelist (rundir bridge : List Char) : List Char := punixTag ++ (rundir ++ '/' :: (bridge ++ controllerSuffix))

def targetAccepted (rundir bridge target : List Char) : Bool :=
  if punixTag.isPrefixOf target || unixTag.isPrefixOf target then
    if unixTag.isPrefixOf target then
      !(target.contains '/' && !equalPathnames (some (unixWhitelist rundir).length) 0 target (unixWhitelist rundir))
    else equalPathnames none 0 target (punixWhitelist rundir bridge)
  else true

def bridgeConfigureRemotes (env : RemotesEnv) (bridge : String) (cfg : RemotesRow) : List OfprotoController :=
  controllerForMgmt env bridge ::
    ((bridgeGetControllers cfg).filter (fun c => targetAccepted env.rundir.toList bridge.toList c.target.toList)).map
      (fun c => if cfg.disableInBand then { controllerFromOvsrec env c with band := .outOfBand } else controllerFromOvsrec env c)

def here : List Char := ['.']

def up : List Char := ['.', '.']

structure RunDirectory (rundir : List Char) : Prop where
  absolute : rundir.head? = some '/'
  plain : ∀ name ∈ components '/' rundir, name ≠ here ∧ name ≠ up

def Inside (rundir path : List Char) : Prop := components '/' rundir <+: resolve here up [] (components '/' path)

instance (rundir path : List Char) : Decidable (Inside rundir path) := inferInstanceAs (Decidable (_ <+: _))

structure TargetConfined (rundir bridge target : List Char) : Prop where
  inside : ∀ path, target = unixTag ++ path ∨ target = punixTag ++ path → '/' ∈ path → Inside rundir path
  listens : ∀ path, target = punixTag ++ path → collapse '/' path = collapse '/' (rundir ++ '/' :: (bridge ++ controllerSuffix))

def Reenters (rundir path : List Char) : Prop :=
  let below := relative here up ((components '/' path).drop (components '/' rundir).length)
  (components '/' rundir).drop ((components '/' rundir).length - below.climbs) <+: below.names

instance (rundir path : List Char) : Decidable (Reenters rundir path) := inferInstanceAs (Decidable (_ <+: _))

theorem accepted_unix (rundir bridge path : List Char) (slashes : '/' ∈ path) :
    targetAccepted rundir bridge (unixTag ++ path) = true ↔ collapse '/' (rundir ++ ['/']) <+: collapse '/' path := by
  have tagged : unixTag.isPrefixOf (unixTag ++ path) = true := by simp
  have found : (unixTag ++ path).contains '/' = true := by simp [slashes]
  unfold targetAccepted
  rw [tagged, Bool.or_true, if_pos rfl, if_pos rfl, found, Bool.true_and, Bool.not_not,
    equal_pathnames_prefix _ 0 _ _ (Nat.zero_add _).ge, Nat.sub_zero, List.take_length, unixWhitelist,
    Pathnames.collapse_append '/' unixTag _ (by decide), Pathnames.collapse_append '/' unixTag _ (by decide),
    List.prefix_append_right_inj]

theorem accepted_punix (rundir bridge path : List Char) :
    targetAccepted rundir bridge (punixTag ++ path) = true ↔
      collapse '/' path = collapse '/' (rundir ++ '/' :: (bridge ++ controllerSuffix)) := by
  have tagged : punixTag.isPrefixOf (punixTag ++ path) = true := by simp
  have other : unixTag.isPrefixOf (punixTag ++ path) = false := rfl
  unfold targetAccepted
  rw [tagged, other, Bool.true_or, if_pos rfl, if_neg Bool.false_ne_true, equal_pathnames_whole, punixWhitelist,
    Pathnames.collapse_append '/' punixTag _ (by decide), Pathnames.collapse_append '/' punixTag _ (by decide),
    List.append_cancel_left_eq]

theorem inside_iff_reenters (rundir path : List Char) (directory : RunDirectory rundir)
    (starts : collapse '/' (rundir ++ ['/']) <+: collapse '/' path) : Inside rundir path ↔ Reenters rundir path := by
  obtain ⟨rest, whole⟩ := Pathnames.components_of_prefix '/' rundir path starts
  unfold Inside Reenters
  rw [← whole, List.drop_left, Pathnames.resolve_append, Pathnames.resolve_plain here up [] _ directory.plain, List.nil_append]
  exact Pathnames.prefix_resolve_iff here up _ rest

theorem controller_name_plain (bridge : List Char) (plain : '/' ∉ bridge) :
    components '/' (bridge ++ controllerSuffix) = [bridge ++ controllerSuffix] := by
  have noSlash : '/' ∉ bridge ++ controllerSuffix := by
    rw [List.mem_append, not_or]
    exact ⟨plain, by decide⟩
  exact Pathnames.components_plain '/' _ (by simp [controllerSuffix]) noSlash

theorem controller_name_ordinary (bridge : List Char) : bridge ++ controllerSuffix ≠ here ∧ bridge ++ controllerSuffix ≠ up := by
  have long : 11 ≤ (bridge ++ controllerSuffix).length := by
    rw [List.length_append]
    exact Nat.le_add_left 11 _
  constructor
  · intro same
    rw [same] at long
    exact absurd long (by decide)
  · intro same
    rw [same] at long
    exact absurd long (by decide)

theorem listener_inside (rundir bridge path : List Char) (directory : RunDirectory rundir) (plain : '/' ∉ bridge)
    (same : collapse '/' path = collapse '/' (rundir ++ '/' :: (bridge ++ controllerSuffix))) : Inside rundir path := by
  have names : components '/' path = components '/' rundir ++ [bridge ++ controllerSuffix] := by
    rw [← Pathnames.components_collapse, same, Pathnames.components_collapse, Pathnames.components_slash,
      controller_name_plain bridge plain]
  have ordinary : ∀ name ∈ components '/' path, name ≠ here ∧ name ≠ up := by
    intro name member
    rw [names] at member
    rcases List.mem_append.mp member with left | right
    · exact directory.plain name left
    · rw [List.mem_singleton.mp right]
      exact controller_name_ordinary bridge
  unfold Inside
  rw [Pathnames.resolve_plain here up [] _ ordinary, List.nil_append, names]
  exact List.prefix_append _ _

theorem target_confined_iff (rundir bridge target : List Char) (directory : RunDirectory rundir) (plain : '/' ∉ bridge)
    (accepted : targetAccepted rundir bridge target = true) :
    TargetConfined rundir bridge target ↔ ∀ path, target = unixTag ++ path → '/' ∈ path → Reenters rundir path := by
  constructor
  · rintro confined path rfl slashes
    have starts := (accepted_unix rundir bridge path slashes).mp accepted
    exact (inside_iff_reenters rundir path directory starts).mp (confined.inside path (Or.inl rfl) slashes)
  · intro reenters
    have listens : ∀ path, target = punixTag ++ path →
        collapse '/' path = collapse '/' (rundir ++ '/' :: (bridge ++ controllerSuffix)) := by
      rintro path rfl
      exact (accepted_punix rundir bridge path).mp accepted
    refine ⟨?_, listens⟩
    rintro path (rfl | tagged) slashes
    · have starts := (accepted_unix rundir bridge path slashes).mp accepted
      exact (inside_iff_reenters rundir path directory starts).mpr (reenters path rfl slashes)
    · exact listener_inside rundir bridge path directory plain (listens path tagged)

theorem remotes_confined_iff (env : RemotesEnv) (bridge : String) (cfg : RemotesRow) (directory : RunDirectory env.rundir.toList)
    (plain : '/' ∉ bridge.toList) (oc : OfprotoController) (passed : oc ∈ (bridgeConfigureRemotes env bridge cfg).tail) :
    TargetConfined env.rundir.toList bridge.toList oc.target.toList ↔
      ∀ path, oc.target.toList = unixTag ++ path → '/' ∈ path → Reenters env.rundir.toList path := by
  obtain ⟨c, member, made⟩ := List.mem_map.mp passed
  have target : oc.target = c.target := by
    rw [← made]
    split <;> rfl
  rw [target]
  exact target_confined_iff env.rundir.toList bridge.toList c.target.toList directory plain (List.mem_filter.mp member).2

def plainController (target : String) : ControllerRow := ⟨target, none, none, none, none, none, none, none⟩

def runEnv : RemotesEnv := ⟨"/run", 48⟩

theorem run_directory : RunDirectory runEnv.rundir.toList where
  absolute := by decide
  plain := by decide

theorem socket_confined : TargetConfined runEnv.rundir.toList "br0".toList "unix:/run/of.sock".toList := by
  have accepted : targetAccepted "/run".toList "br0".toList "unix:/run/of.sock".toList = true :=
    (accepted_unix "/run".toList "br0".toList "/run/of.sock".toList (by decide)).mpr (by decide)
  have passed : controllerFromOvsrec runEnv (plainController "unix:/run/of.sock") ∈
      (bridgeConfigureRemotes runEnv "br0" ⟨[plainController "unix:/run/of.sock"], false⟩).tail :=
    List.mem_map.mpr ⟨plainController "unix:/run/of.sock", List.mem_filter.mpr ⟨List.mem_singleton.mpr rfl, accepted⟩, rfl⟩
  refine (remotes_confined_iff runEnv "br0" ⟨[plainController "unix:/run/of.sock"], false⟩ run_directory (by decide)
    (controllerFromOvsrec runEnv (plainController "unix:/run/of.sock")) passed).mpr ?_
  intro path tagged _
  have cut : "unix:/run/of.sock".toList = unixTag ++ "/run/of.sock".toList := by decide
  obtain rfl : "/run/of.sock".toList = path := List.append_cancel_left (cut.symm.trans tagged)
  decide

-- The target starts with the run directory and leaves it again.
theorem socket_escapes :
    ∃ oc ∈ (bridgeConfigureRemotes runEnv "br0" ⟨[plainController "unix:/run/../etc/of.sock"], false⟩).tail,
      ¬ TargetConfined runEnv.rundir.toList "br0".toList oc.target.toList := by
  have accepted : targetAccepted "/run".toList "br0".toList "unix:/run/../etc/of.sock".toList = true :=
    (accepted_unix "/run".toList "br0".toList "/run/../etc/of.sock".toList (by decide)).mpr (by decide)
  refine ⟨controllerFromOvsrec runEnv (plainController "unix:/run/../etc/of.sock"),
    List.mem_map.mpr ⟨plainController "unix:/run/../etc/of.sock", List.mem_filter.mpr ⟨List.mem_singleton.mpr rfl, accepted⟩, rfl⟩, ?_⟩
  intro confined
  exact absurd (confined.inside "/run/../etc/of.sock".toList (Or.inl (by decide)) (by decide)) (by decide)

end OpsSwitchd.Controllers
