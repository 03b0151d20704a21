import OpsSwitchd.Nexthops
import OpsSwitchd.Runs
import OpsSwitchd.Writes

set_option autoImplicit false

namespace OpsSwitchd

-- bridge_init omits the status column of the Nexthop table, so every row of
-- the replica shows it empty.
structure RouteAddCall where
  env : Env
  omitted : ∀ row ∈ env.idl.nexthops.rows, row.status = []
  nexthops : List OfprotoNexthop
  route : Route

structure ErrorState where
  vrf : Vrf
  rc : Uuid → Option Bool

def reportedRow (env : Env) (route : Route) (id : NhId) : Option NexthopRow :=
  (ofprotoNexthopLookup env route id).bind (fun nh => Keyed.lookup NexthopRow.uuid nh.idlRowUuid env.idl.nexthops.rows)

def routeAddAnswers (env : Env) (vrf : Vrf) (nexthops : List OfprotoNexthop) (route : Route) : List (NhId × Option String) :=
  nexthops.map (fun nh => (nh.nh, env.platform.provider.nexthopError vrf.up.calls (ofprotoRoute route nexthops) nh.nh))

def recordRc (env : Env) (route : Route) (rc : Uuid → Option Bool) (answer : NhId × Option String) : Uuid → Option Bool :=
  match reportedRow env route answer.1 with
  | none => rc
  | some row => Function.update rc row.uuid (some answer.2.isSome)

def errorStep (s : ErrorState) (call : RouteAddCall) : ErrorState where
  vrf := vrfOfprotoRouteAdd call.env s.vrf call.nexthops call.route
  rc := (routeAddAnswers call.env s.vrf call.nexthops call.route).foldl (recordRc call.env call.route) s.rc

def databaseError (db : Uuid → Smap) (vrf : Vrf) (uuid : Uuid) : Bool :=
  (smapGet (Writes.apply vrf.nexthopStatus db uuid) "error").isSome

def ErrorsPublished (db : Uuid → Smap) (s : ErrorState) : Prop :=
  ∀ uuid failed, s.rc uuid = some failed → databaseError db s.vrf uuid = failed

def rowAnswers (env : Env) (route : Route) (uuid : Uuid) (answers : List (NhId × Option String)) : List Bool :=
  answers.filterMap (fun answer =>
    if (reportedRow env route answer.1).map NexthopRow.uuid = some uuid then some answer.2.isSome else none)

def NothingToClear (db : Uuid → Smap) (s : ErrorState) (call : RouteAddCall) : Prop :=
  ∀ uuid, let answers := rowAnswers call.env call.route uuid (routeAddAnswers call.env s.vrf call.nexthops call.route)
    answers.getLast? = some false → databaseError db s.vrf uuid = false ∧ true ∉ answers

theorem process_rc_error (db : Uuid → Smap) (env : Env) (omitted : ∀ row ∈ env.idl.nexthops.rows, row.status = [])
    (route : Route) (vrf : Vrf) (answer : NhId × Option String) (uuid : Uuid) :
    databaseError db (processNexthopRc env route vrf answer) uuid =
      (databaseError db vrf uuid || decide (true ∈ rowAnswers env route uuid [answer])) := by
  rw [processNexthopRc, ← reportedRow]
  cases found : reportedRow env route answer.1 with
  | none => simp [rowAnswers, found]
  | some row =>
      obtain ⟨_, _, here⟩ := Option.bind_eq_some_iff.mp found
      cases rc : answer.2 with
      | none =>
          -- The replica never shows the error, so success writes nothing.
          have empty := omitted row (Keyed.lookup_mem NexthopRow.uuid here)
          have unseen : (smapGet row.status "error").isSome = false := by rw [empty]; rfl
          simp [rowAnswers, found, rc, unseen]
      | some errStr =>
          have written : Writes.apply (vrf.nexthopStatus ++ [(row.uuid, [("error", errStr)])]) db =
              Function.update (Writes.apply vrf.nexthopStatus db) row.uuid [("error", errStr)] := by
            rw [Writes.apply, List.foldl_append]
            rfl
          dsimp only
          unfold databaseError setNexthopStatus
          dsimp only
          rw [written]
          by_cases same : row.uuid = uuid
          · subst same
            simp [rowAnswers, found, rc, smapGet, Keyed.lookup]
          · rw [Function.update_of_ne (Ne.symm same)]
            simp [rowAnswers, found, same]

theorem record_rc_answers (env : Env) (route : Route) (rc : Uuid → Option Bool) (answer : NhId × Option String) (uuid : Uuid) :
    recordRc env route rc answer uuid = (rowAnswers env route uuid [answer]).getLast?.or (rc uuid) := by
  unfold recordRc
  cases found : reportedRow env route answer.1 with
  | none => simp [rowAnswers, found]
  | some row =>
      dsimp only
      by_cases same : row.uuid = uuid
      · subst same
        simp [rowAnswers, found]
      · rw [Function.update_of_ne (Ne.symm same)]
        simp [rowAnswers, found, same]

theorem row_answers_cons (env : Env) (route : Route) (uuid : Uuid) (answer : NhId × Option String)
    (rest : List (NhId × Option String)) :
    rowAnswers env route uuid (answer :: rest) = rowAnswers env route uuid [answer] ++ rowAnswers env route uuid rest := by
  unfold rowAnswers
  rw [← List.singleton_append, List.filterMap_append]

theorem process_rcs_error (db : Uuid → Smap) (env : Env) (omitted : ∀ row ∈ env.idl.nexthops.rows, row.status = [])
    (route : Route) (answers : List (NhId × Option String)) (vrf : Vrf) (uuid : Uuid) :
    databaseError db (answers.foldl (processNexthopRc env route) vrf) uuid =
      (databaseError db vrf uuid || decide (true ∈ rowAnswers env route uuid answers)) := by
  induction answers generalizing vrf with
  | nil => simp [rowAnswers]
  | cons answer rest ih =>
      rw [List.foldl_cons, ih, process_rc_error db env omitted, row_answers_cons env route uuid answer rest]
      simp [Bool.or_assoc]

theorem record_rcs_answers (env : Env) (route : Route) (answers : List (NhId × Option String)) (rc : Uuid → Option Bool)
    (uuid : Uuid) :
    answers.foldl (recordRc env route) rc uuid = (rowAnswers env route uuid answers).getLast?.or (rc uuid) := by
  induction answers generalizing rc with
  | nil => rfl
  | cons answer rest ih =>
      rw [List.foldl_cons, ih, record_rc_answers, row_answers_cons env route uuid answer rest, List.getLast?_append, Option.or_assoc]

theorem error_step_iff (db : Uuid → Smap) (s : ErrorState) (call : RouteAddCall) (published : ErrorsPublished db s) :
    ErrorsPublished db (errorStep s call) ↔ NothingToClear db s call := by
  have error : ∀ uuid, databaseError db (errorStep s call).vrf uuid = (databaseError db s.vrf uuid ||
      decide (true ∈ rowAnswers call.env call.route uuid (routeAddAnswers call.env s.vrf call.nexthops call.route))) :=
    fun uuid => process_rcs_error db call.env call.omitted call.route _
      (s.vrf.emit (.l3RouteAction .add (ofprotoRoute call.route call.nexthops))) uuid
  have rc := record_rcs_answers call.env call.route (routeAddAnswers call.env s.vrf call.nexthops call.route) s.rc
  constructor
  · intro after uuid answers last
    have clear := after uuid false (by
      refine (rc uuid).trans ?_
      rw [last]
      rfl)
    rw [error uuid, Bool.or_eq_false_iff, decide_eq_false_iff_not] at clear
    exact clear
  · intro clear uuid failed recorded
    have last := (rc uuid).symm.trans recorded
    rw [error uuid]
    cases given : (rowAnswers call.env call.route uuid
        (routeAddAnswers call.env s.vrf call.nexthops call.route)).getLast? with
    | none =>
        rw [given, Option.none_or] at last
        rw [List.getLast?_eq_none_iff.mp given, published uuid failed last]
        simp
    | some answered =>
        rw [given, Option.some_or, Option.some.injEq] at last
        subst last
        cases answered with
        | false =>
            obtain ⟨before, none_⟩ := clear uuid given
            simp [before, none_]
        | true => simp [List.mem_of_getLast? given]

def errorStart (vrf : Vrf) : ErrorState := ⟨vrf, fun _ => none⟩

theorem errors_published_iff (db : Uuid → Smap) (vrf : Vrf) (calls : List RouteAddCall) :
    Runs.Always errorStep (ErrorsPublished db) (errorStart vrf) calls ↔
      Runs.Along errorStep (NothingToClear db) (errorStart vrf) calls := by
  refine Runs.always_iff_along (fun _ published => published)
    (fun s call published (_ : True) clear => (error_step_iff db s call published).mpr clear)
    (fun s call published _ after => (error_step_iff db s call published).mp after) ?_ (fun _ _ _ _ => trivial)
  intro uuid failed recorded
  cases recorded

def answeringEnv (error : Option String) : Env where
  platform := { plainPlatform with provider := { plainPlatform.provider with nexthopError := fun _ _ _ => error } }
  order := HashOrder.listed
  idl := ⟨⟨[], false, false, false⟩, ⟨[⟨7, some "10.0.0.1", [], none, [], false, false⟩], false, false, false⟩,
    ⟨[], false, false, false⟩⟩

def oneNexthopCall (error : Option String) : RouteAddCall where
  env := answeringEnv error
  omitted := by
    intro row member
    rw [List.mem_singleton.mp member]
  nexthops := [⟨⟨.ipaddr, "10.0.0.1"⟩, .unresolved⟩]
  route := ⟨⟨0, "10.0.0.0/8", "static", false⟩, [⟨1, some "10.0.0.1", none, ⟨0, "10.0.0.0/8", "static", false⟩, 7⟩], 0⟩

-- Refused, then accepted: the error stays in the row.
theorem accepted_nexthop_keeps_error : ¬ Runs.Always errorStep (ErrorsPublished (fun _ => []))
    (errorStart (vrfCreate ⟨"red", []⟩)) [oneNexthopCall (some "full"), oneNexthopCall none] := by
  intro all
  exact absurd (all _ [] (List.append_nil _).symm 7 false (by decide)) (by decide)

end OpsSwitchd
