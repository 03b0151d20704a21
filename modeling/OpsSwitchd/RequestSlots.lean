import OpsSwitchd.RouteSpec
import OpsSwitchd.Slots

set_option autoImplicit false

namespace OpsSwitchd

-- n_nexthops is the number of nexthops filled in so far.
def RouteWork.filled (work : RouteWork) : Nat := work.ofp.length

def cachedRouteWork (vrf : Vrf) (row : RouteRow) : RouteWork := row.nexthops.foldl addNexthopRow (newRouteWork vrf row)

-- The second loop fills a slot for each resolved IP or port; the third one
-- fills slot 0 when the second filled none.
def writtenByAddResolvedNh (env : Env) (vrf : Vrf) (row : RouteRow) : List Nat :=
  let work := cachedRouteWork vrf row
  let resolved := Slots.trace List.length (fun _ nh => (resolvedNexthopOf env work nh).isSome)
    (fun ofp nh => ofp ++ (resolvedNexthopOf env work nh).toList) [] row.nexthops
  if resolved = [] then (row.nexthops.findSome? (copyToCpuNexthopOf env work)).toList.map (fun _ => 0) else resolved

def writtenByAdd (env : Env) (vrf : Vrf) (row : RouteRow) : List Nat :=
  if row.nexthops.length > 1 then writtenByAddResolvedNh env vrf row
  else Slots.trace RouteWork.filled (fun _ nh => nhRowUsable nh) addNexthopToAsic (newRouteWork vrf row) row.nexthops

def writtenByDelete (env : Env) (vrf : Vrf) (route : Route) : List Nat :=
  Slots.trace RouteWork.filled (fun _ _ => true) dropNexthop
    ⟨{ vrf with allRoutes := Keyed.remove routeAddr (routeAddr route) vrf.allRoutes }, route, []⟩
    (env.order.walk route.nexthops)

def writtenByModifyDelete (env : Env) (vrf : Vrf) (route : Route) (row : RouteRow) : List Nat :=
  Slots.trace RouteWork.filled (fun _ nh => !nhWanted row nh) (deleteOldNexthop (currentIdlNhs row)) (modifyWork vrf route row)
    (env.order.walk route.nexthops)

-- The rc of a slot is written before the neighbor is looked up, so a nexthop
-- that is not sent has touched the slot all the same.
def writtenByModifyAdd (env : Env) (vrf : Vrf) (route : Route) (row : RouteRow) : List Nat :=
  Slots.trace RouteWork.filled (addsNexthop env) (addNewNexthop env (row.nexthops.length > 1)) (modifyKept env vrf route row)
    (env.order.walk (currentIdlNhs row))

def nexthopTexts (nh : Nexthop) : Option String × Option String := (nh.ipAddr, nh.portName)

def rowTexts (row : NexthopRow) : Option String × Option String := nexthopTexts (newNexthop ⟨0, "", "", false⟩ 0 row)

def textsMatch (env : Env) (row : NexthopRow) (texts : Option String × Option String) : Bool :=
  (vrfNhHash texts.1 texts.2).map env.platform.hashString = (nhRowKey row).map env.platform.hashString &&
    (nhSameText texts.1 row.ipAddress || nhSameText texts.2 row.ports.head?)

def enteredRows (env : Env) : List (Option String × Option String) → List NexthopRow → List NexthopRow
  | _, [] => []
  | held, row :: rest =>
      if held.any (textsMatch env row) then enteredRows env held rest else row :: enteredRows env (rowTexts row :: held) rest

def heldNexthops (env : Env) (route : Route) (row : RouteRow) : List Nexthop :=
  Keyed.removeAll Nexthop.addr ((goneNexthops env route row).map Nexthop.addr) route.nexthops

def SlotsFit (capacity : Nat) (written : List Nat) : Prop := ∀ slot ∈ written, slot < capacity

def RequestsFit (capacity : Nat) (env : Env) (vrf : Vrf) (route : Route) (row : RouteRow) : Prop :=
  SlotsFit capacity (writtenByAdd env vrf row) ∧ SlotsFit capacity (writtenByDelete env vrf route) ∧
  SlotsFit capacity (writtenByModifyDelete env vrf route row) ∧ SlotsFit capacity (writtenByModifyAdd env vrf route row)

-- An ECMP row may have as many ports and resolved nexthops as there are slots,
-- a cached route as many nexthops, and a modification may remove as many. Of
-- the nexthops it adds to an ECMP route, all but the last leave a free slot.
structure NexthopsFit (capacity : Nat) (env : Env) (vrf : Vrf) (route : Route) (row : RouteRow) : Prop where
  added : row.nexthops.length > 1 →
    row.nexthops.countP (fun nh => (resolvedNexthopOf env ⟨vrf, addedRoute vrf row, []⟩ nh).isSome) ≤ capacity
  cached : route.nexthops.length ≤ capacity
  removed : route.nexthops.countP (fun nh => !nhWanted row nh) ≤ capacity
  entered : (sentNexthops (row.nexthops.length > 1) vrf (enteredRows env ((heldNexthops env route row).map nexthopTexts)
    (env.order.walk (currentIdlNhs row))).dropLast).length < capacity

theorem append_to_list_length {α β : Type} (make : α → Option β) (acc : List β) (a : α) :
    (acc ++ (make a).toList).length = acc.length + (make a).isSome.toNat := by
  cases make a <;> simp

theorem foldl_append_to_list {α β : Type} (make : α → Option β) (rows : List α) (acc : List β) :
    rows.foldl (fun acc a => acc ++ (make a).toList) acc = acc ++ rows.filterMap make := by
  induction rows generalizing acc with
  | nil => simp
  | cons a rest ih => cases made : make a <;> simp [ih, made]

theorem add_to_asic_filled (work : RouteWork) (row : NexthopRow) :
    (addNexthopToAsic work row).filled = work.filled + (nhRowUsable row).toNat := by
  rw [add_nexthop_to_asic_eq]
  cases nhRowUsable row with
  | false => rfl
  | true => exact List.length_append

theorem drop_nexthop_filled (work : RouteWork) (nh : Nexthop) : (dropNexthop work nh).filled = work.filled + 1 := by
  simp [dropNexthop, RouteWork.filled]

theorem delete_old_filled (row : RouteRow) (work : RouteWork) (nh : Nexthop) :
    (deleteOldNexthop (currentIdlNhs row) work nh).filled = work.filled + (!nhWanted row nh).toNat := by
  unfold deleteOldNexthop
  rw [← nhWanted]
  cases nhWanted row nh with
  | false => exact drop_nexthop_filled work nh
  | true => rfl

theorem cached_route_resolves (env : Env) (vrf : Vrf) (row : RouteRow) (nh : NexthopRow) :
    resolvedNexthopOf env (cachedRouteWork vrf row) nh = resolvedNexthopOf env ⟨vrf, addedRoute vrf row, []⟩ nh := by
  rw [cachedRouteWork, add_nexthop_rows]
  simp only [newRouteWork, List.append_nil]
  rfl

theorem written_by_add_fits (capacity : Nat) (positive : 0 < capacity) (env : Env) (vrf : Vrf) (row : RouteRow) :
    SlotsFit capacity (writtenByAdd env vrf row) ↔ (row.nexthops.length > 1 →
      row.nexthops.countP (fun nh => (resolvedNexthopOf env ⟨vrf, addedRoute vrf row, []⟩ nh).isSome) ≤ capacity) := by
  simp only [← cached_route_resolves]
  unfold writtenByAdd
  by_cases ecmp : row.nexthops.length > 1
  · rw [if_pos ecmp]
    have fits := Slots.trace_fits List.length (fun _ nh => (resolvedNexthopOf env (cachedRouteWork vrf row) nh).isSome)
      (fun ofp nh => ofp ++ (resolvedNexthopOf env (cachedRouteWork vrf row) nh).toList)
      (fun ofp nh => append_to_list_length _ ofp nh) [] row.nexthops rfl capacity
    rw [foldl_append_to_list, List.nil_append, List.length_filterMap_eq_countP] at fits
    simp only [ecmp, forall_const]
    rw [← fits]
    unfold writtenByAddResolvedNh SlotsFit
    dsimp only
    split
    · rename_i unresolved
      rw [unresolved]
      refine ⟨fun _ slot member => absurd member List.not_mem_nil, fun _ slot member => ?_⟩
      obtain ⟨_, _, rfl⟩ := List.mem_map.mp member
      exact positive
    · rfl
  · rw [if_neg ecmp]
    have fits := Slots.trace_fits RouteWork.filled (fun _ nh => nhRowUsable nh) addNexthopToAsic add_to_asic_filled
      (newRouteWork vrf row) row.nexthops rfl capacity
    refine fits.trans ⟨fun _ multiple => absurd multiple ecmp, fun _ => ?_⟩
    rw [add_nexthops_to_asic]
    have few := List.length_filter_le nhRowUsable row.nexthops
    simp only [RouteWork.filled, newRouteWork, List.nil_append, List.length_map]
    omega

theorem written_by_delete_fits (capacity : Nat) (env : Env) (vrf : Vrf) (route : Route) :
    SlotsFit capacity (writtenByDelete env vrf route) ↔ route.nexthops.length ≤ capacity := by
  refine (Slots.trace_fits RouteWork.filled (fun _ _ => true) dropNexthop drop_nexthop_filled _
    (env.order.walk route.nexthops) rfl capacity).trans ?_
  rw [drop_nexthops_fold]
  simp [RouteWork.filled, (env.order.perm route.nexthops).length_eq]

theorem written_by_modify_delete_fits (capacity : Nat) (env : Env) (vrf : Vrf) (route : Route) (row : RouteRow) :
    SlotsFit capacity (writtenByModifyDelete env vrf route row) ↔
      route.nexthops.countP (fun nh => !nhWanted row nh) ≤ capacity := by
  refine (Slots.trace_fits RouteWork.filled _ _ (delete_old_filled row) _ (env.order.walk route.nexthops) rfl capacity).trans ?_
  have unwanted : ∀ nh, (Keyed.lookup nhRowKey (nhKey nh) (currentIdlNhs row)).isNone = !nhWanted row nh := by
    intro nh
    simp [nhWanted]
  rw [delete_old_nexthops_fold, drop_nexthops_fold]
  simp only [RouteWork.filled, modifyWork, List.nil_append, List.length_map, unwanted, ← List.countP_eq_length_filter,
    (env.order.perm route.nexthops).countP_eq]

theorem add_new_nexthop_filled (env : Env) (ecmp : Bool) (work : RouteWork) (row : NexthopRow) :
    (addNewNexthop env ecmp work row).filled =
        work.filled + (if addsNexthop env work row then (sentNexthops ecmp work.vrf [row]).length else 0) ∧
      (addNewNexthop env ecmp work row).vrf.allNeighbors = work.vrf.allNeighbors ∧
      (addNewNexthop env ecmp work row).route.nexthops.map nexthopTexts =
        (if addsNexthop env work row then [rowTexts row] else []) ++ work.route.nexthops.map nexthopTexts := by
  rw [add_new_nexthop_cached]
  cases addsNexthop env work row with
  | false => exact ⟨rfl, rfl, rfl⟩
  | true =>
      refine ⟨List.length_append, rfl, ?_⟩
      simp only [if_true, RouteWork.cached, List.map_cons, List.singleton_append, rowTexts, newNexthop]
      cases row.ipAddress <;> rfl

theorem adds_nexthop_texts (env : Env) (work : RouteWork) (row : NexthopRow) (key : (nhRowKey row).isSome) :
    addsNexthop env work row = !(work.route.nexthops.map nexthopTexts).any (textsMatch env row) := by
  obtain ⟨hashstr, hashed⟩ := Option.isSome_iff_exists.mp key
  have query : vrfNhHash row.ipAddress row.ports.head? = some hashstr := hashed
  rw [addsNexthop, key, Bool.and_true, vrfRouteNexthopLookup, query, Option.bind_some, Bool.eq_iff_iff,
    Option.isNone_iff_eq_none, List.find?_eq_none]
  simp [textsMatch, nexthopTexts, hashed, nhKey]

-- The first nexthop that is added needs the slot the counter stands at, and
-- each one sent before the last pushes it one further.
theorem modify_add_trace_fits (capacity : Nat) (env : Env) (ecmp : Bool) (vrf : Vrf) (rows : List NexthopRow)
    (keys : ∀ row ∈ rows, (nhRowKey row).isSome) (work : RouteWork) (held : List (Option String × Option String))
    (same : work.vrf.allNeighbors = vrf.allNeighbors) (texts : work.route.nexthops.map nexthopTexts = held) :
    SlotsFit capacity (Slots.trace RouteWork.filled (addsNexthop env) (addNewNexthop env ecmp) work rows) ↔
      (enteredRows env held rows = [] ∨
        work.filled + (sentNexthops ecmp vrf (enteredRows env held rows).dropLast).length < capacity) := by
  induction rows generalizing work held with
  | nil => simp [Slots.trace, enteredRows, SlotsFit]
  | cons row rest ih =>
      obtain ⟨filled, neighbors, cached⟩ := add_new_nexthop_filled env ecmp work row
      have adds := adds_nexthop_texts env work row (keys row (by simp))
      have later := fun held texts => ih (fun other member => keys other (by simp [member])) (addNewNexthop env ecmp work row) held
        (neighbors.trans same) texts
      rw [texts] at adds cached
      rw [Slots.trace, enteredRows]
      cases found : held.any (textsMatch env row) with
      | true =>
          rw [found, Bool.not_true] at adds
          rw [adds, if_neg Bool.false_ne_true, Nat.add_zero] at filled
          rw [adds, if_neg Bool.false_ne_true, List.nil_append] at cached
          simpa [adds, filled] using later held cached
      | false =>
          rw [found, Bool.not_false] at adds
          rw [adds, if_pos rfl, sent_nexthops_congr ecmp work.vrf vrf same] at filled
          rw [adds, if_pos rfl, List.singleton_append] at cached
          have split : SlotsFit capacity ([work.filled] ++
              Slots.trace RouteWork.filled (addsNexthop env) (addNewNexthop env ecmp) (addNewNexthop env ecmp work row) rest) ↔
              work.filled < capacity ∧ SlotsFit capacity (Slots.trace RouteWork.filled (addsNexthop env)
                (addNewNexthop env ecmp) (addNewNexthop env ecmp work row) rest) := by
            simp [SlotsFit]
          rw [adds, if_pos rfl, if_neg Bool.false_ne_true, split, later _ cached, filled]
          cases entered : enteredRows env (rowTexts row :: held) rest with
          | nil => simp [sentNexthops]
          | cons next others =>
              have sent := congrArg List.length (sent_nexthops_append ecmp vrf [row] (next :: others).dropLast)
              rw [List.length_append, List.singleton_append] at sent
              rw [List.dropLast_cons_of_ne_nil (List.cons_ne_nil _ _), sent]
              simp only [reduceCtorEq, false_or]
              omega

theorem modify_kept_eq (env : Env) (vrf : Vrf) (route : Route) (row : RouteRow) :
    (modifyKept env vrf route row).vrf.allNeighbors = vrf.allNeighbors ∧
      (modifyKept env vrf route row).route.nexthops = heldNexthops env route row := by
  have unwanted : (env.order.walk route.nexthops).filter
      (fun nh => (Keyed.lookup nhRowKey (nhKey nh) (currentIdlNhs row)).isNone) = goneNexthops env route row := by
    apply List.filter_congr
    intro nh _
    simp [nhWanted]
  unfold modifyKept
  rw [delete_old_nexthops_fold, drop_nexthops_fold, unwanted]
  dsimp only
  split <;> exact ⟨rfl, rfl⟩

theorem written_by_modify_add_fits (capacity : Nat) (positive : 0 < capacity) (env : Env) (vrf : Vrf) (route : Route)
    (row : RouteRow) :
    SlotsFit capacity (writtenByModifyAdd env vrf route row) ↔
      (sentNexthops (row.nexthops.length > 1) vrf (enteredRows env ((heldNexthops env route row).map nexthopTexts)
        (env.order.walk (currentIdlNhs row))).dropLast).length < capacity := by
  obtain ⟨neighbors, held⟩ := modify_kept_eq env vrf route row
  have keys : ∀ nh ∈ env.order.walk (currentIdlNhs row), (nhRowKey nh).isSome := fun nh member =>
    usable_nhs_key row nh (current_idl_nhs_usable row nh ((env.order.mem_walk _ _).mp member))
  refine (modify_add_trace_fits capacity env _ vrf (env.order.walk (currentIdlNhs row)) keys _ _ neighbors
    (congrArg (List.map nexthopTexts) held)).trans ?_
  have empty : (modifyKept env vrf route row).filled = 0 := rfl
  rw [empty, Nat.zero_add]
  constructor
  · rintro (unchanged | fits)
    · simpa [unchanged, sentNexthops] using positive
    · exact fits
  · exact Or.inr

theorem requests_fit_iff (capacity : Nat) (positive : 0 < capacity) (env : Env) (vrf : Vrf) (route : Route) (row : RouteRow) :
    RequestsFit capacity env vrf route row ↔ NexthopsFit capacity env vrf route row := by
  unfold RequestsFit
  rw [written_by_add_fits capacity positive, written_by_delete_fits, written_by_modify_delete_fits,
    written_by_modify_add_fits capacity positive]
  constructor
  · rintro ⟨added, cached, removed, entered⟩
    exact ⟨added, cached, removed, entered⟩
  · intro fits
    exact ⟨fits.added, fits.cached, fits.removed, fits.entered⟩

def portNexthopRow (i : Nat) : NexthopRow := ⟨i, none, [toString i], none, [], true, true⟩

def portsRoute (n : Nat) : RouteRow :=
  ⟨0, "red", "static", "10.0.0.0/8", none, some true, (List.range n).map portNexthopRow, true, true⟩

theorem ports_route_resolves (env : Env) (vrf : Vrf) (n : Nat) (nh : NexthopRow) (member : nh ∈ (portsRoute n).nexthops) :
    (resolvedNexthopOf env ⟨vrf, addedRoute vrf (portsRoute n), []⟩ nh).isSome := by
  have listed : nh ∈ usableNhs (portsRoute n) := by
    refine List.mem_filter.mpr ⟨member, ?_⟩
    obtain ⟨i, _, rfl⟩ := List.mem_map.mp member
    rfl
  have keys := usable_nhs_key (portsRoute n)
  have ids := new_nexthops_has_id (newRouteRef vrf (portsRoute n)) (vrf.nextAddr + 1) (usableNhs (portsRoute n)) keys
  have one := new_nexthops_exclusive (newRouteRef vrf (portsRoute n)) (vrf.nextAddr + 1) (usableNhs (portsRoute n)) keys
  rw [resolved_nexthop_of_eq env _ nh (List.mem_filter.mp listed).2 ?apart ?one ?present]
  case apart =>
    obtain ⟨i, _, rfl⟩ := List.mem_map.mp member
    intro ip none_
    cases none_
  case one => exact fun other inside => one other (List.mem_reverse.mp inside)
  case present =>
    obtain ⟨other, inside, same⟩ := (ids (nhRowId nh)).mpr ⟨nh, listed, rfl⟩
    exact ⟨other, List.mem_reverse.mpr inside, same⟩
  obtain ⟨i, _, rfl⟩ := List.mem_map.mp member
  rfl

def quietEnv : Env :=
  ⟨plainPlatform, HashOrder.listed, ⟨⟨[], false, false, false⟩, ⟨[], false, false, false⟩, ⟨[], false, false, false⟩⟩⟩

theorem two_ports_fit : RequestsFit 2 quietEnv (vrfCreate ⟨"red", []⟩) ⟨⟨0, "", "", false⟩, [], 0⟩ (portsRoute 2) :=
  (requests_fit_iff 2 (by decide) quietEnv (vrfCreate ⟨"red", []⟩) ⟨⟨0, "", "", false⟩, [], 0⟩ (portsRoute 2)).mpr
    ⟨by decide, by decide, by decide, by decide⟩

theorem ports_overflow (capacity : Nat) (positive : 0 < capacity) (env : Env) (vrf : Vrf) (route : Route) :
    ¬ RequestsFit capacity env vrf route (portsRoute (capacity + 1)) := by
  intro fits
  have bound := (written_by_add_fits capacity positive _ _ _).mp fits.1 (by simp [portsRoute, positive])
  rw [List.countP_eq_length.mpr (ports_route_resolves _ _ _)] at bound
  simp only [portsRoute, List.length_map, List.length_range] at bound
  omega

theorem more_ports_than_slots :
    ¬ RequestsFit 1 quietEnv (vrfCreate ⟨"red", []⟩) ⟨⟨0, "", "", false⟩, [], 0⟩ (portsRoute 2) :=
  ports_overflow 1 (by decide) _ _ _

end OpsSwitchd
