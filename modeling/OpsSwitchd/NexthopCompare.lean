import OpsSwitchd.Nexthops
import OpsSwitchd.Runs

set_option autoImplicit false

namespace OpsSwitchd

-- The strcmp of a field that is not null. none is a comparison with a null
-- string.
def strcmpField (stored queried : Option String) : Option Bool :=
  match stored, queried with
  | none, _ => some false
  | some _, none => none
  | some text, some query => some (decide (text = query))

def nhComparison (ipAddress portName : Option String) (nh : Nexthop) : Option Bool :=
  match strcmpField nh.ipAddr ipAddress with
  | none => none
  | some true => some true
  | some false => strcmpField nh.portName portName

def compareChain (ipAddress portName : Option String) : List Nexthop → Option (Option Nexthop)
  | [] => some none
  | nh :: rest =>
      match nhComparison ipAddress portName nh with
      | none => none
      | some true => some (some nh)
      | some false => compareChain ipAddress portName rest

-- The entries that HMAP_FOR_EACH_WITH_HASH visits.
def nhChain (env : Env) (route : Route) (hashstr : String) : List Nexthop :=
  (env.order.walk route.nexthops).filter (fun nh =>
    (nhKey nh).map env.platform.hashString = some (env.platform.hashString hashstr))

-- vrf_route_nexthop_lookup with its null comparisons; hash_string of a null
-- string is one as well.
def nexthopLookupCompared (env : Env) (route : Route) (ipAddress portName : Option String) : Option (Option Nexthop) :=
  match vrfNhHash ipAddress portName with
  | none => none
  | some hashstr => compareChain ipAddress portName (nhChain env route hashstr)

theorem nh_comparison_text (ipAddress portName : Option String) (nh : Nexthop) (same : Bool)
    (compared : nhComparison ipAddress portName nh = some same) :
    (nhSameText nh.ipAddr ipAddress || nhSameText nh.portName portName) = same := by
  have field (stored queried : Option String) (answer : Bool) (done : strcmpField stored queried = some answer) :
      nhSameText stored queried = answer := by
    cases stored <;> cases queried <;> simp_all [strcmpField, nhSameText]
  unfold nhComparison at compared
  cases ip : strcmpField nh.ipAddr ipAddress with
  | none => simp [ip] at compared
  | some first =>
      rw [ip] at compared
      rw [field _ _ first ip]
      cases first with
      | true => simpa using compared
      | false => rw [field _ _ same compared, Bool.false_or]

theorem compare_chain_found (ipAddress portName : Option String) (chain : List Nexthop) (found : Option Nexthop)
    (compared : compareChain ipAddress portName chain = some found) :
    chain.find? (fun nh => nhSameText nh.ipAddr ipAddress || nhSameText nh.portName portName) = found := by
  induction chain with
  | nil => exact Option.some.inj compared
  | cons nh rest ih =>
      rw [compareChain] at compared
      cases answer : nhComparison ipAddress portName nh with
      | none => simp [answer] at compared
      | some same =>
          have text := nh_comparison_text ipAddress portName nh same answer
          rw [answer] at compared
          cases same with
          | true =>
              rw [List.find?_cons, text]
              exact Option.some.inj compared
          | false =>
              rw [List.find?_cons, text]
              exact ih compared

theorem nexthop_lookup_compared_eq (env : Env) (route : Route) (ipAddress portName : Option String) (found : Option Nexthop)
    (compared : nexthopLookupCompared env route ipAddress portName = some found) :
    vrfRouteNexthopLookup env route ipAddress portName = found := by
  unfold nexthopLookupCompared at compared
  unfold vrfRouteNexthopLookup
  cases hashed : vrfNhHash ipAddress portName with
  | none => simp [hashed] at compared
  | some hashstr =>
      rw [hashed] at compared
      rw [Option.bind_some, ← compare_chain_found ipAddress portName _ found compared, nhChain, List.find?_filter]
      refine congrArg (fun test => List.find? test _) (funext fun nh => ?_)
      rw [Bool.decide_and, Bool.decide_eq_true, Bool.decide_eq_true]

structure LookupExact (route : Route) (ipAddress portName : Option String) (found : Option Nexthop) : Prop where
  entry : ∀ nh, found = some nh → nh ∈ route.nexthops ∧ nhId nh = nhQueryId ipAddress portName
  absent : found = none → ∀ nh ∈ route.nexthops, nhId nh ≠ nhQueryId ipAddress portName

def KindFirst (id : NhId) (chain : List Nexthop) : Prop :=
  ∀ before nh after, chain = before ++ nh :: after → (nhId nh).type ≠ id.type → ∃ earlier ∈ before, nhId earlier = id

theorem nh_comparison_eq (ipAddress portName : Option String) (query : ipAddress.isSome = !portName.isSome) (nh : Nexthop)
    (one : NhExclusive nh) :
    nhComparison ipAddress portName nh =
      if (nhId nh).type = (nhQueryId ipAddress portName).type then
        some (decide (nhId nh = nhQueryId ipAddress portName))
      else none := by
  obtain ⟨addr, nhIp, nhPort, ref, uuid⟩ := nh
  cases nhIp with
  | some stored =>
      obtain rfl : nhPort = none := by simpa [NhExclusive] using one
      cases ipAddress with
      | some ip => by_cases same : stored = ip <;> simp [nhComparison, strcmpField, nhId, nhQueryId, same]
      | none => simp [nhComparison, strcmpField, nhId, nhQueryId]
  | none =>
      obtain ⟨stored, rfl⟩ : ∃ stored, nhPort = some stored := by
        simpa [NhExclusive, Option.isSome_iff_exists] using one
      cases ipAddress with
      | some ip =>
          obtain rfl : portName = none := by simpa using query
          simp [nhComparison, strcmpField, nhId, nhQueryId]
      | none =>
          obtain ⟨port, rfl⟩ : ∃ port, portName = some port := by simpa [Option.isSome_iff_exists] using query
          simp [nhComparison, strcmpField, nhId, nhQueryId]

theorem kind_first_iff (id : NhId) (chain : List Nexthop) :
    KindFirst id chain ↔ Runs.Reached (fun nh => nhId nh = id) (fun nh => (nhId nh).type = id.type) chain := by
  constructor
  · intro first before nh after split passed
    by_contra different
    obtain ⟨earlier, member, found⟩ := first before nh after split different
    exact passed earlier member found
  · intro reached before nh after split different
    by_contra unseen
    exact different (reached before nh after split (fun earlier member found => unseen ⟨earlier, member, found⟩))

theorem compare_chain_iff (ipAddress portName : Option String) (query : ipAddress.isSome = !portName.isSome)
    (chain : List Nexthop) (one : ∀ nh ∈ chain, NhExclusive nh) :
    (compareChain ipAddress portName chain).isSome ↔ KindFirst (nhQueryId ipAddress portName) chain := by
  rw [kind_first_iff]
  induction chain with
  | nil => exact iff_of_true rfl (Runs.reached_nil _ _)
  | cons nh rest ih =>
      have tail := ih (fun other member => one other (List.mem_cons_of_mem _ member))
      rw [compareChain, nh_comparison_eq ipAddress portName query nh (one nh List.mem_cons_self), Runs.reached_cons]
      by_cases kind : (nhId nh).type = (nhQueryId ipAddress portName).type
      · rw [if_pos kind]
        by_cases same : nhId nh = nhQueryId ipAddress portName
        · rw [decide_eq_true same]
          exact iff_of_true rfl ⟨kind, .inl same⟩
        · rw [decide_eq_false same]
          exact tail.trans ⟨fun reached => ⟨kind, .inr reached⟩, fun both => both.2.resolve_left same⟩
      · rw [if_neg kind]
        exact iff_of_false Bool.false_ne_true (fun both => kind both.1)

theorem chain_exclusive (env : Env) (route : Route) (hashstr : String) (one : ∀ nh ∈ route.nexthops, NhExclusive nh)
    (nh : Nexthop) (member : nh ∈ nhChain env route hashstr) : NhExclusive nh :=
  one nh ((env.order.mem_walk route.nexthops nh).mp (List.mem_filter.mp member).1)

theorem query_hash_text (ipAddress portName : Option String) (query : ipAddress.isSome = !portName.isSome) :
    vrfNhHash ipAddress portName = some (nhQueryId ipAddress portName).id := by
  cases ipAddress with
  | some ip => rfl
  | none =>
      obtain ⟨port, rfl⟩ : ∃ port, portName = some port := by simpa [Option.isSome_iff_exists] using query
      rfl

theorem lookup_found_exact (env : Env) (route : Route) (ipAddress portName : Option String)
    (one : ∀ nh ∈ route.nexthops, NhExclusive nh) (query : ipAddress.isSome = !portName.isSome) (found : Option Nexthop)
    (lookup : vrfRouteNexthopLookup env route ipAddress portName = found) : LookupExact route ipAddress portName found := by
  have apart : HashApart env ipAddress portName := by
    intro ip given port named
    rw [Option.mem_def] at given named
    simp [given, named] at query
  have hashed : (vrfNhHash ipAddress portName).isSome := by rw [query_hash_text ipAddress portName query]; rfl
  refine ⟨fun nh same => ?_, fun missing nh member => ?_⟩
  · exact nexthop_lookup_some env route ipAddress portName apart one nh (lookup.trans same)
  · exact nexthop_lookup_none env route ipAddress portName apart one hashed (lookup.trans missing) nh member

theorem nexthop_lookup_exact_iff (env : Env) (route : Route) (ipAddress portName : Option String)
    (one : ∀ nh ∈ route.nexthops, NhExclusive nh) (query : ipAddress.isSome = !portName.isSome) :
    (∃ found, nexthopLookupCompared env route ipAddress portName = some found ∧
      LookupExact route ipAddress portName found) ↔
    KindFirst (nhQueryId ipAddress portName) (nhChain env route (nhQueryId ipAddress portName).id) := by
  have chained := chain_exclusive env route (nhQueryId ipAddress portName).id one
  have compared : nexthopLookupCompared env route ipAddress portName =
      compareChain ipAddress portName (nhChain env route (nhQueryId ipAddress portName).id) := by
    unfold nexthopLookupCompared
    rw [query_hash_text ipAddress portName query]
  rw [← compare_chain_iff ipAddress portName query _ chained, ← compared, Option.isSome_iff_exists]
  constructor
  · intro exact_
    obtain ⟨found, lookup, _⟩ := exact_
    exact ⟨found, lookup⟩
  · intro ended
    obtain ⟨found, lookup⟩ := ended
    have plain := nexthop_lookup_compared_eq env route ipAddress portName found lookup
    exact ⟨found, lookup, lookup_found_exact env route ipAddress portName one query found plain⟩

def nexthopHashEnv : Env := ⟨plainPlatform, .listed, ⟨⟨[], false, false, false⟩, ⟨[], false, false, false⟩, ⟨[], false, false, false⟩⟩⟩

def nexthopRoute (nexthops : List Nexthop) : Route := ⟨⟨0, "10.0.0.0/24", "static", false⟩, nexthops, 0⟩

def ipNexthop : Nexthop := ⟨1, some "10.0.0.1", none, (nexthopRoute []).self, 1⟩

def portNexthop : Nexthop := ⟨2, none, some "1", (nexthopRoute []).self, 2⟩

theorem ip_nexthop_found :
    ∃ found, nexthopLookupCompared nexthopHashEnv (nexthopRoute [portNexthop, ipNexthop]) (some "10.0.0.1") none = some found ∧
      LookupExact (nexthopRoute [portNexthop, ipNexthop]) (some "10.0.0.1") none found := by
  have one : ∀ nh ∈ (nexthopRoute [portNexthop, ipNexthop]).nexthops, NhExclusive nh := by
    simp [nexthopRoute, NhExclusive, portNexthop, ipNexthop]
  refine (nexthop_lookup_exact_iff nexthopHashEnv (nexthopRoute [portNexthop, ipNexthop]) (some "10.0.0.1") none one rfl).mpr ?_
  exact (compare_chain_iff (some "10.0.0.1") none rfl _ (chain_exclusive nexthopHashEnv _ _ one)).mp (by decide)

-- The port nexthop and the queried IP address have the same text, so they have
-- the same hash under every hash function.
theorem port_compared_with_null :
    ¬ ∃ found, nexthopLookupCompared nexthopHashEnv (nexthopRoute [portNexthop]) (some "1") none = some found ∧
      LookupExact (nexthopRoute [portNexthop]) (some "1") none found := by
  intro exact_
  obtain ⟨found, lookup, _⟩ := exact_
  have compared : nexthopLookupCompared nexthopHashEnv (nexthopRoute [portNexthop]) (some "1") none = none := by decide
  rw [compared] at lookup
  cases lookup

end OpsSwitchd
