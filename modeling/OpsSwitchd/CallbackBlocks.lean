import OpsSwitchd.Runs
import OpsSwitchd.StableInsert

set_option autoImplicit false

namespace OpsSwitchd.CallbackBlocks

-- reconfigure-blocks.c, run-blocks.c and stats-blocks.c are three copies of one
-- registry, with their own block numbers and their own execute function.
inductive BlockKind where
  | reconfigure
  | run
  | stats
deriving DecidableEq, Repr

def maxBlocksNum : BlockKind → Nat
  | .reconfigure => 13
  | .run => 3
  | .stats => 14

def einval : Nat := 22

structure BlkListNode (η : Type) where
  callbackHandler : Option η
  priority : UInt32
deriving DecidableEq, Repr

-- blkList is NULL until blocks_init.
structure Registry (η : Type) (max : Nat) where
  blkList : Option (Fin max → List (BlkListNode η))

variable {η π : Type} {max : Nat}

def Registry.lists (registry : Registry η max) : Fin max → List (BlkListNode η) :=
  registry.blkList.getD (fun _ => [])

def Registry.init (registry : Registry η max) : Registry η max := ⟨some registry.lists⟩

-- The walk over the list; none is its end, which leads to the error exit.
def insertBefore (newNode : BlkListNode η) : List (BlkListNode η) → Option (List (BlkListNode η))
  | [] => none
  | blkNode :: rest =>
      if blkNode.priority > newNode.priority then some (newNode :: blkNode :: rest)
      else (insertBefore newNode rest).map (blkNode :: ·)

def insertNodeOnBlk (newNode : BlkListNode η) (funcList : List (BlkListNode η)) : Option (List (BlkListNode η)) :=
  match funcList.getLast? with
  | none => some [newNode]
  | some lastNode =>
      if newNode.priority ≥ lastNode.priority then some (funcList ++ [newNode]) else insertBefore newNode funcList

def blkAt (max : Nat) (blkId : Int) : Option (Fin max) :=
  if bounds : 0 ≤ blkId ∧ blkId < max then some ⟨blkId.toNat, by omega⟩ else none

def registerCallback (registry : Registry η max) (callbackHandler : Option η) (blkId : Int) (priority : UInt32) :
    Registry η max × Nat :=
  let registry := registry.init
  if callbackHandler.isNone then (registry, einval)
  else
    match blkAt max blkId with
    | none => (registry, einval)
    | some blk =>
        match insertNodeOnBlk ⟨callbackHandler, priority⟩ (registry.lists blk) with
        | none => (registry, einval)
        | some funcList => (⟨some (Function.update registry.lists blk funcList)⟩, 0)

-- What a handler is called with; only the stats handlers get the block id.
structure BlkCall (η π : Type) where
  callbackHandler : η
  params : Option π
  blkId : Option Int
deriving DecidableEq, Repr

def executeNodes (params : Option π) (blkId : Option Int) : List (BlkListNode η) → List (BlkCall η π) × Nat
  | [] => ([], 0)
  | actualNode :: rest =>
      match actualNode.callbackHandler with
      | none => ([], einval)
      | some handler =>
          let later := executeNodes params blkId rest
          (⟨handler, params, blkId⟩ :: later.1, later.2)

def executeBlk (registry : Registry η max) (params : Option π) (blkId : Int) (passed : Option Int) :
    List (BlkCall η π) × Nat :=
  match blkAt max blkId with
  | none => ([], einval)
  | some blk => executeNodes params passed (registry.init.lists blk)

def executeParamsBlk (registry : Registry η max) (params : Option π) (blkId : Int) : List (BlkCall η π) × Nat :=
  if params.isNone then ([], einval) else executeBlk registry params blkId none

abbrev BlockRegistry (η : Type) (kind : BlockKind) := Registry η (maxBlocksNum kind)

def registerReconfigureCallback (registry : BlockRegistry η .reconfigure) (callbackHandler : Option η) (blkId : Int)
    (priority : UInt32) : BlockRegistry η .reconfigure × Nat :=
  registerCallback registry callbackHandler blkId priority

def registerRunCallback (registry : BlockRegistry η .run) (callbackHandler : Option η) (blkId : Int) (priority : UInt32) :
    BlockRegistry η .run × Nat :=
  registerCallback registry callbackHandler blkId priority

def registerStatsCallback (registry : BlockRegistry η .stats) (callbackHandler : Option η) (blkId : Int)
    (priority : UInt32) : BlockRegistry η .stats × Nat :=
  registerCallback registry callbackHandler blkId priority

def executeReconfigureBlock (registry : BlockRegistry η .reconfigure) (params : Option π) (blkId : Int) :
    List (BlkCall η π) × Nat :=
  executeParamsBlk registry params blkId

def executeRunBlock (registry : BlockRegistry η .run) (params : Option π) (blkId : Int) : List (BlkCall η π) × Nat :=
  executeParamsBlk registry params blkId

-- The stats copy does not look at its params.
def executeStatsBlock (registry : BlockRegistry η .stats) (sblk : Option π) (blkId : Int) : List (BlkCall η π) × Nat :=
  executeBlk registry sblk blkId (some blkId)

def register (kind : BlockKind) : BlockRegistry η kind → Option η → Int → UInt32 → BlockRegistry η kind × Nat :=
  match kind with
  | .reconfigure => registerReconfigureCallback
  | .run => registerRunCallback
  | .stats => registerStatsCallback

def execute (kind : BlockKind) : BlockRegistry η kind → Option π → Int → List (BlkCall η π) × Nat :=
  match kind with
  | .reconfigure => executeReconfigureBlock
  | .run => executeRunBlock
  | .stats => executeStatsBlock

theorem register_eq (kind : BlockKind) (registry : BlockRegistry η kind) (callbackHandler : Option η) (blkId : Int)
    (priority : UInt32) :
    register kind registry callbackHandler blkId priority = registerCallback registry callbackHandler blkId priority := by
  cases kind <;> rfl

structure Registration (η : Type) where
  callbackHandler : Option η
  blkId : Int
  priority : UInt32

structure BlockLog (η : Type) (kind : BlockKind) where
  registry : BlockRegistry η kind
  accepted : List (Registration η)

def registerStep (kind : BlockKind) (s : BlockLog η kind) (call : Registration η) : BlockLog η kind :=
  let result := register kind s.registry call.callbackHandler call.blkId call.priority
  ⟨result.1, if result.2 = 0 then s.accepted ++ [call] else s.accepted⟩

def noBlocks (kind : BlockKind) : BlockLog η kind := ⟨⟨none⟩, []⟩

def registeredFor (kind : BlockKind) (accepted : List (Registration η)) (blk : Fin (maxBlocksNum kind)) :
    List (BlkListNode η) :=
  (accepted.filter (fun call => blkAt (maxBlocksNum kind) call.blkId = some blk)).map
    (fun call => ⟨call.callbackHandler, call.priority⟩)

def priorityOf (node : BlkListNode η) : Nat := node.priority.toNat

def paramsAccepted (kind : BlockKind) (params : Option π) : Prop := kind = .stats ∨ params.isSome

structure BlocksOrdered (π : Type) (kind : BlockKind) (s : BlockLog η kind) : Prop where
  sorted : ∀ blk, StableInsert.StableSort priorityOf (registeredFor kind s.accepted blk) (s.registry.lists blk)
  executed : ∀ (params : Option π) (blk : Fin (maxBlocksNum kind)), paramsAccepted kind params →
    (execute kind s.registry params blk.val).2 = 0 ∧
      (execute kind s.registry params blk.val).1.map (fun call => some call.callbackHandler) =
        (s.registry.lists blk).map BlkListNode.callbackHandler

structure RegisterExact (kind : BlockKind) (s : BlockLog η kind) (call : Registration η) : Prop where
  succeeds : (register kind s.registry call.callbackHandler call.blkId call.priority).2 = 0 ↔
    call.callbackHandler.isSome ∧ 0 ≤ call.blkId ∧ call.blkId < maxBlocksNum kind
  unchanged : (register kind s.registry call.callbackHandler call.blkId call.priority).2 ≠ 0 →
    (register kind s.registry call.callbackHandler call.blkId call.priority).1.lists = s.registry.lists

theorem insert_before_eq (newNode : BlkListNode η) (funcList : List (BlkListNode η))
    (greater : ∃ blkNode ∈ funcList, blkNode.priority > newNode.priority) :
    insertBefore newNode funcList = some (StableInsert.insert priorityOf newNode funcList) := by
  induction funcList with
  | nil => simp at greater
  | cons blkNode rest ih =>
      have keys : blkNode.priority > newNode.priority ↔ priorityOf newNode < priorityOf blkNode := UInt32.lt_iff_toNat_lt
      rw [insertBefore, StableInsert.insert_cons]
      by_cases before : blkNode.priority > newNode.priority
      · rw [if_pos before, if_pos (keys.mp before)]
      · obtain ⟨found, member, above⟩ := greater
        have later : found ∈ rest := by
          rcases List.mem_cons.mp member with rfl | later
          · exact absurd above before
          · exact later
        rw [if_neg before, if_neg (fun less => before (keys.mpr less)), ih ⟨found, later, above⟩]
        rfl

-- The walk is only reached with the last node above the new one, so it ends at
-- that node at the latest.
theorem insert_node_eq (newNode : BlkListNode η) (funcList : List (BlkListNode η))
    (sorted : funcList.Pairwise (fun a b => priorityOf a ≤ priorityOf b)) :
    insertNodeOnBlk newNode funcList = some (StableInsert.insert priorityOf newNode funcList) := by
  unfold insertNodeOnBlk
  cases last : funcList.getLast? with
  | none =>
      obtain rfl := List.getLast?_eq_none_iff.mp last
      rfl
  | some lastNode =>
      obtain ⟨front, rfl⟩ := List.getLast?_eq_some_iff.mp last
      dsimp only
      by_cases bottom : newNode.priority ≥ lastNode.priority
      · have greatest : ∀ node ∈ front ++ [lastNode], priorityOf node ≤ priorityOf newNode := by
          intro node member
          refine le_trans ?_ (UInt32.le_iff_toNat_le.mp bottom)
          rcases List.mem_append.mp member with earlier | here
          · exact (List.pairwise_append.mp sorted).2.2 node earlier lastNode (by simp)
          · obtain rfl := List.mem_singleton.mp here
            exact le_refl _
        rw [if_pos bottom, StableInsert.insert_at_end priorityOf newNode _ greatest]
      · have above : lastNode.priority > newNode.priority := by
          rw [ge_iff_le, UInt32.le_iff_toNat_le] at bottom
          rw [gt_iff_lt, UInt32.lt_iff_toNat_lt]
          omega
        rw [if_neg bottom, insert_before_eq newNode _ ⟨lastNode, by simp, above⟩]

theorem blk_at_iff (max : Nat) (blkId : Int) : (blkAt max blkId).isSome ↔ 0 ≤ blkId ∧ blkId < max := by
  unfold blkAt
  split <;> simp_all

theorem blk_at_val (blk : Fin max) : blkAt max blk.val = some blk := by
  have bounds : (0 : Int) ≤ blk.val ∧ (blk.val : Int) < max := by omega
  rw [blkAt, dif_pos bounds]
  exact congrArg some (Fin.ext (Int.toNat_natCast blk.val))

def Sorted (registry : Registry η max) : Prop :=
  ∀ blk, (registry.lists blk).Pairwise (fun a b => priorityOf a ≤ priorityOf b)

inductive Registers (registry : Registry η max) (call : Registration η) : Registry η max × Nat → Prop where
  | inserted (blk : Fin max) (handler : call.callbackHandler.isSome) (valid : blkAt max call.blkId = some blk) :
      Registers registry call (⟨some (Function.update registry.lists blk
        (StableInsert.insert priorityOf ⟨call.callbackHandler, call.priority⟩ (registry.lists blk)))⟩, 0)
  | refused (invalid : ¬ (call.callbackHandler.isSome ∧ (blkAt max call.blkId).isSome)) :
      Registers registry call (registry.init, einval)

theorem register_cases (registry : Registry η max) (call : Registration η) (sorted : Sorted registry) :
    Registers registry call (registerCallback registry call.callbackHandler call.blkId call.priority) := by
  unfold registerCallback
  cases handler : call.callbackHandler with
  | none => exact .refused (by simp [handler])
  | some callback =>
      cases valid : blkAt max call.blkId with
      | none => exact .refused (by simp [valid])
      | some blk =>
          dsimp only [Option.isNone]
          rw [if_neg (by simp), show registry.init.lists = registry.lists from rfl, insert_node_eq _ _ (sorted blk), ← handler]
          exact .inserted blk (by simp [handler]) valid

structure LogInv (kind : BlockKind) (s : BlockLog η kind) : Prop where
  sorted : ∀ blk, StableInsert.StableSort priorityOf (registeredFor kind s.accepted blk) (s.registry.lists blk)
  handlers : ∀ call ∈ s.accepted, call.callbackHandler.isSome

theorem log_sorted (kind : BlockKind) (s : BlockLog η kind) (inv : LogInv kind s) : Sorted s.registry :=
  fun blk => (inv.sorted blk).sorted

theorem registered_for_append (kind : BlockKind) (accepted : List (Registration η)) (call : Registration η)
    (blk : Fin (maxBlocksNum kind)) :
    registeredFor kind (accepted ++ [call]) blk = registeredFor kind accepted blk ++
      if blkAt (maxBlocksNum kind) call.blkId = some blk then [⟨call.callbackHandler, call.priority⟩] else [] := by
  rw [registeredFor, List.filter_append, List.map_append]
  by_cases here : blkAt (maxBlocksNum kind) call.blkId = some blk <;> simp [registeredFor, here]

theorem log_inv_step (kind : BlockKind) (s : BlockLog η kind) (call : Registration η) (inv : LogInv kind s) (_ : True) :
    LogInv kind (registerStep kind s call) := by
  unfold registerStep
  rw [register_eq]
  have outcome := register_cases s.registry call (log_sorted kind s inv)
  generalize registerCallback s.registry call.callbackHandler call.blkId call.priority = result at outcome ⊢
  cases outcome with
  | refused invalid => exact ⟨inv.sorted, inv.handlers⟩
  | inserted blk handler valid =>
      dsimp only
      refine ⟨fun other => ?_, fun earlier member => ?_⟩
      · rw [if_pos rfl, registered_for_append, valid]
        by_cases same : other = blk
        · subst same
          rw [if_pos rfl, Registry.lists, Option.getD_some, Function.update_self]
          exact StableInsert.stable_sort_insert priorityOf _ _ _ (inv.sorted other)
        · rw [if_neg (fun equal => same (Option.some.inj equal).symm), List.append_nil, Registry.lists, Option.getD_some,
            Function.update_of_ne same]
          exact inv.sorted other
      · rw [if_pos rfl] at member
        rcases List.mem_append.mp member with old | here
        · exact inv.handlers earlier old
        · obtain rfl := List.mem_singleton.mp here
          exact handler

theorem execute_nodes_all (params : Option π) (blkId : Option Int) (nodes : List (BlkListNode η))
    (handlers : ∀ node ∈ nodes, node.callbackHandler.isSome) :
    (executeNodes params blkId nodes).2 = 0 ∧
      (executeNodes params blkId nodes).1.map (fun call => some call.callbackHandler) =
        nodes.map BlkListNode.callbackHandler := by
  induction nodes with
  | nil => exact ⟨rfl, rfl⟩
  | cons node rest ih =>
      obtain ⟨handler, found⟩ := Option.isSome_iff_exists.mp (handlers node (by simp))
      obtain ⟨done, calls⟩ := ih (fun other member => handlers other (by simp [member]))
      rw [executeNodes, found]
      refine ⟨done, ?_⟩
      rw [List.map_cons, List.map_cons, calls, found]

theorem execute_eq (kind : BlockKind) (registry : BlockRegistry η kind) (params : Option π) (blk : Fin (maxBlocksNum kind))
    (accepted : paramsAccepted kind params) :
    ∃ passed, execute kind registry params blk.val = executeNodes params passed (registry.lists blk) := by
  have walk : ∀ passed, executeBlk registry params blk.val passed = executeNodes params passed (registry.lists blk) := by
    intro passed
    rw [executeBlk, blk_at_val]
    rfl
  cases kind with
  | stats => exact ⟨some blk.val, walk _⟩
  | reconfigure =>
      have given : params.isNone = false := by simpa [paramsAccepted] using accepted
      refine ⟨none, (if_neg ?_).trans (walk none)⟩
      simp [given]
  | run =>
      have given : params.isNone = false := by simpa [paramsAccepted] using accepted
      refine ⟨none, (if_neg ?_).trans (walk none)⟩
      simp [given]

theorem log_inv_ordered (kind : BlockKind) (s : BlockLog η kind) (inv : LogInv kind s) : BlocksOrdered π kind s := by
  refine ⟨inv.sorted, fun params blk accepted => ?_⟩
  obtain ⟨passed, eq⟩ := execute_eq kind s.registry params blk accepted
  rw [eq]
  refine execute_nodes_all params passed _ (fun node member => ?_)
  obtain ⟨call, mine, rfl⟩ := List.mem_map.mp ((inv.sorted blk).perm.mem_iff.mp member)
  exact inv.handlers call (List.mem_filter.mp mine).1

theorem log_inv_exact (kind : BlockKind) (s : BlockLog η kind) (call : Registration η) (inv : LogInv kind s) :
    RegisterExact kind s call := by
  have outcome := register_cases s.registry call (log_sorted kind s inv)
  refine ⟨?_, ?_⟩
  · rw [register_eq, ← blk_at_iff]
    generalize registerCallback s.registry call.callbackHandler call.blkId call.priority = result at outcome ⊢
    cases outcome with
    | inserted blk handler valid => simp [handler, valid]
    | refused invalid => exact iff_of_false (by simp [einval]) invalid
  · rw [register_eq]
    generalize registerCallback s.registry call.callbackHandler call.blkId call.priority = result at outcome ⊢
    cases outcome with
    | inserted blk handler valid => exact fun failed => absurd rfl failed
    | refused invalid => exact fun _ => rfl

theorem blocks_execute_in_stable_priority_order (kind : BlockKind) (calls : List (Registration η)) :
    Runs.Always (registerStep kind) (BlocksOrdered π kind) (noBlocks kind) calls ∧
      Runs.Along (registerStep kind) (RegisterExact kind) (noBlocks kind) calls := by
  have initial : LogInv kind (noBlocks kind : BlockLog η kind) := ⟨fun _ => StableInsert.stable_sort_nil _, by simp [noBlocks]⟩
  have always : Runs.Always (registerStep kind) (LogInv kind) (noBlocks kind) calls :=
    Runs.invariant_always (log_inv_step kind) initial (fun _ _ _ _ => trivial)
  refine ⟨Runs.always_mono (fun s inv => log_inv_ordered kind s inv) always, ?_⟩
  intro before call after split
  exact log_inv_exact kind _ call (always before (call :: after) split)

end OpsSwitchd.CallbackBlocks
