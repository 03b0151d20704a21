import OpsSwitchd.MacLearning

set_option autoImplicit false

namespace OpsSwitchd

def Learns (node : MlearnNode) : Prop := node.oper = .add ∨ node.oper = .move

structure Delivered (input : LearningInput) : Prop where
  idl : input.idl = true
  asic : input.asicInterface = some true
  mhmap : input.mhmap = true
  applied : macTxnApplied input = true

def afterBatch (input : LearningInput) (table : List MacRow) (node : MlearnNode) : List MacRow :=
  (macLearningUpdateDb { initialLearning with recorded := [node], macTable := table } input).macTable

def otherMacEntry (node : MlearnNode) (row : MacRow) : Bool :=
  row.macAddr != node.mac || !row.dynamic || row.macVlan.any (fun vlan => vlan != node.vlan)

structure Relearned (input : LearningInput) (table : List MacRow) (learned aged : MlearnNode) : Prop where
  again : afterBatch input (afterBatch input table learned) learned = afterBatch input table learned
  removed : afterBatch input (afterBatch input table learned) aged = table.filter (fun row => !sameMacEntry learned row)
  others : ∀ after ∈ [afterBatch input table learned, afterBatch input (afterBatch input table learned) learned,
    afterBatch input (afterBatch input table learned) aged],
    after.filter (otherMacEntry learned) = table.filter (otherMacEntry learned)

section Relearning

variable (input : LearningInput) (table : List MacRow) (bridge : String) (node : MlearnNode)

theorem after_batch_eq (delivered : Delivered input) (table : List MacRow) (node : MlearnNode) :
    afterBatch input table node = writeMlearnNode input table node := by
  have walked : input.order.walk [node] = [node] := List.perm_singleton.mp (input.order.perm [node])
  unfold afterBatch macLearningUpdateDb
  simp [delivered.idl, delivered.asic, delivered.mhmap, delivered.applied, walked]

theorem write_learned (learns : Learns node) :
    writeMlearnNode input table node = mlearnPluginDbAddLocalMacEntry input table node := by
  unfold writeMlearnNode
  rcases learns with add | move
  · rw [add]
  · rw [move]

def moveEntry (bridge : String) (node : MlearnNode) (row : MacRow) : MacRow :=
  if sameMacEntry node row then { row with bridge := bridge, port := node.portName } else row

theorem same_entry_moved (row : MacRow) :
    sameMacEntry node (moveEntry bridge node row) = sameMacEntry node row := by
  unfold moveEntry
  split <;> rfl

theorem moved_twice (row : MacRow) :
    moveEntry bridge node (moveEntry bridge node row) = moveEntry bridge node row := by
  by_cases same : sameMacEntry node row
  · have still : sameMacEntry node (moveEntry bridge node row) = true := (same_entry_moved bridge node row).trans same
    rw [moveEntry, if_pos still, moveEntry, if_pos same]
  · have other : moveEntry bridge node row = row := if_neg same
    rw [other, other]

theorem other_entry_not_same (row : MacRow) (other : otherMacEntry node row = true) :
    sameMacEntry node row = false := by
  rw [Bool.eq_false_iff]
  intro same
  simp only [sameMacEntry, Bool.and_eq_true, beq_iff_eq] at same
  simp [otherMacEntry, same] at other

theorem other_entry_moved (row : MacRow) :
    otherMacEntry node (moveEntry bridge node row) = otherMacEntry node row := by
  unfold moveEntry
  split <;> rfl

def newEntry (input : LearningInput) (bridge : String) (node : MlearnNode) : MacRow where
  macAddr := node.mac
  dynamic := true
  macVlan := if input.vlanRow node.vlan then some node.vlan else none
  bridge := bridge
  port := node.portName

theorem add_eq (bridge : String) (port : input.bridgeOfPort node.portName = some bridge) :
    mlearnPluginDbAddLocalMacEntry input table node =
      if table.any (sameMacEntry node) then table.map (moveEntry bridge node) else table ++ [newEntry input bridge node] := by
  unfold mlearnPluginDbAddLocalMacEntry
  rw [port]
  rfl

theorem add_others (bridge : String) (port : input.bridgeOfPort node.portName = some bridge) :
    (mlearnPluginDbAddLocalMacEntry input table node).filter (otherMacEntry node) = table.filter (otherMacEntry node) := by
  rw [add_eq input table node bridge port]
  by_cases present : table.any (sameMacEntry node)
  · rw [if_pos present, List.filter_map]
    have kept : (otherMacEntry node) ∘ (moveEntry bridge node) = otherMacEntry node :=
      funext (other_entry_moved bridge node)
    rw [kept]
    refine (List.map_congr_left (fun row member => ?_)).trans (List.map_id _)
    exact if_neg (Bool.eq_false_iff.mp (other_entry_not_same node row (List.mem_filter.mp member).2))
  · rw [if_neg present, List.filter_append]
    cases known : input.vlanRow node.vlan <;> simp [otherMacEntry, newEntry, known]

theorem del_others :
    (table.filter (fun row => !sameMacEntry node row)).filter (otherMacEntry node) = table.filter (otherMacEntry node) := by
  rw [List.filter_filter]
  refine List.filter_congr (fun row _ => ?_)
  cases other : otherMacEntry node row with
  | false => rfl
  | true => rw [other_entry_not_same node row other]; rfl

theorem present_moved (table : List MacRow) :
    (table.map (moveEntry bridge node)).any (sameMacEntry node) = table.any (sameMacEntry node) := by
  rw [List.any_map]
  exact congrArg table.any (funext (same_entry_moved bridge node))

theorem found_again (bridge : String) (port : input.bridgeOfPort node.portName = some bridge)
    (known : input.vlanRow node.vlan = true ∨ table.any (sameMacEntry node) = true) :
    mlearnPluginDbAddLocalMacEntry input (mlearnPluginDbAddLocalMacEntry input table node) node =
        mlearnPluginDbAddLocalMacEntry input table node ∧
      (mlearnPluginDbAddLocalMacEntry input table node).filter (fun row => !sameMacEntry node row) =
        table.filter (fun row => !sameMacEntry node row) := by
  rw [add_eq input table node bridge port]
  by_cases present : table.any (sameMacEntry node)
  · rw [if_pos present, add_eq input _ node bridge port, present_moved, if_pos present, List.map_map]
    refine ⟨List.map_congr_left (fun row _ => moved_twice bridge node row), ?_⟩
    rw [List.filter_map]
    have kept : (fun row => !sameMacEntry node row) ∘ (moveEntry bridge node) = fun row => !sameMacEntry node row :=
      funext (fun row => congrArg not (same_entry_moved bridge node row))
    rw [kept]
    refine (List.map_congr_left (fun row member => ?_)).trans (List.map_id _)
    exact if_neg (by simpa using (List.mem_filter.mp member).2)
  · have vlan := known.resolve_right present
    have same : sameMacEntry node (newEntry input bridge node) = true := by simp [sameMacEntry, newEntry, vlan]
    have fresh : moveEntry bridge node (newEntry input bridge node) = newEntry input bridge node := if_pos same
    have absent : ∀ row ∈ table, sameMacEntry node row = false := by simpa using present
    have unmoved : table.map (moveEntry bridge node) = table := by
      refine (List.map_congr_left (fun row member => ?_)).trans (List.map_id _)
      exact if_neg (by simp [absent row member])
    rw [if_neg present, add_eq input _ node bridge port, if_pos (by simp [same]), List.map_append, unmoved]
    refine ⟨by rw [List.map_singleton, fresh], ?_⟩
    simp [List.filter_append, same]

theorem write_aged (learned aged : MlearnNode) (deletes : aged.oper = .del)
    (same : aged.mac = learned.mac ∧ aged.vlan = learned.vlan) :
    writeMlearnNode input table aged = table.filter (fun row => !sameMacEntry learned row) := by
  unfold writeMlearnNode mlearnPluginDbDelLocalMacEntry sameMacEntry
  rw [deletes, same.1, same.2]

theorem unknown_vlan_grows (bridge : String)
    (port : input.bridgeOfPort node.portName = some bridge) (unknown : input.vlanRow node.vlan = false)
    (absent : ¬ table.any (sameMacEntry node) = true) :
    mlearnPluginDbAddLocalMacEntry input (mlearnPluginDbAddLocalMacEntry input table node) node ≠
      mlearnPluginDbAddLocalMacEntry input table node := by
  have unnamed : sameMacEntry node (newEntry input bridge node) = false := by simp [sameMacEntry, newEntry, unknown]
  have still : ¬ (table ++ [newEntry input bridge node]).any (sameMacEntry node) = true := by
    simpa [unnamed] using absent
  rw [add_eq input table node bridge port, if_neg absent, add_eq input _ node bridge port, if_neg still]
  intro equal
  have sizes := congrArg List.length equal
  simp at sizes

end Relearning

theorem relearned_iff (input : LearningInput) (delivered : Delivered input) (table : List MacRow) (learned aged : MlearnNode)
    (learns : Learns learned) (port : (input.bridgeOfPort learned.portName).isSome = true) (deletes : aged.oper = .del)
    (same : aged.mac = learned.mac ∧ aged.vlan = learned.vlan) :
    Relearned input table learned aged ↔
      input.vlanRow learned.vlan = true ∨ table.any (sameMacEntry learned) = true := by
  obtain ⟨bridge, found⟩ := Option.isSome_iff_exists.mp port
  have added (before : List MacRow) : afterBatch input before learned = mlearnPluginDbAddLocalMacEntry input before learned :=
    (after_batch_eq input delivered before learned).trans (write_learned input before learned learns)
  have deleted (before : List MacRow) : afterBatch input before aged = before.filter (fun row => !sameMacEntry learned row) :=
    (after_batch_eq input delivered before aged).trans (write_aged input before learned aged deletes same)
  have others (before : List MacRow) := add_others input before learned bridge found
  constructor
  · intro relearned
    have again := relearned.again
    rw [added, added] at again
    by_cases absent : table.any (sameMacEntry learned) = true
    · exact .inr absent
    · refine .inl (Bool.not_eq_false _ |>.mp (fun unknown => ?_))
      exact unknown_vlan_grows input table learned bridge found unknown absent again
  · intro known
    obtain ⟨again, removed⟩ := found_again input table learned bridge found known
    refine ⟨by rw [added, added, again], by rw [added, deleted, removed], ?_⟩
    intro after member
    rw [added, added, deleted, again, removed] at member
    rcases List.mem_cons.mp member with rfl | rest
    · exact others table
    · rcases List.mem_cons.mp rest with rfl | last
      · exact others table
      · rw [List.mem_singleton.mp last]
        exact del_others table learned

def learnedEvent : MlearnNode := ⟨10, "00:00:00:00:00:01", .add, "1", 0⟩

def agedEvent : MlearnNode := ⟨10, "00:00:00:00:00:01", .del, "1", 1⟩

theorem known_vlan_relearned : Relearned (learningRun .success) [] learnedEvent agedEvent :=
  (relearned_iff (learningRun .success) ⟨rfl, rfl, rfl, rfl⟩ [] learnedEvent agedEvent (.inl rfl) rfl rfl ⟨rfl, rfl⟩).mpr (.inl rfl)

-- VLAN 10 has no row: the same address is in the table twice, and a delete
-- would find neither entry.
theorem unknown_vlan_learned_twice :
    ¬ Relearned { learningRun .success with vlanRow := fun _ => false } [] learnedEvent agedEvent := by
  intro relearned
  exact absurd relearned.again (by decide)

end OpsSwitchd
