import OpsSwitchd.Runs

set_option autoImplicit false

-- A request is a level in a shared cell: clients set it, a handler is told about
-- every change of the cell, acts on what it last saw and writes the cell empty.
-- The write is applied later, or never, and overwrites whatever the cell holds.
namespace LevelRequests

structure Handler (ρ κ : Type) where
  empty : κ
  set : ρ → κ → κ
  acts : κ → ρ → Bool
  clears : κ → Bool

-- The handler may also be made to look by something else than a change of the
-- cell (touch). unserved are the requests that no action has followed yet; updates are the
-- changes on their way to the handler, clearing the writes on their way back.
structure State (ρ κ : Type) where
  cell : κ
  updates : List κ
  seen : κ
  flagged : Bool
  clearing : Nat
  unserved : List ρ
deriving DecidableEq, Repr

inductive Op (ρ : Type) where
  | request (r : ρ)
  | touch
  | receive
  | look
  | commit (applied : Bool)

variable {ρ κ : Type}

def receive (s : State ρ κ) : State ρ κ :=
  match s.updates with
  | [] => s
  | value :: rest => { s with updates := rest, seen := value, flagged := true }

def look (handler : Handler ρ κ) (s : State ρ κ) : State ρ κ :=
  if s.flagged then
    { s with
      flagged := false
      unserved := s.unserved.filter (fun r => !handler.acts s.seen r)
      clearing := if handler.clears s.seen then s.clearing + 1 else s.clearing }
  else s

def start (handler : Handler ρ κ) : State ρ κ := ⟨handler.empty, [], handler.empty, false, 0, []⟩

def Told (s : State ρ κ) : Prop := s.updates ≠ [] ∨ s.flagged = true

def Quiet (s : State ρ κ) : Prop := s.updates = [] ∧ s.flagged = false ∧ s.clearing = 0

structure Lawful (handler : Handler ρ κ) : Prop where
  acts_set : ∀ r cell, handler.acts (handler.set r cell) r = true
  acts_more : ∀ r cell other, handler.acts cell other = true → handler.acts (handler.set r cell) other = true
  set_ne : ∀ r cell, handler.set r cell ≠ handler.empty

structure Inv (handler : Handler ρ κ) (s : State ρ κ) : Prop where
  last : s.updates.getLast?.getD s.seen = s.cell
  coming : ∀ r ∈ s.unserved, handler.acts s.cell r = true ∧
    (Told s ∨ (0 < s.clearing ∧ s.cell ≠ handler.empty ∧ handler.acts handler.empty r = true))

theorem receive_inv (handler : Handler ρ κ) (s : State ρ κ) (inv : Inv handler s) : Inv handler (receive s) := by
  unfold receive
  cases updates : s.updates with
  | nil => exact inv
  | cons value rest =>
      refine ⟨?_, fun r member => ⟨(inv.coming r member).1, .inl (.inr rfl)⟩⟩
      have last := inv.last
      rw [updates] at last
      cases rest with
      | nil => exact last
      | cons later more => simpa [List.getLast?_cons] using last

theorem look_inv (handler : Handler ρ κ) (s : State ρ κ) (inv : Inv handler s) : Inv handler (look handler s) := by
  unfold look
  split
  · refine ⟨inv.last, fun r member => ?_⟩
    obtain ⟨left, missed⟩ := List.mem_filter.mp member
    obtain ⟨acts, _⟩ := inv.coming r left
    refine ⟨acts, .inl (.inl (fun updates => ?_))⟩
    have current := inv.last
    rw [show s.updates = [] from updates] at current
    rw [show s.seen = s.cell from current, acts] at missed
    cases missed
  · exact inv

variable [DecidableEq κ]

def write (value : κ) (s : State ρ κ) : State ρ κ :=
  if value = s.cell then s else { s with cell := value, updates := s.updates ++ [value] }

def commit (handler : Handler ρ κ) (applied : Bool) (s : State ρ κ) : State ρ κ :=
  if s.clearing = 0 then s
  else
    let s := { s with clearing := s.clearing - 1 }
    if applied then write handler.empty s else s

def step (handler : Handler ρ κ) (s : State ρ κ) : Op ρ → State ρ κ
  | .request r => { write (handler.set r s.cell) s with unserved := r :: s.unserved }
  | .touch => { s with flagged := true }
  | .receive => receive s
  | .look => look handler s
  | .commit applied => commit handler applied s

-- A request that changes nothing is made before the handler has looked, or
-- before a clearing write whose notice makes it look again; such a write arrives
-- if a request counts on it, and no write wipes out a request it will not act on.
def Kept (handler : Handler ρ κ) (s : State ρ κ) : Op ρ → Prop
  | .request r => handler.set r s.cell = s.cell → Told s ∨ (0 < s.clearing ∧ handler.acts handler.empty r = true)
  | .commit true => 0 < s.clearing → s.cell ≠ handler.empty → ∀ r ∈ s.unserved, handler.acts handler.empty r = true
  | .commit false => s.clearing = 1 → s.unserved = [] ∨ Told s
  | _ => True

section Histories

variable (handler : Handler ρ κ) (value : κ) (s : State ρ κ)

theorem write_last (last : s.updates.getLast?.getD s.seen = s.cell) :
    (write value s).updates.getLast?.getD (write value s).seen = (write value s).cell := by
  unfold write
  split
  · exact last
  · simp

theorem write_cell : (write value s).cell = value := by
  unfold write
  split
  · rename_i same
    exact same.symm
  · rfl

theorem write_told (change : value ≠ s.cell ∨ Told s) : Told (write value s) := by
  unfold write
  split
  · rename_i same
    exact change.resolve_left (fun differs => differs same)
  · exact .inl (by simp)

theorem write_unserved : (write value s).unserved = s.unserved := by
  unfold write
  split <;> rfl

theorem write_clearing : (write value s).clearing = s.clearing := by
  unfold write
  split <;> rfl

theorem request_inv (lawful : Lawful handler) (s : State ρ κ) (r : ρ) (inv : Inv handler s)
    (kept : Kept handler s (.request r)) : Inv handler (step handler s (.request r)) := by
  refine ⟨write_last _ s inv.last, fun other member => ?_⟩
  simp only [step, Told, write_cell, write_clearing]
  rcases List.mem_cons.mp member with rfl | earlier
  · refine ⟨lawful.acts_set other s.cell, ?_⟩
    by_cases same : handler.set other s.cell = s.cell
    · rcases kept same with told | ⟨positive, again⟩
      · exact .inl (write_told _ s (.inr told))
      · exact .inr ⟨positive, lawful.set_ne other s.cell, again⟩
    · exact .inl (write_told _ s (.inl same))
  · obtain ⟨acts, pending⟩ := inv.coming other earlier
    refine ⟨lawful.acts_more r s.cell other acts, ?_⟩
    rcases pending with told | ⟨positive, _, again⟩
    · exact .inl (write_told _ s (.inr told))
    · exact .inr ⟨positive, lawful.set_ne r s.cell, again⟩

theorem commit_inv (applied : Bool) (inv : Inv handler s)
    (kept : Kept handler s (.commit applied)) : Inv handler (commit handler applied s) := by
  unfold commit
  split
  · exact inv
  · rename_i outstanding
    have positive : 0 < s.clearing := Nat.pos_of_ne_zero outstanding
    cases applied with
    | true =>
        refine ⟨write_last _ _ inv.last, fun r member => ?_⟩
        rw [if_pos rfl, write_unserved] at member
        obtain ⟨acts, pending⟩ := inv.coming r member
        rw [if_pos rfl, write_cell]
        by_cases same : s.cell = handler.empty
        · refine ⟨same ▸ acts, .inl (write_told _ _ (.inr ?_))⟩
          exact pending.resolve_right (fun relied => relied.2.1 same)
        · exact ⟨kept positive same r member, .inl (write_told _ _ (.inl (Ne.symm same)))⟩
    | false =>
        refine ⟨inv.last, fun r member => ⟨(inv.coming r member).1, ?_⟩⟩
        rcases (inv.coming r member).2 with told | ⟨_, relied⟩
        · exact .inl told
        · by_cases only : s.clearing = 1
          · rcases kept only with none | told
            · rw [if_neg (by simp)] at member
              simp [none] at member
            · exact .inl told
          · exact .inr ⟨show 0 < s.clearing - 1 by omega, relied⟩

theorem inv_step (lawful : Lawful handler) (s : State ρ κ) (op : Op ρ) (inv : Inv handler s)
    (kept : Kept handler s op) : Inv handler (step handler s op) := by
  cases op with
  | request r => exact request_inv handler lawful s r inv kept
  | touch => exact ⟨inv.last, fun r member => ⟨(inv.coming r member).1, .inl (.inr rfl)⟩⟩
  | receive => exact receive_inv handler s inv
  | look => exact look_inv handler s inv
  | commit applied => exact commit_inv handler s applied inv kept

def Op.own : Op ρ → Bool
  | .receive => true
  | .look => true
  | .commit applied => applied
  | _ => false

def Settles (handler : Handler ρ κ) (s : State ρ κ) : Prop :=
  ∃ ops : List (Op ρ), (∀ op ∈ ops, op.own = true) ∧ Quiet (Runs.run (step handler) s ops)

theorem settles_step (op : Op ρ) (own : op.own = true)
    (later : Settles handler (step handler s op)) : Settles handler s := by
  obtain ⟨ops, all, quiet⟩ := later
  refine ⟨op :: ops, fun other member => ?_, quiet⟩
  rcases List.mem_cons.mp member with rfl | rest
  · exact own
  · exact all other rest

theorem settles_received (cell : κ)
    (received : ∀ s : State ρ κ, s.cell = cell → s.updates = [] → Settles handler s) (updates : List κ)
    (s : State ρ κ) (here : s.cell = cell) (pending : s.updates = updates) : Settles handler s := by
  induction updates generalizing s with
  | nil => exact received s here pending
  | cons value rest ih =>
      refine settles_step handler s .receive rfl (ih (receive s) ?_ ?_)
      · rw [receive, pending]
        exact here
      · rw [receive, pending]

theorem settles_looked (cell : κ)
    (looked : ∀ s : State ρ κ, s.cell = cell → s.updates = [] → s.flagged = false → Settles handler s)
    (s : State ρ κ) (here : s.cell = cell) (received : s.updates = []) : Settles handler s := by
  cases flagged : s.flagged with
  | false => exact looked s here received flagged
  | true =>
      refine settles_step handler s .look rfl (looked (look handler s) ?_ ?_ ?_)
      · rw [look, if_pos flagged]
        exact here
      · rw [look, if_pos flagged]
        exact received
      · rw [look, if_pos flagged]

theorem commit_succ (writes : Nat) (outstanding : s.clearing = writes + 1) :
    commit handler true s = write handler.empty { s with clearing := writes } := by
  rw [commit, if_neg (by omega), outstanding]
  rfl

theorem settles_empty (writes : Nat) (s : State ρ κ) (empty : s.cell = handler.empty)
    (received : s.updates = []) (looked : s.flagged = false) (outstanding : s.clearing = writes) :
    Settles handler s := by
  induction writes generalizing s with
  | zero => exact ⟨[], by simp, received, looked, outstanding⟩
  | succ writes ih =>
      refine settles_step handler s (.commit true) rfl ?_
      rw [show step handler s (.commit true) = commit handler true s from rfl, commit_succ handler s writes outstanding,
        write, if_pos empty.symm]
      exact ih _ empty received looked rfl

theorem settles : Settles handler s := by
  refine settles_received handler s.cell (settles_looked handler s.cell ?_) s.updates s rfl rfl
  intro s _ received looked
  cases outstanding : s.clearing with
  | zero => exact ⟨[], by simp, received, looked, outstanding⟩
  | succ writes =>
      refine settles_step handler s (.commit true) rfl ?_
      refine settles_received handler handler.empty (settles_looked handler handler.empty ?_) _ _ ?_ rfl
      · exact fun s empty received looked => settles_empty handler s.clearing s empty received looked rfl
      · rw [show step handler s (.commit true) = commit handler true s from rfl,
          commit_succ handler s writes outstanding, write_cell]

def Answered (handler : Handler ρ κ) (s : State ρ κ) : Prop :=
  ∃ ops : List (Op ρ), (∀ op ∈ ops, op.own = true) ∧ Quiet (Runs.run (step handler) s ops) ∧
    (Runs.run (step handler) s ops).unserved = []

theorem answered_step (op : Op ρ) (own : op.own = true)
    (later : Answered handler (step handler s op)) : Answered handler s := by
  obtain ⟨ops, all, rest⟩ := later
  refine ⟨op :: ops, fun other member => ?_, rest⟩
  rcases List.mem_cons.mp member with rfl | last
  · exact own
  · exact all other last

theorem own_step_served (op : Op ρ) (own : op.own = true) (served : s.unserved = []) :
    (step handler s op).unserved = [] := by
  cases op with
  | request r => cases own
  | touch => cases own
  | receive =>
      rw [step, receive]
      split <;> exact served
  | look =>
      rw [step, look]
      split
      · simp [served]
      · exact served
  | commit applied =>
      rw [step, commit]
      split
      · exact served
      · dsimp only
        split
        · rw [write_unserved]
          exact served
        · exact served

theorem answered_of_served (served : s.unserved = []) : Answered handler s := by
  obtain ⟨ops, own, quiet⟩ := settles handler s
  refine ⟨ops, own, quiet, ?_⟩
  clear quiet
  induction ops generalizing s with
  | nil => exact served
  | cons op rest ih =>
      exact ih (step handler s op) (own_step_served handler s op (own op List.mem_cons_self) served)
        (fun later member => own later (List.mem_cons_of_mem _ member))

theorem answered_of_told (updates : List κ) (s : State ρ κ) (inv : Inv handler s) (told : Told s)
    (pending : s.updates = updates) : Answered handler s := by
  induction updates generalizing s with
  | nil =>
      have flagged : s.flagged = true := told.resolve_left (fun some => some pending)
      refine answered_step handler s .look rfl (answered_of_served handler _ ?_)
      have current := inv.last
      rw [pending] at current
      rw [step, look, if_pos flagged]
      refine List.filter_eq_nil_iff.mpr (fun r member => ?_)
      rw [show s.seen = s.cell from current, (inv.coming r member).1]
      simp
  | cons value rest ih =>
      refine answered_step handler s .receive rfl (ih (receive s) (receive_inv handler s inv) (.inr ?_) ?_)
      · rw [receive, pending]
      · rw [receive, pending]

theorem answered_of_inv (inv : Inv handler s) : Answered handler s := by
  by_cases told : Told s
  · exact answered_of_told handler s.updates s inv told rfl
  · cases left : s.unserved with
    | nil => exact answered_of_served handler s left
    | cons r rest =>
        -- the requests left over count on the notice of a clearing write
        have relied := fun r member => ((inv.coming r member).2.resolve_left told)
        obtain ⟨positive, filled, _⟩ := relied r (left ▸ List.mem_cons_self)
        have kept : Kept handler s (.commit true) := fun _ _ other member => (relied other member).2.2
        refine answered_step handler s (.commit true) rfl
          (answered_of_told handler _ _ (commit_inv handler s true inv kept) ?_ rfl)
        rw [step, commit, if_neg (by omega)]
        exact write_told _ _ (.inl (Ne.symm filled))

theorem quiet_own_step (op : Op ρ) (own : op.own = true) (quiet : Quiet s) :
    step handler s op = s := by
  obtain ⟨updates, flagged, clearing⟩ := quiet
  cases op with
  | request r => cases own
  | touch => cases own
  | receive => rw [step, receive, updates]
  | look => rw [step, look, if_neg (by simp [flagged])]
  | commit applied => rw [step, commit, if_pos clearing]

theorem quiet_answered_iff (quiet : Quiet s) : Answered handler s ↔ s.unserved = [] := by
  constructor
  · rintro ⟨ops, own, rest, served⟩
    have still : Runs.run (step handler) s ops = s := by
      clear served rest
      induction ops with
      | nil => rfl
      | cons op rest ih =>
          have idle := quiet_own_step handler s op (own op List.mem_cons_self) quiet
          exact (congrArg (fun next => Runs.run (step handler) next rest) idle).trans
            (ih (fun later member => own later (List.mem_cons_of_mem _ member)))
    rwa [still] at served
  · exact answered_of_served handler s

theorem requests_answered (lawful : Lawful handler) (ops : List (Op ρ))
    (kept : Runs.Along (step handler) (Kept handler) (start handler) ops) :
    Runs.Always (step handler) (Answered handler) (start handler) ops := by
  have initial : Inv handler (start handler) := ⟨rfl, fun r member => by cases member⟩
  exact Runs.always_mono (answered_of_inv handler) (Runs.invariant_always (inv_step handler lawful) initial kept)

end Histories

end LevelRequests
