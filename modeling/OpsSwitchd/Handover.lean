import Mathlib.Data.List.Perm.Basic
import Mathlib.Data.List.Basic

set_option autoImplicit false

namespace Handover

universe u

variable {α : Type u}

-- One place between a producer and a consumer, with everything that has left it.
structure Slot (α : Type u) where
  pending : Option α
  taken : List α
  dropped : List α
deriving DecidableEq, Repr

def empty : Slot α := ⟨none, [], []⟩

def drop (slot : Slot α) : Slot α := { slot with pending := none, dropped := slot.dropped ++ slot.pending.toList }

def take (slot : Slot α) : Slot α := { slot with pending := none, taken := slot.taken ++ slot.pending.toList }

-- The producer overwrites what nobody took.
def put (slot : Slot α) (item : α) : Slot α := { drop slot with pending := some item }

def account (slot : Slot α) : List α := slot.pending.toList ++ slot.taken ++ slot.dropped

theorem drop_account (slot : Slot α) : (account (drop slot)).Perm (account slot) := by
  have moved : (slot.taken ++ (slot.dropped ++ slot.pending.toList)).Perm (slot.pending.toList ++ (slot.taken ++ slot.dropped)) := by
    rw [← List.append_assoc]
    exact List.perm_append_comm
  simpa only [account, drop, Option.toList_none, List.nil_append, List.append_assoc] using moved

theorem take_account (slot : Slot α) : (account (take slot)).Perm (account slot) := by
  simpa only [account, take, Option.toList_none, List.nil_append] using
    List.Perm.append_right slot.dropped List.perm_append_comm

theorem put_account (slot : Slot α) (item : α) : (account (put slot item)).Perm (item :: account slot) :=
  List.Perm.cons item (drop_account slot)

def InOrder (offered : List α) (slot : Slot α) : Prop := (slot.taken ++ slot.pending.toList).Sublist offered

theorem drop_in_order (offered : List α) (slot : Slot α) (order : InOrder offered slot) : InOrder offered (drop slot) := by
  unfold InOrder at order ⊢
  have shorter : (slot.taken ++ (none : Option α).toList).Sublist (slot.taken ++ slot.pending.toList) :=
    List.Sublist.append_left (List.nil_sublist _) _
  exact shorter.trans order

theorem take_in_order (offered : List α) (slot : Slot α) (order : InOrder offered slot) : InOrder offered (take slot) := by
  unfold InOrder at order ⊢
  simpa only [take, Option.toList_none, List.append_nil] using order

theorem put_in_order (offered : List α) (slot : Slot α) (item : α) (order : InOrder offered slot) :
    InOrder (offered ++ [item]) (put slot item) := by
  have kept : slot.taken.Sublist offered := (List.sublist_append_left _ _).trans order
  exact kept.append_right [item]

end Handover
