import Mathlib.Data.Set.Basic

set_option autoImplicit false

-- Instances that outlive the process are kept in a registry outside it. A pass
-- destroys the instances of owners that go, clears what no owner wants, and
-- makes the instances that are missing.
namespace Ownership

variable {κ : Type}

@[ext] structure Held (κ : Type) where
  owners : Set κ
  registry : Set κ

structure Pass (κ : Type) where
  destroyed : Set κ
  wanted : Set κ
  deletes : Set κ
  creates : Set κ

def Pass.kept (pass : Pass κ) (held : Held κ) : Set κ := held.owners \ pass.destroyed

def Pass.apply (pass : Pass κ) (held : Held κ) : Held κ where
  owners := {k | k ∈ pass.wanted ∧ (k ∈ pass.kept held ∨ k ∈ pass.creates)}
  registry := {k | (k ∈ held.registry ∧ k ∉ pass.destroyed ∧ (k ∈ pass.wanted ∨ k ∉ pass.deletes)) ∨
    (k ∈ pass.wanted ∧ k ∉ pass.kept held ∧ k ∈ pass.creates)}

def Covered (held : Held κ) : Prop := held.owners ⊆ held.registry

def strays (held : Held κ) : Set κ := held.registry \ held.owners

def Pass.Refused (pass : Pass κ) (k : κ) : Prop := k ∉ pass.deletes ∨ (k ∈ pass.wanted ∧ k ∉ pass.creates)

theorem apply_covered (pass : Pass κ) (held : Held κ) (covered : Covered held) : Covered (pass.apply held) := by
  rintro k ⟨wanted, kept | created⟩
  · exact .inl ⟨covered kept.1, kept.2, .inl wanted⟩
  · by_cases kept : k ∈ pass.kept held
    · exact .inl ⟨covered kept.1, kept.2, .inl wanted⟩
    · exact .inr ⟨wanted, kept, created⟩

theorem apply_strays (pass : Pass κ) (held : Held κ) (keeps : pass.kept held ⊆ pass.wanted) (k : κ) (stray : k ∈ strays (pass.apply held)) :
    k ∈ strays held ∧ pass.Refused k := by
  obtain ⟨there, unowned⟩ := stray
  rcases there with ⟨old, alive, spared⟩ | ⟨wanted, _, created⟩
  · have outside : k ∉ held.owners := fun owner => unowned ⟨keeps ⟨owner, alive⟩, .inl ⟨owner, alive⟩⟩
    refine ⟨⟨old, outside⟩, ?_⟩
    rcases spared with wanted | refused
    · exact .inr ⟨wanted, fun created => unowned ⟨wanted, .inr created⟩⟩
    · exact .inl refused
  · exact absurd ⟨wanted, .inr created⟩ unowned

end Ownership
