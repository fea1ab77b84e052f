import TwoParty.Wire.Fields

/-!
# TwoParty.Pedersen.Store

What a side of the scheme keeps under commitment numbers.  The view of a store
is the look-up `find?`; there is one lemma for each operation.
-/

namespace TwoParty

namespace Pedersen

/-- At most one entry for each number. -/
structure Store (α : Type) where
  entries : List (CommitmentId × α)

namespace Store

variable {α : Type}

def empty : Store α := ⟨[]⟩

/-- The entry under a number. -/
def find? (s : Store α) (id : CommitmentId) : Option α :=
  (s.entries.find? fun e => e.1 = id).map (·.2)

/-- Is there an entry under a number? -/
def contains (s : Store α) (id : CommitmentId) : Bool := (s.find? id).isSome

/-- Remove the entry under a number. -/
def erase (s : Store α) (id : CommitmentId) : Store α := ⟨s.entries.filter fun e => e.1 ≠ id⟩

/-- Put an entry under a number, in place of an earlier one. -/
def insert (s : Store α) (id : CommitmentId) (a : α) : Store α := ⟨(id, a) :: (s.erase id).entries⟩

/-- Has the store no entries? -/
def isEmpty (s : Store α) : Bool := s.entries.isEmpty

@[simp] theorem find?_empty (id : CommitmentId) : (empty : Store α).find? id = none := rfl

theorem find?_erase (s : Store α) (id other : CommitmentId) :
    (s.erase id).find? other = if other = id then none else s.find? other := by
  obtain ⟨entries⟩ := s
  induction entries with
  | nil => simp [erase, find?]
  | cons e entries ih => simp only [erase, find?] at ih ⊢; grind

theorem find?_insert (s : Store α) (id other : CommitmentId) (a : α) :
    (s.insert id a).find? other = if other = id then some a else s.find? other := by
  have h := find?_erase s id other
  simp only [insert, find?, List.find?_cons] at h ⊢
  grind

end Store

end Pedersen

end TwoParty
