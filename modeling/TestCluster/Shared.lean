namespace TestCluster

/-- A thing that is made when it is first used, and kept. -/
structure Shared (α : Type) where
  slot : Option α
  deriving DecidableEq

namespace Shared

variable {α ε : Type} {m : Type → Type} [Monad m]

def empty : Shared α :=
  ⟨none⟩

/-- Makes the thing only if the slot is empty; what cannot be made leaves it so. -/
def use (s : Shared α) (make : m (Except ε α)) : m (Except ε α × Shared α) :=
  match s.slot with
  | some a => pure (.ok a, s)
  | none => do
    match ← make with
    | .ok a => pure (.ok a, ⟨some a⟩)
    | .error e => pure (.error e, s)

def take (s : Shared α) : Option α × Shared α :=
  (s.slot, ⟨none⟩)

end Shared

end TestCluster
