namespace LivingDoc.Pattern

/-- Parts side by side: how many they are, and how deep the deepest is nested. -/
structure Nesting where
  count : Nat
  deepest : Nat
deriving DecidableEq

namespace Nesting

def none : Nesting := ⟨0, 0⟩

variable (n : Nesting)

def push (depth : Nat) : Nesting := ⟨n.count + 1, max n.deepest depth⟩

def depth : Nat := if n.count < 2 then n.deepest else n.deepest + 1

end Nesting

end LivingDoc.Pattern
