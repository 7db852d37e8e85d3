namespace LivingDoc

structure Position where
  line : Nat
  column : Nat
deriving DecidableEq

namespace Position

def le (p q : Position) : Bool :=
  p.line < q.line || (p.line = q.line && p.column ≤ q.column)

end Position

end LivingDoc
