import LivingDoc.Unicode.Blank

namespace LivingDoc.Pattern

abbrev Scan := StateT (List Char) Option

structure Modes where
  /-- Whether white space and comments stand for nothing. -/
  spaced : Bool
  /-- Whether the pattern speaks of characters, and not of single bytes. -/
  unicode : Bool
deriving DecidableEq

def Modes.initial : Modes := ⟨false, true⟩

def next : Scan Char := fun l ↦
  match l with
  | c :: l => some (c, l)
  | [] => none

def peek : Scan Char := fun l ↦ l.head?.map (·, l)

mutual

def dropGap : List Char → List Char
  | [] => []
  | c :: l => if Unicode.isBlank c then dropGap l else if c = '#' then dropComment l else c :: l

def dropComment : List Char → List Char
  | [] => []
  | c :: l => if c = '\n' then dropGap l else dropComment l

end

def gap (m : Modes) : Scan Unit := modify fun l ↦ if m.spaced then dropGap l else l

variable {σ β : Type}

def iterateWithin (step : σ → Scan (σ ⊕ β)) : List Char → σ → Scan β
  | [], s => do
    match ← step s with
    | .inl _ => failure
    | .inr b => return b
  | _ :: l, s => do
    match ← step s with
    | .inl s => iterateWithin step l s
    | .inr b => return b

/-- Step after step, until one is the last; every other one takes at least one character. -/
def iterate (step : σ → Scan (σ ⊕ β)) (s : σ) : Scan β := do iterateWithin step (← get) s

end LivingDoc.Pattern
