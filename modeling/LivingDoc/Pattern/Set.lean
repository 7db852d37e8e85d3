import LivingDoc.Pattern.Escape
import LivingDoc.Pattern.Nesting

namespace LivingDoc.Pattern

def classNames : List String :=
  ["alnum", "alpha", "ascii", "blank", "cntrl", "digit", "graph", "lower", "print", "punct",
   "space", "upper", "word", "xdigit"]

def classAfter? : List Char → Option (Bool × List Char)
  | ':' :: l =>
    let (negated, l) := match l with
      | '^' :: r => (true, r)
      | r => (false, r)
    match l.dropWhile (· ≠ ':') with
    | ':' :: ']' :: r =>
      if classNames.contains (.ofList (l.takeWhile (· ≠ ':'))) then some (negated, r) else none
    | _ => none
  | _ => none

def member (m : Modes) : Scan Atom := do
  let c ← next
  if c = '\\' then escape m else return .literal c

/-- What a set sees behind a hyphen. Where white space stands for nothing, so does the mark of a
comment, but not what the comment says. -/
def behind (m : Modes) (l : List Char) : Option Char :=
  if m.spaced then
    match l.dropWhile Unicode.isBlank with
    | '#' :: r => (r.dropWhile Unicode.isBlank).head?
    | r => r.head?
  else l.head?

def admits (m : Modes) (c : Char) : Bool := m.unicode || c.toNat < 0x80

def admitsAtom (m : Modes) : Atom → Bool
  | .literal c => admits m c
  | .set => true
  | .anchor | .boundary => false

def admitsRange (m : Modes) : Atom → Atom → Bool
  | .literal c, .literal d => admits m c && admits m d && c ≤ d
  | _, _ => false

/-- One atom, or two with a hyphen between. A hyphen before a closing bracket or a second hyphen
makes no range. -/
def range (m : Modes) : Scan Unit := do
  let a ← member m
  gap m
  match ← get with
  | '-' :: l =>
    if behind m l = some ']' || behind m l = some '-' then guard (admitsAtom m a)
    else
      set l
      gap m
      guard (admitsRange m a (← member m))
  | _ => guard (admitsAtom m a)

structure OpenSet where
  members : Nesting
  operand : Option Nat
deriving DecidableEq

namespace OpenSet

variable (s : OpenSet)

def push (depth : Nat) : OpenSet := { s with members := s.members.push depth }

def depth : Nat :=
  match s.operand with
  | some d => max d s.members.depth + 1
  | none => s.members.depth

def operate : OpenSet := ⟨.none, some s.depth⟩

end OpenSet

def hyphens (m : Modes) : Scan Nesting := iterate (fun n ↦ do
  if (← peek) = '-' then
    let _ ← next
    gap m
    return .inl (n.push 0)
  else return .inr n) Nesting.none

def openSet (m : Modes) : Scan OpenSet := do
  gap m
  if (← peek) = '^' then
    guard m.unicode
    let _ ← next
    gap m
  let n ← hyphens m
  if n.count = 0 && (← peek) = ']' then
    let _ ← next
    return ⟨n.push 0, none⟩
  else return ⟨n, none⟩

/-- One step in a set with others around it, or out of the outermost, whose depth it then gives. -/
def setStep (m : Modes) : OpenSet × List OpenSet → Scan (OpenSet × List OpenSet ⊕ Nat)
  | (s, outer) => do
    gap m
    match ← get with
    | '[' :: l =>
      match classAfter? l with
      | some (negated, r) =>
        guard (m.unicode || !negated)
        set r
        return .inl (s.push 0, outer)
      | none =>
        set l
        return .inl (← openSet m, s :: outer)
    | ']' :: l =>
      set l
      match outer with
      | t :: outer => return .inl (t.push (s.depth + 1), outer)
      | [] => return .inr (s.depth + 1)
    | '&' :: '&' :: l | '-' :: '-' :: l | '~' :: '~' :: l =>
      set l
      return .inl (s.operate, outer)
    | _ =>
      range m
      return .inl (s.push 0, outer)

def charSet (m : Modes) : Scan Nat := do
  let s ← openSet m
  iterate (setStep m) (s, [])

end LivingDoc.Pattern
