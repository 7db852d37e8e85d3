import LivingDoc.Pattern.Group
import LivingDoc.Pattern.Set

namespace LivingDoc

inductive PatternError where
  | malformed
  | wordBoundary
deriving DecidableEq

def PatternError.message : PatternError → String
  | malformed => "error building NFA"
  | wordBoundary => "unsupported regex feature for DFAs: cannot build DFAs for regexes with " ++
      "Unicode word boundaries; switch to ASCII word boundaries, or heuristically enable " ++
      "Unicode word boundaries or use a different regex engine"

namespace Pattern

def depthLimit : Nat := 250

/-- A group that is still open, or the whole: its modes where it has been read up to, its finished
branches, the parts of the unfinished one, and the depth of its last part if that can be
repeated. -/
structure Level where
  modes : Modes
  branches : Nesting
  parts : Nesting
  last : Option Nat
deriving DecidableEq

namespace Level

def start (m : Modes) : Level := ⟨m, .none, .none, none⟩

variable (v : Level)

def push (depth : Nat) : Level := { v with parts := v.parts.push depth, last := some depth }

def change (m : Modes) : Level := { v with modes := m, parts := v.parts.push 0, last := none }

def branch : Level := ⟨v.modes, v.branches.push v.parts.depth, .none, none⟩

/-- With its last part repeated, which nests that once more. -/
def again? : Option Level :=
  v.last.map fun d ↦
    { v with parts.deepest := max v.parts.deepest (d + 1), last := some (d + 1) }

def depth : Nat := (v.branches.push v.parts.depth).depth

end Level

structure State where
  level : Level
  outer : List Level
  names : List (List Char)
  bounded : Bool

namespace State

def start : State := ⟨.start .initial, [], [], false⟩

variable (s : State)

def push (depth : Nat) : State := { s with level := s.level.push depth }

def pushAtom : Atom → State
  | .boundary => { s.push 0 with bounded := s.bounded || s.level.modes.unicode }
  | _ => s.push 0

/-- With what a parenthesis opens; no two groups have one name. -/
def enter? : Opening → Option State
  | .modes m => some { s with level := s.level.change m }
  | .group m name =>
    if name.any s.names.contains then none
    else some { s with
      level := .start m
      outer := s.level :: s.outer
      names := name.toList ++ s.names }

def leave? : Option State :=
  match s.outer with
  | v :: outer => some { s with level := v.push (s.level.depth + 1), outer := outer }
  | [] => none

end State

def step (s : State) : Scan (State ⊕ State) := do
  let m := s.level.modes
  gap m
  match ← get with
  | [] => return .inr s
  | c :: l =>
    set l
    match c with
    | '(' => return .inl (← s.enter? (← opening m))
    | ')' => return .inl (← s.leave?)
    | '|' => return .inl { s with level := s.level.branch }
    | '[' => return .inl (s.push (← charSet m))
    | '?' | '*' | '+' =>
      let v ← s.level.again?
      modify fun l ↦ if l.head? = some '?' then l.tail else l
      return .inl { s with level := v }
    | '{' => failure
    | '\\' => return .inl (s.pushAtom (← escape m))
    | '.' =>
      guard m.unicode
      return .inl (s.push 0)
    | _ => return .inl (s.push 0)

/-- Whether a text is a pattern that can be used, or what is wrong with it. A log refuses directives
by this and asks for no more: what a pattern matches is a matter of spans, which no log tells. -/
def check (l : List Char) : Except PatternError Unit :=
  match (iterate step .start).run' l with
  | none => .error .malformed
  | some s =>
    if !s.outer.isEmpty || s.level.depth > depthLimit then .error .malformed
    else if s.bounded then .error .wordBoundary
    else .ok ()

end Pattern

end LivingDoc
