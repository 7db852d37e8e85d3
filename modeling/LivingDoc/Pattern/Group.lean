import LivingDoc.Pattern.Scan
import LivingDoc.Unicode.Word

namespace LivingDoc.Pattern

inductive Opening where
  | group (m : Modes) (name : Option (List Char))
  | modes (m : Modes)

def modeLetters : List Char := ['i', 'm', 's', 'u', 'x', 'R', 'U']

def Modes.switch (m : Modes) (c : Char) (on : Bool) : Modes :=
  match c with
  | 'x' => { m with spaced := on }
  | 'u' => { m with unicode := on }
  | _ => m

/-- Letters of modes, each at most once, up to a colon or the closing parenthesis. A hyphen, of
which there is at most one, comes before those that are switched off. -/
def modeSwitches (m : Modes) (negated dangling : Bool) (seen : List Char) :
    List Char → Option (Opening × List Char)
  | [] => none
  | c :: l =>
    if c = ':' then if dangling then none else some (.group m none, l)
    else if c = ')' then if dangling || seen.isEmpty then none else some (.modes m, l)
    else if c = '-' then if negated then none else modeSwitches m true true seen l
    else if modeLetters.contains c && !seen.contains c then
      modeSwitches (m.switch c !negated) negated false (c :: seen) l
    else none

def isName : List Char → Bool
  | [] => false
  | c :: l => (c = '_' || Unicode.isAlphabetic c) && l.all fun d ↦
      d = '_' || d = '.' || d = '[' || d = ']' || Unicode.isAlphanumeric d

def groupName (m : Modes) : Scan Opening := fun l ↦
  let name := l.takeWhile (· ≠ '>')
  match l.dropWhile (· ≠ '>') with
  | _ :: r => if isName name then some (.group m (some name), r) else none
  | [] => none

def opening (m : Modes) : Scan Opening := do
  gap m
  match ← get with
  | '?' :: 'P' :: '<' :: l | '?' :: '<' :: l =>
    set l
    groupName m
  | '?' :: l =>
    set l
    modeSwitches m false false []
  | _ => return .group m none

end LivingDoc.Pattern
