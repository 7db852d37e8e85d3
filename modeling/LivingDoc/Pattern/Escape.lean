import LivingDoc.Pattern.Scan

namespace LivingDoc.Pattern

inductive Atom where
  | literal (c : Char)
  | set
  | anchor
  | boundary
deriving DecidableEq

def hexDigit? (c : Char) : Option Nat :=
  if c.isDigit then some (c.toNat - '0'.toNat)
  else if 'a' ≤ c ∧ c ≤ 'f' then some (c.toNat - 'a'.toNat + 10)
  else if 'A' ≤ c ∧ c ≤ 'F' then some (c.toNat - 'A'.toNat + 10)
  else none

def hex (m : Modes) : Nat → Nat → Scan Nat
  | 0, n => do
    gap m
    return n
  | k + 1, n => do
    gap m
    let d ← hexDigit? (← next)
    hex m k (16 * n + d)

def character? (n : Nat) : Option Char := if n.isValidChar then some (.ofNat n) else none

def category (m : Modes) : Scan Atom := do
  gap m
  let c ← next
  gap m
  guard (m.unicode && ['c', 'l', 'm', 'n', 'p', 's', 'z'].contains c.toLower)
  return .set

/-- What follows a backslash. A letter or digit must have a meaning; any other character of ASCII
but the angle brackets stands for itself. -/
def escape (m : Modes) : Scan Atom := do
  let c ← next
  match c with
  | 'x' =>
    let n ← hex m 2 0
    guard (m.unicode || n < 0x80)
    return .literal (← character? n)
  | 'u' => return .literal (← character? (← hex m 4 0))
  | 'U' => return .literal (← character? (← hex m 8 0))
  | 'p' | 'P' => category m
  | 'd' | 's' | 'w' => return .set
  | 'D' | 'S' | 'W' =>
    guard m.unicode
    return .set
  | 'a' => return .literal '\x07'
  | 'f' => return .literal '\x0C'
  | 't' => return .literal '\t'
  | 'n' => return .literal '\n'
  | 'r' => return .literal '\r'
  | 'v' => return .literal '\x0B'
  | 'A' | 'z' => return .anchor
  | 'b' | 'B' | '<' | '>' => return .boundary
  | c =>
    guard (!c.isAlphanum && c.toNat < 0x80)
    return .literal c

end LivingDoc.Pattern
