import LivingDoc.Text.Basic
import LivingDoc.Text.Line

namespace LivingDoc.Gherkin

open Text

structure Header where
  line : Nat
  code : String
deriving DecidableEq

namespace Header

def isCodeChar (c : Char) : Bool := c.isAlphanum || c = '_' || c = '-'

def after? (word l : List Char) : Option (List Char) :=
  let l := trimStart l
  if word.isPrefixOf l then some (l.drop word.length) else none

/-- The code of a line such as `# language: en`. -/
def code? (line : List Char) : Option (List Char) := do
  let l ← after? ['#'] line
  let l ← after? ['l', 'a', 'n', 'g', 'u', 'a', 'g', 'e'] l
  let l ← after? [':'] l
  let code := trim l
  if !code.isEmpty && code.all isCodeChar then some code else none

def mayPrecede (line : List Char) : Bool :=
  match trim line with
  | [] => true
  | c :: _ => c = '#'

def among (number : Nat) : List (List Char) → Option Header
  | [] => none
  | line :: l =>
    if mayPrecede line then
      match code? line with
      | some code => some ⟨number, .ofList code⟩
      | none => among (number + 1) l
    else none

def ofText? (l : List Char) : Option Header := among 1 (lines l)

end Header

end LivingDoc.Gherkin
