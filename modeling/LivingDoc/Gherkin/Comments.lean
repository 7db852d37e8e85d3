import LivingDoc.Gherkin.DocString
import LivingDoc.Gherkin.Document

namespace LivingDoc.Gherkin

open Text

namespace DocString

/-- The fence that a line begins with, if any. -/
def fenceOf (line : List Char) : Option (List Char) :=
  [quotes, ticks].find? (·.isPrefixOf (trimStart line))

end DocString

namespace Comment

def ofLine? (number : Nat) (line : List Char) : Option Comment :=
  match trimStart line with
  | '#' :: l => some
    { text := .ofList (trimEnd ('#' :: l))
      position := ⟨number, (line.takeWhile Unicode.isBlank).length + 1⟩ }
  | _ => none

/-- The comments among lines that are numbered from `number`: `fence` is the fence that is open
above them, and `header` the number of a line that is none. -/
def among (header : Option Nat) : Option (List Char) → Nat → List (List Char) → List Comment
  | _, _, [] => []
  | some fence, number, line :: l =>
    among header (if fence.isPrefixOf (trimStart line) then none else some fence) (number + 1) l
  | none, number, line :: l =>
    match DocString.fenceOf line with
    | some fence => among header (some fence) (number + 1) l
    | none =>
      (if header = some number then none else ofLine? number line).toList ++
        among header none (number + 1) l

def ofText (header : Option Nat) (l : List Char) : List Comment := among header none 1 (lines l)

end Comment

end LivingDoc.Gherkin
