import LivingDoc.Text.Basic

namespace LivingDoc.Gherkin

inductive StepKind where
  /-- A state of affairs to start from: given. -/
  | context
  /-- Something that is done: when. -/
  | action
  /-- What is then to be seen: then. -/
  | outcome
  /-- More of what the step before was for: and. -/
  | conjunction
  /-- More of the same, by contrast: but. -/
  | contrast
deriving DecidableEq

namespace StepKind

def label : StepKind → String
  | context => "Given"
  | action => "When"
  | outcome => "Then"
  | conjunction => "And"
  | contrast => "But"

/-- The kinds in the order in which a word shared by several is looked up. -/
def byPrecedence : List StepKind := [action, context, outcome, conjunction, contrast]

end StepKind

structure UnknownKeyword where
  word : String
deriving DecidableEq

def UnknownKeyword.message (e : UnknownKeyword) : String :=
  "unrecognized step keyword: " ++ e.word

structure StepWords where
  context : List String
  action : List String
  outcome : List String
  conjunction : List String
  contrast : List String
deriving DecidableEq

namespace StepWords

variable (w : StepWords)

def of : StepKind → List String
  | .context => w.context
  | .action => w.action
  | .outcome => w.outcome
  | .conjunction => w.conjunction
  | .contrast => w.contrast

def all : List String := w.context ++ w.action ++ w.outcome ++ w.conjunction ++ w.contrast

/-- The kind of step that a word opens, white space around it aside. -/
def kindOf (word : String) : Except UnknownKeyword StepKind :=
  match StepKind.byPrecedence.find? fun k ↦ (w.of k).contains (Text.trimmed word) with
  | some k => .ok k
  | none => .error ⟨Text.trimmed word⟩

end StepWords

end LivingDoc.Gherkin
