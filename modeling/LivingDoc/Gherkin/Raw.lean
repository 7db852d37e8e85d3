import LivingDoc.Gherkin.Document
import LivingDoc.Text.Basic

namespace LivingDoc.Gherkin

namespace Raw

structure Step where
  keyword : String
  text : String
  docString : Option String
  table : Option (List Row)
  position : Position
deriving DecidableEq

structure Background where
  name : Option String
  description : Option String
  steps : List Step
  position : Position
deriving DecidableEq

structure Examples where
  name : Option String
  description : Option String
  tags : List String
  table : Option (List Row)
  position : Position
deriving DecidableEq

structure Scenario where
  name : String
  description : Option String
  tags : List String
  steps : List Step
  examples : List Examples
  position : Position
deriving DecidableEq

structure Rule where
  name : Option String
  position : Position
deriving DecidableEq

structure Feature where
  name : String
  description : Option String
  tags : List String
  background : Option Background
  scenarios : List Scenario
  rules : List Rule
  position : Position
deriving DecidableEq

/-- A text without the white space around it, unless nothing is left. -/
def present (s : Option String) : Option String :=
  (s.map Text.trimmed).filter fun s ↦ !s.isEmpty

def atTag (tag : String) : String := if tag.toList.head? = some '@' then tag else "@" ++ tag

namespace Step

variable (s : Step)

/-- The table of a step if it has rows, and else its doc string. -/
def argument : Option Argument :=
  match s.table with
  | some (r :: l) => some (.table (r :: l))
  | _ => s.docString.map .docString

def toStep : Gherkin.Step := ⟨s.keyword, s.text, s.argument, s.position⟩

end Step

def Background.toBackground (b : Background) : Gherkin.Background where
  name := (present b.name).getD ""
  description := present b.description
  steps := b.steps.map Step.toStep
  position := b.position

def Examples.toExamples? (e : Examples) : Option Gherkin.Examples :=
  match e.table with
  | some (r :: l) => some
    { name := present e.name
      description := present e.description
      tags := e.tags.map atTag
      rows := r :: l
      position := e.position }
  | _ => none

namespace Scenario

variable (s : Scenario)

def toScenario : Gherkin.Scenario where
  name := s.name
  description := present s.description
  tags := s.tags.map atTag
  steps := s.steps.map Step.toStep
  position := s.position

/-- A scenario with blocks of examples, even empty ones, is an outline. -/
def toChild : Child :=
  if s.examples.isEmpty then .scenario s.toScenario
  else .outline s.toScenario (s.examples.filterMap Examples.toExamples?)

end Scenario

def Rule.toChild (r : Rule) : Child := .rule ((present r.name).getD "") r.position

namespace Feature

variable (f : Feature)

def children : List Child :=
  (f.scenarios.map Scenario.toChild ++ f.rules.map Rule.toChild).mergeSort
    fun a b ↦ a.position.le b.position

def toFeature (language : Option String) : Gherkin.Feature where
  name := f.name
  description := present f.description
  tags := f.tags.map atTag
  language := language
  background := f.background.map Background.toBackground
  children := f.children
  position := f.position

end Feature

end Raw

/-- A parser of feature files, which is given to the program: the languages that it knows, and what
it reads of a text in one of them, or in the language of its own choice where none is named. -/
structure Parser where
  knows : String → Bool
  parse? : Option String → List Char → Option Raw.Feature

end LivingDoc.Gherkin
