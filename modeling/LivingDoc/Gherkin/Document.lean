import LivingDoc.Position

namespace LivingDoc.Gherkin

abbrev Row := List String

inductive Argument where
  | table (rows : List Row)
  | docString (text : String)
deriving DecidableEq

structure Step where
  keyword : String
  text : String
  argument : Option Argument
  position : Position
deriving DecidableEq

structure Background where
  name : String
  description : Option String
  steps : List Step
  position : Position
deriving DecidableEq

structure Scenario where
  name : String
  description : Option String
  tags : List String
  steps : List Step
  position : Position
deriving DecidableEq

structure Examples where
  name : Option String
  description : Option String
  tags : List String
  rows : List Row
  position : Position
deriving DecidableEq

inductive Child where
  | scenario (s : Scenario)
  | outline (s : Scenario) (examples : List Examples)
  | rule (name : String) (position : Position)
deriving DecidableEq

namespace Child

def position : Child → Position
  | scenario s | outline s _ => s.position
  | rule _ p => p

/-- The tags written above a child; those of a rule are not kept. -/
def tags : Child → List String
  | scenario s | outline s _ => s.tags
  | rule _ _ => []

def label : Child → String
  | scenario _ => "Scenario"
  | outline _ _ => "Scenario Outline"
  | rule _ _ => "Rule"

end Child

structure Feature where
  name : String
  description : Option String
  tags : List String
  language : Option String
  background : Option Background
  children : List Child
  position : Position
deriving DecidableEq

structure Comment where
  text : String
  position : Position
deriving DecidableEq

structure Document where
  feature : Feature
  comments : List Comment
deriving DecidableEq

end LivingDoc.Gherkin
