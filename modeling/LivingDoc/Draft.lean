import LivingDoc.Page.Section
import LivingDoc.TagFilter

namespace LivingDoc

open Gherkin (StepWords)

/-- Why a document cannot be drafted, with the line of the offence. -/
inductive DraftError where
  | unknownKeyword (word : String) (line : Nat)
  | ruleFound (line : Nat)
deriving DecidableEq

def DraftError.message : DraftError → String
  | unknownKeyword word line => "unrecognized step keyword '" ++ word ++ "' at line " ++
    toString line
  | ruleFound line => "unsupported feature element 'Rule' at line " ++ toString line

structure Draft where
  background : Option Section
  sections : List Section
deriving DecidableEq

structure Drafter where
  words : StepWords
  slugOf : String → String
  hide : TagFilter

namespace Drafter

variable (d : Drafter)

def attachment : Gherkin.Argument → Attachment
  | .table rows => .table (.ofRows rows)
  | .docString text => .docString text

def step (s : Gherkin.Step) : Except DraftError Step :=
  match d.words.kindOf s.keyword with
  | .error e => .error (.unknownKeyword e.word s.position.line)
  | .ok kind => .ok
    { position := s.position
      kind := kind
      keyword := s.keyword
      text := s.text
      attachment := s.argument.map attachment
      remarks := [] }

def examples (e : Gherkin.Examples) : Examples where
  name := e.name
  description := e.description
  tags := e.tags
  table := .ofRows e.rows

def about (topic : Topic) (s : Gherkin.Scenario) : Except DraftError Section := do
  let steps ← s.steps.mapM d.step
  return {
    title := s.name
    description := s.description.getD ""
    position := s.position
    tags := d.hide.visible s.tags
    steps := steps
    owner := none
    topic := topic }

def scenario (s : Gherkin.Scenario) : Except DraftError Section :=
  d.about (.scenario (d.slugOf s.name)) s

def outline (s : Gherkin.Scenario) (e : List Gherkin.Examples) : Except DraftError Section :=
  d.about (.outline (d.slugOf s.name) (e.map examples)) s

def background (b : Gherkin.Background) : Except DraftError Section :=
  d.about .background ⟨b.name, b.description, [], b.steps, b.position⟩

def child : Gherkin.Child → Except DraftError Section
  | .scenario s => d.scenario s
  | .outline s e => d.outline s e
  | .rule _ p => .error (.ruleFound p.line)

def feature (f : Gherkin.Feature) : Except DraftError Draft := do
  let background ← f.background.mapM d.background
  let sections ← f.children.mapM d.child
  return { background, sections }

end Drafter

end LivingDoc
