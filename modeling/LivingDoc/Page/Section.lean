import LivingDoc.Gherkin.StepWords
import LivingDoc.Page.Table
import LivingDoc.Remark.Basic

namespace LivingDoc

open Gherkin (StepKind)

inductive Attachment where
  | table (t : Table)
  | docString (text : String)
deriving DecidableEq

structure Step where
  position : Position
  kind : StepKind
  keyword : String
  text : String
  attachment : Option Attachment
  remarks : List Remark
deriving DecidableEq

structure Examples where
  name : Option String
  description : Option String
  tags : List String
  table : ExampleTable
deriving DecidableEq

inductive Topic where
  | scenario (slug : String)
  | outline (slug : String) (examples : List Examples)
  | background
deriving DecidableEq

structure Section where
  title : String
  description : String
  position : Position
  tags : List String
  steps : List Step
  /-- The identifier of the page that the section belongs to. -/
  owner : Option String
  topic : Topic
deriving DecidableEq

namespace Section

variable (s : Section)

/-- The identifier of a section; a background has none. -/
def slug : Option String :=
  match s.topic with
  | .scenario slug | .outline slug _ => some slug
  | .background => none

def examples : List Examples :=
  match s.topic with
  | .outline _ examples => examples
  | .scenario _ | .background => []

/-- A section with one more tag, unless it has it. -/
def insertTag (tag : String) : Section :=
  if s.tags.contains tag then s else { s with tags := s.tags ++ [tag] }

def setVerdict (block row cell : Nat) (v : Option Verdict) : Section :=
  match s.topic with
  | .outline slug examples =>
    let judge (e : Examples) : Examples := { e with table := e.table.setVerdict row cell v }
    { s with topic := .outline slug (examples.modify block judge) }
  | .scenario _ | .background => s

end Section

end LivingDoc
