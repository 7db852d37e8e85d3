import LivingDoc.Settings
import LivingDoc.Tagging
import LivingDoc.Text.Quoted

namespace LivingDoc

inductive Event where
  | remarkAboveSections (line : Nat)
  | remarkWithoutStep (line : Nat)
  | tagFound (title : String) (f : Finding)
  | featureExcluded (feature : String)
  | sectionExcluded (feature title : String) (line : Nat)
  | nothingLeft (feature : String) (total : Nat)
  | published (feature : String) (sections excluded remarks : Nat)
  | journalKept
deriving DecidableEq

namespace Event

def severity : Event → Severity
  | remarkAboveSections _ | remarkWithoutStep _ | tagFound _ _ => .trace
  | _ => .debug

def target : Event → String
  | remarkAboveSections _ | remarkWithoutStep _ => "featuredoc::comments::associate"
  | tagFound _ _ => "featuredoc::comments::derive"
  | featureExcluded _ | sectionExcluded _ _ _ | nothingLeft _ _ | published _ _ _ _ =>
    "featuredoc::assembler"
  | journalKept => "featuredoc::logging"

def message : Event → String
  | remarkAboveSections _ => "comment precedes every feature element"
  | remarkWithoutStep _ => "comment has no step to attach to"
  | tagFound _ ⟨_, _, true⟩ => "derived tag hidden"
  | tagFound _ ⟨.theme, _, false⟩ => "derived theme tag"
  | tagFound _ ⟨.story, _, false⟩ => "derived story tag"
  | featureExcluded _ => "feature excluded by tag"
  | sectionExcluded _ _ _ => "scenario excluded by tag"
  | nothingLeft _ _ => "every scenario excluded, dropping feature"
  | published _ _ _ _ => "assembled feature"
  | journalKept => "subscriber already installed, keeping it"

def fields : Event → List (String × String)
  | remarkAboveSections line | remarkWithoutStep line => [("line", toString line)]
  | tagFound title ⟨_, tag, true⟩ => [("element", title), ("tag", tag)]
  | tagFound title ⟨_, tag, false⟩ =>
    [("element", title), ("tag", "Some(" ++ Text.Quoted.quote tag ++ ")")]
  | featureExcluded feature => [("feature", feature)]
  | sectionExcluded feature title line =>
    [("feature", feature), ("element", title), ("line", toString line)]
  | nothingLeft feature total => [("feature", feature), ("total", toString total)]
  | published feature sections excluded remarks =>
    [("feature", feature), ("elements", toString sections), ("excluded", toString excluded),
      ("comments", toString remarks)]
  | journalKept => []

variable (e : Event)

def fieldNames : List String := "message" :: e.fields.map (·.1)

def text : String :=
  e.severity.name.toUpper ++ " " ++ e.target ++ ": " ++ e.message ++
    String.join (e.fields.map fun f ↦ " " ++ f.1 ++ "=" ++ f.2)

end Event

end LivingDoc
