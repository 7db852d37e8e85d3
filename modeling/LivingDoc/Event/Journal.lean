import LivingDoc.Event.Directive
import LivingDoc.Text.Line

namespace LivingDoc

structure Refusal where
  directive : List Char
  error : DirectiveError
deriving DecidableEq

def Refusal.text (r : Refusal) : String :=
  "ignoring `" ++ .ofList r.directive ++ "`: " ++ r.error.message

structure Journal where
  directives : List Directive
  refusals : List Refusal
deriving DecidableEq

namespace Journal

/-- The journal of the directives between the commas of a text; if none can be followed, the
journal of all events of at least the given severity. How a directive is read is given to the
program, which can be run with the reader that stands here. -/
def ofText (least : Severity) (s : String)
    (read : List Char → Except DirectiveError Directive := Directive.parse) : Journal :=
  let pieces := (Text.pieces (· = ',') s.toList).filter fun l ↦ !l.isEmpty
  let directives := pieces.filterMap fun l ↦ (read l).toOption
  { directives := if directives.isEmpty then [⟨[], .everything, some least⟩] else directives
    refusals := pieces.filterMap fun l ↦
      match read l with
      | .ok _ => none
      | .error e => some ⟨l, e⟩ }

variable (j : Journal)

def prefer (best : Option Directive) (d : Directive) : Option Directive :=
  if best.all d.replaces then some d else best

/-- The directive that decides on an event, if one speaks of it; of equals, the last. -/
def deciding (e : Event) : Option Directive :=
  (j.directives.filter (·.concerns e)).foldl prefer none

def holds (e : Event) : Bool := (j.deciding e).any (·.admits e)

def lines (entry : String) : List String :=
  (Text.lines (entry.toList ++ ['\n'])).map fun l ↦ .ofList (Text.trimStart l)

def notices : List String := j.refusals.flatMap fun r ↦ lines r.text

def entries (events : List Event) : List String :=
  (events.filter j.holds).flatMap fun e ↦ lines e.text

/-- What is written in all; opening a journal once more repeats its notices and is an event. -/
def record (again : Bool) (events : List Event) : List String :=
  if again then j.notices ++ j.notices ++ j.entries (.journalKept :: events)
  else j.notices ++ j.entries events

end Journal

end LivingDoc
