import LivingDoc.Event
import LivingDoc.Pattern
import LivingDoc.Text.Byte
import LivingDoc.Text.Number

namespace LivingDoc

inductive DirectiveError where
  | malformed
  | unknownLevel
  | unusableValue (e : PatternError)
deriving DecidableEq

def DirectiveError.message : DirectiveError → String
  | malformed => "invalid filter directive"
  | unknownLevel => "error parsing level filter: expected one of \"off\", \"error\", \"warn\", " ++
      "\"info\", \"debug\", \"trace\", or a number 0-5"
  | unusableValue e => "invalid field filter: " ++ e.message

/-- What a directive speaks of below its target: all events, those with a particular of some name,
or spans of work, of which an event tells nothing. -/
inductive Scope where
  | everything
  | having (field : List Char)
  | spans
deriving DecidableEq

def Scope.field : Scope → List Char
  | having field => field
  | everything | spans => []

/-- A choice of the events that are told by targets whose names begin in a given way: those of at
least some severity, or none of them. -/
structure Directive where
  target : List Char
  scope : Scope
  least : Option Severity
deriving DecidableEq

namespace Directive

def opens (c : Char) : Bool :=
  c = '[' || c = '-' || c = ':' || c = '_' || Unicode.isAlphanumeric c

/-- The least severity that a word or a number stands for; `off` and zero stand for none. -/
def least? (l : List Char) : Option (Option Severity) :=
  if Text.sameFold (.ofList l) "off" || Severity.number? l = some 0 then some none
  else (Severity.parse? (.ofList l)).map some

variable (l : List Char)

/-- What is read where `r`, an end of the trimmed text, begins. The parts of a directive are found
without the white space around it, but they are read from the text as it stands, as many bytes from
its beginning. -/
def tail (r : List Char) : List Char :=
  Text.dropBytes (Text.byteLength (Text.trim l) - Text.byteLength r) l

def part (r s : List Char) : List Char :=
  Text.takeBytes (Text.byteLength r - Text.byteLength s) (tail l r)

def level : List Char → Except DirectiveError (Option Severity)
  | [] => .ok (some .trace)
  | '=' :: r =>
    match tail l r with
    | [] => .ok (some .trace)
    | word => (least? word).elim (.error .unknownLevel) .ok
  | _ => .error .malformed

/-- The scope of the text between braces: the name of a particular, which may have a value after an
equals sign; a second such sign ends the value. A value is a number or a pattern, and only spans
have values, as only spans have the given name. -/
def field (named : Bool) (l : List Char) : Except DirectiveError Scope :=
  match Text.pieces (· = '=') l with
  | [[]] => .error .malformed
  | [name] => .ok (if named then .spans else .having name)
  | _ :: value :: _ =>
    if Text.isNumber value then .ok .spans
    else match Pattern.check value with
      | .ok () => .ok .spans
      | .error e => .error (.unusableValue e)
  | [] => .error .malformed

def bracket (r : List Char) : Except DirectiveError (Scope × List Char) := do
  let s := r.dropWhile fun c ↦ c ≠ ']' && c ≠ '{'
  match s with
  | ']' :: t => return (.spans, t)
  | '{' :: t =>
    match t.dropWhile (· ≠ '}') with
    | '}' :: u =>
      let scope ← field (r ≠ s) (part l t ('}' :: u))
      match u with
      | ']' :: v => return (scope, v)
      | _ => throw .malformed
    | _ => throw .malformed
  | _ => throw .malformed

/-- A directive from its text. A word alone is a severity if it can be one, and a target if not. -/
def parse : Except DirectiveError Directive :=
  let r := Text.trim l
  let s := r.dropWhile fun c ↦ c ≠ '=' && c ≠ '['
  if !r.head?.any opens then .error .malformed
  else match s with
    | [] => .ok <| match least? l with
      | some least => ⟨[], .everything, least⟩
      | none => ⟨l, .everything, some .trace⟩
    | '[' :: t => do
      let (scope, u) ← bracket l t
      return ⟨part l r s, scope, ← level l u⟩
    | _ => return ⟨part l r s, .everything, ← level l s⟩

def concerns (d : Directive) (e : Event) : Bool :=
  d.target.isPrefixOf e.target.toList &&
    match d.scope with
    | .everything => true
    | .having field => e.fieldNames.contains (.ofList field)
    | .spans => false

def admits (d : Directive) (e : Event) : Bool :=
  d.least.any fun s ↦ e.severity.rank ≤ s.rank

/-- Whether `d` decides in place of `b` on the events that both speak of: its target is longer, or
as long while the name of its particular comes no earlier. -/
def replaces (d b : Directive) : Bool :=
  b.target.length < d.target.length ||
    (b.target.length = d.target.length &&
      !d.scope.field.lex b.scope.field fun x y ↦ x.toNat < y.toNat)

end Directive

end LivingDoc
