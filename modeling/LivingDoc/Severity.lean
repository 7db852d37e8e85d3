import LivingDoc.Text.Basic

namespace LivingDoc

inductive Severity where
  | trace
  | debug
  | info
  | warn
  | error
deriving DecidableEq

namespace Severity

def rank : Severity → Nat
  | trace => 5
  | debug => 4
  | info => 3
  | warn => 2
  | error => 1

def all : List Severity := [trace, debug, info, warn, error]

def name : Severity → String
  | trace => "Trace"
  | debug => "Debug"
  | info => "Info"
  | warn => "Warn"
  | error => "Error"

def number? (l : List Char) : Option Nat :=
  let digits := match l with
    | '+' :: r => r
    | r => r
  if !digits.isEmpty && digits.all Char.isDigit then
    some (digits.foldl (fun n c ↦ 10 * n + (c.toNat - '0'.toNat)) 0)
  else none

def parse? (s : String) : Option Severity :=
  match number? s.toList with
  | some n => all.find? (·.rank = n)
  | none => all.find? fun v ↦ Text.sameFold v.name s

end Severity

end LivingDoc
