import LivingDoc.Severity
import LivingDoc.TagFilter
import LivingDoc.Unicode.Lowercase

namespace LivingDoc

structure RemarkPolicy where
  /-- Whether tags are taken from them. -/
  derives : Bool
  /-- Whether they stay on the page. -/
  retains : Bool
deriving DecidableEq

namespace RemarkPolicy

def ignore : RemarkPolicy := ⟨false, false⟩

variable (p : RemarkPolicy)

def collects : Bool := p.derives || p.retains

end RemarkPolicy

structure Settings where
  /-- Tags that are not shown. -/
  hide : TagFilter
  /-- Tags whose bearers are left out. -/
  exclude : TagFilter
  remarks : RemarkPolicy
  level : Severity
deriving DecidableEq

inductive SettingsError where
  | keepComments (value : String)
  | commentParsing (value : String)
  | logLevel (value : String)
deriving DecidableEq

namespace SettingsError

def value : SettingsError → String
  | keepComments v | commentParsing v | logLevel v => v

def key : SettingsError → String
  | keepComments _ => "FEATUREDOC_KEEP_COMMENTS"
  | commentParsing _ => "FEATUREDOC_COMMENT_PARSING"
  | logLevel _ => "FEATUREDOC_LOG_LEVEL"

def expected : SettingsError → String
  | keepComments _ => "a boolean (true/false, yes/no, on/off, 1/0)"
  | commentParsing _ => "an empty value or RCIS.CIMax"
  | logLevel _ => "one of trace, debug, info, warn, error"

def message (e : SettingsError) : String :=
  "invalid value '" ++ e.value ++ "' for " ++ e.key ++ ", expected " ++ e.expected

end SettingsError

namespace Severity

def read (s : String) : Except SettingsError Severity :=
  match parse? (Text.trimmed s) with
  | some v => .ok v
  | none => .error (.logLevel s)

end Severity

namespace RemarkPolicy

/-- The policy of a pair of settings; a selector that is not blank has to be the known one. -/
def read (retain : Bool) (selector : String) : Except SettingsError RemarkPolicy :=
  let selector := Text.trimmed selector
  if selector = "" then .ok ⟨false, retain⟩
  else if selector = "RCIS.CIMax" then .ok ⟨true, retain⟩
  else .error (.commentParsing selector)

end RemarkPolicy

namespace Settings

def default : Settings := ⟨.empty, .empty, .ignore, .info⟩

def readFlag (s : String) : Except SettingsError Bool :=
  let word := String.ofList ((Text.trim s.toList).flatMap Unicode.lowercase)
  if ["1", "true", "yes", "on"].contains word then .ok true
  else if ["0", "false", "no", "off", ""].contains word then .ok false
  else .error (.keepComments s)

def ofVariables (lookup : String → Option String) : Except SettingsError Settings := do
  let hide := ((lookup "FEATUREDOC_HIDE_TAGS").map TagFilter.parse).getD .empty
  let exclude := ((lookup "FEATUREDOC_EXCLUDE_TAGS").map TagFilter.parse).getD .empty
  let retain ← match lookup "FEATUREDOC_KEEP_COMMENTS" with
    | some s => readFlag s
    | none => pure false
  let remarks ← RemarkPolicy.read retain ((lookup "FEATUREDOC_COMMENT_PARSING").getD "")
  let level ← match lookup "FEATUREDOC_LOG_LEVEL" with
    | some s => Severity.read s
    | none => pure .info
  return { hide, exclude, remarks, level }

end Settings

end LivingDoc
