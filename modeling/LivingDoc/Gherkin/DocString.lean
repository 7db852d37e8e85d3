import LivingDoc.Text.Basic
import LivingDoc.Text.Line

namespace LivingDoc.Gherkin.DocString

open Text

def quotes : List Char := ['"', '"', '"']

def ticks : List Char := ['\x60', '\x60', '\x60']

def common : List Char → List Char → List Char
  | c :: l, d :: r => if c = d then c :: common l r else []
  | l, [] => l
  | [], _ => []

/-- The white space before the first line that is not blank, as far as the lines after it begin with
it too. -/
def margin (lines : List (List Char)) : List Char :=
  match lines.dropWhile (·.all Unicode.isBlank) with
  | [] => []
  | l :: r => r.foldl common (l.takeWhile Unicode.isBlank)

def flush (margin line : List Char) : List Char :=
  if margin.isPrefixOf line && !line.all Unicode.isBlank then line.drop margin.length else []

/-- A text moved to the left margin, which is what one parser makes of a doc string. -/
def dedent (l : List Char) : List Char :=
  let lines := lines l
  let flushed := ['\n'].intercalate (lines.map (flush (margin lines)))
  if l.getLast? = some '\n' then flushed ++ ['\n'] else flushed

end LivingDoc.Gherkin.DocString
