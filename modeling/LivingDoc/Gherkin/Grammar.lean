import LivingDoc.Gherkin.Dialect
import LivingDoc.Gherkin.DocString
import LivingDoc.Gherkin.Raw
import LivingDoc.Gherkin.Reader

namespace LivingDoc.Gherkin.Grammar

open Reader

def blank : Reader Unit := do let _ ← char fun c ↦ c = ' ' || c = '\t'

def blanks : Reader Unit := do let _ ← many blank

def lineEnd : Reader Unit := do
  let _ ← optional (char (· = '\r'))
  let _ ← char (· = '\n')

def inLine : Reader Char := do absent lineEnd; any

def lineRest : Reader (List Char) := several inLine

def commentBody : Reader Unit := do
  blanks
  let _ ← char (· = '#')
  let _ ← many inLine

def newline : Reader Unit := do
  let _ ← optional commentBody
  lineEnd

def newlines : Reader Unit := do let _ ← many newline

def gap : Reader Unit := do let _ ← many (blank <|> newline)

def close : Reader Unit := (do let _ ← several (newline <|> blank)) <|> atEnd

def comment : Reader Unit := do commentBody; close

def comments : Reader Unit := do let _ ← many comment

def keyword (words : List String) : Reader String := do comments; oneOf words

def head (words : List String) : Reader (Option String) := do
  let _ ← keyword words
  word [':']
  blanks
  let name ← optional lineRest
  blanks
  close
  return name.map fun l ↦ .ofList (Text.trimEnd l)

def tag : Reader String := do
  word ['@']
  let name ← several (char fun c ↦ !Unicode.isBlank c && c ≠ '@')
  return .ofList ('@' :: name)

def tags : Reader (List String) := do
  let tags ← manyWith gap tag
  blanks
  newlines
  return tags

def freeLine (ends : List String) : Reader (List Char) := do
  blanks
  absent (char (· = '@'))
  absent (keyword ends)
  blanks
  let line ← lineRest
  close
  return line

def freeText (ends : List String) : Reader (Option String) := do
  let lines ← manyWith blanks (freeLine ends)
  gap
  let text := ['\n'].intercalate lines
  return if text.all Unicode.isBlank then none else some (.ofList text)

/-- A doc string within a given fence; a comment in it is taken whole, even if it has a fence. -/
def fenced (fence : List Char) : Reader String := do
  word fence
  let body ← taken (many (do absent (word fence); newline <|> (do let _ ← any)))
  word fence
  close
  return .ofList (DocString.dedent body)

def docString : Reader String := fenced DocString.quotes <|> fenced DocString.ticks

def cell : Reader String := do
  word ['|']
  blanks
  absent (lineEnd <|> atEnd)
  let text ← many (do absent (word ['|']); inLine)
  return .ofList (Text.trim text)

def row : Reader Row := do
  let cells ← manyWith blanks cell
  blanks
  word ['|']
  blanks
  close
  return cells

/-- Rows as long as the first one: what is too much is cut off, and too little ends the reading. -/
def table : Reader (List Row) := do
  blanks
  let rows ← severalWith blanks row
  let width := (rows.headD []).length
  if rows.all fun r ↦ width ≤ r.length then return rows.map (·.take width) else abort

variable (d : Dialect)

def stepWith (words : List String) : Reader Raw.Step := do
  let position ← Reader.position
  let keyword ← keyword words
  blanks
  let text ← lineRest
  blanks
  close
  blanks
  let docString ← optional docString
  let table ← optional table
  return ⟨keyword, .ofList (Text.trimEnd text), docString, table, position⟩

def opening : Reader Raw.Step :=
  (do comments; stepWith d.steps.context) <|> stepWith d.steps.action <|> stepWith d.steps.outcome

def step : Reader Raw.Step :=
  opening d <|> stepWith d.steps.conjunction <|> stepWith d.steps.contrast

def steps : Reader (List Raw.Step) :=
  (do
    let first ← opening d
    let others ← many (do blanks; step d)
    return first :: others) <|> pure []

/-- The words that end the free text of a scenario or a background. -/
def scenarioEnds : List String := d.scenario ++ d.outline ++ d.steps.all

def background : Reader Raw.Background := do
  comments
  blanks
  let position ← Reader.position
  let name ← head d.background
  let description ← freeText (scenarioEnds d)
  let steps ← steps d
  return { name, description, steps, position }

def examples : Reader Raw.Examples := do
  comments
  blanks
  let tags ← tags
  blanks
  let position ← Reader.position
  let name ← head d.examples
  let description ← freeText (scenarioEnds d ++ ["|"])
  let table ← optional table
  return { name, description, tags, table, position }

def scenarioWith (words : List String) : Reader Raw.Scenario := do
  comments
  blanks
  let tags ← tags
  blanks
  let position ← Reader.position
  let name ← head words
  let description ← freeText (scenarioEnds d)
  let steps ← steps d
  let examples ← many (examples d)
  return { name := name.getD "", description, tags, steps, examples, position }

def scenario : Reader Raw.Scenario := scenarioWith d d.scenario <|> scenarioWith d d.outline

def scenarios : Reader (List Raw.Scenario) := do
  newlines
  blanks
  let scenarios ← manyWith blanks (scenario d)
  newlines
  return scenarios

def rule : Reader Raw.Rule := do
  blanks
  let _ ← tags
  blanks
  let position ← Reader.position
  let name ← head d.rule
  let _ ← freeText (d.background ++ d.scenario ++ d.outline)
  let _ ← optional (background d)
  let _ ← scenarios d
  return { name, position }

/-- A line that names the dialect of the lines after it; one that is not known ends the reading. -/
def directive : Reader Dialect := do
  let _ ← many (blank <|> lineEnd)
  word ['#']
  blanks
  word ['l', 'a', 'n', 'g', 'u', 'a', 'g', 'e']
  blanks
  word [':']
  blanks
  let code ← lineRest
  blanks
  newline
  match Dialect.find? (.ofList code) with
  | some d => return d
  | none => abort

def feature : Reader Raw.Feature := do
  blanks
  let d := (← optional directive).getD d
  newlines
  let tags ← tags
  let position ← Reader.position
  let name ← head d.feature
  let description ← freeText (d.background ++ d.rule ++ d.scenario ++ d.outline)
  let background ← optional (background d)
  let scenarios ← scenarios d
  blanks
  let rules ← manyWith blanks (rule d)
  newlines
  atEnd
  return { name := name.getD "", description, tags, background, scenarios, rules, position }

def parse? (l : List Char) : Option Raw.Feature :=
  match feature d (.start l) with
  | .done f _ => some f
  | .failed | .fatal => none

/-- One parser, with which the program can be run. A text without a language is read as English. -/
def parser : Parser where
  knows code := (Dialect.find? code).isSome
  parse? code l := (code.elim (some .english) Dialect.find?).bind (parse? · l)

end LivingDoc.Gherkin.Grammar
