import LivingDoc.Text.Basic
import LivingDoc.Unicode.Word

namespace LivingDoc

namespace Citation

open Unicode

def storyAt : List Char → Option (List Char)
  | '(' :: 'B' :: c :: l =>
    let digits := l.takeWhile isDecimalDigit
    if (c = '-' || c = '_') && !digits.isEmpty &&
        (l.dropWhile isDecimalDigit).head? = some ')' then some digits
    else none
  | _ => none

/-- The digits of the first story of a text, written `(B-digits)` or `(B_digits)`. -/
def storyIn : List Char → Option (List Char)
  | [] => none
  | c :: l => storyAt (c :: l) <|> storyIn l

def isThemeChar (c : Char) : Bool := c.isAlphanum || c = '-'

def mayOpenTheme (c : Char) : Bool := c ≠ 'B' && c ≠ '('

/-- What is read as a theme after its marker: the longest run of non-word characters is passed over
that leaves a character which may begin a theme. -/
def themeAfter : List Char → Option (List Char)
  | [] => none
  | c :: l =>
    (if isWord c then none else themeAfter l) <|>
      (if mayOpenTheme c then some (c :: l.takeWhile isThemeChar) else none)

/-- What is read after the first marker `RI:` that has something to read after it. -/
def markedIn : List Char → Option (List Char)
  | [] => none
  | 'R' :: 'I' :: ':' :: l => themeAfter l <|> markedIn ('I' :: ':' :: l)
  | _ :: l => markedIn l

/-- The theme of a text, hyphens turned to underscores; text that is blank or that begins with a
letter B or a bracket once it is trimmed is none. -/
def themeIn (l : List Char) : Option (List Char) :=
  match (markedIn l).map Text.trim with
  | some (c :: r) =>
    if mayOpenTheme c then some ((c :: r).map fun c ↦ if c = '-' then '_' else c) else none
  | _ => none

end Citation

structure Citation where
  theme : Option String
  story : Option String
deriving DecidableEq

namespace Citation

def empty : Citation := ⟨none, none⟩

/-- The first theme and the first story of a text. -/
def ofText (text : String) : Citation where
  theme := (themeIn text.toList).map .ofList
  story := (storyIn text.toList).map .ofList

variable (c : Citation)

def themeTag : Option String := c.theme.map ("@T_" ++ ·)

def storyTag : Option String := c.story.map ("@B_" ++ ·)

/-- The tag that stood for the story before tags had an underscore. -/
def formerStoryTag : Option String := c.story.map ("@B" ++ ·)

end Citation

end LivingDoc
