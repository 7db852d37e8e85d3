import LivingDoc.Unicode.Blank
import LivingDoc.Unicode.Lowercase
import LivingDoc.Unicode.Word

namespace LivingDoc

open Unicode

namespace Slug

def isBreak (c : Char) : Bool := isBlank c || c = '-'

/-- The slug so far, and whether a break has been read since its last word, after one more
character. -/
def push (s : List Char × Bool) (c : Char) : List Char × Bool :=
  if isBreak c then (s.1, true)
  else if isAlphanumeric c then
    ((if s.2 && !s.1.isEmpty then s.1 ++ ['-'] else s.1) ++ lowercase c, false)
  else s

end Slug

def slug (name : String) : String := .ofList (name.toList.foldl Slug.push ([], false)).1

end LivingDoc
