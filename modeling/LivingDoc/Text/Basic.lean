import LivingDoc.Unicode.Blank

namespace LivingDoc.Text

open Unicode

def trimStart (l : List Char) : List Char := l.dropWhile isBlank

def trimEnd (l : List Char) : List Char := (l.reverse.dropWhile isBlank).reverse

def trim (l : List Char) : List Char := trimEnd (trimStart l)

def trimmed (s : String) : String := .ofList (trim s.toList)

/-- The pieces of a text between the characters that satisfy `p`, empty ones included. -/
def pieces (p : Char → Bool) : List Char → List (List Char)
  | [] => [[]]
  | c :: l => if p c then [] :: pieces p l else (pieces p l).modifyHead (c :: ·)

def fold (s : String) : List Char := s.toList.map Char.toLower

def sameFold (s t : String) : Bool := fold s = fold t

end LivingDoc.Text
