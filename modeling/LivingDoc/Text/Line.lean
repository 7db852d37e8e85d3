namespace LivingDoc.Text

/-- The lines of a text without their line feeds and one carriage return before each; a line feed
at the very end opens no further line. -/
def lines : List Char → List (List Char)
  | [] => []
  | '\n' :: l => [] :: lines l
  | '\r' :: '\n' :: l => [] :: lines l
  | c :: l =>
    match lines l with
    | [] => [[c]]
    | k :: r => (c :: k) :: r

def endLine (l : List Char) : List Char := if l.getLast? = some '\n' then l else l ++ ['\n']

end LivingDoc.Text
