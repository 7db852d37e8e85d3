namespace LivingDoc.Text

def byteLength : List Char → Nat
  | [] => 0
  | c :: l => c.utf8Size + byteLength l

/-- A text without its first `n` bytes; a character that is cut goes as a whole. -/
def dropBytes (n : Nat) : List Char → List Char
  | [] => []
  | c :: l => if n = 0 then c :: l else dropBytes (n - c.utf8Size) l

def takeBytes (n : Nat) : List Char → List Char
  | [] => []
  | c :: l => if n = 0 then [] else c :: takeBytes (n - c.utf8Size) l

end LivingDoc.Text
