import LivingDoc.Text.Basic

namespace LivingDoc.Text

def dropSign : List Char → List Char
  | '+' :: l | '-' :: l => l
  | l => l

def isExponent : List Char → Bool
  | [] => true
  | c :: l => (c = 'e' || c = 'E') && !(dropSign l).isEmpty && (dropSign l).all Char.isDigit

def isDecimal (l : List Char) : Bool :=
  let whole := l.takeWhile Char.isDigit
  match l.dropWhile Char.isDigit with
  | '.' :: r =>
    (!whole.isEmpty || r.head?.any Char.isDigit) && isExponent (r.dropWhile Char.isDigit)
  | r => !whole.isEmpty && isExponent r

/-- Whether a text is a number, infinite ones and the lack of one included. -/
def isNumber (l : List Char) : Bool :=
  isDecimal (dropSign l) ||
    ["inf", "infinity", "nan"].any (sameFold (.ofList (dropSign l)))

end LivingDoc.Text
