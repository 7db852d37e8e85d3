import LivingDoc.Position

namespace LivingDoc.Gherkin

/-- What is left of a text, and the place where it begins; columns count the bytes of a line. -/
structure Cursor where
  rest : List Char
  position : Position
deriving DecidableEq

namespace Cursor

def start (l : List Char) : Cursor := ⟨l, ⟨1, 1⟩⟩

def after (p : Position) (c : Char) : Position :=
  if c = '\n' then ⟨p.line + 1, 1⟩ else ⟨p.line, p.column + c.utf8Size⟩

end Cursor

/-- What comes of reading; a fatal reply also ends every reader that tried the one which gave it. -/
inductive Reply (α : Type) where
  | done (value : α) (next : Cursor)
  | failed
  | fatal

def Reader (α : Type) := Cursor → Reply α

namespace Reader

variable {α β : Type}

instance : Monad Reader where
  pure a c := .done a c
  bind r f c :=
    match r c with
    | .done a c' => f a c'
    | .failed => .failed
    | .fatal => .fatal

def orElse (r : Reader α) (s : Unit → Reader α) : Reader α := fun c ↦
  match r c with
  | .failed => s () c
  | reply => reply

instance : OrElse (Reader α) := ⟨orElse⟩

def abort : Reader α := fun _ ↦ .fatal

def position : Reader Position := fun c ↦ .done c.position c

def atEnd : Reader Unit := fun c ↦ if c.rest.isEmpty then .done () c else .failed

def char (p : Char → Bool) : Reader Char
  | ⟨c :: l, p₀⟩ => if p c then .done c ⟨l, Cursor.after p₀ c⟩ else .failed
  | ⟨[], _⟩ => .failed

def any : Reader Char := char fun _ ↦ true

def word (w : List Char) : Reader Unit := w.forM fun c ↦ do let _ ← char (· = c)

def oneOf (words : List String) : Reader String := fun c ↦
  match words.find? fun w ↦ w.toList.isPrefixOf c.rest with
  | some w => (do word w.toList; return w : Reader String) c
  | none => .failed

def optional (r : Reader α) : Reader (Option α) := fun c ↦
  match r c with
  | .done a c' => .done (some a) c'
  | .failed => .done none c
  | .fatal => .fatal

def absent (r : Reader α) : Reader Unit := fun c ↦
  match r c with
  | .done _ _ => .failed
  | .failed => .done () c
  | .fatal => .fatal

def manyWithin (r : Reader α) : List Char → Reader (List α)
  | [], c => .done [] c
  | _ :: l, c =>
    match r c with
    | .done a c' =>
      match manyWithin r l c' with
      | .done as c'' => .done (a :: as) c''
      | .failed => .failed
      | .fatal => .fatal
    | .failed => .done [] c
    | .fatal => .fatal

def many (r : Reader α) : Reader (List α) := fun c ↦ manyWithin r c.rest c

def several (r : Reader α) : Reader (List α) := do
  let a ← r
  let as ← many r
  return a :: as

def severalWith (sep : Reader β) (r : Reader α) : Reader (List α) := do
  let a ← r
  let as ← many (do let _ ← sep; r)
  return a :: as

def manyWith (sep : Reader β) (r : Reader α) : Reader (List α) := severalWith sep r <|> pure []

def taken (r : Reader α) : Reader (List Char) := fun c ↦
  match r c with
  | .done _ c' => .done (c.rest.take (c.rest.length - c'.rest.length)) c'
  | .failed => .failed
  | .fatal => .fatal

end Reader

end LivingDoc.Gherkin
