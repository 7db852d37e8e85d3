import LivingDoc.Unicode.Unprinted

namespace LivingDoc.Text.Quoted

def number (c : Char) : String :=
  "\\u\x7b" ++ String.ofList (Nat.toDigits 16 c.toNat) ++ "\x7d"

def escape (c : Char) : String :=
  match c with
  | '\x00' => "\\0"
  | '\t' => "\\t"
  | '\n' => "\\n"
  | '\r' => "\\r"
  | '"' => "\\\""
  | '\\' => "\\\\"
  | c => if Unicode.isUnprinted c then number c else c.toString

def quote (s : String) : String := "\"" ++ String.join (s.toList.map escape) ++ "\""

end LivingDoc.Text.Quoted
