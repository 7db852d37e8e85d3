import LivingDoc.Text.Basic

namespace LivingDoc

structure TagFilter where
  names : List String
deriving DecidableEq

namespace TagFilter

def empty : TagFilter := ⟨[]⟩

/-- The name of a tag: what is written, without white space around it and one leading at sign. -/
def nameOf (tag : String) : String :=
  match Text.trim tag.toList with
  | '@' :: l => .ofList l
  | l => .ofList l

/-- A filter with one more entry; a blank entry and one whose name is there already add nothing. -/
def insert (f : TagFilter) (entry : String) : TagFilter :=
  let name := nameOf entry
  if name.isEmpty || f.names.any (Text.sameFold name) then f else ⟨f.names ++ [name]⟩

def ofList (entries : List String) : TagFilter := entries.foldl insert empty

def parse (list : String) : TagFilter :=
  let entries := (Text.pieces (fun c ↦ c = ';' || c = ',') list.toList).map Text.trim
  ofList ((entries.filter (!·.isEmpty)).map .ofList)

variable (f : TagFilter)

def matchesTag (tag : String) : Bool := f.names.any (Text.sameFold (nameOf tag))

def matchesAny (tags : List String) : Bool := tags.any f.matchesTag

def visible (tags : List String) : List String := tags.filter fun t ↦ !f.matchesTag t

end TagFilter

end LivingDoc
