import LivingDoc.Citation
import LivingDoc.Remark.Basic
import LivingDoc.TagFilter

namespace LivingDoc

inductive Reference where
  | theme
  | story
deriving DecidableEq

structure Finding where
  reference : Reference
  tag : String
  hidden : Bool
deriving DecidableEq

structure Tagging where
  tags : List String
  findings : List Finding
deriving DecidableEq

namespace Tagging

def start (tags : List String) : Tagging := ⟨tags, []⟩

variable (hide : TagFilter) (t : Tagging)

/-- The tags that were given but are hidden, in the order in which they were given. -/
def hidden : List String := (t.findings.filter (·.hidden)).map Finding.tag

/-- A tag is kept off the section if it is hidden, and else added unless it is there. -/
def give (r : Reference) (tag : String) : Tagging :=
  if hide.matchesTag tag then { t with findings := t.findings ++ [⟨r, tag, true⟩] }
  else if t.tags.contains tag then t
  else ⟨t.tags ++ [tag], t.findings ++ [⟨r, tag, false⟩]⟩

/-- The theme is given first; the story only if its former tag is not there. -/
def cite (c : Citation) : Tagging :=
  let t := (c.themeTag.map (t.give hide .theme)).getD t
  if c.formerStoryTag.any t.tags.contains then t
  else (c.storyTag.map (t.give hide .story)).getD t

def read (remarks : List Remark) : Tagging :=
  remarks.foldl (fun t r ↦ t.cite hide (.ofText r.text)) t

end Tagging

end LivingDoc
