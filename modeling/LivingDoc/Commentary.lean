import LivingDoc.Remark.Placement
import LivingDoc.Tagging

namespace LivingDoc

namespace Section

variable (s : Section)

def trailing : List Remark :=
  (s.steps.getLast?.map fun t ↦ t.remarks.filter (·.role = .afterLastStep)).getD []

def inner : List Remark := s.steps.flatMap fun t ↦ t.remarks.filter (·.role ≠ .afterLastStep)

end Section

structure Commentary where
  sections : List Section
  remarks : List Remark
deriving DecidableEq

namespace Commentary

variable (c : Commentary)

def placed : List Placed := c.remarks.map (Placed.find c.sections)

/-- The commentary with each remark in its role, and on the step that it belongs to. -/
def attached : Commentary :=
  ⟨Placed.attach c.placed c.sections, c.placed.map Placed.remark⟩

/-- The unattached remarks above the first section. -/
def opening : List Remark :=
  match c.sections with
  | [] => []
  | s :: _ => c.remarks.takeWhile fun r ↦ r.role = .unattached && r.position.line < s.position.line

/-- The remarks that give tags to each section: those above the first section or below the last
step of the section before, and then those among its own steps. -/
def sources : List (List Remark) :=
  List.zipWith (fun before s ↦ before ++ s.inner) (c.opening :: c.sections.map Section.trailing)
    c.sections

def taggings (hide : TagFilter) : List Tagging :=
  List.zipWith (fun s l ↦ (Tagging.start s.tags).read hide l) c.sections c.sources

def tagged (hide : TagFilter) : Commentary :=
  { c with
    sections := List.zipWith (fun s t ↦ { s with tags := t.tags }) c.sections (c.taggings hide) }

end Commentary

end LivingDoc
