import LivingDoc.Page.Section

namespace LivingDoc

inductive Site where
  /-- The step with number `step` of the section with number `owner`. -/
  | step (owner step : Nat) (role : Role)
  /-- No section begins above the remark. -/
  | aboveSections
  /-- The section has no step to take the remark. -/
  | withoutStep
deriving DecidableEq

namespace Site

/-- The same site when a section is put before the others. -/
def below : Site → Site
  | step i j r => step (i + 1) j r
  | aboveSections => aboveSections
  | withoutStep => withoutStep

def isStep (i j : Nat) : Site → Bool
  | step i' j' _ => i = i' && j = j'
  | aboveSections | withoutStep => false

def role? : Site → Option Role
  | step _ _ r => some r
  | aboveSections | withoutStep => none

/-- The site of a line within the first section: the first step below the line, or the last step if
the line is below it. -/
def among (steps : List Step) (line : Nat) : Site :=
  match steps.findIdx? (line < ·.position.line) with
  | some j => .step 0 j .beforeStep
  | none =>
    match steps.getLast? with
    | some s =>
      if s.position.line < line then .step 0 (steps.length - 1) .afterLastStep else .withoutStep
    | none => .withoutStep

/-- The site of a line: within the last section that begins above it. -/
def locate : List Section → Nat → Site
  | [], _ => .aboveSections
  | s :: l, line =>
    match locate l line with
    | .aboveSections => if s.position.line < line then among s.steps line else .aboveSections
    | site => site.below

end Site

structure Placed where
  remark : Remark
  site : Site
deriving DecidableEq

namespace Placed

/-- A remark at its site, in the role that it has there; it keeps its role where it is not
attached. -/
def find (sections : List Section) (r : Remark) : Placed :=
  let site := Site.locate sections r.position.line
  ⟨{ r with role := site.role?.getD r.role }, site⟩

def on (placed : List Placed) (i j : Nat) : List Remark :=
  (placed.filter (·.site.isStep i j)).map Placed.remark

def attach (placed : List Placed) (sections : List Section) : List Section :=
  sections.mapIdx fun i s ↦
    { s with steps := s.steps.mapIdx fun j t ↦ { t with remarks := t.remarks ++ on placed i j } }

end Placed

end LivingDoc
