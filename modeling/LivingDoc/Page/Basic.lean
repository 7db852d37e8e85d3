import LivingDoc.Page.Section

namespace LivingDoc

structure Page where
  id : String
  title : String
  description : String
  tags : List String
  background : Option Section
  sections : List Section
  remarks : List Remark
  language : String
deriving DecidableEq

namespace Page

variable (p : Page)

def find? (title : String) : Option Section := p.sections.find? (·.title = title)

/-- Whether a section says that it belongs to the page. -/
def owns (s : Section) : Bool := s.owner = some p.id

end Page

end LivingDoc
