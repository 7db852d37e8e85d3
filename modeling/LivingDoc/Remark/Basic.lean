import LivingDoc.Position

namespace LivingDoc

inductive Role where
  | unattached
  | beforeStep
  | afterLastStep
deriving DecidableEq

structure Remark where
  text : String
  position : Position
  role : Role
deriving DecidableEq

end LivingDoc
