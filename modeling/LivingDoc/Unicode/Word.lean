import LivingDoc.Unicode.Alphabetic
import LivingDoc.Unicode.DecimalDigit
import LivingDoc.Unicode.Mark
import LivingDoc.Unicode.Newcomer
import LivingDoc.Unicode.Numeral

namespace LivingDoc.Unicode

def isAlphanumeric (c : Char) : Bool := isAlphabetic c || isNumeral c

def connectors : List (Nat × Nat) :=
  [(0x5F, 0x5F), (0x203F, 0x2040), (0x2054, 0x2054), (0xFE33, 0xFE34), (0xFE4D, 0xFE4F),
   (0xFF3F, 0xFF3F)]

def joiners : List (Nat × Nat) := [(0x200C, 0x200D)]

/-- Whether a character is a letter, a mark, a decimal digit, a connector or a joiner, and no
newcomer. -/
def isWord (c : Char) : Bool :=
  !isNewcomer c && (isAlphabetic c || isMark c || isDecimalDigit c || inRanges connectors c.toNat ||
    inRanges joiners c.toNat)

end LivingDoc.Unicode
