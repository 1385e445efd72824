/-!
# Registers

Counts, line numbers and the numbers of a command line are held in words of 64 bits, and scores in
half a word.
-/

namespace SuiteAudit

inductive Overflow
  | overflow
deriving DecidableEq, Repr

def maxWord : Nat := 0xFFFFFFFFFFFFFFFF

def maxScore : Nat := 0xFFFFFFFF

end SuiteAudit
