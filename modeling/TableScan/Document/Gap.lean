import TableScan.Document.Source

/-!
# Gaps between words

What a scalar has between two of its words: blanks, which are kept, or line ends with blanks around
them. A single line end counts as a blank, and of several the first does not count.
-/

namespace TableScan.Document

inductive Gap where
  | blanks (s : List Char)
  /-- Line ends; the first one is absent if it was escaped. -/
  | breaks (first : Option Char) (more : List Char)
  deriving DecidableEq, Repr

namespace Gap

def empty : Gap := .blanks []

def isEmpty (g : Gap) : Bool := g = empty

def isBroken : Gap → Bool
  | blanks _ => false
  | breaks _ _ => true

/-- The gap with one more blank or line end. Blanks beside line ends do not count. -/
def add (g : Gap) (c : Char) : Gap :=
  match g with
  | blanks s => if isBreak c then breaks (some c) [] else blanks (s ++ [c])
  | breaks first more => if isBreak c then breaks first (more ++ [c]) else breaks first more

def text : Gap → List Char
  | blanks s => s
  | breaks none more => more
  | breaks (some first) more =>
    if first = '\n' then (if more = [] then [' '] else more) else first :: more

end Gap

example : (" \n  \n ".toList.foldl Gap.add .empty).text = ['\n'] := by decide

end TableScan.Document
