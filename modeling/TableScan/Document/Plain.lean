import TableScan.Document.Gap

/-!
# Plain scalars

A scalar without quotes goes on to a `:` that a blank follows, to a comment, to a mark of the
collection in brackets around it, or to a line that is not indented enough.
-/

namespace TableScan.Document

/-- The characters that separate and enclose the parts of collections in brackets and braces. -/
def isFlowMark (c : Char) : Bool := c = ',' || c = '[' || c = ']' || c = '\x7b' || c = '\x7d'

def isReserved (c : Char) : Bool :=
  isFlowMark c || c = '#' || c = '&' || c = '*' || c = '!' || c = '|' || c = '>' || c = '\'' ||
    c = '"' || c = '%' || c = '@' || c.toNat = 0x60

/-- Whether a text can begin a plain scalar: no reserved character, and no `-`, `?` or `:` that
stands alone. Within brackets a `?` or `:` never begins one. -/
def beginsPlain (inFlow : Bool) : List Char → Bool
  | [] => false
  | c :: rest =>
    if c = '-' then !endsWord rest
    else if c = '?' || c = ':' then !inFlow && !endsWord rest
    else !isReserved c && !isBlank c && !isBreak c

structure PlainText where
  content : List Char
  /-- A line ended behind the last word. -/
  endsLine : Bool
  after : Source

/-- The plain scalar, given its text from some character on. Its lines are indented by `indent` at
least, within brackets by any number. `gap` is what was passed since the last word. -/
def plain? (inFlow : Bool) (indent : Nat) (gap : Gap) (p : Place) :
    List Char → Option PlainText
  | [] => some { content := [], endsLine := gap.isBroken, after := ⟨[], p⟩ }
  | c :: rest =>
    if isBlank c || isBreak c then
      if gap.isBroken && c = '\t' && p.column < indent then none
      else plain? inFlow indent (gap.add c) (p.after c) rest
    else if !gap.isEmpty && (c = '#' || (p.column = 0 && beginsRule (c :: rest)) ||
        (!inFlow && p.column < indent)) ||
        (c = ':' && endsWord rest) || (inFlow && isFlowMark c) then
      some { content := [], endsLine := gap.isBroken, after := ⟨c :: rest, p⟩ }
    else if inFlow && c = ':' && rest.head?.elim false (fun d => isFlowMark d || d = '?') then none
    else do
      let more ← plain? inFlow indent .empty (p.after c) rest
      return { more with content := gap.text ++ c :: more.content }

end TableScan.Document
