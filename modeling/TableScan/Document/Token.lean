import TableScan.Document.Name

/-!
# Tokens of documents

The marks, names and scalars that a document consists of. The beginning and the end of a collection
whose structure is shown by indentation are tokens too, and so is a key that only the `:` after it
shows.
-/

namespace TableScan.Document

inductive Token where
  | directive (d : Directive)
  | documentStart
  | documentEnd
  /-- The beginning of a sequence or mapping that is shown by indentation, and the end of one. -/
  | indentedSequence
  | indentedMapping
  | indentedEnd
  /-- The mark `-` before an item. -/
  | item
  | sequenceOpen
  | sequenceClose
  | mappingOpen
  | mappingClose
  | separator
  | key
  | value
  | anchor (name : List Char)
  | alias (name : List Char)
  | tag (name : TagName)
  | scalar (isPlain : Bool) (content : List Char)
  deriving DecidableEq, Repr

end TableScan.Document
