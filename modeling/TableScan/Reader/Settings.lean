import TableScan.Descriptor
import TableScan.Format.Basic
import TableScan.Params
import TableScan.Reader.Text

/-!
# Reader settings

What the parameters of a table say about reading its splits, worked out once before a scan.
-/

namespace TableScan

structure ReaderSettings where
  text : TextSettings
  /-- The rows of a decoded columnar batch. -/
  batchSize : Nat
  /-- The columns of text splits, which carry no schema of their own. -/
  textSchema : List PhysicalField
  deriving DecidableEq, Repr

namespace ReaderSettings

/-- The declared descriptor's fields, or else the data columns, all of them strings. -/
def textSchemaOf (p : Params) : List PhysicalField :=
  match p.schemaDescriptor with
  | some descriptor => Descriptor.fields descriptor
  | none => p.dataColumns.map fun name => { name, typeName := "string" }

/-- The settings of text; a buffer holds at least one byte. -/
def textOfParams (p : Params) : Except Error TextSettings := do
  let delimiter ← Delimiter.parse p.fieldDelimiter
  return {
    delimiter
    nullMarker := p.options.nullMarker
    trim := p.options.trimFields
    readBufferBytes := max p.options.readBufferBytes 1 }

/-- The settings that parameters give for a format. Only text has a delimiter to refuse. -/
def ofParams (format : Format) (p : Params) : Except Error ReaderSettings := do
  let text ← match format with
    | .text => textOfParams p
    | .columnar _ => .ok {}
  return { text, batchSize := max p.options.batchSize 1, textSchema := textSchemaOf p }

end ReaderSettings

end TableScan
