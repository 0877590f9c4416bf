import TableScan.CommandLine.Run

/-!
# The program

Reads the part of the host's files that a command needs, and runs the command on it.
-/

namespace TableScan.Program

open CommandLine

/-- The names of a host path from the root on, without `.` and with `..` resolved. -/
def namesOf (here path : String) : List Host.Name :=
  let bytes := Text.bytesOf path
  let start :=
    if bytes.head? = some Host.slash then [] else Text.pieces Host.slash (Text.bytesOf here)
  (start ++ Text.pieces Host.slash bytes).foldl
    (fun names name =>
      if Host.isHere name then names
      else if Host.isAbove name then names.dropLast
      else names ++ [name])
    []

/-- A link to a name that no file has. -/
def brokenLink : Host.Node := .link [0]

/-- What the host has at a path, through at most `links` directories. -/
def load (links : Nat) (path : String) : IO Host.Node := do
  let here ← IO.currentDir
  let place := here / path
  match links with
  | 0 => return brokenLink
  | links + 1 =>
    if ← place.isDir then
      let mut entries := #[]
      for e in ← place.readDir do
        let name := e.fileName
        entries := entries.push (Text.bytesOf name, ← load links (path ++ "/" ++ name))
      return .directory entries.toList
    else if ← place.pathExists then
      return .file { content := (← IO.FS.readBinFile place).toList }
    else
      return brokenLink

def extend (here : String) (root : Host.Node) (path : String) : IO Host.Node := do
  if ← (← IO.currentDir).join path |>.pathExists then
    return .insertAt (← load Host.pathLimit path) (namesOf here path) root
  else
    return root

def hostAt (here : String) (root : Host.Node) : Host :=
  match Host.walk root 0 { node := root, above := [] } (namesOf here ".") with
  | .ok (_, position) => { root, here := position }
  | .error _ => { root, here := { node := root, above := [] } }

def environment : IO (List (String × String)) :=
  Options.variableNames.filterMapM fun name => do
    return (← IO.getEnv name).map fun value => (name, value)

/-- The part of the host's files that a command needs. -/
def hostFor (vars : List (String × String)) (command : Command) : IO Host := do
  let here := toString (← IO.currentDir)
  let root := Host.Node.insertAt (.directory []) (namesOf here ".") (.directory [])
  let root ← match command with
    | .read { tableFile := some path, .. } => extend here root path
    | _ => pure root
  match (placeOf (hostAt here root) vars command).map Location.hostPath with
  | some (.ok path) => return hostAt here (← extend here root (Text.ofBytesLossy path))
  | _ => return hostAt here root

end TableScan.Program

open TableScan.Program in
def main (words : List String) : IO UInt32 := do
  let vars ← environment
  let host ← match TableScan.CommandLine.parse words with
    | .ok command => hostFor vars command
    | .error _ => pure (hostAt "/" (.directory []))
  let outcome := TableScan.CommandLine.run host vars words
  IO.print outcome.output
  IO.eprint outcome.errors
  return outcome.exitCode.toUInt32
