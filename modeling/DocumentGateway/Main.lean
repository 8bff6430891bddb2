import DocumentGateway.Config.VariableBlock
import DocumentGateway.Gateway.Start

/-!
# The command line

The program takes its settings from the variables it is run with and from the files of
the working directory, starts the gateway and prints what it announces. Settings that
cannot be used are told on the error stream, and the exit code is one.

Only reading, printing and the exit code happen here. Listening at the address is left
to whatever hands requests to the gateway.
-/
namespace DocumentGateway.CommandLine

/-- The text of a file, if it can be read. -/
def readText? (path : String) : IO (Option String) := do
  try
    let text ← IO.FS.readFile path
    return some text
  catch _ => return none

/-- The variables that the program is run with. -/
def readVariables : IO Config.Variables := do
  try
    let block ← IO.FS.readBinFile "/proc/self/environ"
    return .ofBlock block.toList
  catch _ => return []

/-- The files that settings may come from, by their names. -/
def readFiles : IO (List (String × String)) := do
  let names := GatewaySettings.environmentFileName :: GatewaySettings.fileNames.map Prod.fst
  let files ← names.mapM fun name => return (← readText? name).map fun text => (name, text)
  return files.filterMap id

/-- Identifiers of 32 hexadecimal digits, counted from zero. -/
def ids : IdSupply where
  given := 0
  id n := String.ofList ((List.replicate 32 '0' ++ Nat.toDigits 16 n).reverse.take 32).reverse

end DocumentGateway.CommandLine

open DocumentGateway DocumentGateway.CommandLine in
/-- Starts the gateway and prints what it announces. -/
def main : IO UInt32 := do
  let environment ← readVariables
  let files ← readFiles
  match Gateway.start environment (Keyed.get? · files) (fun _ => some .empty) ids with
  | .ok (gateway, address) =>
    for line in gateway.announcement address do
      IO.println line
    return 0
  | .error error =>
    IO.eprintln ("Error: " ++ error.message)
    return 1
