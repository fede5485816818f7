import ShuffleWatch.CommandLine

/-!
# The program

Reads the files that the command line names, and prints the report. A run that
would follow a chain ends at once, since no network is within reach here.
-/

/-- The contents of a file, if it can be read. -/
def ShuffleWatch.fileContents (file : String) : IO (Option (List UInt8)) := do
  try
    let bytes ← IO.FS.readBinFile file
    return some bytes.toList
  catch _ => return none

open ShuffleWatch in
/-- Prints the report for the arguments. -/
def main (arguments : List String) : IO UInt32 := do
  let files ← (CommandLine.files arguments).mapM fun file => return (file, ← fileContents file)
  let report := CommandLine.report arguments fun file => (files.lookup file).join
  for line in report.output do
    IO.println line
  for line in report.error do
    IO.eprintln line
  return UInt32.ofNat report.code
