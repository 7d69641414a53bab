import RoomLoad.Program

/-!
# The command line

Takes the settings from the environment and the command line, runs the program,
and prints and writes what comes of it.  Nothing here can reach a network, so every
connect of the run is refused.
-/

namespace RoomLoad.Main

def readEnvironment : IO Config.Environment := do
  let values ← Config.variableNames.mapM fun name => return (name, ← IO.getEnv name)
  return fun name => (values.lookup name).join

/-- Writes the report, if it is to be written, and says so; a path that cannot be
written to is passed over. -/
def writeReport (file : Option (String × RunReport)) : IO Unit := do
  match file with
  | none => return
  | some (path, report) =>
      try
        IO.FS.writeFile path report.document
        IO.println (Program.savedLine path)
      catch _ =>
        return

end RoomLoad.Main

/-- Runs the program on the arguments of the command line. -/
def main (arguments : List String) : IO UInt32 := do
  let environment ← RoomLoad.Main.readEnvironment
  let seed ← IO.rand 0 (RoomLoad.Text.word64 - 1)
  let outcome := RoomLoad.Program.run environment arguments .refusing
    (.scripted [] (UInt64.ofNat seed))
  for line in outcome.errors do
    IO.eprintln line
  for line in outcome.output do
    IO.println line
  RoomLoad.Main.writeReport outcome.file
  return UInt32.ofNat outcome.code
