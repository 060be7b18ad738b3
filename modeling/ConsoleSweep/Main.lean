-- The command line. This outer layer gathers what a run needs, hands it to the pure run, and
-- carries out what the run leaves: it prints the two streams, writes back the files whose bytes
-- changed, and exits with the run's status. The tree it gives the run holds the files that the
-- paths on the command line and the settings file name, as the system reads them; it lists no
-- directory. Standard input is read only when the run puts a question, and then to its end.
import ConsoleSweep.Cli.Run
namespace ConsoleSweep.Cli

/-- Reads a stream to its end. -/
partial def readToEnd (s : IO.FS.Stream) (acc : String) : IO String := do
  let line ← s.getLine
  if line.isEmpty then return acc else readToEnd s (acc ++ line)

/-- Puts the file at a path into the tree, if the system can read it there. Only paths inside
the working directory are taken. -/
def loadFile (t : Tree) (path : String) : IO Tree := do
  let p := Text.utf8Bytes path
  let outside := p.head? == some Path.slash || (Path.pieces p).contains [Path.dot, Path.dot]
  if path.isEmpty || outside then return t
  try
    let bs ← IO.FS.readBinFile path
    return t.putFile p bs.toList
  catch _ => return t

/-- Writes back each file whose bytes the run changed. -/
def writeBack (before after : Tree) : IO Unit := do
  let old := before.listing 0
  for (p, e) in after.listing 0 do
    match e with
    | .file bs =>
      let same := old.any fun (q, f) => q == p && match f with
        | .file cs => cs == bs
        | _ => false
      if !same then IO.FS.writeBinFile (Path.display p) (ByteArray.mk bs.toArray)
    | _ => pure ()

end ConsoleSweep.Cli

/-- Runs the command on the files in the working directory. -/
def main (args : List String) : IO UInt32 := do
  let env := (← ["HOME", "XDG_CONFIG_HOME"].filterMapM fun k => do
    return (← IO.getEnv k).map fun v => (k, v))
  let cmd := (ConsoleSweep.Cli.parseCommand args).toOption
  let named := (cmd.map fun c => c.paths ++ c.config.toList).getD []
  let settingsFile := (ConsoleSweep.Cli.configPath env).toList
  let tree ← (named ++ settingsFile).foldlM ConsoleSweep.Cli.loadFile (ConsoleSweep.Tree.dir [])
  let inv : ConsoleSweep.Cli.Invocation := { args, env, tree }
  let first := ConsoleSweep.Cli.run inv
  let f ← if first.questions == 0 then pure first
    else do
      let input ← ConsoleSweep.Cli.readToEnd (← IO.getStdin) ""
      pure (ConsoleSweep.Cli.run { inv with stdin := input })
  IO.print f.stdout
  IO.eprint f.stderr
  ConsoleSweep.Cli.writeBack tree f.tree
  return f.exit.toUInt32
