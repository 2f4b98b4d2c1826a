import BareMetal.CommandLine.Help
import BareMetal.Logging.Startup
import BareMetal.Manifest.Yaml

/-!
The program: reads its command line and its environment, and does what it is asked to.

No way to a cluster is built in, so a run ends as one does that finds none.
-/

open BareMetal

/-- The variables of the environment that are looked at. -/
def variableNames : List String :=
  Flag.all.map Flag.variableName ++ ["RUST_LOG", "HOME"]

/-- The environment, as far as it is looked at. -/
def readEnvironment : IO Environment := do
  let values ← variableNames.mapM (fun name => return (name, ← IO.getEnv name))
  return fun name => (values.find? (fun v => v.1 = name)).bind (fun v => v.2)

/-- Logs the start of the operator, which finds no cluster. -/
def startOperator (env : Environment) (s : Settings) : IO UInt32 := do
  let filter := LogFilter.read ((env "RUST_LOG").getD "")
  for n in Startup.log ((env "HOME").getD "") filter s do
    IO.println (match s.logFormat with
      | .text => n.line
      | .json => n.toJson.text)
  IO.eprintln "Error: no cluster is configured"
  return 1

def main (arguments : List String) : IO UInt32 := do
  let env ← readEnvironment
  match Invocation.read env arguments with
  | .ok .crds =>
    IO.print Definition.manifests
    return 0
  | .ok (.run s) => startOperator env s
  | .error stop =>
    let ending := stop.ending env
    IO.print ending.output
    IO.eprint ending.complaint
    return UInt32.ofNat ending.exit
