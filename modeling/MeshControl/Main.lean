import Std.Time.Format
import MeshControl.Cli.Operator

/-!
The operator's command-line program: reads the arguments and the environment variables the
command line looks at, runs it, and writes its two output streams.
-/

namespace MeshControl.Cli

/-- The environment variables the command line reads. -/
def variableNames : List String :=
  ["HOME", "KUBECONFIG", "KUBERNETES_SERVICE_HOST", "KUBERNETES_SERVICE_PORT", "RUST_LOG"] ++
    operatorProgram.commands.flatMap fun c => c.options.filterMap (·.env)

/-- The wall clock as log lines show it: UTC with microseconds. -/
def wallClock : IO String := do
  let nanos := (← Std.Time.Timestamp.now).toNanosecondsSinceUnixEpoch.val
  let t : Time := ⟨nanos / 1000000000, (nanos % 1000000000).toNat⟩
  return t.renderMicros

end MeshControl.Cli

open MeshControl

/-- Runs the operator's command line in this process. -/
def main (args : List String) : IO UInt32 := do
  let values ← Cli.variableNames.mapM fun n => do return (n, ← IO.getEnv n)
  let lookup : Cli.Environment := fun n => (values.find? (·.1 == n)).bind (·.2)
  let exit := Cli.runOperator lookup (← Cli.wallClock) args
  IO.print exit.stdout
  IO.eprint exit.stderr
  return exit.code.toUInt32
