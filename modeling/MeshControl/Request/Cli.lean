import MeshControl.Request.Basic
import MeshControl.Cli.Operator

/-!
The request that runs one of the two command-line programs with given arguments and
environment variables.
-/

namespace MeshControl.Request

/-- `cli`: runs `mesh-operator` or `crdgen`; the answer is the exit status and both output
streams. -/
def cliRequest (env : Env) (req : Json) : Handled := do
  let args ← stringsOr req "args"
  let given ← match field? req "env" with
    | some (.obj fields) => fields.mapM fun (k, v) => match v with
      | .str s => pure (k, s)
      | _ => throw .badInput
    | none => pure []
    | some _ => throw .badInput
  -- Variables given with the request take the place of those the command line starts with.
  let known := given ++ env.baseVariables
  let lookup : Cli.Environment := fun name => (known.find? (·.1 == name)).map (·.2)
  let exit ← match ← needString req "bin" with
    | "mesh-operator" => pure (Cli.runOperator lookup env.logStamp args)
    | "crdgen" => pure (Cli.runCrdgen args)
    | _ => throw .badInput
  return .mkObj [("code", Json.int exit.code), ("stdout", .str exit.stdout), ("stderr", .str exit.stderr)]

end MeshControl.Request
