-- The command. It takes the arguments and the environment, and writes what the
-- run says.
import PathTemplate.Command.Run

def main (arguments : List String) : IO UInt32 := do
  let asked ← IO.getEnv "RUST_LOG"
  let outcome := PathTemplate.Command.run asked arguments
  for line in outcome.log do
    IO.eprintln line
  IO.eprint outcome.errors
  IO.print outcome.output
  return outcome.status.code.toUInt32
