import Avatar.CommandLine

/-! # The program

    Reads the arguments and the environment, does what the command line
    asks for, and reports how it went by the exit code: 0 for success, 1
    for a failure and 2 for arguments that are not understood.  Opening
    sockets lies outside this library, so serving ends with the log of
    the start. -/

open Avatar Avatar.CommandLine in
/-- Runs the program. -/
def main (args : List String) : IO UInt32 := do
  let secret ← IO.getEnv secretVariable
  match (parse (secret.map Text.ofString) (args.map Text.ofString)).command with
  | none =>
    IO.eprintln "usage: avatar [-v] run|sign [OPTIONS] [ACTOR]"
    return 2
  | some command =>
    match command.output with
    | .error failure =>
      IO.eprintln failure.message.toString
      return 1
    | .ok (lines, logged) =>
      for line in logged do IO.eprintln line.toString
      for line in lines do IO.print (printed line).toString
      return 0
