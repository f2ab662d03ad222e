import Avatar.Cache.Location
import Avatar.Daemon
import Avatar.Locator
import Avatar.Signer
import Avatar.Text.ControlSequence
import Avatar.Text.Integer
import Avatar.Text.Parts

/-! # The command line

    There are two commands: one serves avatars, the other prints the
    signed path of an actor.  Options before the command are for the
    program, options after it for the command and may stand between its
    arguments; two hyphens end the options.  The last of several equal
    options counts.  The secret comes from an option or, if it is not
    empty, from the environment. -/

namespace Avatar.CommandLine

/-- The variable that may hold the secret. -/
def secretVariable : String := "AVATAR_SHARED_SECRET"

/-- How the service is to be run. -/
structure ServeOptions where
  secret : Text
  socket : Option Text
  host : Text
  port : Int
  cachePath : Text
  frontEnd : Option Text
deriving DecidableEq

/-- What the program is asked to do. -/
inductive Command
  | serve (options : ServeOptions)
  | sign (secret actor : Text)
deriving DecidableEq

/-- How the arguments are understood, and which lines are logged then.
    Without a command that is known nothing is set, and only warnings
    are. -/
structure Invocation where
  logLevel : LogLevel
  command : Option Command
deriving DecidableEq

/-- The options of a command and its other arguments. -/
structure Arguments where
  options : List (Text × Text)
  positional : List Text

/-- An option: a hyphen and more. -/
def isOption (arg : Text) : Bool := Text.startsWith "-" arg && 1 < arg.length

/-- Sorts the arguments of a command into options, each with its value,
    and others; `none` if an option is unknown or lacks its value. -/
def Arguments.collect (names : List Text) : List Text → Option Arguments
  | [] => some ⟨[], []⟩
  | arg :: rest =>
    if arg = "--" then some ⟨[], rest⟩
    else if isOption arg then
      match arg.cut '=', rest with
      | (name, some value), rest =>
        if names.contains name then
          (collect names rest).map fun a => { a with options := (name, value) :: a.options }
        else none
      | (name, none), value :: rest' =>
        if names.contains name then
          (collect names rest').map fun a => { a with options := (name, value) :: a.options }
        else none
      | (_, none), [] => none
    else (collect names rest).map fun a => { a with positional := arg :: a.positional }

/-- The value of an option, the last one if there are several. -/
def Arguments.value? (name : Text) (arguments : Arguments) : Option Text :=
  ((arguments.options.filter (·.1 = name)).getLast?).map (·.2)

/-- The secret, which may come from the environment. -/
def Arguments.secret? (environment : Option Text) (arguments : Arguments) : Option Text :=
  (arguments.value? "--secret").or (environment.filter (!·.isEmpty))

/-- The port that a service listens on unless another one is set. -/
def standardPort : Int := 8123

/-- The host that a service listens on unless another one is set. -/
def standardHost : Text := "127.0.0.1"

/-- The file that holds the cache unless another one is set. -/
def standardCachePath : Text := "./data/avatar_cache.sqlite3"

/-- The port that is asked for, if it is an integer. -/
def Arguments.port? (arguments : Arguments) : Option Int :=
  match arguments.value? "--port" with
  | none => some standardPort
  | some value => value.integer?

/-- The options of the command that serves avatars. -/
def serveOptionNames : List Text :=
  ["--secret", "--sock", "--host", "--port", "--cache-path", "--resize-pfx"]

/-- The command that serves avatars. -/
def serve? (environment : Option Text) (args : List Text) : Option Command := do
  let arguments ← Arguments.collect serveOptionNames args
  let secret ← arguments.secret? environment
  let port ← arguments.port?
  if arguments.positional.isEmpty then
    return .serve {
      secret, port
      socket := arguments.value? "--sock"
      host := (arguments.value? "--host").getD standardHost
      cachePath := (arguments.value? "--cache-path").getD standardCachePath
      frontEnd := arguments.value? "--resize-pfx" }
  else none

/-- The command that prints the signed path of an actor. -/
def sign? (environment : Option Text) (args : List Text) : Option Command := do
  let arguments ← Arguments.collect ["--secret"] args
  let secret ← arguments.secret? environment
  match arguments.positional with
  | [actor] => return .sign secret actor
  | _ => none

/-- Whether an argument asks for more lines in the log, and for nothing
    else. -/
def isVerbose (arg : Text) : Bool :=
  arg = "--verbose" || (isOption arg && arg.tail.all (· = CodePoint.ofChar 'v'))

/-- The command that a name stands for, under its arguments. -/
def named? (environment : Option Text) (name : Text) : Option (List Text → Option Command) :=
  if name = "run" then some (serve? environment)
  else if name = "sign" then some (sign? environment)
  else none

/-- How a command and its arguments are understood. -/
def ofCommand (environment : Option Text) (verbose : Bool) : List Text → Invocation
  | [] => ⟨.warning, none⟩
  | name :: args =>
    match named? environment name with
    | none => ⟨.warning, none⟩
    | some command => ⟨if verbose then .debug else .info, command args⟩

/-- How the arguments are understood, after those that asked for more
    lines in the log. -/
def ofArguments (environment : Option Text) (verbose : Bool) : List Text → Invocation
  | [] => ⟨.warning, none⟩
  | arg :: rest =>
    if arg = "--" then ofCommand environment verbose rest
    else if isVerbose arg then ofArguments environment true rest
    else if isOption arg then ⟨.warning, none⟩
    else ofCommand environment verbose (arg :: rest)

/-- How the arguments of the program are understood. -/
def parse (environment : Option Text) (args : List Text) : Invocation :=
  ofArguments environment false args

/-- Refuses options under which nothing can be served: an empty secret
    first, then a cache that cannot be opened. -/
def ServeOptions.check (options : ServeOptions) : Except Failure Unit := do
  let _ ← Signer.ofSecret options.secret
  Cache.checkLocation options.cachePath

/-- The path of an actor under its signature. -/
def signedPath (secret actor : Text) : Except Failure Text := do
  let signer ← Signer.ofSecret secret
  return "/" ++ (← signer.sign actor) ++ "/" ++ actor

/-- The lines of the log among some actions. -/
def logLines (actions : List Daemon.Action) : List Text :=
  actions.filterMap fun
    | .log _ message => some message
    | _ => none

/-- What a service does until it answers requests; no group is known for
    its socket. -/
def ServeOptions.actions (options : ServeOptions) : List Daemon.Action :=
  let endpoint :=
    match options.socket with
    | none => Endpoint.tcp options.host options.port
    | some path => Endpoint.socket path
  Daemon.startUp endpoint .missing options.frontEnd Locator.standardBluesky

/-- The lines that a command prints and the lines that it logs. -/
def Command.output : Command → Except Failure (List Text × List Text)
  | .sign secret actor => do return ([← signedPath secret actor], [])
  | .serve options => do
    options.check
    return ([], logLines options.actions)

/-- What is printed for a line, unless it is printed to a terminal. -/
def printed (line : Text) : Text := (line ++ Text.ofString "\n").withoutControlSequences

end Avatar.CommandLine
