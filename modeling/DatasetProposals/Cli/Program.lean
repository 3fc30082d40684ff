import DatasetProposals.Cli.Startup
import DatasetProposals.Notify.Template
/-! One run of the `publishing` program: read `.env`, read the command line, set up logging, then run
the subcommand, ending with the documented status. -/
namespace DatasetProposals
namespace Cli

/-- What a run is given: the words after the program name, the environment, the files and
the working directory. -/
structure Invocation where
  args : List String
  env : Environment
  files : FileTree
  cwd : List String
  deriving Inhabited

/-- How a run goes: it ends, or it starts serving after writing some lines. -/
inductive Outcome where
  | exited (e : Exit)
  | serving (server : Server) (stderr : List ErrLine)
  deriving Inhabited

def textLines (s : String) : List ErrLine :=
  let parts := s.splitOn "\n"
  let parts := if parts.getLast? == some "" then parts.dropLast else parts
  parts.map ErrLine.text

def Stop.exit : Stop → Exit
  | .help t => ⟨0, Terminal.plain t, []⟩
  | .version t => ⟨0, Terminal.plain t, []⟩
  | .helpAsError t => ⟨2, "", textLines (Terminal.plain t)⟩
  | .refused e => ⟨2, "", textLines (Terminal.plain e.message)⟩

def setUpLogger (env : Environment) (m : Matches) : Logger × List ErrLine :=
  let (level, format) := logSettings m
  let lossy : Logger × List ErrLine :=
    let (f, bad) := Log.Filter.parseLossy level
    (⟨f, format⟩, bad.map (fun (d, e) => .text ("ignoring `" ++ d ++ "`: " ++ e.message)))
  match (env.get? "RUST_LOG").bind Log.Filter.parse? with
  | some f => (⟨f, format⟩, [])
  | none => lossy

def SocketAddress.text : SocketAddress → String
  | .v4 os p => ".".intercalate (os.map toString) ++ ":" ++ toString p
  | .v6 gs _ p => "[" ++ ":".intercalate (gs.map Json.hexText) ++ "]:" ++ toString p

def renderTemplate (inv : Invocation) (m : Matches) (before : List ErrLine) : Exit :=
  let path := (m.text? "file").getD ""
  match inv.files.read inv.cwd path with
  | .error f => ⟨1, "", before ++ (Abort.mk ("failed to read template " ++ path) [f.message]).lines⟩
  | .ok template => ⟨0, render template (Attributes.ofList (m.pairs "attributes")) ++ "\n", before⟩

def serve (inv : Invocation) (reach : Reachable) (clock : Int) (m : Matches) (l : Logger)
    (before : List ErrLine) : Outcome :=
  let c := ServeConfig.ofMatches m
  match c.validate with
  | .error e =>
    .exited ⟨2, "", before ++ l.lines ⟨.error, "publishing", "configuration error: " ++ e.message, []⟩⟩
  | .ok () =>
    match (startServer l inv.files inv.cwd reach clock c).run before with
    | .error (lines, abort) => .exited ⟨1, "", lines ++ abort.lines⟩
    | .ok (server, lines) =>
      .serving server (lines ++ l.lines ⟨.info, "publishing::serve",
        "publishing service listening on http", [("addr", .text c.listen.text)]⟩)

def environmentNames : List String :=
  "RUST_LOG" :: (subcommands.flatMap (·.options)).filterMap (·.env)

def filesNamed (env : Environment) (args : List String) : List String :=
  match parseCommandLine env args with
  | .error _ => []
  | .ok m =>
    if m.command == "render-template" then (m.text? "file").toList
    else
      let c := ServeConfig.ofMatches m
      let keys := c.templateKeys
      let templates := match c.templateDir with
        | some root => [keys.submitted, keys.withdrawn, keys.accepted, keys.rejected].map
            fun key => joinPath (joinPath root keys.bucket) key
        | none => []
      c.seed.toList ++ templates

def run (inv : Invocation) (reach : Reachable) (clock : Int) : Outcome :=
  let env := inv.env.withDotEnv inv.files inv.cwd
  match parseCommandLine env inv.args with
  | .error stop => .exited stop.exit
  | .ok m =>
    let (logger, before) := setUpLogger env m
    if m.command == "render-template" then .exited (renderTemplate inv m before)
    else serve { inv with env := env } reach clock m logger before

end Cli
end DatasetProposals
