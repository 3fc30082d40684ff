import DatasetProposals.Cli.Program
import DatasetProposals.Http.Server
import DatasetProposals.Http.Wire
import Std.Async.TCP
import Std.Time
/-! The `publishing` program on a machine: it reads the environment and its files, runs, and serves
one request per connection when it starts a server. -/
namespace DatasetProposals
namespace Shell
open Std.Async

def readEnvironment (names : List String) : IO Cli.Environment := do
  let mut entries : List String := []
  for name in names.eraseDups do
    if let some value ← IO.getEnv name then
      entries := entries ++ [name ++ "=" ++ value]
  return ⟨entries⟩

def readInto (cwd : List String) (tree : FileTree) (path : String) : IO FileTree := do
  try
    return tree.write cwd path (← IO.FS.readFile path)
  catch e =>
    match e with
    | .inappropriateType .. => return tree.makeDirectory cwd path
    | _ => return tree

def writeErrLines (lines : List Cli.ErrLine) : IO Unit := do
  let stderr ← IO.getStderr
  for l in lines do
    match l with
    | .text s | .event s => stderr.putStrLn s
    | .json j => stderr.putStrLn (Json.render j)
  stderr.flush

def clockNow : IO Int := do
  return (← Std.Time.Timestamp.now).toSecondsSinceUnixEpoch.val

def socketAddress : Cli.SocketAddress → Std.Net.SocketAddress
  | .v4 octets port =>
    let o (i : Nat) : UInt8 := (octets.getD i 0).toUInt8
    .v4 ⟨Std.Net.IPv4Addr.ofParts (o 0) (o 1) (o 2) (o 3), port.toUInt16⟩
  | .v6 groups _ port =>
    let g (i : Nat) : UInt16 := (groups.getD i 0).toUInt16
    .v6 ⟨Std.Net.IPv6Addr.ofParts (g 0) (g 1) (g 2) (g 3) (g 4) (g 5) (g 6) (g 7), port.toUInt16⟩

def requestLimit : Nat := 16 * 1048576

partial def receive (client : TCP.Socket.Client) (received : ByteArray) : Async Http.Reading := do
  match Http.readRequest false received.toList with
  | .incomplete =>
    if received.size > requestLimit then return Http.readRequest true received.toList
    match ← client.recv? 65536 with
    | some more => receive client (received ++ more)
    | none => return Http.readRequest true received.toList
  | reading => return reading

def answerClient (iface : Http.Interface) (world : IO.Ref World) (client : TCP.Socket.Client) :
    Async Unit := do
  let response ← match ← receive client ByteArray.empty with
    | .complete request => do
      let clock ← clockNow
      let w ← world.get
      let (response, w) := (iface.respond request).run
        { w with clock := clock, mailer := { w.mailer with sent := [] } }
      world.set w
      pure (some response)
    | .refused status => pure (some (Http.refusal status))
    | .incomplete => pure none
  if let some r := response then
    client.send r.render.toUTF8
  client.shutdown

partial def serveConnections (iface : Http.Interface) (world : IO.Ref World)
    (socket : TCP.Socket.Server) : Async Unit := do
  let client ← socket.accept
  try answerClient iface world client catch _ => pure ()
  serveConnections iface world socket

def run (args : List String) : IO UInt32 := do
  let cwd := FileTree.resolve [] (← IO.currentDir).toString
  let files ← readInto cwd FileTree.empty ".env"
  let dotEnvNames := match files.read cwd ".env" with
    | .ok text => Cli.DotEnv.candidateNames text
    | .error _ => []
  let env ← readEnvironment (Cli.environmentNames ++ dotEnvNames)
  let files ← (Cli.filesNamed (env.withDotEnv files cwd) args).foldlM (readInto cwd) files
  match Cli.run ⟨args, env, files, cwd⟩ ⟨none, none, false⟩ (← clockNow) with
  | .exited e =>
    IO.print e.stdout
    writeErrLines e.stderr
    return e.status.toUInt32
  | .serving server lines =>
    writeErrLines lines
    let world ← IO.mkRef server.world
    let iface : Http.Interface := ⟨server.apiKey, Cli.programVersion⟩
    try
      let socket ← TCP.Socket.Server.mk
      socket.bind (socketAddress server.config.listen)
      socket.listen 128
      (serveConnections iface world socket).block
      return 0
    catch e =>
      writeErrLines [.text ("Error: " ++ toString e)]
      return 1

end Shell
end DatasetProposals

def main (args : List String) : IO UInt32 := DatasetProposals.Shell.run args
