import ModerationGateway.Cli.Run

/-!
# The program

Files, standard input and the environment are those of the system. There is no network: no peer
answers, and no address can be taken.
-/

namespace ModerationGateway.Cli

/-- A numbered reason in its own wording. -/
def stated (code : UInt32) (details : String) : String :=
  details ++ " (os error " ++ decimalText code.toNat ++ ")"

/-- The system's reason in its own wording. -/
def systemReason : IO.Error → String
  | .noFileOrDirectory _ code details => stated code details
  | .inappropriateType _ code details => stated code details
  | .alreadyExists _ code details => stated code details
  | .permissionDenied _ code details => stated code details
  | .invalidArgument _ code details => stated code details
  | .resourceExhausted _ code details => stated code details
  | .resourceBusy code details => stated code details
  | .otherError code details => stated code details
  | e => toString e

/-- An action, its failure as a reason. -/
def reasoned {α : Type} (act : IO α) : ExceptT String IO α :=
  ExceptT.mk do
    try return .ok (← act) catch e => return .error (systemReason e)

/-- The text of octets. -/
def textOfBytes (bytes : ByteArray) : ExceptT String IO String :=
  match Utf8.text? bytes.toList with
  | some text => pure text
  | none => throw Files.notText

/-- Read a stream to its end. -/
partial def readAll (stream : IO.FS.Stream) (bytes : ByteArray) : IO ByteArray := do
  let more ← stream.read 65536
  if more.isEmpty then return bytes else readAll stream (bytes ++ more)

/-- Something can be opened at a path. -/
def canOpen (path : String) : IO Bool := do
  try
    let _ ← IO.FS.Handle.mk path .read
    return true
  catch _ => return false

/-- The system as a host. -/
def system : Host IO Unit where
  read path := do
    textOfBytes (← reasoned (do (← IO.FS.Handle.mk path .read).readBinToEnd))
  write path text := reasoned (IO.FS.writeFile path text)
  holds := canOpen
  input := do textOfBytes (← reasoned (do readAll (← IO.getStdin) .empty))
  exchange := fun _ _ peers => ([], peers)
  converse talk := pure (talk ()).1
  serve _ := throw "Operation not supported (os error 95)"

/-- The environment of the process. -/
def processEnvironment : IO Environment :=
  Environment.names.filterMapM fun name => return (← IO.getEnv name).map (name, ·)

end ModerationGateway.Cli

/-- Carry out the arguments of the process. -/
def main (args : List String) : IO UInt32 := do
  let outcome ←
    ModerationGateway.Cli.run ModerationGateway.Cli.system
      (← ModerationGateway.Cli.processEnvironment) args
  IO.print outcome.output
  IO.eprint outcome.complaint
  return outcome.exit.toUInt32
