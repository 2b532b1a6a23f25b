/-
The program: reads what a run can see, and writes what it leaves behind.

Everything is decided by `Command.run`. Only the files that the arguments name are opened, and standard input is
read only when records are to come from it.
-/
import SearchFilter.Command.Run
import SearchFilter.Strategy.Library

namespace SearchFilter.Command

/-- bytes as text, if they are UTF-8 -/
def decoded (bytes : ByteArray) : FileContent :=
  match String.fromUTF8? bytes with
  | some s => .text s
  | none => .notText

/-- content of a file -/
def readFile (path : String) : IO FileContent := do
  match ← (IO.FS.readBinFile path).toBaseIO with
  | .ok bytes => return decoded bytes
  | .error (.inappropriateType ..) => return .directory
  | .error _ => return .missing

/-- the rest of a stream -/
partial def readStream (stream : IO.FS.Stream) (sofar : ByteArray) : IO ByteArray := do
  let bytes ← stream.read 65536
  if bytes.isEmpty then return sofar
  readStream stream (sofar ++ bytes)

/-- environment variables a run looks at -/
def seenVariables : List String := Locale.variableNames ++ [configVariable, "RUST_LOG", "CLICOLOR_FORCE"]

def Args.paths (a : Args) : List String :=
  a.config.toList ++
    (match a.action with
      | .filter _ file _ _ _ => file.toList
      | _ => [])

/-- whether records come from standard input -/
def Args.readsInput (a : Args) : Bool :=
  match a.action with
  | .filter _ none _ _ _ => true
  | _ => false

/-- what a run with these arguments can see -/
def Environment.ofProcess (args : List String) : IO Environment := do
  let found ← seenVariables.filterMapM fun name => do return (← IO.getEnv name).map (Prod.mk name)
  let env (name : String) := found.lookup name
  match parse env args with
  | .error _ => return ⟨args, env, fun _ => .missing, .text ""⟩
  | .ok a =>
    let files ← a.paths.mapM fun path => do return (path, ← readFile path)
    let stdin ← if a.readsInput then readStream (← IO.getStdin) .empty else pure .empty
    return ⟨args, env, fun path => (files.lookup path).getD .missing, decoded stdin⟩

end SearchFilter.Command

def main (args : List String) : IO UInt32 := do
  let out := SearchFilter.Command.run SearchFilter.Like.library (← SearchFilter.Command.Environment.ofProcess args)
  (← IO.getStdout).putStr out.stdout
  (← IO.getStderr).putStr out.stderr
  return out.exit.toUInt32
