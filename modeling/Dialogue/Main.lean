/-
The program. What a command needs of files, variables and the time is taken in beforehand, the
command works on values, and what it has printed and written is put out. A simulation does so for
every line of its input.
-/
import Dialogue.Command.Progress
import Std.Time.DateTime.Timestamp

namespace Dialogue.Terminal

/-! ## Taking in -/

/-- The present moment. -/
def currentInstant : IO Instant := do
  let nanos := (← Std.Time.Timestamp.now).toNanosecondsSinceUnixEpoch.val.toNat
  return (Instant.ofSeconds? (nanos / nanosPerSecond) (nanos % nanosPerSecond)).getD .epoch

/-- The path of a place. -/
def pathOf (place : FilePlace) : String :=
  "/" ++ "/".intercalate place

/-- Takes in what is at a place: the text of a file, or a folder without its content. -/
def addPlace (t : FileTree) (place : FilePlace) : IO FileTree := do
  let path := (← IO.currentDir) / pathOf place
  if ← path.isDir then return { t with folders := t.folders ++ [place] }
  if ← path.pathExists then
    let bytes ← IO.FS.readBinFile path
    return { t with files := FileTree.put place (.ofBytes bytes.toList) t.files }
  return t

/-- Takes in what is on the way along a path and at its end, the files of a folder included. -/
def addPath (t : FileTree) (path : String) : IO FileTree := do
  let mut t := t
  let mut place := t.start path
  for name in Text.pieces '/' path do
    place := FileTree.enter place name
    t ← addPlace t place
  let folder := (← IO.currentDir) / pathOf place
  if ← folder.isDir then
    for entry in ← folder.readDir do
      t ← addPlace t (place ++ [entry.fileName])
  return t

/-- The working folder and the files with variables in it and around it. -/
def startingFiles : IO FileTree := do
  let here := (Text.pieces '/' (← IO.currentDir).toString).filter (!·.isEmpty)
  let mut t := FileTree.workingIn here
  for n in List.range (here.length + 1) do
    t ← addPlace t (here.take n ++ [Dotenv.usualName])
  return t

/-- The words of a file that may be names of variables. -/
def variableNames : FileContent → List String
  | .text s | .binary s => (s.split fun c => !(Dotenv.isNameChar c || c == '.')).toList.map toString

/-- The variables that count: the settings, and those that a file with variables mentions. -/
def environmentFor (t : FileTree) : IO Environment := do
  let names := SettingsKey.all.map SettingsKey.name ++ t.files.flatMap fun f => variableNames f.2
  let mut env : Environment := []
  for name in names.eraseDups do
    if let some value ← IO.getEnv name then
      env := env.insert name value
  return env

/-- The paths that a command uses besides the file with variables. -/
def pathsOf (i : Invocation) (c : LogSettings) (now : Instant) : List String :=
  (match i.command with
    | .simulate o => [o.flow]
    | .validate file => [file]
    | .schema folder => [joinPath folder Schema.fileName]) ++
  (c.folder.map fun folder => Logging.eventPath folder now).toList

/-- What the command finds around it. -/
def surroundings (i : Invocation) : IO Surroundings := do
  let now ← currentInstant
  let files ← i.envFile.toList.foldlM addPath (← startingFiles)
  let environment ← environmentFor files
  let c := i.logConfig { files, environment, now }
  return { files := ← (pathsOf i c now).foldlM addPath files, environment, now }

/-! ## Putting out -/

/-- Puts out the lines and files by which a command has gone on. -/
def putOut (before after : Progress) : IO Unit := do
  for line in after.output.drop before.output.length do
    IO.println line
  (← IO.getStdout).flush
  for folder in after.files.folders do
    if !before.files.hasFolder folder then
      IO.FS.createDirAll (pathOf folder)
  for (place, content) in after.files.files do
    if before.files.file? place != some content then
      if let .text s := content then
        IO.FS.writeFile (pathOf place) s

/-- Gives a command its input, line by line. -/
partial def converse (p : Progress) : IO Progress := do
  match p.state with
  | .waiting _ =>
    let start ← IO.monoMsNow
    let line ← (← IO.getStdin).getLine
    if line.isEmpty then return p.close
    let p := p.wait ((← IO.monoMsNow) - start)
    let next := p.take (← currentInstant) ((Text.lines line).head?.getD "")
    putOut p next
    converse next
  | _ => return p

/-- Runs a command; the result is the exit status. -/
def run (i : Invocation) : IO UInt32 := do
  let s ← surroundings i
  let p := i.startLogging s
  putOut { files := s.files } p
  match (← converse p).failure? with
  | some e =>
    IO.eprintln ("Error: " ++ e.message)
    return 1
  | none => return 0

end Dialogue.Terminal

open Dialogue in
/-- Reads the command line and runs the command. -/
def main (args : List String) : IO UInt32 := do
  match CommandLine.read args with
  | .ok i => Terminal.run i
  | .error u =>
    u.output.forM IO.println
    if u.output.isEmpty then
      IO.eprintln ("error: " ++ u.message)
      helpText.forM IO.eprintln
    return u.status.toUInt32
