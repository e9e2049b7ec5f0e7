import BindingTables.Command.Run

/-! The program: files and arguments in, reports and files out. -/

namespace BindingTables.Command

/-- The path after each of its steps. -/
def stages (path : String) : List String :=
  let start := if Path.isAbsolute path then "/" else ""
  (List.range (Path.steps path).length).map fun n =>
    start ++ "/".intercalate ((Path.steps path).take (n + 1))

/-- The tree of which nothing is known but the directory where relative paths start. -/
def bareTree (here : String) : FileTree :=
  (FileTree.mk [] [] (Path.steps here) "/").createDirectories here |>.1

/-- The tree with what stands on the way to a path. -/
def discover (t : FileTree) (path : String) : IO FileTree := do
  let here ← IO.currentDir
  let mut t := t
  for stage in stages path do
    let place := here / stage
    if ← place.isDir then
      t := (t.createDirectories stage).1
    else if ← place.pathExists then
      try
        t := t.addFile stage (← IO.FS.readBinFile place).toList
      catch _ => pure ()
  return t

/-- The tree with all that a command may read or replace. -/
def discoverFor (t : FileTree) (args : ApiArguments) (outputDir : Option String) :
    IO FileTree := do
  let t ← discover t (args.settingsPath.getD Settings.fileName)
  match t.settingsOr args.settingsPath with
  | .error _ => return t
  | .ok s =>
    let t ← discover t (args.override s).apiPath
    discover t (Path.join (outputDir.getD s.output.dir) Bindings.fileName)

/-- Runs phases up to the first that fails, and measures each in nanoseconds. -/
def measure (r : Run Unit) : List (Phase Unit) → IO (List (String × Nat))
  | [] => return []
  | phase :: rest => do
    let start ← IO.monoNanosNow
    match phase.run r with
    | (_, .error _) => return []
    | (r, .ok ()) =>
      let stop ← IO.monoNanosNow
      return (phase.name, stop - start) :: (← measure r rest)

/-- How long each phase takes, if the command is to show it. -/
def elapsedOf (t : FileTree) : Command → IO (String → Nat)
  | .generate args own => do
    match own.verbose, args.load t with
    | true, .ok (s, api) =>
      let times ← measure ⟨.start api s.binding, ()⟩ (Phase.standard Unit)
      return fun phase => (times.lookup phase).getD 0
    | _, _ => return fun _ => 0
  | _ => return fun _ => 0

/-- Makes the directories and writes the files that are new in `after`. -/
def commit (before after : FileTree) : IO Unit := do
  for l in after.directories do
    if !before.isDirectory l then IO.FS.createDirAll (after.absolute l)
  for (l, content) in after.files do
    if before.file? l != some content then
      IO.FS.writeBinFile (after.absolute l) ⟨content.toArray⟩

def present (ending : Ending) : IO UInt32 := do
  (← IO.getStdout).putStr ending.results
  (← IO.getStderr).putStr ending.remarks
  return ending.exitCode.toUInt32

/-- The tree that a command works in. -/
def surroundings (command : Command) : IO FileTree := do
  let t := bareTree (← IO.FS.realPath ".").toString
  match command with
  | .check args | .info args => discoverFor t args none
  | .generate args own => discoverFor t args own.outputDir
  | _ => return t

end BindingTables.Command

open BindingTables in
def main (args : List String) : IO UInt32 := do
  match Command.parse? args with
  | none => Command.present .usage
  | some command =>
    let before ← command.surroundings
    let (after, ending) := command.run before (← command.elapsedOf before)
    Command.commit before after
    Command.present ending
