import ClusterAudit.Command.Run

/-!
# The program

The program reads the files that a command names, runs the command on them, prints what is printed,
writes the report that is written and ends. No service can be reached and no port be listened on
from here, so what needs one of them fails as it does without a network.
-/

namespace ClusterAudit.Program

/-- The bytes of a file, if it can be read. -/
def fileBytes? (path : String) : IO (Option (List UInt8)) :=
  try return some (← IO.FS.readBinFile path).toList catch _ => return none

/-- The entries of a directory, if it is one. Of the directories in it only the names are read. -/
def entries? (path : String) : IO (Option (List (String × FileTree))) := do
  try
    let place ← IO.FS.realPath path
    let listed ← place.readDir
    let entries ← listed.toList.mapM fun e => do
      match ← fileBytes? (path ++ "/" ++ e.fileName) with
      | some bytes => return (e.fileName, FileTree.file bytes)
      | none => return (e.fileName, FileTree.empty)
    return some entries
  catch _ => return none

/-- The files with what stands at a path. -/
def readPath (files : FileTree) (path : String) : IO FileTree := do
  match ← fileBytes? path with
  | some bytes => return files.put (FileTree.parts path) (.file bytes)
  | none =>
    match ← entries? path with
    | some entries => return files.put (FileTree.parts path) (.directory entries)
    | none => return files

/-- The directory that a path is in. -/
def parentOf (path : String) : String :=
  Text.join "/" (Text.split '/' path).dropLast

/-- The paths of the files that a command looks at. -/
def pathsOf : Command → List String
  | .audit o => o.outputFile.toList.map parentOf ++ o.auditPath.toList ++ o.config.toList
  | .serve o => o.config.toList
  | .configShow config => config.toList
  | _ => []

/-- The text that says where the cluster is. -/
def kubeconfig? : IO (Option String) := do
  match ← IO.getEnv "HOME" with
  | none => return none
  | some home => return (← fileBytes? (home ++ "/.kube/config")).bind Utf8.decode?

/-- Write the report of an audit that wrote one. -/
def writeOutput (o : RunOutcome) : Command → IO Unit
  | .audit { outputFile := some path, .. } =>
    match o.fault, o.files.at? path with
    | none, .ok (.file bytes) => IO.FS.writeBinFile path ⟨bytes.toArray⟩
    | _, _ => return ()
  | _ => return ()

/-- Run the words of a command line. -/
def run (words : List String) : IO UInt32 := do
  let command? := (Invocation.read words).toOption.map (·.command)
  let files ← (command?.toList.flatMap pathsOf).foldlM readPath FileTree.empty
  let env : Surroundings := { files, kubeconfig := ← kubeconfig? }
  match Command.runLine env (fun _ => false) words with
  | .serving _ _ output =>
    IO.print output
    return 0
  | .finished o =>
    IO.print o.output
    match o.fault with
    | some step => IO.eprintln ("Error: " ++ step)
    | none => command?.toList.forM (writeOutput o)
    return UInt32.ofNat o.code

end ClusterAudit.Program

/-- The program. -/
def main (words : List String) : IO UInt32 :=
  ClusterAudit.Program.run words
