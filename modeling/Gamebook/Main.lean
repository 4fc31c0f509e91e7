/-
This file is the command line of the library.
The first argument names the tool. The files are read anew for every command of a session.
-/

import Gamebook.CommandLine.Tools

namespace Gamebook

/-- Only the regular files directly in the directory are read. -/
def readDirectory (tree : FileTree) (directory : String) : IO FileTree := do
  let place := (← IO.currentDir) / directory
  if directory.isEmpty || !(← place.isDir) then return tree
  let mut result := tree.makeDirectory directory
  for entry in ← place.readDir do
    if (← entry.path.pathExists) && (← entry.path.metadata).type == .file then
      let body ← IO.FS.readBinFile entry.path
      result := result.write (joinPath directory entry.fileName) body
  return result

def readDirectories (directories : List String) : IO FileTree :=
  directories.foldlM readDirectory FileTree.empty

/-- These are the directories that content under a root can stand in. -/
def rootDirectories (root : String) : List String :=
  [joinPath root "events", joinPath root "items", joinPath root "nodes"]

def usage (text : String) : IO UInt32 := do
  IO.eprintln text
  return UInt32.ofNat usageExit

def lintMain (arguments : List String) : IO UInt32 := do
  match LintOptions.ofArguments? arguments with
  | none => usage "Usage: gamebook lint <root> [--events <dir>] [--items <dir>] [--nodes <dir>] [--verbose]"
  | some options =>
      let given := options.events.toList ++ options.items.toList ++ options.nodes.toList
      let tree ← readDirectories (rootDirectories options.root ++ given)
      let run := lint tree (options.paths tree)
      IO.print run.output
      return UInt32.ofNat run.exit

partial def converse (root : String) (session : Session) : IO UInt32 := do
  let output ← IO.getStdout
  output.putStr Session.promptText
  output.flush
  let line ← (← IO.getStdin).getLine
  if line.isEmpty then return 0
  match Command.ofLine? line with
  | none => converse root session
  | some command =>
      let tree ← readDirectories (rootDirectories root)
      let turn := session.step tree command
      output.putStr turn.text
      match turn.stop with
      | some stop => return UInt32.ofNat (Session.Stop.exit stop)
      | none => converse root turn.session

def playMain (arguments : List String) : IO UInt32 := do
  match SessionOptions.ofArguments? arguments with
  | none =>
      usage "Usage: gamebook play <root> [--name <name>] [--birth boy|girl|omen] [--seed <n>] [--start <kind>] [--verbose]"
  | some options =>
      let tree ← readDirectories (rootDirectories options.root)
      match Session.opening tree options with
      | .error error =>
          IO.eprintln error.message
          return 1
      | .ok turn =>
          IO.print turn.text
          match turn.stop with
          | some stop => return UInt32.ofNat (Session.Stop.exit stop)
          | none => converse options.root turn.session

end Gamebook

def main (arguments : List String) : IO UInt32 :=
  match arguments with
  | "lint" :: rest => Gamebook.lintMain rest
  | "play" :: rest => Gamebook.playMain rest
  | _ => Gamebook.usage "Usage: gamebook lint|play <root> [options]"
