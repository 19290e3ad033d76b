import Custodian.CommandLine.Execute

/-!
# The program

The program rehearses a command: it reads a description of a machine from standard input, runs the
command line on that machine, and prints what the command prints. The description is a JSON object that
gives the paths of files and their contents. The machine has no programs to run and reaches no
appliance.
-/

namespace Custodian.Main

open CommandLine
open Json (Value)

/-- The machine with some files, which are all below the directory where relative paths begin. -/
def machine (files : FileTree) : Machine where
  files := files
  programs := []
  searchPath := []
  ending _ _ := ⟨0, [], []⟩
  runs := []

/-- Puts a file into a tree, with the directories around it. -/
def addFile (path content : Text) (files : FileTree) : Except Fault FileTree := do
  let (made, files) := files.makeDirectories ((Path.parent? path).getD [])
  made
  files.writeFile path (Utf8.encode content)

/-- The files that a description gives. -/
def files? (description : Text) : Option FileTree :=
  match Value.read? description with
  | some (.object members) =>
    members.foldlM (fun files (path, v) => do (addFile path (← v.text?) files).toOption)
      ⟨.empty, []⟩
  | _ => none

/-- The world of a machine that reaches no appliance. -/
def world (files : FileTree) : World where
  machine := machine files
  exchange _ _ := .unreachable
  requests := []

/-- The exit code of an outcome: commands that are refused have one of their own. -/
def exitCode : Outcome → UInt32
  | .ok _ => 0
  | .error (.usage .help) => 0
  | .error (.usage _) => 2
  | .error _ => 1

/-- Reads lines up to the end. -/
partial def readAll (input : IO.FS.Stream) (read : String) : IO String := do
  let line ← input.getLine
  if line.isEmpty then return read else readAll input (read ++ line)

end Custodian.Main

open Custodian in
/-- Runs the command line on the machine that standard input describes. -/
def main (args : List String) : IO UInt32 := do
  let input ← IO.getStdin
  let output ← IO.getStdout
  let errors ← IO.getStderr
  match Main.files? (← Main.readAll input "").toList with
  | none =>
    errors.putStrLn "the description of the machine cannot be read"
    return 1
  | some files =>
    let (outcome, _) := CommandLine.execute (args.map String.toList) (Main.world files)
    match outcome with
    | .ok v => output.putStr (String.ofList (CommandLine.printed v))
    | .error (.usage e) => errors.putStrLn (String.ofList e.message)
    | .error e => errors.putStrLn (String.ofList ("Error: " ++ e.message))
    return Main.exitCode outcome
