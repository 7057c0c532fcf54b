import Deferred.CommandLine.Basic

/-!
# The command line tool

Runs the command line over the modules that are always there, writes what it answers and ends with
its exit code.
-/

open Deferred

def main (words : List String) : IO UInt32 := do
  let outcome := CommandLine.run [] words
  IO.print outcome.stdout
  IO.eprint outcome.stderr
  for (fault, _) in outcome.escaped.toList do
    IO.eprintln (fault.kind ++ ": " ++ fault.message?.getD "")
  return UInt32.ofNat outcome.exit
