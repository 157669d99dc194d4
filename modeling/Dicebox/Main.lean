import Dicebox.CommandLine.Help

/-!
# The program

Reads the settings that the environment gives, seeds the dice with random bytes of the system, runs
the command line and prints what it says. Everything else is decided by `CommandLine.run`.
-/

set_option autoImplicit false

open Dicebox

/-- The variables of the environment that name settings, in upper case or as they are. -/
def readEnvironment : IO (List (String × String)) := do
  let mut found := []
  for setting in Setting.all do
    for name in [setting.name, setting.name.toUpper] do
      if let some value ← IO.getEnv name then
        found := found ++ [(name, value)]
  return found

/-- A number made of random bytes. -/
def readEntropy : IO Int := do
  let bytes ← IO.getRandomBytes 32
  return bytes.toList.foldl (fun (n : Int) (b : UInt8) => n * 256 + b.toNat) 0

def main (arguments : List String) : IO UInt32 := do
  let place : Place := { environment := ← readEnvironment }
  let ending := CommandLine.run .log place (← readEntropy) (arguments.map .text)
  if ending.warned then IO.eprintln CommandLine.configurationWarning
  IO.print ending.output
  match ending with
  | .misunderstood why => IO.eprintln why.message
  | .help => IO.print CommandLine.help
  | .ran .. | .broken _ | .completed _ => pure ()
  if let some fault := ending.fault? then IO.eprintln fault.message
  return UInt32.ofNat ending.exitCode
