import Chip8.Config

/-!
# Options of the command line

A command line names a program and may choose how the machine shifts, how many instructions it
executes in a frame, and the seed of its random bytes. `Options.ofArgs` reads one; what can be wrong
with it is a `UsageError`.
-/

namespace Chip8

/-- What a command line asks for. -/
structure Options where
  /-- The path of the program. -/
  program : String
  /-- The machine that executes it. -/
  config : Config
  /-- How many instructions are executed in a frame at most. -/
  cyclesPerFrame : Nat
deriving DecidableEq, Repr

/-- What is wrong with a command line. -/
inductive UsageError where
  /-- It names no program. -/
  | missingProgram
  /-- It names a second program. -/
  | extraArgument (argument : String)
  /-- There is no such option. -/
  | unknownOption (option : String)
  /-- An option that takes a number comes last. -/
  | missingValue (option : String)
  /-- An option that takes a number below a bound is given something else. -/
  | badNumber (option value : String)
deriving DecidableEq, Repr

/-- The wording of a usage error. -/
def UsageError.text : UsageError → String
  | missingProgram => "no program given"
  | extraArgument argument => "unexpected argument " ++ argument
  | unknownOption option => "unknown option " ++ option
  | missingValue option => "a value is required for " ++ option
  | badNumber option value => "invalid value " ++ value ++ " for " ++ option

namespace Options

/-- What the part of a command line read so far asks for. -/
structure Draft where
  /-- The path of the program, if it was named. -/
  program? : Option String
  /-- The machine. -/
  config : Config
  /-- How many instructions are executed in a frame at most. -/
  cyclesPerFrame : Nat

/-- The text of a number in decimal digits, below a bound. -/
def number? (bound : Nat) (text : String) : Option Nat :=
  if text.toList.all Char.isDigit then text.toNat?.filter (· < bound) else none

/-- Read the rest of a command line. -/
def ofArgsAfter (draft : Draft) : List String → Except UsageError Options
  | [] =>
    match draft.program? with
    | some program => .ok ⟨program, draft.config, draft.cyclesPerFrame⟩
    | none => .error .missingProgram
  | "--legacy-shift" :: rest =>
    ofArgsAfter { draft with config := { draft.config with shiftSource := .vy } } rest
  | "--cycles-per-frame" :: value :: rest =>
    match number? 4294967296 value with
    | some n => ofArgsAfter { draft with cyclesPerFrame := n } rest
    | none => .error (.badNumber "--cycles-per-frame" value)
  | "--seed" :: value :: rest =>
    match number? 18446744073709551616 value with
    | some n =>
      ofArgsAfter { draft with config := { draft.config with seed := some (.ofNat n) } } rest
    | none => .error (.badNumber "--seed" value)
  | argument :: rest =>
    if argument = "--cycles-per-frame" ∨ argument = "--seed" then .error (.missingValue argument)
    else if argument.startsWith "-" then .error (.unknownOption argument)
    else
      match draft.program? with
      | some _ => .error (.extraArgument argument)
      | none => ofArgsAfter { draft with program? := some argument } rest

/-- Read a command line: ten instructions in a frame and the standard machine unless it says
otherwise. -/
def ofArgs (args : List String) : Except UsageError Options :=
  ofArgsAfter ⟨none, Config.standard, 10⟩ args

end Options

end Chip8
