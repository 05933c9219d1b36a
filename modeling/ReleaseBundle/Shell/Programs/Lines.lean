import ReleaseBundle.Shell.Programs.Options

/-!
# Lines of text

Most programs on text read their operands one after the other and work on lines. The last line of a text
may lack its end; some programs keep it so, others add it.
-/

namespace ReleaseBundle.Shell.Programs

open Act

/-- The lines of a text without their ends. -/
def linesOf (t : String) : List String :=
  if t = "" then []
  else
    let parts := t.splitOn "\n"
    if parts.getLast? = some "" then parts.dropLast else parts

/-- Lines with their ends. -/
def unlines (ls : List String) : String := String.join (ls.map (· ++ "\n"))

/-- Whether the last line of a text lacks its end. -/
def isOpen (t : String) : Bool := t != "" && !t.endsWith "\n"

/-- Lines with their ends, where the last one may lack it. -/
def unlinesLike (t : String) (ls : List String) : String :=
  if isOpen t then "\n".intercalate ls else unlines ls

/-- What an operand leads to; a dash is the standard input. -/
def inputOf (t : String) : Act (Except Fault String) := do
  let r ← if t = "-" then readAll 0 else contentsOf t
  return r.map textOf

/-- Works on the text of each operand, or of the standard input if there is none. -/
def forInputs (operands : List String) (refuse : String → Fault → Act Nat) (work : String → String → Act Nat) :
    Act Nat :=
  forEach
    (fun t => do
      match ← inputOf t with
      | .ok text => work t text
      | .error fault => refuse t fault)
    (if operands.isEmpty then ["-"] else operands)

/-- Complains about an operand under its name. -/
def refused (m : Manual) (t : String) (fault : Fault) : Act Nat := do
  let _ ← m.failed (quotedIfNeeded t ++ ": " ++ reason fault)
  return m.misuse

/-- All texts of the operands together; what cannot be read is complained about. -/
def allInputs (operands : List String) (refuse : String → Fault → Act Nat) : Act (String × Nat) :=
  (if operands.isEmpty then ["-"] else operands).foldlM
    (fun (sofar, worst) t => do
      match ← inputOf t with
      | .ok text => return (sofar ++ text, worst)
      | .error fault => return (sofar, max worst (← refuse t fault)))
    ("", 0)

/-- A text at a width, to the right. -/
def rightAligned (width : Nat) (t : String) : String :=
  String.ofList (List.replicate (width - t.length) ' ') ++ t

/-- The number that a text of digits with a unit behind it denotes. -/
def countOf? (t : String) : Option Nat :=
  let ds := t.toList.takeWhile Char.isDigit
  let unit := match String.ofList (t.toList.drop ds.length) with
    | "" => some 1
    | "b" => some 512
    | "c" => some 1
    | "w" => some 2
    | "k" | "K" | "KiB" => some 1024
    | "kB" | "KB" => some 1000
    | "M" | "MiB" => some (1024 * 1024)
    | "MB" => some 1000000
    | "G" | "GiB" => some (1024 * 1024 * 1024)
    | _ => none
  match (String.ofList ds).toNat?, unit with
  | some n, some u => some (n * u)
  | _, _ => none

end ReleaseBundle.Shell.Programs
