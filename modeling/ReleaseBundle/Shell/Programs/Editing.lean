import ReleaseBundle.Disk.Difference
import ReleaseBundle.Shell.Programs.Edit.Editor
import ReleaseBundle.Shell.Programs.Files

/-!
# The editor as a program

`sed` edits the lines of its operands, all together or each for itself. What it edits in place gets a new
file with the same permission bits under its name, so that other names keep what they had.
-/

namespace ReleaseBundle.Shell.Programs

open Act

def editManual : Manual :=
  { program := "sed", flags := "nErszu", valued := "efl", joined := "i"
    long := [("quiet", 'n'), ("silent", 'n'), ("expression", 'e'), ("file", 'f'), ("in-place", 'i'),
      ("line-length", 'l'), ("regexp-extended", 'E'), ("separate", 's'), ("null-data", 'z'),
      ("unbuffered", 'u'), ("posix", 'u'), ("follow-symlinks", 'u'), ("sandbox", 'u'), ("debug", 'u')] }

/-- Says how the program is used. -/
def editUsage : Act Nat := do
  complain "Usage: sed [OPTION]... \x7bscript-only-if-no-other-script\x7d [input-file]..."
  return 1

/-- Where in the pieces of a script a place is: the number of the piece, and the place in it. -/
def placeIn : Nat → List String → Nat → Nat × Nat
  | number, piece :: next :: rest, taken =>
    if taken ≤ piece.length then (number, taken)
    else placeIn (number + 1) (next :: rest) (taken - (piece.length + 1))
  | number, _, taken => (number, taken)

/-- Says what is wrong with a script. -/
def editRefused (scripts : List String) (problem : Edit.Problem) (taken : Nat) : Act Nat := do
  let where_ (number place : Nat) := "-e expression #" ++ toString number ++ ", char " ++ toString place ++ ": "
  match problem with
  | .here t => do
    let (number, place) := placeIn 1 scripts taken
    editManual.complain (where_ number place ++ t)
  | .whole t => editManual.complain (where_ 1 0 ++ t)
  | .label t => editManual.complain ("can't find label for jump to \x60" ++ t ++ "'")
  return 1

/-- The complaint about a file that cannot be edited, and its status. One that was opened and cannot be read
is the end of everything, with the status 4. -/
def unreadable (t : String) (fault : Fault) : String × Nat :=
  if t = "-" then ("read error on stdin: " ++ reason fault, 4)
  else if fault = .os .isDirectory then ("read error on " ++ t ++ ": " ++ reason fault, 4)
  else ("can't read " ++ t ++ ": " ++ reason fault, 2)

/-- Puts a text in the place of a file, which may be kept under another name. -/
def editedInPlace (t backup text : String) : Act Unit := do
  match ← lstat? t, ← stat? t with
  | .ok (at_, _), .ok (_, .file n) =>
    change fun d =>
      let mode := (d.data n).mode
      let kept := if backup = "" then d.unlink at_
        else
          let name := if backup.contains '*' then backup.replace "*" (lastName t) else lastName t ++ backup
          match at_, Name.ofBytes? (bytesOf name) with
          | _ :: dir, some new => (d.unlink (new :: dir)).moveTree at_ dir new
          | _, _ => d.unlink at_
      kept.placeFile at_ { content := bytesOf text, mode }
  | _, _ => return

/-- Writes out what was copied to files. -/
def writeCopies (outputs : List (String × Nat)) (copies : List (String × String)) : Act Unit :=
  copies.forM fun (path, t) => do
    if let some output := outputs.lookup path then
      let _ ← writeHandle output (bytesOf t)

/-- The files that a program writes to. -/
def outputPaths (program : List Edit.Command) : List String :=
  (program.filterMap fun c => match c.step with
    | .copyTo path => some path
    | .substitute s => s.output
    | _ => none).eraseDups

/-- A file that was not edited: how many lines there were before it, and what is said about it. -/
structure Unedited where
  before : Nat
  complaint : String
  status : Nat

/-- Edits texts and prints the result, or puts it in their place. -/
def editTexts (a : Arguments) (quiet : Bool) (program : List Edit.Command) (operands : List String) : Act Nat := do
  let d := (← get).disk
  let inPlace := a.has 'i'
  let manner : Edit.Manner :=
    { quiet := quiet
      ending := if a.has 'z' then '\x00' else '\n'
      contents := fun path => match d.contentsOf (pathOf path) with
        | .ok bs => some (textOf bs)
        | .error _ => none
      apart := inPlace }
  let outputs ← (outputPaths program).filterMapM fun path => do
    match ← Act.openPath path .write false with
    | .ok output => return some (path, output)
    | .error _ => return none
  let failedRun (problem : String) : Act Nat := editRefused [] (.whole problem) 0
  if inPlace || a.has 's' then
    let (status, _, _) ← operands.foldlM
      (fun ((worst, quit, hold) : Nat × Option Nat × List Char) t => do
        if quit.isSome then return (worst, quit, hold)
        else
          let isOdd ← if inPlace then (do match ← stat? t with
              | .ok (_, .file _) => return false
              | .ok _ => return true
              | .error _ => return false) else pure false
          if isOdd then
            editManual.complain ("couldn't edit " ++ t ++ ": not a regular file")
            return (4, some 4, hold)
          else
            match ← if inPlace then (do match ← Act.contentsOf t with
                | .ok bs => return Except.ok (textOf bs)
                | .error fault => return Except.error fault) else inputOf t with
            | .error fault => do
              let (complaint, status) := unreadable t fault
              editManual.complain complaint
              return (max worst status, if status = 4 then some 4 else none, hold)
            | .ok text => do
              let start : Edit.Editor := { waiting := Edit.linesOf manner.ending text, name := t, hold := hold }
              match (Edit.edit manner program true Edit.mostLines).run start with
              | .error problem _ => return (← failedRun problem, some 1, hold)
              | .ok quit e => do
                let text := String.join e.output.reverse
                writeCopies outputs e.copies.reverse
                if inPlace then editedInPlace t ((a.value? 'i').getD "") text
                else print text
                return (max worst (quit.getD 0), quit, e.hold))
      ((0 : Nat), (none : Option Nat), ([] : List Char))
    return status
  else
    let (lines, missing) ← operands.foldlM
      (fun ((lines, missing) : List Edit.Line × List Unedited) t => do
        if missing.any fun u => u.status == 4 then return (lines, missing)
        else
          match ← inputOf t with
          | .ok text => return (lines ++ Edit.linesOf manner.ending text, missing)
          | .error fault =>
            let (complaint, status) := unreadable t fault
            return (lines, missing ++ [⟨lines.length, complaint, status⟩]))
      ([], [])
    let start : Edit.Editor := { waiting := lines, name := operands.headD "-" }
    match (Edit.edit manner program true Edit.mostLines).run start with
    | .error problem e => do
      print (String.join e.output.reverse)
      failedRun problem
    | .ok quit e => do
      writeCopies outputs e.copies.reverse
      print (String.join e.output.reverse)
      let reached := missing.filter fun u => quit.isNone || u.before < lines.length - e.waiting.length
      reached.forM fun u => editManual.complain u.complaint
      return quit.getD ((reached.map Unedited.status).foldl max 0)

/-- The pieces of a script in the order in which options give them. -/
def scriptPieces (a : Arguments) : Act (Except Nat (List String)) :=
  a.options.foldlM
    (fun (sofar : Except Nat (List String)) o => do
      match sofar with
      | .error n => return .error n
      | .ok pieces =>
        if o.1 = 'e' then return .ok (pieces ++ [o.2])
        else if o.1 = 'f' then
          match ← inputOf o.2 with
          | .ok text => return .ok (pieces ++ [if text.endsWith "\n" then (text.dropEnd 1).toString else text])
          | .error fault => do
            editManual.complain ("couldn't open file " ++ o.2 ++ ": " ++ reason fault)
            return .error 4
        else return .ok pieces)
    (.ok [])

def streamEdit : Program := fun args => do
  let m := editManual
  match m.read {} args with
  | .error e => do
    m.complain e.message
    editUsage
  | .ok a =>
    match ← scriptPieces a with
    | .error n => return n
    | .ok pieces =>
      let given := a.hasAny "ef"
      match given, a.operands with
      | false, [] => editUsage
      | _, operands =>
        let pieces := if given then pieces else operands.take 1
        let files := if given then operands else operands.drop 1
        let text := "\n".intercalate pieces
        match (Edit.script (a.hasAny "Er")).run ⟨text.toList, 0⟩ with
        | .error problem p => editRefused pieces problem p.taken
        | .ok program _ =>
          if a.has 'i' && files.isEmpty then do
            m.complain "no input files"
            return 4
          else
            let quiet := a.has 'n' || text = "#n" || text.startsWith "#n\n"
            editTexts a quiet program (if files.isEmpty then ["-"] else files)

end ReleaseBundle.Shell.Programs
