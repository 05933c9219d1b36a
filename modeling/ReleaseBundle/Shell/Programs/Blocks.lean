import ReleaseBundle.Shell.Programs.Files
import ReleaseBundle.Shell.Programs.Lines

/-!
# Programs on bytes

Copying blocks of bytes from one file to another, and comparing files byte by byte or line by line.
-/

namespace ReleaseBundle.Shell.Programs

open Act

/-! ## Copying blocks -/

/-- Reads a number of bytes, or what there is. -/
def readCount (number : Nat) (sofar : Bytes) (count : Nat) : Nat → Act (Except Fault Bytes)
  | 0 => return .ok sofar
  | n + 1 => do
    if count ≤ sofar.length then return .ok sofar
    else
      match ← readHandle number fun there => min there.length (count - sofar.length) with
      | .error fault => return .error fault
      | .ok [] => return .ok sofar
      | .ok bytes => readCount number (sofar ++ bytes) count n

/-- What is asked of `dd`. -/
structure BlockCopy where
  operands : List (String × String)

namespace BlockCopy

def names : List String := ["if", "of", "bs", "ibs", "obs", "count", "skip", "seek", "conv", "status", "iflag", "oflag", "cbs"]

def value? (b : BlockCopy) (name : String) : Option String :=
  (b.operands.reverse.find? fun o => o.1 = name).map Prod.snd

/-- The number that an operand gives: factors with an x between them. -/
def number? (b : BlockCopy) (name : String) : Option (Option Nat) :=
  (b.value? name).map fun t =>
    (t.splitOn "x").foldl
      (fun (product : Option Nat) part => do return (← product) * (← countOf? part))
      (some 1)

def number (b : BlockCopy) (name : String) (standard : Nat) : Nat := ((b.number? name).bind id).getD standard

def conversions (b : BlockCopy) : List String := ((b.value? "conv").getD "").splitOn ","

/-- Changes letters as conversions ask. -/
def converted (b : BlockCopy) (bytes : Bytes) : Bytes :=
  let byChar (f : Char → Char) := bytes.map fun x => UInt8.ofNat (f (Char.ofNat x.toNat)).toNat
  if b.conversions.contains "ucase" then byChar Char.toUpper
  else if b.conversions.contains "lcase" then byChar Char.toLower
  else bytes

end BlockCopy

/-- How many whole and partial blocks some bytes fill. -/
def blockCounts (length size : Nat) : String :=
  toString (length / size) ++ "+" ++ (if length % size = 0 then "0" else "1")

def copyBlocks : Program := fun args => do
  let m : Manual := { program := "dd", flags := "" }
  let read (t : String) : Option (String × String) :=
    let name := String.ofList (t.toList.takeWhile (· != '='))
    if BlockCopy.names.contains name && name.length < t.length then
      some (name, String.ofList (t.toList.drop (name.length + 1)))
    else none
  match args.find? fun t => (read t).isNone with
  | some t => m.misused ("unrecognized operand " ++ quoted t)
  | none =>
    let b : BlockCopy := ⟨args.filterMap read⟩
    match ["bs", "ibs", "obs", "count", "skip", "seek"].find? fun name => b.number? name = some none with
    | some name => m.failed ("invalid number: " ++ quoted ((b.value? name).getD ""))
    | none => do
      let inputSize := b.number "bs" (b.number "ibs" 512)
      let outputSize := b.number "bs" (b.number "obs" 512)
      let input ← match b.value? "if" with
        | some t => Act.openPath t .read false
        | none => do
          match ← handle? 0 with
          | some number => pure (.ok number)
          | none => pure (.error (.numbered 9))
      match input with
      | .error fault => m.failed ("failed to open " ++ quoted ((b.value? "if").getD "") ++ ": " ++ reason fault)
      | .ok input => do
        let keeps := b.conversions.contains "notrunc" || b.value? "oflag" = some "append"
        let seek := outputSize * b.number "seek" 0
        let output ← match b.value? "of" with
          | some t => do
            let there ← match ← stat? t with
              | .ok (_, .file n) => some <$> look fun d => (d.data n).content
              | _ => pure none
            let opened ← Act.openPath t .write false
            if let .ok number := opened then
              let before := there.getD []
              let kept := if keeps then before else before.take seek
              let _ ← writeHandle number kept
              match (← get).handles.lookup number with
              | some h =>
                setHandle number { h with
                  position := if b.value? "oflag" = some "append" then before.length else seek }
              | none => pure ()
            pure opened
          | none => do
            match ← handle? 1 with
            | some number => pure (.ok number)
            | none => pure (.error (.numbered 9))
        match output with
        | .error fault => m.failed ("failed to open " ++ quoted ((b.value? "of").getD "") ++ ": " ++ reason fault)
        | .ok output => do
          let _ ← readCount input [] (inputSize * b.number "skip" 0) 100000
          let limit := (b.number? "count").bind id
          let wanted := (limit.map (inputSize * ·)).getD 1000000000
          match ← readCount input [] wanted (if limit.isSome then 100000 else 10000) with
          | .error fault => m.failed ("error reading " ++ quoted ((b.value? "if").getD "standard input") ++ ": " ++ reason fault)
          | .ok bytes => do
            let failure ← writeHandle output (b.converted bytes)
            if let some fault := failure then
              m.complain ("error writing " ++ quoted ((b.value? "of").getD "standard output") ++ ": " ++ reason fault)
            if b.value? "status" != some "none" then
              complain (blockCounts bytes.length inputSize ++ " records in")
              complain (blockCounts bytes.length outputSize ++ " records out")
              if b.value? "status" != some "noxfer" then
                complain (toString bytes.length ++ " bytes copied, 0 s, 0.0 kB/s")
            return if failure.isSome then 1 else 0

/-! ## Comparing -/

/-- Where two texts differ first: how many bytes and lines come before. -/
def firstDifference (bytes lines : Nat) : Bytes → Bytes → Nat × Nat × Bytes × Bytes
  | a :: as, b :: bs =>
    if a = b then firstDifference (bytes + 1) (if a = 0x0A then lines + 1 else lines) as bs
    else (bytes, lines, a :: as, b :: bs)
  | as, bs => (bytes, lines, as, bs)

/-- Says that something is missing behind a word, as programs do that compare. -/
def nothingBehind (m : Manual) (word : String) : Act Nat := do
  m.complain ("missing operand after '" ++ word ++ "'")
  m.complain ("Try '" ++ m.program ++ " --help' for more information.")
  return 2

def compareBytes : Program :=
  let m : Manual :=
    { program := "cmp", flags := "slb", valued := "ni", misuse := 2
      long := [("silent", 's'), ("quiet", 's'), ("verbose", 'l'), ("bytes", 'n')] }
  m.run fun a => do
    match a.operands with
    | [] => nothingBehind m "cmp"
    | _ :: _ :: _ :: _ :: extra :: _ => do
      m.complain ("extra operand '" ++ extra ++ "'")
      m.complain "Try 'cmp --help' for more information."
      return 2
    | first :: others => do
      let second := others.headD "-"
      match ← inputOf first, ← inputOf second with
      | .error fault, _ => do
        if !a.has 's' then m.complain (first ++ ": " ++ reason fault)
        return 2
      | _, .error fault => do
        if !a.has 's' then m.complain (second ++ ": " ++ reason fault)
        return 2
      | .ok x, .ok y => do
        let cut (t : String) := match (a.value? 'n').bind countOf? with
          | some n => (bytesOf t).take n
          | none => bytesOf t
        let ended (name : String) (bytes lines : Nat) (last : Option UInt8) : Act Nat := do
          if !a.has 's' then
            if bytes = 0 then m.complain ("EOF on " ++ name ++ " which is empty")
            else
              m.complain ("EOF on " ++ name ++ " after byte " ++ toString bytes ++ ", " ++
                (if last = some 0x0A then "line " ++ toString lines else "in line " ++ toString (lines + 1)))
          return 1
        match firstDifference 0 0 (cut x) (cut y) with
        | (_, _, [], []) => return 0
        | (bytes, lines, [], _) => ended first bytes lines (cut x).getLast?
        | (bytes, lines, _, []) => ended second bytes lines (cut y).getLast?
        | (bytes, lines, _, _) => do
          if !a.has 's' then
            print (first ++ " " ++ second ++ " differ: char " ++ toString (bytes + 1) ++ ", line " ++
              toString (lines + 1) ++ "\n")
          return 1

/-- For each end of a list, the length of the longest list that is part of it and of all ends of another. -/
def commonRow (x : String) (row : List Nat) : List String → List Nat
  | [] => [0]
  | y :: ys =>
    let rest := commonRow x row.tail ys
    (if x = y then row.tail.headD 0 + 1 else max (rest.headD 0) (row.headD 0)) :: rest

/-- One side of lines that differ: which lines, and whether they are left out or new. -/
inductive Edited where
  | kept
  | removed
  | added

/-- How one list of lines becomes another. -/
def edits (rows : List (List Nat)) (xs ys : List String) : Nat → List Edited
  | 0 => []
  | n + 1 =>
    match xs, ys with
    | [], [] => []
    | _ :: xs, [] => .removed :: edits rows.tail xs [] n
    | [], _ :: ys => .added :: edits (rows.map List.tail) [] ys n
    | x :: xs, y :: ys =>
      if x = y then .kept :: edits (rows.tail.map List.tail) xs ys n
      else if (rows.headD []).tail.headD 0 ≤ (rows.tail.headD []).headD 0 then
        .removed :: edits rows.tail xs (y :: ys) n
      else .added :: edits (rows.map List.tail) (x :: xs) ys n

/-- A range of lines as it is printed. -/
def lineRange (start count : Nat) : String :=
  if count = 0 then toString start
  else if count = 1 then toString (start + 1)
  else toString (start + 1) ++ "," ++ toString (start + count)

/-- What is printed of a change. -/
def hunk (i j : Nat) (removed added : List String) : List String :=
  let letter := if removed.isEmpty then "a" else if added.isEmpty then "d" else "c"
  if removed.isEmpty && added.isEmpty then []
  else
    (lineRange i removed.length ++ letter ++ lineRange j added.length) ::
      removed.map ("< " ++ ·) ++ (if letter = "c" then ["---"] else []) ++ added.map ("> " ++ ·)

/-- All changes between lines. -/
def hunks (i j : Nat) (removed added : List String) : List Edited → List String → List String → List String
  | .removed :: es, x :: xs, ys => hunks i j (removed ++ [x]) added es xs ys
  | .added :: es, xs, y :: ys => hunks i j removed (added ++ [y]) es xs ys
  | .kept :: es, _ :: xs, _ :: ys =>
    hunk i j removed added ++ hunks (i + removed.length + 1) (j + added.length + 1) [] [] es xs ys
  | _, _, _ => hunk i j removed added

/-- The lines of a text, where a last one without end says so. -/
def markedLines (t : String) : List String :=
  let ls := linesOf t
  if isOpen t then ls.dropLast ++ [ls.getLast?.getD "" ++ "\n\\ No newline at end of file"] else ls

def differenceManual : Manual :=
  { program := "diff", flags := "qsrNuibwBaecy", misuse := 2
    long := [("brief", 'q'), ("report-identical-files", 's'), ("recursive", 'r'), ("new-file", 'N'), ("unified", 'u')] }

/-- Compares two texts. -/
def compareTexts (a : Arguments) (heading : Option String) (first second x y : String) : Act Nat := do
  if x = y then do
    if a.has 's' then print ("Files " ++ first ++ " and " ++ second ++ " are identical\n")
    return 0
  else if a.has 'q' then do
    print ("Files " ++ first ++ " and " ++ second ++ " differ\n")
    return 1
  else do
    if let some t := heading then print (t ++ "\n")
    let xs := markedLines x
    let ys := markedLines y
    let rows := xs.foldr (fun x rows => commonRow x (rows.headD []) ys :: rows)
      [List.replicate (ys.length + 1) 0]
    print (unlines (hunks 0 0 [] [] (edits rows xs ys (xs.length + ys.length + 1)) xs ys))
    return 1

/-- Compares what two paths lead to. -/
def comparePaths (a : Arguments) (heading : Bool) (first second : String) : Nat → Act Nat
  | 0 => return 2
  | n + 1 => do
    let m := differenceManual
    let atFirst ← if first = "-" then pure false else isDirectory first
    let atSecond ← if second = "-" then pure false else isDirectory second
    if atFirst && atSecond then do
      let xs ← entries first
      let ys ← entries second
      let names := ((xs ++ ys).eraseDups).mergeSort (· ≤ ·)
      forEach
        (fun name => do
          if !ys.contains name then do
            print ("Only in " ++ first ++ ": " ++ name ++ "\n")
            return 1
          else if !xs.contains name then do
            print ("Only in " ++ second ++ ": " ++ name ++ "\n")
            return 1
          else if !a.has 'r' && (← isDirectory (inside first name)) && (← isDirectory (inside second name)) then do
            print ("Common subdirectories: " ++ inside first name ++ " and " ++ inside second name ++ "\n")
            return 0
          else comparePaths a true (inside first name) (inside second name) n)
        names
    else
      let x := if atFirst then inside first (lastName second) else first
      let y := if atSecond then inside second (lastName first) else second
      match ← inputOf x, ← inputOf y with
      | .error fault, other => do
        m.complain (x ++ ": " ++ reason fault)
        if let .error fault := other then m.complain (y ++ ": " ++ reason fault)
        return 2
      | _, .error fault => do
        m.complain (y ++ ": " ++ reason fault)
        return 2
      | .ok s, .ok t =>
        let options := String.join (a.options.map fun o => " -" ++ o.1.toString)
        compareTexts a (if heading then some ("diff" ++ options ++ " " ++ x ++ " " ++ y) else none) x y s t

def compareLines : Program :=
  let m := differenceManual
  m.run fun a => do
    match a.operands with
    | [] => nothingBehind m "diff"
    | [t] => nothingBehind m t
    | [x, y] => comparePaths a false x y deepest
    | _ :: _ :: extra :: _ => do
      m.complain ("extra operand '" ++ extra ++ "'")
      m.complain "Try 'diff --help' for more information."
      return 2

end ReleaseBundle.Shell.Programs
