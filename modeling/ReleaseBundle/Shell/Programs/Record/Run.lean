import ReleaseBundle.Shell.Programs.Record.Reader
import ReleaseBundle.Shell.Programs.Record.Session

/-!
# Running programs on records

`evaluate` gives the value of a term and `perform` does what a statement says. Both end because what they are
given is used up, however a program goes on.
-/

namespace ReleaseBundle.Shell.Programs.Record

/-- What a program is run with. -/
structure Setting where
  start : Start
  rules : Rules

/-- How a statement ends that does not stop everything. -/
inductive Outcome where
  | done
  | broken
  | continued
  | answered (v : Value)

namespace Running

/-! ## Functions on texts -/

/-- What a replacement becomes for a match. -/
def replacement (found : List Char) : List Char → List Char
  | '\\' :: '\\' :: '&' :: cs => '\\' :: found ++ replacement found cs
  | '\\' :: '&' :: cs => '&' :: replacement found cs
  | '&' :: cs => found ++ replacement found cs
  | c :: cs => c :: replacement found cs
  | [] => []

/-- Replaces the first match, or all of them. Answers the new text, and how many there were. An empty match
does not count where another one ends. -/
def substituted (e : Expression) (all : Bool) (new : List Char) (before : List Char) (touching : Bool) :
    Nat → List Char → List Char × Nat
  | 0, cs => (cs, 0)
  | n + 1, cs =>
    match Expression.first? false e before cs with
    | none => (cs, 0)
    | some f =>
      let passed := cs.take (f.before.length - before.length)
      if f.text.isEmpty && passed.isEmpty && touching then
        match cs with
        | [] => ([], 0)
        | c :: rest =>
          let (t, k) := substituted e all new (c :: before) false n rest
          (c :: t, k)
      else
        let shown := replacement f.text new
        if !all then (passed ++ shown ++ f.after, 1)
        else
          match f.text, f.after with
          | [], c :: rest =>
            let (t, k) := substituted e all new (c :: f.before) false n rest
            (passed ++ shown ++ c :: t, k + 1)
          | [], [] => (passed ++ shown, 1)
          | text, after =>
            let (t, k) := substituted e all new (text.reverse ++ f.before) true n after
            (passed ++ shown ++ t, k + 1)

/-- A part of a text. Places before its start count too. -/
def part (t : String) (first : Float) (count : Option Float) : String :=
  let m := truncated first
  let stop := match count with
    | some n => min (m + truncated n) (t.length + 1)
    | none => t.length + 1
  let m := max m 1
  ((t.drop (m - 1).toNat).take (stop - m).toNat).toString

/-- The place of a piece in a text, counted from one, or zero. -/
def placeOf (piece : List Char) (n : Nat) : List Char → Nat
  | [] => if piece.isEmpty then n else 0
  | c :: cs => if piece.isPrefixOf (c :: cs) then n else placeOf piece (n + 1) cs

/-! ## Records -/

/-- Splits an argument that gives a variable a value. -/
def assignment? (t : String) : Option (String × String) :=
  (setting? t).filter fun (name, _) =>
    match name.toList with
    | c :: cs => (c.isAlpha || c == '_') && cs.all Expression.isWord
    | [] => false

/-- Gives a variable a value from outside. -/
def setFromOutside (name t : String) : Running Unit := setValue name (.ofInput (Token.plain t.toList))

/-- Opens the records that come next: those of the next argument that names a file, or the standard input if
there is none. -/
def openRecords : Nat → Running Bool
  | 0 => return false
  | n + 1 => do
    let s ← get
    let count := truncated (← global "ARGC").toNumber
    let open_ (path : String) : Running Bool := do
      let handle? ← if path = "-" then do
          match ← act (Act.handle? 0) with
          | some handle => pure (.ok handle)
          | none => pure (.error (.numbered 9))
        else act (Act.openPath path .read false)
      match handle? with
      | .error fault => throw (.refused ("cannot open \"" ++ path ++ "\" (" ++ reason fault ++ ")"))
      | .ok handle => do
        modify fun s => { s with records := some { handle := handle }, hadRecords := true }
        setGlobal "FILENAME" (.text path)
        setGlobal "FNR" (.number 0)
        return true
    if (s.argument : Int) < count then
      modify fun s => { s with argument := s.argument + 1 }
      let t ← match (s.tables.getD "ARGV" {}).find? ⟨toString s.argument, some s.argument⟩ with
        | some v => textOf v
        | none => pure ""
      if t = "" then openRecords n
      else
        match assignment? t with
        | some (name, v) => do
          setFromOutside name v
          openRecords n
        | none => open_ t
    else if s.hadRecords then return false
    else open_ "-"

/-- Reads the next record of all that are to be read. -/
def nextRecord : Nat → Running (Option String)
  | 0 => return none
  | n + 1 => do
    match (← get).records with
    | none => do
      if ← openRecords (n + 1) then nextRecord n else return none
    | some i => do
      let (t?, i) ← readFrom (← ender) i mostBlocks
      match t? with
      | some t => do
        modify fun s => { s with records := some i }
        countUp "NR"
        countUp "FNR"
        return some t
      | none => do
        modify fun s => { s with records := none }
        nextRecord n

/-- How many files may be read. -/
def mostFiles : Nat := 100000

/-- Opens what lines are read from besides the records. -/
def openInput (setting : Setting) (ofCommand : Bool) (name : String) : Running (Option Input) := do
  if ofCommand then
    flushAll
    let pipe ← newPipe
    let ending ← command setting.start "/bin/sh" name none (some pipe)
    return some { handle := pipe, status := told ending }
  else
    let handle? ← if name = "-" || name = "/dev/stdin" then do
        match ← act (Act.handle? 0) with
        | some handle => pure (Except.ok handle)
        | none => pure (Except.error (Fault.numbered 9))
      else act (Act.openPath name .read false)
    match handle? with
    | .ok handle => return some { handle := handle }
    | .error _ => return none

/-- Reads a line from a file or a command. Nothing if that cannot be opened. -/
def nextLine (setting : Setting) (ofCommand : Bool) (name : String) : Running (Option (Option String)) := do
  let i? ← match (← get).inputs.lookup name with
    | some i => pure (some i)
    | none => openInput setting ofCommand name
  match i? with
  | none => return none
  | some i => do
    let (t?, i) ← readFrom (← ender) i mostBlocks
    modify fun s => { s with inputs := (name, i) :: s.inputs.filter fun e => e.1 != name }
    return some t?

/-! ## Terms -/

/-- Shows where a program is. -/
def whereabouts : Running String := do
  return "\tFILENAME=\"" ++ (← globalText "FILENAME") ++ "\" FNR=" ++ (← globalText "FNR") ++ " NR=" ++
    (← globalText "NR")

/-- The number of a field. -/
def fieldNumber (v : Value) : Running Nat := do
  let n := truncated v.toNumber
  if n < 0 then throw (.failed ("negative field index $" ++ toString n))
  return n.toNat

/-- Runs something with the parameters of a function. Tables that nobody gave it are gone afterwards. -/
def withFrame (frame : Frame) (own : List String) (a : Running α) : Running α := do
  let before := (← get).frame
  modify fun s => { s with frame := frame }
  let r ← a
  modify fun s => { s with frame := before, tables := own.foldl (fun ts t => ts.erase t) s.tables }
  return r

/-- Fills a format. What fits is printed even if not all does. -/
def fillFormat (who : String) (vs : List Value) : Running String := do
  let format ← textOf (vs.headD .unset)
  let (t, misfit?) := filled (← numberFormat) format vs.tail
  match misfit? with
  | none => return t
  | some m => do
    if who = "printf" then emit t
    throw (.failed (m.message ++ who ++ "(\"" ++ format ++ "\")"))

/-- A number that nobody can foresee. -/
def random : Running Float := do
  let seed := (6364136223846793005 * (← get).seed + 1442695040888963407) % 18446744073709551616
  modify fun s => { s with seed := seed }
  return (seed / 2048).toFloat / 9007199254740992

/-- The value of a function of numbers. -/
def computed? (b : Builtin) (x y : Float) : Option Float :=
  match b with
  | .sin => some x.sin
  | .cos => some x.cos
  | .atan2 => some (Float.atan2 x y)
  | .exp => some x.exp
  | .log => some x.log
  | .sqrt => some x.sqrt
  | .int => some (if x < 0 then x.ceil else x.floor)
  | _ => none

mutual

def evaluate (s : Setting) : Nat → Term → Running Value
  | 0, _ => return .unset
  | n + 1, t => do
    match t with
    | .number x => return .number x
    | .text t => return .text t
    | .pattern e => return .ofBool (Expression.occursIn false e (← textOf (← record)))
    | .held p => held s n p
    | .assign p o t => do
      let v ← evaluate s n t
      match o with
      | none => assign s n p v
      | some o => do
        let old ← held s n p
        assign s n p (.number (o.compute old.toNumber v.toNumber))
    | .step p up after => do
      let old := (← held s n p).toNumber
      let new := Value.number (if up then old + 1 else old - 1)
      let _ ← assign s n p new
      return if after then .number old else new
    | .not t => return .ofBool (!(← evaluate s n t).holds)
    | .negative t => return .number (-(← evaluate s n t).toNumber)
    | .positive t => return .number (← evaluate s n t).toNumber
    | .compute o a b => do
      let x ← evaluate s n a
      let y ← evaluate s n b
      return .number (o.compute x.toNumber y.toNumber)
    | .join a b => do
      let x ← textOf (← evaluate s n a)
      let y ← textOf (← evaluate s n b)
      return .text (x ++ y)
    | .compare c a b => do
      let x ← evaluate s n a
      let y ← evaluate s n b
      return .ofBool (c.compare (← numberFormat) x y)
    | .fits negated t p => do
      let t ← textOf (← evaluate s n t)
      return .ofBool (Expression.occursIn false (← meant s n p) t != negated)
    | .both a b =>
      if (← evaluate s n a).holds then return .ofBool (← evaluate s n b).holds else return .ofBool false
    | .oneOf a b =>
      if (← evaluate s n a).holds then return .ofBool true else return .ofBool (← evaluate s n b).holds
    | .choose c a b => if (← evaluate s n c).holds then evaluate s n a else evaluate s n b
    | .among index table => do
      let k ← keyOf (← evaluateAll s n index)
      let isIn := ((← Running.table table).find? k).isSome
      if isIn then changeTable table fun t => t.touch k
      return .ofBool isIn
    | .call f given => call s n f given
    | .builtin b given => builtin s n b given
    | .read source p => do
      let accept (t? : Option String) : Running Value := do
        match t?, p with
        | none, _ => return .number 0
        | some t, some p => do
          let _ ← assign s n p (.ofInput t)
          return .number 1
        | some t, none => do
          setRecord (.ofInput t)
          return .number 1
      let besides (ofCommand : Bool) (t : Term) : Running Value := do
        match ← nextLine s ofCommand (← textOf (← evaluate s n t)) with
        | none => return .number (-1)
        | some t? => accept t?
      match source with
      | .records => accept (← nextRecord mostFiles)
      | .file t => besides false t
      | .command t => besides true t
    | .grouped t => evaluate s n t

def evaluateAll (s : Setting) : Nat → List Term → Running (List Value)
  | 0, _ | _, [] => return []
  | n + 1, t :: ts => do
    let v ← evaluate s n t
    return v :: (← evaluateAll s n ts)

/-- The expression that a term stands for. -/
def meant (s : Setting) : Nat → Term → Running Expression
  | 0, _ => return .nothing
  | n + 1, t => do
    match t with
    | .pattern e => return e
    | t => patternOfText (← textOf (← evaluate s n t))

/-- What a place holds. An entry of a table is there once it was looked for. -/
def held (s : Setting) : Nat → Place → Running Value
  | 0, _ => return .unset
  | n + 1, p => do
    match p with
    | .named name => value name
    | .element table index => do
      let k ← keyOf (← evaluateAll s n index)
      match (← Running.table table).find? k with
      | some v => do
        changeTable table fun t => t.touch k
        return v
      | none => do
        changeTable table fun t => t.insert k .unset
        return .unset
    | .field t => do field (← fieldNumber (← evaluate s n t))

/-- Gives a place a value, which is the answer. -/
def assign (s : Setting) : Nat → Place → Value → Running Value
  | 0, _, v => return v
  | n + 1, p, v => do
    match p with
    | .named name => setValue name v
    | .element table index => do
      let k ← keyOf (← evaluateAll s n index)
      changeTable table fun t => t.insert k v
    | .field t => do setField (← fieldNumber (← evaluate s n t)) v
    return v

/-- Calls a function of the program. -/
def call (s : Setting) : Nat → String → List Term → Running Value
  | 0, _, _ => return .unset
  | n + 1, f, given => do
    match s.rules.functions.find? fun g => g.name = f with
    | none => return .unset
    | some g => do
      let (frame, own) ← bind s n g.parameters given
      match ← withFrame frame own (perform s n g.body) with
      | .answered v => return v
      | _ => return .unset

/-- Binds parameters to what a function is given. Answers the tables too that only this call has. -/
def bind (s : Setting) : Nat → List Parameter → List Term → Running (Frame × List String)
  | 0, _, _ | _, [], _ => return ({}, [])
  | n + 1, p :: ps, given => do
    let named? : Option String := match given.head? with
      | some (.held (.named name)) => some name
      | _ => none
    let handed? ← match named? with
      | some name => do
        let outside ← tableName name
        let isThere ← isTable name
        pure (if p.isTable || isThere then some outside else none)
      | none => pure none
    let v ← match given with
      | t :: _ => if p.isTable then pure .unset else evaluate s n t
      | [] => pure .unset
    let (frame, own) ← bind s n ps given.tail
    match handed? with
    | some table =>
      let values := if p.isTable then frame.values else (p.name, v) :: frame.values
      return ({ frame with values := values, tables := (p.name, table) :: frame.tables }, own)
    | none =>
      if p.isTable then do
        let k := (← get).fresh
        modify fun s => { s with fresh := k + 1 }
        let table := p.name ++ " " ++ toString k
        return ({ frame with tables := (p.name, table) :: frame.tables }, table :: own)
      else return ({ frame with values := (p.name, v) :: frame.values }, own)

/-- Calls a function that every program has. -/
def builtin (s : Setting) : Nat → Builtin → List Term → Running Value
  | 0, _, _ => return .unset
  | n + 1, b, given => do
    let textAt (i : Nat) : Running String := do
      match given[i]? with
      | some t => textOf (← evaluate s n t)
      | none => return ""
    match b with
    | .length => do
      match given with
      | [] => return .ofNat (← textOf (← record)).length
      | [.held (.named name)] =>
        if ← isTable name then return .ofNat (← Running.table name).size
        else return .ofNat (← textAt 0).length
      | _ => return .ofNat (← textAt 0).length
    | .substr => do
      let t ← textAt 0
      let vs ← evaluateAll s n given.tail
      return .text (part t (vs.headD .unset).toNumber (vs[1]?.map Value.toNumber))
    | .index => do
      let t ← textAt 0
      let piece ← textAt 1
      return .ofNat (placeOf piece.toList 1 t.toList)
    | .split => do
      let t ← textAt 0
      let separator ← match given.drop 2 with
        | .pattern e :: _ => pure (.pattern e)
        | [] => separatorOf (← globalText "FS")
        | _ => separatorOf (← textAt 2)
      let pieces := separator.split false t
      if let .held (.named table) :: _ := given.tail then
        let filled := pieces.zipIdx.foldl
          (fun (t : Table) (piece, i) => t.insert ⟨toString (i + 1), some (i + 1)⟩ (.ofInput piece)) {}
        changeTable table fun _ => filled
      return .ofNat pieces.length
    | .sub | .gsub => do
      let e ← meant s n (given.headD (.text ""))
      let new ← textAt 1
      let place : Place := match given.drop 2 with
        | .held p :: _ | .grouped (.held p) :: _ => p
        | _ => .field (.number 0)
      let old ← textOf (← held s n place)
      let all := match b with
        | .gsub => true
        | _ => false
      let (t, k) := substituted e all new.toList [] false (2 * old.length + 2) old.toList
      if 0 < k then
        let _ ← assign s n place (.text (String.ofList t))
      return .ofNat k
    | .matchPlace => do
      let t ← textAt 0
      let e ← meant s n (given.getD 1 (.text ""))
      let (place, size) : Nat × Int := match Expression.first? false e [] t.toList with
        | some f => (f.before.length + 1, f.text.length)
        | none => (0, -1)
      setGlobal "RSTART" (.ofNat place)
      setGlobal "RLENGTH" (.number (Float.ofInt size))
      return .ofNat place
    | .sprintf => return .text (← fillFormat "sprintf" (← evaluateAll s n given))
    | .rand => return .number (← random)
    | .srand => do
      let old := (← get).seed
      let vs ← evaluateAll s n given
      modify fun s => { s with seed := magnitude (vs.headD .unset).toNumber }
      return .ofNat old
    | .tolower => return .text ((← textAt 0).map Char.toLower)
    | .toupper => return .text ((← textAt 0).map Char.toUpper)
    | .system => do
      let text ← textAt 0
      flushAll
      return .ofNat (told (← command s.start "sh" text none none))
    | .close => close s.start (← textAt 0)
    | .fflush => do
      flushAll
      return .number 0
    | b => do
      let vs ← evaluateAll s n given
      let x := (vs.headD .unset).toNumber
      let y := (vs.getD 1 .unset).toNumber
      return .number ((computed? b x y).getD 0)

/-- Prints values. -/
def printValues (s : Setting) : Nat → Bool → List Term → Option (Outlet × Term) → Running Unit
  | 0, _, _, _ => return
  | n + 1, formatted, ts, out => do
    let vs ← evaluateAll s n ts
    let t ← if formatted then fillFormat "printf" vs
      else do
        let format ← globalText "OFMT"
        let shown (v : Value) : Running String := do
          match v with
          | .number x => return numberText format x
          | v => textOf v
        let line ← if ts.isEmpty then textOf (← record)
          else do
            let shownValues ← vs.mapM shown
            pure ((← globalText "OFS").intercalate shownValues)
        pure (line ++ (← globalText "ORS"))
    match out with
    | none => emit t
    | some (outlet, target) => do emitTo outlet (← textOf (← evaluate s n target)) t

def perform (s : Setting) : Nat → Statement → Running Outcome
  | 0, _ => return .done
  | n + 1, x => do
    match x with
    | .block ss => performAll s n ss
    | .evaluate t => do
      let _ ← evaluate s n t
      return .done
    | .print formatted ts out => do
      printValues s n formatted ts out
      return .done
    | .branch c a b => do
      if (← evaluate s n c).holds then perform s n a
      else
        match b with
        | some b => perform s n b
        | none => return .done
    | .loop checksFirst c step body => loop s n checksFirst c step body
    | .each name table body => do
      let t := (← Running.table table).list
      changeTable table fun _ => t
      each s n name body t.names
    | .delete table [] => do
      changeTable table fun _ => {}
      return .done
    | .delete table index => do
      let k ← keyOf (← evaluateAll s n index)
      changeTable table fun t => t.erase k
      return .done
    | .next => throw .nextRecord
    | .nextFile => throw .nextFile
    | .leave status => do
      if let some t := status then
        let v ← evaluate s n t
        modify fun s => { s with status := (truncated v.toNumber % 256).toNat }
      throw .exited
    | .answer none => return .answered .unset
    | .answer (some t) => return .answered (← evaluate s n t)
    | .break_ => return .broken
    | .continue_ => return .continued

def performAll (s : Setting) : Nat → List Statement → Running Outcome
  | 0, _ | _, [] => return .done
  | n + 1, x :: xs => do
    match ← perform s n x with
    | .done => performAll s n xs
    | outcome => return outcome

def loop (s : Setting) : Nat → Bool → Option Term → Option Statement → Statement → Running Outcome
  | 0, _, _, _, _ => return .done
  | n + 1, checksFirst, c, step, body => do
    let goesOn ← match checksFirst, c with
      | true, some c => do pure (← evaluate s n c).holds
      | _, _ => pure true
    if !goesOn then return .done
    else
      match ← perform s n body with
      | .broken => return .done
      | .answered v => return .answered v
      | _ => do
        if let some step := step then
          let _ ← perform s n step
        loop s n true c step body

def each (s : Setting) : Nat → String → Statement → List String → Running Outcome
  | 0, _, _, _ | _, _, _, [] => return .done
  | n + 1, name, body, k :: ks => do
    setValue name (.text k)
    match ← perform s n body with
    | .broken => return .done
    | .answered v => return .answered v
    | _ => each s n name body ks

end

/-! ## Rules -/

/-- How many steps a program may take one after the other. -/
def mostSteps : Nat := 20000000

/-- Whether a rule is for the record at hand. -/
def isMeant (s : Setting) (number : Nat) : Occasion → Running Bool
  | .start | .finish => return false
  | .always => return true
  | .record t => return (← evaluate s mostSteps t).holds
  | .range first last => do
    let inRange := (← get).ranges.contains number
    if !inRange && !(← evaluate s mostSteps first).holds then return false
    else
      let ends := (← evaluate s mostSteps last).holds
      modify fun s =>
        { s with ranges := if ends then s.ranges.filter (· != number) else if inRange then s.ranges else number :: s.ranges }
      return true

/-- Follows the rules for the record at hand. -/
def followAll (s : Setting) : List (Rule × Nat) → Running Unit
  | [] => return
  | (r, number) :: rest => do
    if ← isMeant s number r.occasion then
      let _ ← perform s mostSteps r.action
    followAll s rest

/-- Goes through all records. -/
def followRecords (s : Setting) : Nat → Running Unit
  | 0 => return
  | n + 1 => do
    match ← nextRecord mostFiles with
    | none => return
    | some t => do
      setRecord (.ofInput t)
      let skips ← tryCatch
        (do
          followAll s s.rules.rules.zipIdx
          pure false)
        fun e => match e with
          | .nextRecord => pure false
          | .nextFile => pure true
          | e => throw e
      if skips then modify fun s => { s with records := none }
      followRecords s n

/-- Follows the rules for an occasion that is no record. -/
def followOnce (s : Setting) (isMeant : Occasion → Bool) : Running Unit :=
  (s.rules.rules.filter fun r => isMeant r.occasion).forM fun r => do
    let _ ← perform s mostSteps r.action

def isStart : Occasion → Bool
  | .start => true
  | _ => false

def isFinish : Occasion → Bool
  | .finish => true
  | _ => false

/-- Does something until it exits. Answers whether it did. -/
def untilExit (a : Running Unit) : Running Bool :=
  tryCatch
    (do
      a
      pure false)
    fun e => match e with
      | .exited => do
        modify fun s => { s with frame := {} }
        return true
      | e => throw e

/-- Follows all rules. -/
def follow (s : Setting) : Running Unit := do
  let readsRecords := s.rules.rules.any fun r => !isStart r.occasion
  let exits ← untilExit (followOnce s isStart)
  if readsRecords then
    if !exits then
      let _ ← untilExit (followRecords s mostSteps)
    let _ ← untilExit (followOnce s isFinish)

/-- Closes everything. Commands that text was written to end before the last of the printed text is written. -/
def finish (s : Setting) : Running Unit := do
  (← get).outputs.reverse.forM fun (name, o) => do
    let _ ← closeOutput s.start name o
  flushPrinted

end Running

end ReleaseBundle.Shell.Programs.Record
