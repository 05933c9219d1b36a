import ReleaseBundle.Digest.Sha256
import ReleaseBundle.Shell.Format
import ReleaseBundle.Shell.Programs.Lines

/-!
# Programs on text

Printing texts and parts of them, counting, sorting and changing them line by line or character by
character.
-/

namespace ReleaseBundle.Shell.Programs

open Act

/-! ## Whole texts -/

/-- How a character is shown where it cannot be printed. -/
def visibleChar (tabs : Bool) (c : Char) : String :=
  let n := c.toNat
  if c = '\n' then "\n"
  else if c = '\t' then (if tabs then "^I" else "\t")
  else if n < 32 then "^" ++ (Char.ofNat (n + 64)).toString
  else if n < 127 then c.toString
  else if n = 127 then "^?"
  else if n < 160 then "M-^" ++ (Char.ofNat (n - 64)).toString
  else if n < 255 then "M-" ++ (Char.ofNat (n - 128)).toString
  else "M-^?"

/-- Changes a text as the options of `cat` say. The number of the next line goes on over texts. -/
def decorated (a : Arguments) (number : Nat) (t : String) : String × Nat :=
  let squeezes := a.has 's'
  let step (s : List String × Nat × Nat) (line : String) : List String × Nat × Nat :=
    let (sofar, number, blanks) := s
    let blanks' := if line = "" then blanks + 1 else 0
    if squeezes && blanks' > 1 then (sofar, number, blanks')
    else
      let isNumbered := if a.has 'b' then line != "" else a.has 'n'
      let shown := if a.hasAny "vAet" then String.join (line.toList.map (visibleChar (a.hasAny "AtT")))
        else if a.has 'T' then String.join (line.toList.map fun c => if c = '\t' then "^I" else c.toString)
        else line
      let head := if isNumbered then rightAligned 6 (toString number) ++ "\t" else ""
      ((head ++ shown) :: sofar, if isNumbered then number + 1 else number, blanks')
  let (ls, number, _) := (linesOf t).foldl step ([], number, 0)
  let ending := if a.hasAny "EAe" then "$\n" else "\n"
  let body := ending.intercalate ls.reverse
  (if ls.isEmpty then "" else if isOpen t then body else body ++ ending, number)

def concatenate : Program :=
  let m : Manual :=
    { program := "cat", flags := "AbeEnstTuv"
      long := [("number", 'n'), ("number-nonblank", 'b'), ("show-ends", 'E'), ("show-all", 'A'),
        ("squeeze-blank", 's'), ("show-tabs", 'T'), ("show-nonprinting", 'v')] }
  m.run fun a => do
    let operands := if a.operands.isEmpty then ["-"] else a.operands
    let output ← handle? 1
    if output.isNone then return ← m.failed ("standard output: " ++ reason (.numbered 9))
    let (status, _) ← operands.foldlM
      (fun (worst, number) t => do
        let isOwnOutput ← do
          let s ← get
          match output.bind fun n => s.handles.lookup n, s.disk.stat (pathOf t) with
          | some h, .ok (_, .file f) =>
            pure (t != "-" && h.target == .file f && !(s.disk.data f).content.isEmpty)
          | _, _ => pure false
        if isOwnOutput then return (max worst (← m.failed (t ++ ": input file is output file")), number)
        else
          match ← inputOf t with
          | .error fault => do
            let status ← refused m t fault
            if t = "-" && fault = .numbered 9 then m.complain ("closing standard input: " ++ reason fault)
            return (max worst status, number)
          | .ok text =>
            let (shown, number) := if a.options.isEmpty then (text, number) else decorated a number text
            match ← write 1 (bytesOf shown) with
            | none => return (worst, number)
            | some fault => do
              m.complain ("write error: " ++ reason fault)
              return (1, number))
      ((0 : Nat), (1 : Nat))
    return status

/-- A first option that is a number stands for the option of lines. -/
def withNumberOption (isSigned : Bool) : List String → List String
  | [] => []
  | a :: rest =>
    let option (cs : List Char) (sign : String) : Option String :=
      let ds := cs.takeWhile Char.isDigit
      if ds.isEmpty then none
      else
        match cs.drop ds.length with
        | [] | ['l'] => some ("-n" ++ sign ++ String.ofList ds)
        | ['c'] => some ("-c" ++ sign ++ String.ofList ds)
        | _ => none
    let found := match a.toList with
      | '-' :: cs => option cs ""
      | '+' :: cs => if isSigned then option cs "+" else none
      | _ => none
    found.getD a :: rest

/-- Prints the parts of texts that `head` and `tail` show, with names over them. -/
def showParts (m : Manual) (a : Arguments) (part : String → String) : Act Nat := do
  let operands := if a.operands.isEmpty then ["-"] else a.operands
  let headed := (a.last? "qv" == some 'v') || (operands.length > 1 && a.last? "qv" != some 'q')
  let (status, _) ← operands.foldlM
    (fun (worst, first) t => do
      let name := if t = "-" then "standard input" else t
      let head : Act Unit := do
        if headed then print ((if first then "" else "\n") ++ "==> " ++ name ++ " <==\n")
      match ← inputOf t with
      | .ok text => do
        head
        print (part text)
        return (worst, false)
      | .error (.os .isDirectory) => do
        head
        m.complain ("error reading " ++ quoted t ++ ": " ++ reason (.os .isDirectory))
        return (1, false)
      | .error fault => do
        m.complain ("cannot open " ++ quoted t ++ " for reading: " ++ reason fault)
        return (1, first))
    ((0 : Nat), true)
  return status

/-- The first lines of a text. -/
def firstLines (n : Nat) (t : String) : String :=
  let ls := linesOf t
  if ls.length ≤ n then t else unlines (ls.take n)

/-- A text without its first lines. -/
def withoutLines (n : Nat) (t : String) : String := unlinesLike t ((linesOf t).drop n)

def head : Program := fun args =>
  let m : Manual :=
    { program := "head", flags := "qvz", valued := "nc"
      long := [("lines", 'n'), ("bytes", 'c'), ("quiet", 'q'), ("silent", 'q'), ("verbose", 'v')] }
  m.run
    (fun a => do
      let option := (a.last? "nc").getD 'n'
      let text := (a.value? option).getD "10"
      let (back, digits) := match text.toList with
        | '-' :: cs => (true, String.ofList cs)
        | _ => (false, text)
      match countOf? digits with
      | none =>
        m.failed ("invalid number of " ++ (if option = 'c' then "bytes" else "lines") ++ ": " ++ cited digits)
      | some n =>
        let part (t : String) : String :=
          if option = 'c' then String.ofList (t.toList.take (if back then t.length - n else n))
          else if back then firstLines ((linesOf t).length - n) t
          else firstLines n t
        showParts m a part)
    (withNumberOption false args)

def tail : Program := fun args => do
  let m : Manual :=
    { program := "tail", flags := "qvzfF", valued := "ncs"
      long := [("lines", 'n'), ("bytes", 'c'), ("quiet", 'q'), ("silent", 'q'), ("verbose", 'v'), ("follow", 'f')] }
  let changed := withNumberOption true args
  let isShort := changed != args && ((args.headD "").startsWith "-")
  if isShort && 2 < args.length then
    m.failed ("option used in invalid context -- " ++ ((args.headD "").drop 1).toString)
  else
    let work (a : Arguments) : Act Nat := do
      let option := (a.last? "nc").getD 'n'
      let text := (a.value? option).getD "10"
      let (fromStart, digits) := match text.toList with
        | '+' :: cs => (true, String.ofList cs)
        | '-' :: cs => (false, String.ofList cs)
        | _ => (false, text)
      match countOf? digits with
      | none =>
        m.failed ("invalid number of " ++ (if option = 'c' then "bytes" else "lines") ++ ": " ++ cited digits)
      | some n =>
        let part (t : String) : String :=
          if option = 'c' then String.ofList (t.toList.drop (if fromStart then n - 1 else t.length - n))
          else withoutLines (if fromStart then n - 1 else (linesOf t).length - n) t
        showParts m a part
    m.run work changed

/-! ## Counting -/

/-- How many words a text has. -/
def wordCount (t : String) : Nat :=
  (t.toList.splitBy fun a b => Arithmetic.isSpace a == Arithmetic.isSpace b).countP fun run =>
    run.any fun c => !Arithmetic.isSpace c

def wordCounts : Program :=
  let m : Manual :=
    { program := "wc", flags := "lwcmL"
      long := [("lines", 'l'), ("words", 'w'), ("bytes", 'c'), ("chars", 'm'), ("max-line-length", 'L')] }
  m.run fun a => do
    let shown := if a.options.isEmpty then "lwc".toList else "lwmcL".toList.filter a.has
    let counts (t : String) : List Nat := shown.map fun c =>
      match c with
      | 'l' => t.toList.count '\n'
      | 'w' => wordCount t
      | 'L' => ((linesOf t).map String.length).foldl max 0
      | _ => t.length
    let operands := if a.operands.isEmpty then [none] else a.operands.map some
    let isRegular (t : Option String) : Act Bool := do
      let s ← get
      match t with
      | none | some "-" =>
        match (s.process.descriptors.lookup 0).bind fun n => s.handles.lookup n with
        | some ⟨.file _, _, _, _, _⟩ => return true
        | _ => return false
      | some t => return !(s.disk.isDirectory (pathOf t))
    let (regularSize, allRegular) ← operands.foldlM
      (fun (size, all) t => do
        let regular ← isRegular t
        let own ← match t with
          | some t => do
            match ← look fun d => d.stat (pathOf t) with
            | .ok (_, .file n) => look fun d => (d.data n).content.length
            | _ => pure 0
          | none => do
            let s ← get
            match (s.process.descriptors.lookup 0).bind fun n => s.handles.lookup n with
            | some h =>
              match h.target with
              | .file n => pure (s.disk.data n).content.length
              | _ => pure 0
            | none => pure 0
        return (size + own, all && regular))
      (0, true)
    let width := if operands.length = 1 && shown.length = 1 then 1
      else max (if allRegular then 1 else 7) (toString regularSize).length
    let line (ns : List Nat) (name : String) : String :=
      " ".intercalate (ns.map fun n => rightAligned width (toString n)) ++ name ++ "\n"
    let (status, total) ← operands.foldlM
      (fun (worst, total) t => do
        let name := match t with
          | some t => " " ++ t
          | none => ""
        if t = some "" then
          m.complain "invalid zero-length file name"
          return (1, total)
        match ← inputOf (t.getD "-") with
        | .ok text => do
          let ns := counts text
          print (line ns name)
          return (worst, List.zipWith (· + ·) total ns)
        | .error fault => do
          m.complain ((t.elim "'standard input'" quotedIfNeeded) ++ ": " ++ reason fault)
          if fault = .os .isDirectory || t.getD "-" = "-" then print (line (shown.map fun _ => 0) name)
          if t.getD "-" = "-" then m.complain ("-: " ++ reason fault)
          return (1, total))
      ((0 : Nat), shown.map fun _ => 0)
    if operands.length > 1 then print (line total " total")
    return status

/-! ## Sorting -/

/-- The number at the start of a text, times a thousand to keep three places. -/
def leadingNumber (t : String) : Int :=
  let cs := t.toList.dropWhile fun c => c == ' ' || c == '\t'
  let (negative, cs) := match cs with
    | '-' :: cs => (true, cs)
    | cs => (false, cs)
  let whole := cs.takeWhile Char.isDigit
  let places := match cs.drop whole.length with
    | '.' :: ds => (ds.takeWhile Char.isDigit).take 9
    | _ => []
  let digits := whole ++ places ++ List.replicate (9 - places.length) '0'
  let n : Int := digits.foldl (fun n c => 10 * n + (c.toNat - 48)) 0
  if negative then -n else n

/-- A key of a sort: fields from one to another, where characters may be left out at the start, and how they
are compared. -/
structure SortKey where
  start : Nat
  startChar : Nat
  stop : Option (Nat × Nat)
  letters : List Char

/-- Reads a place in a key: the field, the character in it, and letters. -/
def keyPlace? (t : String) : Option (Nat × Nat × List Char) :=
  let ds := t.toList.takeWhile Char.isDigit
  let rest := t.toList.drop ds.length
  let (cs, letters) := match rest with
    | '.' :: more => (more.takeWhile Char.isDigit, more.dropWhile Char.isDigit)
    | letters => ([], letters)
  match (String.ofList ds).toNat? with
  | some n => some (n, ((String.ofList cs).toNat?).getD 0, letters)
  | none => none

def sortKey? (t : String) : Option SortKey :=
  match t.splitOn "," with
  | [a] => (keyPlace? a).map fun (f, c, l) => ⟨f, max 1 c, none, l⟩
  | [a, b] =>
    match keyPlace? a, keyPlace? b with
    | some (f, c, l), some (g, e, k) => some ⟨f, max 1 c, some (g, e), l ++ k⟩
    | _, _ => none
  | _ => none

/-- The fields of a line: between separators, or else with the blanks in front of them. -/
def sortFields (separator : Option Char) (line : String) : List (List Char) :=
  match separator with
  | some c => (line.toList.splitOn c)
  | none =>
    let isBlank (c : Char) := c == ' ' || c == '\t'
    let runs := line.toList.splitBy fun a b => !(isBlank b && !isBlank a)
    runs

/-- The text of a key in a line. -/
def keyText (separator : Option Char) (k : SortKey) (line : String) : String :=
  let fs := sortFields separator line
  let glue := match separator with
    | some c => [c]
    | none => []
  let until_ := match k.stop with
    | some (g, 0) => fs.take g
    | some (g, e) => fs.take (g - 1) ++ [(fs.getD (g - 1) []).take e]
    | none => fs
  let cs := glue.intercalate (until_.drop (k.start - 1))
  String.ofList (cs.drop (k.startChar - 1))

/-- Compares two texts as letters ask: less, equal or greater. -/
def compareAs (letters : List Char) (x y : String) : Ordering :=
  let fold (t : String) : String :=
    let cs := if letters.contains 'b' then t.toList.dropWhile fun c => c == ' ' || c == '\t' else t.toList
    let cs := if letters.contains 'd' then cs.filter fun c => c.isAlphanum || c == ' ' || c == '\t' else cs
    String.ofList (if letters.contains 'f' then cs.map Char.toUpper else cs)
  let o := if letters.contains 'n' || letters.contains 'g' || letters.contains 'h' then
      compare (leadingNumber x) (leadingNumber y)
    else compare (fold x) (fold y)
  if letters.contains 'r' then o.swap else o

def sortManual : Manual :=
  { program := "sort", flags := "bdfgiMhnRrVcCmsuz", valued := "kotTS", misuse := 2
    long := [("reverse", 'r'), ("numeric-sort", 'n'), ("unique", 'u'), ("key", 'k'), ("output", 'o'),
      ("field-separator", 't'), ("stable", 's'), ("ignore-case", 'f'), ("check", 'c'), ("zero-terminated", 'z'),
      ("version-sort", 'V'), ("general-numeric-sort", 'g'), ("human-numeric-sort", 'h'), ("ignore-leading-blanks", 'b')] }

def sort : Program :=
  let m := sortManual
  m.run fun a => do
    let letters := "bdfgnhr".toList.filter a.has
    if let some t := (a.value? 't').filter fun t => t != "\\0" && t.length != 1 then
      let _ ← m.failed (if t = "" then "empty tab" else "multi-character tab " ++ cited t)
      return 2
    let separator := (a.value? 't').bind fun t =>
      if t = "\\0" then some '\x00' else t.toList.head?
    match (a.values 'k').mapM sortKey? with
    | none => do
      let _ ← m.failed ("invalid number at field start: invalid count at start of " ++ cited ((a.value? 'k').getD ""))
      return 2
    | some keys =>
      let byKeys (x y : String) : Ordering :=
        if keys.isEmpty then compareAs letters x y
        else
          keys.foldl
            (fun (o : Ordering) k =>
              o.then (compareAs (if k.letters.isEmpty then letters else k.letters) (keyText separator k x)
                (keyText separator k y)))
            .eq
      let whole (x y : String) : Ordering :=
        if a.has 's' || a.has 'u' then .eq else if a.has 'r' then (compare x y).swap else compare x y
      let inOrder (x y : String) : Bool := (byKeys x y).then (whole x y) != .gt
      let d := (← get).disk
      let refusal := a.operands.findSome? fun t =>
        if t = "-" then none
        else
          match d.openPath (pathOf t) with
          | .error fault => some (t, fault)
          | .ok _ => none
      if let some (t, fault) := refusal then
        m.complain ("cannot read: " ++ quotedIfNeeded t ++ ": " ++ reason fault)
        return 2
      let (text, status) ← allInputs a.operands fun t fault => do
        m.complain ("read failed: " ++ quotedIfNeeded t ++ ": " ++ reason fault)
        return 2
      if status != 0 then return status
      else
        let ls := linesOf text
        if a.hasAny "cC" then
          let pairs := ls.zip ls.tail
          match pairs.findIdx? fun (x, y) => !(inOrder x y) || (a.has 'u' && byKeys x y == .eq) with
          | none => return 0
          | some i => do
            if a.has 'c' then
              m.complain ((a.operands.headD "-") ++ ":" ++ toString (i + 2) ++ ": disorder: " ++ ls.getD (i + 1) "")
            return 1
        else
          let sorted := ls.mergeSort inOrder
          let kept := if a.has 'u' then
              (sorted.foldl
                (fun (sofar : List String) l =>
                  match sofar with
                  | k :: _ => if byKeys k l == .eq then sofar else l :: sofar
                  | [] => [l])
                []).reverse
            else sorted
          match a.value? 'o' with
          | none => do
            print (unlines kept)
            return 0
          | some path =>
            match ← Act.openPath path .write false with
            | .error fault => do
              m.complain ("open failed: " ++ quotedIfNeeded path ++ ": " ++ reason fault)
              return 2
            | .ok output => do
              let _ ← writeHandle output (bytesOf (unlines kept))
              return 0

def unique : Program :=
  let m : Manual :=
    { program := "uniq", flags := "cduiDz", valued := "fsw"
      long := [("count", 'c'), ("repeated", 'd'), ("unique", 'u'), ("ignore-case", 'i'), ("skip-fields", 'f'),
        ("skip-chars", 's'), ("check-chars", 'w'), ("all-repeated", 'D')] }
  m.run fun a => do
    let number (c : Char) : Option Nat := (a.value? c).bind String.toNat?
    let isBlank (c : Char) := c == ' ' || c == '\t'
    let rec skip (cs : List Char) : Nat → List Char
      | 0 => cs
      | n + 1 => skip ((cs.dropWhile isBlank).dropWhile fun c => !isBlank c) n
    let key (l : String) : String :=
      let cs := (skip l.toList ((number 'f').getD 0)).drop ((number 's').getD 0)
      let cs := match number 'w' with
        | some n => cs.take n
        | none => cs
      String.ofList (if a.has 'i' then cs.map Char.toLower else cs)
    match a.operands with
    | _ :: _ :: extra :: _ => m.misused ("extra operand " ++ cited extra)
    | operands =>
      match ← inputOf (operands.headD "-") with
      | .error fault => refused m (operands.headD "-") fault
      | .ok text =>
        let groups := (linesOf text).splitBy fun x y => key x == key y
        let chosen := groups.filter fun g =>
          if a.hasAny "dD" then g.length > 1 else if a.has 'u' then g.length = 1 else true
        let shown := chosen.flatMap fun g =>
          if a.has 'D' then g
          else if a.has 'c' then [rightAligned 7 (toString g.length) ++ " " ++ g.headD ""]
          else g.take 1
        match operands[1]? with
        | none => do
          print (unlines shown)
          return 0
        | some path =>
          match ← Act.openPath path .write false with
          | .error fault => refused m path fault
          | .ok output => do
            let _ ← writeHandle output (bytesOf (unlines shown))
            return 0

/-! ## Parts of lines -/

/-- A list of ranges: from where, and to where if there is an end. -/
abbrev Ranges := List (Nat × Option Nat)

def Ranges.contains (rs : Ranges) (n : Nat) : Bool :=
  rs.any fun (a, b) => a ≤ n && (match b with
    | some b => n ≤ b
    | none => true)

/-- Reads a list of ranges, or answers what is wrong with it. -/
def ranges? (isFields : Bool) (t : String) : Except String Ranges :=
  let what := if isFields then "field" else "byte/character position"
  let plural := if isFields then "fields are numbered from 1" else "byte/character positions are numbered from 1"
  let number (u : String) : Except String Nat :=
    match u.toNat? with
    | some 0 => .error plural
    | some n => .ok n
    | none =>
      .error ((if isFields then "invalid field value " else "invalid byte/character position ") ++ cited u)
  (t.splitOn ",").mapM fun part =>
    match part.splitOn "-" with
    | [u] => (number u).map fun n => (n, some n)
    | ["", ""] => .error "invalid range with no endpoint: -"
    | [u, ""] => (number u).map fun n => (n, none)
    | ["", v] => (number v).map fun n => (1, some n)
    | [u, v] => do
      let a ← number u
      let b ← number v
      if b < a then .error "invalid decreasing range" else return (a, some b)
    | _ => .error ("invalid " ++ what ++ " range")

def cut : Program :=
  let m : Manual :=
    { program := "cut", flags := "snz-", valued := "bcfdO"
      long := [("fields", 'f'), ("bytes", 'b'), ("characters", 'c'), ("delimiter", 'd'), ("only-delimited", 's'),
        ("output-delimiter", 'O'), ("complement", '-')] }
  m.run fun a => do
    match (a.options.filter fun o => "bcf".contains o.1) with
    | [] => m.misused "you must specify a list of bytes, characters, or fields"
    | [(kind, list)] =>
      match ranges? (kind = 'f') list with
      | .error problem => m.misused problem
      | .ok rs =>
        let delimiterText := (a.value? 'd').getD "\t"
        if delimiterText.length > 1 then m.misused "the delimiter must be a single character"
        else if kind != 'f' && (a.value? 'd').isSome then
          m.misused "an input delimiter may be specified only when operating on fields"
        else if kind != 'f' && a.has 's' then
          m.misused "suppressing non-delimited lines makes sense\n\tonly when operating on fields"
        else
          let delimiter := (delimiterText.toList.head?).getD '\x00'
          let wanted (n : Nat) : Bool := rs.contains n != a.has '-'
          let pick {α : Type} (xs : List α) : List α :=
            (xs.zipIdx.filter fun (_, i) => wanted (i + 1)).map Prod.fst
          let line (l : String) : Option String :=
            if kind = 'f' then
              let fs := l.toList.splitOn delimiter
              if fs.length < 2 then (if a.has 's' then none else some l)
              else
                let glue := (a.value? 'O').getD delimiter.toString
                some (glue.intercalate ((pick fs).map String.ofList))
            else some (String.ofList (pick l.toList))
          forInputs a.operands (refused m) fun _ text => do
            print (unlines ((linesOf text).filterMap line))
            return 0
    | _ => m.misused "only one list may be specified"

/-! ## Characters -/

/-- The characters of a set of `tr`, in order. -/
def charSet (limit : Nat) (cs : List Char) : Except String (List Char) :=
  match limit, cs with
  | 0, _ => .ok []
  | _, [] => .ok []
  | n + 1, '[' :: ':' :: more =>
    let name := more.takeWhile Char.isAlpha
    match more.drop name.length, Wildcard.class? (String.ofList name) with
    | ':' :: ']' :: rest, some isIn => do
      let others ← charSet n rest
      return ((List.range 256).map Char.ofNat).filter isIn ++ others
    | _, _ => do
      let others ← charSet n (':' :: more)
      return '[' :: others
  | n + 1, cs =>
    let one (cs : List Char) : Char × List Char :=
      match cs with
      | '\\' :: c :: rest =>
        let ds := ((c :: rest).take 3).takeWhile fun c => '0' ≤ c && c ≤ '7'
        if ds.isEmpty then
          (match c with
            | 'n' => '\n'
            | 't' => '\t'
            | 'r' => '\r'
            | 'a' => '\x07'
            | 'b' => '\x08'
            | 'f' => '\x0c'
            | 'v' => '\x0b'
            | c => c, rest)
        else (Char.ofNat (ds.foldl (fun n c => 8 * n + (c.toNat - 48)) 0 % 256), (c :: rest).drop ds.length)
      | c :: rest => (c, rest)
      | [] => ('\x00', [])
    let (first, rest) := one cs
    match rest with
    | '-' :: e :: more =>
      let (last, rest) := one (e :: more)
      if last < first then
        .error ("range-endpoints of '" ++ first.toString ++ "-" ++ last.toString ++
          "' are in reverse collating sequence order")
      else do
        let others ← charSet n rest
        return (List.range (last.toNat - first.toNat + 1)).map (fun i => Char.ofNat (first.toNat + i)) ++ others
    | rest => do
      let others ← charSet n rest
      return first :: others

/-- A set that is filled up: the character in `[x*]` as often as it takes. -/
def filledSet (length : Nat) (t : String) : Except String (List Char) :=
  match t.toList.reverse with
  | ']' :: '*' :: c :: '[' :: before => do
    let first ← charSet t.length before.reverse
    return first ++ List.replicate (length - first.length) c
  | _ => charSet (t.length + 1) t.toList

def translate : Program :=
  let m : Manual :=
    { program := "tr", flags := "cCdst", mixed := false
      long := [("complement", 'c'), ("delete", 'd'), ("squeeze-repeats", 's'), ("truncate-set1", 't')] }
  m.run fun a => do
    match a.operands with
    | [] => m.misused "missing operand"
    | [t] =>
      if a.has 'd' && a.has 's' then do
        m.complain ("missing operand after " ++ cited t)
        Act.complain "Two strings must be given when both deleting and squeezing repeats."
        Act.complain "Try 'tr --help' for more information."
        return 1
      else if a.has 'd' || a.has 's' then work m a t none
      else do
        m.complain ("missing operand after " ++ cited t)
        Act.complain "Two strings must be given when translating."
        Act.complain "Try 'tr --help' for more information."
        return 1
    | [t, u] =>
      if a.has 'd' && !(a.has 's') then do
        m.complain ("extra operand " ++ cited u)
        Act.complain "Only one string may be given when deleting without squeezing repeats."
        Act.complain "Try 'tr --help' for more information."
        return 1
      else work m a t (some u)
    | _ :: _ :: u :: _ => m.misused ("extra operand " ++ cited u)
where
  /-- Translates, removes and squeezes characters. -/
  work (m : Manual) (a : Arguments) (t : String) (u : Option String) : Act Nat := do
    let isLoose (t : String) : Bool := (t.toList.reverse.takeWhile (· == '\\')).length % 2 == 1
    if isLoose t || isLoose (u.getD "") then
      m.complain "warning: an unescaped backslash at end of string is not portable"
    match charSet (t.length + 1) t.toList with
    | .error e => m.failed e
    | .ok given =>
      let complement := a.hasAny "cC"
      let first := if complement then ((List.range 256).map Char.ofNat).filter fun c => !given.contains c else given
      match filledSet first.length (u.getD "") with
      | .error e => m.failed e
      | .ok second =>
        match ← readAll 0 with
        | .error fault => m.failed ("read error: " ++ reason fault)
        | .ok bytes => do
          let cs := (textOf bytes).toList
          let deletes := a.has 'd'
          let translates := u.isSome && !deletes
          if translates && second.isEmpty then m.failed "when not truncating set1, string2 must be non-empty"
          else
            let last := second.getLast?.getD '\x00'
            let pairs := (first.zipIdx.map fun (c, i) => (c, second.getD i last)).reverse
            let pairs := if a.has 't' then (first.zip second).reverse else pairs
            let kept := if deletes then cs.filter fun c => !first.contains c else cs
            let changed := if translates then kept.map fun c => (pairs.lookup c).getD c else kept
            let squeezed := if translates || deletes then second else first
            let result := if a.has 's' then
                (changed.splitBy fun x y => x == y && squeezed.contains x).map fun g =>
                  g.headD '\x00'
              else changed
            print (String.ofList result)
            return 0

def tee : Program :=
  let m : Manual :=
    { program := "tee", flags := "aip", long := [("append", 'a'), ("ignore-interrupts", 'i')] }
  m.run fun a => do
    let opened ← a.operands.mapM fun t => do
      match ← Act.openPath t (if a.has 'a' then .append else .write) false with
      | .ok output => return some output
      | .error fault => do
        m.complain (quotedIfNeeded t ++ ": " ++ reason fault)
        return none
    match ← readAll 0 with
    | .error fault => m.failed ("read error: " ++ reason fault)
    | .ok content => do
      let lost ← write 1 content
      if let some fault := lost then m.complain ("'standard output': " ++ reason fault)
      opened.forM fun output => do
        if let some output := output then
          let _ ← writeHandle output content
      return if lost.isNone && opened.all Option.isSome then 0 else 1

/-! ## Lines in another order or shape -/

def numberLines : Program :=
  let m : Manual := { program := "nl", flags := "p", valued := "bwsnvi" }
  m.run fun a => do
    let width := ((a.value? 'w').bind String.toNat?).getD 6
    if let some t := (a.value? 'w').filter fun t => (t.toNat?.filter (0 < ·)).isNone then
      return ← m.failed ("invalid line number field width: " ++ cited t)
    let separator := (a.value? 's').getD "\t"
    let all := a.value? 'b' = some "a"
    let step := ((a.value? 'i').bind String.toNat?).getD 1
    let first := ((a.value? 'v').bind String.toNat?).getD 1
    let (text, status) ← allInputs a.operands (refused m)
    let (shown, _) := (linesOf text).foldl
      (fun (sofar, n) l =>
        if all || l != "" then
          let digits := toString n
          let padded := match a.value? 'n' with
            | some "ln" => digits ++ String.ofList (List.replicate (width - digits.length) ' ')
            | some "rz" => String.ofList (List.replicate (width - digits.length) '0') ++ digits
            | _ => rightAligned width digits
          ((padded ++ separator ++ l) :: sofar, n + step)
        else ((String.ofList (List.replicate (width + separator.length) ' ') ++ l) :: sofar, n))
      (([] : List String), first)
    print (unlines shown.reverse)
    return status

def reverseLines : Program :=
  let m : Manual := { program := "tac", flags := "b", valued := "s" }
  m.run fun a =>
    forInputs a.operands
      (fun t fault => m.failed ("failed to open " ++ quoted t ++ " for reading: " ++ reason fault))
      fun _ text => do
        let ls := linesOf text
        let ended := ls.map (· ++ "\n")
        let all := if isOpen text then ended.dropLast ++ [ls.getLast?.getD ""] else ended
        print (String.join all.reverse)
        return 0

def reverseChars : Program :=
  let m : Manual := { program := "rev", flags := "" }
  m.run fun a =>
    forInputs a.operands
      (fun t fault => m.failed ("cannot open " ++ t ++ ": " ++ reason fault))
      fun _ text => do
        print (unlinesLike text ((linesOf text).map fun l => String.ofList l.toList.reverse))
        return 0

def paste : Program :=
  let m : Manual := { program := "paste", flags := "sz", valued := "d", long := [("serial", 's'), ("delimiters", 'd')] }
  m.run fun a => do
    let operands := if a.operands.isEmpty then ["-"] else a.operands
    let given := (a.value? 'd').getD "\t"
    let unescaped := (given.replace "\\n" "\n").replace "\\t" "\t"
    let delimiters := unescaped.toList
    let delimiter (i : Nat) : String :=
      if delimiters.isEmpty then "" else (delimiters.getD (i % delimiters.length) '\t').toString
    let rec joinAll (i : Nat) : List String → String
      | [] => ""
      | [l] => l
      | l :: ls => l ++ delimiter i ++ joinAll (i + 1) ls
    let dashes := operands.count "-"
    let input ← if dashes > 0 then inputOf "-" else pure (.ok "")
    let inputLines := match input with
      | .ok t => linesOf t
      | .error _ => []
    let unreadable ← operands.findSomeM? fun t => do
      if t = "-" then return none
      match ← look fun d => d.stat (pathOf t) with
      | .error fault => return some (t, fault)
      | .ok _ => return none
    if let some (t, fault) := unreadable.filter fun _ => !a.has 's' then return ← refused m t fault
    let texts ← operands.zipIdx.mapM fun (t, i) => do
      if t = "-" then
        let own := ((operands.take i).count "-")
        return some ((inputLines.zipIdx.filter fun (_, k) => a.has 's' || k % dashes = own).map Prod.fst)
      else
        match ← inputOf t with
        | .ok text => return some (linesOf text)
        | .error fault => do
          let _ ← refused m t fault
          return none
    match texts.mapM id with
    | none => return 1
    | some lists => do
      if a.has 's' then print (unlines (lists.map (joinAll 0)))
      else
        let height := (lists.map List.length).foldl max 0
        print (unlines ((List.range height).map fun i => joinAll 0 (lists.map fun l => l.getD i "")))
      return 0

def fold : Program :=
  let m : Manual := { program := "fold", flags := "bs", valued := "w", long := [("width", 'w')] }
  let rec pieces (width : Nat) (cs : List Char) : Nat → List String
    | 0 => [String.ofList cs]
    | n + 1 => if cs.length ≤ width then [String.ofList cs]
      else String.ofList (cs.take width) :: pieces width (cs.drop width) n
  m.run fun a => do
    if let some t := (a.value? 'w').filter fun t => (t.toNat?.filter (0 < ·)).isNone then
      return ← m.failed ("invalid number of columns: " ++ cited t)
    let width := max 1 (((a.value? 'w').bind String.toNat?).getD 80)
    forInputs a.operands (refused m) fun _ text => do
      print (unlinesLike text ((linesOf text).flatMap fun l => pieces width l.toList l.length))
      return 0

/-- A number with places behind the point, as its digits without the point. -/
def decimalOf? (t : String) : Option (Int × Nat) :=
  let (negative, cs) := match t.toList with
    | '-' :: cs => (true, cs)
    | '+' :: cs => (false, cs)
    | cs => (false, cs)
  let whole := cs.takeWhile Char.isDigit
  let places? := match cs.drop whole.length with
    | [] => some []
    | '.' :: ds => if ds.all Char.isDigit then some ds else none
    | _ => none
  match places? with
  | some places =>
    if whole.isEmpty && places.isEmpty then none
    else
      let n : Int := (whole ++ places).foldl (fun n c => 10 * n + (c.toNat - 48)) 0
      some (if negative then -n else n, places.length)
  | none => none

/-- A number with places behind the point as text. -/
def decimalText (places : Nat) (n : Int) : String :=
  let digits := toString n.natAbs
  let padded := String.ofList (List.replicate (places + 1 - digits.length) '0') ++ digits
  let whole := padded.toList.take (padded.length - places)
  let rest := padded.toList.drop (padded.length - places)
  (if n < 0 then "-" else "") ++ String.ofList whole ++ (if places = 0 then "" else "." ++ String.ofList rest)

/-- How many numbers a sequence may have. -/
def longestSequence : Nat := 1000000

def sequence : Program := fun args => do
  let m : Manual := { program := "seq", flags := "w", valued := "sf", mixed := false
                      long := [("separator", 's'), ("equal-width", 'w'), ("format", 'f')] }
  let isNegative (t : String) : Bool := match t.toList with
    | '-' :: c :: _ => c.isDigit || c == '.'
    | _ => false
  let options := args.takeWhile fun t => t.startsWith "-" && !isNegative t && t != "--"
  let args := if ((args.drop options.length).head?.map isNegative) = some true then
      options ++ "--" :: args.drop options.length
    else args
  m.run
    (fun a => do
      match a.operands with
      | [] => m.misused "missing operand"
      | _ :: _ :: _ :: extra :: _ => m.misused ("extra operand " ++ cited extra)
      | operands =>
        match operands.find? fun t => (decimalOf? t).isNone with
        | some t => m.misused ("invalid floating point argument: " ++ cited t)
        | none =>
          let numbers := operands.filterMap decimalOf?
          let places := (if operands.length = 1 then [0] else numbers.dropLast.map Prod.snd).foldl max 0
          let scale := (numbers.map Prod.snd).foldl max 0
          let scaled := numbers.map fun (n, p) => n * Nat.pow 10 (scale - p)
          let unit : Int := Nat.pow 10 scale
          let (first, step, last) := match scaled with
            | [c] => (unit, unit, c)
            | [a, c] => (a, unit, c)
            | [a, b, c] => (a, b, c)
            | _ => (0, unit, 0)
          if let some f := (a.value? 'f').filter fun f => !f.contains '%' then
            return ← m.failed ("format " ++ cited f ++ " has no % directive")
          if step = 0 then m.misused ("invalid Zero increment value: " ++ cited (operands.getD 1 "0"))
          else
            let count := if step > 0 then (last - first).fdiv step + 1 else (first - last).fdiv (-step) + 1
            let values := (List.range (min longestSequence count.toNat)).map fun (i : Nat) => first + step * i
            let texts := values.map fun v => decimalText places (v / Nat.pow 10 (scale - places))
            let width := (texts.map String.length).foldl max 0
            let widened (t : String) : String :=
              let zeros := String.ofList (List.replicate (width - t.length) '0')
              if t.startsWith "-" then "-" ++ zeros ++ String.ofList (t.toList.drop 1) else zeros ++ t
            let shown := if a.has 'w' then texts.map widened else texts
            let shown := match a.value? 'f' with
              | some format => texts.map fun t =>
                String.ofList (Format.filled (format.replace "g" "d") [t]).text.reverse
              | none => shown
            if shown.isEmpty then return 0
            else do
              print (((a.value? 's').getD "\n").intercalate shown ++ "\n")
              return 0)
    args

/-! ## Other forms -/

def digits64 : List Char :=
  "ABCDEFGHIJKLMNOPQRSTUVWXYZabcdefghijklmnopqrstuvwxyz0123456789+/".toList

/-- Bytes as digits of base 64. -/
def encode64 : Bytes → List Char
  | a :: b :: c :: rest =>
    let n := a.toNat * 65536 + b.toNat * 256 + c.toNat
    [n / 262144, n / 4096 % 64, n / 64 % 64, n % 64].map (digits64.getD · 'A') ++ encode64 rest
  | [a, b] =>
    let n := a.toNat * 65536 + b.toNat * 256
    [n / 262144, n / 4096 % 64, n / 64 % 64].map (digits64.getD · 'A') ++ ['=']
  | [a] =>
    let n := a.toNat * 65536
    [n / 262144, n / 4096 % 64].map (digits64.getD · 'A') ++ ['=', '=']
  | [] => []

/-- The bytes that digits of base 64 stand for. -/
def decode64 : List Nat → Bytes
  | a :: b :: c :: d :: rest =>
    let n := a * 262144 + b * 4096 + c * 64 + d
    [n / 65536, n / 256 % 256, n % 256].map UInt8.ofNat ++ decode64 rest
  | [a, b, c] => let n := a * 262144 + b * 4096 + c * 64; [n / 65536, n / 256 % 256].map UInt8.ofNat
  | [a, b] => [UInt8.ofNat ((a * 262144 + b * 4096) / 65536)]
  | _ => []

def base64 : Program :=
  let m : Manual := { program := "base64", flags := "di", valued := "w", long := [("decode", 'd'), ("wrap", 'w')] }
  m.run fun a => do
    if let some t := (a.value? 'w').filter fun t => t.toNat?.isNone then
      return ← m.failed ("invalid wrap size: " ++ cited t)
    if let some extra := a.operands[1]? then return ← m.misused ("extra operand " ++ cited extra)
    let t := a.operands.headD "-"
    match ← inputOf t with
    | .error fault => refused m t fault
    | .ok text => do
      if a.has 'd' then
        let values := text.toList.filterMap fun c => digits64.idxOf? c
        let _ ← write 1 (decode64 values)
      else
        let width := ((a.value? 'w').bind String.toNat?).getD 76
        let cs := encode64 (bytesOf text)
        let rec rows (cs : List Char) : Nat → List String
          | 0 => []
          | n + 1 => if cs.isEmpty then [] else String.ofList (cs.take width) :: rows (cs.drop width) n
        print (if width = 0 then String.ofList cs else unlines (rows cs (cs.length + 1)))
      return 0

def digestOf (program : String) (digest : Bytes → String) : Program :=
  let m : Manual := { program := program, flags := "btcwz" }
  m.run fun a =>
    forInputs a.operands (refused m) fun t text => do
      let name := if a.operands.isEmpty then "-" else t
      print (digest (bytesOf text) ++ "  " ++ name ++ "\n")
      return 0

/-- The text of the standard input or an operand byte by byte, in octal, sixteens or as characters. -/
def dump : Program :=
  let m : Manual := { program := "od", flags := "cbxdovX", valued := "AtNjw" }
  m.run fun a => do
    let (text, status) ← allInputs a.operands (refused m)
    let bytes := bytesOf text
    let bytes := bytes.drop (((a.value? 'j').bind countOf?).getD 0)
    let bytes := match (a.value? 'N').bind countOf? with
      | some n => bytes.take n
      | none => bytes
    let kind := if a.has 'c' then "c" else if a.has 'b' then "o1" else (a.value? 't').getD "o2"
    let radix := (a.value? 'A').getD "o"
    let padded (width base n : Nat) : String :=
      let ds := String.ofList (Nat.toDigits base n)
      String.ofList (List.replicate (width - ds.length) '0') ++ ds
    let shownChar (b : UInt8) : String :=
      match b.toNat with
      | 0 => "\\0"
      | 7 => "\\a"
      | 8 => "\\b"
      | 9 => "\\t"
      | 10 => "\\n"
      | 11 => "\\v"
      | 12 => "\\f"
      | 13 => "\\r"
      | n => if 32 ≤ n ∧ n < 127 then (Char.ofNat n).toString else padded 3 8 n
    let rec words : Bytes → List Nat
      | a :: b :: rest => (a.toNat + 256 * b.toNat) :: words rest
      | [a] => [a.toNat]
      | [] => []
    let row (bs : Bytes) : String :=
      if kind.startsWith "c" then String.join (bs.map fun b => rightAligned 4 (shownChar b))
      else if kind = "x1" || kind = "x1z" then String.join (bs.map fun b => " " ++ padded 2 16 b.toNat)
      else if kind = "o1" then String.join (bs.map fun b => " " ++ padded 3 8 b.toNat)
      else if kind = "u1" || kind = "d1" then String.join (bs.map fun b => rightAligned 4 (toString b.toNat))
      else if kind = "x2" then String.join ((words bs).map fun w => " " ++ padded 4 16 w)
      else String.join ((words bs).map fun w => " " ++ padded 6 8 w)
    let address (n : Nat) : String :=
      match radix with
      | "n" => ""
      | "x" => padded 6 16 n
      | "d" => padded 7 10 n
      | _ => padded 7 8 n
    let rec rows (at_ : Nat) (bs : Bytes) : Nat → List String
      | 0 => []
      | n + 1 => if bs.isEmpty then (if radix = "n" then [] else [address at_])
        else (address at_ ++ row (bs.take 16)) :: rows (at_ + min 16 bs.length) (bs.drop 16) n
    print (unlines (rows 0 bytes (bytes.length + 2)))
    return status

end ReleaseBundle.Shell.Programs
