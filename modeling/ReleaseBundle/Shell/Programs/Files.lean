import ReleaseBundle.Disk.Change
import ReleaseBundle.Shell.Programs.Mode
import ReleaseBundle.Shell.Programs.Options

/-!
# Programs that change files

Making and removing directories, removing, copying, moving and linking files, and setting their permission
bits.
-/

namespace ReleaseBundle.Shell.Programs

open Act

/-- What a path leads to. -/
def stat? (t : String) : Act (Except Fault (Location × Node)) := look fun d => d.stat (pathOf t)

/-- What a path leads to, with a link at its end left alone. -/
def lstat? (t : String) : Act (Except Fault (Location × Node)) := look fun d => d.lstat (pathOf t)

def isDirectory (t : String) : Act Bool := look fun d => d.isDirectory (pathOf t)

/-- Changes the disk; a fault is answered. -/
def changing (f : Disk → Except Fault Disk) : Act (Option Fault) := do
  match ← attempt fun d => (f d).map fun d => (d, ()) with
  | .ok () => return none
  | .error fault => return some fault

/-- The names in a directory, in order. -/
def entries (t : String) : Act (List String) :=
  return ((← look fun d => Wildcard.names d t).drop 2)

def isFault (e : Errno) (fault : Fault) : Bool := fault == .os e

/-! ## Directories -/

/-- The paths that lead to a path, the shortest first. -/
def ancestors (t : String) : List String :=
  let cs := t.toList
  ((List.range cs.length).filter fun i =>
    cs[i]? == some '/' && i != 0 && cs[i - 1]? != some '/' && (cs.drop i).any (· != '/')).map fun i =>
      String.ofList (cs.take i)

def makeDirectory : Program :=
  let m : Manual :=
    { program := "mkdir", flags := "pvZ", valued := "m"
      long := [("parents", 'p'), ("verbose", 'v'), ("mode", 'm')] }
  m.run fun a => do
    if a.operands.isEmpty then m.misused "missing operand"
    else
      match (a.value? 'm').filter fun text => (Mode.applied? 0 true text 0o777).isNone with
      | some text => m.failed ("invalid mode " ++ cited text)
      | none =>
        let make (t : String) : Act (Option Fault) := do
          let fault? ← changing fun d => d.makeDirectory (pathOf t)
          if fault?.isNone && a.has 'v' then
            print ("mkdir: created directory " ++ quoted t ++ "\n")
          return fault?
        let refuse (t : String) (fault : Fault) : Act Nat :=
          m.failed ("cannot create directory " ++ cited t ++ ": " ++ reason fault)
        forEach
          (fun t => do
            if a.has 'p' then
              let blocked ← (ancestors t).findSomeM? fun u => do
                if ← isDirectory u then return none
                else
                  match ← make u with
                  | none => return none
                  | some fault =>
                    if isFault .alreadyExists fault then
                      match ← stat? u with
                      | .ok _ => return some (u, Fault.os .notDirectory)
                      | .error fault => return some (u, fault)
                    else return some (u, fault)
              match blocked with
              | some (u, fault) => refuse u fault
              | none =>
                match ← make t with
                | none => return 0
                | some fault =>
                  if isFault .alreadyExists fault && (← isDirectory t) then return 0 else refuse t fault
            else
              match ← make t with
              | none => return 0
              | some fault => refuse t fault)
          a.operands

/-- The path without its last part, if another part is left. -/
def parent? (t : String) : Option String :=
  let cs := (t.toList.reverse.dropWhile (· == '/')).dropWhile (· != '/')
  let rest := (cs.dropWhile (· == '/')).reverse
  if rest.isEmpty then none else some (String.ofList rest)

def removeDirectory : Program :=
  let m : Manual :=
    { program := "rmdir", flags := "pvi"
      long := [("parents", 'p'), ("verbose", 'v'), ("ignore-fail-on-non-empty", 'i')] }
  let remove (a : Arguments) (t what : String) : Act (Option Nat) := do
    if a.has 'v' then print ("rmdir: removing directory, " ++ quoted t ++ "\n")
    match ← changing fun d => d.removeDirectory (pathOf t) with
    | none => return none
    | some fault =>
      if isFault .notEmpty fault && a.has 'i' then return some 0
      else return some (← m.failed ("failed to remove " ++ what ++ quoted t ++ ": " ++ reason fault))
  let rec upwards (a : Arguments) (t : String) : Nat → Act Nat
    | 0 => return 0
    | n + 1 => do
      match parent? t with
      | none => return 0
      | some u =>
        match ← remove a u "directory " with
        | some status => return status
        | none => upwards a u n
  m.run fun a => do
    if a.operands.isEmpty then m.misused "missing operand"
    else
      forEach
        (fun t => do
          match ← remove a t "" with
          | some status => return status
          | none => if a.has 'p' then upwards a t t.length else return 0)
        a.operands

/-! ## Removing -/

/-- Takes a name out of the disk. What is open can still be read. -/
def forget (at_ : Location) (d : Disk) : Disk := d.erase at_

/-- Removes what a path leads to and everything below it; `t` is its name in messages. -/
def removeTree (m : Manual) (verbose : Bool) (t : String) (at_ : Location) : Nat → Act Nat
  | 0 => return 0
  | n + 1 => do
    match ← look fun d => d.node? at_ with
    | some .directory => do
      let below ← look fun d => (d.children at_).map Prod.fst
      let sorted := below.mergeSort fun a b => decide (a.bytes ≤ b.bytes)
      let _ ← forEach (fun name => removeTree m verbose (inside t (textOf name.bytes)) (name :: at_) n) sorted
      change (forget at_)
      if verbose then print ("removed directory " ++ quoted t ++ "\n")
      return 0
    | some _ => do
      change (forget at_)
      if verbose then print ("removed " ++ quoted t ++ "\n")
      return 0
    | none => return 0

/-- How deep directories can lie in each other. -/
def deepest : Nat := 4096

def remove : Program :=
  let m : Manual :=
    { program := "rm", flags := "rRfdviIx"
      long := [("recursive", 'r'), ("force", 'f'), ("dir", 'd'), ("verbose", 'v'), ("one-file-system", 'x'),
        ("preserve-root", 'x'), ("no-preserve-root", 'x')] }
  m.run fun a => do
    let recursive := a.hasAny "rR"
    if a.operands.isEmpty then
      if a.has 'f' then return 0 else m.misused "missing operand"
    else
      forEach
        (fun t => do
          let refuse (fault : Fault) : Act Nat := m.failed ("cannot remove " ++ quoted t ++ ": " ++ reason fault)
          let last := lastName t
          let found ← lstat? (if t.endsWith "/" && t.any (· != '/') then t else t)
          match found with
          | .error fault =>
            if a.has 'f' && (isFault .notFound fault || isFault .notDirectory fault) then return 0
            else refuse fault
          | .ok (at_, .directory) =>
            let isLink := t.endsWith "/" && (match ← lstat? (String.ofList (t.toList.reverse.dropWhile (· == '/')).reverse) with
              | .ok (_, .link _) => true
              | _ => false)
            if recursive && (last = "." || last = "..") then
              m.failed ("refusing to remove '.' or '..' directory: skipping " ++ quoted t)
            else if recursive && at_ = [] then do
              m.complain "it is dangerous to operate recursively on '/'"
              m.failed "use --no-preserve-root to override this failsafe"
            else if recursive && isLink then do
              let below ← look fun d => (d.children at_).map Prod.fst
              let _ ← forEach (fun name => removeTree m (a.has 'v') (inside t (textOf name.bytes)) (name :: at_) deepest) below
              refuse (.os .notDirectory)
            else if recursive then removeTree m (a.has 'v') t at_ deepest
            else if a.has 'd' then
              match ← changing fun d => d.removeDirectory (pathOf t) with
              | some fault => refuse fault
              | none => do
                if a.has 'v' then print ("removed directory " ++ quoted t ++ "\n")
                return 0
            else refuse (.os .isDirectory)
          | .ok (at_, _) => do
            change (forget at_)
            if a.has 'v' then print ("removed " ++ quoted t ++ "\n")
            return 0)
        a.operands

/-! ## Targets -/

/-- Where operands go: one to a path, or all of them into a directory. -/
inductive Destination where
  | path (source target : String)
  | directory (sources : List String) (target : String)

/-- Splits operands into what is worked on and where it goes. Answers a status if that is not possible. -/
def destination? (m : Manual) (a : Arguments) : Act (Except Nat Destination) := do
  match a.value? 't' with
  | some t =>
    if a.operands.isEmpty then return .error (← m.misused "missing file operand")
    else
      match ← stat? t with
      | .ok (_, .directory) => return .ok (.directory a.operands t)
      | .ok _ =>
        return .error (← m.failed ("target directory " ++ quoted t ++ ": " ++ reason (.os .notDirectory)))
      | .error fault => return .error (← m.failed ("target directory " ++ quoted t ++ ": " ++ reason fault))
  | none =>
    match a.operands.reverse with
    | [] => return .error (← m.misused "missing file operand")
    | [t] => return .error (← m.misused ("missing destination file operand after " ++ quoted t))
    | t :: sources =>
      let isDir ← isDirectory t
      if a.has 'T' then
        match sources with
        | [source] => return .ok (.path source t)
        | _ => return .error (← m.misused ("extra operand " ++ quoted t))
      else if isDir then return .ok (.directory sources.reverse t)
      else
        match sources with
        | [source] => return .ok (.path source t)
        | _ =>
          match ← stat? t with
          | .ok _ => return .error (← m.failed ("target " ++ quoted t ++ ": " ++ reason (.os .notDirectory)))
          | .error fault => return .error (← m.failed ("target " ++ quoted t ++ ": " ++ reason fault))

/-- Works on each source and its target. -/
def toDestination (work : String → String → Act Nat) : Destination → Act Nat
  | .path source target => work source target
  | .directory sources target => forEach (fun s => work s (inside target (lastName s))) sources

/-- Whether two paths lead to the same file. -/
def isSame (a b : Location × Node) : Bool :=
  a.1 == b.1 || (match a.2, b.2 with
    | .file m, .file n => m == n
    | _, _ => false)

/-! ## Copying -/

/-- How files are copied. -/
structure CopyWay where
  recursive : Bool
  /-- Whether links are followed: always, or only if they are named. -/
  follows : Bool
  followsNamed : Bool
  keepsMode : Bool
  forces : Bool
  verbose : Bool
  /-- Existing files are left alone. -/
  spares : Bool
  /-- Files get another name, or a link, instead of a copy. -/
  hardLinks : Bool
  symbolicLinks : Bool

def copyManual : Manual :=
  { program := "cp", flags := "aRrfpPdLHnvuilsxTbZD", valued := "tS"
    long := [("archive", 'a'), ("recursive", 'r'), ("force", 'f'), ("no-dereference", 'P'),
      ("dereference", 'L'), ("no-clobber", 'n'), ("verbose", 'v'), ("update", 'u'), ("link", 'l'),
      ("symbolic-link", 's'), ("target-directory", 't'), ("no-target-directory", 'T'),
      ("preserve", 'p'), ("parents", 'D'), ("one-file-system", 'x')] }

def copyRefused (what : String) : Act Nat := copyManual.failed what

/-- Says what was copied, on request. -/
def copySaid (w : CopyWay) (source target : String) : Act Unit := do
  if w.verbose then print (quoted source ++ " -> " ++ quoted target ++ "\n")

/-- Removes what stands in the way of a new file. -/
def makeWay (target : String) : Act Unit := do
  match ← lstat? target with
  | .ok (_, .directory) => return
  | .ok (at_, _) => change (forget at_)
  | .error _ => return

/-- Writes a copy of a file. -/
def copyBytes (w : CopyWay) (source target : String) (data : FileData) : Act Nat := do
  match ← Act.openPath source .read false with
  | .error fault => copyRefused ("cannot open " ++ quoted source ++ " for reading: " ++ reason fault)
  | .ok input => do
    let isNew := match ← stat? target with
      | .ok _ => false
      | .error _ => true
    let dangling := isNew && (match ← lstat? target with
      | .ok (_, .link _) => true
      | _ => false)
    if dangling then copyRefused ("not writing through dangling symlink " ++ quoted target)
    else
      let first ← Act.openPath target .write false
      let opened ← match first with
        | .error _ =>
          if w.forces && !isNew then do
            makeWay target
            Act.openPath target .write false
          else pure first
        | opened => pure opened
      match opened with
      | .error fault =>
        let why := if target.endsWith "/" && isFault .isDirectory fault then Fault.os .notDirectory else fault
        copyRefused ("cannot create regular file " ++ quoted target ++ ": " ++ reason why)
      | .ok output => do
        match ← readHandle input List.length with
        | .error fault => copyRefused ("error reading " ++ quoted source ++ ": " ++ reason fault)
        | .ok content => do
          if isNew || w.keepsMode then
            match ← stat? target with
            | .ok (_, .file n) =>
              let mode ← if w.keepsMode then pure data.mode else unmasked (data.mode % 512)
              change fun d => d.setMode n mode
            | _ => pure ()
          match ← writeHandle output content with
          | some fault => copyRefused ("error writing " ++ quoted target ++ ": " ++ reason fault)
          | none => do
            match ← stat? target with
            | .ok (_, .file n) => change fun d => d.setFile n { d.data n with program := data.program }
            | _ => pure ()
            copySaid w source target
            return 0

/-- Copies what a path leads to. -/
def copyTree (w : CopyWay) (named : Bool) (into : Location) (source target : String) : Nat → Act Nat
  | 0 => return 1
  | n + 1 => do
    let follows := w.follows || (named && w.followsNamed)
    match ← if follows then stat? source else lstat? source with
    | .error fault => copyRefused ("cannot stat " ++ quoted source ++ ": " ++ reason fault)
    | .ok (from_, node) =>
      let existing ← lstat? target
      let reached ← stat? target
      match node with
      | .directory =>
        if !w.recursive then copyRefused ("-r not specified; omitting directory " ++ quoted source)
        else
          match reached with
          | .ok (_, .directory) => below from_ n
          | .ok _ =>
            copyRefused ("cannot overwrite non-directory " ++ quoted target ++ " with directory " ++
              quoted source)
          | .error (.os .notFound) =>
            match ← changing fun d => d.makeDirectory (pathOf target) with
            | some fault => copyRefused ("cannot create directory " ++ quoted target ++ ": " ++ reason fault)
            | none => do
              copySaid w source target
              below from_ n
          | .error fault => copyRefused ("cannot stat " ++ quoted target ++ ": " ++ reason fault)
      | node =>
        let isLink := match node with
          | .link _ => true
          | _ => false
        match if isLink then existing else reached with
        | .ok (_, .directory) =>
          copyRefused ("cannot overwrite directory " ++ quoted target ++ " with non-directory")
        | .error (.os .notDirectory) =>
          copyRefused
            (if target.endsWith "/" then
              "cannot create regular file " ++ quoted target ++ ": " ++ reason (.os .notDirectory)
            else "cannot stat " ++ quoted target ++ ": " ++ reason (.os .notDirectory))
        | there =>
          let same := match there with
            | .ok found => isSame found (from_, node)
            | .error _ => false
          if same then copyRefused (quoted source ++ " and " ++ quoted target ++ " are the same file")
          else if there.isOk && w.spares then return 0
          else if w.hardLinks || w.symbolicLinks || isLink then do
            if isLink || w.forces then makeWay target
            let linked ← changing fun d =>
              match node with
              | .link aim => if w.hardLinks then d.addName node (pathOf target) else d.makeLink aim (pathOf target)
              | node =>
                if w.symbolicLinks then d.makeLink (pathOf source) (pathOf target)
                else d.addName node (pathOf target)
            match linked with
            | some fault =>
              copyRefused ("cannot create " ++ (if w.hardLinks then "hard link " else "symbolic link ") ++
                quoted target ++ ": " ++ reason fault)
            | none => do
              copySaid w source target
              return 0
          else
            match node with
            | .file number => do
              let data ← look fun d => d.data number
              copyBytes w source target data
            | _ => return 1
where
  /-- Copies what lies in a directory. -/
  below (from_ : Location) (n : Nat) : Act Nat := do
    let names ← look fun d => (d.children from_).map Prod.fst
    let sorted := names.mergeSort fun a b => decide (a.bytes ≤ b.bytes)
    let own ← match ← stat? target with
      | .ok (at_, _) => pure at_
      | .error _ => pure []
    forEach
      (fun name => do
        if name :: from_ = own || name :: from_ = into then return 0
        else copyTree w false into (inside source (textOf name.bytes)) (inside target (textOf name.bytes)) n)
      sorted

/-- Copies what an operand names; a directory is not copied into itself. -/
def copyOperand (w : CopyWay) (source target : String) : Act Nat := do
  let target' :=
    if target.endsWith "/" then String.ofList (target.toList.reverse.dropWhile (· == '/')).reverse else target
  let from_ ← if w.follows || w.followsNamed then stat? source else lstat? source
  let status ← copyTree w true [] source target deepest
  match from_, ← stat? target with
  | .ok (from_, .directory), .ok (at_, .directory) =>
    if w.recursive && from_ <:+ at_ && status = 0 then
      copyRefused ("cannot copy a directory, " ++ quoted source ++ ", into itself, " ++ quoted target')
    else return status
  | _, _ => return status

def copy : Program :=
  copyManual.run fun a => do
    match ← destination? copyManual a with
    | .error status => return status
    | .ok destination =>
      let recursive := a.hasAny "aRr"
      let policy := (a.last? "aPdLH").getD (if recursive then 'P' else 'L')
      let w : CopyWay :=
        { recursive := recursive
          follows := policy == 'L'
          followsNamed := policy == 'H'
          keepsMode := a.hasAny "ap"
          forces := a.has 'f'
          verbose := a.has 'v'
          spares := a.has 'n' || a.has 'i'
          hardLinks := a.has 'l'
          symbolicLinks := a.has 's' }
      match a.has 'D', destination with
      | true, .directory sources directory =>
        forEach
          (fun s => do
            let target := inside directory s
            if let some above := parent? target then
              let _ ← makeDirectory ["-p", "--", above]
            copyOperand w s target)
          sources
      | _, destination => toDestination (copyOperand w) destination

/-! ## Moving -/

def moveManual : Manual :=
  { program := "mv", flags := "fnviuTbZ", valued := "tS"
    long := [("force", 'f'), ("no-clobber", 'n'), ("verbose", 'v'), ("update", 'u'),
      ("target-directory", 't'), ("no-target-directory", 'T')] }

/-- Moves what a path leads to. -/
def moveOne (a : Arguments) (source target : String) : Act Nat := do
  let m := moveManual
  let say : Act Nat := do
    if a.has 'v' then print ("renamed " ++ quoted source ++ " -> " ++ quoted target ++ "\n")
    return 0
  let refuse (why : Fault) : Act Nat :=
    m.failed ("cannot move " ++ quoted source ++ " to " ++ quoted target ++ ": " ++ reason why)
  match ← lstat? (String.ofList ((source.toList.reverse.dropWhile (· == '/')).reverse)) with
  | .error fault => m.failed ("cannot stat " ++ quoted source ++ ": " ++ reason fault)
  | .ok (from_, node) =>
    let isDir := node == .directory
    let here := (← get).disk.cwd
    let isBusy := (from_ = here && lastName source = ".") || from_ = []
    let there ← if isBusy then pure (.error (.os .busy)) else lstat? target
    match there with
    | .ok (at_, existing) =>
      if isDir && from_ <:+ at_ && from_ != at_ then
        m.failed ("cannot move " ++ quoted source ++ " to a subdirectory of itself, " ++ quoted target)
      else if isSame (from_, node) (at_, existing) then
        m.failed (quoted source ++ " and " ++ quoted target ++ " are the same file")
      else if (a.has 'n' || a.has 'i') then return 0
      else
        match existing with
        | .directory =>
          if !isDir then m.failed ("cannot overwrite directory " ++ quoted target ++ " with non-directory")
          else if !(← look fun d => (d.children at_).isEmpty) then
            m.failed ("cannot overwrite " ++ quoted target ++ ": " ++ reason (.os .notEmpty))
          else
            match at_ with
            | [] => refuse (.os .busy)
            | name :: dir => do
              change fun d => (d.erase at_).moveTree from_ dir name
              say
        | _ =>
          if isDir then
            m.failed ("cannot overwrite non-directory " ++ quoted target ++ " with directory " ++ quoted source)
          else
            match at_ with
            | [] => refuse (.os .busy)
            | name :: dir => do
              change fun d => (d.erase at_).moveTree from_ dir name
              say
    | .error _ =>
      let bare := if isDir then (pathOf target).withoutSlashes else pathOf target
      match ← look fun d => d.locate bare false with
      | .ok (.vacant dir name) =>
        if isBusy then refuse (.os .busy)
        else if isDir && from_ <:+ dir then
          m.failed ("cannot move " ++ quoted source ++ " to a subdirectory of itself, " ++ quoted target)
        else do
          change fun d => d.moveTree from_ dir name
          say
      | .ok (.found _ _) => refuse (.os .notDirectory)
      | .error fault => refuse (if target.endsWith "/" then .os .notDirectory else fault)

def move : Program :=
  moveManual.run fun a => do
    match ← destination? moveManual a with
    | .error status => return status
    | .ok destination => toDestination (moveOne a) destination

/-! ## Links -/

/-- A path to `target` as seen from a directory. -/
def relativeFrom (directory target : Location) : String :=
  let d := directory.reverse
  let t := target.reverse
  let common := ((d.zip t).takeWhile fun p => p.1 == p.2).length
  let up := List.replicate (d.length - common) ".."
  let down := (t.drop common).map fun name => textOf name.bytes
  let parts := up ++ down
  if parts.isEmpty then "." else "/".intercalate parts

def linkManual : Manual :=
  { program := "ln", flags := "sfnvrTLPibdF", valued := "tS"
    long := [("symbolic", 's'), ("force", 'f'), ("no-dereference", 'n'), ("verbose", 'v'), ("relative", 'r'),
      ("target-directory", 't'), ("no-target-directory", 'T'), ("logical", 'L'), ("physical", 'P')] }

/-- Makes one link. -/
def linkOne (a : Arguments) (target name : String) : Act Nat := do
  let m := linkManual
  let kind := if a.has 's' then "symbolic link " else "hard link "
  let refuse (fault : Fault) : Act Nat :=
    let arrow :=
      if isFault .alreadyExists fault then ""
      else if a.has 's' then (if target = "" then " -> " ++ quoted target else "")
      else " => " ++ quoted target
    m.failed ("failed to create " ++ kind ++ quoted name ++ arrow ++ ": " ++ reason fault)
  let source ← if a.has 'L' then stat? target else lstat? target
  match if a.has 's' then none else some source with
  | some (.error fault) => m.failed ("failed to access " ++ quoted target ++ ": " ++ reason fault)
  | some (.ok (_, .directory)) => m.failed (quotedIfNeeded target ++ ": hard link not allowed for directory")
  | source? =>
    let existing ← lstat? name
    let sameFile := match existing, source with
      | .ok there, .ok found => isSame there found
      | _, _ => false
    if a.has 'f' && sameFile then
      m.failed (quoted target ++ " and " ++ quoted name ++ " are the same file")
    else do
      if a.has 'f' then makeWay name
      let aim ←
        if a.has 'r' then do
          let directory ← match ← stat? ((parent? name).getD (if name.startsWith "/" then "/" else ".")) with
            | .ok (at_, _) => pure at_
            | .error _ => pure []
          match ← look fun d => d.locate (pathOf target) with
          | .ok (.found at_ _) => pure (relativeFrom directory at_)
          | .ok (.vacant dir n) => pure (relativeFrom directory (n :: dir))
          | .error _ => pure target
        else pure target
      let made ←
        match source? with
        | some (.ok (_, node)) => changing fun d => d.addName node (pathOf name)
        | _ =>
          if target = "" then pure (some (Fault.os .notFound))
          else changing fun d => d.makeLink (pathOf aim) (pathOf name)
      match made with
      | some fault => refuse fault
      | none => do
        if a.has 'v' then
          print (quoted name ++ (if a.has 's' then " -> " else " => ") ++ quoted aim ++ "\n")
        return 0

def link : Program :=
  let m := linkManual
  m.run fun a => do
    match a.value? 't', a.operands with
    | none, [] => m.misused "missing file operand"
    | none, [t] => linkOne a t (inside "." (lastName t))
    | _, _ =>
      match a.value? 't', a.operands.reverse with
      | none, last :: [t] =>
        let isLink := match ← lstat? last with
          | .ok (_, .link _) => true
          | _ => false
        if !(a.has 'T') && (← isDirectory last) && !(a.has 'n' && isLink) then
          linkOne a t (inside last (lastName t))
        else linkOne a t last
      | _, _ =>
        match ← destination? m a with
        | .error status => return status
        | .ok destination => toDestination (linkOne a) destination

/-- Takes away one name of a file, without questions. -/
def removeName : Program :=
  let m : Manual := { program := "unlink", flags := "" }
  m.run fun a => do
    match a.operands with
    | [] => m.misused "missing operand"
    | _ :: extra :: _ => m.misused ("extra operand " ++ cited extra)
    | [t] =>
      let refuse (fault : Fault) : Act Nat := m.failed ("cannot unlink " ++ quoted t ++ ": " ++ reason fault)
      match ← lstat? t with
      | .error fault => refuse fault
      | .ok (_, .directory) => refuse (.os .isDirectory)
      | .ok (at_, _) => do
        change (forget at_)
        return 0

/-- Gives a file one more name, without questions. -/
def addName : Program :=
  let m : Manual := { program := "link", flags := "" }
  m.run fun a => do
    match a.operands with
    | [] => m.misused "missing operand"
    | [t] => m.misused ("missing operand after " ++ cited t)
    | _ :: _ :: extra :: _ => m.misused ("extra operand " ++ cited extra)
    | [t, name] =>
      let refuse (fault : Fault) : Act Nat :=
        m.failed ("cannot create link " ++ quoted name ++ " to " ++ quoted t ++ ": " ++ reason fault)
      match ← lstat? t, ← lstat? name with
      | .error fault, _ => refuse fault
      | .ok _, .ok _ => refuse (.os .alreadyExists)
      | .ok (_, .directory), _ => refuse (.os .notPermitted)
      | .ok (_, node), _ =>
        match ← changing fun d => d.addName node (pathOf name) with
        | some fault => refuse fault
        | none => return 0

/-! ## Times and permission bits -/

def touch : Program :=
  let m : Manual :=
    { program := "touch", flags := "camhf", valued := "drt"
      long := [("no-create", 'c'), ("date", 'd'), ("reference", 'r'), ("no-dereference", 'h'), ("time", 't')] }
  m.run fun a => do
    if a.operands.isEmpty then m.misused "missing file operand"
    else
      forEach
        (fun t => do
          if t = "-" then return 0
          else
            match ← if a.has 'h' then lstat? t else stat? t with
            | .ok _ => return 0
            | .error fault =>
              if a.has 'c' then return 0
              else if a.has 'h' then m.failed ("setting times of " ++ quoted t ++ ": " ++ reason fault)
              else
                let bits ← unmasked 0o666
                match ← attempt fun d => d.openForWriting (pathOf t) bits with
                | .ok _ => return 0
                | .error (.os .isDirectory) =>
                  m.failed ("setting times of " ++ quoted t ++ ": " ++ reason (.os .notFound))
                | .error fault => m.failed ("cannot touch " ++ quoted t ++ ": " ++ reason fault))
        a.operands

def changeManual : Manual :=
  { program := "chmod", flags := "Rvcf", valued := "="
    long := [("recursive", 'R'), ("verbose", 'v'), ("changes", 'c'), ("silent", 'f'), ("quiet", 'f'),
      ("reference", '=')] }

/-- Sets the permission bits of what a path leads to and of what is below it. -/
def changeMode (a : Arguments) (new : Nat → Bool → Nat) (named : Bool) (t : String) : Nat → Act Nat
  | 0 => return 1
  | n + 1 => do
    match ← if named then stat? t else lstat? t with
    | .error fault =>
      if a.has 'f' then return 1
      else
        let dangling := match ← lstat? t with
          | .ok (_, .link _) => true
          | _ => false
        if dangling then changeManual.failed ("cannot operate on dangling symlink " ++ quoted t)
        else changeManual.failed ("cannot access " ++ quoted t ++ ": " ++ reason fault)
    | .ok (_, .file number) => do
      let old ← look fun d => (d.data number).mode
      let bits := new old false
      change fun d => d.setMode number bits
      if a.has 'v' || (a.has 'c' && bits != old) then
        let shown (b : Nat) := Mode.padded 4 b ++ " (" ++ Mode.text b ++ ")"
        print ("mode of " ++ quoted t ++
          (if bits = old then " retained as " ++ shown bits
          else " changed from " ++ shown old ++ " to " ++ shown bits) ++ "\n")
      return 0
    | .ok (_, .directory) =>
      if a.has 'R' then do
        let names ← entries t
        forEach (fun name => changeMode a new false (inside t name) n) names
      else return 0
    | .ok (_, .link _) => return 0

def setMode : Program := fun args => do
  let m := changeManual
  let isMode (t : String) : Bool :=
    match t.toList with
    | '-' :: c :: _ => "rwxXstugoa+=,".contains c
    | _ => false
  let (modes, others) := args.partition isMode
  let read := Manual.read m {} others
  match read with
  | .error e => m.misused e.message
  | .ok a =>
    let mask := (← process).mask
    match a.value? '=' with
    | some t =>
      match ← stat? t with
      | .ok (_, .file number) => do
        let mode ← look fun d => (d.data number).mode
        forEach (fun t => changeMode a (fun _ _ => mode) true t deepest) a.operands
      | .ok _ => return 0
      | .error fault => m.failed ("failed to get attributes of " ++ quoted t ++ ": " ++ reason fault)
    | none =>
      let (mode?, operands) := match modes, a.operands with
        | [], [] => (none, [])
        | [], t :: ts => (some t, ts)
        | ms, ts => (some (",".intercalate ms), ts)
      match mode? with
      | none => m.misused "missing operand"
      | some mode =>
        if operands.isEmpty then m.misused ("missing operand after " ++ cited mode)
        else if (Mode.applied? mask false mode 0).isNone then m.misused ("invalid mode: " ++ cited mode)
        else
          forEach
            (fun t => changeMode a (fun old isDir => (Mode.applied? mask isDir mode old).getD old) true t deepest)
            operands

/-! ## Installing -/

def install : Program :=
  let m : Manual :=
    { program := "install", flags := "dDvpTcCs", valued := "mogt"
      long := [("directory", 'd'), ("verbose", 'v'), ("mode", 'm'), ("target-directory", 't'),
        ("no-target-directory", 'T'), ("owner", 'o'), ("group", 'g')] }
  let put (a : Arguments) (mode : Nat) (source target : String) : Act Nat := do
    if a.has 'D' then
      if let some directory := parent? target then
        let _ ← makeDirectory ["-p", directory]
    match ← stat? source with
    | .error fault => m.failed ("cannot stat " ++ quoted source ++ ": " ++ reason fault)
    | .ok (_, .directory) => m.failed ("omitting directory " ++ quoted source)
    | .ok found =>
      let same := match ← stat? target with
        | .ok there => isSame there found
        | .error _ => false
      if same then m.failed (quoted source ++ " and " ++ quoted target ++ " are the same file")
      else do
        match ← contentsOf source with
        | .error fault => m.failed ("cannot open " ++ quoted source ++ " for reading: " ++ reason fault)
        | .ok content => do
          makeWay target
          match ← Act.openPath target .write false with
          | .error fault => m.failed ("cannot create regular file " ++ quoted target ++ ": " ++ reason fault)
          | .ok output => do
            let _ ← writeHandle output content
            match ← stat? target with
            | .ok (_, .file n) => change fun d => d.setMode n mode
            | _ => pure ()
            if a.has 'v' then print (quoted source ++ " -> " ++ quoted target ++ "\n")
            return 0
  m.run fun a => do
    match Mode.applied? 0 false ((a.value? 'm').getD "755") 0 with
    | none => m.failed ("invalid mode " ++ cited ((a.value? 'm').getD ""))
    | some mode =>
      if a.has 'd' then
        if a.operands.isEmpty then m.misused "missing file operand"
        else makeDirectory ("-p" :: "--" :: a.operands)
      else do
        if a.has 'D' then
          if let some directory := a.value? 't' then
            let _ ← makeDirectory ["-p", directory]
        match ← destination? m a with
        | .error status => return status
        | .ok destination => toDestination (put a mode) destination

def truncate : Program :=
  let m : Manual :=
    { program := "truncate", flags := "co", valued := "sr", long := [("size", 's'), ("no-create", 'c')] }
  let number? (text : String) : Option Nat :=
    let digits := text.toList.takeWhile Char.isDigit
    let unit := match String.ofList (text.toList.drop digits.length) with
      | "" => some 1
      | "K" | "k" | "KiB" => some 1024
      | "M" | "MiB" => some (1024 * 1024)
      | "KB" | "kB" => some 1000
      | _ => none
    match (String.ofList digits).toNat?, unit with
    | some n, some u => some (n * u)
    | _, _ => none
  m.run fun a => do
    match a.value? 's', a.operands with
    | none, _ => m.misused "you must specify either '--size' or '--reference'"
    | some _, [] => m.misused "missing file operand"
    | some size, operands =>
      let change? (old : Nat) : Option Nat :=
        match size.toList with
        | '+' :: cs => (number? (String.ofList cs)).map (old + ·)
        | '-' :: cs => (number? (String.ofList cs)).map (old - ·)
        | _ => number? size
      if (change? 0).isNone then m.failed ("Invalid number: " ++ cited size)
      else
        forEach
          (fun t => do
            let isThere := (← stat? t).isOk
            if a.has 'c' && !isThere then return 0
            else
              match ← Act.openPath t .append false with
              | .error fault => m.failed ("cannot open " ++ quoted t ++ " for writing: " ++ reason fault)
              | .ok _ =>
                match ← stat? t with
                | .ok (_, .file n) => do
                  change fun d =>
                    let f := d.data n
                    let size := (change? f.content.length).getD 0
                    let content := f.content.take size ++ List.replicate (size - f.content.length) 0
                    d.setFile n { f with content := content }
                  return 0
                | _ => return 0)
          operands

end ReleaseBundle.Shell.Programs
