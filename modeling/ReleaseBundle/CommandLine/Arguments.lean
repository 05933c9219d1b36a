import ReleaseBundle.CommandLine.Refusal
import ReleaseBundle.Console.Message
import ReleaseBundle.Disk.Basic
import ReleaseBundle.Settings

/-!
# Reading arguments

Arguments are read from left to right and the first thing that is wrong ends the reading. The value of
an option is looked at when the next option is read or at the end, unless it was given with `=`; an
unknown argument in between wins over a bad value. Whether options fit together is looked at last.
-/

namespace ReleaseBundle.CommandLine

/-- What the arguments ask for. -/
structure Arguments where
  root : Option Path
  name : String
  format : Format
  verbose : Bool
  quiet : Bool
  deriving DecidableEq

/-- What was read so far. -/
structure Reading where
  /-- The options that were given, in order. -/
  given : List Key := []
  /-- An option whose value was not looked at yet, with the value if it has come. -/
  pending : Option (Key × Option Bytes) := none
  root : Option Path := none
  name : Option String := none
  format : Option Format := none

namespace Reading

/-- Takes a value for an option whose name is recorded already. -/
def take (r : Reading) (k : Key) (value : Bytes) : Except Refusal Reading :=
  match k with
  | .root => if value = [] then .error (.missingValue k) else .ok { r with root := some ⟨value⟩ }
  | .name =>
    match Text.decode? value with
    | none => .error .notUtf8
    | some cs => .ok { r with name := some (String.ofList cs) }
  | .format =>
    match Text.decode? value with
    | none => .error .notUtf8
    | some cs =>
      let text := String.ofList cs
      match Format.ofString? text with
      | some f => .ok { r with format := some f }
      | none => .error (.badValue k text (Format.refusal text))
  | _ => .ok r

/-- Records that an option was given, and answers what is wrong with that. An option that is given
twice is not recorded any more. -/
def record (r : Reading) (k : Key) : Reading × Option Refusal :=
  if r.given.contains k then ({ r with given := r.given.erase k }, some (.repeated k))
  else ({ r with given := r.given ++ [k] }, none)

/-- Records an option with its value. -/
def store (r : Reading) (k : Key) (value : Bytes) : Reading × Option Refusal :=
  match r.record k with
  | (r, some e) => (r, some e)
  | (r, none) =>
    match r.take k value with
    | .ok r => (r, none)
    | .error e => (r, some e)

/-- Looks at the value that is pending. The reading goes on with what could be recorded even if the
value is wrong, for those who show which options were used. -/
def settle (r : Reading) : Reading × Option Refusal :=
  match r.pending with
  | none => (r, none)
  | some (k, none) => ({ r with pending := none }, some (.missingValue k))
  | some (k, some value) => { r with pending := none }.store k value

/-- Gives up where there is something wrong. -/
def check (outcome : Reading × Option Refusal) : Except Refusal Reading :=
  match outcome with
  | (r, none) => .ok r
  | (_, some e) => .error e

/-- Reads an option without a value. -/
def raise (r : Reading) (k : Key) (long : Bool) : Except Refusal Reading :=
  match check r.settle with
  | .error e => .error e
  | .ok r =>
    match k with
    | .help => .error (.help long)
    | .version => .error .version
    | k => check (r.record k)

/-- Reads the name of an option that is followed by its value. -/
def announce (r : Reading) (k : Key) : Except Refusal Reading :=
  match check r.settle with
  | .error e => .error e
  | .ok r => .ok { r with pending := some (k, none) }

/-- Reads an option with its value. -/
def supply (r : Reading) (k : Key) (value : Bytes) : Except Refusal Reading :=
  match check r.settle with
  | .error e => .error e
  | .ok r => check (r.store k value)

/-- The complaint about an argument that is no option. -/
def unknownWord (word : Bytes) : Refusal := .unknown (Text.display word) none []

/-- The complaint about a long name that is no option. -/
def unknownLong (r : Reading) (name : String) : Refusal :=
  let given := r.settle.1.given
  match Key.similar? name with
  | some k => .unknown ("--" ++ name) (some k) (if given.contains k then given else given ++ [k])
  | none => .unknown ("--" ++ name) none given

/-- Reads a long option, with the value behind its `=` if it has one. -/
def readLong (r : Reading) (name : Bytes) (value : Option Bytes) : Except Refusal Reading :=
  match (Text.decode? name).bind fun cs => Key.ofLong? (String.ofList cs) with
  | none => .error (r.unknownLong (Text.display name))
  | some k =>
    match k.takesValue, value with
    | true, some value => r.supply k value
    | true, none => r.announce k
    | false, some value => .error (.unexpectedValue k (Text.display value) (r.given != []))
    | false, none => r.raise k true

/-- Reads the letters of short options; `tail` is what follows them that is not text. -/
def readShort (r : Reading) (tail : Bytes) : List Char → Except Refusal Reading
  | [] => if tail = [] then .ok r else .error (.unknown ("-" ++ Text.display tail) none [])
  | c :: cs =>
    match Key.ofShort? c with
    | none => .error (.unknown ("-" ++ c.toString) none [])
    | some k =>
      match r.raise k false with
      | .error e => .error e
      | .ok r => readShort r tail cs

/-- Reads a word that is not an option: the value that is waited for, or a mistake. -/
def readWord (r : Reading) (word : Bytes) : Except Refusal Reading :=
  match r.pending with
  | some (k, none) => .ok { r with pending := some (k, some word) }
  | _ => .error (unknownWord word)

end Reading

/-- What an argument looks like. -/
inductive Shape where
  /-- `--`, which ends the options. -/
  | ending
  | long (name : Bytes) (value : Option Bytes)
  | short (letters : List Char) (tail : Bytes)
  | word
  deriving DecidableEq

/-- The byte that begins an option. -/
def dash : UInt8 := 0x2D

/-- The byte between an option and its value. -/
def equals : UInt8 := 0x3D

/-- What an argument looks like. A single `-` is an ordinary word. -/
def shape (argument : Bytes) : Shape :=
  match argument with
  | a :: b :: rest =>
    if a = dash ∧ b = dash then
      if rest = [] then .ending
      else
        .long (rest.takeWhile (· != equals))
          (if rest.contains equals then some ((rest.dropWhile (· != equals)).drop 1) else none)
    else if a = dash then
      let (letters, tail) := Text.splitValid (b :: rest)
      .short letters tail
    else .word
  | _ => .word

/-- Reads arguments behind those that were read. -/
def readFrom (r : Reading) : List Bytes → Except Refusal Reading
  | [] => Reading.check r.settle
  | a :: as =>
    match shape a with
    | .ending =>
      match as with
      | [] => Reading.check r.settle
      | word :: _ => .error (Reading.unknownWord word)
    | .long name value =>
      match r.readLong name value with
      | .error e => .error e
      | .ok r => readFrom r as
    | .short letters tail =>
      match r.readShort tail letters with
      | .error e => .error e
      | .ok r => readFrom r as
    | .word =>
      match r.readWord a with
      | .error e => .error e
      | .ok r => readFrom r as

/-- What the options that were given amount to. -/
def Reading.arguments (r : Reading) : Except Refusal Arguments :=
  if r.given.contains .verbose ∧ r.given.contains .quiet then
    match r.given.filter fun k => k == .verbose || k == .quiet with
    | first :: second :: _ => .error (.conflict first second (r.given.erase second))
    | _ => .error (.conflict .verbose .quiet [])
  else
    .ok ⟨r.root, r.name.getD Settings.defaultName, r.format.getD .zip,
      r.given.contains .verbose, r.given.contains .quiet⟩

namespace Arguments

/-- Reads the arguments of the program. -/
def parse (arguments : List Bytes) : Except Refusal Arguments :=
  match readFrom {} arguments with
  | .error e => .error e
  | .ok r => r.arguments

def verbosity (a : Arguments) : Verbosity := ⟨a.verbose, a.quiet⟩

/-- The root that the arguments describe: the current directory, which has to exist, unless they name
another one. -/
def chosenRoot (a : Arguments) (d : Disk) : Except ArgumentsFailure Path :=
  match a.root with
  | some root => .ok root
  | none =>
    if d.isDirectoryAt d.cwd then .ok (Disk.pathOf d.cwd)
    else .error (.noCurrentDirectory (.os .notFound))

/-- The settings that the arguments describe on a disk. -/
def settings (a : Arguments) (d : Disk) : Except Failure Settings :=
  match a.chosenRoot d with
  | .error e => .error (.arguments e)
  | .ok root =>
    ({ root := root, name := some a.name, format := a.format : Settings.Choices}.settings).mapError
      .settings

end Arguments

end ReleaseBundle.CommandLine
