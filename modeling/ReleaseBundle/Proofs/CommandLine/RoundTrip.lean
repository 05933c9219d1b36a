import ReleaseBundle.CommandLine.Arguments
import ReleaseBundle.Proofs.Bytes.Encoding
import Mathlib.Data.List.Nodup
import Mathlib.Data.List.TakeWhile

/-!
# Arguments say what they were written for

What is asked of the program can be written as arguments in many ways: the options may come in any order,
and a flag has a long name and a letter, where several letters may share one dash. A reading that was given
some options holds what they say, and one more option that has not been given yet keeps it so, whichever way
it is written. Hence all ways to write a request are read as the request itself, with the defaults for what
it leaves open, and the two flags that do not go together are refused in all of them.
-/

namespace ReleaseBundle.CommandLine

/-! ## What can be asked for -/

/-- A text that names an archive format. -/
structure Spelling where
  text : String
  format : Format
  names : Format.ofString? text = some format

/-- A value for an option that takes one. What the option would not accept is no value. -/
inductive Value where
  | root (path : { p : Path // p.bytes ≠ [] })
  | name (text : String)
  | format (spelling : Spelling)

namespace Value

def key : Value → Key
  | root _ => .root
  | name _ => .name
  | format _ => .format

/-- How the value is written. -/
def bytes : Value → Bytes
  | root path => path.1.bytes
  | name text => Text.ofString text
  | format spelling => Text.ofString spelling.text

/-- The argument for the option with its value. -/
def argument (v : Value) : Bytes := dash :: dash :: (Text.ofString v.key.long ++ equals :: v.bytes)

end Value

/-- An option that takes no value. -/
inductive Flag where
  | verbose
  | quiet
  deriving DecidableEq

namespace Flag

def key : Flag → Key
  | verbose => .verbose
  | quiet => .quiet

def letter : Flag → Char
  | verbose => 'v'
  | quiet => 'q'

/-- The argument for the flag by its long name. -/
def argument (f : Flag) : Bytes := dash :: dash :: Text.ofString f.key.long

/-- One argument for several flags by their letters. -/
def cluster (fs : List Flag) : Bytes := dash :: Text.encode (fs.map letter)

end Flag

/-- One option as it is given. -/
inductive Choice where
  | value (v : Value)
  | flag (f : Flag)

namespace Choice

def key : Choice → Key
  | value v => v.key
  | flag f => f.key

def root? : Choice → Option Path
  | value (.root path) => some path.1
  | _ => none

def name? : Choice → Option String
  | value (.name text) => some text
  | _ => none

def format? : Choice → Option Format
  | value (.format spelling) => some spelling.format
  | _ => none

end Choice

/-- What is asked of the program, as far as something is asked. -/
structure Request where
  root : Option { p : Path // p.bytes ≠ [] }
  name : Option String
  format : Option Spelling
  verbose : Bool
  quiet : Bool

namespace Request

/-- The options that are given for the request. -/
def choices (q : Request) : List Choice :=
  q.root.toList.map (.value <| .root ·) ++ q.name.toList.map (.value <| .name ·) ++
    q.format.toList.map (.value <| .format ·) ++ (if q.verbose then [.flag .verbose] else []) ++
    (if q.quiet then [.flag .quiet] else [])

/-- The request with the defaults for what it leaves open. -/
def arguments (q : Request) : Arguments where
  root := q.root.map Subtype.val
  name := q.name.getD Settings.defaultName
  format := (q.format.map Spelling.format).getD .zip
  verbose := q.verbose
  quiet := q.quiet

end Request

/-- The arguments give the options, one after the other. -/
inductive Spells : List Choice → List Bytes → Prop where
  | nil : Spells [] []
  | value (v : Value) {rest : List Choice} {args : List Bytes} : Spells rest args →
    Spells (.value v :: rest) (v.argument :: args)
  | long (f : Flag) {rest : List Choice} {args : List Bytes} : Spells rest args →
    Spells (.flag f :: rest) (f.argument :: args)
  | short (fs : List Flag) {rest : List Choice} {args : List Bytes} : fs ≠ [] → Spells rest args →
    Spells (fs.map .flag ++ rest) (Flag.cluster fs :: args)

/-! ## What an argument looks like -/

theorem ne_equals {name : Bytes} (h : equals ∉ name) : ∀ b ∈ name, (b != equals) = true := by
  intro b hb
  rw [bne_iff_ne]
  rintro rfl
  exact h hb

theorem shape_long {name value : Bytes} (hname : equals ∉ name) :
    shape (dash :: dash :: (name ++ equals :: value)) = .long name (some value) := by
  have htake : (name ++ equals :: value).takeWhile (· != equals) = name := by
    rw [List.takeWhile_append_of_pos (ne_equals hname)]
    simp
  have hdrop : (name ++ equals :: value).dropWhile (· != equals) = equals :: value := by
    rw [List.dropWhile_append_of_pos (ne_equals hname)]
    simp
  simp [shape, htake, hdrop]

theorem shape_flag {name : Bytes} (hname : equals ∉ name) (hnil : name ≠ []) :
    shape (dash :: dash :: name) = .long name none := by
  have htake : name.takeWhile (· != equals) = name := List.takeWhile_eq_self_iff.2 (ne_equals hname)
  simp [shape, htake, hname, hnil]

theorem shape_cluster {fs : List Flag} (h : fs ≠ []) :
    shape (Flag.cluster fs) = .short (fs.map Flag.letter) [] := by
  obtain ⟨f, fs, rfl⟩ := List.exists_cons_of_ne_nil h
  have hsplit := Text.splitValid_encode ((f :: fs).map Flag.letter)
  obtain ⟨b, hfirst, hdash⟩ : ∃ b, Text.encode ((f :: fs).map Flag.letter) =
      b :: Text.encode (fs.map Flag.letter) ∧ b ≠ dash := by
    cases f with
    | verbose => exact ⟨0x76, rfl, by decide⟩
    | quiet => exact ⟨0x71, rfl, by decide⟩
  rw [hfirst] at hsplit
  simp only [Flag.cluster, hfirst, shape, hdash, hsplit]
  simp

theorem equals_not_mem_long (k : Key) : equals ∉ Text.ofString k.long := by cases k <;> decide

theorem ofLong?_long (k : Key) :
    ((Text.decode? (Text.ofString k.long)).bind fun cs => Key.ofLong? (String.ofList cs)) = some k := by
  rw [Text.ofString, Text.decode?_encode_text]
  simp only [Option.bind_some, String.ofList_toList]
  cases k <;> decide

/-! ## A reading holds what was given -/

/-- What was read is what the options say that were given, and no value is waited for. -/
structure Reading.Holds (r : Reading) (cs : List Choice) : Prop where
  given : r.given = cs.map Choice.key
  pending : r.pending = none
  root : r.root.toList = cs.filterMap Choice.root?
  name : r.name.toList = cs.filterMap Choice.name?
  format : r.format.toList = cs.filterMap Choice.format?

variable {cs : List Choice}

theorem eq_of_toList_perm {α : Type} {a b : Option α} (h : a.toList.Perm b.toList) : a = b := by
  refine Option.ext fun x => ?_
  rw [← Option.mem_toList, h.mem_iff, Option.mem_toList]

/-- As long as an option has not been given, nothing says what only it can say. -/
theorem filterMap_eq_nil_of_fresh {α : Type} {get : Choice → Option α} {k : Key}
    (hget : ∀ c a, get c = some a → c.key = k) (hfresh : k ∉ cs.map Choice.key) : cs.filterMap get = [] := by
  refine List.filterMap_eq_nil_iff.2 fun c hc => ?_
  cases hsome : get c with
  | none => rfl
  | some a => exact absurd (List.mem_map.2 ⟨c, hc, hget c a hsome⟩) hfresh

theorem key_of_root? (c : Choice) (p : Path) (h : c.root? = some p) : c.key = .root := by
  unfold Choice.root? at h
  split at h
  · rfl
  · cases h

theorem key_of_name? (c : Choice) (text : String) (h : c.name? = some text) : c.key = .name := by
  unfold Choice.name? at h
  split at h
  · rfl
  · cases h

theorem key_of_format? (c : Choice) (f : Format) (h : c.format? = some f) : c.key = .format := by
  unfold Choice.format? at h
  split at h
  · rfl
  · cases h

/-- Where no option is given twice, the next one is new. -/
theorem fresh_of_nodup {c : Choice} {rest : List Choice} (h : ((cs ++ [c] ++ rest).map Choice.key).Nodup) :
    c.key ∉ cs.map Choice.key := by
  rw [List.append_assoc, List.map_append] at h
  intro hmem
  exact (List.disjoint_of_nodup_append h) hmem (by simp)

namespace Reading.Holds

variable {r : Reading}

theorem start : ({} : Reading).Holds [] := ⟨rfl, rfl, rfl, rfl, rfl⟩

theorem check_settle (h : r.Holds cs) : check r.settle = .ok r := by
  simp [settle, h.pending, check]

theorem record_eq (h : r.Holds cs) {k : Key} (hfresh : k ∉ cs.map Choice.key) :
    r.record k = ({ r with given := r.given ++ [k] }, none) := by
  rw [record, if_neg]
  simpa [h.given] using hfresh

/-- An option with a value that has not been given yet is taken. -/
theorem supply (h : r.Holds cs) (v : Value) (hfresh : v.key ∉ cs.map Choice.key) :
    ∃ r', r.supply v.key v.bytes = .ok r' ∧ r'.Holds (cs ++ [.value v]) := by
  simp only [Reading.supply, h.check_settle, store, h.record_eq hfresh]
  obtain ⟨hgiven, hpending, hroot, hname, hformat⟩ := h
  cases v with
  | root path =>
    have hnone := filterMap_eq_nil_of_fresh key_of_root? hfresh
    refine ⟨{ r with given := r.given ++ [.root], root := some path.1 }, ?taken, ?holds⟩
    case taken => simp [take, Value.key, Value.bytes, path.2, check]
    case holds =>
      constructor <;> simp [hgiven, hpending, hname, hformat, hnone, Choice.key, Value.key, Choice.root?,
        Choice.name?, Choice.format?]
  | name text =>
    have hnone := filterMap_eq_nil_of_fresh key_of_name? hfresh
    refine ⟨{ r with given := r.given ++ [.name], name := some text }, ?taken, ?holds⟩
    case taken => simp [take, Value.key, Value.bytes, Text.ofString, Text.decode?_encode_text, check]
    case holds =>
      constructor <;> simp [hgiven, hpending, hroot, hformat, hnone, Choice.key, Value.key, Choice.root?,
        Choice.name?, Choice.format?]
  | format spelling =>
    have hnone := filterMap_eq_nil_of_fresh key_of_format? hfresh
    refine ⟨{ r with given := r.given ++ [.format], format := some spelling.format }, ?taken, ?holds⟩
    case taken =>
      simp [take, Value.key, Value.bytes, Text.ofString, Text.decode?_encode_text, spelling.names, check]
    case holds =>
      constructor <;> simp [hgiven, hpending, hroot, hname, hnone, Choice.key, Value.key, Choice.root?,
        Choice.name?, Choice.format?]

/-- A flag that has not been given yet is taken, by its name or by its letter. -/
theorem raise (h : r.Holds cs) (f : Flag) (long : Bool) (hfresh : f.key ∉ cs.map Choice.key) :
    ∃ r', r.raise f.key long = .ok r' ∧ r'.Holds (cs ++ [.flag f]) := by
  refine ⟨{ r with given := r.given ++ [f.key] }, ?taken, ?holds⟩
  case taken =>
    have hrecord := h.record_eq hfresh
    simp only [Reading.raise, h.check_settle]
    cases f with
    | verbose => exact congrArg check hrecord
    | quiet => exact congrArg check hrecord
  case holds =>
    obtain ⟨hgiven, hpending, hroot, hname, hformat⟩ := h
    constructor <;> simp [hgiven, hpending, hroot, hname, hformat, Choice.key, Choice.root?, Choice.name?,
      Choice.format?]

theorem readLong_value (h : r.Holds cs) (v : Value) (hfresh : v.key ∉ cs.map Choice.key) :
    ∃ r', r.readLong (Text.ofString v.key.long) (some v.bytes) = .ok r' ∧ r'.Holds (cs ++ [.value v]) := by
  have htakes : v.key.takesValue = true := by cases v <;> rfl
  simp only [readLong, ofLong?_long, htakes]
  exact h.supply v hfresh

theorem readLong_flag (h : r.Holds cs) (f : Flag) (hfresh : f.key ∉ cs.map Choice.key) :
    ∃ r', r.readLong (Text.ofString f.key.long) none = .ok r' ∧ r'.Holds (cs ++ [.flag f]) := by
  have htakes : f.key.takesValue = false := by cases f <;> rfl
  simp only [readLong, ofLong?_long, htakes]
  exact h.raise f true hfresh

/-- Letters behind one dash are taken one after the other. -/
theorem readShort (h : r.Holds cs) (fs : List Flag)
    (hnodup : ((cs ++ fs.map Choice.flag).map Choice.key).Nodup) :
    ∃ r', r.readShort [] (fs.map Flag.letter) = .ok r' ∧ r'.Holds (cs ++ fs.map Choice.flag) := by
  induction fs generalizing r cs with
  | nil =>
    simp only [List.map_nil, List.append_nil]
    exact ⟨r, rfl, h⟩
  | cons f fs ih =>
    rw [List.map_cons, List.append_cons] at hnodup
    obtain ⟨r', hraise, h'⟩ := h.raise f false (fresh_of_nodup hnodup)
    have hletter : Key.ofShort? f.letter = some f.key := by cases f <;> rfl
    simp only [List.map_cons, Reading.readShort, hletter, hraise]
    rw [List.append_cons]
    exact ih h' hnodup

/-- Arguments that give options are read as what the options say. -/
theorem readFrom {todo : List Choice} {args : List Bytes} (hspells : Spells todo args) (h : r.Holds cs)
    (hnodup : ((cs ++ todo).map Choice.key).Nodup) :
    ∃ r', readFrom r args = .ok r' ∧ r'.Holds (cs ++ todo) := by
  -- each argument moves what it gives from the options to do to those that are held
  induction hspells generalizing r cs with
  | nil =>
    rw [List.append_nil]
    exact ⟨r, h.check_settle, h⟩
  | value v _ ih =>
    rw [List.append_cons] at hnodup ⊢
    obtain ⟨r', hread, h'⟩ := h.readLong_value v (fresh_of_nodup hnodup)
    simp only [CommandLine.readFrom, Value.argument, shape_long (equals_not_mem_long _), hread]
    exact ih h' hnodup
  | long f _ ih =>
    rw [List.append_cons] at hnodup ⊢
    obtain ⟨r', hread, h'⟩ := h.readLong_flag f (fresh_of_nodup hnodup)
    have hnil : Text.ofString f.key.long ≠ [] := by cases f <;> decide
    simp only [CommandLine.readFrom, Flag.argument, shape_flag (equals_not_mem_long _) hnil, hread]
    exact ih h' hnodup
  | short fs hnil _ ih =>
    rw [← List.append_assoc] at hnodup ⊢
    obtain ⟨r', hread, h'⟩ := h.readShort fs (hnodup.sublist ((List.sublist_append_left _ _).map _))
    simp only [CommandLine.readFrom, shape_cluster hnil, hread]
    exact ih h' hnodup

/-- Two readings of the same options hold the same, in whatever order the options come. -/
theorem perm {r' : Reading} {cs' : List Choice} (h : r.Holds cs) (h' : r'.Holds cs') (horder : cs.Perm cs') :
    r.given.Perm r'.given ∧ r.root = r'.root ∧ r.name = r'.name ∧ r.format = r'.format := by
  refine ⟨?_, eq_of_toList_perm ?_, eq_of_toList_perm ?_, eq_of_toList_perm ?_⟩
  · rw [h.given, h'.given]
    exact horder.map _
  · rw [h.root, h'.root]
    exact horder.filterMap _
  · rw [h.name, h'.name]
    exact horder.filterMap _
  · rw [h.format, h'.format]
    exact horder.filterMap _

end Reading.Holds

/-! ## All ways to write a request -/

namespace Request

variable {q : Request}

/-- The request as it is read when its options are given in the order of the help text. -/
def reading (q : Request) : Reading where
  given := q.choices.map Choice.key
  root := q.root.map Subtype.val
  name := q.name
  format := q.format.map Spelling.format

theorem holds_reading (q : Request) : q.reading.Holds q.choices := by
  obtain ⟨root, name, format, verbose, quiet⟩ := q
  cases root <;> cases name <;> cases format <;> cases verbose <;> cases quiet <;>
    exact ⟨rfl, rfl, rfl, rfl, rfl⟩

theorem nodup_given (q : Request) : q.reading.given.Nodup := by
  obtain ⟨root, name, format, verbose, quiet⟩ := q
  cases root <;> cases name <;> cases format <;> cases verbose <;> cases quiet <;>
    simp [reading, choices, Choice.key, Value.key, Flag.key]

theorem contains_flags (q : Request) :
    q.reading.given.contains .verbose = q.verbose ∧ q.reading.given.contains .quiet = q.quiet := by
  obtain ⟨root, name, format, verbose, quiet⟩ := q
  cases root <;> cases name <;> cases format <;> cases verbose <;> cases quiet <;> exact ⟨rfl, rfl⟩

theorem filter_flags (hverbose : q.verbose = true) (hquiet : q.quiet = true) :
    q.reading.given.filter (fun k => k == .verbose || k == .quiet) = [.verbose, .quiet] := by
  obtain ⟨root, name, format, verbose, quiet⟩ := q
  cases hverbose
  cases hquiet
  cases root <;> cases name <;> cases format <;> rfl

end Request

/-- A reading that holds a request in some order amounts to the request. -/
theorem Reading.Holds.arguments {q : Request} {r : Reading} (h : r.Holds cs) (horder : cs.Perm q.choices) :
    (¬ (q.verbose = true ∧ q.quiet = true) → r.arguments = .ok q.arguments) ∧
      (q.verbose = true → q.quiet = true → ∃ first second,
        (cs.map Choice.key).filter (fun k => k == .verbose || k == .quiet) = [first, second] ∧
          r.arguments = .error (.conflict first second ((cs.map Choice.key).erase second))) := by
  obtain ⟨hgiven, hroot, hname, hformat⟩ := h.perm q.holds_reading horder
  obtain ⟨hverbose, hquiet⟩ := q.contains_flags
  rw [← hgiven.contains_eq] at hverbose hquiet
  constructor
  · intro hapart
    rw [Reading.arguments, hverbose, hquiet, if_neg hapart, hroot, hname, hformat]
    rfl
  · intro hloud hsilent
    -- in which order the two flags come is not known, but there are two of them
    obtain ⟨first, second, hflags⟩ : ∃ first second,
        r.given.filter (fun k => k == .verbose || k == .quiet) = [first, second] := by
      have hlength := (hgiven.filter fun k => k == .verbose || k == .quiet).length_eq
      rw [Request.filter_flags hloud hsilent] at hlength
      exact List.length_eq_two.1 hlength
    rw [← h.given]
    refine ⟨first, second, hflags, ?_⟩
    rw [Reading.arguments, hverbose, hquiet, if_pos ⟨hloud, hsilent⟩, hflags]

/-- However a request is written, in any order and with flags by their names or their letters, it is read as
what it asks for. If it asks for both flags, it is refused for the two, named in the order in which they
are given. -/
theorem Arguments.parse_spelled (q : Request) {args : List Bytes} (horder : cs.Perm q.choices)
    (hspells : Spells cs args) :
    (¬ (q.verbose = true ∧ q.quiet = true) → Arguments.parse args = .ok q.arguments) ∧
      (q.verbose = true → q.quiet = true → ∃ first second,
        (cs.map Choice.key).filter (fun k => k == .verbose || k == .quiet) = [first, second] ∧
          Arguments.parse args = .error (.conflict first second ((cs.map Choice.key).erase second))) := by
  have hnodup : (([] ++ cs).map Choice.key).Nodup := (horder.map Choice.key).nodup_iff.2 q.nodup_given
  obtain ⟨r, hread, hholds⟩ := Reading.Holds.start.readFrom hspells hnodup
  simp only [Arguments.parse, hread]
  exact hholds.arguments horder

/-! ## Values that look like options -/

/-- A root that is not UTF-8 and has an `=` in it. -/
def oddRoot : { p : Path // p.bytes ≠ [] } := ⟨⟨[0xFF, equals]⟩, by decide⟩

/-- The name of a format, not in the usual letters. -/
def oddFormat : Spelling := ⟨"Tar.GZ", .tarGz, by decide⟩

/-- A request for more to be shown, where the name looks like an option with a value. -/
def oddRequest : Request := ⟨some oddRoot, some "--quiet=x", some oddFormat, true, false⟩

/-- A request with an empty name, and for both more and less to be shown. -/
def tornRequest : Request := ⟨none, some "", none, true, true⟩

/-- The first request is read from arguments in another order, and the second is refused although its flags
are in one argument. -/
theorem odd_read_torn_refused :
    Arguments.parse [Text.ofString "--format=Tar.GZ", Text.ofString "-v",
        Text.ofString "--root=" ++ [0xFF, equals], Text.ofString "--name=--quiet=x"] =
      .ok ⟨some ⟨[0xFF, equals]⟩, "--quiet=x", .tarGz, true, false⟩ ∧
    Arguments.parse [Text.ofString "-qv", Text.ofString "--name="] =
      .error (.conflict .quiet .verbose [.quiet, .name]) := by
  constructor
  · have hspells := Spells.value (.format oddFormat) (.short [.verbose] (by decide)
      (.value (.root oddRoot) (.value (.name "--quiet=x") .nil)))
    have horder : (oddRequest.choices.drop 2 ++ oddRequest.choices.take 2).Perm oddRequest.choices :=
      List.perm_append_comm
    exact (Arguments.parse_spelled oddRequest horder hspells).1 (by decide)
  · have hspells := Spells.short [.quiet, .verbose] (by decide) (.value (.name "") .nil)
    have horder : (tornRequest.choices.reverse).Perm tornRequest.choices := List.reverse_perm _
    obtain ⟨first, second, hflags, hrefused⟩ :=
      (Arguments.parse_spelled tornRequest horder hspells).2 rfl rfl
    have hboth : [Key.quiet, Key.verbose] = [first, second] := hflags
    cases hboth
    exact hrefused

end ReleaseBundle.CommandLine
