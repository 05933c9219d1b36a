import ReleaseBundle.Console.Escape
import ReleaseBundle.Log
import ReleaseBundle.Pattern.Search

/-!
# Which log records are shown

A filter is written as directives between commas. A directive is a level for everything, the start of a
target for everything from there, or both with `=` between them. A directive replaces an earlier one for
the same target. Of the directives that fit a record the one with the longest target decides. Without
directives only errors are shown. A slash after the directives begins a pattern that has to occur in a
record for it to be shown. What cannot be read is left out, with a warning.
-/

namespace ReleaseBundle

/-- A directive: records whose target starts with the text are shown up to the rank of a level. A
directive without a target is for all records. -/
structure LogDirective where
  target : Option String
  rank : Nat
  deriving DecidableEq

/-- A filter: its directives, and a pattern for the records if there is one. -/
structure LogFilter where
  directives : List LogDirective
  pattern : Option Pattern.Expression

namespace LogFilter

/-- The names of the levels, with the rank up to which records are shown. -/
def levels : List (String × Nat) :=
  [("off", 0), ("error", 1), ("warn", 2), ("info", 3), ("debug", 4), ("trace", 5)]

/-- The rank of the level with the given name, in any letter case. -/
def rank? (s : String) : Option Nat := levels.lookup (Text.lower s)

/-- The rank at which everything is shown. -/
def highest : Nat := 5

/-- Splits a text at a character. -/
def split (at_ : Char) : List Char → List (List Char)
  | [] => [[]]
  | c :: cs =>
    if c = at_ then [] :: split at_ cs
    else
      match split at_ cs with
      | part :: parts => (c :: part) :: parts
      | [] => [[c]]

/-- Reads one directive, or answers the part of it that cannot be read. There is none between two
commas. -/
def readDirective (text : List Char) : Except String (Option LogDirective) :=
  let text := Text.trim text
  match split '=' text with
  | [[]] => .ok none
  | [cs] =>
    match rank? (String.ofList cs) with
    | some rank => .ok (some ⟨none, rank⟩)
    | none => .ok (some ⟨some (String.ofList cs), highest⟩)
  | [target, level] =>
    let level := String.ofList (Text.trim level)
    if level = "" then .ok (some ⟨some (String.ofList target), highest⟩)
    else
      match rank? level with
      | some rank => .ok (some ⟨some (String.ofList target), rank⟩)
      | none => .error level
  | _ => .error (String.ofList text)

/-- Reads directives, and collects what cannot be read. -/
def readDirectives : List (List Char) → List LogDirective × List String
  | [] => ([], [])
  | text :: texts =>
    let (directives, unread) := readDirectives texts
    match readDirective text with
    | .ok none => (directives, unread)
    | .ok (some d) => (d :: directives, unread)
    | .error part => (directives, part :: unread)

/-- Adds a directive: in the place of the one for the same target, or at the end. -/
def insert (d : LogDirective) : List LogDirective → List LogDirective
  | [] => [d]
  | e :: es => if e.target = d.target then d :: es else e :: insert d es

/-- The filter of directives; without any, errors are shown. -/
def ofDirectives (ds : List LogDirective) (pattern : Option Pattern.Expression) : LogFilter :=
  if ds = [] then ⟨[⟨none, 1⟩], pattern⟩ else ⟨ds.foldl (fun es d => insert d es) [], pattern⟩

/-- The filter that shows nothing. -/
def silent : LogFilter := ⟨[⟨none, 0⟩], none⟩

/-- A warning about what is left out of a filter. -/
def warning (problem : String) : String := "warning: " ++ problem ++ ", ignoring it\n"

/-- What is wrong with a part of a filter. -/
def invalid (part : String) : String := "invalid logging spec '" ++ part ++ "'"

/-- The filter that a text describes, and the warnings about the parts that are left out. -/
def parse (s : String) : LogFilter × List String :=
  match split '/' s.toList with
  | [specs] =>
    let (directives, unread) := readDirectives (split ',' specs)
    (ofDirectives directives none, unread.map (warning ∘ invalid))
  | [specs, text] =>
    let (directives, unread) := readDirectives (split ',' specs)
    let warnings := unread.map (warning ∘ invalid)
    match Pattern.Expression.ofText? text with
    | .ok pattern => (ofDirectives directives (some pattern), warnings)
    | .error reason =>
      (ofDirectives directives none, warnings ++ [warning ("invalid regex filter - " ++ reason)])
  | _ => (ofDirectives [] none, [warning (invalid s ++ " (too many '/'s)")])

/-- Whether a directive is for a target. -/
def fits (target : String) (d : LogDirective) : Bool :=
  d.target.all fun start => start.toList.isPrefixOf target.toList

/-- How long the target of a directive is. -/
def reach (d : LogDirective) : Nat := (d.target.getD "").utf8ByteSize

/-- The directive that decides on a target: the longest that fits, and of equals the last. -/
def deciding? (f : LogFilter) (target : String) : Option LogDirective :=
  (f.directives.filter (fits target)).foldl
    (fun found d =>
      match found with
      | some other => if reach other ≤ reach d then some d else found
      | none => some d)
    none

/-- Whether a record is shown. -/
def shows (f : LogFilter) (r : LogRecord) : Bool :=
  match f.deciding? r.target with
  | some d => r.level.rank ≤ d.rank && f.pattern.all fun e => e.occursIn r.text
  | none => false

end LogFilter

/-- A record as an entry of the log. The lines of a text after its first are indented, and terminal
escapes are left out. -/
def LogRecord.line (r : LogRecord) : String :=
  let text := r.text.toList.flatMap fun c => if c = '\n' then "\n    ".toList else [c]
  Escape.without .pauses
    ("[" ++ r.level.label ++ (if r.level.label.length < 5 then " " else "") ++ " " ++ r.target ++
      "] " ++ String.ofList text ++ "\n")

end ReleaseBundle
