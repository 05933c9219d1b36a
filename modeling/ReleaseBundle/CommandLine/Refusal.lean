import ReleaseBundle.CommandLine.Options
import ReleaseBundle.Console.Escape

/-!
# Why arguments do not lead to a run

Arguments can be wrong, or ask for a text instead of a run. Every message ends in a hint on the help,
and most show how the program is used: with the options that were given, or with options in general.

Messages are composed for a terminal that shows what the operator wrote in colour, and `message` is what
stays of them without the escapes. So escapes in the arguments are never shown either.
-/

namespace ReleaseBundle.CommandLine

/-- What ends the reading of arguments. -/
inductive Refusal where
  /-- The argument is none of the options; perhaps a similar one was meant. -/
  | unknown (shown : String) (meant : Option Key) (used : List Key)
  /-- The option takes no value. Other options may have been given before it. -/
  | unexpectedValue (k : Key) (value : String) (others : Bool)
  | missingValue (k : Key)
  | badValue (k : Key) (value reason : String)
  | notUtf8
  | repeated (k : Key)
  | conflict (first second : Key) (used : List Key)
  | help (long : Bool)
  | version
  deriving DecidableEq

/-- The name of the program in texts. -/
def programName : String := "repraxis_bundler_release"

/-- The version of the program. -/
def programVersion : String := "0.1.0"

/-- The options that follow the name of the program in a usage line. -/
def usage (used : List Key) : String :=
  let parts := if used = [] then ["[OPTIONS]"] else used.eraseDups.map Key.shown
  "Usage: " ++ " ".intercalate (programName :: parts)

/-- The usage line for an option that may stand behind others. The program's own options are shown as a
choice then. -/
def usageOf (k : Key) (others : Bool) : String :=
  let parts :=
    if others then (if k.isOwn then [] else [k.shown]) ++ [Key.choice] else [k.shown]
  "Usage: " ++ " ".intercalate (programName :: parts)

def shortHelp : String :=
  "Build the project and package a versioned release archive\n\n" ++ usage [] ++ "\n\n" ++
"Options:
      --root <DIR>       Repository root (defaults to the current directory)
      --name <NAME>      Artifact base name; also locates src/<NAME>/<NAME>.csproj and dist/<NAME> [default: RePraxis]
      --format <FORMAT>  Archive format: zip or tar.gz [default: zip]
  -v, --verbose          Show debug output
  -q, --quiet            Only print errors
  -h, --help             Print help (see more with '--help')
  -V, --version          Print version
"

def longHelp : String :=
"Build the project in release mode, copy LICENSE.md and README.md into the
build output, and pack it as dist/<name>_<version>.zip.

The version is read from the <Version> element of src/<name>/<name>.csproj.
Nothing is packaged when the build fails.

Usage:
  repraxis_bundler_release
  repraxis_bundler_release --root /path/to/repo
  repraxis_bundler_release --format tar.gz

" ++ usage [] ++ "\n\n" ++
"Options:
      --root <DIR>
          Repository root (defaults to the current directory)

      --name <NAME>
          Artifact base name; also locates src/<NAME>/<NAME>.csproj and dist/<NAME>\n          \n          [default: RePraxis]

      --format <FORMAT>
          Archive format: zip or tar.gz\n          \n          [default: zip]

  -v, --verbose
          Show debug output

  -q, --quiet
          Only print errors

  -h, --help
          Print help (see a summary with '-h')

  -V, --version
          Print version
"

namespace Refusal

/-- What the operator wrote, in colour. -/
def emphasized (text : String) : String := "\x1b[33m" ++ text ++ Escape.reset

/-- What is wrong, in one line. -/
def summary : Refusal → String
  | unknown shown _ _ => "unexpected argument '" ++ emphasized shown ++ "' found"
  | unexpectedValue k value _ =>
    "unexpected value '" ++ emphasized value ++ "' for '" ++ k.shown ++ "' found; no more were expected"
  | missingValue k => "a value is required for '" ++ k.shown ++ "' but none was supplied"
  | badValue k value reason =>
    "invalid value '" ++ emphasized value ++ "' for '" ++ k.shown ++ "': " ++ reason
  | notUtf8 => "invalid UTF-8 was detected in one or more arguments"
  | repeated k => "the argument '" ++ k.shown ++ "' cannot be used multiple times"
  | conflict first second _ =>
    "the argument '" ++ first.shown ++ "' cannot be used with '" ++ second.shown ++ "'"
  | help _ => ""
  | version => ""

/-- The usage line of a message, unless it has none. -/
def usageLine? : Refusal → Option String
  | unknown _ _ used => some (usage used)
  | unexpectedValue k _ others => some (usageOf k others)
  | conflict _ _ used => some (usage used)
  | repeated _ => some (usage [])
  | notUtf8 => some (usage [])
  | _ => none

/-- The hint on a similar option. -/
def tip? : Refusal → Option String
  | unknown _ (some k) _ => some ("  tip: a similar argument exists: '--" ++ k.long ++ "'")
  | _ => none

/-- The text that is shown instead of a run, where escapes are taken out in the given way. -/
def shownAs (i : Escape.Interruption) : Refusal → String
  | help long => if long then longHelp else shortHelp
  | version => programName ++ " " ++ programVersion ++ "\n"
  | r =>
    Escape.without i
      ("\n\n".intercalate
        (["error: " ++ r.summary] ++ r.tip?.toList ++ r.usageLine?.toList ++
          ["For more information, try '--help'.\n"]))

/-- The text that tells why there is no run. -/
def message (r : Refusal) : String := r.shownAs .ends

/-- What is written out instead of a run. -/
def output (r : Refusal) : String := r.shownAs .pauses

/-- Whether the text is what was asked for, and not a complaint. -/
def isRequested : Refusal → Bool
  | help _ => true
  | version => true
  | _ => false

def exitCode (r : Refusal) : Nat := if r.isRequested then 0 else 2

end Refusal

end ReleaseBundle.CommandLine
