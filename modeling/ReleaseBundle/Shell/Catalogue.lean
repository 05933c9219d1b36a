import ReleaseBundle.Shell.Programs.Answers
import ReleaseBundle.Shell.Programs.Blocks
import ReleaseBundle.Shell.Programs.Editing
import ReleaseBundle.Shell.Programs.Finding
import ReleaseBundle.Shell.Programs.Matching
import ReleaseBundle.Shell.Programs.Reckoning
import ReleaseBundle.Shell.Programs.Records
import ReleaseBundle.Shell.Programs.Text

/-!
# The programs of the system

Which programs there are besides the shells, and what each of them does.
-/

namespace ReleaseBundle.Shell

/-- The programs that start no other ones. -/
def plainPrograms : List (String × Program) :=
  [("mkdir", Programs.makeDirectory), ("rmdir", Programs.removeDirectory), ("rm", Programs.remove),
    ("cp", Programs.copy), ("mv", Programs.move), ("ln", Programs.link), ("unlink", Programs.removeName),
    ("link", Programs.addName), ("touch", Programs.touch),
    ("chmod", Programs.setMode), ("install", Programs.install), ("truncate", Programs.truncate),
    ("ls", Programs.list), ("basename", Programs.baseName), ("dirname", Programs.dirName),
    ("readlink", Programs.readLink), ("realpath", Programs.realPath), ("stat", Programs.status),
    ("mktemp", Programs.makeTemporary), ("pwd", Programs.printDirectory), ("cat", Programs.concatenate),
    ("head", Programs.head), ("tail", Programs.tail), ("wc", Programs.wordCounts), ("sort", Programs.sort),
    ("uniq", Programs.unique), ("cut", Programs.cut), ("tr", Programs.translate), ("tee", Programs.tee),
    ("nl", Programs.numberLines), ("tac", Programs.reverseLines), ("rev", Programs.reverseChars),
    ("paste", Programs.paste), ("fold", Programs.fold), ("seq", Programs.sequence),
    ("base64", Programs.base64), ("od", Programs.dump), ("dd", Programs.copyBlocks),
    ("cmp", Programs.compareBytes), ("diff", Programs.compareLines), ("sed", Programs.streamEdit),
    ("grep", Programs.matchLines), ("expr", Programs.reckon), ("echo", Programs.echo),
    ("printf", Programs.printFormatted), ("test", Programs.test false), ("[", Programs.test true),
    ("yes", Programs.repeatForever), ("sleep", Programs.rest), ("printenv", Programs.printEnvironment),
    ("which", Programs.whereIs), ("uname", Programs.systemName), ("tty", Programs.terminal), ("date", Programs.date),
    ("id", Programs.owner), ("whoami", Programs.ownerName),
    ("sha256sum", Programs.digestOf "sha256sum" fun bs => Bytes.hex (Sha256.digest bs)),
    ("true", Programs.always 0), ("false", Programs.always 1), ("sync", Programs.always 0)]

/-- The programs that start others. -/
def launchers : List (String × Launcher) :=
  [("env", Programs.changeEnvironment), ("nohup", Programs.runDetached), ("nice", Programs.runNicely),
    ("timeout", Programs.runLimited), ("xargs", Programs.withArguments), ("find", Programs.find),
    ("awk", Programs.workOnRecords), ("mawk", Programs.workOnRecords)]

/-- The status of a program whose output gets lost, and what it says about that; nothing for a program
that does not mind. -/
def writeFailure (program : String) : Option (Nat × String) :=
  match program with
  | "env" => some (125, "write error")
  | "expr" | "tty" => some (3, "write error")
  | "ls" | "printenv" | "sort" | "grep" => some (2, "write error")
  | "diff" => some (2, "standard output")
  | "yes" => some (1, "standard output")
  | "sed" => some (4, "couldn't flush stdout")
  | "rev" | "awk" | "mawk" => none
  | _ => some (1, "write error")

end ReleaseBundle.Shell
