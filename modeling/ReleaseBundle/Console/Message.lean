import ReleaseBundle.Artifact
import ReleaseBundle.Console.Escape

/-!
# What the operator sees

Progress and results are written to the standard output, and quiet runs do without them; failures and
hints are written to the error output and always shown. A message is made of spans, and colour is a
span of its own: the text of a message is what is left of it when the colours are taken away, so
colours cannot change what is said.
-/

namespace ReleaseBundle

/-- Where a text is written. -/
inductive Channel where
  | out
  | err
  deriving DecidableEq

/-- The colours of marks. -/
inductive Colour where
  | red
  | green
  | blue
  | cyan
  deriving DecidableEq

def Colour.digit : Colour → String
  | red => "1"
  | green => "2"
  | blue => "4"
  | cyan => "6"

/-- A part of a message. -/
inductive Span where
  | text (s : String)
  | paint (colour : Colour) (bold : Bool)
  | unpaint
  deriving DecidableEq

namespace Span

def render (coloured : Bool) : Span → String
  | text s => s
  | paint colour bold =>
    if coloured then
      Escape.reset ++ (if bold then "\x1b[1m" else "") ++ "\x1b[3" ++ colour.digit ++ "m"
    else ""
  | unpaint => if coloured then Escape.reset else ""

end Span

/-- What can be said to the operator. -/
inductive Message where
  | success (text : String)
  /-- Details, for verbose runs only. -/
  | detail (text : String)
  /-- The header that announces a release. -/
  | header (title : String)
  | plain (text : String)
  | artifact (a : Artifact)
  | failure (text : String)
  | recovery (suggestions : List String)
  deriving DecidableEq

/-- How much is shown. -/
structure Verbosity where
  verbose : Bool
  quiet : Bool
  deriving DecidableEq

namespace Message

def channel : Message → Channel
  | failure _ | recovery _ => .err
  | _ => .out

/-- Whether a message is shown. -/
def isShown (v : Verbosity) : Message → Bool
  | failure _ | recovery _ => true
  | detail _ => v.verbose && !v.quiet
  | _ => !v.quiet

/-- A line that starts with a coloured mark. -/
def marked (mark : String) (colour : Colour) (bold : Bool) (text : String) : List Span :=
  [.paint colour bold, .text mark, .unpaint, .text (" " ++ text ++ "\n")]

/-- What is published about an artifact, line by line. -/
def artifactLines (a : Artifact) : List String :=
  ["Version: " ++ a.version, "Size:    " ++ toString a.size ++ " bytes", "SHA256:  " ++ a.checksum]

def spans : Message → List Span
  | success text => marked "✓" .green true text
  | detail text => marked "→" .blue false text
  | header title => [.paint .cyan true, .text ("═══ " ++ title ++ " ═══\n"), .unpaint]
  | plain text => [.text (text ++ "\n")]
  | artifact a =>
    marked "✓" .green true ("Created " ++ a.path.display) ++
      (artifactLines a).map fun line => .text ("    " ++ line ++ "\n")
  | failure text => marked "✗" .red true text
  | recovery [] => []
  | recovery suggestions =>
    .text "  Recovery suggestions:\n" :: suggestions.map fun s => .text ("    • " ++ s ++ "\n")

/-- The text of a message. -/
def render (coloured : Bool) (m : Message) : String :=
  (m.spans.map (Span.render coloured)).foldl (· ++ ·) ""

/-- The bytes of the mark of a failure: a cross, red and bold where there are colours. -/
def cross (coloured : Bool) : Bytes :=
  if coloured then
    [0x1B, 0x5B, 0x30, 0x6D, 0x1B, 0x5B, 0x31, 0x6D, 0x1B, 0x5B, 0x33, 0x31, 0x6D, 0xE2, 0x9C, 0x97,
      0x1B, 0x5B, 0x30, 0x6D]
  else [0xE2, 0x9C, 0x97]

/-- A failure is one line: the mark, a blank and the text. -/
theorem ofString_render_failure (coloured : Bool) (text : String) :
    Text.ofString ((failure text).render coloured) =
      cross coloured ++ 0x20 :: (Text.ofString text ++ [0x0A]) := by
  have hmark : ∀ mark : String, Text.ofString mark = cross coloured →
      Text.ofString (mark ++ (" " ++ text ++ "\n")) =
        cross coloured ++ 0x20 :: (Text.ofString text ++ [0x0A]) := by
    intro mark h
    rw [Text.ofString_append, Text.ofString_append, Text.ofString_append, h]
    rfl
  cases coloured with
  | false => exact hmark "✗" rfl
  | true => exact hmark "\x1b[0m\x1b[1m\x1b[31m✗\x1b[0m" rfl

/-- What a message writes to a channel in a run with the given verbosity. -/
def shown (v : Verbosity) (coloured : Bool) (c : Channel) (m : Message) : String :=
  if m.isShown v && m.channel == c then m.render coloured else ""

end Message

/-- Whether colours are used: the terminal has to be known and not `dumb`, and colours must not be
switched off. -/
def usesColour (terminal : Option String) (noColour : Bool) : Bool :=
  match terminal with
  | none => false
  | some t => t != "dumb" && !noColour

end ReleaseBundle
