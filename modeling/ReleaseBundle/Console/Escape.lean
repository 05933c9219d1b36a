import ReleaseBundle.Bytes.Text

/-!
# Terminal escapes

A terminal takes some characters as commands: the controls, and the sequences that the escape character
begins. `without` is what stays of a text when they are taken out. Sequences end as a terminal sees them
end, so one that is cut short also takes the characters behind it that it could be continued with. Blanks
and line ends are controls that stay. One inside a sequence interrupts it: the characters behind the blank
are shown up to the next control. In a text that is written out the sequence then goes on, unless a character
beyond ASCII was shown meanwhile; in any other text it is over.
-/

namespace ReleaseBundle.Escape

/-- The escape that ends all colours. -/
def reset : String := "\x1b[0m"

/-- What becomes of a sequence that a blank or a line end interrupts. -/
inductive Interruption where
  | ends
  | pauses
  deriving DecidableEq

/-- What a terminal waits for. -/
inductive Mode where
  /-- Characters to show. -/
  | ground
  /-- What kind of sequence it is. -/
  | escape
  | escapeIntermediate
  /-- A control sequence, such as one that changes the colour. -/
  | control
  | controlParameter
  | controlIntermediate
  | controlIgnored
  /-- A sequence for a device. -/
  | device
  | deviceParameter
  | deviceIntermediate
  | deviceIgnored
  /-- A command of the operating system, such as a title. -/
  | command
  /-- Text that is never shown. -/
  | string
  deriving DecidableEq

/-- The control bytes that a sequence leaves alone. -/
def isControl (b : UInt8) : Bool := b < 0x20

/-- Where a sequence goes on behind the escape character. -/
def afterEscape (b : UInt8) : Mode :=
  if isControl b || b == 0x7F || 0x80 ≤ b then .escape
  else if b < 0x30 then .escapeIntermediate
  else if b == 0x5B then .control
  else if b == 0x5D then .command
  else if b == 0x50 then .device
  else if b == 0x58 || b == 0x5E || b == 0x5F then .string
  else .ground

/-- Where a sequence goes on that is made of parameters, intermediate bytes and a final byte. -/
def afterByte (here parameter intermediate final : Mode) (b : UInt8) : Mode :=
  if isControl b || b == 0x7F || 0x80 ≤ b then here
  else if b < 0x30 then intermediate
  else if b < 0x40 then parameter
  else final

/-- The bytes `<`, `=`, `>` and `?`, which only begin parameters. -/
def isPrivate (b : UInt8) : Bool := 0x3C ≤ b && b ≤ 0x3F

/-- What a terminal waits for after a byte that it does not show. -/
def Mode.next (m : Mode) (b : UInt8) : Mode :=
  if b == 0x18 || b == 0x1A then .ground
  else if b == 0x1B then .escape
  else
    match m with
    | ground => .ground
    | escape => afterEscape b
    | escapeIntermediate =>
      afterByte .escapeIntermediate .ground .escapeIntermediate .ground b
    | control => afterByte .control .controlParameter .controlIntermediate .ground b
    | controlParameter =>
      if isPrivate b then .controlIgnored
      else afterByte .controlParameter .controlParameter .controlIntermediate .ground b
    | controlIntermediate =>
      afterByte .controlIntermediate .controlIgnored .controlIntermediate .ground b
    | controlIgnored => afterByte .controlIgnored .controlIgnored .controlIgnored .ground b
    | device => afterByte .device .deviceParameter .deviceIntermediate .string b
    | deviceParameter =>
      if isPrivate b then .deviceIgnored
      else afterByte .deviceParameter .deviceParameter .deviceIntermediate .string b
    | deviceIntermediate =>
      afterByte .deviceIntermediate .deviceIgnored .deviceIntermediate .string b
    | deviceIgnored | string => if b == 0x9C then .ground else m
    | command => if b == 0x07 then .ground else .command

/-- The blanks and line ends that are shown wherever they stand. -/
def isSpacing (b : UInt8) : Bool := b == 0x20 || b == 0x09 || b == 0x0A || b == 0x0C || b == 0x0D

/-- Whether a byte ends what is not shown: it is shown itself, or begins a character that is. -/
def Mode.shows (m : Mode) (b : UInt8) : Bool :=
  match m with
  | ground => (0x20 ≤ b && b < 0x7F) || (0xC2 ≤ b && b ≤ 0xF4) || isSpacing b
  | escape | escapeIntermediate | control | controlParameter | controlIntermediate
  | controlIgnored => isSpacing b && isControl b
  | _ => false

/-- Whether a byte is shown behind one that was. -/
def isShown (b : UInt8) : Bool :=
  (0x20 ≤ b && b < 0xC0 && b != 0x7F) || (0xC2 ≤ b && b ≤ 0xF4) || isSpacing b

/-- What a terminal waits for after a byte that it shows. -/
def Mode.resumed (m : Mode) (i : Interruption) (b : UInt8) : Mode :=
  match i with
  | .ends => .ground
  | .pauses => if 0x80 ≤ b then .ground else m

/-- The bytes that are shown, where `showing` says whether the last one was. -/
def visible (i : Interruption) (showing : Bool) (m : Mode) : Bytes → Bytes
  | [] => []
  | b :: bs =>
    if if showing then isShown b else m.shows b then b :: visible i true (m.resumed i b) bs
    else visible i false (m.next b) bs

/-- What stays of a text without terminal escapes. -/
def without (i : Interruption) (text : String) : String :=
  Text.display (visible i false .ground (Text.ofString text))

end ReleaseBundle.Escape
