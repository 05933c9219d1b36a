/-!
# Permission bits in words

Permission bits are given as octal digits or as changes: who is affected, whether rights are added, taken
or set, and which rights. Where nobody is named, all are affected except for what the mask of the process
forbids.
-/

namespace ReleaseBundle.Shell.Mode

/-- The number that octal digits denote. -/
def octal? (text : String) : Option Nat :=
  if text != "" && text.toList.all fun c => '0' ≤ c && c ≤ '7' then
    some (text.toList.foldl (fun n c => 8 * n + (c.toNat - 48)) 0)
  else none

/-- All bits. -/
def all : Nat := 0o7777

/-- The bits without some others. -/
def without (bits others : Nat) : Nat := bits &&& (all ^^^ (others &&& all))

/-- The bits that belong to a letter for somebody. -/
def who? : Char → Option Nat
  | 'u' => some 0o4700
  | 'g' => some 0o2070
  | 'o' => some 0o1007
  | 'a' => some all
  | _ => none

/-- The rights that a letter grants to everybody. A capital `X` grants execution only if somebody has it
already or the file is a directory. -/
def right? (isDirectory : Bool) (bits : Nat) : Char → Option Nat
  | 'r' => some 0o444
  | 'w' => some 0o222
  | 'x' => some 0o111
  | 'X' => some (if isDirectory || bits &&& 0o111 != 0 then 0o111 else 0)
  | 's' => some 0o6000
  | 't' => some 0o1000
  | _ => none

/-- The rights that somebody has, granted to everybody. -/
def copied? (bits : Nat) : Char → Option Nat
  | 'u' => some (bits / 64 % 8 * 0o111)
  | 'g' => some (bits / 8 % 8 * 0o111)
  | 'o' => some (bits % 8 * 0o111)
  | _ => none

/-- The rights that letters grant together. -/
def rights? (isDirectory : Bool) (bits : Nat) (letters : List Char) : Option Nat :=
  match letters with
  | [c] => (copied? bits c).or (right? isDirectory bits c)
  | cs => cs.foldlM (fun sofar c => (right? isDirectory bits c).map (sofar ||| ·)) 0

def isOperator (c : Char) : Bool := c == '+' || c == '-' || c == '='

/-- Applies what stands behind somebody's letters: one operator after the other, each with its rights. -/
def actions (mask affected : Nat) (isDirectory : Bool) : Nat → List Char → Nat → Option Nat
  | 0, _, bits => some bits
  | _, [], bits => some bits
  | limit + 1, o :: cs, bits =>
    let letters := cs.takeWhile fun c => !isOperator c
    let granted? :=
      if affected = 0 && letters.any Char.isDigit then (octal? (String.ofList letters)).filter (· ≤ all)
      else
        (rights? isDirectory bits letters).map fun r =>
          if affected = 0 then without r mask else r &&& affected
    match if isOperator o then granted? else none with
    | none => none
    | some granted =>
      let kept := if affected = 0 then 0 else without bits affected
      let bits :=
        if o = '+' then bits ||| granted
        else if o = '-' then without bits granted
        else kept ||| granted
      actions mask affected isDirectory limit (cs.drop letters.length) bits

/-- Applies one change. -/
def clause (mask : Nat) (isDirectory : Bool) (bits : Nat) (text : String) : Option Nat :=
  let who := text.toList.takeWhile fun c => (who? c).isSome
  let behind := text.toList.drop who.length
  let affected := who.foldl (fun sofar c => sofar ||| (who? c).getD 0) 0
  if behind.isEmpty then none else actions mask affected isDirectory behind.length behind bits

/-- The bits that a description makes of others. -/
def applied? (mask : Nat) (isDirectory : Bool) (text : String) (bits : Nat) : Option Nat :=
  if (text.toList.head?.map Char.isDigit) = some true then (octal? text).filter (· ≤ all)
  else (text.splitOn ",").foldlM (clause mask isDirectory) bits

/-- The rights of one group as letters. -/
def letters (rights : Nat) (special : Bool) (mark : Char) : String :=
  let x := rights % 2 == 1
  String.ofList
    [if rights / 4 % 2 == 1 then 'r' else '-', if rights / 2 % 2 == 1 then 'w' else '-',
      if special then (if x then mark else mark.toUpper) else if x then 'x' else '-']

/-- The bits as nine letters. -/
def text (bits : Nat) : String :=
  letters (bits / 64 % 8) (bits / 2048 % 2 == 1) 's' ++ letters (bits / 8 % 8) (bits / 1024 % 2 == 1) 's' ++
    letters (bits % 8) (bits / 512 % 2 == 1) 't'

/-- A number in octal digits. -/
def digits (n : Nat) : String := String.ofList (Nat.toDigits 8 n)

/-- A number in octal digits, with zeros in front up to a width. -/
def padded (width n : Nat) : String :=
  let ds := digits n
  String.ofList (List.replicate (width - ds.length) '0') ++ ds

end ReleaseBundle.Shell.Mode
