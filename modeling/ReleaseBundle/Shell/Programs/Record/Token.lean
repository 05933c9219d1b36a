import ReleaseBundle.Shell.Programs.Record.Tree

/-!
# Tokens of programs on records

A slash begins an expression where a value may stand, and divides behind one. A name with a parenthesis right
behind it is the name of a function. What cannot be read becomes a token too, so that a mistake that stands
before it is found first.
-/

namespace ReleaseBundle.Shell.Programs.Record

inductive Token where
  | number (x : Float) (shown : String)
  | text (t : String)
  | pattern (t : String)
  | name (t : String)
  /-- A name with a parenthesis behind it. -/
  | called (t : String)
  | builtin (b : Builtin) (name : String)
  | word (t : String)
  | mark (t : String)
  | newline
  | finish
  | broken (complaint : String)

namespace Token

/-- How a token is shown in a complaint. -/
def shown : Token → String
  | number _ t | text t | name t | called t | builtin _ t | word t | mark t => t
  | pattern t => "/" ++ t ++ "/"
  | newline => "end of line"
  | finish => "end of file"
  | broken t => t

/-- Whether a slash behind a token divides. -/
def isValue : Token → Bool
  | number _ _ | text _ | pattern _ | name _ | builtin _ _ => true
  | mark t => [")", "]", "$", "++", "--"].contains t
  | _ => false

/-- The words of the language. -/
def words : List String :=
  ["BEGIN", "END", "function", "func", "if", "else", "while", "for", "do", "break", "continue", "next", "nextfile",
    "exit", "return", "delete", "in", "getline", "print", "printf"]

/-- The marks of the language; one that begins with another one stands before it. -/
def marks : List String :=
  ["&&", "||", "++", "--", "+=", "-=", "*=", "/=", "%=", "^=", "==", "<=", ">=", "!=", "!~", ">>", "\x7b", "\x7d",
    "(", ")", "[", "]", ";", ",", "+", "-", "*", "/", "%", "^", "!", "<", ">", "|", "?", ":", "~", "$", "="]

/-- Text up to a quote, with its escapes, and what follows the quote. -/
def quotedAt (sofar : List Char) : List Char → Option (List Char × List Char)
  | [] => none
  | '\\' :: c :: rest => quotedAt (c :: '\\' :: sofar) rest
  | c :: rest =>
    if c = '"' then some (sofar.reverse, rest) else if c = '\n' then none else quotedAt (c :: sofar) rest

/-- Text with its escapes read. A backslash that begins no escape stands for itself. -/
def unescaped : Nat → List Char → List Char
  | 0, _ | _, [] => []
  | n + 1, '\\' :: c :: rest =>
    let (e, behind) := escapedChar (c :: rest)
    if c = '\n' then unescaped n rest
    else if e != c || c = '"' || c = '\\' then e :: unescaped n behind
    else '\\' :: c :: unescaped n rest
  | n + 1, c :: rest => c :: unescaped n rest

/-- A text with its escapes read. -/
def plain (t : List Char) : String := String.ofList (unescaped (t.length + 1) t)

/-- The text of an expression up to its slash, and what follows the slash. Inside a set a slash is ordinary. -/
def patternAt (inSet : Bool) (sofar : List Char) : List Char → Option (List Char × List Char)
  | [] => none
  | '\\' :: c :: rest =>
    if c = '/' then patternAt inSet ('/' :: sofar) rest else patternAt inSet (c :: '\\' :: sofar) rest
  | c :: rest =>
    if c = '\n' then none
    else if c = '/' && !inSet then some (sofar.reverse, rest)
    else
      let inSet := if c = '[' then true else if c = ']' then false else inSet
      patternAt inSet (c :: sofar) rest

/-- The token of a name. -/
def ofName (t : String) (rest : List Char) : Token :=
  if words.contains t then .word t
  else
    match Builtin.ofName? t with
    | some b => .builtin b t
    | none => if rest.head? = some '(' then .called t else .name t

/-- The part of a text on its first line, as a complaint about it shows it. -/
def torn (mark : Char) (cs : List Char) : String :=
  String.ofList (mark :: (cs.takeWhile (· != '\n')).take 10) ++ " ..."

/-- The token at the start of a text, and what follows it. The text is not empty. -/
def next (previous : Option Token) (c : Char) (rest : List Char) : Token × List Char :=
  if c = '\n' then (.newline, rest)
  else if c = '"' then
    match quotedAt [] rest with
    | some (t, rest) => (.text (plain t), rest)
    | none => (.broken ("runaway string constant " ++ torn c rest), [])
  else if c = '/' && !(previous.any isValue) then
    match patternAt false [] rest with
    | some (t, rest) => (.pattern (String.ofList t), rest)
    | none => (.broken ("runaway regular expression " ++ torn c rest), [])
  else if c.isAlpha || c = '_' then
    let name := (c :: rest).takeWhile Expression.isWord
    let rest := (c :: rest).drop name.length
    (ofName (String.ofList name) rest, rest)
  else
    match if c.isDigit || c = '.' then decimalAt? (c :: rest) else none with
    | some (x, behind) => (.number x (String.ofList ((c :: rest).take (rest.length + 1 - behind.length))), behind)
    | none =>
      match marks.find? fun m => m.toList.isPrefixOf (c :: rest) with
      | some m => (.mark m, (c :: rest).drop m.length)
      | none => (.broken ("unexpected character '" ++ c.toString ++ "'"), [])

/-- The tokens of a text with their lines, the last first. -/
def read (sofar : List (Token × Nat)) (line : Nat) : Nat → List Char → List (Token × Nat)
  | 0, _ | _, [] => (.finish, line) :: sofar
  | n + 1, c :: rest =>
    if c = ' ' || c = '\t' || c = '\r' then read sofar line n rest
    else if c = '#' then read sofar line n (rest.dropWhile (· != '\n'))
    else if c = '\\' && rest.head? = some '\n' then read sofar (line + 1) n (rest.drop 1)
    else
      let (t, behind) := next (sofar.head?.map Prod.fst) c rest
      match t with
      | .broken _ => (t, line) :: sofar
      | t => read ((t, line) :: sofar) (if c = '\n' then line + 1 else line) n behind

/-- The tokens of a program. Its last line has an end. -/
def all (program : String) : List (Token × Nat) :=
  let text := if program.endsWith "\n" then program else program ++ "\n"
  (read [] 1 (text.length + 1) text.toList).reverse

end Token

end ReleaseBundle.Shell.Programs.Record
