import ReleaseBundle.Shell.Evaluation

/-!
# Redirections

A redirection is expanded first and carried out then. Mistakes in the expansion end the script; a file
that cannot be opened only makes its command fail.
-/

namespace ReleaseBundle.Shell

/-- A redirection that was expanded. -/
inductive Opening where
  | file (descriptor : Nat) (mode : FileMode) (path : String)
  | duplicate (descriptor source : Nat)
  | close (descriptor : Nat)
  | document (descriptor : Nat) (body : Word)

namespace Act

/-- Expands a redirection. -/
def expandRedirect (capture : Capture) : Redirect → Act Opening
  | .file n mode w => return .file n mode (← Word.text capture w)
  | .duplicate n _ w => do
    let t ← Word.text capture w
    if t = "-" then return .close n
    else
      match t.toNat? with
      | some m => if t.length = 1 then return .duplicate n m else fail "Syntax error: Bad fd number"
      | none => fail "Syntax error: Bad fd number"
  | .document n number => do
    let body := ((← get).documents.find? fun d => d.number == number).map Document.body
    return .document n (body.getD [])

/-- The text of a fault that keeps a file from being opened. -/
def openingReason (creates : Bool) (fault : Fault) : String :=
  if fault = .os .notFound ∨ fault = .os .notDirectory then
    if creates then "Directory nonexistent" else "No such file"
  else reason fault

/-- Carries out a redirection. A document is expanded only now, and a mistake in it only makes its command
fail. -/
def redirect (capture : Capture) : Opening → Act Unit
  | .file n mode path => do
    let guarded := mode = .write && (← hasOption 'C')
    match ← openPath path mode guarded with
    | .ok number => bindDescriptor n number
    | .error fault =>
      let creates := mode != .read && !(guarded && fault = .os .isDirectory)
      if ← isExtended then fail (path ++ ": " ++ reason fault)
      fail ((if creates then "cannot create " else "cannot open ") ++ path ++ ": " ++
        openingReason creates fault)
  | .duplicate n m => do
    match ← handle? m with
    | some number => bindDescriptor n number
    | none => if n = 2 then throw .failed else fail (toString m ++ ": Bad file descriptor")
  | .close n => closeDescriptor n
  | .document n body => do
    let text := plainText (Glyph.joined " " (← wordGlyphs capture false body))
    bindDescriptor n (← newHandle ⟨.pipe (bytesOf text), true, false, false, 0⟩)

/-- Does something unless a step before it fails; then the status is that of a mistake. -/
def unlessFailing (before : Act Unit) (a : Act Nat) : Act Nat := do
  let failed ← tryCatch (do before; return false) fun
    | .failed => return true
    | stop => throw stop
  if failed then mistakeStatus else a

/-- Does something with redirections in force; if one of them fails, the status is that of a mistake. -/
def redirected (capture : Capture) (openings : List Opening) (a : Act Nat) : Act Nat :=
  withDescriptors (unlessFailing (openings.forM (redirect capture)) a)

end Act

end ReleaseBundle.Shell
