import ReleaseBundle.Console.Message
import ReleaseBundle.Disk.Change
import ReleaseBundle.Log

/-!
# Jobs

A job is work on a disk that can fail. Its account tells everything that can be observed of it: the
disk it leaves, every state the disk went through, what was reported meanwhile, in order, and the
result. Jobs are put together by `bind`; a job that fails stops the ones behind it, and what it did so
far stays in the account.
-/

namespace ReleaseBundle

/-- Something that was reported during a job. -/
inductive Event where
  | logged (record : LogRecord)
  | said (message : Message)
  /-- A program that was started wrote to a channel. -/
  | wrote (channel : Channel) (bytes : Bytes)
  deriving DecidableEq

/-- What happened in a job. -/
structure Account (ε α : Type) where
  disk : Disk
  /-- The disk after each of its changes, in order. -/
  trace : List Disk
  events : List Event
  result : Except ε α

/-- Work on a disk. -/
def Job (ε α : Type) := Disk → Account ε α

namespace Job

variable {ε ε' α β : Type}

protected def pure (a : α) : Job ε α := fun d => ⟨d, [], [], .ok a⟩

protected def bind (j : Job ε α) (k : α → Job ε β) : Job ε β := fun d =>
  let first := j d
  match first.result with
  | .error e => ⟨first.disk, first.trace, first.events, .error e⟩
  | .ok a =>
    let second := k a first.disk
    ⟨second.disk, first.trace ++ second.trace, first.events ++ second.events, second.result⟩

instance : Monad (Job ε) where
  pure := Job.pure
  bind := Job.bind

/-- Gives up. -/
def fail (e : ε) : Job ε α := fun d => ⟨d, [], [], .error e⟩

/-- Looks at the disk. -/
def look (f : Disk → α) : Job ε α := fun d => ⟨d, [], [], .ok (f d)⟩

/-- Looks at the disk for something that may be missing. -/
def inspect (f : Disk → Except ε α) : Job ε α := fun d => ⟨d, [], [], f d⟩

/-- Changes the disk in one step. -/
def change (f : Disk → Disk) : Job ε Unit := fun d => ⟨f d, [f d], [], .ok ()⟩

/-- Changes the disk in one step, or leaves it alone and fails. -/
def attempt (f : Disk → Except ε (Disk × α)) : Job ε α := fun d =>
  match f d with
  | .error e => ⟨d, [], [], .error e⟩
  | .ok (d', a) => ⟨d', [d'], [], .ok a⟩

def report (e : Event) : Job ε Unit := fun d => ⟨d, [], [e], .ok ()⟩

def log (r : LogRecord) : Job ε Unit := report (.logged r)

def say (m : Message) : Job ε Unit := report (.said m)

/-- Does `undo` after a job that failed, and nothing after one that did not. -/
def orUndo (j : Job ε α) (undo : Disk → Disk) : Job ε α := fun d =>
  let first := j d
  match first.result with
  | .ok _ => first
  | .error e => ⟨undo first.disk, first.trace ++ [undo first.disk], first.events, .error e⟩

/-- Changes the kind of error. -/
def mapError (f : ε → ε') (j : Job ε α) : Job ε' α := fun d =>
  let a := j d
  ⟨a.disk, a.trace, a.events, a.result.mapError f⟩

@[simp] theorem mapError_ok (f : ε → ε') (a : α) : (Except.ok a : Except ε α).mapError f = .ok a := rfl

@[simp] theorem mapError_error (f : ε → ε') (e : ε) :
    (Except.error e : Except ε α).mapError f = .error (f e) := rfl

/-- Turns failure into a value; the job then always goes on. -/
def outcome (j : Job ε α) : Job ε' (Except ε α) := fun d =>
  let a := j d
  ⟨a.disk, a.trace, a.events, .ok a.result⟩

/-- Does a job for each member of a list, in order. -/
def each (f : α → Job ε Unit) : List α → Job ε Unit
  | [] => Job.pure ()
  | a :: as => Job.bind (f a) fun _ => each f as

end Job

end ReleaseBundle
