import UeMonitor.Python.Text

namespace UeMonitor.Python

/-- The Python exceptions the scripts raise, catch or let through. -/
inductive PyExc where
  | keyboardInterrupt
  | systemExit (code : Int)
  | permissionError
  | fileNotFound
  | timeoutExpired
  | brokenPipe
  | unboundLocal (name : String)
  | indexError
  | eofError
  | valueError
  | overflowError
  | other (msg : String)
  deriving DecidableEq, Repr

/-- `isinstance(e, Exception)`: what an `except Exception` catches. -/
def PyExc.isException : PyExc → Bool
  | .keyboardInterrupt | .systemExit _ => false
  | _ => true

/-- `str(e)`, as `print(f"\nError: {e}")` shows it. -/
def PyExc.str : PyExc → String
  | .keyboardInterrupt => ""
  | .systemExit code => toString code
  | .permissionError => "[Errno 13] Permission denied"
  | .fileNotFound => "[Errno 2] No such file or directory"
  | .timeoutExpired => "timed out"
  | .brokenPipe => "[Errno 32] Broken pipe"
  | .unboundLocal name =>
    "cannot access local variable '" ++ name ++ "' where it is not associated with a value"
  | .indexError => "list index out of range"
  | .eofError => "EOF when reading a line"
  | .valueError => "invalid literal for int() with base 10"
  | .overflowError => "timestamp too large to convert to C _PyTime_t"
  | .other msg => msg

/-- What can happen to one step of a run from outside the program. -/
inductive Fault where
  /-- the operator's Ctrl-C, raised as `KeyboardInterrupt` in whatever step is running -/
  | interrupt
  /-- an I/O step failing, such as a `print` to a closed pipe -/
  | raise (e : PyExc)
  deriving DecidableEq, Repr

/-- The faults of one run, by the number of the step they land on. -/
def Schedule := Nat → Option Fault

/-- A run in which nothing happens from outside. -/
def quiet : Schedule := fun _ => none

/-- A run with one Ctrl-C, landing on step `n`. -/
def interruptAt (n : Nat) : Schedule := fun k => if k = n then some .interrupt else none

/-- A run in which the I/O of step `n` fails with `e`. -/
def raiseAt (n : Nat) (e : PyExc) : Schedule := fun k => if k = n then some (.raise e) else none

/-- The capture subprocess, as the monitor sees it. -/
inductive Proc where
  | idle
  | running
  | exited (status : Int)
  | terminated
  | killed
  deriving DecidableEq, Repr

/-- No launched capture process is left running. -/
def Proc.settled : Proc → Bool
  | .running => false
  | _ => true

/-- A run's state: what has been printed, the steps taken, the capture subprocess, and the
monitor's local `packet_count` (`none` while unbound), which its `except` handler reads. -/
structure Tap where
  out : List String
  clock : Nat
  proc : Proc
  packetCount : Option Nat

def Tap.init : Tap := ⟨[], 0, .idle, none⟩

/-- A step of a script under a fault schedule, over the script's run state `σ`: it returns or
raises, and either way leaves the state it reached. -/
def Prog (σ α : Type) : Type := Schedule → σ → Except PyExc α × σ

instance {σ : Type} : Monad (Prog σ) where
  pure a := fun _ s => (.ok a, s)
  bind x f := fun φ s => match x φ s with
    | (.ok a, t) => f a φ t
    | (.error e, t) => (.error e, t)

instance {σ : Type} : MonadExceptOf PyExc (Prog σ) where
  throw e := fun _ s => (.error e, s)
  tryCatch x handle := fun φ s => match x φ s with
    | (.ok a, t) => (.ok a, t)
    | (.error e, t) => handle e φ t

/-- A step of the packet tool. -/
abbrev Py : Type → Type := Prog Tap

/-- One step of the program. A Ctrl-C may land on any step; a step doing I/O also fails
with the fault scheduled for it. -/
def tick (io : Bool) : Py Unit := fun φ s =>
  let t := { s with clock := s.clock + 1 }
  match φ s.clock with
  | some .interrupt => (.error .keyboardInterrupt, t)
  | some (.raise e) => if io then (.error e, t) else (.ok (), t)
  | none => (.ok (), t)

def update {σ : Type} (f : σ → σ) : Prog σ Unit := fun _ s => (.ok (), f s)

def inspect {σ : Type} (f : σ → α) : Prog σ α := fun _ s => (.ok (f s), s)

/-- `print(line)`; `out` keeps each printed argument, oldest first. -/
def print (line : String) : Py Unit := do
  tick true
  update fun s => { s with out := s.out ++ [line] }

def printAll : List String → Py Unit
  | [] => pure ()
  | l :: ls => do print l; printAll ls

/-- `sys.stdout.flush()`. -/
def flush : Py Unit := tick true

/-- `sys.exit(code)`. -/
def sysExit {σ : Type} (code : Int) : Prog σ α := throw (.systemExit code)

/-- How the interpreter ends a script on what its top level returned or raised. -/
inductive Exit where
  | status (code : Int)
  | uncaught (e : PyExc)
  deriving DecidableEq, Repr

def Exit.ofResult : Except PyExc Unit → Exit
  | .ok () => .status 0
  | .error (.systemExit code) => .status code
  | .error e => .uncaught e

section Laws

variable {σ α β : Type} {φ : Schedule} {s t : σ}

@[simp] theorem pure_run (a : α) : (pure a : Prog σ α) φ s = (.ok a, s) := rfl

@[simp] theorem throw_run (e : PyExc) : (throw e : Prog σ α) φ s = (.error e, s) := rfl

@[simp] theorem update_run (f : σ → σ) : update f φ s = (.ok (), f s) := rfl

@[simp] theorem inspect_run (f : σ → α) : inspect f φ s = (.ok (f s), s) := rfl

/-- A bind runs its first step, then its continuation from where that step left off. -/
theorem bind_run (x : Prog σ α) (f : α → Prog σ β) : (x >>= f) φ s = match x φ s with
    | (.ok a, t) => f a φ t
    | (.error e, t) => (.error e, t) := rfl

theorem bind_ok {x : Prog σ α} {a : α} (h : x φ s = (.ok a, t)) (f : α → Prog σ β) :
    (x >>= f) φ s = f a φ t := by
  show (match x φ s with | (.ok a, t) => f a φ t | (.error e, t) => (.error e, t)) = _
  rw [h]

theorem bind_error {x : Prog σ α} {e : PyExc} (h : x φ s = (.error e, t)) (f : α → Prog σ β) :
    (x >>= f) φ s = (.error e, t) := by
  show (match x φ s with | (.ok a, t) => f a φ t | (.error e, t) => (.error e, t)) = _
  rw [h]

/-- A bind that returns ran its first step to a value and its continuation on from there. -/
theorem bind_eq_ok {x : Prog σ α} {f : α → Prog σ β} {b : β} (h : (x >>= f) φ s = (.ok b, t)) :
    ∃ a u, x φ s = (.ok a, u) ∧ f a φ u = (.ok b, t) := by
  rcases hx : x φ s with ⟨e | a, u⟩
  · rw [bind_error hx] at h
    cases h
  · exact ⟨a, u, rfl, by rwa [bind_ok hx] at h⟩

theorem tryCatch_run (x : Prog σ α) (handle : PyExc → Prog σ α) :
    tryCatch x handle φ s = match x φ s with
      | (.ok a, t) => (.ok a, t)
      | (.error e, t) => handle e φ t := rfl

theorem tryCatch_ok {x : Prog σ α} {a : α} (h : x φ s = (.ok a, t)) (handle : PyExc → Prog σ α) :
    tryCatch x handle φ s = (.ok a, t) := by
  show (match x φ s with | (.ok a, t) => (Except.ok a, t) | (.error e, t) => handle e φ t) = _
  rw [h]

theorem tryCatch_error {x : Prog σ α} {e : PyExc} (h : x φ s = (.error e, t))
    (handle : PyExc → Prog σ α) : tryCatch x handle φ s = handle e φ t := by
  show (match x φ s with | (.ok a, t) => (Except.ok a, t) | (.error e, t) => handle e φ t) = _
  rw [h]

end Laws

section TapLaws

variable {s : Tap}

@[simp] theorem tick_quiet (io : Bool) :
    tick io quiet s = (Except.ok (), { s with clock := s.clock + 1 }) := rfl

@[simp] theorem print_quiet (line : String) :
    print line quiet s =
      (Except.ok (), { s with out := s.out ++ [line], clock := s.clock + 1 }) := rfl

@[simp] theorem flush_quiet :
    flush quiet s = (Except.ok (), { s with clock := s.clock + 1 }) := rfl

theorem printAll_quiet (ls : List String) :
    printAll ls quiet s =
      (Except.ok (), { s with out := s.out ++ ls, clock := s.clock + ls.length }) := by
  induction ls generalizing s with
  | nil => simp [printAll]
  | cons l ls ih =>
    simp only [printAll, bind_ok (print_quiet l), ih, List.append_assoc, List.singleton_append,
      List.length_cons]
    congr 2
    omega

end TapLaws

end UeMonitor.Python
