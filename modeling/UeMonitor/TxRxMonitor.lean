import Mathlib.Data.Rat.Defs
import UeMonitor.Python.Run

namespace UeMonitor.TxRxMonitor
open Python

/-- The host one run of the throughput sampler meets. Each query is answered as the host is at
the step that makes it, so two reads of one file, in one sample or not, may differ. -/
structure Host where
  /-- the names under `/sys/class/net` -/
  sysNet : List String
  /-- `os.path.exists` at each step -/
  pathExists : Nat → String → Bool
  /-- the text a read of each file returns at each step; `none` where opening or reading it
  raises -/
  files : Nat → String → Option String
  /-- `time.strftime('%Y-%m-%d %H:%M:%S')` at each step -/
  strftime : Nat → String

/-- The parsed command line; an absent and an empty `--interfaces` are both falsy. The interval
is the value of the float argparse reads. -/
structure Args where
  interval : ℚ
  count : Int
  interfaces : List String

/-- What `format_rate` returns, before the `,.1f` formatting of the rate. -/
inductive Rate where
  /-- the text `'0/s'` -/
  | zero
  | perSec (r : ℚ)
  deriving DecidableEq

def formatRate (delta : Int) (interval : ℚ) : Rate :=
  if interval ≤ 0 then .zero else .perSec (delta / interval)

/-- The tuple `(rxp, rxb, txp, txb)` the sampler keeps per interface. -/
structure Counters where
  rxp : Int
  rxb : Int
  txp : Int
  txb : Int
  deriving DecidableEq

/-- A row tuple of `print_table`, holding the numbers it formats: the byte counts before
`human_bytes`, the rates before their text. -/
inductive Row where
  | na (iface : String)
  | shown (iface : String) (rxp : Int) (rps : Rate) (drb : Int) (rbps : Rate) (rxb : Int)
      (txp : Int) (tps : Rate) (dtb : Int) (tbps : Rate) (txb : Int)
  deriving DecidableEq

/-- What one `print` of the sampler prints: a line of text, or the time line or a row of
`print_table`, these two holding what they format. -/
inductive Output where
  | line (s : String)
  /-- `f'Time: {timestamp}   Sample: {sample}'` -/
  | stamp (timestamp : String) (sample : Nat)
  | row (r : Row)
  deriving DecidableEq

/-- A run of the sampler: what it has printed, oldest first, and the steps it has taken. -/
structure Screen where
  out : List Output
  clock : Nat

namespace Screen

def init : Screen := ⟨[], 0⟩

/-- One step of the sampler. A Ctrl-C may land on any step; a step doing I/O also fails with
the fault scheduled for it. -/
def tick (io : Bool) : Prog Screen Unit := fun φ s =>
  let t := { s with clock := s.clock + 1 }
  match φ s.clock with
  | some .interrupt => (.error .keyboardInterrupt, t)
  | some (.raise e) => if io then (.error e, t) else (.ok (), t)
  | none => (.ok (), t)

/-- A step that asks the host, as it is at that step. -/
def query {α : Type} (io : Bool) (f : Nat → α) : Prog Screen α := do
  let n ← inspect Screen.clock
  tick io
  pure (f n)

def print (o : Output) : Prog Screen Unit := do
  tick true
  update fun s => { s with out := s.out ++ [o] }

def printAll : List Output → Prog Screen Unit
  | [] => pure ()
  | o :: os => do print o; printAll os

variable {s : Screen}

@[simp] theorem tick_quiet (io : Bool) :
    tick io quiet s = (.ok (), { s with clock := s.clock + 1 }) := rfl

@[simp] theorem query_quiet {α : Type} (io : Bool) (f : Nat → α) :
    query io f quiet s = (.ok (f s.clock), { s with clock := s.clock + 1 }) := rfl

@[simp] theorem print_quiet (o : Output) :
    print o quiet s = (.ok (), ⟨s.out ++ [o], s.clock + 1⟩) := rfl

theorem printAll_quiet (os : List Output) :
    printAll os quiet s = (.ok (), ⟨s.out ++ os, s.clock + os.length⟩) := by
  induction os generalizing s with
  | nil => simp [printAll]
  | cons o os ih =>
    rw [printAll, bind_ok (print_quiet o), ih]
    simp only [List.append_assoc, List.singleton_append, List.length_cons, Nat.add_assoc,
      Nat.add_comm 1]

end Screen

/-- `glob.glob('/sys/class/net/val*')`, the basenames sorted. -/
def detectValInterfaces (h : Host) : Prog Screen (List String) :=
  Screen.query false fun _ => globSorted h.sysNet "val"

/-- `read_stat(iface, stat)`: the counter the file holds when it is read, `None` when opening or
reading it raises or `int()` rejects its text. -/
def readStat (h : Host) (iface stat : String) : Prog Screen (Option Int) :=
  try
    let text ← Screen.query true fun n =>
      h.files n ("/sys/class/net/" ++ iface ++ "/statistics/" ++ stat)
    match text with
    | some text =>
      match pyInt (strip text) with
      | some v => pure (some v)
      | none => throw .valueError
    | none => throw (.other "OSError")
  catch e => if e.isException then pure none else throw e

/-- The four reads of one interface, in the code's order. -/
def readAll (h : Host) (iface : String) :
    Prog Screen (Option Int × Option Int × Option Int × Option Int) := do
  let rxp ← readStat h iface "rx_packets"
  let rxb ← readStat h iface "rx_bytes"
  let txp ← readStat h iface "tx_packets"
  let txb ← readStat h iface "tx_bytes"
  pure (rxp, rxb, txp, txb)

/-- The dict `prev`. -/
def Prev := String → Option Counters

/-- `prev[iface] = cur`. -/
def Prev.set (prev : Prev) (iface : String) (cur : Counters) : Prev :=
  fun i => if i = iface then some cur else prev i

/-- The `for iface in ifaces:` loop that fills `prev` before sampling, each counter read as
`read_stat(...) or 0`. -/
def initialPrev (h : Host) : Prev → List String → Prog Screen Prev
  | prev, [] => pure prev
  | prev, iface :: rest => do
    let (rxp, rxb, txp, txb) ← readAll h iface
    initialPrev h (prev.set iface ⟨rxp.getD 0, rxb.getD 0, txp.getD 0, txb.getD 0⟩) rest

/-- The row of an interface read as `cur` against `prev`'s entry `p`. -/
def shownRow (interval : ℚ) (iface : String) (cur p : Counters) : Row :=
  let drp := cur.rxp - p.rxp
  let drb := cur.rxb - p.rxb
  let dtp := cur.txp - p.txp
  let dtb := cur.txb - p.txb
  .shown iface cur.rxp (formatRate drp interval) drb (formatRate drb interval) cur.rxb
    cur.txp (formatRate dtp interval) dtb (formatRate dtb interval) cur.txb

/-- One pass of a sample's `for iface in ifaces:` loop: the row, and `prev` after it. -/
def sampleRow (h : Host) (interval : ℚ) (prev : Prev) (iface : String) :
    Prog Screen (Row × Prev) := do
  match ← readAll h iface with
  | (some rxp, some rxb, some txp, some txb) =>
    let cur : Counters := ⟨rxp, rxb, txp, txb⟩
    pure (shownRow interval iface cur ((prev iface).getD cur), prev.set iface cur)
  | _ => pure (.na iface, prev)

/-- A sample's whole `for iface in ifaces:` loop. -/
def sampleRows (h : Host) (interval : ℚ) : Prev → List String → Prog Screen (List Row × Prev)
  | prev, [] => pure ([], prev)
  | prev, iface :: rest => do
    let (row, prev) ← sampleRow h interval prev iface
    let (rows, prev) ← sampleRows h interval prev rest
    pure (row :: rows, prev)

/-- The column titles of `print_table`. -/
def tableHeader : String :=
  ljust "Interface" 20 ++ rjust "RX pkts" 10 ++ rjust "r/s" 10 ++ rjust "RX Δ" 12 ++
    rjust "rb/s" 10 ++ rjust "RX B" 12 ++ rjust "TX pkts" 10 ++ rjust "t/s" 10 ++
    rjust "TX Δ" 12 ++ rjust "tb/s" 10 ++ rjust "TX B" 12

/-- What `print_table(rows, timestamp, sample)` prints, in order. -/
def tableLines (rows : List Row) (timestamp : String) (sample : Nat) : List Output :=
  [.line ("\n" ++ repeatChar '=' 120), .stamp timestamp sample, .line (repeatChar '-' 120),
    .line tableHeader, .line (repeatChar '-' 120)] ++ rows.map .row ++
    [.line (repeatChar '=' 120)]

def printTable (rows : List Row) (timestamp : String) (sample : Nat) : Prog Screen Unit :=
  Screen.printAll (tableLines rows timestamp sample)

/-- The exception `time.sleep(secs)` raises before it sleeps. CPython turns the seconds into a
signed 64-bit count of nanoseconds, rounded away from zero, raising OverflowError when it does
not fit (below `-2^63`, or from `2^63` on once rounded up), then ValueError when it is
negative. -/
def sleepError (secs : ℚ) : Option PyExc :=
  if secs * 10 ^ 9 < -2 ^ 63 ∨ 2 ^ 63 - 1 < secs * 10 ^ 9 then some .overflowError
  else if secs < 0 then some .valueError
  else none

/-- `time.sleep(secs)`: the sleep is one step, on which a Ctrl-C may land. -/
def sleep (secs : ℚ) : Prog Screen Unit :=
  match sleepError secs with
  | some e => throw e
  | none => Screen.tick false

/-- A pass of the `while True:` loop up to its `break` test: the sleep, then sample `sample`,
its time taken, every interface read and its table printed; `prev` after it. -/
def samplePass (h : Host) (args : Args) (ifaces : List String) (sample : Nat) (prev : Prev) :
    Prog Screen Prev := do
  sleep args.interval
  let timestamp ← Screen.query false h.strftime
  let (rows, prev) ← sampleRows h args.interval prev ifaces
  printTable rows timestamp sample
  pure prev

/-- The `while True:` loop after `sample` samples, for at most `fuel` more passes. It returns
whether the loop is over, by the `break` once `count` samples are shown; `false` when it is
still sampling as the fuel runs out. -/
def sampleLoop (h : Host) (args : Args) (ifaces : List String) :
    Nat → Nat → Prev → Prog Screen Bool
  | 0, _, _ => pure false
  | fuel + 1, sample, prev => do
    let prev ← samplePass h args ifaces (sample + 1) prev
    if args.count ≠ 0 ∧ args.count ≤ sample + 1 then pure true
    else sampleLoop h args ifaces fuel (sample + 1) prev

/-- `[i for i in ifaces if os.path.exists(f'/sys/class/net/{i}')]`. -/
def filterExisting (h : Host) : List String → Prog Screen (List String)
  | [] => pure []
  | i :: rest => do
    let keep ← Screen.query false fun n => h.pathExists n ("/sys/class/net/" ++ i)
    let rest ← filterExisting h rest
    pure (if keep then i :: rest else rest)

/-- `ifaces`: `args.interfaces` if given, else the detected `val*` interfaces. -/
def chooseInterfaces (h : Host) (args : Args) : Prog Screen (List String) :=
  if args.interfaces ≠ [] then pure args.interfaces else detectValInterfaces h

/-- `main` up to its `try`: the interfaces, the two header lines and the first readings. Each
`sys.exit(1)` raises, so what follows it in the code is its `else`. -/
def start (h : Host) (args : Args) : Prog Screen (List String × Prev) := do
  let ifaces ← chooseInterfaces h args
  if ifaces = [] then do
    Screen.print (.line "No val interfaces found. Exit.")
    sysExit 1
  else do
    let ifaces ← filterExisting h ifaces
    if ifaces = [] then do
      Screen.print (.line "No valid interfaces found after filtering. Exit.")
      sysExit 1
    else do
      Screen.print (.line ("Monitoring " ++ toString ifaces.length ++ " interface(s): " ++
        ", ".intercalate ifaces))
      Screen.print (.line "Press Ctrl-C to stop")
      let prev ← initialPrev h (fun _ => none) ifaces
      pure (ifaces, prev)

/-- `main()`, its loop run for at most `fuel` passes. It returns whether the run is over:
`false` when the loop is still sampling as the fuel runs out. -/
def main (h : Host) (args : Args) (fuel : Nat) : Prog Screen Bool := do
  let (ifaces, prev) ← start h args
  try
    sampleLoop h args ifaces fuel 0 prev
  catch e =>
    if e = .keyboardInterrupt then do
      Screen.print (.line "\nStopped by user")
      pure true
    else throw e

end UeMonitor.TxRxMonitor
