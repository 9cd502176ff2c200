import UeMonitor.PacketMonitor.Record

namespace UeMonitor.PacketMonitor
open Python

/-- How the live capture process behaves in one run. -/
structure Capture where
  /-- the lines it writes to its stdout, in order, before it exits on its own -/
  lines : List String
  /-- its exit status then -/
  status : Int
  /-- whether it exits within the grace period after SIGTERM -/
  graceful : Bool

/-- `subprocess.Popen(['stdbuf', '-oL'] + tshark_cmd, ...)`. -/
def popen : Py Unit := do
  tick true
  update fun s => { s with proc := .running }

/-- An assignment to `packet_count`. -/
def setCount (n : Nat) : Py Unit := do
  tick false
  update fun s => { s with packetCount := some n }

/-- Reading `packet_count`, unbound until the monitor's first assignment. -/
def getCount : Py Nat := fun _ s =>
  match s.packetCount with
  | some n => (.ok n, s)
  | none => (.error (.unboundLocal "packet_count"), s)

/-- `for line in process.stdout:` over what the capture writes; at end of file the process
has exited on its own. -/
def readLoop (c : Capture) (body : String → Py Unit) : List String → Py Unit
  | [] => do
    tick true
    update fun s => { s with proc := .exited c.status }
  | line :: rest => do
    tick true
    body line
    readLoop c body rest

/-- `process.wait()`, whose status the monitors drop. -/
def wait : Py (Option Int) := do
  tick false
  inspect fun s => match s.proc with
    | .exited status => some status
    | _ => none

def terminate (c : Capture) : Py Unit := do
  tick false
  update fun s => { s with proc := if s.proc = .running ∧ c.graceful then .terminated else s.proc }

/-- `process.wait(timeout=2)`: `TimeoutExpired` while the process still runs. -/
def waitGrace : Py Unit := do
  tick false
  if (← inspect (·.proc)) = .running then throw .timeoutExpired

def kill : Py Unit := do
  tick false
  update fun s => { s with proc := if s.proc = .running then .killed else s.proc }

/-- What distinguishes `run_simple_monitor` from `run_5tuple_monitor`. -/
structure Mode (τ : Type) where
  width : Nat
  title : String
  columns : String
  fields : List String
  decode : String → Except PyExc (Option τ)
  format : τ → Nat → String

def Mode.header (m : Mode τ) (src_ip interface : String) : List String :=
  ["\n" ++ repeatChar '=' m.width, "Monitoring packets from: " ++ src_ip,
    "Display mode: " ++ m.title, "Interface: " ++ interface, "Press Ctrl-C to stop",
    repeatChar '=' m.width, m.columns, repeatChar '-' m.width]

/-- The monitor's `tshark_cmd`, filtered on its source address. -/
def Mode.cmd (m : Mode τ) (src_ip interface : String) (count_limit : Option Int) :
    List String :=
  tsharkCmd m.fields interface ("ip.src == " ++ src_ip) count_limit

/-- What `--debug` prints before the capture starts. -/
def Mode.debugLines (m : Mode τ) (src_ip interface : String) (count_limit : Option Int) :
    List String :=
  ["Debug: Display filter = " ++ ("ip.src == " ++ src_ip),
    "Debug: Command = " ++ " ".intercalate (m.cmd src_ip interface count_limit)]

def noticeLines (width : Nat) : List String :=
  ["\n" ++ repeatChar '=' width, "⚠ No packets were captured", repeatChar '=' width]

/-- One pass of the read loop: decode the line, and for a tuple count it and print it. -/
def monitorBody (m : Mode τ) (line : String) : Py Unit := do
  tick false
  match m.decode line with
  | .error e => throw e
  | .ok none => pure ()
  | .ok (some t) => do
    let n ← getCount
    setCount (n + 1)
    print (m.format t (n + 1))
    flush

/-- The `except KeyboardInterrupt:` handler of both monitors. -/
def stoppedByUser (m : Mode τ) (c : Capture) : Py Unit := do
  print ("\n" ++ repeatChar '=' m.width)
  let n ← getCount
  print ("Stopped by user. Total packets captured: " ++ toString n)
  print (repeatChar '=' m.width)
  try
    terminate c
    waitGrace
  catch _ =>
    try kill catch _ => pure ()

/-- The `try` block of both monitors. -/
def supervise (m : Mode τ) (c : Capture) : Py Unit := do
  popen
  setCount 0
  readLoop c (monitorBody m) c.lines
  let _ ← wait
  if (← getCount) = 0 then printAll (noticeLines m.width)

def runMonitor (m : Mode τ) (c : Capture) (src_ip interface : String)
    (count_limit : Option Int) (debug : Bool) : Py Unit := do
  printAll (m.header src_ip interface)
  flush
  if debug then
    printAll (m.debugLines src_ip interface count_limit)
    flush
  try supervise m c
  catch e => if e = .keyboardInterrupt then stoppedByUser m c else throw e

section Quiet

variable {φ : Schedule} {s : Tap}

@[simp] theorem popen_quiet :
    popen quiet s = (Except.ok (), { s with clock := s.clock + 1, proc := .running }) := rfl

@[simp] theorem setCount_quiet (n : Nat) :
    setCount n quiet s = (Except.ok (), { s with clock := s.clock + 1, packetCount := some n }) :=
  rfl

theorem getCount_of {k : Nat} (hk : s.packetCount = some k) : getCount φ s = (.ok k, s) := by
  simp [getCount, hk]

theorem wait_of_exited {status : Int} (hp : s.proc = .exited status) :
    wait quiet s = (.ok (some status), { s with clock := s.clock + 1 }) := by
  simp [wait, bind_run, hp]

end Quiet

def simpleMode : Mode SimpleTuple where
  width := 80
  title := "Simple (IP -> IP)"
  columns := rjust "#" 6 ++ "  " ++ ljust "Source IP" 15 ++ "      " ++
    ljust "Destination IP" 15 ++ "  " ++ "Protocol"
  fields := simpleFields
  decode := decodeSimpleLine
  format t count := formatSimpleLine t.src t.dst t.protocol count

def fiveTupleMode : Mode FiveTuple where
  width := 100
  title := "5-tuple (IP:Port -> IP:Port, Protocol)"
  columns := rjust "#" 6 ++ "  " ++ ljust "Source" 22 ++ "      " ++
    ljust "Destination" 22 ++ "  " ++ "Protocol"
  fields := fiveTupleFields
  decode := decode5tupleLine
  format t count := format5tupleLine t.src t.srcPort t.dst t.dstPort t.protocol count

def runSimpleMonitor (c : Capture) (src_ip interface : String) (count_limit : Option Int)
    (debug : Bool) : Py Unit :=
  runMonitor simpleMode c src_ip interface count_limit debug

def run5tupleMonitor (c : Capture) (src_ip interface : String) (count_limit : Option Int)
    (debug : Bool) : Py Unit :=
  runMonitor fiveTupleMode c src_ip interface count_limit debug

end UeMonitor.PacketMonitor
