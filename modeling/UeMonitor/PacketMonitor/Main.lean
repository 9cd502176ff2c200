import UeMonitor.PacketMonitor.Monitor

namespace UeMonitor.PacketMonitor
open Python

/-- How the permission probe's `subprocess.run` ends. -/
inductive ProbeRun where
  | completed (returncode : Int) (stderr : String)
  | notFound
  | timeout
  | failed (msg : String)

/-- The host one run of the tap tool meets. -/
structure Host where
  capture : Capture
  /-- the probe's run on each interface -/
  probe : String → ProbeRun
  /-- `tshark --version` runs -/
  tshark : Bool
  euid : Nat
  argv : List String
  /-- the text `parser.print_help()` prints -/
  help : String
  /-- the names under `/sys/class/net` -/
  sysNet : List String
  /-- the stdout of `ip -4 addr show iface`, `none` where that run raises -/
  ipShow : String → Option String
  /-- the lines the operator types -/
  stdin : List String

/-- The parsed command line (`--simple` is parsed but never read). -/
structure Args where
  src_ip : Option String
  select : Bool
  five_tuple : Bool
  interface : String
  count : Option Int
  debug : Bool

def detectValInterfaces (h : Host) : List String := globSorted h.sysNet "val"

/-- `\d+(\.\d+){n}` at the start of the text; `\d` matches a decimal digit of any script. -/
def dottedDigits : Nat → List Char → Option (List Char)
  | 0, l =>
    let d := l.takeWhile isDecimal
    if d = [] then none else some d
  | n + 1, l =>
    let d := l.takeWhile isDecimal
    if d = [] then none else
    match l.dropWhile isDecimal with
    | '.' :: rest => (dottedDigits n rest).map (d ++ '.' :: ·)
    | _ => none

/-- Group 1 of `inet\s+(\d+\.\d+\.\d+\.\d+)` matched at the start of the text. -/
def inetAt : List Char → Option (List Char)
  | 'i' :: 'n' :: 'e' :: 't' :: rest =>
    if rest.takeWhile isSpace = [] then none else dottedDigits 3 (rest.dropWhile isSpace)
  | _ => none

/-- `re.search`: the match at the leftmost position where there is one. -/
def inetSearch : List Char → Option (List Char)
  | [] => none
  | c :: cs => (inetAt (c :: cs)).orElse fun _ => inetSearch cs

def getInterfaceIp (h : Host) (iface : String) : Py (Option String) :=
  try
    tick true
    match h.ipShow iface with
    | some out => pure ((inetSearch out.data).map String.mk)
    | none => throw (.other "ip")
  catch e => if e.isException then pure none else throw e

def listActiveUes (h : Host) : Py (List (String × String)) :=
  go (detectValInterfaces h)
where
  go : List String → Py (List (String × String))
    | [] => pure []
    | iface :: rest => do
      let ip ← getInterfaceIp h iface
      let ue_list ← go rest
      match ip with
      | some ip => pure (if ip ≠ "" then (iface, ip) :: ue_list else ue_list)
      | none => pure ue_list

/-- `input(prompt)` on the next line the operator typed, `none` at end of input. -/
def input (prompt : String) (line : Option String) : Py String := do
  tick true
  update fun s => { s with out := s.out ++ [prompt] }
  match line with
  | some l => pure l
  | none => throw .eofError

/-- One pass of the `while True:` loop of `select_ue_interactive`: the chosen UE, or `none`
to ask again. -/
def selectPass (ue_list : List (String × String)) (line : Option String) :
    Py (Option (String × String)) :=
  try
    let choice := strip (← input "\nSelect UE number (or 'q' to quit): " line)
    if lower choice = "q" then sysExit 0
    match pyInt choice with
    | none => throw .valueError
    | some idx =>
      if 1 ≤ idx ∧ idx ≤ ue_list.length then pure (ue_list[(idx - 1).toNat]?)
      else do
        print ("Please enter a number between 1 and " ++ toString ue_list.length)
        pure none
  catch e =>
    if e = .valueError then do
      print "Invalid input. Please enter a number."
      pure none
    else if e = .eofError ∨ e = .keyboardInterrupt then do
      print "\nCancelled by user"
      sysExit 0
    else throw e

/-- The loop over the operator's lines. At end of input the pass exits, so its last branch
is never taken. -/
def selectLoop (ue_list : List (String × String)) : List String → Py (String × String)
  | [] => do
    match ← selectPass ue_list none with
    | some ue => pure ue
    | none => sysExit 0
  | line :: rest => do
    match ← selectPass ue_list (some line) with
    | some ue => pure ue
    | none => selectLoop ue_list rest

def selectUeInteractive (h : Host) : Py (String × String) := do
  let ue_list ← listActiveUes h
  if ue_list = [] then
    print "No active UE interfaces with IP addresses found."
    print "Make sure PacketRusher UEs are running with assigned IPs."
    sysExit 1
  print ("\n" ++ repeatChar '=' 60)
  print "Active UE Interfaces:"
  print (repeatChar '-' 60)
  printAll ((ue_list.enumFrom 1).map fun (idx, iface, ip) =>
    "  " ++ toString idx ++ ". " ++ ljust iface 20 ++ " IP: " ++ ip)
  print (repeatChar '=' 60)
  selectLoop ue_list h.stdin

def checkTshark (h : Host) : Py Bool :=
  try
    tick true
    if h.tshark then pure true else throw .fileNotFound
  catch e => if e.isException then pure false else throw e

def probeCapturePermissions (h : Host) (interface : String) : Py (Bool × String) :=
  try
    tick true
    match h.probe interface with
    | .completed returncode err =>
      let stderr := lower err
      if contains stderr "permission" || contains stderr "you don't have permission" then
        pure (false, strip err)
      else if returncode ≠ 0 ∧ stderr ≠ "" then pure (false, strip err)
      else pure (true, "")
    | .notFound => throw .fileNotFound
    | .timeout => throw .timeoutExpired
    | .failed msg => throw (.other msg)
  catch e =>
    if e = .fileNotFound then pure (false, "tshark not found")
    else if e = .timeoutExpired then pure (true, "")
    else if e.isException then pure (false, e.str)
    else throw e

/-- The `if args.select: ... elif args.src_ip: ... else: ...` block of `main`: the source
address and the capture interface. -/
def chooseTarget (h : Host) (args : Args) : Py (String × String) := do
  let usage : Py (String × String) := do
    print h.help
    print "\nError: Either --src-ip or --select must be specified"
    sysExit 1
  if args.select then
    let (iface, src_ip) ← selectUeInteractive h
    print ("\nSelected UE: " ++ iface)
    print ("Selected UE IP: " ++ src_ip)
    pure (src_ip, if args.interface = "" then iface else args.interface)
  else match args.src_ip with
    | none => usage
    | some src_ip =>
      if src_ip = "" then usage
      else if args.interface ≠ "" then pure (src_ip, args.interface)
      else do
        let ue_list ← listActiveUes h
        match ue_list.find? (fun ue => ue.2 = src_ip) with
        | some (iface, _) =>
          if iface ≠ "" then do
            if args.debug then
              print ("Auto-detected interface '" ++ iface ++ "' for src-ip " ++ src_ip)
            pure (src_ip, iface)
          else fallBack src_ip
        | none => fallBack src_ip
where
  fallBack (src_ip : String) : Py (String × String) := do
    print ("Warning: no local val* interface has IP " ++ src_ip ++
      "; using capture interface 'any'.")
    print ("If this IP belongs to a UE, run with --select to pick the correct interface " ++
      "or pass --interface <iface>.")
    pure (src_ip, "any")

def rootWarning : String :=
  "Warning: script is not running as root — packet capture may fail. Try running with sudo."

/-- The `try` block at the end of `main`, with its two handlers. -/
def runMonitoring (h : Host) (args : Args) (src_ip interface : String) : Py Unit :=
  try
    tick false
    if h.euid ≠ 0 then print rootWarning
    let (ok, msg) ← probeCapturePermissions h interface
    if !ok then
      print "\nError: Unable to open capture interface."
      if msg ≠ "" then print ("tshark error: " ++ msg)
      print "Try running with sudo or specify a different --interface that exists on this host."
      sysExit 1
    if args.five_tuple then run5tupleMonitor h.capture src_ip interface args.count args.debug
    else runSimpleMonitor h.capture src_ip interface args.count args.debug
  catch e =>
    if e = .permissionError then do
      print "\nError: Permission denied. Try running with sudo:"
      print ("  sudo " ++ " ".intercalate h.argv)
      sysExit 1
    else if e.isException then do
      print ("\nError: " ++ e.str)
      sysExit 1
    else throw e

def main (h : Host) (args : Args) : Py Unit := do
  if !(← checkTshark h) then
    print "Error: tshark is not installed or not in PATH"
    print "Install with: sudo apt-get install tshark"
    sysExit 1
  let (src_ip, interface) ← chooseTarget h args
  runMonitoring h args src_ip interface

end UeMonitor.PacketMonitor
