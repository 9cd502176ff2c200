import Mathlib.Data.List.Infix
import UeMonitor.PacketMonitor.Main
import UeMonitor.Proofs.Stream

namespace UeMonitor.Proofs.Exit
open Python PacketMonitor Stream

theorem contains_iff (s needle : String) : contains s needle = true ↔ needle.data <:+: s.data := by
  simp only [contains, List.any_eq_true, List.mem_tails, List.isPrefixOf_iff_prefix]
  constructor
  · rintro ⟨t, hs, hp⟩
    exact List.infix_iff_prefix_suffix.mpr ⟨t, hp, hs⟩
  · intro h
    obtain ⟨t, hp, hs⟩ := List.infix_iff_prefix_suffix.mp h
    exact ⟨t, hs, hp⟩

theorem lower_eq_empty (s : String) : lower s = "" ↔ s = "" := by
  constructor
  · intro h
    have : s.data.map Char.toLower = [] := congrArg String.data h
    exact String.ext (List.map_eq_nil_iff.mp this)
  · rintro rfl
    rfl

/-- The verdict of spec §4.3 on how the probe's run ended: a diagnostic mentioning a permission
problem, or a non-zero exit with any diagnostic, fails with the diagnostic; a missing tool
fails with "tshark not found"; a timeout passes. -/
def verdict : ProbeRun → Bool × String
  | .completed returncode err =>
    if contains (lower err) "permission" then (false, strip err)
    else if returncode ≠ 0 ∧ err ≠ "" then (false, strip err)
    else (true, "")
  | .notFound => (false, "tshark not found")
  | .timeout => (true, "")
  | .failed msg => (false, msg)

/-- Without interference the probe returns the verdict on its run; its second test for
"you don't have permission" is subsumed by the first. -/
theorem probe_quiet (h : Host) (interface : String) (s : Tap) :
    probeCapturePermissions h interface quiet s =
      (.ok (verdict (h.probe interface)), { s with clock := s.clock + 1 }) := by
  have hsub : ∀ err : String, contains err "you don't have permission" = true →
      contains err "permission" = true := fun err h =>
    (contains_iff _ _).mpr (List.IsInfix.trans ⟨"you don't have ".data, [], rfl⟩
      ((contains_iff _ _).mp h))
  simp only [probeCapturePermissions, tryCatch_run, bind_run, tick_quiet]
  cases h.probe interface with
  | completed returncode err =>
    by_cases hp : contains (lower err) "permission" = true
    · simp [verdict, hp]
    · have hy : contains (lower err) "you don't have permission" = false :=
        Bool.eq_false_iff.mpr fun hy => hp (hsub _ hy)
      simp only [verdict, hp, hy, lower_eq_empty, Bool.or_false, Bool.false_eq_true, ↓reduceIte]
      split_ifs <;> simp_all [lower_eq_empty]
  | notFound => rfl
  | timeout => rfl
  | failed msg => rfl

theorem monitor_quiet (h : Host) (args : Args) (src_ip interface : String) (s : Tap) :
    ∃ t, (if args.five_tuple then run5tupleMonitor h.capture src_ip interface args.count args.debug
        else runSimpleMonitor h.capture src_ip interface args.count args.debug) quiet s =
        (.ok (), t) ∧
      t.out = s.out ++ (if args.five_tuple then
        output fiveTupleMode h.capture.lines src_ip interface args.count args.debug
        else output simpleMode h.capture.lines src_ip interface args.count args.debug) ∧
      t.proc = .exited h.capture.status := by
  cases args.five_tuple with
  | true =>
    simp only [↓reduceIte]
    exact runMonitor_quiet fiveTupleMode fiveTupleMode_total h.capture src_ip interface args.count
      args.debug s
  | false =>
    simp only [Bool.false_eq_true, ↓reduceIte]
    exact runMonitor_quiet simpleMode simpleMode_total h.capture src_ip interface args.count
      args.debug s

/-- After the target is chosen, a passing probe and no interference: the monitoring block
returns normally, printing the root warning when not root and then the monitor's output, and
the capture has exited on its own. -/
theorem runMonitoring_quiet (h : Host) (args : Args) (src_ip interface : String) (s : Tap)
    (hp : (verdict (h.probe interface)).1 = true) :
    ∃ t, runMonitoring h args src_ip interface quiet s = (.ok (), t) ∧
      t.out = s.out ++ (if h.euid ≠ 0 then [rootWarning] else []) ++
        (if args.five_tuple then
          output fiveTupleMode h.capture.lines src_ip interface args.count args.debug
        else output simpleMode h.capture.lines src_ip interface args.count args.debug) ∧
      t.proc = .exited h.capture.status := by
  simp only [runMonitoring, tryCatch_run, bind_run, tick_quiet]
  generalize hv : verdict (h.probe interface) = v at hp
  obtain ⟨ok, msg⟩ := v
  obtain rfl : ok = true := hp
  have hm := monitor_quiet h args src_ip interface
  by_cases he : h.euid ≠ 0
  · rw [if_pos he]
    simp only [bind_run, print_quiet, probe_quiet, hv, Bool.not_true, Bool.false_eq_true,
      ↓reduceIte, pure_run]
    rw [(hm _).choose_spec.1]
    exact ⟨_, rfl, by rw [(hm _).choose_spec.2.1]; simp [he], (hm _).choose_spec.2.2⟩
  · rw [if_neg he]
    simp only [bind_run, probe_quiet, hv, Bool.not_true, Bool.false_eq_true, ↓reduceIte, pure_run]
    rw [(hm _).choose_spec.1]
    exact ⟨_, rfl, by rw [(hm _).choose_spec.2.1]; simp [he], (hm _).choose_spec.2.2⟩

/-- What the monitoring block prints when the probe fails with `msg`. -/
def probeFailedLines (msg : String) : List String :=
  ["\nError: Unable to open capture interface."] ++
    (if msg ≠ "" then ["tshark error: " ++ msg] else []) ++
    ["Try running with sudo or specify a different --interface that exists on this host."]

/-- A failing probe ends the monitoring block before the capture starts: it prints why, and
the `SystemExit(1)` passes both handlers. -/
theorem runMonitoring_probe_failed (h : Host) (args : Args) (src_ip interface : String) (s : Tap)
    (hp : (verdict (h.probe interface)).1 = false) :
    ∃ t, runMonitoring h args src_ip interface quiet s = (.error (.systemExit 1), t) ∧
      t.out = s.out ++ (if h.euid ≠ 0 then [rootWarning] else []) ++
        probeFailedLines (verdict (h.probe interface)).2 ∧
      t.proc = s.proc := by
  simp only [runMonitoring, tryCatch_run, bind_run, tick_quiet]
  generalize hv : verdict (h.probe interface) = v at hp
  obtain ⟨ok, msg⟩ := v
  obtain rfl : ok = false := hp
  by_cases he : h.euid ≠ 0 <;> by_cases hm : msg = "" <;>
  simp only [ne_eq, he, hm, hv, not_false_eq_true, not_true_eq_false, ↓reduceIte,
    Bool.not_eq_eq_eq_not, Bool.not_true, sysExit, ite_not, bind_run, print_quiet, probe_quiet,
    List.append_assoc, List.singleton_append, List.cons_append, List.append_nil, reduceCtorEq,
    PyExc.isException, Bool.false_eq_true, throw_run, Prod.mk.injEq, true_and, probeFailedLines,
    exists_eq_left', and_self]

/-- The tool never reads the live capture's exit status: once the probe has passed, whatever
status and output the capture ends with on its own, the run exits with status 0 and prints
what it prints for a clean capture, the notice included exactly when no line decoded. -/
theorem capture_status_ignored (h : Host) (args : Args) (src_ip interface : String) (s : Tap)
    (hp : (verdict (h.probe interface)).1 = true) :
    Exit.ofResult (runMonitoring h args src_ip interface quiet s).1 = .status 0 ∧
      (runMonitoring h args src_ip interface quiet s).2.out =
        s.out ++ (if h.euid ≠ 0 then [rootWarning] else []) ++
          (if args.five_tuple then
            output fiveTupleMode h.capture.lines src_ip interface args.count args.debug
          else output simpleMode h.capture.lines src_ip interface args.count args.debug) := by
  obtain ⟨t, ht, hout, -⟩ := runMonitoring_quiet h args src_ip interface s hp
  rw [ht]
  exact ⟨rfl, hout⟩

/-- A host whose live capture writes nothing and exits with status 1, as tshark does when it
rejects the display filter of an IPv6 source address; its probe times out, which passes. -/
def failingHost : Host where
  capture := ⟨[], 1, true⟩
  probe := fun _ => .timeout
  tshark := true
  euid := 0
  argv := ["ue_packet_monitor.py", "--src-ip", "fd00::1", "--interface", "val0000000001"]
  help := ""
  sysNet := []
  ipShow := fun _ => none
  stdin := []

def ipv6Args : Args := ⟨some "fd00::1", false, false, "val0000000001", none, false⟩

theorem capture_status_ignored_on_failing_host :
    (verdict (failingHost.probe "val0000000001")).1 = true ∧
      Exit.ofResult (runMonitoring failingHost ipv6Args "fd00::1" "val0000000001" quiet
        Tap.init).1 = .status 0 :=
  ⟨rfl, (capture_status_ignored failingHost ipv6Args "fd00::1" "val0000000001" Tap.init rfl).1⟩

theorem failed_capture_reported_empty :
    failingHost.capture.status ≠ 0 ∧
      "⚠ No packets were captured" ∈ (main failingHost ipv6Args quiet Tap.init).2.out ∧
      Exit.ofResult (main failingHost ipv6Args quiet Tap.init).1 = .status 0 := by
  refine ⟨by decide, ?_, ?_⟩ <;>
  simp only [Exit.ofResult, main, checkTshark, failingHost, ↓reduceIte, Bool.not_eq_eq_eq_not,
    Bool.not_true, print, chooseTarget, ipv6Args, Bool.false_eq_true, String.reduceEq, ne_eq,
    not_false_eq_true, runMonitoring, not_true_eq_false, probeCapturePermissions, runSimpleMonitor,
    runMonitor, printAll, ↓Char.isValue, flush, supervise, popen, setCount, readLoop, wait, ite_not,
    Tap.init, bind_run, tryCatch_run, tick, quiet, zero_add, pure_run, Bool.true_eq_false,
    String.reduceAppend, Nat.reduceAdd, throw_run, reduceCtorEq, update_run, List.nil_append,
    List.singleton_append, List.cons_append, inspect_run, getCount, List.mem_cons,
    List.mem_singleton, true_or, or_true]

/-- A Ctrl-C on the permission probe's run escapes `main` as an uncaught `KeyboardInterrupt`;
one on `packet_count = 0` ends in main's `Error:` handler with status 1. -/
theorem interrupt_escapes_main :
    Exit.ofResult (main failingHost ipv6Args (interruptAt 2) Tap.init).1 =
        .uncaught .keyboardInterrupt ∧
      Exit.ofResult (main failingHost ipv6Args (interruptAt 13) Tap.init).1 = .status 1 := by
  constructor <;>
  simp only [Exit.ofResult, main, checkTshark, failingHost, ↓reduceIte, PyExc.isException,
    Bool.not_eq_eq_eq_not, Bool.not_true, print, sysExit, chooseTarget, ipv6Args,
    Bool.false_eq_true, String.reduceEq, ne_eq, not_false_eq_true, runMonitoring, not_true_eq_false,
    probeCapturePermissions, runSimpleMonitor, runMonitor, printAll, ↓Char.isValue, flush, supervise,
    popen, setCount, stoppedByUser, ite_not, Tap.init, bind_run, tryCatch_run, tick, interruptAt,
    reduceCtorEq, zero_add, pure_run, Bool.true_eq_false, String.reduceAppend, Nat.reduceEqDiff,
    Nat.reduceAdd, throw_run, update_run, List.nil_append, List.singleton_append, List.cons_append,
    Nat.succ_ne_self, getCount]

/-- The capture of spec scenario A: one TCP record, then a clean exit. -/
def scenarioA : Capture := ⟨["10.0.0.1||10.0.0.2||6|\n"], 0, true⟩

/-- A `print` failing with `BrokenPipeError` on the first packet line, or a Ctrl-C on
`packet_count = 0`, leaves the monitor with the capture process still running. -/
theorem monitor_leaves_capture_running :
    (runSimpleMonitor scenarioA "10.0.0.1" "val0000000001" none false (raiseAt 14 .brokenPipe)
        Tap.init).2.proc = .running ∧
      (runSimpleMonitor scenarioA "10.0.0.1" "val0000000001" none false (interruptAt 10)
        Tap.init).2.proc = .running := by
  have hA : decodeSimpleLine "10.0.0.1||10.0.0.2||6|\n" = .ok (some ⟨"10.0.0.1", "10.0.0.2", "TCP"⟩) :=
    rfl
  constructor <;>
  simp only [runSimpleMonitor, runMonitor, printAll, print, ↓Char.isValue, simpleMode,
    String.reduceAppend, flush, Bool.false_eq_true, ↓reduceIte, supervise, popen, setCount, readLoop,
    monitorBody, hA, scenarioA, stoppedByUser, Tap.init, bind_run, tick, raiseAt, interruptAt,
    reduceCtorEq, zero_add, update_run, List.nil_append, Nat.reduceEqDiff, Nat.reduceAdd,
    List.singleton_append, List.cons_append, pure_run, tryCatch_run, getCount, throw_run,
    Nat.succ_ne_self]

end UeMonitor.Proofs.Exit
