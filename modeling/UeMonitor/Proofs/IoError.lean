import UeMonitor.Proofs.Exit
import UeMonitor.Proofs.OneFault
import UeMonitor.Proofs.Startup

namespace UeMonitor.Proofs.IoError
open Python PacketMonitor Stream Exit Startup OneFault OneFault.Resilient

variable {α β τ : Type}

/-! ## The monitors under an I/O error -/

/-- An I/O error in a monitor is passed on by its `except KeyboardInterrupt:` handler. -/
theorem resilient_runMonitor (m : Mode τ) (hm : Total m) (c : Capture) (src_ip interface : String)
    (count_limit : Option Int) (debug : Bool) {e : PyExc} (he : e ≠ .keyboardInterrupt) :
    Resilient (.raise e) (fun _ => True) (runMonitor m c src_ip interface count_limit debug) := by
  have hsup : Resilient (.raise e) (fun _ => True) (tryCatch (supervise m c) fun e =>
      if e = .keyboardInterrupt then stoppedByUser m c else throw e) :=
    of_tryCatch (resilient_supervise m hm c) (by simp [raised, he])
  unfold runMonitor
  refine of_bind (of_printAll _) fun _ => of_bind (of_tick true) fun _ => ?_
  cases debug
  · exact of_bind (of_pure _) fun _ => hsup
  · exact of_bind (of_printAll _) fun _ => of_bind (of_tick true) fun _ => hsup

/-! ## The monitoring block, cut at the probe -/

/-- The monitoring block once the probe has returned `v`. -/
def afterProbe (h : Host) (args : Args) (src_ip interface : String) (v : Bool × String) :
    Py Unit := do
  let (ok, msg) := v
  if !ok then
    print "\nError: Unable to open capture interface."
    if msg ≠ "" then print ("tshark error: " ++ msg)
    print "Try running with sudo or specify a different --interface that exists on this host."
    sysExit 1
  if args.five_tuple then run5tupleMonitor h.capture src_ip interface args.count args.debug
  else runSimpleMonitor h.capture src_ip interface args.count args.debug

/-- The two `except` clauses around the monitoring block. -/
def reportError (h : Host) (e : PyExc) : Py Unit :=
  if e = .permissionError then do
    print "\nError: Permission denied. Try running with sudo:"
    print ("  sudo " ++ " ".intercalate h.argv)
    sysExit 1
  else if e.isException then do
    print ("\nError: " ++ e.str)
    sysExit 1
  else throw e

/-- The `try` block of the monitoring block. -/
def block (h : Host) (args : Args) (src_ip interface : String) : Py Unit := do
  tick false
  if h.euid ≠ 0 then print rootWarning
  let v ← probeCapturePermissions h interface
  afterProbe h args src_ip interface v

theorem runMonitoring_eq (h : Host) (args : Args) (src_ip interface : String) :
    runMonitoring h args src_ip interface =
      tryCatch (block h args src_ip interface) (reportError h) := rfl

/-- The monitoring block after the probe reads only the capture of the host. -/
theorem afterProbe_probe (h : Host) (p : String → ProbeRun) (args : Args)
    (src_ip interface : String) :
    afterProbe { h with probe := p } args src_ip interface = afterProbe h args src_ip interface :=
  rfl

/-- A step the fault misses leaves the probe as in a quiet run. -/
theorem probe_of_none (h : Host) (interface : String) {φ : Schedule} {u : Tap}
    (hφ : φ u.clock = none) :
    probeCapturePermissions h interface φ u = probeCapturePermissions h interface quiet u := by
  unfold probeCapturePermissions
  simp only [tryCatch_run, bind_run, tick_of_none hφ, tick_quiet]
  cases h.probe interface <;> dsimp only <;> split_ifs <;> rfl

/-- How the probe's `subprocess.run` reads when it raises `e` instead, as its handlers take it. -/
def faultOutcome (e : PyExc) : ProbeRun :=
  if e = .fileNotFound then .notFound else if e = .timeoutExpired then .timeout else .failed e.str

/-- An exception from the probe's own run becomes its verdict. -/
theorem probe_hit (h : Host) (interface : String) {u : Tap} {e : PyExc}
    (he : e.isException = true) :
    probeCapturePermissions h interface (raiseAt u.clock e) u =
      (.ok (verdict (faultOutcome e)), { u with clock := u.clock + 1 }) := by
  by_cases h₁ : e = .fileNotFound
  · subst h₁
    simp [probeCapturePermissions, tryCatch_run, bind_run, tick, raiseAt, faultOutcome, verdict]
  by_cases h₂ : e = .timeoutExpired
  · subst h₂
    simp [probeCapturePermissions, tryCatch_run, bind_run, tick, raiseAt, faultOutcome, verdict]
  · simp [probeCapturePermissions, tryCatch_run, bind_run, tick, raiseAt, faultOutcome, verdict,
      h₁, h₂, he]

/-- After the probe, an I/O error is passed on: the failure lines and the monitors have no
handler for it. -/
theorem afterProbe_exposed (h : Host) (args : Args) (src_ip interface : String) (v : Bool × String)
    {e : PyExc} (he : e ≠ .keyboardInterrupt) :
    Exposed (.raise e) (afterProbe h args src_ip interface v) := by
  have hmon : Exposed (.raise e) (if args.five_tuple then
      run5tupleMonitor h.capture src_ip interface args.count args.debug
      else runSimpleMonitor h.capture src_ip interface args.count args.debug) := by
    split
    · exact .of_resilient (resilient_runMonitor fiveTupleMode fiveTupleMode_total _ _ _ _ _ he)
    · exact .of_resilient (resilient_runMonitor simpleMode simpleMode_total _ _ _ _ _ he)
  have hp : ∀ l, Exposed (.raise e) (print l) := fun l => .of_resilient (of_print l)
  obtain ⟨ok, msg⟩ := v
  unfold afterProbe
  cases ok
  · -- the failure lines, with the `tshark error` line only for a non-empty message
    refine .of_bind (hp _) fun _ => ?_
    dsimp only
    split <;> refine .of_bind ?_ fun _ =>
      .of_bind (hp _) fun _ => .of_bind (.of_throw _) fun _ => hmon
    · exact hp _
    · exact .of_resilient (of_pure _)
  · exact .of_bind (.of_resilient (of_pure _)) fun _ => hmon

/-- What the monitoring block's handlers print for an exception `e`. -/
def errorReport (h : Host) (e : PyExc) : List String :=
  if e = .permissionError then
    ["\nError: Permission denied. Try running with sudo:", "  sudo " ++ " ".intercalate h.argv]
  else ["\nError: " ++ e.str]

/-- The handlers report an exception and exit with status 1. -/
theorem reportError_reports (h : Host) {e : PyExc} (he : e.isException = true) (t : Tap) :
    ∃ u, reportError h e quiet t = (.error (.systemExit 1), u) ∧
      u.out = t.out ++ errorReport h e := by
  by_cases hp : e = .permissionError
  · subst hp
    exact ⟨_, by simp [reportError, bind_run, sysExit]; rfl, by simp [errorReport]⟩
  · exact ⟨_, by simp [reportError, bind_run, sysExit, hp, he]; rfl, by simp [errorReport, hp]⟩

/-- A fault that has already landed does not reach the handlers. -/
theorem reportError_late (h : Host) {e e' : PyExc} {n : Nat} {t : Tap} (hn : n < t.clock) :
    reportError h e' (raiseAt n e) t = reportError h e' quiet t := by
  have h₁ : ¬t.clock = n := by omega
  have h₂ : ¬t.clock + 1 = n := by omega
  unfold reportError
  split_ifs <;> simp [bind_run, print, tick, raiseAt, quiet, sysExit, h₁, h₂]

/-- `KeyboardInterrupt` and `SystemExit` pass the handlers untouched. -/
theorem reportError_rethrow (h : Host) {e : PyExc} (he : e.isException = false) (φ : Schedule)
    (t : Tap) : reportError h e φ t = (.error e, t) := by
  have hp : e ≠ .permissionError := by rintro rfl; simp [PyExc.isException] at he
  simp [reportError, hp, he]

/-- The step on which the monitoring block started at `s` runs the probe's `subprocess.run`. -/
def probeStep (h : Host) (s : Tap) : Nat := s.clock + 1 + if h.euid ≠ 0 then 1 else 0

theorem tick_false_raise {n : Nat} {e : PyExc} (s : Tap) :
    tick false (raiseAt n e) s = (.ok (), { s with clock := s.clock + 1 }) := by
  simp only [tick, raiseAt]
  split_ifs <;> simp_all

theorem print_of_none {φ : Schedule} {s : Tap} (hφ : φ s.clock = none) (l : String) :
    print l φ s = print l quiet s := by
  simp only [print]
  rw [bind_ok (tick_of_none hφ)]
  rfl

theorem print_raise_hit {e : PyExc} (l : String) (s : Tap) :
    print l (raiseAt s.clock e) s = (.error e, { s with clock := s.clock + 1 }) := by
  simp [print, bind_run, tick, raiseAt]

section Block

variable (h : Host) (args : Args) (src_ip interface : String) {n : Nat} {e : PyExc}

/-- From the probe on, under one I/O error: the quiet run; or, with the error on the probe's
run, the quiet run of a probe that ended so; or the error, raised at or after its step. -/
theorem probeThen_split (he : e.isException = true) (u : Tap) :
    let x := fun (h' : Host) => probeCapturePermissions h' interface >>=
      afterProbe h args src_ip interface
    x h (raiseAt n e) u = x h quiet u ∨
      (n = u.clock ∧ n < (x h (raiseAt n e) u).2.clock ∧
        x h (raiseAt n e) u = x { h with probe := fun _ => faultOutcome e } quiet u) ∨
      ∃ t, x h (raiseAt n e) u = (.error e, t) ∧ n < t.clock := by
  intro x
  have hke : e ≠ .keyboardInterrupt := fun hk => by simp [hk, PyExc.isException] at he
  by_cases hu : u.clock = n
  · subst hu
    have hA := afterProbe_exposed h args src_ip interface (verdict (faultOutcome e)) hke
    have hx : x h (raiseAt u.clock e) u = afterProbe h args src_ip interface
        (verdict (faultOutcome e)) quiet { u with clock := u.clock + 1 } := by
      simp only [x]
      rw [bind_ok (probe_hit h interface he)]
      exact (hA.dich u.clock _).resolve_right fun ⟨hlo, _⟩ => by dsimp only at hlo; omega
    refine .inr (.inl ⟨rfl, ?_, hx.trans ?_⟩)
    · rw [hx]
      exact Nat.lt_of_lt_of_le (Nat.lt_succ_self _) (hA.mono { u with clock := u.clock + 1 })
    · simp only [x]
      rw [bind_ok (probe_quiet _ interface u)]
  · simp only [x]
    rw [bind_ok ((probe_of_none h interface (if_neg hu)).trans (probe_quiet h interface u)),
      bind_ok (probe_quiet h interface u)]
    rcases (afterProbe_exposed h args src_ip interface (verdict (h.probe interface)) hke).dich n
      { u with clock := u.clock + 1 } with hsame | ⟨-, t, ht, hnt⟩
    · exact .inl hsame
    · exact .inr (.inr ⟨t, ht, hnt⟩)

/-- The `try` block under one I/O error: its quiet run; or, with the error on the probe's run,
the quiet run of a probe that ended so; or the error, raised at or after its step. -/
theorem block_split (he : e.isException = true) (s : Tap) :
    block h args src_ip interface (raiseAt n e) s = block h args src_ip interface quiet s ∨
      (n = probeStep h s ∧ n < (block h args src_ip interface (raiseAt n e) s).2.clock ∧
        block h args src_ip interface (raiseAt n e) s =
          block { h with probe := fun _ => faultOutcome e } args src_ip interface quiet s) ∨
      ∃ t, block h args src_ip interface (raiseAt n e) s = (.error e, t) ∧ n < t.clock := by
  simp only [block, afterProbe_probe, bind_ok (tick_false_raise s), bind_ok (tick_quiet false)]
  by_cases hw : h.euid ≠ 0
  · rw [if_pos hw, if_pos hw]
    by_cases hn : s.clock + 1 = n
    · subst hn
      exact .inr (.inr ⟨_, bind_error (print_raise_hit _ _) _, Nat.lt_succ_self _⟩)
    · rw [bind_ok ((print_of_none (if_neg hn) _).trans (print_quiet _)), bind_ok (print_quiet _),
        bind_ok (print_quiet _)]
      exact (probeThen_split h args src_ip interface he _).imp_right (Or.imp_left
        fun ⟨hnu, hlt, hx⟩ => ⟨hnu.trans (by simp [probeStep, hw]), hlt, hx⟩)
  · rw [if_neg hw, if_neg hw, bind_ok (pure_run ()), bind_ok (pure_run ())]
    exact (probeThen_split h args src_ip interface he _).imp_right (Or.imp_left
      fun ⟨hnu, hlt, hx⟩ => ⟨hnu.trans (by simp [probeStep, hw]), hlt, hx⟩)

/-- Without faults the monitoring block raises only `SystemExit`: its handlers let it pass. -/
theorem afterProbe_quiet_caught (v : Bool × String) (u : Tap) {e' : PyExc} {t : Tap}
    (hq : afterProbe h args src_ip interface v quiet u = (.error e', t)) :
    e'.isException = false := by
  obtain ⟨ok | -, msg⟩ := v
  · by_cases hm : msg = "" <;>
      simp [afterProbe, hm, bind_run, sysExit] at hq <;> rw [← hq.1] <;> rfl
  · simp only [afterProbe, Bool.not_true, bind_ok (pure_run ()), Bool.false_eq_true,
      ↓reduceIte] at hq
    split at hq
    · obtain ⟨t', ht', -⟩ := runMonitor_quiet fiveTupleMode fiveTupleMode_total h.capture src_ip
        interface args.count args.debug u
      simp [run5tupleMonitor, ht'] at hq
    · obtain ⟨t', ht', -⟩ := runMonitor_quiet simpleMode simpleMode_total h.capture src_ip
        interface args.count args.debug u
      simp [runSimpleMonitor, ht'] at hq

theorem block_quiet_caught (s : Tap) {e' : PyExc} {t : Tap}
    (hq : block h args src_ip interface quiet s = (.error e', t)) : e'.isException = false := by
  simp only [block, bind_ok (tick_quiet false)] at hq
  by_cases hw : h.euid ≠ 0
  · rw [if_pos hw, bind_ok (print_quiet _), bind_ok (probe_quiet h interface _)] at hq
    exact afterProbe_quiet_caught h args src_ip interface _ _ hq
  · rw [if_neg hw, bind_ok (pure_run ()), bind_ok (probe_quiet h interface _)] at hq
    exact afterProbe_quiet_caught h args src_ip interface _ _ hq

end Block

/-- One I/O error at any step of the monitoring block at the end of `main` is absorbed, and the
block runs as without it; or it hits the probe's `subprocess.run`, and the block runs as if that
run had ended the way the probe's handlers read the error; or the block's handlers report it
last and exit with status 1. -/
theorem io_error_absorbed_probed_or_reported (h : Host) (args : Args) (src_ip interface : String)
    (s : Tap) (n : Nat) {e : PyExc} (he : e.isException = true) :
    runMonitoring h args src_ip interface (raiseAt n e) s =
        runMonitoring h args src_ip interface quiet s ∨
      (n = probeStep h s ∧ runMonitoring h args src_ip interface (raiseAt n e) s =
        runMonitoring { h with probe := fun _ => faultOutcome e } args src_ip interface quiet s) ∨
      ∃ t pre, runMonitoring h args src_ip interface (raiseAt n e) s = (.error (.systemExit 1), t) ∧
        t.out = pre ++ errorReport h e := by
  simp only [runMonitoring_eq]
  rcases block_split h args src_ip interface he s with hq | ⟨hn, hlt, hb⟩ | ⟨t, ht, hnt⟩
  · refine .inl ?_
    rcases hr : block h args src_ip interface quiet s with ⟨e' | a, t⟩
    · have hc := block_quiet_caught h args src_ip interface s hr
      rw [tryCatch_error (hq.trans hr), tryCatch_error hr, reportError_rethrow h hc,
        reportError_rethrow h hc]
    · rw [tryCatch_ok (hq.trans hr), tryCatch_ok hr]
  · refine .inr (.inl ⟨hn, ?_⟩)
    rcases hr : block { h with probe := fun _ => faultOutcome e } args src_ip interface quiet s
      with ⟨e' | a, t⟩
    · rw [hb, hr] at hlt
      rw [tryCatch_error (hb.trans hr), tryCatch_error hr]
      exact reportError_late h hlt
    · rw [tryCatch_ok (hb.trans hr), tryCatch_ok hr]
  · obtain ⟨u, hu, hout⟩ := reportError_reports h he t
    exact .inr (.inr ⟨u, t.out, by rw [tryCatch_error ht, reportError_late h hnt, hu], hout⟩)

theorem io_error_on_failing_host_probe :
    PyExc.isException .permissionError = true ∧
      (runMonitoring failingHost ipv6Args "fd00::1" "val0000000001"
          (raiseAt 1 .permissionError) Tap.init =
        runMonitoring failingHost ipv6Args "fd00::1" "val0000000001" quiet Tap.init ∨
      (1 = probeStep failingHost Tap.init ∧
        runMonitoring failingHost ipv6Args "fd00::1" "val0000000001"
            (raiseAt 1 .permissionError) Tap.init =
          runMonitoring { failingHost with probe := fun _ => faultOutcome .permissionError }
            ipv6Args "fd00::1" "val0000000001" quiet Tap.init) ∨
      ∃ t pre, runMonitoring failingHost ipv6Args "fd00::1" "val0000000001"
          (raiseAt 1 .permissionError) Tap.init = (.error (.systemExit 1), t) ∧
        t.out = pre ++ errorReport failingHost .permissionError) :=
  ⟨rfl, io_error_absorbed_probed_or_reported failingHost ipv6Args "fd00::1" "val0000000001"
    Tap.init 1 rfl⟩

/-! ## Interface discovery under one I/O error -/

theorem getInterfaceIp_of_none (h : Host) (iface : String) {φ : Schedule} {s : Tap}
    (hφ : φ s.clock = none) : getInterfaceIp h iface φ s = getInterfaceIp h iface quiet s := by
  unfold getInterfaceIp
  simp only [tryCatch_run, bind_run, tick_of_none hφ, tick_quiet]
  cases h.ipShow iface <;> rfl

/-- `except Exception: pass`: an I/O error in the `ip` run reads as no address. -/
theorem getInterfaceIp_hit (h : Host) (iface : String) {e : PyExc} (he : e.isException = true)
    (s : Tap) :
    getInterfaceIp h iface (raiseAt s.clock e) s = (.ok none, { s with clock := s.clock + 1 }) := by
  simp [getInterfaceIp, tryCatch_run, bind_run, tick, raiseAt, he]

/-- The listing loop under one I/O error at step `n`: the interface whose `ip` run it hits is
dropped as if it had no address, and the others are listed as without the error. -/
theorem listActiveUes_go_raise (h : Host) {n : Nat} {e : PyExc} (he : e.isException = true) :
    ∀ (l : List String) (s : Tap), listActiveUes.go h l (raiseAt n e) s =
      (.ok ((if s.clock ≤ n then l.eraseIdx (n - s.clock) else l).filterMap
          fun iface => (ipOf h iface).map (iface, ·)),
        { s with clock := s.clock + l.length })
  | [], s => by split_ifs <;> rfl
  | iface :: rest, s => by
    have ih := listActiveUes_go_raise (n := n) h he rest { s with clock := s.clock + 1 }
    have hq := getInterfaceIp_quiet h iface s
    rw [listActiveUes.go]
    rcases lt_trichotomy s.clock n with hlt | rfl | hgt
    · have hk : n - s.clock = n - (s.clock + 1) + 1 := by omega
      have h₁ : s.clock + 1 ≤ n := hlt
      rw [bind_ok ((getInterfaceIp_of_none h iface (if_neg (by omega))).trans hq), bind_ok ih]
      cases hip : ipOf h iface with
      | none => simp [hlt.le, h₁, hk, hip, Nat.add_assoc, Nat.add_comm 1]
      | some ip => simp [hlt.le, h₁, hk, hip, ipOf_ne_empty hip, Nat.add_assoc, Nat.add_comm 1]
    · rw [bind_ok (getInterfaceIp_hit h iface he s), bind_ok ih]
      simp [Nat.add_assoc, Nat.add_comm 1]
    · have h₁ : ¬s.clock ≤ n := by omega
      have h₂ : ¬s.clock + 1 ≤ n := by omega
      rw [bind_ok ((getInterfaceIp_of_none h iface (if_neg (by omega))).trans hq), bind_ok ih]
      cases hip : ipOf h iface with
      | none => simp [h₁, h₂, hip, Nat.add_assoc, Nat.add_comm 1]
      | some ip => simp [h₁, h₂, hip, ipOf_ne_empty hip, Nat.add_assoc, Nat.add_comm 1]

/-- `get_interface_ip`'s `except Exception` makes UE discovery degrade, never fail: one I/O
error while the active UEs are listed, whichever `ip` run it hits, drops exactly the
interface of that run from the list, keeps every other UE with its address in name order, and
takes as many steps as without it. -/
theorem io_error_drops_one_interface (h : Host) (s : Tap) {n : Nat} {e : PyExc}
    (he : e.isException = true) (hn : s.clock ≤ n) :
    listActiveUes h (raiseAt n e) s =
      (.ok (((detectValInterfaces h).eraseIdx (n - s.clock)).filterMap
          fun iface => (ipOf h iface).map (iface, ·)),
        { s with clock := s.clock + (detectValInterfaces h).length }) := by
  rw [listActiveUes, listActiveUes_go_raise h he, if_pos hn]

theorem io_error_drops_one_interface_on_two_ues :
    PyExc.isException .permissionError = true ∧ Tap.init.clock ≤ 0 ∧
      listActiveUes twoUeHost (raiseAt 0 .permissionError) Tap.init =
        (.ok (((detectValInterfaces twoUeHost).eraseIdx (0 - Tap.init.clock)).filterMap
            fun iface => (ipOf twoUeHost iface).map (iface, ·)),
          { Tap.init with clock := Tap.init.clock + (detectValInterfaces twoUeHost).length }) :=
  ⟨rfl, le_rfl, io_error_drops_one_interface twoUeHost Tap.init rfl le_rfl⟩

end UeMonitor.Proofs.IoError
