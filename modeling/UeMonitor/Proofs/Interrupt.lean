import UeMonitor.Proofs.OneFault

namespace UeMonitor.Proofs.Interrupt
open Python PacketMonitor Stream OneFault

variable {α β τ : Type}

/-! ## The monitor under a Ctrl-C after `packet_count = 0` -/

/-- The banner of the monitors' `except KeyboardInterrupt:` handler. -/
def stopBanner (m : Mode τ) (k : Nat) : List String :=
  ["\n" ++ repeatChar '=' m.width, "Stopped by user. Total packets captured: " ++ toString k,
    repeatChar '=' m.width]

theorem tick_ne {io : Bool} {n : Nat} {s : Tap} (h : s.clock ≠ n) :
    tick io (interruptAt n) s = (.ok (), { s with clock := s.clock + 1 }) := by
  simp [tick, interruptAt, h]

theorem tick_eq {io : Bool} {n : Nat} {s : Tap} (h : s.clock = n) :
    tick io (interruptAt n) s = (.error .keyboardInterrupt, { s with clock := s.clock + 1 }) := by
  simp [tick, interruptAt, h]

/-- Once the Ctrl-C has landed, the handler prints the banner with the count and leaves the
capture terminated or killed, or as it was when it had already ended. -/
theorem stoppedByUser_late (m : Mode τ) (c : Capture) {n k : Nat} {s : Tap}
    (hk : s.packetCount = some k) (hn : n < s.clock) :
    ∃ t, stoppedByUser m c (interruptAt n) s = (.ok (), t) ∧ t.out = s.out ++ stopBanner m k ∧
      t.proc.settled = true := by
  by_cases hr : s.proc = .running
  · cases hg : c.graceful <;>
      simp (disch := (try dsimp only); omega) [stoppedByUser, print, terminate, waitGrace, kill,
        bind_run, tryCatch_run, tick_ne, getCount, hk, hr, hg, stopBanner, Proc.settled]
  · have hs : s.proc.settled = true := by cases hp : s.proc <;> simp_all [Proc.settled]
    simp (disch := (try dsimp only); omega) [stoppedByUser, print, terminate, waitGrace, kill,
      bind_run, tryCatch_run, tick_ne, getCount, hk, hr, hs, stopBanner]

theorem printAll_of_none {φ : Schedule} (ls : List String) :
    ∀ {s : Tap}, (∀ k, s.clock ≤ k → k < s.clock + ls.length → φ k = none) →
      printAll ls φ s = (.ok (), { s with out := s.out ++ ls, clock := s.clock + ls.length }) := by
  induction ls with
  | nil => exact fun _ => by simp [printAll]
  | cons l ls ih =>
    intro s h
    simp only [printAll, print, bind_run, update_run, tick_of_none (h s.clock le_rfl (by simp))]
    rw [ih fun k h1 h2 => h k (by dsimp only at h1; omega)
      (by dsimp only at h2; simp only [List.length_cons]; omega)]
    simp only [List.append_assoc, List.singleton_append, List.length_cons, Nat.add_right_comm,
      Nat.add_assoc]

/-- The number of steps a monitor takes before its `try` block: the header, its flush, and
the debug lines and their flush. -/
def headerSteps (m : Mode τ) (src_ip interface : String) (count_limit : Option Int)
    (debug : Bool) : Nat :=
  (m.header src_ip interface).length + 1 +
    (if debug then (m.debugLines src_ip interface count_limit).length + 1 else 0)

/-- The handler around both monitors' `try` block. -/
def onInterrupt (m : Mode τ) (c : Capture) (e : PyExc) : Py Unit :=
  if e = .keyboardInterrupt then stoppedByUser m c else throw e

/-- Under a schedule that leaves the header alone, a monitor prints it and enters its `try`
block. -/
theorem runMonitor_entry (m : Mode τ) (c : Capture) (src_ip interface : String)
    (count_limit : Option Int) (debug : Bool) {φ : Schedule} {s : Tap}
    (hφ : ∀ k, s.clock ≤ k → k < s.clock + headerSteps m src_ip interface count_limit debug →
      φ k = none) :
    runMonitor m c src_ip interface count_limit debug φ s =
      tryCatch (supervise m c) (onInterrupt m c) φ { s with
        out := s.out ++ m.header src_ip interface ++
          (if debug then m.debugLines src_ip interface count_limit else [])
        clock := s.clock + headerSteps m src_ip interface count_limit debug } := by
  have htick : ∀ (io : Bool) (t : Tap), s.clock ≤ t.clock →
      t.clock < s.clock + headerSteps m src_ip interface count_limit debug →
      tick io φ t = (.ok (), { t with clock := t.clock + 1 }) :=
    fun _ t h1 h2 => tick_of_none (hφ t.clock h1 h2)
  have hprint : ∀ (ls : List String) (t : Tap), s.clock ≤ t.clock →
      t.clock + ls.length ≤ s.clock + headerSteps m src_ip interface count_limit debug →
      printAll ls φ t = (.ok (), { t with out := t.out ++ ls, clock := t.clock + ls.length }) :=
    fun ls t h1 h2 => printAll_of_none ls fun k hk1 hk2 => hφ k (by omega) (by omega)
  unfold headerSteps at htick hprint ⊢
  cases debug <;> simp only [Bool.false_eq_true, ↓reduceIte, Nat.add_zero] at htick hprint ⊢ <;>
    simp (disch := (try dsimp only); omega) only [runMonitor, bind_run, hprint, flush, htick,
      pure_run, ↓reduceIte, Bool.false_eq_true, List.append_nil, List.append_assoc] <;>
    rfl

theorem tryCatch_congr {x y : Py α} {h : PyExc → Py α} {φ : Schedule} {s t : Tap}
    (hxy : x φ s = y φ t) : tryCatch x h φ s = tryCatch y h φ t := by
  simp only [tryCatch_run, hxy]

/-- Under a schedule that leaves every step before its loop alone, a monitor runs its loop from
the state it reaches there, inside the handler. -/
theorem runMonitor_loop (m : Mode τ) (c : Capture) (src_ip interface : String)
    (count_limit : Option Int) (debug : Bool) {φ : Schedule} {s : Tap}
    (hφ : ∀ k, k < s.clock + headerSteps m src_ip interface count_limit debug + 2 → φ k = none) :
    runMonitor m c src_ip interface count_limit debug φ s =
      tryCatch (counted m c) (onInterrupt m c) φ { s with
        out := s.out ++ m.header src_ip interface ++
          (if debug then m.debugLines src_ip interface count_limit else [])
        clock := s.clock + headerSteps m src_ip interface count_limit debug + 2
        proc := .running
        packetCount := some 0 } := by
  rw [runMonitor_entry m c src_ip interface count_limit debug fun k _ hk => hφ k (by omega)]
  exact tryCatch_congr (supervise_entry m c (hφ _ (by simp)) (hφ _ (by simp)))

/-! ## Where a Ctrl-C cuts the output -/

theorem numbered_concat (m : Mode τ) (ts : List τ) (r : Option τ) :
    numbered m 0 (ts ++ r.toList) =
      numbered m 0 ts ++ (r.map fun p => m.format p (ts.length + 1)).toList := by
  cases r <;> simp [numbered, List.enumFrom_append, Nat.add_comm]

/-- The state a Ctrl-C leaves in the capture: after `base`, the numbered lines of the first `j`
of the tuples `ts`, then a part of `tail`, with `packet_count` at `j`, or at `j + 1` when the
Ctrl-C landed on the print of the `j + 1`-th after it was counted. -/
def Cut (m : Mode τ) (base : List String) (ts : List τ) (tail : List String) (t : Tap) : Prop :=
  ∃ j k e, t.out = base ++ numbered m 0 (ts.take j) ++ e ∧ t.packetCount = some k ∧
    j ≤ ts.length ∧ (k = j ∨ k = j + 1 ∧ j < ts.length) ∧ e <+: tail

namespace Cut

variable {m : Mode τ} {base : List String} {ts : List τ} {tail : List String} {t : Tap}

/-- A state with every tuple of `ts` printed and counted. -/
theorem of_tallied (hout : t.out = base ++ numbered m 0 ts) (hk : t.packetCount = some ts.length) :
    Cut m base ts tail t :=
  ⟨ts.length, ts.length, [], by rw [List.take_length, List.append_nil, hout], hk, le_rfl, .inl rfl,
    List.nil_prefix⟩

theorem append (h : Cut m base ts [] t) (us : List τ) : Cut m base (ts ++ us) [] t := by
  obtain ⟨j, k, e, hout, hk, hj, hjk, he⟩ := h
  refine ⟨j, k, e, by rw [List.take_append_of_le_length hj]; exact hout, hk, ?_, ?_, he⟩ <;>
    simp only [List.length_append] <;> omega

theorem mono {tail' : List String} (h : Cut m base ts tail t) (ht : tail <+: tail') :
    Cut m base ts tail' t :=
  let ⟨j, k, e, hout, hk, hj, hjk, he⟩ := h
  ⟨j, k, e, hout, hk, hj, hjk, he.trans ht⟩

end Cut

/-- The step lemma of the capture loop: one pass of its body from a state with the tuples `ts`
printed and counted, under a Ctrl-C on step `n`, is its quiet run, or stops with the output cut
among `ts` and the tuple the line decodes to. -/
theorem monitorBody_interrupt (m : Mode τ) {line : String} {r : Option τ}
    (hr : m.decode line = .ok r) {base : List String} {ts : List τ} {s : Tap}
    (hout : s.out = base ++ numbered m 0 ts) (hk : s.packetCount = some ts.length) (n : Nat) :
    monitorBody m line (interruptAt n) s = monitorBody m line quiet s ∨
      ∃ t, monitorBody m line (interruptAt n) s = (.error .keyboardInterrupt, t) ∧ n < t.clock ∧
        Cut m base (ts ++ r.toList) [] t := by
  have hcut : Cut m base ts [] s := .of_tallied hout hk
  by_cases h0 : n = s.clock
  · subst h0
    exact .inr ⟨{ s with clock := s.clock + 1 }, by simp [monitorBody, bind_run, tick, interruptAt],
      by simp, hcut.append _⟩
  cases r with
  | none => exact .inl (by simp [monitorBody, bind_run, tick_ne (Ne.symm h0), hr])
  | some p =>
    by_cases h1 : n = s.clock + 1
    · refine .inr ⟨{ s with clock := s.clock + 2 }, ?_, by simp; omega, hcut.append _⟩
      simp (disch := (try dsimp only); omega) only [monitorBody, bind_run, tick_ne, tick_eq, hr,
        getCount, hk, setCount]
    by_cases h2 : n = s.clock + 2
    · -- counted, not yet printed
      refine .inr ⟨{ s with clock := s.clock + 3, packetCount := some (ts.length + 1) }, ?_,
        by simp; omega, ts.length, ts.length + 1, [], by simp [hout], rfl, by simp,
        .inr ⟨rfl, by simp⟩, List.nil_prefix⟩
      simp (disch := (try dsimp only); omega) only [monitorBody, bind_run, tick_ne, tick_eq, hr,
        getCount, hk, setCount, update_run, print]
    by_cases h3 : n = s.clock + 3
    · refine .inr ⟨{ s with
          out := s.out ++ [m.format p (ts.length + 1)]
          clock := s.clock + 4
          packetCount := some (ts.length + 1) }, ?_, by simp; omega,
        .of_tallied (by rw [numbered_concat]; simp [hout]) (by simp)⟩
      simp (disch := (try dsimp only); omega) only [monitorBody, bind_run, tick_ne, tick_eq, hr,
        getCount, hk, setCount, update_run, print, flush]
    · left
      simp (disch := (try dsimp only); omega) only [monitorBody, bind_run, tick_ne, tick_quiet, hr,
        getCount, hk, setCount, update_run, print, flush]

theorem rendered_cons (m : Mode τ) {line : String} {r : Option τ} (hr : m.decode line = .ok r)
    (rest : List String) : rendered m (line :: rest) = r.toList ++ rendered m rest := by
  cases r <;> simp [rendered, hr]

theorem readLoop_at_clock (c : Capture) (body : String → Py Unit) (lines : List String) (s : Tap) :
    readLoop c body lines (interruptAt s.clock) s =
      (.error .keyboardInterrupt, { s with clock := s.clock + 1 }) := by
  cases lines <;> simp [readLoop, bind_run, tick_eq]

/-- The run lemma of the capture loop: from a state with the tuples `ts` printed and counted, a
Ctrl-C on step `n` leaves the quiet run, or stops it with the output cut among `ts` and the
tuples the rest of the stream renders. -/
theorem readLoop_interrupt (m : Mode τ) (hm : Total m) (c : Capture) (base : List String)
    (n : Nat) (lines : List String) (ts : List τ) (s : Tap) (hout : s.out = base ++ numbered m 0 ts)
    (hk : s.packetCount = some ts.length) :
    readLoop c (monitorBody m) lines (interruptAt n) s = readLoop c (monitorBody m) lines quiet s ∨
      ∃ t, readLoop c (monitorBody m) lines (interruptAt n) s = (.error .keyboardInterrupt, t) ∧
        n < t.clock ∧ Cut m base (ts ++ rendered m lines) [] t := by
  induction lines generalizing ts s with
  | nil =>
    rcases eq_or_ne n s.clock with rfl | h0
    · exact .inr ⟨_, readLoop_at_clock c _ [] s, by simp, (Cut.of_tallied hout hk).append _⟩
    · exact .inl (by simp [readLoop, bind_run, tick_ne h0.symm])
  | cons line rest ih =>
    rcases eq_or_ne n s.clock with rfl | h0
    · exact .inr ⟨_, readLoop_at_clock c _ _ s, by simp, (Cut.of_tallied hout hk).append _⟩
    obtain ⟨r, hr⟩ := hm line
    have hstep : ∀ φ : Schedule, φ s.clock = none → readLoop c (monitorBody m) (line :: rest) φ s =
        (monitorBody m line >>= fun _ => readLoop c (monitorBody m) rest) φ
          { s with clock := s.clock + 1 } := fun φ hφ => by
      rw [readLoop, bind_ok (tick_of_none hφ)]
    rw [hstep _ (by simp [interruptAt, h0.symm]), hstep _ rfl, rendered_cons m hr,
      ← List.append_assoc]
    rcases monitorBody_interrupt m hr (s := { s with clock := s.clock + 1 }) hout hk n with
      hsame | ⟨t, ht, hnt, hcut⟩
    · -- the pass runs as without the Ctrl-C, and the rest of the stream decides
      obtain ⟨t, hq, hout', hk', -⟩ := monitorBody_quiet m hr (s := { s with clock := s.clock + 1 }) hk
      rw [bind_ok (hsame.trans hq), bind_ok hq]
      exact ih (ts ++ r.toList) t (by rw [hout', numbered_concat]; simp [hout]) (by simp [hk'])
    · exact .inr ⟨t, bind_error ht _, hnt, hcut.append _⟩

/-- A Ctrl-C among a run of prints stops them after the first `i`. -/
theorem printAll_interrupt (n : Nat) (ls : List String) (s : Tap) :
    printAll ls (interruptAt n) s = printAll ls quiet s ∨
      ∃ i < ls.length, printAll ls (interruptAt n) s =
        (.error .keyboardInterrupt, { s with out := s.out ++ ls.take i, clock := n + 1 }) := by
  induction ls generalizing s with
  | nil => exact .inl rfl
  | cons l ls ih =>
    rcases eq_or_ne n s.clock with rfl | h0
    · exact .inr ⟨0, by simp, by simp [printAll, print, bind_run, tick_eq]⟩
    have hstep : ∀ φ : Schedule, φ s.clock = none → printAll (l :: ls) φ s =
        printAll ls φ { s with out := s.out ++ [l], clock := s.clock + 1 } := fun φ hφ => by
      simp only [printAll, print, bind_run, tick_of_none hφ, update_run]
    rw [hstep _ (by simp [interruptAt, h0.symm]), hstep _ rfl]
    exact (ih _).imp_right fun ⟨i, hi, hit⟩ => ⟨i + 1, by simp [hi], by simp [hit]⟩

/-- `counted` from `packet_count = 0` after `base`, under a Ctrl-C on step `n`: its quiet run,
or a stop with the output cut among the tuples the stream renders and, when there is none, the
notice. -/
theorem counted_interrupt (m : Mode τ) (hm : Total m) (c : Capture) (base : List String)
    (n : Nat) (s : Tap) (hout : s.out = base) (hk : s.packetCount = some 0) :
    counted m c (interruptAt n) s = counted m c quiet s ∨
      ∃ t, counted m c (interruptAt n) s = (.error .keyboardInterrupt, t) ∧ n < t.clock ∧
        Cut m base (rendered m c.lines)
          (if (rendered m c.lines).length = 0 then noticeLines m.width else []) t := by
  rcases readLoop_interrupt m hm c base n c.lines [] s (by simp [hout, numbered]) hk with
    hsame | ⟨t, ht, hnt, hcut⟩
  · obtain ⟨t, hq, hout', hk', -⟩ := readLoop_quiet m hm c c.lines hk
    rw [counted, bind_ok (hsame.trans hq), bind_ok hq]
    rcases eq_or_ne n t.clock with rfl | h0
    · exact .inr ⟨{ t with clock := t.clock + 1 }, by simp [wait, bind_run, tick_eq], by simp,
        .of_tallied (by simp [hout', hout]) (by simp [hk'])⟩
    obtain ⟨a, hwq⟩ : ∃ a, wait quiet t = (.ok a, { t with clock := t.clock + 1 }) := ⟨_, rfl⟩
    have hw : wait (interruptAt n) t = wait quiet t := by
      simp only [wait, bind_run, tick_of_none (show interruptAt n t.clock = none by
        simp [interruptAt, h0.symm]), tick_quiet, inspect_run]
    have hc : ∀ φ, getCount φ { t with clock := t.clock + 1 } =
        (.ok (0 + (rendered m c.lines).length), { t with clock := t.clock + 1 }) :=
      fun _ => getCount_of hk'
    rw [bind_ok (hw.trans hwq), bind_ok hwq, bind_ok (hc _), bind_ok (hc _), Nat.zero_add]
    split_ifs with hR
    · -- no tuple: a Ctrl-C among the notice's prints
      have hnil : rendered m c.lines = [] := List.length_eq_zero.mp hR
      refine (printAll_interrupt n _ _).imp_right fun ⟨i, _, hit⟩ =>
        ⟨_, hit, by simp, 0, 0, (noticeLines m.width).take i, ?_, by simpa [hnil] using hk', by simp,
          .inl rfl, by simp [hR, List.take_prefix]⟩
      simp [hout', hout, hnil, numbered]
    · exact .inl rfl
  · exact .inr ⟨t, bind_error ht _, hnt, by simpa using hcut.mono List.nil_prefix⟩

/-- What the handler guarantees of a monitor's run `r` next to its quiet run `q`, which prints
after `base` the numbered lines of the tuples `R`, and the notice when there is none: `r`
returns normally, leaves no capture running, and is the quiet run, or ends with the stop banner
after the numbered lines of the first `j` tuples (or a part of the notice). The banner's count is
`j`, the number of packet lines printed, or `j + 1` when the Ctrl-C landed on the print of a
tuple already counted. -/
def Handled (m : Mode τ) (base : List String) (R : List τ) (r q : Except PyExc Unit × Tap) :
    Prop :=
  r.1 = .ok () ∧ r.2.proc.settled = true ∧ (r = q ∨ ∃ j k e,
    r.2.out = base ++ numbered m 0 (R.take j) ++ e ++ stopBanner m k ∧ j ≤ R.length ∧
      (k = j ∨ k = j + 1 ∧ j < R.length) ∧
      e <+: (if R.length = 0 then noticeLines m.width else []))

/-- From `packet_count = 0` after `base`, the loop inside the handler handles a Ctrl-C on any
step. -/
theorem counted_handled (m : Mode τ) (hm : Total m) (c : Capture) {base : List String} {s : Tap}
    (hout : s.out = base) (hk : s.packetCount = some 0) (n : Nat)
    (hq : ∃ q, tryCatch (counted m c) (onInterrupt m c) quiet s = (.ok (), q) ∧
      q.proc.settled = true) :
    Handled m base (rendered m c.lines) (tryCatch (counted m c) (onInterrupt m c) (interruptAt n) s)
      (tryCatch (counted m c) (onInterrupt m c) quiet s) := by
  obtain ⟨q, hq, hqp⟩ := hq
  obtain ⟨a, t₀, h₀, -, -⟩ :=
    (resilient_counted (f := .interrupt) m hm c).quiet_ok s (hk ▸ bound_some 0)
  rcases counted_interrupt m hm c base n s hout hk with
    hsame | ⟨t, ht, hnt, j, k, e, htout, htk, hj, hjk, he⟩
  · rw [tryCatch_ok (hsame.trans h₀), tryCatch_ok h₀]
    rw [tryCatch_ok h₀, Prod.mk.injEq] at hq
    exact ⟨hq.1, hq.2 ▸ hqp, .inl rfl⟩
  · obtain ⟨u, hu, huout, hset⟩ := stoppedByUser_late m c htk hnt
    rw [tryCatch_error ht]
    simp only [onInterrupt, ↓reduceIte, hu]
    exact ⟨rfl, hset, .inr ⟨j, k, e, by rw [huout, htout], hj, hjk, he⟩⟩

/-- Once `packet_count = 0` has run, a Ctrl-C landing on any later step is handled. -/
theorem runMonitor_handled (m : Mode τ) (hm : Total m) (c : Capture) (src_ip interface : String)
    (count_limit : Option Int) (debug : Bool) (s : Tap) {n : Nat}
    (hn : s.clock + headerSteps m src_ip interface count_limit debug + 2 ≤ n) :
    Handled m (s.out ++ m.header src_ip interface ++
        (if debug then m.debugLines src_ip interface count_limit else [])) (rendered m c.lines)
      (runMonitor m c src_ip interface count_limit debug (interruptAt n) s)
      (runMonitor m c src_ip interface count_limit debug quiet s) := by
  obtain ⟨q, hq, -, hqp⟩ := runMonitor_quiet m hm c src_ip interface count_limit debug s
  have hloop : runMonitor m c src_ip interface count_limit debug quiet s = _ :=
    runMonitor_loop m c src_ip interface count_limit debug fun _ _ => rfl
  rw [runMonitor_loop m c src_ip interface count_limit debug
      (fun k hk => by simp only [interruptAt]; exact if_neg (by omega)), hloop]
  rw [hloop] at hq
  exact counted_handled m hm c rfl rfl n ⟨q, hq, by simp [hqp, Proc.settled]⟩

/-- Both monitors handle a Ctrl-C on any step after `packet_count = 0`, the steps from 11 on
of a run (from 14 on with `--debug`): whatever the capture writes, they return normally, leave
no capture running, and the run is the quiet one or ends with the stop banner, after the header
and the numbered lines of the first `j` packets, with the count `j`, or `j + 1` when the Ctrl-C
landed on the print of the packet just counted. -/
theorem interrupt_after_count_handled (c : Capture) (src_ip interface : String)
    (count_limit : Option Int) (debug : Bool) (s : Tap) (n : Nat)
    (hn : s.clock + (if debug then 14 else 11) ≤ n) :
    Handled simpleMode (s.out ++ simpleMode.header src_ip interface ++
          (if debug then simpleMode.debugLines src_ip interface count_limit else []))
        (rendered simpleMode c.lines)
        (runSimpleMonitor c src_ip interface count_limit debug (interruptAt n) s)
        (runSimpleMonitor c src_ip interface count_limit debug quiet s) ∧
      Handled fiveTupleMode (s.out ++ fiveTupleMode.header src_ip interface ++
          (if debug then fiveTupleMode.debugLines src_ip interface count_limit else []))
        (rendered fiveTupleMode c.lines)
        (run5tupleMonitor c src_ip interface count_limit debug (interruptAt n) s)
        (run5tupleMonitor c src_ip interface count_limit debug quiet s) := by
  have hsteps : ∀ {τ} (m : Mode τ), headerSteps m src_ip interface count_limit debug + 2 =
      if debug then 14 else 11 := fun m => by cases debug <;> rfl
  exact ⟨runMonitor_handled simpleMode simpleMode_total c src_ip interface count_limit debug s
      (by rw [Nat.add_assoc, hsteps]; exact hn),
    runMonitor_handled fiveTupleMode fiveTupleMode_total c src_ip interface count_limit debug s
      (by rw [Nat.add_assoc, hsteps]; exact hn)⟩

theorem interrupt_after_count_handled_at_first_read :
    Tap.init.clock + (if false then 14 else 11) ≤ 11 ∧
      Handled simpleMode (Tap.init.out ++ simpleMode.header "10.0.0.1" "val0000000001" ++
          (if false then simpleMode.debugLines "10.0.0.1" "val0000000001" none else []))
        (rendered simpleMode ["10.0.0.1||10.0.0.2||6|\n"])
        (runSimpleMonitor ⟨["10.0.0.1||10.0.0.2||6|\n"], 0, true⟩ "10.0.0.1" "val0000000001" none
          false (interruptAt 11) Tap.init)
        (runSimpleMonitor ⟨["10.0.0.1||10.0.0.2||6|\n"], 0, true⟩ "10.0.0.1" "val0000000001" none
          false quiet Tap.init) :=
  ⟨by decide, (interrupt_after_count_handled ⟨["10.0.0.1||10.0.0.2||6|\n"], 0, true⟩ "10.0.0.1"
    "val0000000001" none false Tap.init 11 (by decide)).1⟩

end UeMonitor.Proofs.Interrupt
