import UeMonitor.PacketMonitor.Monitor
import UeMonitor.Proofs.Decode

namespace UeMonitor.Proofs.Stream
open Python PacketMonitor Decode

variable {τ : Type}

/-- A mode whose loop body never raises on a line. -/
def Total (m : Mode τ) : Prop := ∀ line, ∃ r, m.decode line = .ok r

/-- The tuples a stream of raw lines renders, in the order of the lines. -/
def rendered (m : Mode τ) (lines : List String) : List τ :=
  lines.filterMap fun line => match m.decode line with
    | .ok r => r
    | .error _ => none

/-- The numbered lines of tuples counted from `k + 1` on. -/
def numbered (m : Mode τ) (k : Nat) (ts : List τ) : List String :=
  (ts.enumFrom (k + 1)).map fun p => m.format p.2 p.1

theorem simpleMode_total : Total simpleMode := fun line =>
  ⟨_, decodeSimpleLine_eq line⟩

theorem fiveTupleMode_total : Total fiveTupleMode := fun line =>
  ⟨_, decode5tupleLine_eq line⟩

/-- One pass of the loop prints the tuple the line decodes to, numbered one past the count,
and counts it; a line that decodes to nothing changes neither. -/
theorem monitorBody_quiet (m : Mode τ) {line : String} {r : Option τ}
    (hr : m.decode line = .ok r) {s : Tap} {k : Nat} (hk : s.packetCount = some k) :
    ∃ t, monitorBody m line quiet s = (.ok (), t) ∧
      t.out = s.out ++ (r.map fun p => m.format p (k + 1)).toList ∧
      t.packetCount = some (k + r.toList.length) ∧ t.proc = s.proc := by
  cases r with
  | none =>
    refine ⟨{ s with clock := s.clock + 1 }, ?_, by simp, by simpa using hk, rfl⟩
    simp only [monitorBody, bind_ok (tick_quiet false), hr]
    rfl
  | some p =>
    refine ⟨{ s with
      out := s.out ++ [m.format p (k + 1)]
      clock := s.clock + 4
      packetCount := some (k + 1) }, ?_, by simp, rfl, rfl⟩
    simp only [monitorBody, bind_ok (tick_quiet false), hr]
    rw [bind_ok (getCount_of (s := { s with clock := s.clock + 1 }) hk)]
    rfl

/-- The run lemma of the read loop: from a count of `k`, a whole stream prints the numbered
lines of the tuples it renders and leaves the count `k` plus their number; at its end the
capture process has exited. -/
theorem readLoop_quiet (m : Mode τ) (hm : Total m) (c : Capture) (lines : List String)
    {s : Tap} {k : Nat} (hk : s.packetCount = some k) :
    ∃ t, readLoop c (monitorBody m) lines quiet s = (.ok (), t) ∧
      t.out = s.out ++ numbered m k (rendered m lines) ∧
      t.packetCount = some (k + (rendered m lines).length) ∧ t.proc = .exited c.status := by
  induction lines generalizing s k with
  | nil => exact ⟨_, rfl, by simp [numbered, rendered], by simpa [rendered] using hk, rfl⟩
  | cons line rest ih =>
    obtain ⟨r, hr⟩ := hm line
    obtain ⟨t₁, h₁, hout₁, hk₁, -⟩ := monitorBody_quiet m hr (s := { s with clock := s.clock + 1 }) hk
    obtain ⟨t₂, h₂, hout₂, hk₂, hp₂⟩ := ih hk₁
    refine ⟨t₂, ?_, ?_, ?_, hp₂⟩
    · simp only [readLoop, bind_ok (tick_quiet true), bind_ok h₁, h₂]
    · cases r <;> simp_all [rendered, numbered, List.enumFrom_cons, Nat.add_comm 1]
    · cases r <;> simp_all [rendered]; omega

theorem supervise_quiet (m : Mode τ) (hm : Total m) (c : Capture) (s : Tap) :
    ∃ t, supervise m c quiet s = (.ok (), t) ∧
      t.out = s.out ++ numbered m 0 (rendered m c.lines) ++
        (if (rendered m c.lines).length = 0 then noticeLines m.width else []) ∧
      t.proc = .exited c.status := by
  obtain ⟨t, hl, hout, hk, hp⟩ := readLoop_quiet m hm c c.lines
    (s := { s with clock := s.clock + 1 + 1, proc := .running, packetCount := some 0 }) rfl
  simp only [supervise, bind_run, popen_quiet, setCount_quiet, hl, wait_of_exited hp,
    getCount, hk, Nat.zero_add]
  split
  · refine ⟨_, printAll_quiet _, ?_, hp⟩
    simp_all
  · exact ⟨_, rfl, by simp_all, hp⟩

/-- What a monitor prints over a quiet run: its header, the debug lines, one numbered line per
tuple the stream renders, and the notice when there is none. The capture's exit status does not
enter. -/
def output (m : Mode τ) (lines : List String) (src_ip interface : String)
    (count_limit : Option Int) (debug : Bool) : List String :=
  m.header src_ip interface ++
    (if debug then m.debugLines src_ip interface count_limit else []) ++
    numbered m 0 (rendered m lines) ++
    (if (rendered m lines).length = 0 then noticeLines m.width else [])

theorem runMonitor_quiet (m : Mode τ) (hm : Total m) (c : Capture) (src_ip interface : String)
    (count_limit : Option Int) (debug : Bool) (s : Tap) :
    ∃ t, runMonitor m c src_ip interface count_limit debug quiet s = (.ok (), t) ∧
      t.out = s.out ++ output m c.lines src_ip interface count_limit debug ∧
      t.proc = .exited c.status := by
  cases debug with
  | false =>
    obtain ⟨t, ht, hout, hp⟩ := supervise_quiet m hm c { s with
      out := s.out ++ m.header src_ip interface
      clock := s.clock + (m.header src_ip interface).length + 1 }
    simp only [runMonitor, bind_run, printAll_quiet, flush_quiet, tryCatch_run, ht, pure_run,
      Bool.false_eq_true, ↓reduceIte]
    exact ⟨t, rfl, by simp [hout, output], hp⟩
  | true =>
    obtain ⟨t, ht, hout, hp⟩ := supervise_quiet m hm c { s with
      out := s.out ++ m.header src_ip interface ++ m.debugLines src_ip interface count_limit
      clock := s.clock + (m.header src_ip interface).length + 1 +
        (m.debugLines src_ip interface count_limit).length + 1 }
    simp only [runMonitor, bind_run, printAll_quiet, flush_quiet, tryCatch_run, ht, pure_run,
      Bool.false_eq_true, ↓reduceIte]
    exact ⟨t, rfl, by simp [hout, output], hp⟩

end UeMonitor.Proofs.Stream
