import Mathlib.Algebra.BigOperators.Group.List
import Mathlib.Algebra.Group.Prod
import Mathlib.Algebra.Order.Ring.Rat
import Mathlib.Tactic.NormNum
import UeMonitor.TxRxMonitor

namespace UeMonitor.Proofs.Sampler
open Python TxRxMonitor

/-! ## What the reads return -/

/-- What `read_stat` returns for a read at step `c`. -/
def statAt (h : Host) (c : Nat) (iface stat : String) : Option Int :=
  (h.files c ("/sys/class/net/" ++ iface ++ "/statistics/" ++ stat)).bind fun text =>
    pyInt (strip text)

/-- The four reads of an interface from step `c` on: its counters, if all four are read. -/
def readingAt (h : Host) (c : Nat) (iface : String) : Option Counters :=
  match statAt h c iface "rx_packets", statAt h (c + 1) iface "rx_bytes",
    statAt h (c + 2) iface "tx_packets", statAt h (c + 3) iface "tx_bytes" with
  | some rxp, some rxb, some txp, some txb => some ⟨rxp, rxb, txp, txb⟩
  | _, _, _, _ => none

/-- The same reads before the loop, each failed one taken as 0. -/
def initialAt (h : Host) (c : Nat) (iface : String) : Counters :=
  ⟨(statAt h c iface "rx_packets").getD 0, (statAt h (c + 1) iface "rx_bytes").getD 0,
    (statAt h (c + 2) iface "tx_packets").getD 0, (statAt h (c + 3) iface "tx_bytes").getD 0⟩

/-! ## The history of readings -/

/-- The latest reading of the interface `i` among `past`, oldest first. -/
def lastReading (i : String) (past : List (String × Counters)) : Option Counters :=
  ((past.filter fun r => r.1 == i).getLast?).map Prod.snd

/-- The dict `prev` once the readings `past` are recorded in turn. -/
def replay (past : List (String × Counters)) : Prev :=
  past.foldl (fun prev r => prev.set r.1 r.2) fun _ => none

theorem replay_append_singleton (past : List (String × Counters)) (i : String) (c : Counters) :
    replay (past ++ [(i, c)]) = (replay past).set i c := by
  simp [replay]

theorem lastReading_append_singleton (past : List (String × Counters)) (i j : String)
    (c : Counters) :
    lastReading j (past ++ [(i, c)]) = if j = i then some c else lastReading j past := by
  by_cases hj : j = i
  · simp [lastReading, hj]
  · simp [lastReading, hj, Ne.symm hj]

/-- `prev` holds the latest reading of every interface. -/
theorem replay_apply (past : List (String × Counters)) (i : String) :
    replay past i = lastReading i past := by
  induction past using List.reverseRecOn with
  | nil => rfl
  | append_singleton past r ih =>
    rw [replay_append_singleton, lastReading_append_singleton, ← ih]
    rfl

/-- The readings a row adds to the history: its reading, if it is shown. -/
def shownAt (h : Host) (c : Nat) (iface : String) : List (String × Counters) :=
  (readingAt h c iface).toList.map (iface, ·)

/-- The readings the reads `evs` add to the history. -/
def recorded (h : Host) (evs : List (String × Nat)) : List (String × Counters) :=
  evs.flatMap fun e => shownAt h e.2 e.1

/-- The row for `iface` read from step `c` on after the readings `past`: `N/A` if a counter is
unreadable, else the reading against the latest earlier reading of the interface, made into a
row by `mk`. -/
def expectedRow (h : Host) (mk : String → Counters → Counters → Row)
    (past : List (String × Counters)) (c : Nat) (iface : String) : Row :=
  match readingAt h c iface with
  | none => .na iface
  | some cur => mk iface cur ((lastReading iface past).getD cur)

/-- The rows for the reads `evs`, each an interface and the step its reads start at, after the
readings `past`; each shown row joins the history. -/
def expectedRows (h : Host) (mk : String → Counters → Counters → Row) :
    List (String × Counters) → List (String × Nat) → List Row
  | _, [] => []
  | past, (i, c) :: evs => expectedRow h mk past c i :: expectedRows h mk (past ++ shownAt h c i) evs

section History

variable {h : Host} {mk : String → Counters → Counters → Row}

@[simp] theorem recorded_nil : recorded h [] = [] := rfl

@[simp] theorem recorded_cons (i : String) (c : Nat) (evs : List (String × Nat)) :
    recorded h ((i, c) :: evs) = shownAt h c i ++ recorded h evs := rfl

@[simp] theorem recorded_append (evs evs' : List (String × Nat)) :
    recorded h (evs ++ evs') = recorded h evs ++ recorded h evs' := List.flatMap_append _ _ _

theorem expectedRows_append (evs evs' : List (String × Nat)) :
    ∀ past, expectedRows h mk past (evs ++ evs') =
      expectedRows h mk past evs ++ expectedRows h mk (past ++ recorded h evs) evs' := by
  induction evs with
  | nil => simp [expectedRows]
  | cons e evs ih =>
    intro past
    obtain ⟨i, c⟩ := e
    simp [expectedRows, ih]

end History

/-! ## The steps of a run -/

/-- The reads of the interfaces `ifaces` in turn from step `c` on, four steps each: each
interface with the step its reads start at. -/
def readsFrom : Nat → List String → List (String × Nat)
  | _, [] => []
  | c, i :: rest => (i, c) :: readsFrom (c + 4) rest

/-- The readings before the loop of the interfaces `ifaces` from step `c` on. -/
def initialFrom (h : Host) : Nat → List String → List (String × Counters)
  | _, [] => []
  | c, i :: rest => (i, initialAt h c i) :: initialFrom h (c + 4) rest

/-- The steps of one pass of the loop: the sleep, the timestamp, four reads per interface and
the prints of the table. -/
def passLen (ifaces : List String) : Nat := 8 + 5 * ifaces.length

/-- The reads of `m` passes of the loop from step `c` on. -/
def loopReads (ifaces : List String) : Nat → Nat → List (String × Nat)
  | _, 0 => []
  | c, m + 1 => readsFrom (c + 2) ifaces ++ loopReads ifaces (c + passLen ifaces) m

/-- The passes the loop makes after `sample` samples with `fuel` passes left: on to the
`count`-th sample and at least one, or on without end for a count of 0. -/
def loopPasses (count : Int) (fuel sample : Nat) : Nat :=
  if count = 0 then fuel else min fuel (max 1 (count.toNat - sample))

/-- Whether the loop reaches its `break` within `fuel` passes after `sample` samples. -/
def loopBreaks (count : Int) (fuel sample : Nat) : Bool :=
  count ≠ 0 ∧ max 1 (count.toNat - sample) ≤ fuel

/-- The rows among what the sampler prints. -/
def shownRows (out : List Output) : List Row :=
  out.filterMap fun | .row r => some r | _ => none

/-- The sample numbers of the tables among what the sampler prints. -/
def shownSamples (out : List Output) : List Nat :=
  out.filterMap fun | .stamp _ k => some k | _ => none

@[simp] theorem shownRows_append (out out' : List Output) :
    shownRows (out ++ out') = shownRows out ++ shownRows out' := List.filterMap_append _ _ _

@[simp] theorem shownSamples_append (out out' : List Output) :
    shownSamples (out ++ out') = shownSamples out ++ shownSamples out' := List.filterMap_append _ _ _

theorem shownRows_tableLines (rows : List Row) (timestamp : String) (sample : Nat) :
    shownRows (tableLines rows timestamp sample) = rows := by
  simp [shownRows, tableLines, List.filterMap_map, Function.comp_def]

theorem shownSamples_tableLines (rows : List Row) (timestamp : String) (sample : Nat) :
    shownSamples (tableLines rows timestamp sample) = [sample] := by
  simp [shownSamples, tableLines, List.filterMap_map, Function.comp_def]

section Steps

variable {h : Host} {mk : String → Counters → Counters → Row}

@[simp] theorem readsFrom_length : ∀ (c : Nat) (ifaces : List String),
    (readsFrom c ifaces).length = ifaces.length
  | _, [] => rfl
  | c, _ :: rest => by simp [readsFrom, readsFrom_length (c + 4) rest]

@[simp] theorem expectedRows_length :
    ∀ (past : List (String × Counters)) (evs : List (String × Nat)),
      (expectedRows h mk past evs).length = evs.length
  | _, [] => rfl
  | past, (i, c) :: evs => by simp [expectedRows, expectedRows_length _ evs]

variable {count : Int} {fuel sample : Nat}

@[simp] theorem loopPasses_zero : loopPasses count 0 sample = 0 := by
  rw [loopPasses, Nat.zero_min, ite_self]

@[simp] theorem loopBreaks_zero : loopBreaks count 0 sample = false := by
  rw [loopBreaks, decide_eq_false_iff_not]
  exact fun h => absurd h.2 (by omega)

/-- A pass that reaches the `break` is the loop's last. -/
theorem loopPasses_of_break (hc : count ≠ 0 ∧ count ≤ sample + 1) :
    loopPasses count (fuel + 1) sample = 1 ∧ loopBreaks count (fuel + 1) sample = true := by
  simp only [loopPasses, loopBreaks, decide_eq_true_eq]
  constructor
  · rw [if_neg hc.1]
    omega
  · omega

/-- A pass that does not reach the `break` leaves the rest to the next. -/
theorem loopPasses_of_continue (hc : ¬(count ≠ 0 ∧ count ≤ sample + 1)) :
    loopPasses count (fuel + 1) sample = loopPasses count fuel (sample + 1) + 1 ∧
      loopBreaks count (fuel + 1) sample = loopBreaks count fuel (sample + 1) := by
  rcases eq_or_ne count 0 with rfl | h0
  · simp [loopPasses, loopBreaks]
  obtain ⟨n, rfl, hn⟩ : ∃ n : Nat, count = n ∧ sample + 1 < n := ⟨count.toNat, by omega, by omega⟩
  simp only [loopPasses, loopBreaks, if_neg h0, Int.toNat_natCast]
  exact ⟨by omega, decide_eq_decide.mpr (by omega)⟩

end Steps

/-! ## The sampler's steps without interference -/

section Quiet

variable (h : Host) {s : Screen}

theorem readStat_quiet (iface stat : String) :
    readStat h iface stat quiet s =
      (.ok (statAt h s.clock iface stat), { s with clock := s.clock + 1 }) := by
  cases hf : h.files s.clock ("/sys/class/net/" ++ iface ++ "/statistics/" ++ stat) with
  | none => simp [readStat, statAt, tryCatch_run, bind_run, hf, PyExc.isException]
  | some text =>
    cases hp : pyInt (strip text) <;>
      simp [readStat, statAt, tryCatch_run, bind_run, hf, hp, PyExc.isException]

theorem readAll_quiet (iface : String) :
    readAll h iface quiet s =
      (.ok (statAt h s.clock iface "rx_packets", statAt h (s.clock + 1) iface "rx_bytes",
        statAt h (s.clock + 2) iface "tx_packets", statAt h (s.clock + 3) iface "tx_bytes"),
        { s with clock := s.clock + 4 }) := by
  simp only [readAll, bind_run, readStat_quiet, pure_run, Nat.add_assoc]

theorem sampleRow_quiet (interval : ℚ) (past : List (String × Counters)) (iface : String) :
    sampleRow h interval (replay past) iface quiet s =
      (.ok (expectedRow h (shownRow interval) past s.clock iface,
        replay (past ++ shownAt h s.clock iface)), { s with clock := s.clock + 4 }) := by
  rw [sampleRow, bind_ok (readAll_quiet h iface)]
  simp only [expectedRow, shownAt, readingAt]
  cases statAt h s.clock iface "rx_packets" <;> cases statAt h (s.clock + 1) iface "rx_bytes" <;>
    cases statAt h (s.clock + 2) iface "tx_packets" <;>
    cases statAt h (s.clock + 3) iface "tx_bytes" <;>
    simp [replay_append_singleton, replay_apply]

theorem initialPrev_quiet : ∀ (ifaces : List String) (past : List (String × Counters)) (s : Screen),
    initialPrev h (replay past) ifaces quiet s =
      (.ok (replay (past ++ initialFrom h s.clock ifaces)),
        { s with clock := s.clock + 4 * ifaces.length })
  | [], past, s => by simp [initialPrev, initialFrom]
  | iface :: rest, past, s => by
    rw [initialPrev, bind_ok (readAll_quiet h iface)]
    show initialPrev h ((replay past).set iface (initialAt h s.clock iface)) rest quiet _ = _
    rw [← replay_append_singleton, initialPrev_quiet rest]
    simp only [initialFrom, List.append_assoc, List.singleton_append, List.length_cons]
    congr 2
    omega

theorem sampleRows_quiet (interval : ℚ) :
    ∀ (ifaces : List String) (past : List (String × Counters)) (s : Screen),
      sampleRows h interval (replay past) ifaces quiet s =
        (.ok (expectedRows h (shownRow interval) past (readsFrom s.clock ifaces),
          replay (past ++ recorded h (readsFrom s.clock ifaces))),
          { s with clock := s.clock + 4 * ifaces.length })
  | [], past, s => by simp [sampleRows, readsFrom, expectedRows]
  | iface :: rest, past, s => by
    rw [sampleRows, bind_ok (sampleRow_quiet h interval past iface)]
    simp only [bind_run, sampleRows_quiet interval rest, pure_run, readsFrom, expectedRows,
      recorded_cons, List.append_assoc, List.length_cons]
    congr 2
    omega

theorem printTable_quiet (rows : List Row) (timestamp : String) (sample : Nat) :
    printTable rows timestamp sample quiet s =
      (.ok (), ⟨s.out ++ tableLines rows timestamp sample, s.clock + (6 + rows.length)⟩) := by
  rw [printTable, Screen.printAll_quiet]
  simp [tableLines]
  omega

theorem samplePass_quiet (args : Args) (ifaces : List String) (hs : sleepError args.interval = none)
    (sample : Nat) (past : List (String × Counters)) (s : Screen) :
    samplePass h args ifaces sample (replay past) quiet s =
      (.ok (replay (past ++ recorded h (readsFrom (s.clock + 2) ifaces))),
        ⟨s.out ++ tableLines (expectedRows h (shownRow args.interval) past
          (readsFrom (s.clock + 2) ifaces)) (h.strftime (s.clock + 1)) sample,
          s.clock + passLen ifaces⟩) := by
  have hsleep : sleep args.interval quiet s = (.ok (), { s with clock := s.clock + 1 }) := by
    unfold sleep
    rw [hs]
    rfl
  rw [samplePass, bind_ok hsleep, bind_ok (Screen.query_quiet _ _),
    bind_ok (sampleRows_quiet h _ ifaces past _)]
  dsimp only
  rw [bind_ok (printTable_quiet _ _ _)]
  simp only [pure_run, expectedRows_length, readsFrom_length, passLen, Nat.add_assoc]
  congr 3
  omega

/-- The run lemma of the sampler's loop: from `prev` the record of the readings `past`, with a
sleep that does not raise, its passes print their tables, each sample's rows measured against
the readings before them, the samples numbered on from `sample`. -/
theorem sampleLoop_quiet (args : Args) (ifaces : List String) (hs : sleepError args.interval = none) :
    ∀ (fuel sample : Nat) (past : List (String × Counters)) (s : Screen), ∃ L,
      sampleLoop h args ifaces fuel sample (replay past) quiet s =
        (.ok (loopBreaks args.count fuel sample),
          ⟨s.out ++ L, s.clock + loopPasses args.count fuel sample * passLen ifaces⟩) ∧
      shownRows L = expectedRows h (shownRow args.interval) past
        (loopReads ifaces s.clock (loopPasses args.count fuel sample)) ∧
      shownSamples L = List.range' (sample + 1) (loopPasses args.count fuel sample)
  | 0, sample, past, s => ⟨[], by
      rw [sampleLoop.eq_1, loopBreaks_zero, loopPasses_zero, List.append_nil, Nat.zero_mul]
      rfl, by simp [loopReads, expectedRows, shownRows, shownSamples]⟩
  | fuel + 1, sample, past, s => by
    rw [sampleLoop, bind_ok (samplePass_quiet h args ifaces hs _ past s)]
    by_cases hc : args.count ≠ 0 ∧ args.count ≤ sample + 1
    · obtain ⟨hp, hb⟩ := @loopPasses_of_break args.count fuel sample hc
      rw [if_pos hc, hp, hb]
      refine ⟨_, by rw [pure_run, Nat.one_mul], ?_, ?_⟩
      · simp [shownRows_tableLines, loopReads]
      · simp [shownSamples_tableLines]
    · obtain ⟨hp, hb⟩ := @loopPasses_of_continue args.count fuel sample hc
      obtain ⟨L, hL, hrows, hsamples⟩ := sampleLoop_quiet args ifaces hs fuel (sample + 1) _ _
      rw [if_neg hc, hL, hp, hb]
      refine ⟨tableLines (expectedRows h (shownRow args.interval) past
        (readsFrom (s.clock + 2) ifaces)) (h.strftime (s.clock + 1)) (sample + 1) ++ L, ?_, ?_, ?_⟩
      · simp only [List.append_assoc, Nat.succ_mul]
        congr 2
        omega
      · rw [shownRows_append, shownRows_tableLines, hrows, loopReads, expectedRows_append]
      · rw [shownSamples_append, shownSamples_tableLines, hsamples]
        rfl

end Quiet

/-! ## A whole run -/

/-- The interfaces `main` starts from: the given ones, else the detected `val*` ones. -/
def chosen (h : Host) (args : Args) : List String :=
  if args.interfaces ≠ [] then args.interfaces else globSorted h.sysNet "val"

/-- The steps taken to choose them: one to detect. -/
def chooseSteps (args : Args) : Nat := if args.interfaces ≠ [] then 0 else 1

/-- The interfaces of `ifaces` found to exist, checked in turn from step `c` on. -/
def existingFrom (h : Host) : Nat → List String → List String
  | _, [] => []
  | c, i :: rest =>
    if h.pathExists c ("/sys/class/net/" ++ i) then i :: existingFrom h (c + 1) rest
    else existingFrom h (c + 1) rest

/-- The interfaces `main` samples. -/
def targets (h : Host) (args : Args) : List String :=
  existingFrom h (chooseSteps args) (chosen h args)

/-- The step the reads before the loop start at. -/
def initClock (h : Host) (args : Args) : Nat := chooseSteps args + (chosen h args).length + 2

/-- The step the `try` starts at. -/
def loopClock (h : Host) (args : Args) : Nat := initClock h args + 4 * (targets h args).length

/-- The readings before the loop. -/
def initialReadings (h : Host) (args : Args) : List (String × Counters) :=
  initialFrom h (initClock h args) (targets h args)

/-- The reads of the loop's passes in a run of at most `fuel` passes. -/
def runReads (h : Host) (args : Args) (fuel : Nat) : List (String × Nat) :=
  loopReads (targets h args) (loopClock h args) (loopPasses args.count fuel 0)

/-- The two lines `main` prints before sampling `ifaces`. -/
def headerLines (ifaces : List String) : List Output :=
  [.line ("Monitoring " ++ toString ifaces.length ++ " interface(s): " ++ ", ".intercalate ifaces),
    .line "Press Ctrl-C to stop"]

section Run

variable (h : Host) (args : Args)

theorem filterExisting_quiet : ∀ (ifaces : List String) (s : Screen),
    filterExisting h ifaces quiet s =
      (.ok (existingFrom h s.clock ifaces), { s with clock := s.clock + ifaces.length })
  | [], s => by simp [filterExisting, existingFrom]
  | i :: rest, s => by
    rw [filterExisting, bind_ok (Screen.query_quiet _ _), bind_ok (filterExisting_quiet rest _)]
    simp only [pure_run, existingFrom, List.length_cons]
    congr 2
    omega

theorem chooseInterfaces_quiet :
    chooseInterfaces h args quiet Screen.init = (.ok (chosen h args), ⟨[], chooseSteps args⟩) := by
  by_cases ha : args.interfaces ≠ [] <;>
    simp [ha, chooseInterfaces, chosen, chooseSteps, detectValInterfaces, Screen.init]

/-- `main` up to its `try`: with no interface to sample it prints one line and exits 1;
otherwise it prints the header and records the readings before the loop. -/
theorem start_quiet :
    start h args quiet Screen.init =
      if chosen h args = [] then
        (.error (.systemExit 1), ⟨[.line "No val interfaces found. Exit."], chooseSteps args + 1⟩)
      else if targets h args = [] then
        (.error (.systemExit 1), ⟨[.line "No valid interfaces found after filtering. Exit."],
          chooseSteps args + (chosen h args).length + 1⟩)
      else (.ok (targets h args, replay (initialReadings h args)),
        ⟨headerLines (targets h args), loopClock h args⟩) := by
  rw [start, bind_ok (chooseInterfaces_quiet h args)]
  by_cases hc : chosen h args = []
  · simp [hc, sysExit, Screen.print, bind_run]
  rw [if_neg hc, if_neg hc, bind_ok (filterExisting_quiet h _ _)]
  by_cases ht : targets h args = []
  · have ht' : existingFrom h (chooseSteps args) (chosen h args) = [] := ht
    simp [ht, ht', sysExit, Screen.print, bind_run]
  have ht' : existingFrom h (chooseSteps args) (chosen h args) ≠ [] := ht
  dsimp only
  rw [if_neg ht', if_neg ht, bind_ok (Screen.print_quiet _), bind_ok (Screen.print_quiet _),
    show (fun _ => none : Prev) = replay [] from rfl, bind_ok (initialPrev_quiet h _ _ _)]
  simp only [pure_run, List.nil_append, headerLines, targets, initialReadings, loopClock, initClock,
    List.singleton_append]

theorem main_of_targets_nil (fuel : Nat) (ht : targets h args = []) :
    ∃ msg c, main h args fuel quiet Screen.init = (.error (.systemExit 1), ⟨[.line msg], c⟩) := by
  have : ∃ msg c, start h args quiet Screen.init = (.error (.systemExit 1), ⟨[.line msg], c⟩) := by
    rw [start_quiet]
    split_ifs
    · exact ⟨_, _, rfl⟩
    · exact ⟨_, _, rfl⟩
  obtain ⟨msg, c, hs⟩ := this
  exact ⟨msg, c, by rw [main, bind_error hs]⟩

theorem start_of_targets (ht : targets h args ≠ []) :
    start h args quiet Screen.init = (.ok (targets h args, replay (initialReadings h args)),
      ⟨headerLines (targets h args), loopClock h args⟩) := by
  rw [start_quiet, if_neg (fun hc => ht (by simp [targets, hc, existingFrom])), if_neg ht]

/-- `main` without interference, with interfaces to sample and a sleep that does not raise:
the header, then the tables of its passes. -/
theorem main_quiet (fuel : Nat) (ht : targets h args ≠ []) (hs : sleepError args.interval = none) :
    ∃ L, main h args fuel quiet Screen.init =
        (.ok (loopBreaks args.count fuel 0), ⟨headerLines (targets h args) ++ L,
          loopClock h args + loopPasses args.count fuel 0 * passLen (targets h args)⟩) ∧
      shownRows L = expectedRows h (shownRow args.interval) (initialReadings h args)
        (runReads h args fuel) ∧
      shownSamples L = List.range' 1 (loopPasses args.count fuel 0) := by
  obtain ⟨L, hL, hrows, hsamples⟩ := sampleLoop_quiet h args (targets h args) hs fuel 0
    (initialReadings h args) ⟨headerLines (targets h args), loopClock h args⟩
  exact ⟨L, by rw [main, bind_ok (start_of_targets h args ht)]; exact tryCatch_ok hL _, hrows,
    hsamples⟩

end Run

/-! ## What each row is measured against -/

/-- A row showing the reading `cur` against `base`: each byte delta the difference, each rate the
difference over the interval. -/
def measuredRow (interval : ℚ) (iface : String) (cur base : Counters) : Row :=
  .shown iface cur.rxp (.perSec (↑(cur.rxp - base.rxp) / interval)) (cur.rxb - base.rxb)
    (.perSec (↑(cur.rxb - base.rxb) / interval)) cur.rxb cur.txp
    (.perSec (↑(cur.txp - base.txp) / interval)) (cur.txb - base.txb)
    (.perSec (↑(cur.txb - base.txb) / interval)) cur.txb

/-- The RX Δ and TX Δ a row displays for the interface `i`, zero for any other row. -/
def displayedDeltas (i : String) : Row → Int × Int
  | .shown iface _ _ drb _ _ _ _ dtb _ _ => if iface = i then (drb, dtb) else (0, 0)
  | .na _ => (0, 0)

theorem shownRow_eq_measuredRow {interval : ℚ} (hi : 0 < interval) :
    shownRow interval = measuredRow interval := by
  funext iface cur p
  simp [shownRow, measuredRow, formatRate, not_le.mpr hi]

theorem sleepError_of_pos {secs : ℚ} (hi : 0 < secs) (hs : secs * 10 ^ 9 ≤ 2 ^ 63 - 1) :
    sleepError secs = none := by
  have h0 : 0 < secs * 10 ^ 9 := mul_pos hi (pow_pos (by decide) 9)
  have h1 : -(2 : ℚ) ^ 63 ≤ 0 := neg_nonpos.mpr (pow_pos (by decide) 63).le
  simp only [sleepError, if_neg (not_lt.mpr hi.le)]
  rw [if_neg (not_or.mpr ⟨not_lt.mpr (h1.trans h0.le), not_lt.mpr hs⟩)]

theorem lastReading_of_mem {i : String} {past : List (String × Counters)} {x : Counters}
    (hx : (i, x) ∈ past) : ∃ b, lastReading i past = some b := by
  have hne : past.filter (fun r => r.1 == i) ≠ [] :=
    List.ne_nil_of_mem (List.mem_filter.mpr ⟨hx, by simp⟩)
  obtain ⟨r, hr⟩ := Option.ne_none_iff_exists'.mp (mt List.getLast?_eq_none_iff.mp hne)
  exact ⟨r.2, by simp [lastReading, hr]⟩

theorem mem_initialFrom (h : Host) {i : String} :
    ∀ {c : Nat} {ifaces : List String}, i ∈ ifaces → ∃ x, (i, x) ∈ initialFrom h c ifaces
  | _, j :: rest, hi => by
    rcases List.mem_cons.mp hi with rfl | hi
    · exact ⟨_, List.mem_cons_self _ _⟩
    · obtain ⟨x, hx⟩ := mem_initialFrom h hi
      exact ⟨x, List.mem_cons_of_mem _ hx⟩

@[simp] theorem loopReads_nil : ∀ (c m : Nat), loopReads [] c m = []
  | _, 0 => rfl
  | c, m + 1 => by simp [loopReads, readsFrom, loopReads_nil _ m]

/-- Over a run the byte deltas displayed for an interface telescope: they add up to its latest
reading minus its reading before. -/
theorem expectedRows_displayedDeltas (h : Host) (interval : ℚ) (i : String) :
    ∀ (evs : List (String × Nat)) (past : List (String × Counters)) (b : Counters),
      lastReading i past = some b →
      ∃ b', lastReading i (past ++ recorded h evs) = some b' ∧
        ((expectedRows h (measuredRow interval) past evs).map (displayedDeltas i)).sum =
          (b'.rxb - b.rxb, b'.txb - b.txb)
  | [], past, b, hb => ⟨b, by simpa using hb, by simp [expectedRows]⟩
  | (j, c) :: evs, past, b, hb => by
    cases hr : readingAt h c j with
    | none =>
      obtain ⟨b', hb', hsum⟩ := expectedRows_displayedDeltas h interval i evs past b hb
      refine ⟨b', by simpa [shownAt, hr] using hb', ?_⟩
      simpa [expectedRows, expectedRow, shownAt, hr, displayedDeltas] using hsum
    | some cur =>
      by_cases hj : j = i
      · subst hj
        obtain ⟨b', hb', hsum⟩ := expectedRows_displayedDeltas h interval j evs
          (past ++ [(j, cur)]) cur (by simp [lastReading_append_singleton])
        refine ⟨b', by simpa [shownAt, hr] using hb', ?_⟩
        simp only [expectedRows, expectedRow, shownAt, hr, Option.toList_some, List.map_cons,
          List.map_nil, List.sum_cons, hsum, hb, Option.getD_some, measuredRow, displayedDeltas,
          if_pos, Prod.mk_add_mk]
        congr 1 <;> omega
      · obtain ⟨b', hb', hsum⟩ := expectedRows_displayedDeltas h interval i evs
          (past ++ [(j, cur)]) b (by simp [lastReading_append_singleton, Ne.symm hj, hb])
        refine ⟨b', by simpa [shownAt, hr] using hb', ?_⟩
        simpa [expectedRows, expectedRow, shownAt, hr, measuredRow, displayedDeltas, hj] using hsum

/-- One interface, given on the command line, whose `rx_bytes` cannot be read before the loop
and whose `rx_packets` cannot be read in the first sample; by the second it has received 20
packets of 2000 bytes in all. Its reads before the loop are at steps 3 to 6, the first pass
starts at step 7 and the second at step 20. -/
def gapHost : Host where
  sysNet := ["val1"]
  pathExists := fun _ _ => true
  files := fun c path =>
    if path = "/sys/class/net/val1/statistics/rx_bytes" then
      if c < 7 then none else some "2000"
    else if path = "/sys/class/net/val1/statistics/rx_packets" then
      if c < 7 then some "0" else if c < 20 then none else some "20"
    else some "0"
  strftime := fun _ => ""

/-- One second between samples, run until Ctrl-C. -/
def gapArgs : Args := ⟨1, 0, ["val1"]⟩

end UeMonitor.Proofs.Sampler
