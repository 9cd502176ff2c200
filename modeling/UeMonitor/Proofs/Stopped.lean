import UeMonitor.Proofs.Sampler

namespace UeMonitor.Proofs.Stopped
open Python TxRxMonitor Sampler

variable {α β : Type}

/-! ## Code with no handler for a Ctrl-C -/

/-- `x` run from `s` under one Ctrl-C, where nothing in `x` catches it. Without the Ctrl-C `x`
returns `r` after the steps `T`, each printing what it holds. A Ctrl-C on step `i` of them raises
`KeyboardInterrupt` there, after the prints of the steps before it. One on no step of them
changes nothing. -/
structure Runs (x : Prog Screen α) (s : Screen) (r : Except PyExc α)
    (T : List (Option Output)) : Prop where
  undisturbed : x quiet s = (r, ⟨s.out ++ T.filterMap id, s.clock + T.length⟩)
  hit : ∀ i < T.length, x (interruptAt (s.clock + i)) s =
    (.error .keyboardInterrupt, ⟨s.out ++ (T.take i).filterMap id, s.clock + i + 1⟩)
  miss : ∀ n, n < s.clock ∨ s.clock + T.length ≤ n → x (interruptAt n) s = x quiet s

/-- `x` catches no Ctrl-C, from whatever state it runs. -/
def Unguarded (x : Prog Screen α) : Prop := ∀ s, ∃ r T, Runs x s r T

namespace Runs

variable {x : Prog Screen α} {g : α → Prog Screen β} {s : Screen}

theorem of_pure (a : α) : Runs (pure a : Prog Screen α) s (.ok a) [] :=
  ⟨by simp, fun _ hi => absurd hi (Nat.not_lt_zero _), fun _ _ => rfl⟩

theorem of_throw (e : PyExc) : Runs (throw e : Prog Screen α) s (.error e) [] :=
  ⟨by simp, fun _ hi => absurd hi (Nat.not_lt_zero _), fun _ _ => rfl⟩

/-- Sequencing after a step that returns. -/
theorem bind_ok {a : α} {T : List (Option Output)} (hx : Runs x s (.ok a) T) {r : Except PyExc β}
    {T' : List (Option Output)} (hg : Runs (g a) ⟨s.out ++ T.filterMap id, s.clock + T.length⟩ r T') :
    Runs (x >>= g) s r (T ++ T') := by
  refine ⟨?_, fun i hi => ?_, fun n hn => ?_⟩
  · rw [Python.bind_ok hx.undisturbed, hg.undisturbed]
    simp [List.filterMap_append, List.append_assoc, Nat.add_assoc]
  · rw [List.length_append] at hi
    by_cases hiT : i < T.length
    · rw [Python.bind_error (hx.hit i hiT), List.take_append_of_le_length hiT.le]
    · obtain ⟨j, rfl⟩ : ∃ j, i = T.length + j := ⟨i - T.length, by omega⟩
      have hg' := hg.hit j (by omega)
      dsimp only at hg'
      rw [Python.bind_ok ((hx.miss _ (.inr (by omega))).trans hx.undisturbed), ← Nat.add_assoc,
        hg', List.take_append_eq_append_take, List.take_of_length_le (l := T) (by omega),
        Nat.add_sub_cancel_left]
      simp [List.filterMap_append, List.append_assoc, Nat.add_assoc]
  · rw [List.length_append] at hn
    rw [Python.bind_ok ((hx.miss n (hn.imp_right fun h => by omega)).trans hx.undisturbed),
      Python.bind_ok hx.undisturbed]
    exact hg.miss n (hn.imp (fun h => by dsimp only; omega) fun h => by dsimp only; omega)

/-- Sequencing after a step that raises. -/
theorem bind_error {e : PyExc} {T : List (Option Output)} (hx : Runs x s (.error e) T) :
    Runs (x >>= g) s (.error e) T :=
  ⟨by rw [Python.bind_error hx.undisturbed], fun i hi => by rw [Python.bind_error (hx.hit i hi)],
    fun n hn => by rw [Python.bind_error ((hx.miss n hn).trans hx.undisturbed),
      Python.bind_error hx.undisturbed]⟩

end Runs

namespace Unguarded

variable {x : Prog Screen α} {g : α → Prog Screen β}

theorem of_pure (a : α) : Unguarded (pure a : Prog Screen α) := fun _ => ⟨_, _, .of_pure a⟩

theorem of_throw (e : PyExc) : Unguarded (throw e : Prog Screen α) := fun _ => ⟨_, _, .of_throw e⟩

theorem bind (hx : Unguarded x) (hg : ∀ a, Unguarded (g a)) : Unguarded (x >>= g) := fun s => by
  obtain ⟨r, T, hr⟩ := hx s
  cases r with
  | error e => exact ⟨_, _, hr.bind_error⟩
  | ok a =>
    obtain ⟨r', T', hr'⟩ := hg a ⟨s.out ++ T.filterMap id, s.clock + T.length⟩
    exact ⟨_, _, hr.bind_ok hr'⟩

theorem ite {c : Prop} [Decidable c] {x y : Prog Screen α} (hx : Unguarded x) (hy : Unguarded y) :
    Unguarded (if c then x else y) := by
  split_ifs
  exacts [hx, hy]

theorem tick (io : Bool) : Unguarded (Screen.tick io) := fun s => by
  refine ⟨.ok (), [none], ⟨by simp, fun i hi => ?_, fun n hn => ?_⟩⟩
  · obtain rfl : i = 0 := by simpa using hi
    simp [Screen.tick, interruptAt]
  · have : s.clock ≠ n := by simp at hn; omega
    simp [Screen.tick, interruptAt, quiet, this]

theorem inspect (f : Screen → α) : Unguarded (Python.inspect f) := fun s =>
  ⟨.ok (f s), [], ⟨by simp, fun _ hi => absurd hi (Nat.not_lt_zero _), fun _ _ => rfl⟩⟩

theorem query (io : Bool) (f : Nat → α) : Unguarded (Screen.query io f) :=
  (inspect _).bind fun _ => (tick io).bind fun _ => of_pure _

theorem print (o : Output) : Unguarded (Screen.print o) := fun s => by
  refine ⟨.ok (), [some o], ⟨rfl, fun i hi => ?_, fun n hn => ?_⟩⟩
  · obtain rfl : i = 0 := by simpa using hi
    simp [Screen.print, Screen.tick, interruptAt, bind_run]
  · have : s.clock ≠ n := by simp at hn; omega
    simp [Screen.print, Screen.tick, interruptAt, quiet, bind_run, this]

theorem printAll : ∀ os : List Output, Unguarded (Screen.printAll os)
  | [] => of_pure ()
  | o :: os => (print o).bind fun _ => printAll os

/-! ### The sampler's functions catch no Ctrl-C -/

section Sampler

variable (h : Host) (args : Args)

theorem readStat (iface stat : String) : Unguarded (TxRxMonitor.readStat h iface stat) := fun s => by
  refine ⟨.ok (statAt h s.clock iface stat), [none],
    ⟨by simp [readStat_quiet], fun i hi => ?_, fun n hn => ?_⟩⟩
  · obtain rfl : i = 0 := by simpa using hi
    simp [TxRxMonitor.readStat, Screen.query, Screen.tick, interruptAt, tryCatch_run, bind_run,
      PyExc.isException]
  · have : s.clock ≠ n := by simp at hn; omega
    rw [readStat_quiet]
    cases hf : h.files s.clock ("/sys/class/net/" ++ iface ++ "/statistics/" ++ stat) with
    | none => simp [TxRxMonitor.readStat, statAt, Screen.query, Screen.tick, interruptAt,
        tryCatch_run, bind_run, this, hf, PyExc.isException]
    | some text =>
      cases hp : pyInt (strip text) <;> simp [TxRxMonitor.readStat, statAt, Screen.query,
        Screen.tick, interruptAt, tryCatch_run, bind_run, this, hf, hp, PyExc.isException]

theorem readAll (iface : String) : Unguarded (TxRxMonitor.readAll h iface) :=
  (readStat h _ _).bind fun _ => (readStat h _ _).bind fun _ => (readStat h _ _).bind fun _ =>
    (readStat h _ _).bind fun _ => of_pure _

theorem initialPrev : ∀ (prev : Prev) (ifaces : List String),
    Unguarded (TxRxMonitor.initialPrev h prev ifaces)
  | prev, [] => of_pure prev
  | prev, iface :: rest => (readAll h iface).bind fun q => by
    obtain ⟨_, _, _, _⟩ := q
    exact initialPrev _ rest

theorem sampleRow (interval : ℚ) (prev : Prev) (iface : String) :
    Unguarded (TxRxMonitor.sampleRow h interval prev iface) :=
  (readAll h iface).bind fun _ => by split <;> exact of_pure _

theorem sampleRows (interval : ℚ) : ∀ (prev : Prev) (ifaces : List String),
    Unguarded (TxRxMonitor.sampleRows h interval prev ifaces)
  | prev, [] => of_pure _
  | prev, iface :: rest => (sampleRow h interval prev iface).bind fun p => by
    obtain ⟨_, prev⟩ := p
    exact (sampleRows interval prev rest).bind fun q => by
      obtain ⟨_, _⟩ := q
      exact of_pure _

theorem sleep (secs : ℚ) : Unguarded (TxRxMonitor.sleep secs) := by
  unfold TxRxMonitor.sleep
  split
  · exact of_throw _
  · exact tick false

theorem samplePass (ifaces : List String) (sample : Nat) (prev : Prev) :
    Unguarded (TxRxMonitor.samplePass h args ifaces sample prev) :=
  (sleep _).bind fun _ => (query _ _).bind fun _ => (sampleRows h _ _ _).bind fun p => by
    obtain ⟨_, _⟩ := p
    exact (printAll _).bind fun _ => of_pure _

theorem sampleLoop (ifaces : List String) : ∀ (fuel sample : Nat) (prev : Prev),
    Unguarded (TxRxMonitor.sampleLoop h args ifaces fuel sample prev)
  | 0, _, _ => of_pure false
  | fuel + 1, _, prev => (samplePass h args ifaces _ prev).bind fun _ =>
    (of_pure true).ite (sampleLoop ifaces fuel _ _)

theorem filterExisting : ∀ ifaces : List String, Unguarded (TxRxMonitor.filterExisting h ifaces)
  | [] => of_pure []
  | _ :: rest => (query _ _).bind fun _ => (filterExisting rest).bind fun _ => of_pure _

theorem start : Unguarded (TxRxMonitor.start h args) :=
  ((of_pure _).ite (query _ _)).bind fun _ =>
    ((print _).bind fun _ => of_throw _).ite <| (filterExisting h _).bind fun _ =>
      ((print _).bind fun _ => of_throw _).ite <| (print _).bind fun _ => (print _).bind fun _ =>
        (initialPrev h _ _).bind fun _ => of_pure _

end Sampler

end Unguarded

/-! ## `main` under one Ctrl-C -/

section Main

variable (h : Host) (args : Args)

/-- A sleep that raises ends the loop before any step of it. -/
theorem sampleLoop_of_sleepError {e : PyExc} (hs : sleepError args.interval = some e)
    (ifaces : List String) (fuel sample : Nat) (prev : Prev) (φ : Schedule) (s : Screen) :
    TxRxMonitor.sampleLoop h args ifaces (fuel + 1) sample prev φ s = (.error e, s) := by
  have hsleep : TxRxMonitor.sleep args.interval φ s = (.error e, s) := by
    unfold TxRxMonitor.sleep
    rw [hs]
    rfl
  rw [TxRxMonitor.sampleLoop, TxRxMonitor.samplePass, bind_error (bind_error hsleep _)]

theorem sleepError_ne_interrupt {e : PyExc} (hs : sleepError args.interval = some e) :
    e ≠ .keyboardInterrupt := by
  unfold sleepError at hs
  split_ifs at hs <;> cases hs <;> decide

/-- A sleep that raises escapes `main` from the `try`, after the header. -/
theorem main_of_sleepError (fuel : Nat) (ht : targets h args ≠ []) {e : PyExc}
    (hs : sleepError args.interval = some e) :
    main h args (fuel + 1) quiet Screen.init =
      (.error e, ⟨headerLines (targets h args), loopClock h args⟩) := by
  rw [main, Python.bind_ok (start_of_targets h args ht)]
  dsimp only
  rw [tryCatch_error (sampleLoop_of_sleepError h args hs _ _ _ _ _ _),
    if_neg (sleepError_ne_interrupt args hs), throw_run]

/-- With no interface to sample, every step of `main` comes before its `try`. -/
theorem main_interrupt_of_nil (fuel : Nat) (ht : targets h args = []) :
    ∃ T : List (Option Output), T.length ≤ loopClock h args ∧
      (main h args fuel quiet Screen.init).2 = ⟨T.filterMap id, T.length⟩ ∧
      ∀ n, main h args fuel (interruptAt n) Screen.init =
        if n < T.length then (.error .keyboardInterrupt, ⟨(T.take n).filterMap id, n + 1⟩)
        else main h args fuel quiet Screen.init := by
  obtain ⟨r, T, hr⟩ := Unguarded.start h args Screen.init
  have hq := hr.undisturbed
  rw [start_quiet] at hq
  have hle : T.length ≤ loopClock h args ∧ ∃ e, r = .error e := by
    simp only [loopClock, initClock, ht, List.length_nil, Nat.mul_zero, Nat.add_zero] at hq ⊢
    split_ifs at hq <;> simp [Screen.init, Prod.ext_iff] at hq <;> refine ⟨by omega, _, hq.1.symm⟩
  obtain ⟨hlen, e, rfl⟩ := hle
  have hm : Runs (main h args fuel) Screen.init (.error e) T := hr.bind_error
  refine ⟨T, hlen, by rw [hm.undisturbed]; simp [Screen.init], fun n => ?_⟩
  split_ifs with hn
  · simpa [Screen.init] using hm.hit n hn
  · exact hm.miss n (.inr (by simpa [Screen.init] using hn))

/-- With interfaces to sample, the steps before the loop raise a Ctrl-C out of `main`; one on a
step of the loop is caught by its `try`: what was printed up to that step, then
"Stopped by user", and `main` returns. -/
theorem main_interrupt (fuel : Nat) (ht : targets h args ≠ []) :
    ∃ T : List (Option Output), loopClock h args ≤ T.length ∧
      (main h args fuel quiet Screen.init).2 = ⟨T.filterMap id, T.length⟩ ∧
      ∀ n, main h args fuel (interruptAt n) Screen.init =
        if n < T.length then
          if n < loopClock h args then
            (.error .keyboardInterrupt, ⟨(T.take n).filterMap id, n + 1⟩)
          else (.ok true, ⟨(T.take n).filterMap id ++ [.line "\nStopped by user"], n + 2⟩)
        else main h args fuel quiet Screen.init := by
  obtain ⟨r₁, T₁, h₁⟩ := Unguarded.start h args Screen.init
  have hq := h₁.undisturbed
  rw [start_of_targets h args ht] at hq
  simp only [Screen.init, Prod.mk.injEq, Screen.mk.injEq, List.nil_append, Nat.zero_add] at hq
  obtain ⟨rfl, hout, hlen⟩ := hq
  obtain ⟨r₂, T₂, h₂⟩ := Unguarded.sampleLoop h args (targets h args) fuel 0
    (replay (initialReadings h args)) ⟨T₁.filterMap id, T₁.length⟩
  -- past the header, `main` is the loop inside its `try`
  have hmain : ∀ φ, start h args φ Screen.init = start h args quiet Screen.init →
      main h args fuel φ Screen.init =
        tryCatch (sampleLoop h args (targets h args) fuel 0 (replay (initialReadings h args)))
          (fun e => if e = .keyboardInterrupt then do
              Screen.print (.line "\nStopped by user"); pure true
            else throw e) φ ⟨T₁.filterMap id, T₁.length⟩ := fun φ hφ => by
    rw [main, Python.bind_ok (hφ.trans h₁.undisturbed)]
    simp only [Screen.init, List.nil_append, Nat.zero_add]
  have hKI : r₂ ≠ .error .keyboardInterrupt := by
    intro hr
    have hu := h₂.undisturbed
    rw [hr] at hu
    cases hs : sleepError args.interval with
    | none =>
      obtain ⟨L, hL, -⟩ := sampleLoop_quiet h args (targets h args) hs fuel 0
        (initialReadings h args) ⟨T₁.filterMap id, T₁.length⟩
      exact nomatch hL.symm.trans hu
    | some e =>
      cases fuel with
      | zero => exact nomatch hu
      | succ k =>
        rw [sampleLoop_of_sleepError h args hs] at hu
        exact sleepError_ne_interrupt args hs (Except.error.inj (Prod.mk.inj hu).1)
  -- where the loop runs as without the Ctrl-C, the `try` passes its ending on
  have hpass : ∀ φ, start h args φ Screen.init = start h args quiet Screen.init →
      sampleLoop h args (targets h args) fuel 0 (replay (initialReadings h args)) φ
          ⟨T₁.filterMap id, T₁.length⟩ =
        sampleLoop h args (targets h args) fuel 0 (replay (initialReadings h args)) quiet
          ⟨T₁.filterMap id, T₁.length⟩ →
      main h args fuel φ Screen.init = (r₂, ⟨(T₁ ++ T₂).filterMap id, (T₁ ++ T₂).length⟩) := by
    intro φ hs hl
    rw [hmain φ hs, tryCatch_run, hl, h₂.undisturbed]
    rcases r₂ with e | b
    · simp only [if_neg (fun he : e = _ => hKI (he ▸ rfl)), throw_run]
      simp [List.filterMap_append]
    · simp [List.filterMap_append]
  refine ⟨T₁ ++ T₂, by simp [hlen], by rw [hpass quiet rfl rfl], fun n => ?_⟩
  by_cases hn₁ : n < T₁.length
  · -- a Ctrl-C before the `try` escapes
    have hit : start h args (interruptAt n) Screen.init =
        (.error .keyboardInterrupt, ⟨(T₁.take n).filterMap id, n + 1⟩) := by
      simpa [Screen.init] using h₁.hit n hn₁
    rw [main, Python.bind_error hit, if_pos (by simp; omega), if_pos (by omega),
      List.take_append_of_le_length hn₁.le]
  have hs := h₁.miss n (.inr (by simpa [Screen.init] using hn₁))
  by_cases hn₂ : n < T₁.length + T₂.length
  · -- a Ctrl-C in the loop is caught
    obtain ⟨j, rfl⟩ : ∃ j, n = T₁.length + j := ⟨n - T₁.length, by omega⟩
    have hit := h₂.hit j (by omega)
    dsimp only at hit
    rw [hmain _ hs, tryCatch_error hit, if_pos rfl, if_pos (by simpa using hn₂), if_neg (by omega),
      List.take_append_eq_append_take, List.take_of_length_le (l := T₁) (by omega),
      Nat.add_sub_cancel_left]
    simp [Screen.print, Screen.tick, interruptAt, bind_run, update_run, List.filterMap_append]
  · -- one after the run changes nothing
    rw [if_neg (by simpa using hn₂), hpass _ hs (h₂.miss n (.inr (by dsimp only; omega))),
      hpass quiet rfl rfl]

end Main

end UeMonitor.Proofs.Stopped
