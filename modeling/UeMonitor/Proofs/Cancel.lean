import UeMonitor.Proofs.IoError

namespace UeMonitor.Proofs.Cancel
open Python PacketMonitor Startup OneFault IoError

variable {α β : Type}

/-! ## The steps of the selector, by how a Ctrl-C on them ends it -/

/-- How a Ctrl-C ends the selector. -/
inductive Stop where
  /-- the `except (EOFError, KeyboardInterrupt)` handler prints "Cancelled by user" and exits 0 -/
  | cancelled
  /-- the `KeyboardInterrupt` escapes the selector -/
  | escapes
  deriving DecidableEq

/-- A step of the selector, by where it stands in `select_ue_interactive`. -/
inductive SelStep where
  /-- the `ip -4 addr show` run of one interface in `list_active_ues` -/
  | discovery
  /-- a print outside the loop's `try`: the no-UE lines and the menu -/
  | outside
  /-- a pass's `input()`, inside the `try` -/
  | input
  /-- the range message, inside the `try` -/
  | rangeMessage
  /-- the print of an `except` handler -/
  | handler
  deriving DecidableEq

/-- A Ctrl-C on a step inside the loop's `try` is caught by its handler; elsewhere it escapes. -/
def SelStep.stop : SelStep → Stop
  | .input | .rangeMessage => .cancelled
  | .discovery | .outside | .handler => .escapes

/-- A run of the selector ending as the stop says. -/
def Stop.Ends : Stop → Except PyExc α × Tap → Prop
  | .cancelled, r => r.1 = .error (.systemExit 0) ∧ ∃ pre, r.2.out = pre ++ ["\nCancelled by user"]
  | .escapes, r => r.1 = .error .keyboardInterrupt

/-- The steps of one pass of the loop on the line typed, `none` at the end of input. -/
def passSteps (ue_list : List (String × String)) : Option String → List SelStep
  | none => [.input, .handler]
  | some line => .input ::
    if lower (strip line) = "q" then [] else
    match pyInt (strip line) with
    | none => [.handler]
    | some idx => if 1 ≤ idx ∧ idx ≤ ue_list.length then [] else [.rangeMessage]

theorem passSteps_length_le (ue_list : List (String × String)) :
    ∀ line, (passSteps ue_list line).length ≤ 2
  | none => by simp [passSteps]
  | some l => by
    simp only [passSteps, List.length_cons]
    split_ifs
    · simp
    · split
      · simp
      · split_ifs <;> simp

/-- The steps of the loop over the typed lines. -/
def loopSteps (ue_list : List (String × String)) : List String → List SelStep
  | [] => passSteps ue_list none
  | line :: rest => passSteps ue_list (some line) ++ match answer ue_list line with
    | .retry _ => loopSteps ue_list rest
    | _ => []

/-- The steps of `select_ue_interactive` without interference, in order. -/
def selectorSteps (h : Host) : List SelStep :=
  (detectValInterfaces h).map (fun _ => .discovery) ++
    if activeUes h = [] then [.outside, .outside]
    else (menu (activeUes h)).map (fun _ => .outside) ++ loopSteps (activeUes h) h.stdin

theorem Stop.Ends.error {k : Stop} {r : Except PyExc α × Tap} (h : k.Ends r) :
    ∃ e, r.1 = .error e := by
  cases k
  · exact ⟨_, h.1⟩
  · exact ⟨_, h⟩

theorem Stop.ends_error {k : Stop} {e : PyExc} {t : Tap}
    (h : k.Ends ((.error e, t) : Except PyExc α × Tap)) :
    k.Ends ((.error e, t) : Except PyExc β × Tap) := by
  cases k <;> simpa only [Stop.Ends, Except.error.injEq] using h

/-! ## Steps under a Ctrl-C -/

/-- `x` under one Ctrl-C: without it `x` returns `r` and takes the steps `L`; a Ctrl-C on its
`i`-th step ends it as `L[i]` says; one on no step of it changes nothing. -/
structure Traced (x : Py α) (r : Except PyExc α) (L : List SelStep) : Prop where
  undisturbed : ∀ s, (x quiet s).1 = r ∧ (x quiet s).2.clock = s.clock + L.length
  hit : ∀ s i (hi : i < L.length), L[i].stop.Ends (x (interruptAt (s.clock + i)) s)
  miss : ∀ s n, n < s.clock ∨ s.clock + L.length ≤ n → x (interruptAt n) s = x quiet s

namespace Traced

theorem of_pure (a : α) : Traced (pure a : Py α) (.ok a) [] :=
  ⟨fun _ => ⟨rfl, rfl⟩, fun _ i hi => absurd hi (Nat.not_lt_zero i), fun _ _ _ => rfl⟩

theorem of_throw (e : PyExc) : Traced (throw e : Py α) (.error e) [] :=
  ⟨fun _ => ⟨rfl, rfl⟩, fun _ i hi => absurd hi (Nat.not_lt_zero i), fun _ _ _ => rfl⟩

theorem steps_eq {x : Py α} {r : Except PyExc α} {L M : List SelStep} (hx : Traced x r L)
    (h : L = M) : Traced x r M := h ▸ hx

theorem quiet_eq {x : Py α} {r : Except PyExc α} {L : List SelStep} (hx : Traced x r L)
    (s : Tap) : ∃ t, x quiet s = (r, t) ∧ t.clock = s.clock + L.length :=
  ⟨_, Prod.ext (hx.undisturbed s).1 rfl, (hx.undisturbed s).2⟩

/-- Sequencing after a step that returns. -/
theorem bind_ok {x : Py α} {g : α → Py β} {a : α} {r : Except PyExc β} {L M : List SelStep}
    (hx : Traced x (.ok a) L) (hg : Traced (g a) r M) : Traced (x >>= g) r (L ++ M) := by
  refine ⟨fun s => ?_, fun s i hi => ?_, fun s n hn => ?_⟩
  · obtain ⟨t, ht, htc⟩ := hx.quiet_eq s
    rw [Python.bind_ok ht]
    obtain ⟨h₁, h₂⟩ := hg.undisturbed t
    exact ⟨h₁, by rw [h₂, htc, List.length_append, Nat.add_assoc]⟩
  · rw [List.length_append] at hi
    by_cases hiL : i < L.length
    · rw [List.getElem_append_left hiL]
      have he := hx.hit s i hiL
      obtain ⟨e, hee⟩ := he.error
      rcases hr : x (interruptAt (s.clock + i)) s with ⟨v, t⟩
      rw [hr] at he hee
      subst hee
      rw [Python.bind_error hr]
      exact Stop.ends_error he
    · obtain ⟨j, rfl⟩ : ∃ j, i = L.length + j := ⟨i - L.length, by omega⟩
      obtain ⟨t, ht, htc⟩ := hx.quiet_eq s
      have hj : j < M.length := by omega
      have hget : (L ++ M)[L.length + j] = M[j] := by simp [List.getElem_append_right]
      rw [hget, Python.bind_ok ((hx.miss s _ (.inr (by omega))).trans ht)]
      have := hg.hit t j (by omega)
      rwa [htc, Nat.add_assoc] at this
  · rw [List.length_append] at hn
    obtain ⟨t, ht, htc⟩ := hx.quiet_eq s
    rw [Python.bind_ok ((hx.miss s n (hn.imp_right fun h => by omega)).trans ht), Python.bind_ok ht]
    exact hg.miss t n (hn.imp (fun h => by omega) fun h => by omega)

/-- Sequencing after a step that raises. -/
theorem bind_error {x : Py α} {g : α → Py β} {e : PyExc} {L : List SelStep}
    (hx : Traced x (.error e) L) : Traced (x >>= g) (.error e) L := by
  refine ⟨fun s => ?_, fun s i hi => ?_, fun s n hn => ?_⟩
  · obtain ⟨t, ht, htc⟩ := hx.quiet_eq s
    rw [Python.bind_error ht]
    exact ⟨rfl, htc⟩
  · have he := hx.hit s i hi
    obtain ⟨e', hee⟩ := he.error
    rcases hr : x (interruptAt (s.clock + i)) s with ⟨v, t⟩
    rw [hr] at he hee
    subst hee
    rw [Python.bind_error hr]
    exact Stop.ends_error he
  · obtain ⟨t, ht, -⟩ := hx.quiet_eq s
    rw [Python.bind_error ((hx.miss s n hn).trans ht), Python.bind_error ht]

end Traced

/-! ## The selector's steps -/

theorem traced_print (l : String) : Traced (print l) (.ok ()) [.outside] where
  undisturbed _ := ⟨rfl, rfl⟩
  hit s i hi := by
    obtain rfl : i = 0 := by simpa using hi
    simp [print, bind_run, tick, interruptAt, Stop.Ends, SelStep.stop]
  miss s n hn := print_of_none (by simp only [interruptAt]; exact if_neg (by simp at hn; omega)) l

theorem traced_printAll : ∀ ls : List String,
    Traced (printAll ls) (.ok ()) (ls.map fun _ => .outside)
  | [] => .of_pure ()
  | l :: ls => (Traced.bind_ok (traced_print l) (traced_printAll ls)).steps_eq rfl

theorem traced_getInterfaceIp (h : Host) (iface : String) :
    Traced (getInterfaceIp h iface) (.ok (ipOf h iface)) [.discovery] where
  undisturbed s := by simp [getInterfaceIp_quiet]
  hit s i hi := by
    obtain rfl : i = 0 := by simpa using hi
    simp [getInterfaceIp, tryCatch_run, bind_run, tick, interruptAt, PyExc.isException, Stop.Ends,
      SelStep.stop]
  miss s n hn := getInterfaceIp_of_none h iface
    (by simp only [interruptAt]; exact if_neg (by simp at hn; omega))

theorem traced_listActiveUes (h : Host) :
    Traced (listActiveUes h) (.ok (activeUes h)) ((detectValInterfaces h).map fun _ => .discovery) := by
  suffices ∀ l, Traced (listActiveUes.go h l)
      (.ok (l.filterMap fun iface => (ipOf h iface).map (iface, ·))) (l.map fun _ => .discovery)
    from this _
  intro l
  induction l with
  | nil => exact .of_pure _
  | cons iface rest ih =>
    refine (Traced.bind_ok (traced_getInterfaceIp h iface) (Traced.bind_ok (M := []) ih ?_)).steps_eq
      (by simp)
    cases hip : ipOf h iface with
    | none => simpa [hip] using Traced.of_pure (α := List (String × String)) _
    | some ip => simpa [hip, ipOf_ne_empty hip] using Traced.of_pure (α := List (String × String)) _

/-- What a pass of the loop returns without interference. -/
def passResult (ue_list : List (String × String)) : Option String →
    Except PyExc (Option (String × String))
  | none => .error (.systemExit 0)
  | some line => match answer ue_list line with
    | .quit => .error (.systemExit 0)
    | .pick ue => .ok (some ue)
    | .retry _ => .ok none

/-- A pass reads the schedule on its own steps only. -/
theorem selectPass_of_none (ue_list : List (String × String)) (line : Option String) {φ : Schedule}
    {s : Tap} (h : ∀ i < (passSteps ue_list line).length, φ (s.clock + i) = none) :
    selectPass ue_list line φ s = selectPass ue_list line quiet s := by
  have h₀ : φ s.clock = none := by simpa using h 0 (by cases line <;> simp [passSteps])
  cases line with
  | none =>
    have h₁ := h 1 (by simp [passSteps])
    simp only [selectPass, input, sysExit, print, tryCatch_run, bind_run, tick, h₀, update_run,
      throw_run, reduceCtorEq, ↓reduceIte, or_false, h₁, quiet]
  | some l =>
    by_cases hq : lower (strip l) = "q"
    · simp only [selectPass, input, sysExit, tryCatch_run, bind_run, tick, h₀, update_run, pure_run,
        hq, ↓reduceIte, reduceCtorEq, or_self, throw_run, quiet]
    · cases hp : pyInt (strip l) with
      | none =>
        have h₁ := h 1 (by simp [passSteps, hq, hp])
        simp only [selectPass, input, print, tryCatch_run, bind_run, tick, h₀, update_run, pure_run,
          hq, ↓reduceIte, hp, throw_run, h₁, quiet]
      | some idx =>
        by_cases hr : 1 ≤ idx ∧ idx ≤ ue_list.length
        · simp only [selectPass, input, tryCatch_run, bind_run, tick, h₀, update_run, pure_run, hq,
            ↓reduceIte, hp, hr, and_self, quiet]
        · have h₁ := h 1 (by simp [passSteps, hq, hp, hr])
          simp only [selectPass, input, print, tryCatch_run, bind_run, tick, h₀, update_run, pure_run,
            hq, ↓reduceIte, hp, hr, h₁, quiet]

/-- Without interference a pass returns its result in as many steps as it has. -/
theorem selectPass_undisturbed (ue_list : List (String × String)) (line : Option String) (s : Tap) :
    (selectPass ue_list line quiet s).1 = passResult ue_list line ∧
      (selectPass ue_list line quiet s).2.clock = s.clock + (passSteps ue_list line).length := by
  cases line with
  | none => simp [selectPass_eof, passResult, passSteps]
  | some l =>
    by_cases hq : lower (strip l) = "q"
    · simp [selectPass_quiet, passResult, passSteps, answer, hq]
    · cases hp : pyInt (strip l) with
      | none => simp [selectPass_quiet, passResult, passSteps, answer, hq, hp]
      | some idx =>
        by_cases hr : 1 ≤ idx ∧ idx ≤ ue_list.length
        · simp [selectPass_quiet, passResult, passSteps, answer, hq, hp, hr]
        · simp [selectPass_quiet, passResult, passSteps, answer, hq, hp, hr]

/-- A Ctrl-C on the `input()` of a pass is caught: "Cancelled by user", then exit 0. -/
theorem selectPass_input_hit (ue_list : List (String × String)) (line : Option String) (s : Tap) :
    Stop.cancelled.Ends (selectPass ue_list line (interruptAt s.clock) s) := by
  simp [selectPass, input, print, tryCatch_run, bind_run, tick, interruptAt, sysExit, Stop.Ends]

/-- A Ctrl-C on a pass's second step: the range message's is caught, a handler's print's
escapes. -/
theorem selectPass_second_hit (ue_list : List (String × String)) (line : Option String) (s : Tap)
    (hi : 1 < (passSteps ue_list line).length) :
    (passSteps ue_list line)[1].stop.Ends (selectPass ue_list line (interruptAt (s.clock + 1)) s) := by
  cases line with
  | none =>
    simp only [Stop.Ends, SelStep.stop, passSteps, List.getElem_cons_succ, List.getElem_cons_zero,
      selectPass, input, print, tryCatch_run, bind_run, tick, interruptAt, self_eq_add_right,
      one_ne_zero, ↓reduceIte, update_run, throw_run, reduceCtorEq, or_false]
  | some l =>
    by_cases hq : lower (strip l) = "q"
    · simp [passSteps, hq] at hi
    · cases hp : pyInt (strip l) with
      | none =>
        simp only [Stop.Ends, SelStep.stop, passSteps, hq, ↓reduceIte, hp, List.getElem_cons_succ,
          List.getElem_cons_zero, selectPass, input, print, tryCatch_run, bind_run, tick, interruptAt,
          self_eq_add_right, one_ne_zero, update_run, pure_run, throw_run]
      | some idx =>
        by_cases hr : 1 ≤ idx ∧ idx ≤ ue_list.length
        · simp [passSteps, hq, hp, hr] at hi
        · simp only [Stop.Ends, SelStep.stop, passSteps, hq, ↓reduceIte, hp, hr,
            List.getElem_cons_succ, List.getElem_cons_zero, selectPass, input, sysExit, print,
            tryCatch_run, bind_run, tick, interruptAt, self_eq_add_right, one_ne_zero, update_run,
            pure_run, reduceCtorEq, or_true, add_right_eq_self, throw_run, true_and]
          exact ⟨_, rfl⟩

theorem traced_selectPass (ue_list : List (String × String)) (line : Option String) :
    Traced (selectPass ue_list line) (passResult ue_list line) (passSteps ue_list line) where
  undisturbed := selectPass_undisturbed ue_list line
  hit s
    | 0, _ => by cases line <;> simpa [passSteps] using selectPass_input_hit ue_list _ s
    | 1, hi => selectPass_second_hit ue_list line s hi
    | i + 2, hi => absurd hi (by have := passSteps_length_le ue_list line; omega)
  miss s n hn := selectPass_of_none ue_list line fun i hi => by
    simp only [interruptAt]
    exact if_neg (by omega)

theorem traced_selectLoop (ue_list : List (String × String)) :
    ∀ lines, Traced (selectLoop ue_list lines) (selection ue_list lines) (loopSteps ue_list lines)
  | [] => (traced_selectPass ue_list none).bind_error
  | line :: rest => by
    have hp := traced_selectPass ue_list (some line)
    rw [selectLoop]
    simp only [selection, loopSteps]
    cases ha : answer ue_list line with
    | quit =>
      simp only [passResult, ha] at hp
      exact hp.bind_error.steps_eq (List.append_nil _).symm
    | pick ue =>
      simp only [passResult, ha] at hp
      exact hp.bind_ok (.of_pure ue)
    | retry msg =>
      simp only [passResult, ha] at hp
      exact hp.bind_ok (traced_selectLoop ue_list rest)

theorem traced_selectUeInteractive (h : Host) :
    Traced (selectUeInteractive h)
      (if activeUes h = [] then .error (.systemExit 1) else selection (activeUes h) h.stdin)
      (selectorSteps h) := by
  unfold selectUeInteractive selectorSteps
  refine (traced_listActiveUes h).bind_ok ?_
  by_cases he : activeUes h = []
  · simp only [he, ↓reduceIte]
    exact (traced_print _).bind_ok ((traced_print _).bind_ok (Traced.of_throw _).bind_error)
  · simp only [he, ↓reduceIte]
    refine ((Traced.of_pure ()).bind_ok ((traced_print _).bind_ok ((traced_print _).bind_ok
      ((traced_print _).bind_ok ((traced_printAll _).bind_ok ((traced_print _).bind_ok
        (traced_selectLoop _ h.stdin))))))).steps_eq ?_
    simp [menu]

/-- A Ctrl-C on the interactive selector, by the step it lands on. Without it the selector takes
the steps `selectorSteps h`, one per tick: the `ip` run of each val* interface, the two no-UE
lines or the lines of the menu, then for each pass its `input()` and, on a line that asks again
or at the end of input, the message or the handler's print. A Ctrl-C on an `input()` or on the
range message is caught: "Cancelled by user", then exit 0. One on an `ip` run, a no-UE or menu
line, or a handler's print escapes as `KeyboardInterrupt`. One on no step of the selector changes
nothing. -/
theorem selector_ctrl_c_ends_by_step (h : Host) (s : Tap) :
    (selectUeInteractive h quiet s).2.clock = s.clock + (selectorSteps h).length ∧
    (∀ i (hi : i < (selectorSteps h).length),
      let r := selectUeInteractive h (interruptAt (s.clock + i)) s
      match (selectorSteps h)[i] with
      | .input | .rangeMessage =>
        r.1 = .error (.systemExit 0) ∧ ∃ pre, r.2.out = pre ++ ["\nCancelled by user"]
      | .discovery | .outside | .handler => r.1 = .error .keyboardInterrupt) ∧
    ∀ n, n < s.clock ∨ s.clock + (selectorSteps h).length ≤ n →
      selectUeInteractive h (interruptAt n) s = selectUeInteractive h quiet s := by
  have ht := traced_selectUeInteractive h
  refine ⟨(ht.undisturbed s).2, fun i hi => ?_, ht.miss s⟩
  have hit := ht.hit s i hi
  cases hst : (selectorSteps h)[i] <;> simpa only [hst, SelStep.stop, Stop.Ends] using hit

end UeMonitor.Proofs.Cancel
