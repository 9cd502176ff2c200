import UeMonitor.Proofs.Stream

namespace UeMonitor.Proofs.OneFault
open Python PacketMonitor Stream

variable {α β τ : Type}

/-! ## Runs under one fault -/

/-- The schedule of a run with the single fault `f`, landing on step `n`. -/
def oneFault : Fault → Nat → Schedule
  | .interrupt, n => interruptAt n
  | .raise e, n => raiseAt n e

/-- What a fault raises on a step it hits. -/
def raised : Fault → PyExc
  | .interrupt => .keyboardInterrupt
  | .raise e => e

theorem tick_of_none {io : Bool} {φ : Schedule} {s : Tap} (h : φ s.clock = none) :
    tick io φ s = (.ok (), { s with clock := s.clock + 1 }) := by
  simp [tick, h]

/-- A step under the single fault `f`, from states whose `packet_count` satisfies `P`: its quiet
run returns, keeps `P` and moves the clock on; a run whose fault lands on step `n` is that quiet
run, or raises on a step `n` the quiet run takes, with `P` kept. -/
structure Resilient (f : Fault) (P : Option Nat → Prop) (x : Py α) : Prop where
  quiet_ok : ∀ s : Tap, P s.packetCount →
    ∃ a t, x quiet s = (.ok a, t) ∧ P t.packetCount ∧ s.clock ≤ t.clock
  one_shot : ∀ n (s : Tap), P s.packetCount → x (oneFault f n) s = x quiet s ∨
    s.clock ≤ n ∧ n < (x quiet s).2.clock ∧
      ∃ t, x (oneFault f n) s = (.error (raised f), t) ∧ t.clock = n + 1 ∧ P t.packetCount

namespace Resilient

variable {f : Fault} {P : Option Nat → Prop}

theorem of_pure (a : α) : Resilient f P (pure a) :=
  ⟨fun s hs => ⟨a, s, rfl, hs, le_refl _⟩, fun _ _ _ => .inl rfl⟩

theorem of_inspect (g : Tap → α) : Resilient f P (inspect g) :=
  ⟨fun s hs => ⟨g s, s, rfl, hs, le_refl _⟩, fun _ _ _ => .inl rfl⟩

theorem of_update {g : Tap → Tap} (hg : ∀ s, P s.packetCount → P (g s).packetCount)
    (hc : ∀ s, (g s).clock = s.clock) : Resilient f P (update g) :=
  ⟨fun s hs => ⟨(), g s, rfl, hg s hs, (hc s).ge⟩, fun _ _ _ => .inl rfl⟩

/-- A Ctrl-C lands on whatever step it is scheduled for; an I/O error only on a step doing
I/O, and passes over any other. -/
theorem of_tick (io : Bool) : Resilient f P (tick io) where
  quiet_ok s hs := ⟨(), _, tick_quiet io, hs, Nat.le_succ _⟩
  one_shot n s hs := by
    by_cases h : s.clock = n
    · subst h
      have hhit : tick io (oneFault f s.clock) s = tick io quiet s ∨
          tick io (oneFault f s.clock) s = (.error (raised f), { s with clock := s.clock + 1 }) := by
        cases f with
        | interrupt => exact .inr (by simp [oneFault, tick, interruptAt, raised])
        | raise e => cases io <;> simp [oneFault, tick, raiseAt, raised, quiet]
      exact hhit.imp id fun hr => ⟨le_refl _, by simp, { s with clock := s.clock + 1 }, hr, rfl, hs⟩
    · exact .inl (by cases f <;> simp [oneFault, tick, interruptAt, raiseAt, quiet, h])

/-- The sequencing rule. -/
theorem of_bind {x : Py α} {g : α → Py β} (hx : Resilient f P x) (hg : ∀ a, Resilient f P (g a)) :
    Resilient f P (x >>= g) where
  quiet_ok s hs := by
    obtain ⟨a, t, hxt, ht, hc⟩ := hx.quiet_ok s hs
    obtain ⟨b, u, hgu, hu, hc'⟩ := (hg a).quiet_ok t ht
    exact ⟨b, u, by rw [bind_ok hxt, hgu], hu, hc.trans hc'⟩
  one_shot n s hs := by
    obtain ⟨a, t, hxt, ht, hc⟩ := hx.quiet_ok s hs
    rw [bind_ok hxt g]
    rcases hx.one_shot n s hs with hsame | ⟨hlo, hhi, u, hu, hclock, hpu⟩
    · rw [bind_ok (hsame.trans hxt) g]
      rcases (hg a).one_shot n t ht with hsame' | ⟨hlo', hhi', v, hv, hvc, hpv⟩
      · exact .inl hsame'
      · exact .inr ⟨hc.trans hlo', hhi', v, hv, hvc, hpv⟩
    · obtain ⟨b, w, hgw, -, hc'⟩ := (hg a).quiet_ok t ht
      rw [hxt] at hhi
      refine .inr ⟨hlo, ?_, u, bind_error hu g, hclock, hpu⟩
      rw [hgw]
      exact lt_of_lt_of_le hhi hc'

/-- A handler that passes the fault's exception on keeps a step resilient. -/
theorem of_tryCatch {x : Py α} {handle : PyExc → Py α} (hx : Resilient f P x)
    (hh : handle (raised f) = throw (raised f)) : Resilient f P (tryCatch x handle) where
  quiet_ok s hs := by
    obtain ⟨a, t, hxt, ht, hc⟩ := hx.quiet_ok s hs
    exact ⟨a, t, tryCatch_ok hxt handle, ht, hc⟩
  one_shot n s hs := by
    obtain ⟨a, t, hxt, -, -⟩ := hx.quiet_ok s hs
    rw [tryCatch_ok hxt]
    rcases hx.one_shot n s hs with hsame | ⟨hlo, hhi, u, hu, hclock, hpu⟩
    · exact .inl (tryCatch_ok (hsame.trans hxt) handle)
    · rw [hxt] at hhi
      exact .inr ⟨hlo, hhi, u, by rw [tryCatch_error hu, hh]; rfl, hclock, hpu⟩

/-- A run whose fault lands outside the steps of its quiet run is the quiet run. -/
theorem run_of_outside {x : Py α} (hx : Resilient f P x) {s : Tap} (hs : P s.packetCount)
    {n : Nat} (hn : n < s.clock ∨ (x quiet s).2.clock ≤ n) : x (oneFault f n) s = x quiet s :=
  (hx.one_shot n s hs).resolve_right fun ⟨h₁, h₂, _⟩ => by omega

theorem of_print (line : String) : Resilient f P (print line) :=
  of_bind (of_tick true) fun _ => of_update (fun _ h => h) fun _ => rfl

theorem of_printAll (ls : List String) : Resilient f P (printAll ls) := by
  induction ls with
  | nil => exact of_pure ()
  | cons l ls ih => exact of_bind (of_print l) fun _ => ih

theorem of_setCount {k : Nat} (hk : P (some k)) : Resilient f P (setCount k) :=
  of_bind (of_tick false) fun _ => of_update (fun _ _ => hk) fun _ => rfl

theorem of_getCount (hP : ∀ c, P c → c ≠ none) : Resilient f P getCount where
  quiet_ok s hs := by
    obtain ⟨k, hk⟩ := Option.ne_none_iff_exists'.mp (hP _ hs)
    exact ⟨k, s, getCount_of hk, hs, le_refl _⟩
  one_shot _ _ _ := .inl rfl

end Resilient

open Resilient

/-! ## The capture loop once `packet_count` is bound -/

/-- `packet_count` is bound. -/
def Bound (c : Option Nat) : Prop := c ≠ none

theorem bound_some (k : Nat) : Bound (some k) := Option.some_ne_none k

variable {f : Fault}

theorem resilient_monitorBody (m : Mode τ) (hm : Total m) (line : String) :
    Resilient f Bound (monitorBody m line) := by
  obtain ⟨r, hr⟩ := hm line
  refine of_bind (of_tick false) fun _ => ?_
  simp only [hr]
  cases r with
  | none => exact of_pure ()
  | some t =>
    exact of_bind (of_getCount fun _ => id) fun k =>
      of_bind (of_setCount (bound_some (k + 1))) fun _ =>
        of_bind (of_print _) fun _ => of_tick true

theorem resilient_readLoop (m : Mode τ) (hm : Total m) (c : Capture) (lines : List String) :
    Resilient f Bound (readLoop c (monitorBody m) lines) := by
  induction lines with
  | nil => exact of_bind (of_tick true) fun _ => of_update (fun _ h => h) fun _ => rfl
  | cons line rest ih =>
    exact of_bind (of_tick true) fun _ => of_bind (resilient_monitorBody m hm line) fun _ => ih

/-- What `supervise` runs after `packet_count = 0`. -/
def counted (m : Mode τ) (c : Capture) : Py Unit := do
  readLoop c (monitorBody m) c.lines
  let _ ← wait
  if (← getCount) = 0 then printAll (noticeLines m.width)

theorem supervise_eq (m : Mode τ) (c : Capture) :
    supervise m c = popen >>= fun _ => setCount 0 >>= fun _ => counted m c := rfl

theorem resilient_counted (m : Mode τ) (hm : Total m) (c : Capture) :
    Resilient f Bound (counted m c) :=
  of_bind (resilient_readLoop m hm c c.lines) fun _ =>
    of_bind (of_bind (of_tick false) fun _ => of_inspect _) fun _ =>
      of_bind (of_getCount fun _ => id) fun k => by
        split
        · exact of_printAll _
        · exact of_pure ()

/-- Under a schedule that leaves `Popen` and `packet_count = 0` alone, `supervise` reaches its
loop with the capture running and the count at 0. -/
theorem supervise_entry (m : Mode τ) (c : Capture) {φ : Schedule} {s : Tap}
    (h₀ : φ s.clock = none) (h₁ : φ (s.clock + 1) = none) :
    supervise m c φ s = counted m c φ
      { s with clock := s.clock + 2, proc := .running, packetCount := some 0 } := by
  simp only [supervise_eq, bind_run, popen, setCount, tick_of_none h₀, update_run]
  rw [tick_of_none h₁]

/-- `supervise` from any state, `packet_count` unbound included: its first two steps bind it
before the loop reads it. -/
theorem resilient_supervise (m : Mode τ) (hm : Total m) (c : Capture) :
    Resilient f (fun _ => True) (supervise m c) where
  quiet_ok s _ := by
    obtain ⟨a, t, ht, -, hc⟩ := (resilient_counted (f := f) m hm c).quiet_ok
      { s with clock := s.clock + 2, proc := .running, packetCount := some 0 } (bound_some 0)
    exact ⟨a, t, (supervise_entry m c rfl rfl).trans ht, trivial, by dsimp only at hc; omega⟩
  one_shot n s _ := by
    have hq := supervise_entry m c (φ := quiet) (s := s) rfl rfl
    obtain ⟨a, t, ht, -, hc⟩ := (resilient_counted (f := f) m hm c).quiet_ok
      { s with clock := s.clock + 2, proc := .running, packetCount := some 0 } (bound_some 0)
    dsimp only at hc
    by_cases h₀ : n = s.clock
    · subst h₀
      refine .inr ⟨le_refl _, by rw [hq, ht]; dsimp only; omega, { s with clock := s.clock + 1 }, ?_, rfl,
        trivial⟩
      cases f <;> simp [supervise_eq, popen, bind_run, tick, oneFault, interruptAt, raiseAt, raised]
    by_cases h₁ : n = s.clock + 1
    · subst h₁
      cases f with
      | interrupt =>
        refine .inr ⟨by omega, by rw [hq, ht]; dsimp only; omega,
          { s with clock := s.clock + 2, proc := .running }, ?_, rfl, trivial⟩
        simp [supervise_eq, popen, setCount, bind_run, tick, oneFault, interruptAt, raised]
      | raise e =>
        left
        have hpast := (resilient_counted (f := .raise e) m hm c).run_of_outside (bound_some 0)
          (s := { s with clock := s.clock + 2, proc := .running, packetCount := some 0 })
          (n := s.clock + 1) (.inl (by dsimp only; omega))
        rw [hq, ← hpast]
        simp [supervise_eq, popen, setCount, bind_run, tick, oneFault, raiseAt]
    · have hφ : ∀ k, k = s.clock ∨ k = s.clock + 1 → oneFault f n k = none := by
        rintro k (rfl | rfl) <;> cases f <;> simp [oneFault, interruptAt, raiseAt] <;> omega
      rw [supervise_entry m c (hφ _ (.inl rfl)) (hφ _ (.inr rfl)), hq]
      rcases (resilient_counted (f := f) m hm c).one_shot n
        { s with clock := s.clock + 2, proc := .running, packetCount := some 0 } (bound_some 0)
        with hsame | hhit
      · exact .inl hsame
      · obtain ⟨hlo, hhi, t', ht', htc, -⟩ := hhit
        exact .inr ⟨by dsimp only at hlo; omega, hhi, t', ht', htc, trivial⟩

/-! ## Steps that let the fault through -/

/-- A step under the single fault `f` that may end in an exception of its own: its quiet run
does not move the clock back, and a run whose fault lands on step `n` is the quiet run, or
raises the fault's exception from a step at or after `n`. -/
structure Exposed (f : Fault) (x : Py α) : Prop where
  mono : ∀ s : Tap, s.clock ≤ (x quiet s).2.clock
  dich : ∀ n (s : Tap), x (oneFault f n) s = x quiet s ∨
    s.clock ≤ n ∧ ∃ t, x (oneFault f n) s = (.error (raised f), t) ∧ n < t.clock

namespace Exposed

theorem of_resilient {x : Py α} (hx : Resilient f (fun _ => True) x) : Exposed f x where
  mono s := by
    obtain ⟨a, t, ht, -, hc⟩ := hx.quiet_ok s trivial
    rw [ht]
    exact hc
  dich n s := (hx.one_shot n s trivial).imp_right fun ⟨hlo, _, t, ht, htc, _⟩ =>
    ⟨hlo, t, ht, by omega⟩

theorem of_throw (e : PyExc) : Exposed f (throw e : Py α) :=
  ⟨fun _ => le_refl _, fun _ _ => .inl rfl⟩

/-- The sequencing rule: the first step's quiet run may raise, which ends both runs alike. -/
theorem of_bind {x : Py α} {g : α → Py β} (hx : Exposed f x) (hg : ∀ a, Exposed f (g a)) :
    Exposed f (x >>= g) where
  mono s := by
    have hs := hx.mono s
    rcases hq : x quiet s with ⟨e | a, t⟩ <;> rw [hq] at hs
    · rw [bind_error hq]
      exact hs
    · rw [bind_ok hq]
      exact hs.trans ((hg a).mono t)
  dich n s := by
    rcases hx.dich n s with hsame | ⟨hlo, t, ht, hnt⟩
    · have hs := hx.mono s
      rcases hq : x quiet s with ⟨e | a, t⟩ <;> rw [hq] at hs
      · exact .inl (by rw [bind_error (hsame.trans hq), bind_error hq])
      · rw [bind_ok (hsame.trans hq), bind_ok hq]
        exact ((hg a).dich n t).imp_right fun ⟨hlo', rest⟩ => ⟨hs.trans hlo', rest⟩
    · exact .inr ⟨hlo, t, bind_error ht g, hnt⟩

end Exposed

end UeMonitor.Proofs.OneFault
