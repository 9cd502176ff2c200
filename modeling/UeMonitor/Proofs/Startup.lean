import UeMonitor.Proofs.Exit

namespace UeMonitor.Proofs.Startup
open Python PacketMonitor Stream Exit

/-! ## Interface discovery -/

theorem dottedDigits_ne_nil : ∀ {n : Nat} {l d : List Char}, dottedDigits n l = some d → d ≠ []
  | 0, l, d, h => by
    simp only [dottedDigits] at h
    split_ifs at h with h0
    cases h
    exact h0
  | n + 1, l, d, h => by
    simp only [dottedDigits] at h
    split_ifs at h with h0
    split at h
    · obtain ⟨r, -, rfl⟩ := Option.map_eq_some'.mp h
      simp
    · cases h

theorem inetSearch_ne_nil : ∀ {l r : List Char}, inetSearch l = some r → r ≠ []
  | [], _, h => by cases h
  | c :: cs, r, h => by
    rw [inetSearch] at h
    cases ha : inetAt (c :: cs) with
    | none =>
      rw [ha] at h
      exact inetSearch_ne_nil h
    | some a =>
      rw [ha] at h
      cases h
      unfold inetAt at ha
      split at ha
      · split_ifs at ha
        exact dottedDigits_ne_nil ha
      · cases ha

/-- The IPv4 address `get_interface_ip` finds for an interface: the first `inet` address in
what `ip -4 addr show` prints, none when that run fails. -/
def ipOf (h : Host) (iface : String) : Option String :=
  (h.ipShow iface).bind fun out => (inetSearch out.data).map String.mk

/-- An address the pattern finds has its digits: `if ip:` never drops one. -/
theorem ipOf_ne_empty {h : Host} {iface ip : String} (hip : ipOf h iface = some ip) : ip ≠ "" := by
  obtain ⟨out, -, hs⟩ := Option.bind_eq_some.mp hip
  obtain ⟨r, hr, rfl⟩ := Option.map_eq_some'.mp hs
  exact fun he => inetSearch_ne_nil hr (congrArg String.data he)

/-- The active UEs of spec §4.1: the val* interfaces in name order, each with its address;
those without one are dropped. -/
def activeUes (h : Host) : List (String × String) :=
  (detectValInterfaces h).filterMap fun iface => (ipOf h iface).map (iface, ·)

theorem getInterfaceIp_quiet (h : Host) (iface : String) (s : Tap) :
    getInterfaceIp h iface quiet s = (.ok (ipOf h iface), { s with clock := s.clock + 1 }) := by
  unfold getInterfaceIp ipOf
  cases h.ipShow iface <;> rfl

theorem listActiveUes_quiet (h : Host) (s : Tap) :
    listActiveUes h quiet s =
      (.ok (activeUes h), { s with clock := s.clock + (detectValInterfaces h).length }) := by
  suffices ∀ (l : List String) (s : Tap), listActiveUes.go h l quiet s =
      (.ok (l.filterMap fun iface => (ipOf h iface).map (iface, ·)),
        { s with clock := s.clock + l.length }) from this _ s
  intro l
  induction l with
  | nil => intro s; rfl
  | cons iface rest ih =>
    intro s
    rw [listActiveUes.go, bind_ok (getInterfaceIp_quiet h iface s), bind_ok (ih _)]
    cases hip : ipOf h iface with
    | none => simp [hip, Nat.add_assoc, Nat.add_comm 1]
    | some ip => simp [hip, ipOf_ne_empty hip, Nat.add_assoc, Nat.add_comm 1]

/-! ## The interactive selector -/

/-- The prompt the selector reads each line with. -/
def selectPrompt : String := "\nSelect UE number (or 'q' to quit): "

/-- What a line typed at the selector's prompt does (spec §4.2). -/
inductive Answer where
  /-- `q` in any case: leave the program -/
  | quit
  /-- the number of a listed UE -/
  | pick (ue : String × String)
  /-- anything else: a message, then the prompt again -/
  | retry (msg : String)

def answer (ue_list : List (String × String)) (line : String) : Answer :=
  if lower (strip line) = "q" then .quit else
  match pyInt (strip line) with
  | none => .retry "Invalid input. Please enter a number."
  | some idx =>
    if hi : 1 ≤ idx ∧ idx ≤ ue_list.length then .pick (ue_list.get ⟨(idx - 1).toNat, by omega⟩)
    else .retry ("Please enter a number between 1 and " ++ toString ue_list.length)

theorem answer_pick_mem {ue_list : List (String × String)} {line : String} {ue : String × String}
    (h : answer ue_list line = .pick ue) : ue ∈ ue_list := by
  unfold answer at h
  split_ifs at h
  split at h
  · cases h
  · split_ifs at h
    cases h
    exact List.get_mem _ _ _

/-- One pass of the selector's loop on a typed line. -/
theorem selectPass_quiet (ue_list : List (String × String)) (line : String) (s : Tap) :
    selectPass ue_list (some line) quiet s = match answer ue_list line with
      | .quit => (.error (.systemExit 0),
          { s with out := s.out ++ [selectPrompt], clock := s.clock + 1 })
      | .pick ue => (.ok (some ue), { s with out := s.out ++ [selectPrompt], clock := s.clock + 1 })
      | .retry msg => (.ok none,
          { s with out := s.out ++ [selectPrompt, msg], clock := s.clock + 2 }) := by
  simp only [selectPass, input, answer, tryCatch_run, bind_run, tick_quiet, update_run, pure_run]
  by_cases hq : lower (strip line) = "q"
  · simp [hq, sysExit, selectPrompt]
  · simp only [hq, ↓reduceIte, pure_run]
    cases pyInt (strip line) with
    | none => simp [bind_run, selectPrompt]
    | some idx =>
      by_cases hi : 1 ≤ idx ∧ idx ≤ ue_list.length
      · simp [hi, selectPrompt]
      · simp [hi, bind_run, selectPrompt]

/-- At the end of input the pass prints the cancel line and exits with status 0. -/
theorem selectPass_eof (ue_list : List (String × String)) (s : Tap) :
    selectPass ue_list none quiet s = (.error (.systemExit 0),
      { s with out := s.out ++ [selectPrompt, "\nCancelled by user"], clock := s.clock + 2 }) := by
  simp [selectPass, input, tryCatch_run, bind_run, sysExit, selectPrompt]

/-- How the selector's loop ends on the operator's lines: the first line that does not ask
again decides, and the end of input exits. -/
def selection (ue_list : List (String × String)) : List String → Except PyExc (String × String)
  | [] => .error (.systemExit 0)
  | line :: rest => match answer ue_list line with
    | .quit => .error (.systemExit 0)
    | .pick ue => .ok ue
    | .retry _ => selection ue_list rest

/-- What the selector's loop prints on the operator's lines. -/
def transcript (ue_list : List (String × String)) : List String → List String
  | [] => [selectPrompt, "\nCancelled by user"]
  | line :: rest => selectPrompt :: match answer ue_list line with
    | .retry msg => msg :: transcript ue_list rest
    | _ => []

/-- The selection is the pick of the first line that does not ask again. -/
theorem selection_eq_ok {ue_list : List (String × String)} {ue : String × String} :
    ∀ {lines : List String}, selection ue_list lines = .ok ue ↔
      ∃ pre line post, lines = pre ++ line :: post ∧
        (∀ l ∈ pre, ∃ msg, answer ue_list l = .retry msg) ∧ answer ue_list line = .pick ue
  | [] => by simp [selection]
  | line :: rest => by
    constructor
    · intro hs
      simp only [selection] at hs
      split at hs
      · cases hs
      · cases hs
        exact ⟨[], line, rest, rfl, by simp, ‹_›⟩
      · obtain ⟨pre, l, post, rfl, hpre, hl⟩ := selection_eq_ok.mp hs
        refine ⟨line :: pre, l, post, rfl, ?_, hl⟩
        rintro l' (_ | ⟨_, hl'⟩)
        exacts [⟨_, ‹_›⟩, hpre l' hl']
    · rintro ⟨_ | ⟨l, pre⟩, l', post, hl, hpre, hpick⟩
      · cases hl
        simp [selection, hpick]
      · cases hl
        obtain ⟨msg, hmsg⟩ := hpre line (List.mem_cons_self _ _)
        simp only [selection, hmsg]
        exact selection_eq_ok.mpr ⟨pre, l', post, rfl, fun x hx => hpre x (.tail _ hx), hpick⟩

/-- The selection's only other end is a clean exit. -/
theorem selection_error {ue_list : List (String × String)} {e : PyExc} :
    ∀ {lines : List String}, selection ue_list lines = .error e → e = .systemExit 0
  | [], h => by cases h; rfl
  | line :: rest, h => by
    simp only [selection] at h
    split at h
    · cases h; rfl
    · cases h
    · exact selection_error h

/-- The run lemma of the selector's loop. -/
theorem selectLoop_quiet (ue_list : List (String × String)) (lines : List String) (s : Tap) :
    ∃ t, selectLoop ue_list lines quiet s = (selection ue_list lines, t) ∧
      t.out = s.out ++ transcript ue_list lines ∧ t.proc = s.proc := by
  induction lines generalizing s with
  | nil =>
    refine ⟨{ s with out := s.out ++ [selectPrompt, "\nCancelled by user"], clock := s.clock + 2 },
      ?_, rfl, rfl⟩
    rw [selectLoop, bind_error (selectPass_eof ue_list s)]
    rfl
  | cons line rest ih =>
    rw [selectLoop, bind_run, selectPass_quiet]
    let t₁ : Tap := { s with out := s.out ++ [selectPrompt], clock := s.clock + 1 }
    cases ha : answer ue_list line with
    | quit => exact ⟨t₁, by simp [selection, ha], by simp [t₁, transcript, ha], rfl⟩
    | pick ue => exact ⟨t₁, by simp [selection, ha], by simp [t₁, transcript, ha], rfl⟩
    | retry msg =>
      obtain ⟨t, ht, hout, hproc⟩ :=
        ih { s with out := s.out ++ [selectPrompt, msg], clock := s.clock + 2 }
      exact ⟨t, by simp [selection, ha, ht], by simp [transcript, ha, hout], hproc⟩

/-- The lines the selector prints when no UE is active. -/
def noUeLines : List String :=
  ["No active UE interfaces with IP addresses found.",
    "Make sure PacketRusher UEs are running with assigned IPs."]

/-- The selector's menu: a 1-based list of the active UEs between rules. -/
def menu (ue_list : List (String × String)) : List String :=
  ["\n" ++ repeatChar '=' 60, "Active UE Interfaces:", repeatChar '-' 60] ++
    ((ue_list.enumFrom 1).map fun (idx, iface, ip) =>
      "  " ++ toString idx ++ ". " ++ ljust iface 20 ++ " IP: " ++ ip) ++
    [repeatChar '=' 60]

theorem selectUeInteractive_quiet (h : Host) (s : Tap) :
    ∃ t, selectUeInteractive h quiet s =
        (if activeUes h = [] then .error (.systemExit 1) else selection (activeUes h) h.stdin, t) ∧
      t.out = s.out ++ (if activeUes h = [] then noUeLines
        else menu (activeUes h) ++ transcript (activeUes h) h.stdin) ∧
      t.proc = s.proc := by
  rw [selectUeInteractive, bind_ok (listActiveUes_quiet h s)]
  by_cases he : activeUes h = []
  · simp [he, bind_run, sysExit, noUeLines]
  · obtain ⟨t, ht, hout, hproc⟩ := selectLoop_quiet (activeUes h) h.stdin { s with
      out := s.out ++ menu (activeUes h)
      clock := s.clock + (detectValInterfaces h).length + 4 + (activeUes h).length }
    refine ⟨t, ?_, by simp [he, hout, menu], hproc⟩
    simp only [he, ↓reduceIte, bind_run, print_quiet, printAll_quiet]
    rw [← ht]
    congr 2
    · simp [menu]
    · simp only [List.length_map, List.enumFrom_length]
      omega

/-- The interactive selection of spec §4.2 without interference. With no val* interface that
has an address it prints two lines and exits 1. Otherwise it prints the numbered menu and reads
the operator's lines: the first line that does not ask again decides, `q` (in any case, blanks
around it ignored) by exiting with status 0 and an in-range number by returning that UE of the
menu; every line before prints its message (the valid range for an out-of-range number) and the
prompt again, and the end of input exits with status 0 after "Cancelled by user". -/
theorem selection_by_first_deciding_line (h : Host) (s : Tap) :
    (∀ ue, (selectUeInteractive h quiet s).1 = .ok ue ↔ activeUes h ≠ [] ∧
      ∃ pre line post, h.stdin = pre ++ line :: post ∧
        (∀ l ∈ pre, ∃ msg, answer (activeUes h) l = .retry msg) ∧
        answer (activeUes h) line = .pick ue) ∧
    (∀ ue, (selectUeInteractive h quiet s).1 = .ok ue → ue ∈ activeUes h) ∧
    (∀ e, (selectUeInteractive h quiet s).1 = .error e →
      e = .systemExit 0 ∧ activeUes h ≠ [] ∨ e = .systemExit 1 ∧ activeUes h = []) ∧
    (selectUeInteractive h quiet s).2.out = s.out ++ (if activeUes h = [] then noUeLines
      else menu (activeUes h) ++ transcript (activeUes h) h.stdin) ∧
    (selectUeInteractive h quiet s).2.proc = s.proc := by
  obtain ⟨t, ht, hout, hproc⟩ := selectUeInteractive_quiet h s
  rw [ht]
  by_cases he : activeUes h = []
  · simp [he, hout, hproc]
  · simp only [he, ↓reduceIte, ne_eq, not_false_eq_true, true_and, and_true, and_false,
      or_false] at hout ⊢
    refine ⟨fun ue => selection_eq_ok, fun ue hs => ?_, fun e hs => selection_error hs, hout, hproc⟩
    obtain ⟨_, _, _, _, _, hpick⟩ := selection_eq_ok.mp hs
    exact answer_pick_mem hpick

/-! ## The target and the gates before the capture -/

/-- The first val* interface, in name order, that has the address `ip`. -/
def ownerOf (h : Host) (ip : String) : Option String :=
  (detectValInterfaces h).find? fun iface => ipOf h iface = some ip

theorem find_activeUes_eq_ownerOf (h : Host) (ip : String) :
    (activeUes h).find? (fun ue => ue.2 = ip) = (ownerOf h ip).map (·, ip) := by
  unfold activeUes ownerOf
  induction detectValInterfaces h with
  | nil => rfl
  | cons iface rest ih =>
    cases hip : ipOf h iface with
    | none => simp [hip, ih]
    | some v => by_cases hv : v = ip <;> simp [hip, hv, ih]

/-- A val* interface has a name. -/
theorem ownerOf_ne_empty {h : Host} {ip iface : String} (ho : ownerOf h ip = some iface) :
    iface ≠ "" := by
  have hm := List.mem_of_find?_eq_some ho
  simp only [detectValInterfaces, globSorted, List.mem_insertionSort, List.mem_filter] at hm
  rintro rfl
  exact absurd hm.2 (by decide)

/-- The two lines printed before falling back to capturing on `any`. -/
def anyWarning (ip : String) : List String :=
  ["Warning: no local val* interface has IP " ++ ip ++ "; using capture interface 'any'.",
    "If this IP belongs to a UE, run with --select to pick the correct interface " ++
      "or pass --interface <iface>."]

/-- With an address and no interface given, the capture runs on the address's owner, else on
`any` after the warning. -/
theorem chooseTarget_auto (h : Host) (args : Args) (ip : String) (s : Tap)
    (hsel : args.select = false) (hsrc : args.src_ip = some ip) (hip : ip ≠ "")
    (hif : args.interface = "") :
    ∃ t, chooseTarget h args quiet s = (.ok (ip, (ownerOf h ip).getD "any"), t) ∧
      t.out = s.out ++ (match ownerOf h ip with
        | some iface =>
          if args.debug then ["Auto-detected interface '" ++ iface ++ "' for src-ip " ++ ip] else []
        | none => anyWarning ip) ∧
      t.proc = s.proc := by
  simp only [chooseTarget, hsel, hsrc, hip, hif, Bool.false_eq_true, ↓reduceIte, ne_eq,
    not_true_eq_false, bind_run, listActiveUes_quiet, find_activeUes_eq_ownerOf]
  cases ho : ownerOf h ip with
  | none => simp [chooseTarget.fallBack, bind_run, anyWarning]
  | some iface =>
    cases hd : args.debug <;> simp [ownerOf_ne_empty ho, bind_run]

/-- An address given without an interface: the capture runs on the first val* interface, in
name order, that has the address, which `--debug` reports; when none has it, on `any`, after a
two-line warning. Nothing before the probe touches the capture process. -/
theorem capture_interface_of_source_address (h : Host) (args : Args) (ip : String) (s : Tap)
    (hsel : args.select = false) (hsrc : args.src_ip = some ip) (hip : ip ≠ "")
    (hif : args.interface = "") :
    (chooseTarget h args quiet s).2.proc = s.proc ∧
    ((∃ pre iface post, detectValInterfaces h = pre ++ iface :: post ∧ ipOf h iface = some ip ∧
        (∀ j ∈ pre, ipOf h j ≠ some ip) ∧
        (chooseTarget h args quiet s).1 = .ok (ip, iface) ∧
        (chooseTarget h args quiet s).2.out = s.out ++
          (if args.debug then ["Auto-detected interface '" ++ iface ++ "' for src-ip " ++ ip]
          else [])) ∨
      ((∀ j ∈ detectValInterfaces h, ipOf h j ≠ some ip) ∧
        (chooseTarget h args quiet s).1 = .ok (ip, "any") ∧
        (chooseTarget h args quiet s).2.out = s.out ++ anyWarning ip)) := by
  obtain ⟨t, ht, hout, hp⟩ := chooseTarget_auto h args ip s hsel hsrc hip hif
  rw [ht]
  refine ⟨hp, ?_⟩
  cases ho : ownerOf h ip with
  | none =>
    refine .inr ⟨fun j hj => ?_, rfl, by simpa [ho] using hout⟩
    simpa using List.find?_eq_none.mp ho j hj
  | some iface =>
    obtain ⟨hi, pre, post, hl, hpre⟩ := List.find?_eq_some.mp ho
    exact .inl ⟨pre, iface, post, hl, by simpa using hi, fun j hj => by simpa using hpre j hj,
      rfl, by simpa [ho] using hout⟩

/-- Two UEs with one address, listed out of name order, beside an interface that is no UE. -/
def twoUeHost : Host where
  capture := ⟨[], 0, true⟩
  probe := fun _ => .timeout
  tshark := true
  euid := 0
  argv := []
  help := ""
  sysNet := ["val0000000002", "eth0", "val0000000001"]
  ipShow := fun iface => some ("    inet 10.61.0.1/24 scope global " ++ iface)
  stdin := []

def autoArgs : Args := ⟨some "10.61.0.1", false, false, "", none, true⟩

theorem capture_interface_of_source_address_on_two_ues :
    autoArgs.select = false ∧ autoArgs.src_ip = some "10.61.0.1" ∧ "10.61.0.1" ≠ "" ∧
      autoArgs.interface = "" ∧
      ((chooseTarget twoUeHost autoArgs quiet Tap.init).2.proc = Tap.init.proc ∧
      ((∃ pre iface post, detectValInterfaces twoUeHost = pre ++ iface :: post ∧
          ipOf twoUeHost iface = some "10.61.0.1" ∧ (∀ j ∈ pre, ipOf twoUeHost j ≠ some "10.61.0.1") ∧
          (chooseTarget twoUeHost autoArgs quiet Tap.init).1 = .ok ("10.61.0.1", iface) ∧
          (chooseTarget twoUeHost autoArgs quiet Tap.init).2.out = Tap.init.out ++
            (if autoArgs.debug then
              ["Auto-detected interface '" ++ iface ++ "' for src-ip " ++ "10.61.0.1"] else [])) ∨
        ((∀ j ∈ detectValInterfaces twoUeHost, ipOf twoUeHost j ≠ some "10.61.0.1") ∧
          (chooseTarget twoUeHost autoArgs quiet Tap.init).1 = .ok ("10.61.0.1", "any") ∧
          (chooseTarget twoUeHost autoArgs quiet Tap.init).2.out =
            Tap.init.out ++ anyWarning "10.61.0.1"))) :=
  ⟨rfl, rfl, by decide, rfl,
    capture_interface_of_source_address twoUeHost autoArgs "10.61.0.1" Tap.init rfl rfl
      (by decide) rfl⟩

/-- The `(src_ip, interface)` the target choice of `main` settles on, or how it exits: the
operator's pick, on the interface given if there is one; or the address given, on the
interface given, else on the address's owner, else on `any`. -/
def target (h : Host) (args : Args) : Except PyExc (String × String) :=
  if args.select then
    if activeUes h = [] then .error (.systemExit 1)
    else (selection (activeUes h) h.stdin).map fun ue =>
      (ue.2, if args.interface = "" then ue.1 else args.interface)
  else match args.src_ip with
    | some ip =>
      if ip = "" then .error (.systemExit 1)
      else .ok (ip, if args.interface = "" then (ownerOf h ip).getD "any" else args.interface)
    | none => .error (.systemExit 1)

theorem chooseTarget_quiet (h : Host) (args : Args) (s : Tap) :
    ∃ t, chooseTarget h args quiet s = (target h args, t) ∧ t.proc = s.proc := by
  cases hsel : args.select
  · cases hsrc : args.src_ip with
    | none => simp [chooseTarget, target, hsel, hsrc, bind_run, sysExit]
    | some ip =>
      by_cases hip : ip = ""
      · simp [chooseTarget, target, hsel, hsrc, hip, bind_run, sysExit]
      · by_cases hif : args.interface = ""
        · obtain ⟨t, ht, -, hp⟩ := chooseTarget_auto h args ip s hsel hsrc hip hif
          exact ⟨t, by simp [ht, target, hsel, hsrc, hip, hif], hp⟩
        · simp [chooseTarget, target, hsel, hsrc, hip, hif]
  · obtain ⟨t, ht, -, hp⟩ := selectUeInteractive_quiet h s
    by_cases he : activeUes h = []
    · simp only [he, ↓reduceIte] at ht
      simp [chooseTarget, target, hsel, he, bind_run, ht, hp]
    · simp only [he, ↓reduceIte] at ht
      cases hr : selection (activeUes h) h.stdin with
      | error e => simp [chooseTarget, target, hsel, he, hr, bind_run, ht, hp, Except.map]
      | ok ue => simp [chooseTarget, target, hsel, he, hr, bind_run, ht, hp, Except.map]

theorem checkTshark_quiet (h : Host) (s : Tap) :
    checkTshark h quiet s = (.ok h.tshark, { s with clock := s.clock + 1 }) := by
  unfold checkTshark
  cases h.tshark <;> rfl

/-- What the tap tool's run comes to before the live capture: the target the capture runs on,
or how the run exits first (spec §6: tshark missing, no target chosen, a failing probe). -/
def outcome (h : Host) (args : Args) : Except PyExc (String × String) :=
  if h.tshark then
    (target h args).bind fun ue =>
      if (verdict (h.probe ue.2)).1 then .ok ue else .error (.systemExit 1)
  else .error (.systemExit 1)

/-- The gates of the tap tool without interference. The live capture starts only once tshark
is found, a target is chosen and the probe on its interface passes; the run then exits with
status 0 after the monitor's output. Otherwise it never starts the capture, and exits with
status 1, or with 0 when the operator quits the selector. -/
theorem capture_started_only_past_gates (h : Host) (args : Args) :
    match outcome h args with
    | .ok (src_ip, iface) =>
      Exit.ofResult (main h args quiet Tap.init).1 = .status 0 ∧
        (main h args quiet Tap.init).2.proc = .exited h.capture.status ∧
        ∃ pre, (main h args quiet Tap.init).2.out = pre ++
          (if h.euid ≠ 0 then [rootWarning] else []) ++
          (if args.five_tuple then
            output fiveTupleMode h.capture.lines src_ip iface args.count args.debug
          else output simpleMode h.capture.lines src_ip iface args.count args.debug)
    | .error e =>
      Exit.ofResult (main h args quiet Tap.init).1 = Exit.ofResult (.error e) ∧
        (main h args quiet Tap.init).2.proc = .idle := by
  rw [main, bind_ok (checkTshark_quiet h _)]
  cases htk : h.tshark
  · simp [outcome, htk, bind_run, sysExit, Tap.init]
  · obtain ⟨t, ht, hp⟩ := chooseTarget_quiet h args { Tap.init with clock := Tap.init.clock + 1 }
    simp only [Bool.not_true, Bool.false_eq_true, ↓reduceIte, bind_run, pure_run, ht]
    cases hta : target h args with
    | error e => simp [outcome, htk, hta, hp, Except.bind, Tap.init]
    | ok ue =>
      obtain ⟨src_ip, iface⟩ := ue
      cases hv : (verdict (h.probe iface)).1
      · obtain ⟨u, hu, -, hpu⟩ := runMonitoring_probe_failed h args src_ip iface t hv
        simp [outcome, htk, hta, hv, hu, hpu, hp, Except.bind, Tap.init]
      · obtain ⟨u, hu, hout, hpu⟩ := runMonitoring_quiet h args src_ip iface t hv
        simp only [outcome, htk, hta, hv, ↓reduceIte, Except.bind, hu]
        exact ⟨rfl, hpu, t.out, hout⟩

end UeMonitor.Proofs.Startup
