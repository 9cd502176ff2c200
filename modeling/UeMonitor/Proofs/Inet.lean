import UeMonitor.Proofs.IoError
import UeMonitor.Proofs.Numeral

namespace UeMonitor.Proofs.Inet
open Python PacketMonitor Startup OneFault IoError Numeral

/-! ## Runs of one class of characters -/

section Runs

variable {p : Char → Bool} {d r : List Char}

theorem takeWhile_run (hd : ∀ c ∈ d, p c = true) (hr : ∀ c ∈ r.head?, p c = false) :
    (d ++ r).takeWhile p = d := by
  rw [List.takeWhile_append_of_pos hd]
  cases r with
  | nil => simp
  | cons c r => simp [List.takeWhile_cons, hr c rfl]

theorem dropWhile_run (hd : ∀ c ∈ d, p c = true) (hr : ∀ c ∈ r.head?, p c = false) :
    (d ++ r).dropWhile p = r := by
  rw [List.dropWhile_append_of_pos hd]
  cases r with
  | nil => rfl
  | cons c r => simp [List.dropWhile_cons, hr c rfl]

/-- `takeWhile` keeps a run of the class; what `dropWhile` leaves does not start with one. -/
theorem run_split (p : Char → Bool) (l : List Char) :
    (∀ c ∈ l.takeWhile p, p c = true) ∧ ∀ c ∈ (l.dropWhile p).head?, p c = false := by
  refine ⟨fun c hc => List.mem_takeWhile_imp hc, fun c hc => ?_⟩
  simpa [Option.mem_def.mp hc] using List.head?_dropWhile_not p l

end Runs

/-! ## The dotted-quad pattern -/

/-- A run of decimal digits, as `\d+` matches one. -/
def DigitRun (d : List Char) : Prop := d ≠ [] ∧ ∀ c ∈ d, isDecimal c = true

/-- Digit runs joined by dots; `\d+\.\d+\.\d+\.\d+` matches four of them. -/
def joinDots : List (List Char) → List Char
  | [] => []
  | [d] => d
  | d :: e :: g => d ++ '.' :: joinDots (e :: g)

/-- What `dottedDigits n` accepts: `n + 1` digit runs joined by dots, the last one read to its
last digit. -/
theorem dottedDigits_sound : ∀ {n : Nat} {l d : List Char}, dottedDigits n l = some d →
    ∃ g r, g.length = n + 1 ∧ (∀ x ∈ g, DigitRun x) ∧ d = joinDots g ∧ l = d ++ r ∧
      ∀ c ∈ r.head?, isDecimal c = false
  | 0, l, d, h => by
    simp only [dottedDigits] at h
    split_ifs at h with h0
    cases h
    obtain ⟨hd, hr⟩ := run_split isDecimal l
    refine ⟨[l.takeWhile isDecimal], _, rfl, ?_, rfl,
      (List.takeWhile_append_dropWhile _ _).symm, hr⟩
    simp only [List.mem_singleton, forall_eq]
    exact ⟨h0, hd⟩
  | n + 1, l, d, h => by
    simp only [dottedDigits] at h
    split_ifs at h with h0
    split at h
    · rename_i rest hrest
      obtain ⟨d', hd', rfl⟩ := Option.map_eq_some'.mp h
      obtain ⟨g, r, hlen, hg, rfl, rfl, hr⟩ := dottedDigits_sound hd'
      obtain ⟨e, g', rfl⟩ := List.exists_cons_of_length_eq_add_one hlen
      refine ⟨l.takeWhile isDecimal :: e :: g', r, by simpa using hlen, ?_, rfl, ?_, hr⟩
      · exact List.forall_mem_cons.mpr ⟨⟨h0, (run_split isDecimal l).1⟩, hg⟩
      · have hl := (List.takeWhile_append_dropWhile isDecimal l).symm
        rw [hrest] at hl
        exact hl.trans (by simp [joinDots])
    · cases h

/-- `dottedDigits n` reads back `n + 1` digit runs joined by dots, whatever non-digit text
follows them. -/
theorem dottedDigits_joinDots : ∀ {n : Nat} {g : List (List Char)} (r : List Char),
    g.length = n + 1 → (∀ x ∈ g, DigitRun x) → (∀ c ∈ r.head?, isDecimal c = false) →
    dottedDigits n (joinDots g ++ r) = some (joinDots g)
  | _, [], _, h, _, _ => by simp at h
  | 0, [d], r, _, hg, hr => by
    have hd := hg d (List.mem_singleton_self d)
    simp [dottedDigits, joinDots, takeWhile_run hd.2 hr, hd.1]
  | 0, _ :: _ :: _, _, h, _, _ => by simp at h
  | n + 1, [_], _, h, _, _ => by simp at h
  | n + 1, d :: e :: g, r, hlen, hg, hr => by
    have hd := hg d (List.mem_cons_self d _)
    have hdot : ∀ c ∈ ('.' :: (joinDots (e :: g) ++ r)).head?, isDecimal c = false := by
      simp only [List.head?_cons, Option.mem_def, Option.some.injEq, forall_eq']
      decide
    simp only [dottedDigits, joinDots, List.append_assoc, List.cons_append]
    rw [takeWhile_run hd.2 hdot, dropWhile_run hd.2 hdot, if_neg hd.1]
    show (dottedDigits n (joinDots (e :: g) ++ r)).map _ = _
    rw [dottedDigits_joinDots r (by simpa using hlen)
      (fun x hx => hg x (List.mem_cons_of_mem d hx)) hr]
    rfl

/-! ## The search for `inet` -/

/-- What `inetAt` accepts: `inet`, whitespace, and what `dottedDigits 3` reads after it. -/
theorem inetAt_sound {l d : List Char} (h : inetAt l = some d) :
    ∃ w r, l = 'i' :: 'n' :: 'e' :: 't' :: (w ++ r) ∧ w ≠ [] ∧ (∀ c ∈ w, isSpace c = true) ∧
      dottedDigits 3 r = some d := by
  unfold inetAt at h
  split at h
  · rename_i rest
    split_ifs at h with hw
    exact ⟨_, _, by rw [List.takeWhile_append_dropWhile], hw, (run_split isSpace rest).1, h⟩
  · cases h

theorem inetAt_inet {w r : List Char} (hw : w ≠ []) (hws : ∀ c ∈ w, isSpace c = true)
    (hr : ∀ c ∈ r.head?, isSpace c = false) :
    inetAt ('i' :: 'n' :: 'e' :: 't' :: (w ++ r)) = dottedDigits 3 r := by
  simp only [inetAt, takeWhile_run hws hr, dropWhile_run hws hr, if_neg hw]

/-- `re.search` returns a match found at some position of the text. -/
theorem inetSearch_sound : ∀ {l d : List Char}, inetSearch l = some d →
    ∃ pre suf, l = pre ++ suf ∧ inetAt suf = some d
  | [], _, h => by cases h
  | c :: cs, d, h => by
    rw [inetSearch] at h
    cases ha : inetAt (c :: cs) with
    | none =>
      rw [ha] at h
      obtain ⟨pre, suf, rfl, hs⟩ := inetSearch_sound h
      exact ⟨c :: pre, suf, rfl, hs⟩
    | some a =>
      rw [ha] at h
      cases h
      exact ⟨[], c :: cs, rfl, ha⟩

/-- `re.search` passes over a prefix at none of whose positions the pattern matches. -/
theorem inetSearch_append {pre x : List Char}
    (h : ∀ k < pre.length, inetAt (pre.drop k ++ x) = none) :
    inetSearch (pre ++ x) = inetSearch x := by
  induction pre with
  | nil => rfl
  | cons c pre ih =>
    rw [List.cons_append, inetSearch, show inetAt (c :: (pre ++ x)) = none from h 0 (by simp)]
    exact ih fun k hk => h (k + 1) (by simpa using hk)

/-- Before the first `inet` of a text no match starts: `inet` cannot overlap itself. -/
theorem inetAt_before_first {pre y : List Char} (hpre : ¬ ['i', 'n', 'e', 't'] <:+: pre) :
    ∀ k < pre.length, inetAt (pre.drop k ++ 'i' :: 'n' :: 'e' :: 't' :: y) = none := by
  intro k hk
  cases hq : inetAt (pre.drop k ++ 'i' :: 'n' :: 'e' :: 't' :: y) with
  | none => rfl
  | some a =>
    obtain ⟨w, r, heq, -⟩ := inetAt_sound hq
    have hsuf : pre.drop k <:+ pre := List.drop_suffix k pre
    have hne : pre.drop k ≠ [] := by simpa using hk
    generalize pre.drop k = q at heq hsuf hne
    rcases q with _ | ⟨a, _ | ⟨b, _ | ⟨c, _ | ⟨e, q⟩⟩⟩⟩
    · exact absurd rfl hne
    · simp at heq
    · simp at heq
    · simp at heq
    · simp only [List.cons_append, List.cons.injEq] at heq
      obtain ⟨rfl, rfl, rfl, rfl, -⟩ := heq
      exact absurd ((List.prefix_append ['i', 'n', 'e', 't'] q).isInfix.trans hsuf.isInfix) hpre

/-- `ip` is a text the pattern `inet\s+(\d+\.\d+\.\d+\.\d+)` captures in `out`: four digit
runs joined by dots, after `inet` and whitespace, read to their last digit. -/
def InetCapture (out ip : List Char) : Prop :=
  ∃ pre w g r, out = pre ++ 'i' :: 'n' :: 'e' :: 't' :: (w ++ ip ++ r) ∧ w ≠ [] ∧
    (∀ c ∈ w, isSpace c = true) ∧ g.length = 4 ∧ (∀ x ∈ g, DigitRun x) ∧ ip = joinDots g ∧
    ∀ c ∈ r.head?, isDecimal c = false

theorem inetSearch_capture {out ip : List Char} (h : inetSearch out = some ip) :
    InetCapture out ip := by
  obtain ⟨pre, suf, rfl, hs⟩ := inetSearch_sound h
  obtain ⟨w, r', rfl, hw, hws, hd⟩ := inetAt_sound hs
  obtain ⟨g, r, hlen, hg, rfl, rfl, hr⟩ := dottedDigits_sound hd
  exact ⟨pre, w, g, r, by simp, hw, hws, hlen, hg, rfl, hr⟩

/-! ## The addresses of the UEs -/

/-- The text `ip` writes for an address: its four octets in decimal, joined by dots. -/
def dottedQuad (a b c d : Nat) : String :=
  toString a ++ "." ++ toString b ++ "." ++ toString c ++ "." ++ toString d

theorem dottedQuad_data (a b c d : Nat) : (dottedQuad a b c d).data =
    joinDots [(toString a).data, (toString b).data, (toString c).data, (toString d).data] := by
  simp [dottedQuad, joinDots]

theorem digitRun_toString (k : Nat) : DigitRun (toString k).data := by
  obtain ⟨l, hl, hne, hd, -⟩ := toString_nat_digits k
  exact hl ▸ ⟨hne, fun c hc => isDecimal_of_isDigit (hd c hc)⟩

/-- `get_interface_ip` reads back the address `ip` shows: for an output whose first `inet` is
followed by whitespace and an address written in decimal, then by anything but a digit, it
returns that address. -/
theorem getInterfaceIp_reads_first_inet (h : Host) (iface : String) (s : Tap)
    (pre w rest : String) (a b c d : Nat) (hpre : ¬ "inet".data <:+: pre.data) (hw : w ≠ "")
    (hws : ∀ ch ∈ w.data, isSpace ch = true) (hrest : ∀ ch ∈ rest.data.head?, isDecimal ch = false)
    (hout : h.ipShow iface = some (pre ++ "inet" ++ w ++ dottedQuad a b c d ++ rest)) :
    getInterfaceIp h iface quiet s =
      (.ok (some (dottedQuad a b c d)), { s with clock := s.clock + 1 }) := by
  have hq : dottedDigits 3 ((dottedQuad a b c d).data ++ rest.data) =
      some (dottedQuad a b c d).data := by
    rw [dottedQuad_data]
    exact dottedDigits_joinDots _ rfl (by simp [digitRun_toString]) hrest
  have hhead : ∀ ch ∈ ((dottedQuad a b c d).data ++ rest.data).head?, isSpace ch = false := by
    obtain ⟨d, hd', hne, hd, -⟩ := toString_nat_digits a
    obtain ⟨c₀, l, rfl⟩ := List.exists_cons_of_ne_nil hne
    simp only [dottedQuad, String.data_append, hd', List.cons_append, List.head?_cons,
      Option.mem_def, Option.some.injEq, forall_eq']
    exact isSpace_of_isDigit (hd c₀ (List.mem_cons_self c₀ l))
  have hw' : w.data ≠ [] := fun he => hw (congrArg String.mk he)
  rw [getInterfaceIp_quiet]
  simp only [ipOf, hout, Option.some_bind, String.data_append, List.append_assoc,
    List.cons_append, List.nil_append]
  rw [inetSearch_append (inetAt_before_first hpre), inetSearch, inetAt_inet hw' hws hhead, hq]
  rfl

/-- A host whose `ip` prints an interface's address as `ip -4 addr show` does. -/
def inetHost : Host :=
  { twoUeHost with ipShow := fun iface => some ("5: " ++ iface ++
      ": <UP,LOWER_UP> mtu 1500\n    inet 10.60.0.1/24 scope global " ++ iface ++ "\n") }

theorem getInterfaceIp_reads_first_inet_on_inetHost :
    ¬ "inet".data <:+: "5: val0000000001: <UP,LOWER_UP> mtu 1500\n    ".data ∧ " " ≠ "" ∧
      (∀ ch ∈ " ".data, isSpace ch = true) ∧
      (∀ ch ∈ "/24 scope global val0000000001\n".data.head?, isDecimal ch = false) ∧
      inetHost.ipShow "val0000000001" = some ("5: val0000000001: <UP,LOWER_UP> mtu 1500\n    " ++
        "inet" ++ " " ++ dottedQuad 10 60 0 1 ++ "/24 scope global val0000000001\n") ∧
      getInterfaceIp inetHost "val0000000001" quiet Tap.init =
        (.ok (some (dottedQuad 10 60 0 1)), { Tap.init with clock := Tap.init.clock + 1 }) :=
  have hpre : ¬ "inet".data <:+: "5: val0000000001: <UP,LOWER_UP> mtu 1500\n    ".data := by
    decide
  have hws : ∀ ch ∈ " ".data, isSpace ch = true := by decide
  have hrest : ∀ ch ∈ "/24 scope global val0000000001\n".data.head?, isDecimal ch = false := by
    decide
  have hout : inetHost.ipShow "val0000000001" = some
      ("5: val0000000001: <UP,LOWER_UP> mtu 1500\n    " ++ "inet" ++ " " ++ dottedQuad 10 60 0 1 ++
        "/24 scope global val0000000001\n") := by decide
  ⟨hpre, by decide, hws, hrest, hout, getInterfaceIp_reads_first_inet inetHost "val0000000001"
    Tap.init _ " " _ 10 60 0 1 hpre (by decide) hws hrest hout⟩

/-- Whatever the faults, an address `get_interface_ip` returns is the one its `ip` run shows. -/
theorem getInterfaceIp_some {h : Host} {iface ip : String} {φ : Schedule} {s t : Tap}
    (hr : getInterfaceIp h iface φ s = (.ok (some ip), t)) : ipOf h iface = some ip := by
  cases hφ : φ s.clock with
  | none =>
    rw [getInterfaceIp_of_none h iface hφ, getInterfaceIp_quiet] at hr
    simp only [Prod.mk.injEq, Except.ok.injEq] at hr
    exact hr.1
  | some f =>
    cases f with
    | interrupt => simp [getInterfaceIp, tryCatch_run, bind_run, tick, hφ, PyExc.isException] at hr
    | raise e =>
      simp only [getInterfaceIp, tryCatch_run, bind_run, tick, hφ, if_true] at hr
      cases he : e.isException <;> simp [he] at hr

/-- The listing loop returns only interfaces of its list, each with the address its `ip` run
shows, whatever the faults. -/
theorem listActiveUes_go_ok (h : Host) {φ : Schedule} : ∀ (l : List String) {s t : Tap}
    {ues : List (String × String)}, listActiveUes.go h l φ s = (.ok ues, t) →
      ∀ ue ∈ ues, ue.1 ∈ l ∧ ipOf h ue.1 = some ue.2
  | [], _, _, _, hr => by
    cases hr
    simp
  | iface :: rest, _, _, _, hr => by
    rw [listActiveUes.go] at hr
    obtain ⟨ip, u, hip, hr⟩ := bind_eq_ok hr
    obtain ⟨ue_list, v, hrest, hr⟩ := bind_eq_ok hr
    have ih := listActiveUes_go_ok h rest hrest
    intro ue hue
    cases ip with
    | none =>
      cases hr
      exact (ih ue hue).imp_left (List.mem_cons_of_mem iface)
    | some a =>
      cases hr
      split_ifs at hue
      · rcases List.mem_cons.mp hue with rfl | hue
        · exact ⟨List.mem_cons_self _ _, getInterfaceIp_some hip⟩
        · exact (ih ue hue).imp_left (List.mem_cons_of_mem iface)
      · exact (ih ue hue).imp_left (List.mem_cons_of_mem iface)

/-- Whatever faults hit the `ip` runs, every UE `list_active_ues` returns is a val* interface
of the host with an address that the pattern captures in that interface's `ip` output: four
digit runs joined by dots, after `inet` and whitespace. -/
theorem listed_ue_addresses_are_dotted_quads (h : Host) (φ : Schedule) (s t : Tap)
    (ues : List (String × String)) (hr : listActiveUes h φ s = (.ok ues, t)) :
    ∀ ue ∈ ues, ue.1 ∈ detectValInterfaces h ∧
      ∃ out, h.ipShow ue.1 = some out ∧ InetCapture out.data ue.2.data := by
  intro ue hue
  obtain ⟨hmem, hip⟩ := listActiveUes_go_ok h _ hr ue hue
  obtain ⟨out, hout, hs⟩ := Option.bind_eq_some.mp hip
  obtain ⟨r, hr', hue⟩ := Option.map_eq_some'.mp hs
  rw [← hue]
  exact ⟨hmem, out, hout, inetSearch_capture hr'⟩

theorem listed_ue_addresses_are_dotted_quads_on_two_ues :
    listActiveUes twoUeHost quiet Tap.init = (.ok (activeUes twoUeHost),
        { Tap.init with clock := Tap.init.clock + (detectValInterfaces twoUeHost).length }) ∧
      ∀ ue ∈ activeUes twoUeHost, ue.1 ∈ detectValInterfaces twoUeHost ∧
        ∃ out, twoUeHost.ipShow ue.1 = some out ∧ InetCapture out.data ue.2.data :=
  ⟨listActiveUes_quiet twoUeHost Tap.init, listed_ue_addresses_are_dotted_quads twoUeHost quiet
    Tap.init _ _ (listActiveUes_quiet twoUeHost Tap.init)⟩

end UeMonitor.Proofs.Inet
