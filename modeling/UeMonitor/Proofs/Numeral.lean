import Mathlib.Data.Nat.Digits
import UeMonitor.Proofs.Startup
import UeMonitor.Proofs.Sampler

namespace UeMonitor.Proofs.Numeral
open Python PacketMonitor Startup

/-! ## Decimal digits -/

theorem isSpace_of_isDigit {c : Char} (h : c.isDigit = true) : isSpace c = false := by
  simp only [Char.isDigit, Bool.and_eq_true, decide_eq_true_eq] at h
  have h₁ : 48 ≤ c.toNat := h.1
  have h₂ : c.toNat ≤ 57 := h.2
  simp only [isSpace, Bool.or_eq_false_iff, Bool.and_eq_false_imp, decide_eq_true_eq,
    beq_eq_false_iff_ne, decide_eq_false_iff_not]
  omega

theorem toLower_of_isDigit {c : Char} (h : c.isDigit = true) : c.toLower = c := by
  simp only [Char.isDigit, Bool.and_eq_true, decide_eq_true_eq] at h
  have h₂ : c.toNat ≤ 57 := h.2
  simp only [Char.toLower, Char.isUpper, Bool.and_eq_true, decide_eq_true_eq, ite_eq_right_iff]
  intro h'
  have : 65 ≤ c.toNat := h'.1
  omega

/-- An ASCII digit is the decimal digit of its own value. -/
theorem decimalValue_of_isDigit {c : Char} (h : c.isDigit = true) :
    decimalValue c = some (c.toNat - 48) := by
  simp only [Char.isDigit, Bool.and_eq_true, decide_eq_true_eq] at h
  have h₁ : 48 ≤ c.toNat := h.1
  have h₂ : c.toNat < 48 + 10 := Nat.lt_succ_of_le h.2
  simp [decimalValue, decimalZeros, h₁, h₂]

theorem isDecimal_of_isDigit {c : Char} (h : c.isDigit = true) : isDecimal c = true := by
  simp [isDecimal, decimalValue_of_isDigit h]

theorem filterMap_decimalValue {l : List Char} (hd : ∀ c ∈ l, c.isDigit = true) :
    l.filterMap decimalValue = l.map fun c => c.toNat - 48 := by
  induction l with
  | nil => rfl
  | cons c l ih =>
    rw [List.forall_mem_cons] at hd
    simp [List.filterMap_cons, decimalValue_of_isDigit hd.1, ih hd.2]

theorem digitChar_spec : ∀ k, k < 10 →
    (Nat.digitChar k).isDigit = true ∧ (Nat.digitChar k).toNat - 48 = k := by
  decide

/-- `Nat.toDigitsCore` with fuel past `n` puts the decimal digits of `n` before its
accumulator: at least one, digits only, and `int()` accumulates them back to `n`. -/
theorem toDigitsCore_spec : ∀ (fuel n : Nat) (ds : List Char), n < fuel →
    ∃ l, Nat.toDigitsCore 10 fuel n ds = l ++ ds ∧ l ≠ [] ∧ (∀ c ∈ l, c.isDigit = true) ∧
      l.foldl (fun acc c => 10 * acc + (c.toNat - 48)) 0 = n
  | 0, n, _, h => absurd h (Nat.not_lt_zero n)
  | fuel + 1, n, ds, h => by
    obtain ⟨hdig, hval⟩ := digitChar_spec (n % 10) (Nat.mod_lt _ (by decide))
    by_cases h0 : n / 10 = 0
    · refine ⟨[Nat.digitChar (n % 10)], by simp [Nat.toDigitsCore, h0], by simp,
        by simpa using hdig, ?_⟩
      simp only [List.foldl_cons, List.foldl_nil, hval]
      omega
    · obtain ⟨l, hl, -, hd, hv⟩ :=
        toDigitsCore_spec fuel (n / 10) (Nat.digitChar (n % 10) :: ds) (by omega)
      refine ⟨l ++ [Nat.digitChar (n % 10)], by simp [Nat.toDigitsCore, h0, hl], by simp, ?_, ?_⟩
      · simpa [or_imp, forall_and] using ⟨hd, hdig⟩
      · rw [List.foldl_append, hv]
        simp only [List.foldl_cons, List.foldl_nil, hval]
        omega

/-- What `str()` writes for a natural number: its decimal digits. -/
theorem toString_nat_digits (m : Nat) :
    ∃ l, (toString m).data = l ∧ l ≠ [] ∧ (∀ c ∈ l, c.isDigit = true) ∧
      l.foldl (fun acc c => 10 * acc + (c.toNat - 48)) 0 = m := by
  obtain ⟨l, hl, hrest⟩ := toDigitsCore_spec (m + 1) m [] (Nat.lt_succ_self m)
  exact ⟨l, by rw [← List.append_nil l, ← hl]; rfl, hrest⟩

/-- Digits alone, at least one, are a body `int()` accepts. -/
theorem intBody_of_digits {l : List Char} (hne : l ≠ []) (hd : ∀ c ∈ l, c.isDigit = true) :
    intBody l = true := by
  have hu : ∀ c ∈ l, (c == '_') = false := fun c hc => by
    have := hd c hc
    rw [beq_eq_false_iff_ne]
    rintro rfl
    exact absurd this (by decide)
  obtain ⟨c, cs, rfl⟩ := List.exists_cons_of_ne_nil hne
  simp only [intBody, Bool.and_eq_true, List.all_eq_true, Bool.or_eq_true, Bool.not_eq_true',
    List.any_eq_false, List.head?_cons, Option.map_some', Option.getD_some,
    List.getLast?_eq_getLast _ hne]
  have hd' := fun x hx => isDecimal_of_isDigit (hd x hx)
  refine ⟨⟨⟨fun x hx => .inl (hd' x hx), hd' c (List.mem_cons_self c cs)⟩,
    hd' _ (List.getLast_mem hne)⟩, fun p hp => ?_⟩
  simp [hu p.1 (List.of_mem_zip hp).1]

/-- `int()` of a run of at most `maxStrDigits` ASCII digits. -/
theorem pyInt_digits {l : List Char} (hne : l ≠ []) (hd : ∀ c ∈ l, c.isDigit = true)
    (hlen : l.length ≤ maxStrDigits) :
    pyInt ⟨l⟩ = some (l.foldl (fun acc c => 10 * acc + (c.toNat - 48)) 0 : Nat) := by
  obtain ⟨c, cs, rfl⟩ := List.exists_cons_of_ne_nil hne
  rw [List.length_cons] at hlen
  have hc := hd c (List.mem_cons_self c cs)
  have hm : c ≠ '-' ∧ c ≠ '+' := by
    constructor <;> rintro rfl <;> exact absurd hc (by decide)
  unfold pyInt
  split
  rename_i heq
  dsimp only at heq
  split at heq
  · rename_i h; exact absurd (List.cons.inj h).1 hm.1
  · rename_i h; exact absurd (List.cons.inj h).1 hm.2
  · cases heq
    simp [intBody_of_digits hne hd, List.filter_eq_self.mpr fun c hc => isDecimal_of_isDigit
      (hd c hc), hlen, filterMap_decimalValue hd, List.foldl_map]

/-- `int()` of a minus sign before a run of at most `maxStrDigits` ASCII digits. -/
theorem pyInt_neg_digits {l : List Char} (hne : l ≠ []) (hd : ∀ c ∈ l, c.isDigit = true)
    (hlen : l.length ≤ maxStrDigits) :
    pyInt ⟨'-' :: l⟩ = some (-((l.foldl (fun acc c => 10 * acc + (c.toNat - 48)) 0 : Nat) : Int)) := by
  simp [pyInt, intBody_of_digits hne hd, List.filter_eq_self.mpr fun c hc => isDecimal_of_isDigit
    (hd c hc), hlen, filterMap_decimalValue hd, List.foldl_map]

/-- `int(str(n))` is `n`: `int()` reads back every integer `str()` writes with at most
`maxStrDigits` digits. -/
theorem pyInt_toString (n : Int) (hn : (toString n.natAbs).length ≤ maxStrDigits) :
    pyInt (toString n) = some n := by
  cases n with
  | ofNat m =>
    obtain ⟨l, hl, hne, hd, hv⟩ := toString_nat_digits m
    have hlen : l.length ≤ maxStrDigits := by rw [← hl]; exact hn
    show pyInt ⟨(toString m).data⟩ = _
    rw [hl, pyInt_digits hne hd hlen, hv]
    rfl
  | negSucc m =>
    obtain ⟨l, hl, hne, hd, hv⟩ := toString_nat_digits (m + 1)
    have hlen : l.length ≤ maxStrDigits := by rw [← hl]; exact hn
    show pyInt ⟨'-' :: (toString (m + 1)).data⟩ = _
    rw [hl, pyInt_neg_digits hne hd hlen, hv]
    rfl

/-- `str()` of an integer holds no whitespace. -/
theorem toString_noSpace (n : Int) : ∀ c ∈ (toString n).data, isSpace c = false := by
  cases n with
  | ofNat m =>
    obtain ⟨l, hl, -, hd, -⟩ := toString_nat_digits m
    show ∀ c ∈ (toString m).data, _
    rw [hl]
    exact fun c hc => isSpace_of_isDigit (hd c hc)
  | negSucc m =>
    obtain ⟨l, hl, -, hd, -⟩ := toString_nat_digits (m + 1)
    show ∀ c ∈ '-' :: (toString (m + 1)).data, _
    rw [hl]
    rintro c (_ | ⟨_, hc⟩)
    · decide
    · exact isSpace_of_isDigit (hd c hc)

theorem strip_spaces_append {w : List Char} (hw : ∀ c ∈ w, isSpace c = true) (r : List Char) :
    strip ⟨w ++ r⟩ = strip ⟨r⟩ := by
  simp only [strip, List.dropWhile_append, List.dropWhile_eq_nil_iff.mpr hw, List.isEmpty_nil,
    if_true]

/-- An integer as `str()` writes it, with whitespace around it, strips back to the numeral. -/
theorem strip_padded_toString (n : Int) {w w' : String}
    (hw : ∀ c ∈ w.data ++ w'.data, isSpace c = true) :
    strip (w ++ toString n ++ w') = toString n := by
  show strip ⟨w.data ++ (toString n).data ++ w'.data⟩ = _
  rw [List.append_assoc, strip_spaces_append fun c hc => hw c (List.mem_append_left _ hc),
    strip_append (toString_noSpace n) fun c hc => hw c (List.mem_append_right _ hc)]

/-! ## The counters of the throughput sampler -/

/-- `read_stat` returns the counter a statistics file holds as the kernel writes it: an
integer in decimal, of at most `maxStrDigits` digits, ended by any whitespace. The read is one
step, and sees the file as it is at that step. -/
theorem readStat_reads_decimal_counter (h : TxRxMonitor.Host) (iface stat : String)
    (s : TxRxMonitor.Screen) (n : Int) (hn : (toString n.natAbs).length ≤ maxStrDigits) (w : String)
    (hw : ∀ c ∈ w.data, isSpace c = true)
    (hf : h.files s.clock ("/sys/class/net/" ++ iface ++ "/statistics/" ++ stat) =
      some (toString n ++ w)) :
    TxRxMonitor.readStat h iface stat quiet s = (.ok (some n), { s with clock := s.clock + 1 }) := by
  have hs : strip (toString n ++ w) = toString n := by
    simpa using @strip_padded_toString n "" w (by simpa using hw)
  rw [Sampler.readStat_quiet]
  simp only [Sampler.statAt, hf, Option.some_bind, hs, pyInt_toString n hn]

/-- A host whose statistics files all hold `1234` and a newline. -/
def counterHost : TxRxMonitor.Host :=
  ⟨["val0000000001"], fun _ _ => true, fun _ _ => some "1234\n", fun _ => ""⟩

theorem readStat_reads_decimal_counter_on_counterHost :
    (toString (1234 : Int).natAbs).length ≤ maxStrDigits ∧ (∀ c ∈ "\n".data, isSpace c = true) ∧
      counterHost.files TxRxMonitor.Screen.init.clock
          ("/sys/class/net/" ++ "val0000000001" ++ "/statistics/" ++ "rx_bytes") =
        some (toString (1234 : Int) ++ "\n") ∧
      TxRxMonitor.readStat counterHost "val0000000001" "rx_bytes" quiet TxRxMonitor.Screen.init =
        (.ok (some 1234), ⟨[], 1⟩) :=
  have hw : ∀ c ∈ "\n".data, isSpace c = true := by decide
  have hf : counterHost.files TxRxMonitor.Screen.init.clock ("/sys/class/net/" ++ "val0000000001" ++
      "/statistics/" ++ "rx_bytes") = some (toString (1234 : Int) ++ "\n") := rfl
  have hn : (toString (1234 : Int).natAbs).length ≤ maxStrDigits := by decide
  ⟨hn, hw, hf, readStat_reads_decimal_counter counterHost "val0000000001" "rx_bytes"
    TxRxMonitor.Screen.init 1234 hn "\n" hw hf⟩

/-! ## The selector's menu numbers -/

theorem lower_toString (k : Nat) : lower (toString k) = toString k := by
  obtain ⟨l, hl, -, hd, -⟩ := toString_nat_digits k
  show (⟨(toString k).data.map Char.toLower⟩ : String) = ⟨(toString k).data⟩
  rw [hl, List.map_congr_left fun c hc => toLower_of_isDigit (hd c hc), List.map_id']

theorem toString_ne_q (k : Nat) : toString k ≠ "q" := fun h => by
  obtain ⟨l, hl, -, hd, -⟩ := toString_nat_digits k
  rw [h] at hl
  exact absurd (hd 'q' (by rw [← hl]; exact List.mem_singleton_self _)) (by decide)

/-- Typing back the number the selector's menu shows before a UE, with any whitespace around
it, picks that UE on the first pass, for every menu number `int()` converts. -/
theorem menu_number_picks_its_ue (ue_list : List (String × String)) (k : Nat)
    (ue : String × String) (hk : (k, ue) ∈ ue_list.enumFrom 1)
    (hkd : (toString k).length ≤ maxStrDigits) (w w' : String)
    (hw : ∀ c ∈ w.data ++ w'.data, isSpace c = true) (s : Tap) :
    selectPass ue_list (some (w ++ toString k ++ w')) quiet s =
      (.ok (some ue), { s with out := s.out ++ [selectPrompt], clock := s.clock + 1 }) := by
  obtain ⟨h1, h2, hue⟩ := List.mem_enumFrom hk
  have hs : strip (w ++ toString k ++ w') = toString (k : Int) := strip_padded_toString k hw
  have hq : lower (toString (k : Int)) ≠ "q" := by
    rw [show toString (k : Int) = toString k from rfl, lower_toString]
    exact toString_ne_q k
  have hi : 1 ≤ (k : Int) ∧ (k : Int) ≤ ue_list.length := by omega
  have hget : ue_list.get ⟨((k : Int) - 1).toNat, by omega⟩ = ue_list[k - 1] := by
    simp only [List.get_eq_getElem]
    congr 1
    omega
  rw [selectPass_quiet]
  simp only [answer, hs, hq, if_false, pyInt_toString (k : Int) hkd, dif_pos hi, hget, hue]

theorem menu_number_picks_its_ue_on_two_ues :
    (2, ("val0000000002", "10.60.0.2")) ∈
        [("val0000000001", "10.60.0.1"), ("val0000000002", "10.60.0.2")].enumFrom 1 ∧
      (toString 2).length ≤ maxStrDigits ∧
      (∀ c ∈ " ".data ++ "".data, isSpace c = true) ∧
      selectPass [("val0000000001", "10.60.0.1"), ("val0000000002", "10.60.0.2")]
          (some (" " ++ toString 2 ++ "")) quiet Tap.init =
        (.ok (some ("val0000000002", "10.60.0.2")),
          { Tap.init with out := Tap.init.out ++ [selectPrompt], clock := Tap.init.clock + 1 }) :=
  have hk : (2, ("val0000000002", "10.60.0.2")) ∈
      [("val0000000001", "10.60.0.1"), ("val0000000002", "10.60.0.2")].enumFrom 1 := by simp
  have hw : ∀ c ∈ " ".data ++ "".data, isSpace c = true := by decide
  have hkd : (toString 2).length ≤ maxStrDigits := by decide
  ⟨hk, hkd, hw, menu_number_picks_its_ue _ 2 _ hk hkd " " "" hw Tap.init⟩

end UeMonitor.Proofs.Numeral
