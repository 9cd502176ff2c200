import UeMonitor.Proofs.Stream
import UeMonitor.Proofs.Numeral

namespace UeMonitor.Proofs.Modes
open Python PacketMonitor Tshark Decode Stream Numeral

/-! ## The two display modes over one packet stream -/

/-- A 5-tuple without its ports: what the simple monitor shows of the same packet. -/
def withoutPorts (t : FiveTuple) : SimpleTuple := ⟨t.src, t.dst, t.protocol⟩

theorem rendered_simpleMode (lines : List String) :
    rendered simpleMode lines = lines.filterMap fun l => simpleOf (fieldsOf l) := by
  simp only [rendered, simpleMode, decodeSimpleLine_eq]

theorem rendered_fiveTupleMode (lines : List String) :
    rendered fiveTupleMode lines = lines.filterMap fun l => fiveTupleOf (fieldsOf l) := by
  simp only [rendered, fiveTupleMode, decode5tupleLine_eq]

/-- The simple loop body reads of a packet's fields what the 5-tuple loop body reads of its
own, without the ports. -/
theorem simpleOf_fields (p : Packet) :
    simpleOf (simpleFields.map p) = (fiveTupleOf (fiveTupleFields.map p)).map withoutPorts := by
  simp [simpleOf, fiveTupleOf, simpleFields, fiveTupleFields, protoField, withoutPorts]

/-- The 5-tuple monitor refines the simple one. Their commands differ only in the fields they
ask for; and over any packet stream whose field values are plain, each run on the records of
its own command, the simple monitor shows the packets the 5-tuple monitor shows, in the same
order and so under the same numbers, each with its addresses and protocol and without its
ports. -/
theorem fiveTuple_monitor_refines_simple (src_ip interface : String) (count_limit : Option Int)
    (ps : List Packet) (hp : ∀ p ∈ ps, ∀ f ∈ fiveTupleFields, Plain (p f)) :
    (options (simpleMode.cmd src_ip interface count_limit).tail).filter (·.1 ≠ "-e") =
        (options (fiveTupleMode.cmd src_ip interface count_limit).tail).filter (·.1 ≠ "-e") ∧
      rendered simpleMode (ps.map (record (simpleMode.cmd src_ip interface count_limit))) =
        (rendered fiveTupleMode
          (ps.map (record (fiveTupleMode.cmd src_ip interface count_limit)))).map withoutPorts := by
  refine ⟨by simp [Mode.cmd, options_tsharkCmd, List.filter_append, List.filter_map,
    Function.comp_def, simpleMode, fiveTupleMode], ?_⟩
  rw [rendered_simpleMode, rendered_fiveTupleMode, List.map_filterMap, List.filterMap_map,
    List.filterMap_map]
  refine List.filterMap_congr fun p hmem => ?_
  have hsub : simpleFields ⊆ fiveTupleFields := by simp [simpleFields, fiveTupleFields]
  have hs : ∀ f ∈ simpleFields, Plain (p f) := fun f hf => hp p hmem f (hsub hf)
  simp only [Function.comp_def, Mode.cmd, simpleMode, fiveTupleMode]
  rw [fieldsOf_record hs (by simp [simpleFields]), fieldsOf_record (hp p hmem)
    (by simp [fiveTupleFields])]
  exact simpleOf_fields p

theorem fiveTuple_monitor_refines_simple_on_scenario :
    (∀ p ∈ [scenarioPacket], ∀ f ∈ fiveTupleFields, Plain (p f)) ∧
      ((options (simpleMode.cmd "10.0.0.1" "val0000000001" none).tail).filter (·.1 ≠ "-e") =
          (options (fiveTupleMode.cmd "10.0.0.1" "val0000000001" none).tail).filter
            (·.1 ≠ "-e") ∧
        rendered simpleMode
            ([scenarioPacket].map (record (simpleMode.cmd "10.0.0.1" "val0000000001" none))) =
          (rendered fiveTupleMode ([scenarioPacket].map
            (record (fiveTupleMode.cmd "10.0.0.1" "val0000000001" none)))).map withoutPorts) :=
  have h : ∀ p ∈ [scenarioPacket], ∀ f ∈ fiveTupleFields, Plain (p f) := by
    simp only [List.mem_singleton, forall_eq]
    decide
  ⟨h, fiveTuple_monitor_refines_simple "10.0.0.1" "val0000000001" none [scenarioPacket] h⟩

/-! ## The display lines read back -/

/-- `s.split()`: the runs of characters that are not whitespace, as a reader splits a line of
the display. -/
def splitWords (s : String) : List String :=
  ((s.data.splitOnP isSpace).filter (· ≠ [])).map String.mk

/-- A value that reads back as one word: not empty, and no whitespace. -/
def Word (v : String) : Prop := v.data ≠ [] ∧ ∀ c ∈ v.data, isSpace c = false

/-- How the 5-tuple layout shows an address with its port. -/
def withPort (ip port : String) : String := if port ≠ "" then ip ++ ":" ++ port else ip

section Words

variable {w : List Char} {c : Char}

theorem words_space_cons (hc : isSpace c = true) (l : List Char) :
    ((c :: l).splitOnP isSpace).filter (· ≠ []) = (l.splitOnP isSpace).filter (· ≠ []) := by
  simp [List.splitOnP_cons, hc]

theorem words_spaces_append (k : Nat) (l : List Char) :
    ((List.replicate k ' ' ++ l).splitOnP isSpace).filter (· ≠ []) =
      (l.splitOnP isSpace).filter (· ≠ []) := by
  induction k with
  | zero => rfl
  | succ k ih => rw [List.replicate_succ, List.cons_append, words_space_cons (by decide), ih]

theorem words_word_cons (hw : Word ⟨w⟩) (hc : isSpace c = true) (l : List Char) :
    ((w ++ c :: l).splitOnP isSpace).filter (· ≠ []) =
      w :: (l.splitOnP isSpace).filter (· ≠ []) := by
  rw [List.splitOnP_first isSpace w (fun x hx => by simp [hw.2 x hx]) c hc]
  simp [hw.1]

/-- A word padded with spaces, then a space. -/
theorem words_padded_cons (hw : Word ⟨w⟩) (k : Nat) (hc : isSpace c = true) (l : List Char) :
    ((w ++ (List.replicate k ' ' ++ c :: l)).splitOnP isSpace).filter (· ≠ []) =
      w :: (l.splitOnP isSpace).filter (· ≠ []) := by
  cases k with
  | zero => exact words_word_cons hw hc l
  | succ k =>
    rw [List.replicate_succ, List.cons_append, words_word_cons hw (by decide),
      words_spaces_append, words_space_cons hc]

theorem words_word (hw : Word ⟨w⟩) : (w.splitOnP isSpace).filter (· ≠ []) = [w] := by
  rw [List.splitOnP_eq_single _ _ (fun x hx => by simp [hw.2 x hx])]
  simp [hw.1]

end Words

/-- Both layouts read back word by word, whatever the padding: the counter, the source, the
arrow, the destination, and the protocol in brackets. -/
theorem splitWords_layout (a x y p : String) (width : Nat) (ha : Word a) (hx : Word x)
    (hy : Word y) (hp : ∀ c ∈ p.data, isSpace c = false) :
    splitWords (rjust a 6 ++ "  " ++ ljust x width ++ " ---> " ++ ljust y width ++ "  [" ++ p ++
      "]") = [a, x, "--->", y, "[" ++ p ++ "]"] := by
  have harrow : ∀ l, (('-' :: '-' :: '-' :: '>' :: ' ' :: l).splitOnP isSpace).filter (· ≠ []) =
      ['-', '-', '-', '>'] :: (l.splitOnP isSpace).filter (· ≠ []) :=
    words_word_cons (w := ['-', '-', '-', '>']) ⟨by simp, by decide⟩ (by decide)
  have hlast : Word ⟨'[' :: (p.data ++ [']'])⟩ := ⟨by simp, by
    simp only [List.mem_cons, List.mem_append, List.not_mem_nil, or_false]
    rintro c (rfl | hc | rfl)
    · decide
    · exact hp c hc
    · decide⟩
  simp only [splitWords, rjust, ljust, repeatChar, String.data_append, List.append_assoc,
    List.cons_append, List.nil_append]
  rw [words_spaces_append, words_word_cons ha (by decide), words_space_cons (by decide),
    words_padded_cons hx _ (by decide), harrow, words_padded_cons hy _ (by decide),
    words_space_cons (by decide), words_word hlast]
  rfl

theorem word_toString (k : Nat) : Word (toString k) := by
  obtain ⟨l, hl, hne, hd, -⟩ := toString_nat_digits k
  exact ⟨hl ▸ hne, hl ▸ fun c hc => isSpace_of_isDigit (hd c hc)⟩

theorem word_withPort {ip port : String} (hip : Word ip) (hport : ∀ c ∈ port.data, isSpace c = false) :
    Word (withPort ip port) := by
  unfold withPort
  split_ifs
  · refine ⟨by simp [hip.1], fun c hc => ?_⟩
    simp only [String.data_append, List.mem_append] at hc
    rcases hc with (hc | hc) | hc
    · exact hip.2 c hc
    · simp at hc; subst hc; decide
    · exact hport c hc
  · exact hip

theorem spaceless_resolve {a b : String} (ha : ∀ c ∈ a.data, isSpace c = false)
    (hb : ∀ c ∈ b.data, isSpace c = false) : ∀ c ∈ (resolve a b).data, isSpace c = false := by
  unfold resolve
  split_ifs
  · exact ha
  · exact hb

theorem word_mapProtocol {x : String} (hx : ∀ c ∈ x.data, isSpace c = false) :
    Word (mapProtocol x) := by
  rcases mapProtocol_label x with ⟨-, h⟩ | ⟨-, h⟩ | ⟨-, h⟩ | ⟨-, h⟩ | ⟨-, hne, h⟩ | ⟨-, h⟩
  all_goals rw [h]
  all_goals first | exact ⟨by decide, by decide⟩ | exact ⟨fun he => hne (congrArg String.mk he), hx⟩

theorem splitWords_formatSimpleLine {src dst protocol : String} (hs : Word src) (hd : Word dst)
    (hp : ∀ c ∈ protocol.data, isSpace c = false) (count : Nat) :
    splitWords (formatSimpleLine src dst protocol count) =
      [toString count, src, "--->", dst, "[" ++ protocol ++ "]"] :=
  splitWords_layout _ _ _ _ 15 (word_toString count) hs hd hp

theorem splitWords_format5tupleLine {src src_port dst dst_port protocol : String}
    (hs : Word (withPort src src_port)) (hd : Word (withPort dst dst_port))
    (hp : ∀ c ∈ protocol.data, isSpace c = false) (count : Nat) :
    splitWords (format5tupleLine src src_port dst dst_port protocol count) =
      [toString count, withPort src src_port, "--->", withPort dst dst_port,
        "[" ++ protocol ++ "]"] :=
  splitWords_layout _ _ _ _ 22 (word_toString count) hs hd hp

/-- The simple monitor's tuples, from the records of plain packets, are words. -/
theorem words_of_simple_record {cmd : List String} {p : Packet} {t : SimpleTuple}
    (hp : ∀ f ∈ simpleFields, Plain (p f)) (hf : fieldsOf (record cmd p) = simpleFields.map p)
    (ht : simpleOf (fieldsOf (record cmd p)) = some t) :
    Word t.src ∧ Word t.dst ∧ Word t.protocol := by
  have hw : ∀ f ∈ simpleFields, ∀ c ∈ (p f).data, isSpace c = false :=
    fun f hm c hc => (hp f hm c hc).2
  simp only [simpleFields, List.mem_cons, List.not_mem_nil, or_false, forall_eq_or_imp,
    forall_eq] at hw
  obtain ⟨h₁, h₂, h₃, h₄, h₅, h₆⟩ := hw
  simp only [hf, simpleOf, simpleFields, protoField, List.map_cons, List.map_nil,
    List.length_cons, List.length_nil, List.getD_cons_zero, List.getD_cons_succ] at ht
  split_ifs at ht with h
  cases ht
  exact ⟨⟨fun he => h.2.1 (congrArg String.mk he), spaceless_resolve h₁ h₂⟩,
    ⟨fun he => h.2.2 (congrArg String.mk he), spaceless_resolve h₃ h₄⟩,
    word_mapProtocol (spaceless_resolve h₅ h₆)⟩

/-- The same for the 5-tuple monitor, whose ports may be empty. -/
theorem words_of_fiveTuple_record {cmd : List String} {p : Packet} {t : FiveTuple}
    (hp : ∀ f ∈ fiveTupleFields, Plain (p f))
    (hf : fieldsOf (record cmd p) = fiveTupleFields.map p)
    (ht : fiveTupleOf (fieldsOf (record cmd p)) = some t) :
    Word t.src ∧ (∀ c ∈ t.srcPort.data, isSpace c = false) ∧ Word t.dst ∧
      (∀ c ∈ t.dstPort.data, isSpace c = false) ∧ Word t.protocol := by
  have hw : ∀ f ∈ fiveTupleFields, ∀ c ∈ (p f).data, isSpace c = false :=
    fun f hm c hc => (hp f hm c hc).2
  simp only [fiveTupleFields, List.mem_cons, List.not_mem_nil, or_false, forall_eq_or_imp,
    forall_eq] at hw
  obtain ⟨h₁, h₂, h₃, h₄, h₅, h₆, h₇, h₈, h₉, h₁₀⟩ := hw
  simp only [hf, fiveTupleOf, fiveTupleFields, protoField, List.map_cons, List.map_nil,
    List.length_cons, List.length_nil, List.getD_cons_zero, List.getD_cons_succ] at ht
  split_ifs at ht with h
  cases ht
  exact ⟨⟨fun he => h.2.1 (congrArg String.mk he), spaceless_resolve h₁ h₂⟩,
    spaceless_resolve h₃ h₄, ⟨fun he => h.2.2 (congrArg String.mk he), spaceless_resolve h₅ h₆⟩,
    spaceless_resolve h₇ h₈, word_mapProtocol (spaceless_resolve h₉ h₁₀)⟩

/-- What both monitors print reads back. Over any packet stream whose field values are plain,
run on the records of the monitor's own command, splitting each numbered line on whitespace
gives its counter (1, 2, ... in order), the source, the arrow, the destination, and the
protocol in brackets of the tuple it shows; in the 5-tuple layout an address carries its port
after a colon exactly when a port was resolved. -/
theorem display_lines_read_back (src_ip interface : String) (count_limit : Option Int)
    (ps : List Packet) :
    ((∀ p ∈ ps, ∀ f ∈ simpleFields, Plain (p f)) →
      (numbered simpleMode 0 (rendered simpleMode
          (ps.map (record (simpleMode.cmd src_ip interface count_limit))))).map splitWords =
        ((rendered simpleMode (ps.map (record (simpleMode.cmd src_ip interface count_limit)))
          ).enumFrom 1).map fun it =>
            [toString it.1, it.2.src, "--->", it.2.dst, "[" ++ it.2.protocol ++ "]"]) ∧
    ((∀ p ∈ ps, ∀ f ∈ fiveTupleFields, Plain (p f)) →
      (numbered fiveTupleMode 0 (rendered fiveTupleMode
          (ps.map (record (fiveTupleMode.cmd src_ip interface count_limit))))).map splitWords =
        ((rendered fiveTupleMode (ps.map (record (fiveTupleMode.cmd src_ip interface count_limit)))
          ).enumFrom 1).map fun it =>
            [toString it.1, withPort it.2.src it.2.srcPort, "--->", withPort it.2.dst it.2.dstPort,
              "[" ++ it.2.protocol ++ "]"]) := by
  refine ⟨fun hp => ?_, fun hp => ?_⟩
  · rw [numbered, List.map_map]
    refine List.map_congr_left fun it hit => ?_
    obtain ⟨_, hl, ht⟩ := List.mem_filterMap.mp
      (rendered_simpleMode _ ▸ List.snd_mem_of_mem_enumFrom hit)
    obtain ⟨p, hmem, rfl⟩ := List.mem_map.mp hl
    obtain ⟨hs, hd, hpr⟩ := words_of_simple_record (hp p hmem)
      (fieldsOf_record (hp p hmem) (by simp [simpleFields])) ht
    have hfmt : simpleMode.format it.2 it.1 =
        formatSimpleLine it.2.src it.2.dst it.2.protocol it.1 := rfl
    rw [Function.comp_apply, hfmt]
    exact splitWords_formatSimpleLine hs hd hpr.2 it.1
  · rw [numbered, List.map_map]
    refine List.map_congr_left fun it hit => ?_
    obtain ⟨_, hl, ht⟩ := List.mem_filterMap.mp
      (rendered_fiveTupleMode _ ▸ List.snd_mem_of_mem_enumFrom hit)
    obtain ⟨p, hmem, rfl⟩ := List.mem_map.mp hl
    obtain ⟨hs, hsp, hd, hdp, hpr⟩ := words_of_fiveTuple_record (hp p hmem)
      (fieldsOf_record (hp p hmem) (by simp [fiveTupleFields])) ht
    have hfmt : fiveTupleMode.format it.2 it.1 =
        format5tupleLine it.2.src it.2.srcPort it.2.dst it.2.dstPort it.2.protocol it.1 := rfl
    rw [Function.comp_apply, hfmt]
    exact splitWords_format5tupleLine (word_withPort hs hsp) (word_withPort hd hdp) hpr.2 it.1

theorem display_lines_read_back_on_scenario :
    (∀ p ∈ [scenarioPacket], ∀ f ∈ simpleFields, Plain (p f)) ∧
      (∀ p ∈ [scenarioPacket], ∀ f ∈ fiveTupleFields, Plain (p f)) ∧
      (numbered simpleMode 0 (rendered simpleMode
          ([scenarioPacket].map (record (simpleMode.cmd "10.0.0.1" "val0000000001" none))))).map
          splitWords =
        ((rendered simpleMode ([scenarioPacket].map
          (record (simpleMode.cmd "10.0.0.1" "val0000000001" none)))).enumFrom 1).map
          (fun it => [toString it.1, it.2.src, "--->", it.2.dst, "[" ++ it.2.protocol ++ "]"]) ∧
      (numbered fiveTupleMode 0 (rendered fiveTupleMode
          ([scenarioPacket].map (record (fiveTupleMode.cmd "10.0.0.1" "val0000000001" none))))).map
          splitWords =
        ((rendered fiveTupleMode ([scenarioPacket].map
          (record (fiveTupleMode.cmd "10.0.0.1" "val0000000001" none)))).enumFrom 1).map
          (fun it => [toString it.1, withPort it.2.src it.2.srcPort, "--->",
            withPort it.2.dst it.2.dstPort, "[" ++ it.2.protocol ++ "]"]) :=
  have h₁ : ∀ p ∈ [scenarioPacket], ∀ f ∈ simpleFields, Plain (p f) := by
    simp only [List.mem_singleton, forall_eq]
    decide
  have h₂ : ∀ p ∈ [scenarioPacket], ∀ f ∈ fiveTupleFields, Plain (p f) := by
    simp only [List.mem_singleton, forall_eq]
    decide
  ⟨h₁, h₂, (display_lines_read_back "10.0.0.1" "val0000000001" none [scenarioPacket]).1 h₁,
    (display_lines_read_back "10.0.0.1" "val0000000001" none [scenarioPacket]).2 h₂⟩

end UeMonitor.Proofs.Modes
