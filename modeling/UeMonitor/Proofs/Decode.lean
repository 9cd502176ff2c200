import UeMonitor.PacketMonitor.Record
import UeMonitor.Tshark

namespace UeMonitor.Proofs.Decode
open Python PacketMonitor Tshark

/-- A logical value of a record: its first field if non-empty, else its second. -/
def resolve (a b : String) : String := if a ≠ "" then a else b

/-- The protocol field of a record whose protocol fields start at `i`: the first of them that
is present and non-empty, else `""`. -/
def protoField (parts : List String) (i : Nat) : String :=
  resolve (parts.getD i "") (parts.getD (i + 1) "")

/-- The label the spec gives a protocol field: the mnemonic of 1, 6, 17 and 58, any other
non-empty field verbatim, `IP` for an empty one. -/
def ProtocolLabel (field label : String) : Prop :=
  (field = "1" ∧ label = "ICMP") ∨ (field = "6" ∧ label = "TCP") ∨
    (field = "17" ∧ label = "UDP") ∨ (field = "58" ∧ label = "ICMPv6") ∨
    (field ∉ ["1", "6", "17", "58"] ∧ field ≠ "" ∧ label = field) ∨ (field = "" ∧ label = "IP")

theorem mapProtocol_label (field : String) : ProtocolLabel field (mapProtocol field) := by
  unfold ProtocolLabel mapProtocol
  by_cases h1 : field = "1"
  · subst h1; decide
  by_cases h6 : field = "6"
  · subst h6; decide
  by_cases h17 : field = "17"
  · subst h17; decide
  by_cases h58 : field = "58"
  · subst h58; decide
  have hl : protocolMap.lookup field = none := by
    simp [protocolMap, List.lookup_cons, beq_false_of_ne, h1, h6, h17, h58]
  by_cases he : field = ""
  · subst he; decide
  · simp [hl, he, h1, h6, h17, h58]

theorem getItem_of_lt {parts : List String} {i : Nat} (h : i < parts.length) :
    getItem parts i = .ok (parts.getD i "") := by
  simp [getItem, List.getElem?_eq_getElem h, List.getD_eq_getElem?_getD]

theorem orElse_of_lt {parts : List String} {i j : Nat} (hi : i < parts.length)
    (hj : j < parts.length) :
    orElse parts i j = .ok (resolve (parts.getD i "") (parts.getD j "")) := by
  simp only [orElse, getItem_of_lt hi, getItem_of_lt hj, resolve]
  show (if _ then _ else _) = _
  split_ifs <;> rfl

/-- The `proto_num` expression never raises: each index it reads is guarded by a length test. -/
theorem protoNum_eq (parts : List String) (i : Nat) :
    protoNum parts i = .ok (protoField parts i) := by
  have hfb : (if parts.length > i + 1 then getItem parts (i + 1) else pure "") =
      .ok (parts.getD (i + 1) "") := by
    split
    · exact getItem_of_lt ‹_›
    · simp [List.getElem?_eq_none (by omega : parts.length ≤ i + 1)]; rfl
  unfold protoNum protoField resolve
  simp only [hfb]
  split
  · simp only [getItem_of_lt ‹_›]
    show (if _ then _ else _) = _
    split_ifs <;> rfl
  · simp [List.getElem?_eq_none (by omega : parts.length ≤ i)]

/-- The stripped line split on `|`: the fields both loop bodies index. -/
def fieldsOf (raw : String) : List String := split (strip raw) '|'

/-- What `run_simple_monitor` prints for the fields of a line, read off by position. -/
def simpleOf (parts : List String) : Option SimpleTuple :=
  let src := resolve (parts.getD 0 "") (parts.getD 1 "")
  let dst := resolve (parts.getD 2 "") (parts.getD 3 "")
  if 4 ≤ parts.length ∧ src ≠ "" ∧ dst ≠ "" then
    some ⟨src, dst, mapProtocol (protoField parts 4)⟩
  else none

/-- What `run_5tuple_monitor` prints for the fields of a line, read off by position. -/
def fiveTupleOf (parts : List String) : Option FiveTuple :=
  let src := resolve (parts.getD 0 "") (parts.getD 1 "")
  let dst := resolve (parts.getD 4 "") (parts.getD 5 "")
  if 8 ≤ parts.length ∧ src ≠ "" ∧ dst ≠ "" then
    some ⟨src, resolve (parts.getD 2 "") (parts.getD 3 ""), dst,
      resolve (parts.getD 6 "") (parts.getD 7 ""), mapProtocol (protoField parts 8)⟩
  else none

theorem fieldsOf_blank {raw : String} (h : strip raw = "") : fieldsOf raw = [""] := by
  simp only [fieldsOf, h]
  rfl

theorem decodeSimpleLine_eq (raw : String) : decodeSimpleLine raw = .ok (simpleOf (fieldsOf raw)) := by
  unfold decodeSimpleLine
  by_cases hb : strip raw = ""
  · simp [hb, fieldsOf_blank hb, simpleOf]; rfl
  · simp only [hb, if_false]
    rw [← fieldsOf]
    generalize fieldsOf raw = parts
    by_cases hl : parts.length < 4
    · simp only [hl, if_true, simpleOf]
      rw [if_neg (by omega)]; rfl
    · simp only [hl, if_false, orElse_of_lt (by omega : 0 < parts.length) (by omega : 1 < parts.length),
        orElse_of_lt (by omega : 2 < parts.length) (by omega : 3 < parts.length), protoNum_eq,
        simpleOf, Nat.le_of_not_lt hl, true_and]
      show (if _ then _ else _) = _
      split_ifs <;> rfl

theorem decode5tupleLine_eq (raw : String) :
    decode5tupleLine raw = .ok (fiveTupleOf (fieldsOf raw)) := by
  unfold decode5tupleLine
  by_cases hb : strip raw = ""
  · simp [hb, fieldsOf_blank hb, fiveTupleOf]; rfl
  · simp only [hb, if_false]
    rw [← fieldsOf]
    generalize fieldsOf raw = parts
    by_cases hl : parts.length < 8
    · simp only [hl, if_true, fiveTupleOf]
      rw [if_neg (by omega)]; rfl
    · simp only [hl, if_false, orElse_of_lt (by omega : 0 < parts.length) (by omega : 1 < parts.length),
        orElse_of_lt (by omega : 2 < parts.length) (by omega : 3 < parts.length),
        orElse_of_lt (by omega : 4 < parts.length) (by omega : 5 < parts.length),
        orElse_of_lt (by omega : 6 < parts.length) (by omega : 7 < parts.length), protoNum_eq,
        fiveTupleOf, Nat.le_of_not_lt hl, true_and]
      show (if _ then _ else _) = _
      split_ifs <;> rfl

theorem simpleOf_spec (parts : List String) :
    ((simpleOf parts).isSome ↔ 4 ≤ parts.length ∧
      resolve (parts.getD 0 "") (parts.getD 1 "") ≠ "" ∧
      resolve (parts.getD 2 "") (parts.getD 3 "") ≠ "") ∧
    ∀ t ∈ simpleOf parts, t.src ≠ "" ∧ t.dst ≠ "" ∧
      ProtocolLabel (protoField parts 4) t.protocol := by
  dsimp only [simpleOf]
  split_ifs with h
  · refine ⟨by simpa using h, fun t ht => ?_⟩
    cases Option.mem_def.mp ht
    exact ⟨h.2.1, h.2.2, mapProtocol_label _⟩
  · simpa using h

theorem fiveTupleOf_spec (parts : List String) :
    ((fiveTupleOf parts).isSome ↔ 8 ≤ parts.length ∧
      resolve (parts.getD 0 "") (parts.getD 1 "") ≠ "" ∧
      resolve (parts.getD 4 "") (parts.getD 5 "") ≠ "") ∧
    ∀ t ∈ fiveTupleOf parts, t.src ≠ "" ∧ t.dst ≠ "" ∧
      ProtocolLabel (protoField parts 8) t.protocol := by
  dsimp only [fiveTupleOf]
  split_ifs with h
  · refine ⟨by simpa using h, fun t ht => ?_⟩
    cases Option.mem_def.mp ht
    exact ⟨h.2.1, h.2.2, mapProtocol_label _⟩
  · simpa using h

/-- Both loop bodies run to the end on every line: they render exactly the lines with enough
fields and two non-empty resolved addresses, and only well-formed tuples. -/
theorem decode_total_wellformed (raw : String) :
    (∃ r, decodeSimpleLine raw = .ok r ∧
      (r.isSome ↔ 4 ≤ (fieldsOf raw).length ∧
        resolve ((fieldsOf raw).getD 0 "") ((fieldsOf raw).getD 1 "") ≠ "" ∧
        resolve ((fieldsOf raw).getD 2 "") ((fieldsOf raw).getD 3 "") ≠ "") ∧
      ∀ t ∈ r, t.src ≠ "" ∧ t.dst ≠ "" ∧
        ProtocolLabel (protoField (fieldsOf raw) 4) t.protocol) ∧
    (∃ r, decode5tupleLine raw = .ok r ∧
      (r.isSome ↔ 8 ≤ (fieldsOf raw).length ∧
        resolve ((fieldsOf raw).getD 0 "") ((fieldsOf raw).getD 1 "") ≠ "" ∧
        resolve ((fieldsOf raw).getD 4 "") ((fieldsOf raw).getD 5 "") ≠ "") ∧
      ∀ t ∈ r, t.src ≠ "" ∧ t.dst ≠ "" ∧
        ProtocolLabel (protoField (fieldsOf raw) 8) t.protocol) :=
  ⟨⟨_, decodeSimpleLine_eq raw, simpleOf_spec _⟩, ⟨_, decode5tupleLine_eq raw, fiveTupleOf_spec _⟩⟩

theorem options_flatMap (fs : List String) (rest : List String) :
    options (fs.flatMap (fun f => ["-e", f]) ++ rest) = fs.map (fun f => ("-e", f)) ++ options rest := by
  induction fs with
  | nil => rfl
  | cons f fs ih =>
    rw [show (f :: fs).flatMap (fun f => ["-e", f]) ++ rest =
      "-e" :: f :: (fs.flatMap (fun f => ["-e", f]) ++ rest) from rfl]
    simp [options, argOptions, ih]

theorem options_tsharkCmd (fs : List String) (interface display_filter : String)
    (count_limit : Option Int) :
    options (tsharkCmd fs interface display_filter count_limit).tail =
      [("-i", interface), ("-Y", display_filter), ("-T", "fields")] ++
        fs.map (fun f => ("-e", f)) ++ [("-E", "separator=|"), ("-E", "occurrence=f")] ++
        match count_limit with
        | some c => if c ≠ 0 then [("-c", toString c)] else []
        | none => [] := by
  rcases count_limit with _ | c
  · simp [tsharkCmd, options, argOptions, options_flatMap]
  · by_cases h : c = 0 <;> simp [h, tsharkCmd, options, argOptions, options_flatMap]

/-- The command both monitors build sets the separator their loops split on and asks for
exactly their own fields, whatever the interface, source address and count limit. -/
theorem tsharkCmd_layout (fs : List String) (interface display_filter : String)
    (count_limit : Option Int) :
    fields (tsharkCmd fs interface display_filter count_limit) = fs ∧
      separator (tsharkCmd fs interface display_filter count_limit) = '|' := by
  constructor
  · rw [fields, options_tsharkCmd]
    rcases count_limit with _ | c
    · simp [List.filterMap_map, Function.comp_def]
    · by_cases h : c = 0 <;> simp [h, List.filterMap_map, Function.comp_def]
  · rw [separator, options_tsharkCmd]
    rcases count_limit with _ | c
    · simp [List.filterMap_map, Function.comp_def]
    · by_cases h : c = 0 <;> simp [h, List.filterMap_map, Function.comp_def]

theorem mem_intersperse {α : Type} {s x : α} : ∀ {ls : List α}, x ∈ ls.intersperse s → x = s ∨ x ∈ ls
  | [], h => by simp at h
  | [a], h => by simp_all
  | a :: b :: ls, h => by
    rw [List.intersperse_cons_cons] at h
    rcases List.mem_cons.mp h with rfl | h
    · simp
    rcases List.mem_cons.mp h with rfl | h
    · simp
    rcases mem_intersperse h with h | h
    · exact .inl h
    · exact .inr (List.mem_cons_of_mem _ h)

theorem forall_mem_intercalate {p : Char → Prop} {sep : Char} {ls : List (List Char)}
    (hs : p sep) (hl : ∀ l ∈ ls, ∀ c ∈ l, p c) : ∀ c ∈ [sep].intercalate ls, p c := by
  intro c hc
  obtain ⟨l, hl', hc⟩ := List.mem_flatten.mp hc
  rcases mem_intersperse hl' with rfl | hm
  · rwa [List.mem_singleton.mp hc]
  · exact hl l hm c hc

/-- A field value tshark writes into a record without breaking it apart: no separator and no
whitespace. -/
def Plain (v : String) : Prop := ∀ c ∈ v.data, c ≠ '|' ∧ isSpace c = false

instance : DecidablePred Plain := fun v =>
  inferInstanceAs (Decidable (∀ c ∈ v.data, c ≠ '|' ∧ isSpace c = false))

/-- A record of a monitor's own command splits back into the packet's values of its fields,
in the order of the command's `-e` options. -/
theorem fieldsOf_record {fs : List String} {interface display_filter : String}
    {count_limit : Option Int} {p : Packet} (hp : ∀ f ∈ fs, Plain (p f)) (hne : fs ≠ []) :
    fieldsOf (record (tsharkCmd fs interface display_filter count_limit) p) = fs.map p := by
  obtain ⟨hf, hs⟩ := tsharkCmd_layout fs interface display_filter count_limit
  have hbody : ∀ c ∈ ['|'].intercalate (fs.map fun f => (p f).data), isSpace c = false :=
    forall_mem_intercalate (by decide) (by
      intro l hl c hc
      obtain ⟨f, hf, rfl⟩ := List.mem_map.mp hl
      exact (hp f hf c hc).2)
  have hsplit : split ⟨['|'].intercalate ((fs.map p).map String.data)⟩ '|' = fs.map p :=
    split_intercalate (by
      intro v hv hm
      obtain ⟨f, hf, rfl⟩ := List.mem_map.mp hv
      exact (hp f hf '|' hm).1 rfl)
    (by simpa using hne)
  rw [fieldsOf, record, hf, hs, strip_append hbody (by decide)]
  simpa [List.map_map, Function.comp_def] using hsplit

/-- The logical values the spec resolves from a packet's simple-mode fields. -/
def resolvedSimple (p : Packet) : Option SimpleTuple :=
  let src := resolve (p "ip.src") (p "ipv6.src")
  let dst := resolve (p "ip.dst") (p "ipv6.dst")
  if src ≠ "" ∧ dst ≠ "" then
    some ⟨src, dst, mapProtocol (resolve (p "ip.proto") (p "ipv6.nxt"))⟩
  else none

/-- The logical values the spec resolves from a packet's 5-tuple-mode fields. -/
def resolved5tuple (p : Packet) : Option FiveTuple :=
  let src := resolve (p "ip.src") (p "ipv6.src")
  let dst := resolve (p "ip.dst") (p "ipv6.dst")
  if src ≠ "" ∧ dst ≠ "" then
    some ⟨src, resolve (p "tcp.srcport") (p "udp.srcport"), dst,
      resolve (p "tcp.dstport") (p "udp.dstport"),
      mapProtocol (resolve (p "ip.proto") (p "ipv6.nxt"))⟩
  else none

/-- Each loop body undoes the capture engine's encoding of a packet under the monitor's own
command: the record of any packet whose field values hold no separator and no whitespace
decodes to the packet's resolved values. -/
theorem decode_record (src_ip interface : String) (count_limit : Option Int) (p : Packet) :
    ((∀ f ∈ simpleFields, Plain (p f)) →
      decodeSimpleLine
          (record (tsharkCmd simpleFields interface ("ip.src == " ++ src_ip) count_limit) p) =
        .ok (resolvedSimple p)) ∧
    ((∀ f ∈ fiveTupleFields, Plain (p f)) →
      decode5tupleLine
          (record (tsharkCmd fiveTupleFields interface ("ip.src == " ++ src_ip) count_limit) p) =
        .ok (resolved5tuple p)) := by
  refine ⟨fun hp => ?_, fun hp => ?_⟩
  · rw [decodeSimpleLine_eq, fieldsOf_record hp (by simp [simpleFields])]
    simp [simpleFields, simpleOf, resolvedSimple, protoField]
  · rw [decode5tupleLine_eq, fieldsOf_record hp (by simp [fiveTupleFields])]
    simp [fiveTupleFields, fiveTupleOf, resolved5tuple, protoField]

/-- The packet of spec scenario A: an IPv4 TCP packet with no ports dissected. -/
def scenarioPacket : Packet := fun f =>
  if f = "ip.src" then "10.0.0.1" else if f = "ip.dst" then "10.0.0.2"
  else if f = "ip.proto" then "6" else ""

theorem decode_record_scenario :
    (∀ f ∈ simpleFields, Plain (scenarioPacket f)) ∧
      (∀ f ∈ fiveTupleFields, Plain (scenarioPacket f)) ∧
      decodeSimpleLine (record (tsharkCmd simpleFields "val0000000001" ("ip.src == " ++ "10.0.0.1")
        none) scenarioPacket) = .ok (resolvedSimple scenarioPacket) ∧
      decode5tupleLine (record (tsharkCmd fiveTupleFields "val0000000001"
        ("ip.src == " ++ "10.0.0.1") none) scenarioPacket) = .ok (resolved5tuple scenarioPacket) :=
  have h1 : ∀ f ∈ simpleFields, Plain (scenarioPacket f) := by decide
  have h2 : ∀ f ∈ fiveTupleFields, Plain (scenarioPacket f) := by decide
  ⟨h1, h2, (decode_record "10.0.0.1" "val0000000001" none scenarioPacket).1 h1,
    (decode_record "10.0.0.1" "val0000000001" none scenarioPacket).2 h2⟩

end UeMonitor.Proofs.Decode
