import UeMonitor.Python.Run

namespace UeMonitor.PacketMonitor
open Python

def formatSimpleLine (src_ip dst_ip protocol : String) (count : Nat) : String :=
  rjust (toString count) 6 ++ "  " ++ ljust src_ip 15 ++ " ---> " ++ ljust dst_ip 15 ++
    "  [" ++ protocol ++ "]"

def format5tupleLine (src_ip src_port dst_ip dst_port protocol : String) (count : Nat) :
    String :=
  let src_part := if src_port ≠ "" then src_ip ++ ":" ++ src_port else src_ip
  let dst_part := if dst_port ≠ "" then dst_ip ++ ":" ++ dst_port else dst_ip
  rjust (toString count) 6 ++ "  " ++ ljust src_part 22 ++ " ---> " ++ ljust dst_part 22 ++
    "  [" ++ protocol ++ "]"

def protocolMap : List (String × String) :=
  [("1", "ICMP"), ("6", "TCP"), ("17", "UDP"), ("58", "ICMPv6")]

def mapProtocol (proto_num : String) : String :=
  (protocolMap.lookup proto_num).getD (if proto_num ≠ "" then proto_num else "IP")

/-- The `tshark_cmd` a monitor builds around its list of `-e` fields. -/
def tsharkCmd (fields : List String) (interface display_filter : String)
    (count_limit : Option Int) : List String :=
  ["tshark", "-i", interface, "-Y", display_filter, "-n", "-T", "fields"] ++
    fields.flatMap (fun f => ["-e", f]) ++ ["-E", "separator=|", "-E", "occurrence=f"] ++
    match count_limit with
    | some c => if c ≠ 0 then ["-c", toString c] else []
    | none => []

def simpleFields : List String :=
  ["ip.src", "ipv6.src", "ip.dst", "ipv6.dst", "ip.proto", "ipv6.nxt"]

def fiveTupleFields : List String :=
  ["ip.src", "ipv6.src", "tcp.srcport", "udp.srcport", "ip.dst", "ipv6.dst", "tcp.dstport",
    "udp.dstport", "ip.proto", "ipv6.nxt"]

/-- `parts[i]`. -/
def getItem (parts : List String) (i : Nat) : Except PyExc String :=
  match parts[i]? with
  | some p => .ok p
  | none => .error .indexError

/-- `parts[i] if parts[i] else parts[j]`. -/
def orElse (parts : List String) (i j : Nat) : Except PyExc String := do
  let a ← getItem parts i
  if a ≠ "" then pure a else getItem parts j

/-- `parts[i] if len(parts) > i and parts[i] else (parts[i+1] if len(parts) > i+1 else '')`,
the `proto_num` of both loops. -/
def protoNum (parts : List String) (i : Nat) : Except PyExc String :=
  let fallback := if parts.length > i + 1 then getItem parts (i + 1) else pure ""
  if parts.length > i then do
    let a ← getItem parts i
    if a ≠ "" then pure a else fallback
  else fallback

structure SimpleTuple where
  src : String
  dst : String
  protocol : String
  deriving DecidableEq, Repr

structure FiveTuple where
  src : String
  srcPort : String
  dst : String
  dstPort : String
  protocol : String
  deriving DecidableEq, Repr

/-- The body of `run_simple_monitor`'s read loop up to its `print`: the tuple it prints for
a raw line, or `none` where it `continue`s or `if src and dst` fails. -/
def decodeSimpleLine (raw : String) : Except PyExc (Option SimpleTuple) :=
  let line := strip raw
  if line = "" then pure none else
  let parts := split line '|'
  if parts.length < 4 then pure none else do
  let src ← orElse parts 0 1
  let dst ← orElse parts 2 3
  let proto_num ← protoNum parts 4
  let protocol := mapProtocol proto_num
  if src ≠ "" ∧ dst ≠ "" then pure (some ⟨src, dst, protocol⟩) else pure none

/-- The same for `run_5tuple_monitor`, whose records carry the two ports before the
destination. -/
def decode5tupleLine (raw : String) : Except PyExc (Option FiveTuple) :=
  let line := strip raw
  if line = "" then pure none else
  let parts := split line '|'
  if parts.length < 8 then pure none else do
  let src ← orElse parts 0 1
  let src_port ← orElse parts 2 3
  let dst ← orElse parts 4 5
  let dst_port ← orElse parts 6 7
  let proto_num ← protoNum parts 8
  let protocol := mapProtocol proto_num
  if src ≠ "" ∧ dst ≠ "" then pure (some ⟨src, src_port, dst, dst_port, protocol⟩)
  else pure none

example : formatSimpleLine "10.0.0.1" "10.0.0.2" "TCP" 1 =
    "     1  10.0.0.1        ---> 10.0.0.2         [TCP]" := by decide

end UeMonitor.PacketMonitor
