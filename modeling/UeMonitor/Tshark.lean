import UeMonitor.Python.Text

namespace UeMonitor.Tshark

/-- The options of tshark that take an argument; the others (`-n`) are flags. -/
def argOptions : List String := ["-i", "-Y", "-T", "-e", "-E", "-c", "-a", "-f", "-w", "-r"]

/-- tshark's reading of its arguments: each option that takes an argument, paired with the
word after it. -/
def options : List String → List (String × String)
  | o :: a :: rest => if o ∈ argOptions then (o, a) :: options rest else options (a :: rest)
  | _ => []

/-- The fields of `-T fields` output, in the order of their `-e` options. -/
def fields (cmd : List String) : List String :=
  (options cmd.tail).filterMap fun (o, a) => if o = "-e" then some a else none

/-- The separator set by the last `-E separator=c`; a tab when there is none. -/
def separator (cmd : List String) : Char :=
  ((options cmd.tail).filterMap fun (o, a) =>
    if o = "-E" ∧ "separator=".data.isPrefixOf a.data then (a.data.drop 10).head? else none
    ).getLast?.getD '\t'

/-- A packet as tshark's dissectors show it: the first occurrence of each field
(`-E occurrence=f`), or `""` where the packet has none. -/
def Packet := String → String

/-- The line `-T fields` writes for one packet: its fields joined by the separator, then a
newline. -/
def record (cmd : List String) (p : Packet) : String :=
  ⟨[separator cmd].intercalate ((fields cmd).map fun f => (p f).data) ++ ['\n']⟩

end UeMonitor.Tshark
