import Mathlib.Data.List.Sort
import Mathlib.Data.String.Basic

namespace UeMonitor.Python

/-- `str.isspace` of one character: what `strip()` removes and what `\s` matches in a
`str` pattern. -/
def isSpace (c : Char) : Bool :=
  let n := c.toNat
  (9 ≤ n && n ≤ 13) || (28 ≤ n && n ≤ 32) || n == 0x85 || n == 0xA0 || n == 0x1680 ||
    (0x2000 ≤ n && n ≤ 0x200A) || n == 0x2028 || n == 0x2029 || n == 0x202F ||
    n == 0x205F || n == 0x3000

def strip (s : String) : String :=
  ⟨((s.data.dropWhile isSpace).reverse.dropWhile isSpace).reverse⟩

/-- `s.split(sep)` for the one-character separators the scripts use. -/
def split (s : String) (sep : Char) : List String :=
  (s.data.splitOn sep).map String.mk

/-- `s.lower()`. Only ASCII letters are folded: every text the scripts look for in a
lowered string is ASCII, and no other character lowers to an ASCII letter of it. -/
def lower (s : String) : String := ⟨s.data.map Char.toLower⟩

/-- `needle in s`. -/
def contains (s needle : String) : Bool :=
  s.data.tails.any (needle.data.isPrefixOf ·)

/-- `c * n` for a one-character string `c`. -/
def repeatChar (c : Char) (n : Nat) : String := ⟨List.replicate n c⟩

/-- The format spec `:<w`. -/
def ljust (s : String) (w : Nat) : String := s ++ repeatChar ' ' (w - s.length)

/-- The format spec `:>w`. -/
def rjust (s : String) (w : Nat) : String := repeatChar ' ' (w - s.length) ++ s

/-- `sorted(os.path.basename(p) for p in glob.glob(d + '/' + pfx + '*'))` over the names of
the directory `d`. -/
def globSorted (names : List String) (pfx : String) : List String :=
  (names.filter fun n => pfx.data.isPrefixOf n.data).insertionSort (fun a b => a ≤ b)

/-- The code point of the digit zero of each run of ten decimal digits: the characters of
Unicode category Nd in Unicode 14.0.0, the database of Python 3.11. They are what `int()`
reads as digits and what `\d` matches in a `str` pattern. -/
def decimalZeros : List Nat :=
  [0x30, 0x660, 0x6F0, 0x7C0, 0x966, 0x9E6, 0xA66, 0xAE6, 0xB66, 0xBE6, 0xC66, 0xCE6, 0xD66,
    0xDE6, 0xE50, 0xED0, 0xF20, 0x1040, 0x1090, 0x17E0, 0x1810, 0x1946, 0x19D0, 0x1A80, 0x1A90,
    0x1B50, 0x1BB0, 0x1C40, 0x1C50, 0xA620, 0xA8D0, 0xA900, 0xA9D0, 0xA9F0, 0xAA50, 0xABF0,
    0xFF10, 0x104A0, 0x10D30, 0x11066, 0x110F0, 0x11136, 0x111D0, 0x112F0, 0x11450, 0x114D0,
    0x11650, 0x116C0, 0x11730, 0x118E0, 0x11950, 0x11C50, 0x11D50, 0x11DA0, 0x16A60, 0x16AC0,
    0x16B50, 0x1D7CE, 0x1D7D8, 0x1D7E2, 0x1D7EC, 0x1D7F6, 0x1E140, 0x1E2F0, 0x1E950, 0x1FBF0]

/-- `unicodedata.decimal(c)`: the value of a decimal digit of any script. -/
def decimalValue (c : Char) : Option Nat :=
  (decimalZeros.find? fun z => z ≤ c.toNat && c.toNat < z + 10).map (c.toNat - ·)

/-- `c.isdecimal()`, and what `\d` matches. -/
def isDecimal (c : Char) : Bool := (decimalValue c).isSome

/-- `sys.get_int_max_str_digits()`: the most digits `int()` converts from a string. -/
def maxStrDigits : Nat := 4300

/-- The digits of `int(s)`: decimal digits, with single underscores between them. -/
def intBody (l : List Char) : Bool :=
  l.all (fun c => isDecimal c || c == '_') && (l.head?.map isDecimal).getD false &&
    (l.getLast?.map isDecimal).getD false && !(l.zip l.tail).any (fun p => p.1 == '_' && p.2 == '_')

/-- `int(s)` of a text both callers have stripped, `none` where it raises `ValueError`: a
malformed body, or more digits than `maxStrDigits`. -/
def pyInt (s : String) : Option Int :=
  let (neg, body) : Bool × List Char := match s.data with
    | '-' :: r => (true, r)
    | '+' :: r => (false, r)
    | r => (false, r)
  if intBody body && (body.filter isDecimal).length ≤ maxStrDigits then
    let n : Nat := (body.filterMap decimalValue).foldl (fun acc d => 10 * acc + d) 0
    some (if neg then -(n : Int) else n)
  else none

theorem dropWhile_of_none {p : Char → Bool} {l : List Char} (h : ∀ c ∈ l, p c = false) :
    l.dropWhile p = l := by
  cases l with
  | nil => rfl
  | cons c cs => simp [List.dropWhile, h c (List.mem_cons_self c cs)]

/-- Stripping a line whose body has no whitespace leaves exactly the body, whatever run of
whitespace (a line terminator) follows it. -/
theorem strip_append {l w : List Char} (hl : ∀ c ∈ l, isSpace c = false)
    (hw : ∀ c ∈ w, isSpace c = true) : strip ⟨l ++ w⟩ = ⟨l⟩ := by
  have hw' : w.dropWhile isSpace = [] := List.dropWhile_eq_nil_iff.mpr hw
  have hr : ∀ c ∈ l.reverse, isSpace c = false := fun c hc => hl c (List.mem_reverse.mp hc)
  cases l with
  | nil => simp [strip, hw']
  | cons c cs =>
    have hfront : (c :: cs ++ w).dropWhile isSpace = c :: cs ++ w := by
      simp [List.dropWhile, hl c (List.mem_cons_self c cs)]
    have hback : (w.reverse ++ (c :: cs).reverse).dropWhile isSpace = (c :: cs).reverse := by
      rw [List.dropWhile_append, List.dropWhile_eq_nil_iff.mpr (by simpa using hw)]
      simpa using dropWhile_of_none hr
    simp only [strip, hfront, List.reverse_append, hback, List.reverse_reverse]

/-- `'|'.join(values).split('|')` gives the values back when none holds the separator. -/
theorem split_intercalate {sep : Char} {vs : List String} (hv : ∀ v ∈ vs, sep ∉ v.data)
    (hne : vs ≠ []) : split ⟨[sep].intercalate (vs.map String.data)⟩ sep = vs := by
  have h := List.splitOn_intercalate (vs.map String.data) sep
    (by simpa using hv) (by simpa using hne)
  simp only [split, h, List.map_map]
  conv_rhs => rw [← List.map_id vs]
  rfl

end UeMonitor.Python
