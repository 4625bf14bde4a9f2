import Discoblocks.Basic

/-!
# Exposition-format lines

`ParsePrometheusMetric` and `ParsePrometheusMetricValue` are not in the source; both are
modelled from the spec. A line is a metric name, optional labels in braces, a blank, a value and
an optional timestamp; a comment or any other malformed line is a parse error. A value is the
exposition format's `NaN`, `+Inf` or `-Inf`, or a decimal number, read as `strconv.ParseFloat`
reads it: rounded to the nearest `float64`.
-/

namespace Discoblocks.Metrics

def isNameStart (c : Char) : Bool := c.isAlpha || c = '_' || c = ':'
def isNameChar (c : Char) : Bool := c.isAlphanum || c = '_' || c = ':'
def isLabelStart (c : Char) : Bool := c.isAlpha || c = '_'
def isLabelChar (c : Char) : Bool := c.isAlphanum || c = '_'

/-- A name: a first character, then the longest run of name characters. -/
def name (first rest : Char → Bool) : List Char → Option (List Char × List Char)
  | c :: cs => if first c then some (c :: cs.takeWhile rest, cs.dropWhile rest) else none
  | [] => none

def unescape : Char → Option Char
  | '\\' => some '\\'
  | '"' => some '"'
  | 'n' => some '\n'
  | _ => none

/-- A label value after its opening quote, up to the closing quote. -/
def quoted : List Char → Option (List Char × List Char)
  | [] => none
  | '"' :: r => some ([], r)
  | '\\' :: c :: r => do
    let e ← unescape c
    let (v, r) ← quoted r
    some (e :: v, r)
  | c :: r => do
    let (v, r) ← quoted r
    some (c :: v, r)

/-- The labels after `{`, up to `}`; a trailing comma is allowed. -/
def labels : Nat → List Char → Option (List LabelPair × List Char)
  | _, '}' :: r => some ([], r)
  | 0, _ => none
  | fuel + 1, cs => do
    let (n, r) ← name isLabelStart isLabelChar cs
    let '=' :: '"' :: r := r | none
    let (v, r) ← quoted r
    match r with
    | ',' :: r => do
      let (ls, r) ← labels fuel r
      some (⟨String.mk n, String.mk v⟩ :: ls, r)
    | '}' :: r => some ([⟨String.mk n, String.mk v⟩], r)
    | _ => none

/-- The natural number written by the decimal digits `ds`. -/
def digitsValue (ds : List Char) : Nat :=
  ds.foldl (fun n d => 10 * n + (d.toNat - '0'.toNat)) 0

def sign : List Char → Int × List Char
  | '-' :: r => (-1, r)
  | '+' :: r => (1, r)
  | r => (1, r)

/-- A decimal number `mantissa * 10 ^ exponent`, as the text writes it. -/
structure Decimal where
  mantissa : Int
  exponent : Int
  deriving DecidableEq, Repr

/-- The `float64` nearest `mantissa * 10 ^ exponent`. -/
def Decimal.toF64 (d : Decimal) : F64 :=
  if 0 ≤ d.exponent then
    F64.roundFraction (d.mantissa < 0) (d.mantissa.natAbs * 10 ^ d.exponent.toNat) 1 0
  else F64.roundFraction (d.mantissa < 0) d.mantissa.natAbs (10 ^ (-d.exponent).toNat) 0

/-- A decimal floating-point number: a sign, digits with an optional fraction, and an optional
exponent. -/
def decimal (cs : List Char) : Option Decimal :=
  let (s, r) := sign cs
  let i := r.takeWhile Char.isDigit
  let (f, r) := match r.dropWhile Char.isDigit with
    | '.' :: r => (r.takeWhile Char.isDigit, r.dropWhile Char.isDigit)
    | r => ([], r)
  if i ++ f = [] then none else
  let mantissa := s * digitsValue (i ++ f)
  match r with
  | [] => some ⟨mantissa, -f.length⟩
  | e :: r =>
    if e = 'e' ∨ e = 'E' then
      let (es, ds) := sign r
      if ds ≠ [] ∧ ds.all Char.isDigit then some ⟨mantissa, es * digitsValue ds - f.length⟩
      else none
    else none

/-- A sample value: `NaN`, an infinity, or a decimal number. -/
def value : List Char → Option F64
  | ['N', 'a', 'N'] => some .nan
  | ['+', 'I', 'n', 'f'] => some (.inf false)
  | ['-', 'I', 'n', 'f'] => some (.inf true)
  | cs => (decimal cs).map Decimal.toF64

/-- One parsed line. -/
structure Sample where
  name : String
  labels : List LabelPair
  value : F64
  deriving DecidableEq

def parseLine (line : List Char) : Option Sample := do
  let (n, r) ← name isNameStart isNameChar line
  let (ls, r) ← match r with
    | '{' :: r => labels r.length r
    | r => some ([], r)
  let ' ' :: r := r | none
  let r := r.dropWhile (· = ' ')
  let value ← value (r.takeWhile (· ≠ ' '))
  let timestamp := (r.dropWhile (· ≠ ' ')).dropWhile (· = ' ')
  if timestamp.all fun c => c.isDigit || c = '-' then some ⟨String.mk n, ls, value⟩ else none

/-- Modelled from the spec: `ParsePrometheusMetric`, the metric family of one line. -/
def parsePrometheusMetric (line : String) : Except String MetricFamilies :=
  match parseLine line.toList with
  | some s => .ok (AList.singleton s.name ⟨[⟨s.labels⟩]⟩)
  | none => .error "text format parsing error"

/-- Modelled from the spec: `ParsePrometheusMetricValue`, the value of one line. -/
def parsePrometheusMetricValue (line : String) : Except String F64 :=
  match parseLine line.toList with
  | some s => .ok s.value
  | none => .error "invalid metric"

example : parseLine "node_filesystem_avail_bytes\x7bmountpoint=\"/data\"\x7d 1073741824".toList =
    some ⟨"node_filesystem_avail_bytes", [⟨"mountpoint", "/data"⟩], .finite false (2 ^ 52) (-22)⟩ := by
  decide

/-! ## Quantities and the helpers -/

/-- The suffixes of a quantity and their multipliers. -/
def quantitySuffixes : List (String × Nat) :=
  [("", 1), ("Ki", 2 ^ 10), ("Mi", 2 ^ 20), ("Gi", 2 ^ 30), ("Ti", 2 ^ 40), ("Pi", 2 ^ 50),
    ("Ei", 2 ^ 60), ("k", 10 ^ 3), ("M", 10 ^ 6), ("G", 10 ^ 9), ("T", 10 ^ 12),
    ("P", 10 ^ 15), ("E", 10 ^ 18)]

/-- The bytes a whole-number quantity with a suffix stands for. -/
def quantityBytes (s : String) : Option Nat :=
  let ds := s.toList.takeWhile Char.isDigit
  if ds = [] then none
  else (quantitySuffixes.lookup (String.mk (s.toList.dropWhile Char.isDigit))).map
    (digitsValue ds * ·)

/-- `resource.ParseQuantity` on whole numbers with a suffix. The library's other forms
(fractions, exponents, the milli suffix) are not modelled and give `none`. -/
def parseQuantity (s : String) : Option ℚ := (quantityBytes s).map Nat.cast

example : quantityBytes "10Gi" = some (10 * 2 ^ 30) := by decide

end Discoblocks.Metrics

namespace Discoblocks

/-- Modelled from the spec: `RenderFinalizer`, `RenderResourceName` and `RenderMountPoint` are
not in the source. A claim's finalizer names its configuration, under the API group of
`DiskConfig`; a resource name is derived deterministically from its parts, here by joining them
with dashes. The spec calls the mount point at index 0 the configuration's mount-point pattern
(one volume per configuration, in the current scope), the same path for the configuration and
for its claims; index `i > 0` numbers further volumes after the pattern. The stub is the one of
the EBS driver's `GetPVCStub`: a claim with the given name, namespace and storage class.
`AsApproximateFloat64` multiplies the quantity's integer by a power of ten; on the whole-number
quantities `parseQuantity` reads that is the nearest `float64`. -/
def Helpers.spec : Helpers where
  renderFinalizer name := "discoblocks.ondat.io/" ++ name
  renderResourceName _ parts := .ok (String.intercalate "-" parts)
  renderMountPoint pattern _ index :=
    if index = 0 then pattern else pattern ++ "-" ++ toString index
  parsePrometheusMetric := Metrics.parsePrometheusMetric
  parsePrometheusMetricValue := Metrics.parsePrometheusMetricValue
  getPVCStub name ns storageClassName := .ok
    { ns, name, labels := ∅, finalizers := [], deleting := false, storageClassName,
      accessModes := [], request := 0, phase := "", capacity := 0 }
  parseQuantity := Metrics.parseQuantity
  asApproximateFloat64 := F64.round

end Discoblocks
