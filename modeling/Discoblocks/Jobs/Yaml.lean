import Mathlib.Data.List.Basic

/-!
# Reading a job manifest: the scalars of go-yaml

`yaml.Unmarshal` (of `sigs.k8s.io/yaml`, which runs go-yaml's scanner) reads the host jobs'
manifests. Modelled from the YAML scanner (`yaml_parser_scan_flow_scalar`,
`yaml_parser_scan_block_scalar`): the two styles of scalar a parameter of a manifest is written
in, a double-quoted scalar and a literal block scalar with clip chomping and no indentation
indicator, whose indentation is that of its first non-empty line.

A manifest template is fixed text with a scalar at each `%s`. `Template.read` reads a text of the
template's shape: it checks the fixed text around each scalar and scans the scalar in its style,
so it reads back the parameters exactly when each scalar ends where the template ends it. The
rest of the YAML grammar (block mappings and sequences, plain scalars) is the template's fixed
text and is not modelled. Text is a list of characters.
-/

namespace Discoblocks.Jobs

/-- A character the YAML reader accepts in a stream; any other is a reader error. -/
def yamlPrintable (c : Char) : Bool :=
  c = '\t' || c = '\n' || c = '\r' || (0x20 ≤ c.val && c.val ≤ 0x7E) || c.val = 0x85 ||
    (0xA0 ≤ c.val && c.val ≤ 0xD7FF) || (0xE000 ≤ c.val && c.val ≤ 0xFFFD) || 0x10000 ≤ c.val

/-- A line break of the YAML scanner (`is_break`): LF, CR, NEL, LS, PS. -/
def isBreak (c : Char) : Bool :=
  c = '\n' || c = '\r' || c.val = 0x85 || c.val = 0x2028 || c.val = 0x2029

/-- A character that stands for itself in a double-quoted scalar. -/
def quotable (c : Char) : Bool :=
  yamlPrintable c && !isBreak c && c ≠ '"' && c ≠ '\\'

/-- A character that stands for itself in a literal block scalar; `\n` ends a line. -/
def literalChar (c : Char) : Bool :=
  c = '\n' || (yamlPrintable c && !isBreak c)

/-! ## Double-quoted scalars -/

/-- A double-quoted scalar after its opening quote: its value, and the text from its closing quote
on. Escapes and the folding of line breaks inside the quotes are not modelled (they are an error
here). -/
def scanDoubleQuoted : List Char → Except String (List Char × List Char)
  | [] => .error "found unexpected end of stream"
  | c :: s =>
    if c = '"' then .ok ([], c :: s)
    else if !yamlPrintable c then .error "control characters are not allowed"
    else if c = '\\' || isBreak c then .error "escapes and line folding are not modelled"
    else (scanDoubleQuoted s).map fun r => (c :: r.1, r.2)

/-- A value of quotable characters is read back, up to the closing quote. -/
theorem scanDoubleQuoted_quotable {v : List Char} (hv : ∀ c ∈ v, quotable c = true)
    (rest : List Char) : scanDoubleQuoted (v ++ '"' :: rest) = .ok (v, '"' :: rest) := by
  induction v with
  | nil => simp [scanDoubleQuoted]
  | cons c v ih =>
    have hc := hv c (List.mem_cons_self _ _)
    simp only [quotable, Bool.and_eq_true, Bool.not_eq_true', decide_eq_true_eq] at hc
    obtain ⟨⟨⟨hp, hb⟩, hq⟩, hs⟩ := hc
    simp [scanDoubleQuoted, hp, hb, hq, hs, ih fun c hc => hv c (List.mem_cons_of_mem _ hc),
      Except.map]

/-! ## Literal block scalars -/

/-- The state of the scanner in a literal block scalar: the indentation (`0` until it is
detected), the column, the widest indentation of the leading empty lines, whether a content line
is being read, the value so far, the break that ended the last content line, the breaks of the
empty lines after it, and the text read since the last content line ended. -/
structure LiteralState where
  indent : Nat
  col : Nat
  maxIndent : Nat
  inLine : Bool
  value : List Char
  leadingBreak : List Char
  trailingBreaks : List Char
  pending : List Char

/-- The scanner stands in the indentation of its line: the indentation is not detected yet, or
the column is left of it. -/
def LiteralState.inIndent (st : LiteralState) : Bool := st.indent = 0 || st.col < st.indent

/-- The indentation of the scalar once a non-empty line is met at the state's column: the
detected one, or else the widest of the lines so far and at least `parent + 1`. -/
def LiteralState.detect (st : LiteralState) (parent : Nat) : Nat :=
  if st.indent = 0 then max (max st.maxIndent st.col) (parent + 1) else st.indent

/-- `yaml_parser_scan_block_scalar` for a literal scalar in a block indented by `parent`: the value
(the content lines, the breaks between them, and the break after the last one: clip chomping) and
the text from the end of the last content line on. Until the first non-empty line the indentation
spaces are all eaten, and the indentation is the widest of those lines, at least `parent + 1`;
after it a line indented less ends the scalar. Line breaks other than `\n` are not modelled. -/
def scanLiteralFrom (parent : Nat) : LiteralState → List Char → Except String (List Char × List Char)
  | st, [] => .ok (st.value ++ st.leadingBreak, st.pending)
  | st, c :: s =>
    if !yamlPrintable c then .error "control characters are not allowed"
    else if c ≠ '\n' && isBreak c then .error "line breaks other than LF are not modelled"
    else if st.inLine then
      if c = '\n' then
        scanLiteralFrom parent
          { st with inLine := false, col := 0, leadingBreak := ['\n'], pending := ['\n'] } s
      else scanLiteralFrom parent { st with value := st.value ++ [c] } s
    else if c = ' ' && st.inIndent then
      scanLiteralFrom parent { st with col := st.col + 1, pending := st.pending ++ [c] } s
    else if c = '\t' && st.inIndent then
      .error "found a tab character where an indentation space is expected"
    else if c = '\n' then
      scanLiteralFrom parent { st with
        col := 0
        maxIndent := max st.maxIndent st.col
        trailingBreaks := st.trailingBreaks ++ [c]
        pending := st.pending ++ [c] } s
    else if st.col = st.detect parent then
      scanLiteralFrom parent { st with
        indent := st.detect parent
        inLine := true
        value := st.value ++ st.leadingBreak ++ st.trailingBreaks ++ [c]
        leadingBreak := []
        trailingBreaks := []
        pending := [] } s
    else .ok (st.value ++ st.leadingBreak, st.pending ++ c :: s)

/-- The literal block scalar after its `|` line, the scanner standing at column `col` of its first
line (the indentation the template puts before the `%s`). -/
def scanLiteral (parent col : Nat) (s : List Char) : Except String (List Char × List Char) :=
  scanLiteralFrom parent ⟨0, col, 0, false, [], [], [], []⟩ s

section Steps

variable {parent : Nat} {st : LiteralState} {c : Char} {s : List Char}

/-- A character of a content line is kept. -/
theorem scanLiteralFrom_line_char (hl : st.inLine = true) (hc : literalChar c = true)
    (hn : c ≠ '\n') :
    scanLiteralFrom parent st (c :: s) = scanLiteralFrom parent { st with value := st.value ++ [c] } s := by
  simp only [literalChar, hn, decide_False, Bool.false_or, Bool.and_eq_true,
    Bool.not_eq_true'] at hc
  simp [scanLiteralFrom, hl, hn, hc.1, hc.2]

/-- The break that ends a content line. -/
theorem scanLiteralFrom_line_break (hl : st.inLine = true) :
    scanLiteralFrom parent st ('\n' :: s) = scanLiteralFrom parent
      { st with inLine := false, col := 0, leadingBreak := ['\n'], pending := ['\n'] } s := by
  simp [scanLiteralFrom, hl, yamlPrintable]

/-- Indentation spaces are eaten up to the indentation, or all of them until it is detected. -/
theorem scanLiteralFrom_spaces (hl : st.inLine = false) (k : Nat)
    (hk : st.indent = 0 ∨ st.col + k ≤ st.indent) :
    scanLiteralFrom parent st (List.replicate k ' ' ++ s) = scanLiteralFrom parent
      { st with col := st.col + k, pending := st.pending ++ List.replicate k ' ' } s := by
  induction k generalizing st with
  | zero => simp only [List.replicate_zero, List.nil_append, Nat.add_zero, List.append_nil]
  | succ k ih =>
    have hi : st.inIndent = true := by
      simp only [LiteralState.inIndent, Bool.or_eq_true, decide_eq_true_eq]; omega
    have hstep : scanLiteralFrom parent st (' ' :: (List.replicate k ' ' ++ s)) =
        scanLiteralFrom parent { st with col := st.col + 1, pending := st.pending ++ [' '] }
          (List.replicate k ' ' ++ s) := by
      simp [scanLiteralFrom, hl, hi, yamlPrintable, isBreak]
    rw [List.replicate_succ, List.cons_append, hstep,
      @ih { st with col := st.col + 1, pending := st.pending ++ [' '] } hl (by dsimp only; omega)]
    simp only [List.append_assoc, List.singleton_append, Nat.add_right_comm _ 1 k]
    rfl

/-- An empty line: its break joins the trailing breaks. -/
theorem scanLiteralFrom_break (hl : st.inLine = false) :
    scanLiteralFrom parent st ('\n' :: s) = scanLiteralFrom parent { st with
      col := 0
      maxIndent := max st.maxIndent st.col
      trailingBreaks := st.trailingBreaks ++ ['\n']
      pending := st.pending ++ ['\n'] } s := by
  simp [scanLiteralFrom, hl, yamlPrintable]

/-- A non-empty line at the indentation starts a content line; the breaks before it join the
value. -/
theorem scanLiteralFrom_content (hl : st.inLine = false) (hc : literalChar c = true)
    (hn : c ≠ '\n') (hi : st.inIndent = false ∨ c ≠ ' ' ∧ c ≠ '\t')
    (hcol : st.col = st.detect parent) :
    scanLiteralFrom parent st (c :: s) = scanLiteralFrom parent { st with
      indent := st.detect parent
      inLine := true
      value := st.value ++ st.leadingBreak ++ st.trailingBreaks ++ [c]
      leadingBreak := []
      trailingBreaks := []
      pending := [] } s := by
  simp only [literalChar, hn, decide_False, Bool.false_or, Bool.and_eq_true,
    Bool.not_eq_true'] at hc
  rcases hi with hi | ⟨hs, ht⟩ <;> simp [scanLiteralFrom, hl, hn, hc.1, hc.2, hcol, *]

/-- A non-empty line left of the indentation ends the scalar, before the break of the last content
line. -/
theorem scanLiteralFrom_end (hl : st.inLine = false) (hc : literalChar c = true) (hn : c ≠ '\n')
    (hs : c ≠ ' ') (ht : c ≠ '\t') (hcol : st.col ≠ st.detect parent) :
    scanLiteralFrom parent st (c :: s) = .ok (st.value ++ st.leadingBreak, st.pending ++ c :: s) := by
  simp only [literalChar, hn, decide_False, Bool.false_or, Bool.and_eq_true,
    Bool.not_eq_true'] at hc
  simp [scanLiteralFrom, hl, hn, hc.1, hc.2, hcol, hs, ht]

end Steps

/-! ## Templates -/

/-- The style of the scalar a `%s` of a manifest template fills. -/
inductive Style where
  /-- `"%s"`. -/
  | doubleQuoted
  /-- A `%s` at column `col` on the line after `- |`, in a block indented by `parent`. -/
  | literal (parent col : Nat)

/-- The scanner of a style, from the start of the scalar's text. -/
def Style.scan : Style → List Char → Except String (List Char × List Char)
  | .doubleQuoted => scanDoubleQuoted
  | .literal parent col => scanLiteral parent col

/-- The text after the fixed text `fixed`, which the text must start with. -/
def expect (fixed text : List Char) : Except String (List Char) :=
  if fixed.isPrefixOf text then .ok (text.drop fixed.length)
  else .error "did not find the fixed text of the manifest"

/-- A manifest template: the text before its first `%s`, then for each `%s` the style of its
scalar and the text up to the next `%s` (or the end). -/
structure Template where
  head : List Char
  holes : List (Style × List Char)

/-- The scalars of a text of the template's shape, after its head. -/
def readHoles : List (Style × List Char) → List Char → Except String (List (List Char))
  | [], text => if text.isEmpty then .ok [] else .error "found text after the manifest"
  | (style, fixed) :: holes, text =>
    match style.scan text with
    | .error e => .error e
    | .ok (v, rest) =>
      match expect fixed rest with
      | .error e => .error e
      | .ok text => (readHoles holes text).map (v :: ·)

/-- The values of the scalars of a text of the template's shape. -/
def Template.read (t : Template) (text : List Char) : Except String (List (List Char)) :=
  match expect t.head text with
  | .error e => .error e
  | .ok text => readHoles t.holes text

end Discoblocks.Jobs
