import RecordSchema.Yaml.Gap

/-!
# Quoted and plain scalars

The texts of the scalars that may stand inside flow collections. Each function takes the input
where the content begins and answers the text and the rest of the input. Text is collected with its
last character first.
-/

namespace RecordSchema.Yaml

/-! ### Escapes -/

/-- The character of a code point, if there is one. -/
def charOfCode? (n : Nat) : Option Char :=
  if n.isValidChar then some (Char.ofNat n) else none

/-- The number that so many hexadecimal digits write. -/
def hexNumber? (digits : Nat) (i : Input) : Option Nat :=
  (List.range digits).foldl
    (fun n k => n.bind fun v => (hexValue? (i.peekAt k)).map (16 * v + ·)) (some 0)

/-- The character that an escape of so many hexadecimal digits stands for. -/
def hexEscape (digits : Nat) (i : Input) : Except SyntaxError (Char × Nat) :=
  match (hexNumber? digits i).bind charOfCode? with
  | some c => .ok (c, digits + 1)
  | none => .error .badEscape

/-- The character for the escape at the start of the input, which follows the backslash, and the
length of the escape. -/
def readEscape (i : Input) : Except SyntaxError (Char × Nat) :=
  match i.peek with
  | '0' => .ok ('\x00', 1)
  | 'a' => .ok ('\x07', 1)
  | 'b' => .ok ('\x08', 1)
  | 't' => .ok ('\t', 1)
  | '\t' => .ok ('\t', 1)
  | 'n' => .ok ('\n', 1)
  | 'v' => .ok ('\x0b', 1)
  | 'f' => .ok ('\x0c', 1)
  | 'r' => .ok ('\r', 1)
  | 'e' => .ok ('\x1b', 1)
  | ' ' => .ok (' ', 1)
  | '"' => .ok ('"', 1)
  | '/' => .ok ('/', 1)
  | '\\' => .ok ('\\', 1)
  | 'N' => .ok ('\u0085', 1)
  | '_' => .ok ('\u00a0', 1)
  | 'L' => .ok ('\u2028', 1)
  | 'P' => .ok ('\u2029', 1)
  | 'x' => hexEscape 2 (i.drop 1)
  | 'u' => hexEscape 4 (i.drop 1)
  | 'U' => hexEscape 8 (i.drop 1)
  | _ => .error .badEscape

/-! ### Quoted scalars -/

/-- Where content goes on after a line break, the line must not be a document marker and must be
indented like the block. -/
def checkContinuation (indent : Int) (gap : Gap) (i : Input) : Except SyntaxError Unit :=
  if gap.spansLines && i.atDocumentMarker then .error .unclosedQuote
  else if gap.spansLines && decide ((i.column : Int) < indent) then .error .wrongIndentation
  else .ok ()

/-- The text of a scalar in single quotes, up to and without the closing quote. -/
def readSingleQuoted (indent : Int) (text : List Char) (gap : Gap) :
    Input → Except SyntaxError (List Char × Input)
  | [] => .error .unclosedQuote
  | g :: rest =>
    if g.char = '\x00' then
      .error .unclosedQuote
    else if isBlank g.char then
      if g.char = '\t' ∧ gap.spansLines ∧ (g.mark.column : Int) < indent then
        .error .tabIndentation
      else
        readSingleQuoted indent text (gap.addBlank g.char) rest
    else if g.char = '\n' then
      readSingleQuoted indent text gap.addBreak rest
    else
      match checkContinuation indent gap (g :: rest) with
      | .error e => .error e
      | .ok () =>
        let text := gap.reversedText ++ text
        if g.char = '\'' then
          if Input.peek rest = '\'' then
            readSingleQuoted indent ('\'' :: text) .none (rest.drop 1)
          else
            .ok (text.reverse, rest)
        else
          readSingleQuoted indent (g.char :: text) .none rest
termination_by i => i.length
decreasing_by all_goals simp only [List.length_cons, List.length_drop]; omega

/-- The text of a scalar in double quotes, up to and without the closing quote. A quote that follows
an escaped line break closes the scalar wherever it stands. -/
def readDoubleQuoted (indent : Int) (text : List Char) (gap : Gap) :
    Input → Except SyntaxError (List Char × Input)
  | [] => .error .unclosedQuote
  | g :: rest =>
    if g.char = '\x00' then
      .error .unclosedQuote
    else if isBlank g.char then
      if g.char = '\t' ∧ gap.spansLines ∧ (g.mark.column : Int) < indent then
        .error .tabIndentation
      else
        readDoubleQuoted indent text (gap.addBlank g.char) rest
    else if g.char = '\n' then
      readDoubleQuoted indent text gap.addBreak rest
    else
      match checkContinuation indent gap (g :: rest) with
      | .error e => .error e
      | .ok () =>
        let text := gap.reversedText ++ text
        if g.char = '"' then
          .ok (text.reverse, rest)
        else if g.char = '\\' then
          if Input.peek rest = '\n' then
            if Input.peekAt rest 1 = '"' then .ok (text.reverse, rest.drop 2)
            else readDoubleQuoted indent text (.joined 0) (rest.drop 1)
          else
            match readEscape rest with
            | .error e => .error e
            | .ok (c, size) => readDoubleQuoted indent (c :: text) .none (rest.drop size)
        else
          readDoubleQuoted indent (g.char :: text) .none rest
termination_by i => i.length
decreasing_by all_goals simp only [List.length_cons, List.length_drop]; omega

/-! ### Plain scalars -/

/-- A character goes on a plain scalar, given the one after it. -/
def continuesPlain (flow : Bool) (c next : Char) : Bool :=
  !isBlankOrEnd c &&
    !(c == ':' && (isBlankOrEnd next || (flow && isFlowIndicator next))) &&
    !(flow && isFlowIndicator c)

/-- The run of plain content at the start of the input, last character first, and what follows. -/
def readPlainRun (flow : Bool) (text : List Char) : Input → List Char × Input
  | [] => (text, [])
  | g :: rest =>
    if continuesPlain flow g.char (Input.peek rest) then
      readPlainRun flow (g.char :: text) rest
    else
      (text, g :: rest)

/-- The input behind the rest of a line without content. The line break behind a comment goes with
the comment, so that it does not count in a gap. -/
def skipEmptyRest (i : Input) : Input :=
  let rest := i.skipChars isBlank
  if rest.peek = '#' then rest.skipLine.skipBreak else rest

/-- The rest of a line keeps to the input. -/
theorem length_skipEmptyRest_le (i : Input) : (skipEmptyRest i).length ≤ i.length := by
  have hblank := Input.length_skipChars_le i isBlank
  have hline := Input.length_skipChars_le (i.skipChars isBlank) (!endsLine ·)
  have hbreak := Input.length_skipBreak_le (i.skipChars isBlank).skipLine
  unfold skipEmptyRest
  simp only [Input.skipLine] at *
  split <;> omega

/-- The gap at the start of the input, and what follows. A tab may stand left of the content only
on a line that is otherwise empty. -/
def readPlainGap (indent : Int) (gap : Gap) : Input → Except SyntaxError (Gap × Input)
  | [] => .ok (gap, [])
  | g :: rest =>
    if isBlank g.char then
      if gap.spansLines ∧ g.char = '\t' ∧ (g.mark.column : Int) < indent then
        if Input.restIsEmpty rest then
          readPlainGap indent gap (skipEmptyRest rest)
        else
          .error .tabIndentation
      else
        readPlainGap indent (gap.addBlank g.char) rest
    else if g.char = '\n' then
      readPlainGap indent gap.addBreak rest
    else
      .ok (gap, g :: rest)
termination_by i => i.length
decreasing_by
  · exact Nat.lt_succ_of_le (length_skipEmptyRest_le rest)
  · exact Nat.lt_succ_self rest.length
  · exact Nat.lt_succ_self rest.length

/-- A run keeps to the input. -/
theorem length_readPlainRun_le (flow : Bool) (text : List Char) (i : Input) :
    (readPlainRun flow text i).2.length ≤ i.length := by
  fun_induction readPlainRun flow text i with
  | case1 => simp
  | case2 _ _ _ _ ih => simp only [List.length_cons]; omega
  | case3 => simp

/-- A gap keeps to the input. -/
theorem length_readPlainGap_le {indent : Int} {gap gap' : Gap} {i rest : Input}
    (h : readPlainGap indent gap i = .ok (gap', rest)) : rest.length ≤ i.length := by
  fun_induction readPlainGap indent gap i with
  | case1 => simp_all
  | case2 _ g r _ _ _ ih =>
    have := length_skipEmptyRest_le r
    have := ih h
    simp only [List.length_cons]
    omega
  | case3 => simp at h
  | case4 _ _ _ _ _ ih | case5 _ _ _ _ _ ih =>
    have := ih h
    simp only [List.length_cons]
    omega
  | case6 => simp_all

/-- A gap that holds something uses up input. -/
theorem length_readPlainGap_lt {indent : Int} {gap : Gap} {i rest : Input}
    (hi : (isBlank i.peek || i.peek == '\n') = true)
    (h : readPlainGap indent .none i = .ok (gap, rest)) : rest.length < i.length := by
  match i with
  | [] => simp [Input.peek, isBlank] at hi
  | g :: r =>
    rw [readPlainGap] at h
    simp only [Input.peek] at hi
    by_cases hb : isBlank g.char = true
    · simp only [hb, ↓reduceIte, Gap.none, Gap.spansLines, Bool.false_eq_true, false_and] at h
      have := length_readPlainGap_le h
      simp only [List.length_cons]
      omega
    · have hn : g.char = '\n' := by simpa [hb] using hi
      simp only [hn, ↓reduceIte] at h
      have := length_readPlainGap_le h
      simp only [List.length_cons]
      omega

/-- The text of a plain scalar, the rest of the input, and whether a line break stands before the
rest. Content right of `indent` goes on outside of flow collections. -/
def readPlain (flow : Bool) (indent : Int) (text : List Char) (gap : Gap) (i : Input) :
    Except SyntaxError (List Char × Input × Bool) :=
  if i.atDocumentMarker || i.peek == '#' then
    .ok (text.reverse, i, gap.spansLines)
  else if flow && i.peek == '-' && isFlowIndicator (i.peekAt 1) then
    .error .badPlainStart
  else
    let run := readPlainRun flow [] i
    let text := if run.1.isEmpty then text else run.1 ++ gap.reversedText ++ text
    let gap := if run.1.isEmpty then gap else .none
    if _hgap : (isBlank (Input.peek run.2) || Input.peek run.2 == '\n') = true then
      match _hnext : readPlainGap indent .none run.2 with
      | .error e => .error e
      | .ok (gap, rest) =>
        if !flow && decide ((Input.column rest : Int) < indent) then
          .ok (text.reverse, rest, gap.spansLines)
        else
          readPlain flow indent text gap rest
    else
      .ok (text.reverse, run.2, gap.spansLines)
termination_by i.length
decreasing_by
  have hlt := length_readPlainGap_lt _hgap _hnext
  have hle := length_readPlainRun_le flow [] i
  exact Nat.lt_of_lt_of_le hlt hle

end RecordSchema.Yaml
