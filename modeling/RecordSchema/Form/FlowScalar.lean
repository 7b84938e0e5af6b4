import RecordSchema.Form.Gap
import RecordSchema.Yaml.FlowScalar

/-!
# Quoted and plain scalars of a form

A quoted scalar may go on in any column, as long as no line of it is a document marker. A plain
scalar goes on while its lines are indented deeper than the block, in a flow collection always. Each
function takes the input where the content begins and answers the text and the rest of the input.
Text is collected with its last character first.
-/

namespace RecordSchema.Form

open Yaml (Input SyntaxError isBlank isFlowIndicator readEscape)

/-! ### Quoted scalars -/

/-- The text of a scalar in single quotes, up to and without the closing quote. -/
def readSingleQuoted (text : List Char) (gap : Gap) :
    Input → Except SyntaxError (List Char × Input)
  | [] => .error .unclosedQuote
  | g :: rest =>
    if g.char = '\x00' then
      .error .unclosedQuote
    else if isBlank g.char then
      readSingleQuoted text (gap.addBlank g.char) rest
    else if isBreak g.char then
      readSingleQuoted text (gap.addBreak g.char) rest
    else if atDocumentMarker (g :: rest) then
      .error .unclosedQuote
    else
      let text := gap.reversedText ++ text
      if g.char = '\'' then
        if Input.peek rest = '\'' then readSingleQuoted ('\'' :: text) .none (rest.drop 1)
        else .ok (text.reverse, rest)
      else
        readSingleQuoted (g.char :: text) .none rest
termination_by i => i.length
decreasing_by all_goals simp only [List.length_cons, List.length_drop]; omega

/-- The text of a scalar in double quotes, up to and without the closing quote. -/
def readDoubleQuoted (text : List Char) (gap : Gap) :
    Input → Except SyntaxError (List Char × Input)
  | [] => .error .unclosedQuote
  | g :: rest =>
    if g.char = '\x00' then
      .error .unclosedQuote
    else if isBlank g.char then
      readDoubleQuoted text (gap.addBlank g.char) rest
    else if isBreak g.char then
      readDoubleQuoted text (gap.addBreak g.char) rest
    else if atDocumentMarker (g :: rest) then
      .error .unclosedQuote
    else
      let text := gap.reversedText ++ text
      if g.char = '"' then
        .ok (text.reverse, rest)
      else if g.char = '\\' then
        if isBreak (Input.peek rest) then
          readDoubleQuoted text .escaped (rest.drop 1)
        else
          match readEscape rest with
          | .error e => .error e
          | .ok (c, size) => readDoubleQuoted (c :: text) .none (rest.drop size)
      else
        readDoubleQuoted (g.char :: text) .none rest
termination_by i => i.length
decreasing_by all_goals simp only [List.length_cons, List.length_drop]; omega

/-! ### Plain scalars -/

/-- A character goes on a plain scalar, given the one after it. -/
def continuesPlain (flow : Bool) (c next : Char) : Bool :=
  !separates c &&
    !(c == ':' && (separates next || (flow && (isFlowIndicator next || next == '?')))) &&
    !(flow && isFlowIndicator c)

/-- The run of plain content at the start of the input, last character first, and what follows. -/
def readPlainRun (flow : Bool) (text : List Char) : Input → List Char × Input
  | [] => (text, [])
  | g :: rest =>
    if continuesPlain flow g.char (Input.peek rest) then
      readPlainRun flow (g.char :: text) rest
    else
      (text, g :: rest)

/-- The gap at the start of the input, and what follows. A line may not start with a tab left of the
content. -/
def readPlainGap (indent : Int) (gap : Gap) : Input → Except SyntaxError (Gap × Input)
  | [] => .ok (gap, [])
  | g :: rest =>
    if isBlank g.char then
      if gap.spansLines ∧ g.char = '\t' ∧ (g.mark.column : Int) < indent then
        .error .tabIndentation
      else
        readPlainGap indent (gap.addBlank g.char) rest
    else if isBreak g.char then
      readPlainGap indent (gap.addBreak g.char) rest
    else
      .ok (gap, g :: rest)

/-- A run keeps to the input. -/
theorem length_readPlainRun_le (flow : Bool) (text : List Char) (i : Input) :
    (readPlainRun flow text i).2.length ≤ i.length := by
  fun_induction readPlainRun flow text i with
  | case1 => simp
  | case2 _ _ _ _ ih => simp only [List.length_cons]; omega
  | case3 => simp

/-- A gap keeps to the input. -/
theorem length_readPlainGap_le {indent : Int} {gap gap' : Gap} {i rest : Input}
    (h : readPlainGap indent gap i = .ok (gap', rest)) : rest.length ≤ i.length := by
  fun_induction readPlainGap indent gap i with
  | case1 => simp_all
  | case2 => simp at h
  | case3 _ _ _ _ _ ih | case4 _ _ _ _ _ ih =>
    have := ih h
    simp only [List.length_cons]
    omega
  | case5 => simp_all

/-- A gap that holds something uses up input. -/
theorem length_readPlainGap_lt {indent : Int} {gap : Gap} {i rest : Input}
    (hi : (isBlank i.peek || isBreak i.peek) = true)
    (h : readPlainGap indent .none i = .ok (gap, rest)) : rest.length < i.length := by
  match i with
  | [] => simp [Input.peek, isBlank, isBreak] at hi
  | g :: r =>
    rw [readPlainGap] at h
    simp only [Input.peek] at hi
    by_cases hb : isBlank g.char = true
    · simp only [hb, ↓reduceIte, Gap.none, Gap.spansLines, Bool.false_eq_true, false_and] at h
      have := length_readPlainGap_le h
      simp only [List.length_cons]
      omega
    · have hn : isBreak g.char = true := by simpa [hb] using hi
      simp only [hb, hn, Bool.false_eq_true, ↓reduceIte] at h
      have := length_readPlainGap_le h
      simp only [List.length_cons]
      omega

/-- A colon in a flow collection that separates nothing: an indicator follows it. -/
def atStrayColon (flow : Bool) (i : Input) : Bool :=
  flow && i.peek == ':' && (isFlowIndicator (i.peekAt 1) || i.peekAt 1 == '?')

/-- The text of a plain scalar, the rest of the input, and whether a line break stands before the
rest. Content right of `indent` goes on outside of flow collections. -/
def readPlain (flow : Bool) (indent : Int) (text : List Char) (gap : Gap) (i : Input) :
    Except SyntaxError (List Char × Input × Bool) :=
  if atDocumentMarker i || i.peek == '#' then
    .ok (text.reverse, i, gap.spansLines)
  else
    let run := readPlainRun flow [] i
    if atStrayColon flow run.2 then
      .error .misplacedValue
    else
      let text := if run.1.isEmpty then text else run.1 ++ gap.reversedText ++ text
      let gap := if run.1.isEmpty then gap else .none
      if _hgap : (isBlank (Input.peek run.2) || isBreak (Input.peek run.2)) = true then
        match _hnext : readPlainGap indent .none run.2 with
        | .error e => .error e
        | .ok (gap, rest) =>
          if !flow && decide ((Input.column rest : Int) < indent) then
            .ok (text.reverse, rest, gap.spansLines)
          else
            readPlain flow indent text gap rest
      else
        .ok (text.reverse, run.2, gap.spansLines)
termination_by i.length
decreasing_by
  have hlt := length_readPlainGap_lt _hgap _hnext
  have hle := length_readPlainRun_le flow [] i
  exact Nat.lt_of_lt_of_le hlt hle

end RecordSchema.Form
