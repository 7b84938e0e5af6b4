import Mathlib
import RecordSchema.Yaml.BlockScalar

/-!
# Literal scalars

Lines that are all indented alike below the header of a literal scalar are its content, whatever stands in
them. Main statement: `readBlockScalar_literal`.
-/

namespace RecordSchema.Yaml

/-! ### Characters on one line -/

/-- The character neither breaks a line nor ends a text. -/
structure IsInline (c : Char) : Prop where
  not_feed : c ≠ '\n'
  not_return : c ≠ '\r'
  not_end : c ≠ '\x00'

/-- Whether a character stays on a line can be decided. -/
instance : DecidablePred IsInline := fun c =>
  decidable_of_iff (c ≠ '\n' ∧ c ≠ '\r' ∧ c ≠ '\x00')
    ⟨fun h => ⟨h.1, h.2.1, h.2.2⟩, fun h => ⟨h.not_feed, h.not_return, h.not_end⟩⟩

/-- A character that stays on a line does not end it. -/
lemma IsInline.endsLine_eq {c : Char} (h : IsInline c) : endsLine c = false := by
  simp [endsLine, h.not_feed, h.not_end]

/-- The place after so many characters that stay on the line. -/
def Mark.past (m : Mark) (n : Nat) : Mark :=
  ⟨m.index + n, m.line, m.column + n⟩

namespace Input

/-- Some characters of a line with their places. -/
def onLine (m : Mark) (leads : Bool) : List Char → Input
  | [] => []
  | c :: rest => ⟨c, m, leads⟩ :: onLine m.right (leads && isBlank c) rest

variable {m : Mark} {leads : Bool} {c : Char} {cs rest : List Char}

/-- Behind a character that stays on a line the next one is one column to the right. -/
lemma locate_cons (inline : IsInline c) :
    locate m leads (c :: rest) = ⟨c, m, leads⟩ :: locate m.right (leads && isBlank c) rest := by
  rw [locate]
  · simp [inline.not_feed, inline.not_return, inline.not_end]
  · exact fun _ isReturn => absurd isReturn inline.not_return

/-- Behind a line feed the next character is in the first column of the next line. -/
lemma locate_feed :
    locate m leads ('\n' :: rest) = ⟨'\n', m, leads⟩ :: locate (m.below 1) true rest := by
  rw [locate]
  · simp
  · nofun

/-- What follows some characters of a line is located behind them. -/
lemma locate_append (inline : ∀ c ∈ cs, IsInline c) :
    locate m leads (cs ++ rest) =
      onLine m leads cs ++ locate (m.past cs.length) (leads && cs.all isBlank) rest := by
  induction cs generalizing m leads with
  | nil => simp [onLine, Mark.past]
  | cons c cs ih =>
    rw [List.forall_mem_cons] at inline
    rw [List.cons_append, locate_cons inline.1, ih inline.2, onLine, List.cons_append]
    simp [Mark.past, Mark.right, Nat.add_comm, Nat.add_left_comm, Bool.and_assoc]

section Line

variable (inline : ∀ c ∈ cs, IsInline c)

include inline

/-- Nothing before the end of a line ends it. -/
lemma endsLine_of_mem_onLine : ∀ g ∈ onLine m leads cs, (!endsLine g.char) = true := by
  induction cs generalizing m leads with
  | nil => nofun
  | cons c cs ih =>
    rw [List.forall_mem_cons] at inline
    rw [onLine, List.forall_mem_cons, inline.1.endsLine_eq]
    exact ⟨rfl, ih inline.2⟩

/-- The characters of a line are those before its line feed. -/
lemma takeChars_line : (locate m leads (cs ++ '\n' :: rest)).takeChars (!endsLine ·) = cs := by
  have chars : (onLine m leads cs).map Glyph.char = cs := by
    clear inline
    induction cs generalizing m leads with
    | nil => rfl
    | cons c cs ih => rw [onLine, List.map_cons, ih]
  rw [locate_append inline, locate_feed, takeChars,
    List.takeWhile_append_of_pos (endsLine_of_mem_onLine inline),
    List.takeWhile_cons_of_neg (by simp [endsLine]), List.append_nil, chars]

/-- Skipping a line leads to its line feed. -/
lemma skipLine_line :
    (locate m leads (cs ++ '\n' :: rest)).skipLine =
      locate (m.past cs.length) (leads && cs.all isBlank) ('\n' :: rest) := by
  rw [locate_append inline, locate_feed, skipLine, skipChars,
    List.dropWhile_append_of_pos (endsLine_of_mem_onLine inline),
    List.dropWhile_cons_of_neg (by simp [endsLine])]

end Line

/-- How long an input is does not depend on where it stands. -/
lemma length_locate (m m' : Mark) (leads leads' : Bool) (s : List Char) :
    (locate m leads s).length = (locate m' leads' s).length := by
  fun_induction locate m leads s generalizing m' leads' with
  | case1 => rfl
  | case2 m leads rest ih => rw [locate, List.length_cons, List.length_cons, ih]
  | case3 m leads c rest notBoth breaks ih =>
    rw [locate, if_pos breaks, List.length_cons, List.length_cons, ih]
    exact notBoth
  | case4 m leads rest notBoth noBreak =>
    rw [locate, if_neg noBreak, if_pos rfl]
    · rfl
    · exact notBoth
  | case5 m leads c rest notBoth noBreak noEnd ih =>
    rw [locate, if_neg noBreak, if_neg noEnd, List.length_cons, List.length_cons, ih]
    exact notBoth

/-- Characters of lines and line feeds are in front of what follows them. -/
lemma length_locate_append {m m' : Mark} {leads leads' : Bool} {s following : List Char}
    (each : ∀ c ∈ s, IsInline c ∨ c = '\n') :
    (locate m leads (s ++ following)).length = s.length + (locate m' leads' following).length := by
  induction s generalizing m leads with
  | nil =>
    rw [List.nil_append, length_locate m m' leads leads' following, List.length_nil, Nat.zero_add]
  | cons c rest ih =>
    rw [List.forall_mem_cons] at each
    rcases each.1 with inline | rfl
    · rw [List.cons_append, locate_cons inline, List.length_cons, ih each.2, List.length_cons]
      omega
    · rw [List.cons_append, locate_feed, List.length_cons, ih each.2, List.length_cons]
      omega

end Input

/-! ### Lines of a scalar -/

/-- The text goes on with a character of a line that is no space. -/
def Continues (text : List Char) : Prop :=
  ∃ c rest, text = c :: rest ∧ IsInline c ∧ c ≠ ' '

/-- Lines that are indented alike, each with its line feed. -/
def indentLines (n : Nat) (lines : List (List Char)) : List Char :=
  lines.flatMap fun line => List.replicate n ' ' ++ line ++ ['\n']

/-- A line that can be the content of a scalar and stands at its indentation. -/
structure IsContent (line : List Char) : Prop where
  inline : ∀ c ∈ line, IsInline c
  continues : Continues line

/-- Text that goes on does so whatever stands behind it. -/
lemma Continues.append {line rest : List Char} (h : Continues line) : Continues (line ++ rest) := by
  obtain ⟨c, more, rfl, inline, noSpace⟩ := h
  exact ⟨c, more ++ rest, rfl, inline, noSpace⟩

/-- Indented lines hold what their lines hold, spaces and line feeds. -/
lemma inline_or_feed_of_mem_indentLines {n : Nat} {lines : List (List Char)}
    (content : ∀ line ∈ lines, IsContent line) :
    ∀ c ∈ indentLines n lines, IsInline c ∨ c = '\n' := by
  intro c mem
  obtain ⟨line, inLines, mem⟩ := List.mem_flatMap.1 mem
  rw [List.mem_append, List.mem_append] at mem
  rcases mem with (space | inLine) | feed
  · rw [List.eq_of_mem_replicate space]
    exact .inl (by decide)
  · exact .inl ((content line inLines).inline c inLine)
  · exact .inr (List.mem_singleton.1 feed)

section Indentation

variable {m : Mark} {leads : Bool} {text rest : List Char}

/-- Text that goes on is not at its end. -/
lemma atEnd_of_continues (continues : Continues text) : (Input.locate m leads text).atEnd = false := by
  obtain ⟨c, rest, rfl, inline, _⟩ := continues
  simp [Input.locate_cons inline, Input.atEnd, Input.peek, inline.not_end]

/-- The mark of text that goes on is that of its first character. -/
lemma mark_of_continues (continues : Continues text) : (Input.locate m leads text).mark = m := by
  obtain ⟨c, rest, rfl, inline, _⟩ := continues
  rw [Input.locate_cons inline, Input.mark]

/-- A space at the start of a line leaves the next character among the leading ones. -/
lemma locate_space :
    Input.locate m true (' ' :: rest) = ⟨' ', m, true⟩ :: Input.locate m.right true rest :=
  Input.locate_cons (by decide)

/-- There is no indentation to skip in front of text that goes on. -/
lemma skipBlockIndent_of_continues (indent : Nat) (continues : Continues text) :
    skipBlockIndent indent 0 (Input.locate m true text) = (0, Input.locate m true text) := by
  obtain ⟨c, rest, rfl, inline, noSpace⟩ := continues
  simp [Input.locate_cons inline, skipBlockIndent, noSpace, inline.not_feed]

/-- Indentation is skipped up to where the text goes on. -/
lemma skipBlockIndent_indented {indent d : Nat} (columns : m.column + d ≤ indent)
    (continues : Continues text) :
    skipBlockIndent indent 0 (Input.locate m true (List.replicate d ' ' ++ text)) =
      (0, Input.locate (m.past d) true text) := by
  induction d generalizing m with
  | zero => exact skipBlockIndent_of_continues indent continues
  | succ d ih =>
    have here : m.column < indent := by omega
    have right := ih (m := m.right) (by simp only [Mark.right]; omega)
    rw [List.replicate_succ, List.cons_append, locate_space, skipBlockIndent, if_pos ⟨rfl, here⟩, right]
    simp [Mark.past, Mark.right, Nat.add_comm, Nat.add_left_comm]

/-- The indentation that is found is that of the place where the text goes on. -/
lemma detectBlockIndent_indented {deepest d : Nat} (above : deepest ≤ m.column)
    (continues : Continues text) :
    detectBlockIndent deepest 0 (Input.locate m true (List.replicate d ' ' ++ text)) =
      (m.column + d, 0, Input.locate (m.past d) true text) := by
  induction d generalizing m deepest with
  | zero =>
    obtain ⟨c, rest, rfl, inline, noSpace⟩ := continues
    simp [Input.locate_cons inline, detectBlockIndent, noSpace, inline.not_feed, Mark.past, above]
  | succ d ih =>
    have below : max deepest m.column ≤ m.right.column := by
      simp only [Mark.right]
      omega
    have right := ih below
    rw [List.replicate_succ, List.cons_append, locate_space, detectBlockIndent, if_pos rfl, right]
    simp [Mark.past, Mark.right, Nat.add_comm, Nat.add_left_comm]

end Indentation

/-! ### Reading -/

section Reading

variable {n : Nat} {following : List Char}

/-- The first of some indented lines is its indentation, its text and a line feed. -/
lemma indentLines_cons (line : List Char) (rest : List (List Char)) :
    indentLines n (line :: rest) ++ following =
      List.replicate n ' ' ++ (line ++ '\n' :: (indentLines n rest ++ following)) := by
  simp [indentLines]

variable {m : Mark} {lines : List (List Char)}

/-- There is no empty line in front of the next one. -/
lemma skipBlockIndent_lines (start : m.column = 0) (content : ∀ line ∈ lines, IsContent line)
    (continues : Continues following) :
    (skipBlockIndent n 0 (Input.locate m true (indentLines n lines ++ following))).1 = 0 := by
  cases lines with
  | nil => exact congrArg Prod.fst (skipBlockIndent_of_continues n continues)
  | cons line rest =>
    rw [indentLines_cons, skipBlockIndent_indented (by omega)
      (content line List.mem_cons_self).continues.append]

/-- Text at the column of a block goes on with it. -/
lemma atBlockLine_of_continues {text : List Char} (deep : 0 < n) (column : m.column = n)
    (continues : Continues text) : atBlockLine n (Input.locate m true text) = true := by
  have other : n ≠ 0 := by omega
  simp [atBlockLine, Input.column, mark_of_continues continues, atEnd_of_continues continues, column,
    other]

/-- Lines are read up to the first one that is not indented. -/
lemma readBlockBody_lines (deep : 0 < n) (continues : Continues following) (start : m.column = 0)
    (content : ∀ line ∈ lines, IsContent line) (ended : Bool) :
    ∃ k, readBlockBody n 0 ended
        (skipBlockIndent n 0 (Input.locate m true (indentLines n lines ++ following))).2 =
      ⟨lines.map (⟨0, ·⟩), 0, ended || !lines.isEmpty,
        Input.locate ⟨k, m.line + lines.length, 0⟩ true following⟩ := by
  -- Each line starts where the one above ended, so the induction is for any mark in the first column.
  induction lines generalizing m ended with
  | nil =>
    have outside : atBlockLine n (Input.locate m true following) = false := by
      have other : (0 == n) = false := by
        rw [beq_eq_false_iff_ne]
        omega
      simp [atBlockLine, Input.column, mark_of_continues continues, start, other]
    obtain ⟨index, line, column⟩ := m
    obtain rfl : column = 0 := start
    refine ⟨index, ?_⟩
    rw [indentLines, List.flatMap_nil, List.nil_append, skipBlockIndent_of_continues n continues,
      readBlockBody, outside]
    simp
  | cons line rest ih =>
    rw [List.forall_mem_cons] at content
    have inside : Continues (line ++ '\n' :: (indentLines n rest ++ following)) :=
      content.1.continues.append
    obtain ⟨k, below⟩ := ih (m := ((m.past n).past line.length).below 1) rfl content.2 true
    refine ⟨k, ?_⟩
    rw [indentLines_cons, skipBlockIndent_indented (by omega) inside, readBlockBody,
      if_pos (atBlockLine_of_continues deep (by simp [Mark.past, start]) inside),
      Input.takeChars_line content.1.inline, Input.skipLine_line content.1.inline, Input.locate_feed]
    have noEmpty := skipBlockIndent_lines (n := n) (m := ((m.past n).past line.length).below 1) rfl
      content.2 continues
    simp only [Input.atEnd, Input.peek, List.drop_one, List.tail_cons, noEmpty, below]
    simp [Mark.past, Mark.below, Nat.add_right_comm, Nat.add_assoc]

/-- Literal lines fold to themselves. -/
lemma foldBlock_literal (nonempty : lines ≠ []) :
    foldBlock true (lines.map (⟨0, ·⟩)) ++ ['\n'] = lines.flatMap (· ++ ['\n']) := by
  have below (above : List Char) (lines : List (List Char)) :
      above ++ foldBlockLines true above (lines.map (⟨0, ·⟩)) ++ ['\n'] =
        (above :: lines).flatMap (· ++ ['\n']) := by
    induction lines generalizing above with
    | nil => simp [foldBlockLines]
    | cons line rest ih =>
      have next := ih line
      simp only [List.flatMap_cons] at next ⊢
      simp [foldBlockLines, blockJoint, ← next]
  cases lines with
  | nil => exact absurd rfl nonempty
  | cons line rest => exact below line rest

/-- A header without indicators leaves all to the content. -/
lemma readBlockScalar_of_enterBlock {literal : Bool} {parent : Int} {below i : Input} {indent empty : Nat}
    (m : Mark) (leads : Bool) (noTab : below.peek ≠ '\t')
    (entered : enterBlock parent none below = (indent, empty, i)) (more : i.atEnd = false)
    (deep : indent ≤ i.column) :
    readBlockScalar literal parent (⟨'\n', m, leads⟩ :: below) =
      let body := readBlockBody indent empty false i
      .ok (foldBlock literal body.lines ++ chomp .clip indent body, some i.mark, body.rest) := by
  have header : readBlockHeader literal (⟨'\n', m, leads⟩ :: below) =
      .ok (⟨literal, .clip, none⟩, ⟨'\n', m, leads⟩ :: below) := rfl
  have blanks : Input.skipBlanks (⟨'\n', m, leads⟩ :: below) true =
      .ok (⟨false, false⟩, ⟨'\n', m, leads⟩ :: below) := rfl
  have notLeft : ¬ (i.column < indent ∧ (i.column : Int) > parent) := fun left => by omega
  have feed : Input.peek (⟨'\n', m, leads⟩ :: below) = '\n' := rfl
  simp only [readBlockScalar, header, blanks, feed, beq_self_eq_true, if_true, List.drop_one,
    List.tail_cons, if_neg noTab, entered, more, if_neg notLeft]
  simp [endsLine]

/-- Below its header, a literal scalar has the lines that are indented for its content, with their line
feeds, and ends where the text goes on in the first column. -/
lemma readBlockScalar_literal {parent : Nat} (deep : parent < n) (nonempty : lines ≠ [])
    (content : ∀ line ∈ lines, IsContent line) (continues : Continues following) (m : Mark)
    (leads : Bool) :
    ∃ k, readBlockScalar true parent
        (Input.locate m leads ('\n' :: (indentLines n lines ++ following))) =
      .ok (lines.flatMap (· ++ ['\n']), some ⟨m.index + 1 + n, m.line + 1, n⟩,
        Input.locate ⟨k, m.line + 1 + lines.length, 0⟩ true following) := by
  obtain ⟨line, rest, rfl⟩ := List.exists_cons_of_ne_nil nonempty
  have inside : Continues (line ++ '\n' :: (indentLines n rest ++ following)) :=
    (content line List.mem_cons_self).continues.append
  obtain ⟨k, body⟩ :=
    readBlockBody_lines (n := n) (m := m.below 1) (by omega) continues rfl content false
  have entered : enterBlock parent none
      (Input.locate (m.below 1) true (indentLines n (line :: rest) ++ following)) =
      (n, 0, Input.locate ((m.below 1).past n) true
        (line ++ '\n' :: (indentLines n rest ++ following))) := by
    rw [indentLines_cons, enterBlock, detectBlockIndent_indented (Nat.zero_le _) inside]
    simp [blockIndent, Mark.below]
    omega
  rw [indentLines_cons, skipBlockIndent_indented (by simp [Mark.below]) inside] at body
  refine ⟨k, ?_⟩
  rw [Input.locate_feed, readBlockScalar_of_enterBlock m leads _ entered (atEnd_of_continues inside)]
  · have ended : chomp .clip n
        ⟨(line :: rest).map (⟨0, ·⟩), 0, true,
          Input.locate ⟨k, (m.below 1).line + (rest.length + 1), 0⟩ true following⟩ = ['\n'] := by
      simp [chomp, atEnd_of_continues continues]
    simp only [body, List.isEmpty_cons, Bool.not_false, Bool.or_true, List.length_cons, ended,
      foldBlock_literal nonempty, mark_of_continues inside]
    simp [Mark.below, Mark.past]
  · rw [Input.column, mark_of_continues inside]
    simp [Mark.below, Mark.past]
  · -- there is a space at least
    obtain ⟨d, rfl⟩ := Nat.exists_eq_succ_of_ne_zero (show n ≠ 0 by omega)
    rw [indentLines_cons, List.replicate_succ, List.cons_append, locate_space]
    simp [Input.peek]

end Reading

end RecordSchema.Yaml
