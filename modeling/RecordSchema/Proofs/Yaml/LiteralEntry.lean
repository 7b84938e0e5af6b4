import Mathlib
import RecordSchema.Proofs.Yaml.LiteralScalar
import RecordSchema.Yaml.Event

/-!
# An entry with a literal scalar

A mapping whose first value is a literal scalar is told apart from the lines of the scalar: they are one
token, and the key below them is the next. Main statement: `events_literalEntry`.
-/

namespace RecordSchema.Yaml

open Input

/-! ### Plain scalars -/

section Plain

variable {indent : Int} {i rest : Input} {text : List Char}

/-- A plain scalar ends where its first run of content does, unless a blank or a line feed follows. -/
lemma readPlain_of_run (word : (i.peek == '#') = false) (noMarker : i.atDocumentMarker = false)
    (run : readPlainRun false [] i = (text.reverse, rest)) (nonempty : text.isEmpty = false)
    (ends : (isBlank rest.peek || rest.peek == '\n') = false) :
    readPlain false indent [] .none i = .ok (text, rest, false) := by
  have some : text.reverse.isEmpty = false := by simpa using nonempty
  rw [readPlain]
  simp [word, noMarker, run, ends, some, Gap.none, Gap.reversedText, Gap.spansLines]

/-- A plain scalar ends behind its first run of content if the text goes on left of it. -/
lemma readPlain_of_gap {gap : Gap} {below : Input} (word : (i.peek == '#') = false)
    (noMarker : i.atDocumentMarker = false) (run : readPlainRun false [] i = (text.reverse, rest))
    (nonempty : text.isEmpty = false) (goesOn : (isBlank rest.peek || rest.peek == '\n') = true)
    (skipped : readPlainGap indent .none rest = .ok (gap, below))
    (left : (below.column : Int) < indent) :
    readPlain false indent [] .none i = .ok (text, below, gap.spansLines) := by
  have some : text.reverse.isEmpty = false := by simpa using nonempty
  rw [readPlain]
  simp only [word, noMarker, run, goesOn, some, Gap.none, Gap.reversedText, Bool.or_self,
    Bool.false_and, Bool.false_eq_true, if_false, dite_true]
  split
  · rename_i failed
    rw [run] at failed
    cases skipped.symm.trans failed
  · rename_i found
    rw [run] at found
    cases skipped.symm.trans found
    simp [left]

end Plain

namespace Tokenizer

/-! ### Steps -/

section Steps

variable {s t next : Tokenizer} {text : List Char} {rest : Input}

/-- A run goes on behind a token that uses some of the input. -/
lemma run_of_step (settled : s.settle = .ok t) (more : t.input.atEnd = false)
    (read : t.readToken = .ok next) (shorter : next.input.length < s.input.length) :
    s.run = next.run := by
  rw [run]
  simp [settled, more, read, shorter]

/-- A run ends with the input. -/
lemma run_of_end (settled : s.settle = .ok t) (atEnd : t.input.atEnd = true) : s.run = t.readEnd := by
  rw [run]
  simp [settled, atEnd]

/-- The token of a plain scalar has the text that is read, and no key may follow unless a line has
ended. -/
lemma readPlainToken_of_readPlain {broken : Bool}
    (noted : (s.noteKey.allowKey false).forgetPending = t) (block : t.inFlow = false)
    (plain : readPlain false (t.indent + 1) [] .none t.input = .ok (text, rest, broken)) :
    s.readPlainToken =
      .ok { (if broken then t.allowKey true else t).emit (.scalar true (String.ofList text)) s.mark with
        input := rest } := by
  simp [readPlainToken, noted, block, plain, bind, Except.bind, pure, Except.pure]

/-- The token of a block scalar has the text that is read, at the place of its content. -/
lemma readBlock_of_readBlockScalar {literal : Bool} {content : Option Mark}
    (noted : (s.noteKey.allowKey true).forgetPending = t)
    (scalar : readBlockScalar literal t.indent (t.input.drop 1) = .ok (text, content, rest)) :
    s.readBlock literal =
      .ok { t.emit (.scalar false (String.ofList text)) (content.getD s.mark) with input := rest } := by
  rw [readBlock, noted]
  simp only [scalar, bind, Except.bind, pure, Except.pure]

/-- The indicator of a value makes the scalar in front of it the key. -/
lemma readValue_of_key {key : PossibleKey} (block : s.inFlow = false) (isKey : s.key = some key)
    (skipped : skipValueIndicator s.input = .ok rest)
    (inserted : ({ s with input := rest, pairOpen := false } : Tokenizer).insert key.number .key
      key.mark = t) :
    s.readValue =
      .ok (({ (t.openBlock key.mark.column key.number .blockMappingStart s.mark).indentPending with
        key := none }.allowKey false).emit .value s.mark) := by
  subst inserted
  simp [readValue, block, isKey, skipped, bind, Except.bind, pure, Except.pure]

end Steps

/-! ### States -/

/-- The state in front of a key of a mapping in the first column. -/
def beforeKey (input : Input) (found : List (Located Token)) : Tokenizer :=
  ⟨input, found, 0, [⟨-1, true⟩], none, [], true, 0, false, false⟩

/-- The state in front of a value of such a mapping. -/
def beforeValue (input : Input) (found : List (Located Token)) : Tokenizer :=
  ⟨input, found, 1, [⟨0, false⟩, ⟨-1, true⟩], none, [], false, 0, false, false⟩

/-- The first key opens the mapping. -/
lemma run_first_key (rest : List Char) :
    (ofText ('a' :: ':' :: ' ' :: rest)).run =
      (beforeValue (locate ⟨2, 1, 2⟩ false (' ' :: rest))
        [⟨.value, ⟨1, 1, 1⟩⟩, ⟨.scalar true "a", ⟨0, 1, 0⟩⟩, ⟨.key, ⟨0, 1, 0⟩⟩,
          ⟨.blockMappingStart, ⟨1, 1, 1⟩⟩]).run := by
  let s := ofText ('a' :: ':' :: ' ' :: rest)
  let behind : Input := ⟨':', ⟨1, 1, 1⟩, false⟩ :: locate ⟨2, 1, 2⟩ false (' ' :: rest)
  let next : Tokenizer :=
    ⟨behind, [⟨.scalar true "a", ⟨0, 1, 0⟩⟩], -1, [], some ⟨false, 0, ⟨0, 1, 0⟩⟩, [], false, 0, false,
      false⟩
  have plain : readPlain false 0 [] .none s.input = .ok (['a'], behind, false) :=
    readPlain_of_run rfl rfl rfl rfl rfl
  have word : s.readPlainToken = .ok next := readPlainToken_of_readPlain (s := s) rfl rfl plain
  calc s.run
    _ = next.run := run_of_step (t := s) rfl rfl word (Nat.lt_succ_self _)
    _ = _ := run_of_step (t := next) rfl rfl rfl (Nat.lt_succ_self _)

variable {m : Mark} {found : List (Located Token)}

/-- A literal scalar is one token, whatever its lines hold. -/
lemma run_literal {lines : List (List Char)} {following : List Char} (nonempty : lines ≠ [])
    (content : ∀ line ∈ lines, IsContent line) (continues : Continues following) :
    ∃ k,
      (beforeValue (locate m false (' ' :: '|' :: '\n' :: (indentLines 2 lines ++ following))) found).run =
        (beforeKey (locate ⟨k, m.line + 1 + lines.length, 0⟩ true following)
          (⟨.scalar false (String.ofList (lines.flatMap (· ++ ['\n']))), ⟨m.index + 5, m.line + 1, 2⟩⟩ ::
            found)).run := by
  let above := ' ' :: '|' :: '\n' :: indentLines 2 lines
  let below : Input := locate m.right.right false ('\n' :: (indentLines 2 lines ++ following))
  let s := beforeValue (⟨'|', m.right, false⟩ :: below) found
  obtain ⟨k, scalar⟩ :=
    readBlockScalar_literal Nat.two_pos nonempty content continues m.right.right false
  let next := beforeKey (locate ⟨k, m.line + 1 + lines.length, 0⟩ true following)
    (⟨.scalar false (String.ofList (lines.flatMap (· ++ ['\n']))), ⟨m.index + 5, m.line + 1, 2⟩⟩ :: found)
  have block : s.readBlock true = .ok next := readBlock_of_readBlockScalar (s := s) rfl scalar
  have each : ∀ c ∈ above, IsInline c ∨ c = '\n' := by
    simp only [above, List.forall_mem_cons]
    exact ⟨.inl (by decide), .inl (by decide), .inr trivial,
      inline_or_feed_of_mem_indentLines content⟩
  have shorter : next.input.length < (locate m false (above ++ following)).length := by
    rw [length_locate_append each]
    exact Nat.lt_add_of_pos_left (Nat.succ_pos _)
  exact ⟨k, run_of_step (t := s) rfl rfl block shorter⟩

/-- A further key goes on with the mapping. -/
lemma run_key (start : m.column = 0) (rest : List Char) :
    (beforeKey (locate m true ('b' :: ':' :: ' ' :: rest)) found).run =
      (beforeValue (locate m.right.right false (' ' :: rest))
        (⟨.value, m.right⟩ :: ⟨.scalar true "b", m⟩ :: ⟨.key, m⟩ :: found)).run := by
  obtain ⟨index, line, column⟩ := m
  obtain rfl : column = 0 := start
  let m : Mark := ⟨index, line, 0⟩
  let s := beforeKey (locate m true ('b' :: ':' :: ' ' :: rest)) found
  let behind : Input := ⟨':', m.right, false⟩ :: locate m.right.right false (' ' :: rest)
  let next : Tokenizer :=
    ⟨behind, ⟨.scalar true "b", m⟩ :: found, 0, [⟨-1, true⟩], some ⟨true, found.length, m⟩, [],
      false, 0, false, false⟩
  have plain : readPlain false 1 [] .none s.input = .ok (['b'], behind, false) :=
    readPlain_of_run rfl rfl rfl rfl rfl
  have word : s.readPlainToken = .ok next := readPlainToken_of_readPlain (s := s) rfl rfl plain
  have settled : next.settle = .ok next := by
    have stays : next.toToken = .ok next := rfl
    have fresh : next.dropStaleKey = .ok next := by
      simp [dropStaleKey, next, behind, mark, Input.mark, Mark.right, m]
    rw [settle, stays]
    simp only [bind, Except.bind, fresh]
    rfl
  -- the key goes behind the tokens that were found before its scalar
  have inserted : next.found.insertIdx (next.found.length - found.length) ⟨.key, m⟩ =
      ⟨.scalar true "b", m⟩ :: ⟨.key, m⟩ :: found := by
    simp [next]
  have value : next.readValue = .ok (beforeValue (locate m.right.right false (' ' :: rest))
      (⟨.value, m.right⟩ :: ⟨.scalar true "b", m⟩ :: ⟨.key, m⟩ :: found)) := by
    rw [readValue_of_key (s := next) rfl rfl rfl rfl]
    exact congrArg (fun found => Except.ok (beforeValue _ (⟨.value, m.right⟩ :: found))) inserted
  calc s.run
    _ = next.run := run_of_step (t := s) rfl rfl word (Nat.lt_succ_self _)
    _ = _ := run_of_step (t := next) settled rfl value (Nat.lt_succ_self _)

/-- The end of the text ends the mapping. -/
lemma run_end (leads allowed : Bool) :
    ∃ e, (⟨[⟨'\x00', m, leads⟩], found, 0, [⟨-1, true⟩], none, [], allowed, 0, false, false⟩ :
        Tokenizer).run =
      .ok (found.reverse ++ [⟨.blockEnd, e⟩, ⟨.streamEnd, e⟩]) := by
  let s : Tokenizer :=
    ⟨[⟨'\x00', m, leads⟩], found, 0, [⟨-1, true⟩], none, [], allowed, 0, false, false⟩
  have settled : s.settle = .ok s := by
    have stays : s.toToken = .ok s := rfl
    have right : ¬ (0 : Int) > m.column := by omega
    rw [settle, stays]
    simp [bind, Except.bind, pure, Except.pure, dropStaleKey, closeTo, inFlow, leaveTo, mark, Input.mark,
      s, right]
  let e : Mark := if m.column = 0 then m else ⟨m.index, m.line + 1, 0⟩
  have last : s.readEnd = .ok (⟨.streamEnd, e⟩ :: ⟨.blockEnd, e⟩ :: found).reverse := rfl
  refine ⟨e, ?_⟩
  rw [run_of_end settled rfl, last]
  simp

/-- A word in front of the end of the text, with or without a line feed between them. -/
lemma readPlain_last {closing : List Char} (closed : closing = [] ∨ closing = ['\n']) :
    ∃ e leads broken, readPlain false 1 [] .none (locate m.right false ("string".toList ++ closing)) =
      .ok ("string".toList, [⟨'\x00', e, leads⟩], broken) := by
  rcases closed with rfl | rfl
  · exact ⟨m.past 7, false, false, readPlain_of_run rfl rfl rfl rfl rfl⟩
  · refine ⟨(m.past 7).below 1, true, true, ?_⟩
    have skipped : readPlainGap 1 .none
        [⟨'\n', m.past 7, false⟩, ⟨'\x00', (m.past 7).below 1, true⟩] =
        .ok (.folded 0, [⟨'\x00', (m.past 7).below 1, true⟩]) := by
      simp [readPlainGap, isBlank, Gap.none, Gap.addBreak]
    exact readPlain_of_gap rfl rfl rfl rfl rfl skipped Int.one_pos

/-- The last value ends the mapping. -/
lemma run_last {closing : List Char} (closed : closing = [] ∨ closing = ['\n']) :
    ∃ e, (beforeValue (locate m false (' ' :: ("string".toList ++ closing))) found).run =
      .ok (found.reverse ++ [⟨.scalar true "string", m.right⟩, ⟨.blockEnd, e⟩, ⟨.streamEnd, e⟩]) := by
  let s := beforeValue (locate m.right false ("string".toList ++ closing)) found
  obtain ⟨end_, leads, broken, plain⟩ := readPlain_last (m := m) closed
  let next : Tokenizer :=
    ⟨[⟨'\x00', end_, leads⟩], ⟨.scalar true "string", m.right⟩ :: found, 0, [⟨-1, true⟩], none, [],
      broken, 0, false, false⟩
  have word : s.readPlainToken = .ok next := by
    rw [readPlainToken_of_readPlain (s := s) rfl rfl plain]
    cases broken <;> rfl
  obtain ⟨e, ends⟩ :
      ∃ e, next.run = .ok (next.found.reverse ++ [⟨.blockEnd, e⟩, ⟨.streamEnd, e⟩]) :=
    run_end leads broken
  refine ⟨e, ?_⟩
  calc (beforeValue (locate m false (' ' :: ("string".toList ++ closing))) found).run
    _ = next.run :=
      run_of_step (t := s) rfl rfl word (Nat.succ_lt_succ (Nat.succ_pos _))
    _ = .ok (next.found.reverse ++ [⟨.blockEnd, e⟩, ⟨.streamEnd, e⟩]) := ends
    _ = _ := by simp [next]

/-- The tokens of a mapping of two entries: the text of the first value, where the second key stands, and
the end. -/
def entryTokens (text : String) (k n : Nat) (e : Mark) : List (Located Token) :=
  [⟨.blockMappingStart, ⟨1, 1, 1⟩⟩, ⟨.key, ⟨0, 1, 0⟩⟩, ⟨.scalar true "a", ⟨0, 1, 0⟩⟩,
    ⟨.value, ⟨1, 1, 1⟩⟩, ⟨.scalar false text, ⟨7, 2, 2⟩⟩, ⟨.key, ⟨k, n, 0⟩⟩,
    ⟨.scalar true "b", ⟨k, n, 0⟩⟩, ⟨.value, ⟨k + 1, n, 1⟩⟩, ⟨.scalar true "string", ⟨k + 3, n, 3⟩⟩,
    ⟨.blockEnd, e⟩, ⟨.streamEnd, e⟩]

/-- A literal scalar is one token, and the key below it is the next. -/
lemma tokens_literalEntry {lines : List (List Char)} (nonempty : lines ≠ [])
    (content : ∀ line ∈ lines, IsContent line) {closing : List Char}
    (closed : closing = [] ∨ closing = ['\n']) :
    ∃ k e, Token.ofText
        ("a: |\n".toList ++ (indentLines 2 lines ++ ("b: string".toList ++ closing))) =
      .ok (entryTokens (String.ofList (lines.flatMap (· ++ ['\n']))) k (2 + lines.length) e) := by
  have continues : Continues ('b' :: ':' :: ' ' :: ("string".toList ++ closing)) :=
    ⟨'b', _, rfl, by decide, by decide⟩
  obtain ⟨k, literal⟩ := run_literal (m := ⟨2, 1, 2⟩) nonempty content continues
  obtain ⟨e, last⟩ := run_last (m := ⟨k + 2, 2 + lines.length, 2⟩) closed
  refine ⟨k, e, ?_⟩
  calc (ofText ('a' :: ':' :: ' ' :: '|' :: '\n' :: (indentLines 2 lines ++
        ('b' :: ':' :: ' ' :: ("string".toList ++ closing))))).run
    _ = _ := run_first_key _
    _ = _ := literal
    _ = _ := run_key rfl _
    _ = _ := last

end Tokenizer

/-- The events of such a mapping. -/
def entryEvents (text : String) (k n : Nat) (e : Mark) : List (Located Event) :=
  [⟨.documentStart, ⟨1, 1, 1⟩⟩, ⟨.mappingStart none, ⟨1, 1, 1⟩⟩, ⟨.scalar true "a" none, ⟨0, 1, 0⟩⟩,
    ⟨.scalar false text none, ⟨7, 2, 2⟩⟩, ⟨.scalar true "b" none, ⟨k, n, 0⟩⟩,
    ⟨.scalar true "string" none, ⟨k + 3, n, 3⟩⟩, ⟨.mappingEnd, e⟩, ⟨.documentEnd, e⟩]

/-- The text of a literal scalar is in one event, and the key below it is the next. -/
lemma events_literalEntry {lines : List (List Char)} (nonempty : lines ≠ [])
    (content : ∀ line ∈ lines, IsContent line) {closing : List Char}
    (closed : closing = [] ∨ closing = ['\n']) :
    ∃ k e, Event.ofText
        ("a: |\n".toList ++ (indentLines 2 lines ++ ("b: string".toList ++ closing))) =
      .ok (entryEvents (String.ofList (lines.flatMap (· ++ ['\n']))) k (2 + lines.length) e) := by
  obtain ⟨k, e, tokens⟩ := Tokenizer.tokens_literalEntry nonempty content closed
  refine ⟨k, e, ?_⟩
  rw [Event.ofText, tokens]
  rfl

end RecordSchema.Yaml
