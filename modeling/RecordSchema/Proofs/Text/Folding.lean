import Mathlib
import RecordSchema.Proofs.Text.Caseless

/-!
# Names regardless of case and separators

Converting a name changes case and separators and nothing else, as long as the name becomes an
identifier: `folded_pascal` and `folded_snake`. So two names that are converted to one differ in case
and separators only, and names that differ in more stay apart.
-/

namespace RecordSchema.Name

open Text

/-- A name regardless of case and separators: its characters without separators, in upper case. -/
def folded (name : String) : String :=
  String.ofList (upper (name.toList.filter (!isSeparator ·)))

/-! ### Characters of names -/

/-- The characters beyond ASCII whose forms in upper case are letters of ASCII: the sharp and the long
s, the dotless i and the ligatures. -/
def foldable : List Nat :=
  [0xDF, 0x131, 0x17F, 0xFB00, 0xFB01, 0xFB02, 0xFB03, 0xFB04, 0xFB05, 0xFB06]

/-- Both forms of the character have its form in upper case, and none of them holds a separator. -/
structure Folds (c : Char) : Prop where
  upper_upper : upper (upperChar c) = upperChar c
  upper_lower : upper (lowerChar c) = upperChar c
  upper_kept : (upperChar c).all (!isSeparator ·)
  lower_kept : (lowerChar c).all (!isSeparator ·)

/-- Whether a character folds can be decided. -/
instance (c : Char) : Decidable (Folds c) :=
  decidable_of_iff (upper (upperChar c) = upperChar c ∧ upper (lowerChar c) = upperChar c ∧
      (upperChar c).all (!isSeparator ·) ∧ (lowerChar c).all (!isSeparator ·))
    ⟨fun h => ⟨h.1, h.2.1, h.2.2.1, h.2.2.2⟩,
      fun h => ⟨h.upper_upper, h.upper_lower, h.upper_kept, h.lower_kept⟩⟩

/-- The characters that an identifier may hold are of ASCII. -/
lemma lt_of_isIdentifierRest {c : Char} (holds : Go.isIdentifierRest c) : c.toNat < 128 := by
  rw [Go.isIdentifierRest, Bool.or_eq_true, beq_iff_eq] at holds
  rcases holds with alphanum | rfl
  · simp only [Char.isAlphanum, Char.isAlpha, Char.isUpper, Char.isLower, Char.isDigit,
      Bool.or_eq_true, Bool.and_eq_true, decide_eq_true_eq, ge_iff_le, UInt32.le_iff_toNat_le]
      at alphanum
    have number : c.toNat = c.val.toNat := rfl
    have upperLast : 'Z'.val.toNat = 90 := rfl
    have lowerLast : 'z'.val.toNat = 122 := rfl
    have digitLast : '9'.val.toNat = 57 := rfl
    omega
  · decide

/-- A number that gives such a character is one of ASCII: what is no code point gives the number 0. -/
lemma lt_of_isIdentifierRest_ofNat {m : Nat} (holds : Go.isIdentifierRest (Char.ofNat m)) :
    m < 128 := by
  have ascii := lt_of_isIdentifierRest holds
  have number := Char.toNat_ofNat m
  split at number
  · rwa [number] at ascii
  · have zero : Char.ofNat m = '\x00' := Char.toNat_inj.1 number
    rw [zero] at holds
    exact absurd holds (by decide)

/-- What becomes part of an identifier in upper case is ASCII or one of a few other characters. -/
lemma ascii_or_foldable {c : Char} (holds : ∀ u ∈ upperChar c, Go.isIdentifierRest u) :
    c.toNat < 128 ∨ c.toNat ∈ foldable := by
  have expansions : ∀ e ∈ upperExpansions,
      (∀ m ∈ e.2, Go.isIdentifierRest (Char.ofNat m)) → e.1 ∈ foldable := by
    decide +kernel
  have runs : ∀ r ∈ upperRuns, r.target < 128 → r.first = r.last ∧ r.first ∈ foldable := by
    decide +kernel
  rw [or_iff_not_imp_left]
  intro beyond
  rw [upperChar, if_neg beyond, List.forall_mem_map] at holds
  rcases caseForm_cases upperExpansions upperRuns c.toNat with
    listed | ⟨r, inRuns, first, last, form⟩ | form
  · exact expansions _ listed holds
  · rw [form] at holds
    have small := lt_of_isIdentifierRest_ofNat (holds _ (List.mem_singleton_self _))
    obtain ⟨single, listed⟩ := runs r inRuns (by omega)
    rwa [show c.toNat = r.first by omega]
  · rw [form] at holds
    exact absurd (lt_of_isIdentifierRest_ofNat (holds _ (List.mem_singleton_self _))) beyond

/-- A character that becomes part of an identifier in upper case. -/
structure IsNameChar (c : Char) : Prop where
  kept : isSeparator c = false
  named : ∀ u ∈ upperChar c, Go.isIdentifierRest u

/-- Characters of names fold. -/
lemma IsNameChar.folds {c : Char} (h : IsNameChar c) : Folds c := by
  have beyond : ∀ n ∈ foldable, Folds (Char.ofNat n) := by
    decide +kernel
  rcases ascii_or_foldable h.named with small | listed
  · exact forall_ascii (p := fun c => isSeparator c = false → Folds c) (by decide +kernel) small
      h.kept
  · have folds := beyond c.toNat listed
    rwa [Char.ofNat_toNat] at folds

/-- A character of an identifier stays one in upper case. -/
lemma isIdentifierRest_of_mem_upperChar {c : Char} (holds : Go.isIdentifierRest c) :
    ∀ u ∈ upperChar c, Go.isIdentifierRest u := by
  rw [← List.all_eq_true]
  exact forall_ascii (p := fun c => Go.isIdentifierRest c → (upperChar c).all Go.isIdentifierRest)
    (by decide) (lt_of_isIdentifierRest holds) holds

/-- If a converted word can go on an identifier, each of its characters can in upper case. -/
lemma isIdentifierRest_of_mem_pascalWord {word : List Char}
    (holds : ∀ u ∈ pascalWord word, Go.isIdentifierRest u) {c : Char} (mem : c ∈ word) :
    ∀ u ∈ upperChar c, Go.isIdentifierRest u := by
  rw [pascalWord] at holds
  split at holds
  · exact fun u inForm => holds u (List.mem_flatMap.2 ⟨c, mem, inForm⟩)
  · cases word with
    | nil => cases mem
    | cons d rest =>
      rw [capitalize, List.forall_mem_append] at holds
      rcases List.mem_cons.1 mem with rfl | later
      · exact holds.1
      · exact isIdentifierRest_of_mem_upperChar (holds.2 c later)

variable {name : String}

/-- Behind the separators, a name that becomes an identifier holds nothing but such characters. -/
lemma isNameChar_of_pascal (named : Go.isIdentifier (pascal name)) {c : Char}
    (mem : c ∈ name.toList) (kept : isSeparator c = false) : IsNameChar c := by
  obtain ⟨word, inName, inWord⟩ := exists_chunk_of_mem (p := isSeparator) mem kept
  refine ⟨kept, isIdentifierRest_of_mem_pascalWord (fun u inForm => ?_) inWord⟩
  apply Go.isIdentifierRest_of_mem named
  rw [pascal, String.toList_ofList, pascalChars, List.mem_flatMap]
  exact ⟨word, inName, inForm⟩

/-! ### Pascal case -/

/-- Texts are put into upper case part by part. -/
lemma upper_append (a b : List Char) : upper (a ++ b) = upper a ++ upper b :=
  List.flatMap_append

/-- A name in upper case is in upper case. -/
lemma upper_upper {s : List Char} (named : ∀ c ∈ s, IsNameChar c) : upper (upper s) = upper s := by
  induction s with
  | nil => rfl
  | cons c rest ih =>
    rw [List.forall_mem_cons] at named
    have split : upper (c :: rest) = upperChar c ++ upper rest := rfl
    rw [split, upper_append, named.1.folds.upper_upper, ih named.2]

/-- There are no separators in a name in upper case. -/
lemma filter_upper {s : List Char} (named : ∀ c ∈ s, IsNameChar c) :
    (upper s).filter (!isSeparator ·) = upper s := by
  rw [List.filter_eq_self]
  intro u mem
  obtain ⟨c, inText, inForm⟩ := List.mem_flatMap.1 mem
  exact List.all_eq_true.1 (named c inText).folds.upper_kept u inForm

/-- A word of a name is converted to one with the same form in upper case. -/
lemma upper_filter_pascalWord {word : List Char} (named : ∀ c ∈ word, IsNameChar c) :
    upper ((pascalWord word).filter (!isSeparator ·)) = upper word := by
  rw [pascalWord]
  split
  · rw [filter_upper named, upper_upper named]
  · cases word with
    | nil => rfl
    | cons c rest =>
      rw [List.forall_mem_cons] at named
      have first : (upperChar c).filter (!isSeparator ·) = upperChar c :=
        List.filter_eq_self.2 (List.all_eq_true.1 named.1.folds.upper_kept)
      have later : rest.filter (!isSeparator ·) = rest := by
        rw [List.filter_eq_self]
        intro d mem
        rw [(named.2 d mem).kept]
        rfl
      rw [capitalize, List.filter_append, first, later, upper_append, named.1.folds.upper_upper]
      rfl

/-- Converted words fold to what the words fold to. -/
lemma upper_filter_flatMap_pascalWord {words : List (List Char)}
    (named : ∀ word ∈ words, ∀ c ∈ word, IsNameChar c) :
    upper ((words.flatMap pascalWord).filter (!isSeparator ·)) = upper words.flatten := by
  induction words with
  | nil => rfl
  | cons word rest ih =>
    rw [List.forall_mem_cons] at named
    rw [List.flatMap_cons, List.filter_append, upper_append, upper_filter_pascalWord named.1,
      ih named.2, List.flatten_cons, upper_append]

/-- A name that becomes an identifier becomes one that differs in case and separators only. -/
lemma folded_pascal (named : Go.isIdentifier (pascal name)) : folded (pascal name) = folded name := by
  have words_named : ∀ word ∈ words name.toList, ∀ c ∈ word, IsNameChar c := by
    intro word inName c inWord
    obtain ⟨mem, kept⟩ := mem_of_mem_chunks inName inWord
    exact isNameChar_of_pascal named mem kept
  rw [folded, folded, pascal, String.toList_ofList, pascalChars,
    upper_filter_flatMap_pascalWord words_named, words, flatten_chunks]

/-! ### Snake case -/

/-- A capital sigma, whose form depends on what is around it, is no letter of ASCII. -/
lemma ne_sigma_of_named {c : Char} (named : isSeparator c = false → IsNameChar c) : c ≠ 'Σ' := by
  rintro rfl
  exact absurd ((named (by decide)).named 'Σ' (by decide +kernel)) (by decide)

/-- A separator has no lower case. -/
lemma lowerChar_of_isSeparator {c : Char} (separator : isSeparator c = true) : lowerChar c = [c] := by
  rw [isSeparator, Bool.or_eq_true, beq_iff_eq, beq_iff_eq] at separator
  rcases separator with rfl | rfl <;> decide

/-- A text in lower case folds to what the text folds to. -/
lemma upper_filter_lowerAfter {before s : List Char}
    (named : ∀ c ∈ s, isSeparator c = false → IsNameChar c) :
    upper ((lowerAfter before s).filter (!isSeparator ·)) = upper (s.filter (!isSeparator ·)) := by
  induction s generalizing before with
  | nil => rfl
  | cons c rest ih =>
    rw [List.forall_mem_cons] at named
    rw [lowerAfter, if_neg (ne_sigma_of_named named.1), List.filter_append, upper_append, ih named.2]
    cases separator : isSeparator c with
    | true => simp [lowerChar_of_isSeparator separator, separator, upper]
    | false =>
      have folds := (named.1 separator).folds
      have kept : (lowerChar c).filter (!isSeparator ·) = lowerChar c :=
        List.filter_eq_self.2 (List.all_eq_true.1 folds.lower_kept)
      rw [kept, folds.upper_lower, List.filter_cons_of_pos (by simp [separator])]
      rfl

/-- Joining words with an underscore adds nothing but separators. -/
lemma filter_joinWith (words : List (List Char)) :
    (joinWith ['_'] words).filter (!isSeparator ·) = words.flatten.filter (!isSeparator ·) := by
  induction words with
  | nil => rfl
  | cons word rest ih =>
    cases rest with
    | nil => simp [joinWith]
    | cons next more =>
      have separator : ['_'].filter (!isSeparator ·) = [] := by decide
      rw [joinWith_cons (List.cons_ne_nil next more), List.filter_append, List.filter_append, ih, separator, List.append_nil,
        ← List.filter_append, ← List.flatten_cons]

/-- In words of any style a text without blanks loses nothing but separators. -/
lemma filter_flatten_styledWords {clusters : List (List Char)} (blank : ' ' ∉ clusters.flatten) :
    (styledWords clusters).flatten.filter (!isSeparator ·) =
      clusters.flatten.filter (!isSeparator ·) := by
  induction clusters with
  | nil => rfl
  | cons cluster rest ih =>
    rw [List.flatten_cons, List.mem_append, not_or] at blank
    rw [styledWords, List.flatten_cons, List.filter_append, ← ih blank.2]
    -- A cluster that separates is dropped: it is one separator, as the blank is excluded.
    split
    · rename_i separates
      rw [Name.separates, Bool.or_eq_true, Bool.or_eq_true, beq_iff_eq, beq_iff_eq, beq_iff_eq]
        at separates
      rcases separates with (rfl | rfl) | rfl
      · rfl
      · rfl
      · exact absurd (List.mem_singleton_self ' ') blank.1
    · split
      · rw [List.flatten_cons, List.filter_append]
      · split
        · rename_i none
          rw [none, List.flatten_singleton, List.flatten_nil, List.filter_nil, List.append_nil]
        · rename_i word more split
          rw [split, List.flatten_cons, List.flatten_cons, List.append_assoc, List.filter_append]

/-- Words in lower case fold to what the words fold to. -/
lemma upper_filter_flatten_map_lower {words : List (List Char)}
    (named : ∀ c ∈ words.flatten, isSeparator c = false → IsNameChar c) :
    upper ((words.map lower).flatten.filter (!isSeparator ·)) =
      upper (words.flatten.filter (!isSeparator ·)) := by
  induction words with
  | nil => rfl
  | cons word rest ih =>
    rw [List.flatten_cons, List.forall_mem_append] at named
    rw [List.map_cons, List.flatten_cons, List.flatten_cons, List.filter_append,
      List.filter_append, upper_append, upper_append, lower, upper_filter_lowerAfter named.1,
      ih named.2]

/-- A name that becomes an identifier has a form in snake case that differs from it in case and
separators only. -/
lemma folded_snake (named : Go.isIdentifier (pascal name)) : folded (snake name) = folded name := by
  have flat := flatten_clusters name.toList
  have blank : ' ' ∉ (clusters name.toList).flatten := by
    rw [flat]
    intro mem
    have caseless : IsCaseless ' ' := isCaseless_of_ascii (by decide) (by decide) (by decide)
    have inForm := mem_pascal caseless mem (by decide)
    exact absurd (Go.isIdentifierRest_of_mem named inForm) (by decide)
  have styled_named : ∀ c ∈ (styledWords (clusters name.toList)).flatten,
      isSeparator c = false → IsNameChar c := by
    intro c mem kept
    have inName := mem_flatten_styledWords mem
    rw [flat] at inName
    exact isNameChar_of_pascal named inName kept
  rw [folded, folded, snake, String.toList_ofList, snakeChars, filter_joinWith,
    upper_filter_flatten_map_lower styled_named, filter_flatten_styledWords blank, flat]

end RecordSchema.Name
