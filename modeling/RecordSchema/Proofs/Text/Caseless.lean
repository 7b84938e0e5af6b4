import Mathlib
import RecordSchema.Name
import RecordSchema.Proofs.Go.Generation
import RecordSchema.Proofs.Text.Pieces

/-!
# Characters without case

Changing case leaves digits and punctuation as they are, and it makes none. So a name that becomes an
identifier holds none that an identifier could not hold, whatever else is in it, and neither does its
form in snake case. Main statement: `Name.isIdentifierRest_of_mem_snake`.
-/

namespace RecordSchema

namespace Text

/-- The character is its own form in upper case, and the form in lower case of no other one holds it. -/
structure IsCaseless (c : Char) : Prop where
  upper_eq : upperChar c = [c]
  eq_of_mem_lower : ∀ d, c ∈ lowerChar d → d = c

/-! ### ASCII -/

/-- What holds of the characters of ASCII is checked number by number. -/
lemma forall_ascii {p : Char → Prop} (all : ∀ n < 128, p (Char.ofNat n)) {c : Char}
    (ascii : c.toNat < 128) : p c := by
  have holds := all c.toNat ascii
  rwa [Char.ofNat_toNat] at holds

/-- The form of a code point is listed, or one of the runs shifts it, or it is the code point. -/
lemma caseForm_cases (expansions : List (Nat × List Nat)) (runs : List CaseRun) (n : Nat) :
    (n, caseForm expansions runs n) ∈ expansions ∨
      (∃ r ∈ runs, r.first ≤ n ∧ n ≤ r.last ∧
        caseForm expansions runs n = [r.target + (n - r.first)]) ∨
      caseForm expansions runs n = [n] := by
  unfold caseForm
  split
  · rename_i form found
    obtain ⟨before, after, split, _⟩ := List.lookup_eq_some_iff.1 found
    rw [split]
    exact .inl (List.mem_append_right before List.mem_cons_self)
  · split
    · rename_i image found
      obtain ⟨r, inRuns, covers⟩ := List.exists_of_findSome?_eq_some found
      rw [CaseRun.image?] at covers
      split_ifs at covers with covered
      cases covers
      exact .inr (.inl ⟨r, inRuns, covered.1, covered.2.1, rfl⟩)
    · exact .inr (.inr rfl)

/-- The only code points of ASCII in the forms of others in lower case are letters. -/
lemma isAlpha_of_mem_caseForm {n m : Nat} (beyond : 128 ≤ n)
    (mem : m ∈ caseForm lowerExpansions lowerRuns n) (ascii : m < 128) : (Char.ofNat m).isAlpha := by
  have expansions : ∀ e ∈ lowerExpansions, ∀ m ∈ e.2, m < 128 → (Char.ofNat m).isAlpha := by
    decide
  -- the Kelvin sign is a letter of its own, and no run goes on from it
  have runs : ∀ r ∈ lowerRuns,
      128 ≤ r.target ∨ r.first = r.last ∧ (Char.ofNat r.target).isAlpha := by
    decide +kernel
  rcases caseForm_cases lowerExpansions lowerRuns n with
    listed | ⟨r, inRuns, first, last, form⟩ | form
  · exact expansions _ listed m mem ascii
  · rw [form, List.mem_singleton] at mem
    rcases runs r inRuns with above | ⟨single, letter⟩
    · omega
    · rw [mem, show n - r.first = 0 by omega]
      exact letter
  · rw [form, List.mem_singleton] at mem
    omega

/-- What is no letter of ASCII has no case. -/
lemma isCaseless_of_ascii {c : Char} (ascii : c.toNat < 128) (nonzero : c ≠ '\x00')
    (noLetter : c.isAlpha = false) : IsCaseless c := by
  constructor
  case upper_eq =>
    have stays := forall_ascii (p := fun c => c.isAlpha = false → c.toUpper = c) (by decide) ascii
    rw [upperChar, if_pos ascii, stays noLetter]
  case eq_of_mem_lower =>
    intro d mem
    unfold lowerChar at mem
    split at mem
    · rename_i small
      have stays := forall_ascii (p := fun c => c.toLower.isAlpha = false → c.toLower = c)
        (by decide) small
      rw [← List.mem_singleton.1 mem] at stays
      exact (stays noLetter).symm
    · rename_i beyond
      obtain ⟨n, inForm, eq⟩ := List.mem_map.1 mem
      have letter := isAlpha_of_mem_caseForm (Nat.not_lt.1 beyond) inForm
      -- a number that is no code point gives the character with the number 0
      have number := congrArg Char.toNat eq
      rw [Char.toNat_ofNat] at number
      split at number
      · rw [eq, noLetter, number] at letter
        cases letter ascii
      · exact absurd (Char.toNat_inj.1 number.symm) nonzero

namespace IsCaseless

variable {c : Char}

/-- A caseless character in a text in lower case was there before. -/
lemma mem_of_mem_lowerAfter (caseless : IsCaseless c) {before s : List Char}
    (mem : c ∈ lowerAfter before s) : c ∈ s := by
  induction s generalizing before with
  | nil => cases mem
  | cons d rest ih =>
    rw [lowerAfter, List.mem_append] at mem
    rcases mem with first | later
    · split at first
      · -- both forms of the sigma have case
        split at first
        all_goals
          rw [List.mem_singleton] at first
          subst first
          exact absurd caseless.upper_eq (by decide +kernel)
      · rw [caseless.eq_of_mem_lower d first]
        exact List.mem_cons_self
    · exact List.mem_cons_of_mem d (ih later)

/-- A caseless character stays in upper case. -/
lemma mem_upper (caseless : IsCaseless c) {s : List Char} (mem : c ∈ s) : c ∈ upper s :=
  List.mem_flatMap.2 ⟨c, mem, caseless.upper_eq ▸ List.mem_singleton_self c⟩

end IsCaseless

/-! ### Clusters -/

/-- The clusters of a text are the text. -/
lemma flatten_clustersAfter (cluster s : List Char) :
    (clustersAfter cluster s).flatten = cluster.reverse ++ s := by
  induction s generalizing cluster with
  | nil => simp [clustersAfter]
  | cons c rest ih =>
    rw [clustersAfter]
    split <;> simp [ih]

/-- All clusters together are the text. -/
lemma flatten_clusters (s : List Char) : (clusters s).flatten = s := by
  cases s with
  | nil => rfl
  | cons c rest => exact flatten_clustersAfter [c] rest

end Text

/-! ### Names -/

namespace Name

open Text

variable {name : String} {c : Char}

/-- A caseless character stays in a converted word. -/
lemma mem_pascalWord (caseless : IsCaseless c) {word : List Char} (mem : c ∈ word) :
    c ∈ pascalWord word := by
  rw [pascalWord]
  split
  · exact caseless.mem_upper mem
  · cases word with
    | nil => cases mem
    | cons d rest =>
      rw [capitalize, List.mem_append]
      rcases List.mem_cons.1 mem with rfl | mem
      · rw [caseless.upper_eq]
        exact .inl List.mem_cons_self
      · exact .inr mem

/-- What has no case stays in a name when the separators go. -/
lemma mem_pascal (caseless : IsCaseless c) (mem : c ∈ name.toList) (stays : isSeparator c = false) :
    c ∈ (pascal name).toList := by
  obtain ⟨word, inName, inWord⟩ := exists_chunk_of_mem (p := isSeparator) mem stays
  rw [pascal, String.toList_ofList, pascalChars, List.mem_flatMap]
  exact ⟨word, inName, mem_pascalWord caseless inWord⟩

/-- The words of a name in any style hold nothing but its clusters. -/
lemma mem_flatten_styledWords {clusters : List (List Char)}
    (mem : c ∈ (styledWords clusters).flatten) : c ∈ clusters.flatten := by
  induction clusters with
  | nil => simp [styledWords] at mem
  | cons cluster rest ih =>
    rw [styledWords] at mem
    rw [List.flatten_cons, List.mem_append]
    split at mem
    · exact .inr (ih mem)
    · split at mem
      · rw [List.flatten_cons, List.mem_append] at mem
        exact mem.imp_right ih
      · split at mem
        · rw [List.flatten_singleton] at mem
          exact .inl mem
        · rename_i word more split
          rw [List.flatten_cons, List.append_assoc, List.mem_append, ← List.flatten_cons,
            ← split] at mem
          exact mem.imp_right ih

/-- What has no case in snake case stood in the name, or it is the separator. -/
lemma mem_of_mem_snake (caseless : IsCaseless c) (mem : c ∈ (snake name).toList) (ne : c ≠ '_') :
    c ∈ name.toList := by
  rw [snake, String.toList_ofList, snakeChars] at mem
  rcases mem_of_mem_joinWith mem with between | ⟨word, lowered, inWord⟩
  · exact absurd (List.mem_singleton.1 between) ne
  · obtain ⟨word, inWords, rfl⟩ := List.mem_map.1 lowered
    rw [← flatten_clusters name.toList]
    apply mem_flatten_styledWords
    exact List.mem_flatten.2 ⟨word, inWords, caseless.mem_of_mem_lowerAfter inWord⟩

/-- Of what has no case, the form in snake case of a name that becomes an identifier holds only what an
identifier may hold. -/
lemma isIdentifierRest_of_mem_snake (named : Go.isIdentifier (pascal name)) (caseless : IsCaseless c)
    (mem : c ∈ (snake name).toList) (stays : isSeparator c = false) : Go.isIdentifierRest c := by
  have ne : c ≠ '_' := by
    rintro rfl
    cases stays
  exact Go.isIdentifierRest_of_mem named
    (mem_pascal caseless (mem_of_mem_snake caseless mem ne) stays)

end Name

end RecordSchema
