import Mathlib
import RecordSchema.Proofs.Source.Trailing
import RecordSchema.Proofs.Text.Pieces
import RecordSchema.Proofs.Text.Trimming

/-!
# Blocks of comments

The head comment of a node is the whole block of comment lines above it, when the node is the first thing on
its line. Main statements: `exists_run_commentBlock`, the scan upwards from a line stops where the longest
run of comment lines begins, and `head_comments_are_blocks`.
-/

namespace RecordSchema

open Text

/-- A comment, and nothing in front of it but white space. -/
def IsCommentOnly (line : List Char) : Prop :=
  ∃ indent comment, line = indent ++ '#' :: comment ∧ ∀ c ∈ indent, isBlank c

/-- The test finds the lines that hold nothing but a comment. -/
lemma isCommentLine_iff {line : List Char} : isCommentLine line ↔ IsCommentOnly line := by
  rw [isCommentLine, beq_iff_eq, trimStart, trimStartWhere]
  constructor
  · intro marked
    obtain ⟨comment, left⟩ := List.head?_eq_some_iff.1 marked
    refine ⟨line.takeWhile isBlank, comment, ?_, fun c => List.mem_takeWhile_imp⟩
    rw [← left, List.takeWhile_append_dropWhile]
  · rintro ⟨indent, comment, rfl, blank⟩
    rw [List.dropWhile_append_of_pos blank, List.dropWhile_cons_of_neg (by decide), List.head?_cons]

namespace SourceLines

variable (s : SourceLines)

/-- The lines with the numbers after `start`, up to `last`, are the longest run of comment lines that ends
with `last`. -/
structure IsCommentRun (start last : Nat) : Prop where
  start_le : start ≤ last
  comments : ∀ n, start < n → n ≤ last → ∃ line ∈ s.line? n, IsCommentOnly line
  longest : ∀ line ∈ s.line? start, ¬ IsCommentOnly line

/-- The comment is what stands directly above the line with a number: the longest run of comment lines, each
of them trimmed, from top to bottom. -/
structure IsBlockAbove (number : Nat) (comment : String) : Prop where
  run : ∃ start block, s.IsCommentRun start (number - 1) ∧
    List.Forall₂ (IsTrimmed isBlank) ((s.take (number - 1)).drop start) block ∧
    comment.toList = ['\n'].intercalate block
  empty : (∀ line ∈ s.line? (number - 1), ¬ IsCommentOnly line) → comment = ""

/-- There is a line with the number of the position, and nothing in front of the position but white space and
the indicators of block collections. -/
def IsFirst (p : Position) : Prop :=
  ∃ line ∈ s.line? p.line.toNat, ∀ c ∈ line.take (p.column.toNat - 1), isBlank c ∨ c = '-' ∨ c = '?'

/-- The comment is that of a node at the position: the block above its line if the node is the first on it,
and otherwise none. -/
structure IsHeadAt (p : Position) (comment : String) : Prop where
  first : s.IsFirst p → s.IsBlockAbove p.line.toNat comment
  later : ¬ s.IsFirst p → comment = ""

variable {s}

/-- The test finds the places with nothing but indicators in front of them. -/
lemma isFirstOnLine_iff {p : Position} : s.isFirstOnLine p ↔ s.IsFirst p := by
  rw [isFirstOnLine, IsFirst, Option.any_eq_true]
  simp only [List.all_eq_true, Bool.or_eq_true, beq_iff_eq, or_assoc, Option.mem_def]

/-! ### The scan upwards -/

/-- One more line, which is a comment, makes the run longer. -/
lemma IsCommentRun.succ {start last : Nat} (run : s.IsCommentRun start last) {line : List Char}
    (here : s.line? (last + 1) = some line) (comment : IsCommentOnly line) :
    s.IsCommentRun start (last + 1) where
  start_le := Nat.le_succ_of_le run.start_le
  comments := by
    intro n after upTo
    rcases Nat.lt_or_eq_of_le upTo with before | rfl
    · exact run.comments n after (Nat.le_of_lt_succ before)
    · exact ⟨line, here, comment⟩
  longest := run.longest

/-- A line that is no comment, or missing, ends any run above it. -/
lemma isCommentRun_self {last : Nat} (none : ∀ line ∈ s.line? last, ¬ IsCommentOnly line) :
    s.IsCommentRun last last where
  start_le := le_refl last
  comments := fun _ after upTo => absurd after (Nat.not_lt_of_le upTo)
  longest := none

/-- The lines up to the next one are those before it and that one. -/
lemma drop_take_succ {start last : Nat} (start_le : start ≤ last) {line : List Char}
    (here : s[last]? = some line) :
    (s.take (last + 1)).drop start = (s.take last).drop start ++ [line] := by
  have inSource : last < s.length := (List.getElem?_eq_some_iff.1 here).1
  have above : start ≤ (s.take last).length := by
    rw [List.length_take_of_le (Nat.le_of_lt inSource)]
    exact start_le
  rw [List.take_add_one, here, List.drop_append_of_le_length above]
  rfl

/-- The scan from a line upwards takes the longest run of comment lines. -/
lemma exists_run_commentBlock (s : SourceLines) (last : Nat) :
    ∃ start, s.IsCommentRun start last ∧ s.commentBlock last = ((s.take last).drop start).map trim := by
  induction last with
  | zero => exact ⟨0, isCommentRun_self (by nofun), rfl⟩
  | succ last ih =>
    -- the scan stops at a line that is missing or no comment, and then the run is empty
    have stop (none : ∀ line ∈ s.line? (last + 1), ¬ IsCommentOnly line) :
        ∃ start, s.IsCommentRun start (last + 1) ∧
          [] = ((s.take (last + 1)).drop start).map trim := by
      refine ⟨last + 1, isCommentRun_self none, ?_⟩
      rw [List.drop_eq_nil_of_le (List.length_take_le _ _), List.map_nil]
    rw [commentBlock]
    cases here : s[last]? with
    | none =>
      apply stop
      intro line isHere
      cases here.symm.trans (Option.mem_def.1 isHere)
    | some line =>
      by_cases comment : isCommentLine line
      · obtain ⟨start, run, block⟩ := ih
        refine ⟨start, run.succ here (isCommentLine_iff.1 comment), ?_⟩
        simp only [if_pos comment]
        rw [block, drop_take_succ run.start_le here, List.map_append, List.map_singleton]
      · simp only [if_neg comment]
        apply stop
        intro line isHere isComment
        cases here.symm.trans (Option.mem_def.1 isHere)
        exact comment (isCommentLine_iff.2 isComment)

/-- Without a comment line directly above there is no block. -/
lemma commentBlock_eq_nil {last : Nat} (none : ∀ line ∈ s.line? last, ¬ IsCommentOnly line) :
    s.commentBlock last = [] := by
  obtain ⟨start, run, block⟩ := s.exists_run_commentBlock last
  rcases Nat.lt_or_eq_of_le run.start_le with before | rfl
  · obtain ⟨line, here, comment⟩ := run.comments last before (le_refl last)
    exact absurd comment (none line here)
  · rw [block, List.drop_eq_nil_of_le (List.length_take_le _ _), List.map_nil]

/-- What is found above a line is the block of comments there. -/
lemma isBlockAbove_headComment (s : SourceLines) (number : Nat) :
    s.IsBlockAbove number (s.headComment number) where
  run := by
    obtain ⟨start, run, block⟩ := s.exists_run_commentBlock (number - 1)
    refine ⟨start, s.commentBlock (number - 1), run, ?_, ?_⟩
    · rw [block, List.forall₂_map_right_iff, List.forall₂_same]
      exact fun line _ => isTrimmed_trimWhere line
    · rw [headComment, String.toList_ofList, joinWith_eq_intercalate]
  empty := by
    intro none
    rw [headComment, commentBlock_eq_nil none]
    rfl

/-! ### Nodes -/

/-- A node carries the block of comments above it if it is the first on its line. -/
lemma isHeadAt_infoAt (s : SourceLines) (p : Position) : s.IsHeadAt p (s.infoAt p).head where
  first := by
    intro first
    rw [infoAt, if_pos (isFirstOnLine_iff.2 first)]
    exact s.isBlockAbove_headComment p.line.toNat
  later := by
    intro later
    rw [infoAt, if_neg (mt isFirstOnLine_iff.1 later)]

/-- Each node of a document has the head comment of its place. -/
lemma isHeadAt_attachTrailing (s : SourceLines) (tree : Yaml.Tree) :
    ∀ m ∈ (s.attachTrailing (Node.ofTree s tree)).preorder 0, s.IsHeadAt m.2.info.position m.2.info.head := by
  refine forall_mem_of_map_eq (s.faces_attachTrailing _)
    (P := fun b => s.IsHeadAt b.info.position b.info.head) fun b numbered => ?_
  have inTree : b.1 ∈ (Node.ofTree s tree).faces := List.fst_mem_of_mem_zipIdx numbered
  obtain ⟨m, mem, face⟩ := List.mem_map.1 inTree
  have info : b.1.info = s.infoAt b.1.info.position := by
    rw [← face]
    exact info_ofTree s 0 tree m mem
  rw [Face.renumbered, position_withTrailing, head_withTrailing, info]
  exact s.isHeadAt_infoAt _

end SourceLines

/-- What is looked up above a line is the longest run of comment lines that ends directly above it, whatever
the number of the line. So the head comment of a node is that run when there is a line at its place on which
it comes first, and empty otherwise; and this holds of each node of the documents of a text. -/
theorem head_comments_are_blocks :
    (∀ (s : SourceLines) (number : Nat), s.IsBlockAbove number (s.headComment number)) ∧
    (∀ (s : SourceLines) (p : Position), s.IsHeadAt p (s.infoAt p).head) ∧
    ∀ text docs, readDocuments text = .ok docs → ∀ doc ∈ docs, ∀ m ∈ doc.preorder 0,
      (SourceLines.ofText text).IsHeadAt m.2.info.position m.2.info.head := by
  refine ⟨SourceLines.isBlockAbove_headComment, SourceLines.isHeadAt_infoAt, ?_⟩
  intro text docs read doc mem
  unfold readDocuments at read
  split at read
  · cases read
  · split at read
    · cases read
    · cases read
      obtain ⟨tree, _, rfl⟩ := List.mem_map.1 mem
      exact SourceLines.isHeadAt_attachTrailing _ tree

/-- A comment that stands apart, and a block of two comments above an item. -/
def blockText : String :=
  "# detached\n\n  # one\n# two \n- name: string\n"

/-- The places of the nodes of some documents, and their head comments. -/
def headsOf (docs : List Node) : List (Position × String) :=
  docs.flatMap fun doc => (doc.preorder 0).map fun m => (m.2.info.position, m.2.info.head)

/-- The key of the item in `blockText` has the two comments above it, and nothing of the one that stands
apart. -/
theorem head_comments_are_blocks_item :
    ∃ docs, readDocuments blockText = .ok docs ∧
      ∃ doc ∈ docs, ∃ m ∈ doc.preorder 0, m.2.info.position = ⟨5, 3, 29⟩ ∧
        m.2.info.head = "# one\n# two" ∧
        (SourceLines.ofText blockText).IsBlockAbove 5 m.2.info.head := by
  have heads : (readDocuments blockText).toOption.map headsOf =
      some [(⟨5, 1, 27⟩, "# one\n# two"), (⟨5, 7, 33⟩, ""), (⟨5, 3, 29⟩, "# one\n# two"),
        (⟨5, 9, 35⟩, "")] := by
    decide +kernel
  cases read : readDocuments blockText with
  | error e =>
    rw [read] at heads
    cases heads
  | ok docs =>
    rw [read] at heads
    have listed : (⟨5, 3, 29⟩, "# one\n# two") ∈ headsOf docs := by
      rw [Option.some.inj heads]
      simp
    obtain ⟨doc, inDocs, inDoc⟩ := List.mem_flatMap.1 listed
    obtain ⟨m, mem, eq⟩ := List.mem_map.1 inDoc
    obtain ⟨position, head⟩ := Prod.mk.inj eq
    have headAt := head_comments_are_blocks.2.2 blockText docs read doc inDocs m mem
    rw [position] at headAt
    have first : (SourceLines.ofText blockText).isFirstOnLine ⟨5, 3, 29⟩ := by decide +kernel
    exact ⟨docs, rfl, doc, inDocs, m, mem, position, head,
      headAt.first (SourceLines.isFirstOnLine_iff.1 first)⟩

end RecordSchema
