import Mathlib
import RecordSchema.Proofs.Source.Numbering
import RecordSchema.Source.Reading

/-!
# Comments behind content

The comment of a line goes to one node: among the nodes that start on the line and may take it, the
last of those with the least depth. Main statements: `isLastLeast_of_foldl`, what the search for the
best candidate finds, `faces_attachTrailing`, which node is given what, and `trailing_comments_exact`.
-/

namespace RecordSchema

/-! ### The best candidate -/

namespace Candidate

/-- The last of the candidates with the least depth. -/
def IsLastLeast (candidates : List Candidate) (c : Candidate) : Prop :=
  ∃ before after, candidates = before ++ c :: after ∧ (∀ b ∈ before, c.depth ≤ b.depth) ∧
    ∀ b ∈ after, c.depth < b.depth

/-- None of the candidates lies less deep than the chosen one. -/
lemma IsLastLeast.depth_le {candidates : List Candidate} {c : Candidate}
    (least : IsLastLeast candidates c) : ∀ b ∈ candidates, c.depth ≤ b.depth := by
  obtain ⟨before, after, rfl, above, below⟩ := least
  intro b mem
  rcases List.mem_append.1 mem with mem | mem
  · exact above b mem
  · rcases List.mem_cons.1 mem with rfl | mem
    · exact le_refl _
    · exact le_of_lt (below b mem)

/-- The search finds nobody only where there is nobody. -/
lemma eq_nil_of_foldl {candidates : List Candidate} (none : candidates.foldl better none = none) :
    candidates = [] := by
  induction candidates using List.reverseRecOn with
  | nil => rfl
  | append_singleton rest c _ =>
    rw [List.foldl_concat] at none
    unfold better at none
    split at none
    · cases none
    · split at none <;> cases none

/-- The search finds the last of those with the least depth. -/
lemma isLastLeast_of_foldl {candidates : List Candidate} {c : Candidate}
    (found : candidates.foldl better none = some c) : IsLastLeast candidates c := by
  induction candidates using List.reverseRecOn generalizing c with
  | nil => cases found
  | append_singleton rest d ih =>
    rw [List.foldl_concat] at found
    cases earlier : rest.foldl better none with
    | none =>
      rw [earlier] at found
      cases found
      rw [eq_nil_of_foldl earlier]
      exact ⟨[], [], rfl, by simp, by simp⟩
    | some b =>
      have least := ih earlier
      rw [earlier, better] at found
      split at found
      · -- the new one is at least as good, and nothing comes after it
        rename_i le
        cases found
        exact ⟨rest, [], rfl, fun e mem => le.trans (least.depth_le e mem), by simp⟩
      · rename_i deeper
        cases found
        obtain ⟨before, after, rfl, above, below⟩ := least
        refine ⟨before, after ++ [d], by simp, above, ?_⟩
        intro e mem
        rcases List.mem_append.1 mem with mem | mem
        · exact below e mem
        · rw [List.mem_singleton] at mem
          rw [mem]
          exact Nat.lt_of_not_le deeper

end Candidate

/-! ### The candidates of a line -/

namespace SourceLines

variable (s : SourceLines)

/-- The character at a position of the source. -/
def charAt? (p : Position) : Option Char :=
  (s.line? p.line.toNat).bind (·[p.column.toNat - 1]?)

/-- A node that starts on the line and may take its comment: it is null or a scalar, or there is an
opening bracket where it starts. -/
def IsCandidate (line : Nat) (shape : Shape) (info : Info) : Prop :=
  info.position.line.toNat = line ∧
    (shape = .null ∨ shape = .scalar ∨ s.charAt? info.position = some '[' ∨
      s.charAt? info.position = some '\x7b')

/-- Whether a node is a candidate for the comment of a line can be decided. -/
instance (line : Nat) (shape : Shape) (info : Info) : Decidable (s.IsCandidate line shape info) :=
  inferInstanceAs (Decidable (_ ∧ _))

/-- A collection in flow style starts with a bracket or a brace. -/
lemma startsFlow_iff (p : Position) :
    s.startsFlow p ↔ s.charAt? p = some '[' ∨ s.charAt? p = some '\x7b' := by
  rw [startsFlow, charAt?]
  cases s.line? p.line.toNat with
  | none => simp
  | some text => cases found : text[p.column.toNat - 1]? <;> simp [found]

/-- A node takes comments when it is a candidate for its line. -/
lemma takesComment_iff (n : Node) (line : Nat) :
    (s.takesComment n ∧ n.info.position.line.toNat = line) ↔ s.IsCandidate line n.shape n.info := by
  rw [takesComment, IsCandidate, ← startsFlow_iff]
  cases n.shape <;> simp [and_comm]

/-- What a numbered node is to the search for a line. -/
def candidateOn (line : Nat) (a : Face × Nat) : Option Candidate :=
  if s.IsCandidate line a.1.shape a.1.info then some ⟨a.2, a.1.depth, line⟩ else none

/-- The search for a line goes through the candidates of the line, numbered in pre-order. -/
lemma winner?_candidates (root : Node) (line : Nat) :
    Candidate.winner? (s.candidates root) line =
      (root.faces.zipIdx.filterMap (s.candidateOn line)).foldl Candidate.better none := by
  rw [Candidate.winner?, candidates, Node.faces, List.zipIdx_map, List.filterMap_map,
    List.filter_filterMap]
  congr 1
  apply List.filterMap_congr
  rintro ⟨⟨depth, n⟩, number⟩ -
  have candidate := s.takesComment_iff n line
  by_cases takes : s.takesComment n
  · by_cases starts : n.info.position.line.toNat = line
    · simp [candidateOn, Face.of, ← candidate, takes, starts]
    · simp [candidateOn, Face.of, ← candidate, takes, starts]
  · simp [candidateOn, Face.of, ← candidate, takes]

variable {s}

/-- A search that finds nobody shows that there is no candidate. -/
lemma not_isCandidate_of_winner? {root : Node} {line : Nat}
    (none : Candidate.winner? (s.candidates root) line = none) :
    ∀ a ∈ root.faces.zipIdx, ¬ s.IsCandidate line a.1.shape a.1.info := by
  rw [winner?_candidates] at none
  have empty := List.filterMap_eq_nil_iff.1 (Candidate.eq_nil_of_foldl none)
  intro a mem candidate
  have absent := empty a mem
  rw [candidateOn, if_pos candidate] at absent
  cases absent

/-- A search that finds a candidate shows where it stands: it is at least as shallow as those before
it, and shallower than those after it. -/
lemma exists_split_of_winner? {root : Node} {line : Nat} {c : Candidate}
    (found : Candidate.winner? (s.candidates root) line = some c) :
    ∃ (before : List (Face × Nat)) (a : Face) (after : List (Face × Nat)),
      root.faces.zipIdx = before ++ (a, c.number) :: after ∧
      s.IsCandidate line a.shape a.info ∧
      (∀ b ∈ before, s.IsCandidate line b.1.shape b.1.info → a.depth ≤ b.1.depth) ∧
      ∀ b ∈ after, s.IsCandidate line b.1.shape b.1.info → a.depth < b.1.depth := by
  rw [winner?_candidates] at found
  obtain ⟨above, below, split, ge, gt⟩ := Candidate.isLastLeast_of_foldl found
  obtain ⟨left, right, faces, rfl, rest⟩ := List.filterMap_eq_append_iff.1 split
  obtain ⟨gap, ⟨a, number⟩, after, rfl, skipped, taken, rfl⟩ := List.filterMap_eq_cons_iff.1 rest
  have kept {b : Face × Nat} {members : List (Face × Nat)} (mem : b ∈ members)
      (candidate : s.IsCandidate line b.1.shape b.1.info) :
      ⟨b.2, b.1.depth, line⟩ ∈ members.filterMap (s.candidateOn line) :=
    List.mem_filterMap.2 ⟨b, mem, if_pos candidate⟩
  unfold candidateOn at taken
  split at taken
  case isFalse => cases taken
  case isTrue candidate =>
    cases taken
    refine ⟨left ++ gap, a, after, by simp [faces], candidate, ?_, ?_⟩
    · intro b mem candidate
      rcases List.mem_append.1 mem with mem | mem
      · exact ge _ (kept mem candidate)
      · -- between the last candidate before and this one there is none
        have absent := skipped b mem
        rw [candidateOn, if_pos candidate] at absent
        cases absent
    · exact fun b mem candidate => gt _ (kept mem candidate)

/-! ### Giving out comments -/

/-- Nothing is given out but comments behind content. -/
lemma withTrailing_eq (candidates : List Candidate) (number : Nat) (i : Info) :
    s.withTrailing candidates number i =
      { i with line := (s.withTrailing candidates number i).line } := by
  unfold withTrailing
  dsimp only
  repeat' split
  all_goals rfl

/-- A comment behind a node does not move it. -/
lemma position_withTrailing (candidates : List Candidate) (number : Nat) (i : Info) :
    (s.withTrailing candidates number i).position = i.position := by
  rw [withTrailing_eq]

/-- A comment behind a node leaves the one above it as it is. -/
lemma head_withTrailing (candidates : List Candidate) (number : Nat) (i : Info) :
    (s.withTrailing candidates number i).head = i.head := by
  rw [withTrailing_eq]

/-- The node that was found is given the comment of its line, and nothing is given to any other. -/
lemma line_withTrailing {candidates : List Candidate} {c : Candidate} {i : Info} {comment : String}
    (found : Candidate.winner? candidates i.position.line.toNat = some c)
    (trailing : s.trailingComment? i.position.line.toNat = some comment) :
    (s.withTrailing candidates c.number i).line = comment := by
  simp [withTrailing, found, trailing]

/-- A node that was not chosen gets no comment. -/
lemma withTrailing_of_ne {candidates : List Candidate} {c : Candidate} {i : Info} {number : Nat}
    (found : Candidate.winner? candidates i.position.line.toNat = some c)
    (other : number ≠ c.number) : s.withTrailing candidates number i = i := by
  simp [withTrailing, found, Ne.symm other]

/-- On a line without candidates no node gets a comment. -/
lemma withTrailing_of_none {candidates : List Candidate} {i : Info} (number : Nat)
    (none : Candidate.winner? candidates i.position.line.toNat = none) :
    s.withTrailing candidates number i = i := by
  simp [withTrailing, none]

/-- On a line without a comment no node gets one. -/
lemma withTrailing_of_no_comment (candidates : List Candidate) {i : Info} (number : Nat)
    (none : s.trailingComment? i.position.line.toNat = none) :
    s.withTrailing candidates number i = i := by
  simp only [withTrailing, none]
  split
  · split <;> rfl
  · rfl

variable (s) in
/-- The nodes of a tree after the comments have been given out by number. -/
lemma faces_attachTrailing (root : Node) :
    (s.attachTrailing root).faces =
      root.faces.zipIdx.map (Face.renumbered (s.withTrailing (s.candidates root))) :=
  root.faces_mapNumbered _

/-- A node is a candidate before the comments are given out exactly when it is one after that. -/
lemma isCandidate_renumbered {candidates : List Candidate} {line : Nat} {a : Face × Nat} :
    s.IsCandidate line (Face.renumbered (s.withTrailing candidates) a).shape
        (Face.renumbered (s.withTrailing candidates) a).info ↔
      s.IsCandidate line a.1.shape a.1.info := by
  simp only [IsCandidate, Face.renumbered, position_withTrailing]

/-- A number belongs to one node only. -/
lemma number_ne_of_split {faces : List Face} {before after : List (Face × Nat)} {a : Face}
    {number : Nat} (split : faces.zipIdx = before ++ (a, number) :: after) :
    ∀ b ∈ before ++ after, b.2 ≠ number := by
  have distinct : (faces.zipIdx.map Prod.snd).Nodup := by
    rw [List.zipIdx_map_snd]
    exact List.nodup_range'
  rw [split, List.map_append, List.map_cons, List.nodup_middle, ← List.map_append,
    List.nodup_cons] at distinct
  rintro b mem rfl
  exact distinct.1 (List.mem_map.2 ⟨b, mem, rfl⟩)

/-- A node takes the comment of a line: it is a candidate, between the others in pre-order the last one
of the least depth, and no other node that starts on the line has a comment behind it. -/
structure TakesComment (s : SourceLines) (doc : Node) (line : Nat) (comment : String)
    (before : List (Nat × Node)) (taker : Nat × Node) (after : List (Nat × Node)) : Prop where
  preorder : doc.preorder 0 = before ++ taker :: after
  candidate : s.IsCandidate line taker.2.shape taker.2.info
  comment : taker.2.info.line = comment
  above : ∀ m ∈ before, s.IsCandidate line m.2.shape m.2.info → taker.1 ≤ m.1
  below : ∀ m ∈ after, s.IsCandidate line m.2.shape m.2.info → taker.1 < m.1
  others : ∀ m ∈ before ++ after, m.2.info.position.line.toNat = line → m.2.info.line = ""

/-- A line has a comment behind its content, and there is a node that may take it. -/
def HasTaker (s : SourceLines) (doc : Node) (line : Nat) (comment : String) : Prop :=
  s.trailingComment? line = some comment ∧
    ∃ m ∈ doc.preorder 0, s.IsCandidate line m.2.shape m.2.info

variable {root : Node}

/-- What is true of the changed members of one list is true of those of another one with the same
images. -/
lemma forall_mem_of_map_eq {α β γ : Type} {f : α → γ} {g : β → γ} {as : List α} {bs : List β}
    (same : as.map f = bs.map g) {P : γ → Prop} (all : ∀ b ∈ bs, P (g b)) : ∀ a ∈ as, P (f a) := by
  rw [← List.forall_mem_map, same, List.forall_mem_map]
  exact all

/-- In a tree without comments behind nodes, a node that is not changed has none. -/
lemma line_renumbered (blank : ∀ a ∈ root.faces, a.info.line = "") {f : Nat → Info → Info}
    {a : Face × Nat} (mem : a ∈ root.faces.zipIdx) (same : f a.2 a.1.info = a.1.info) :
    (Face.renumbered f a).info.line = "" := by
  have inFaces : a.1 ∈ root.faces.zipIdx.map Prod.fst := List.mem_map_of_mem mem
  rw [List.zipIdx_map_fst] at inFaces
  rw [Face.renumbered, same]
  exact blank a.1 inFaces

/-- The node that is found takes the comment of the line. -/
lemma exists_takesComment (blank : ∀ a ∈ root.faces, a.info.line = "") {line : Nat}
    {comment : String} {c : Candidate} (trailing : s.trailingComment? line = some comment)
    (found : Candidate.winner? (s.candidates root) line = some c) :
    ∃ before taker after,
      s.TakesComment (s.attachTrailing root) line comment before taker after := by
  obtain ⟨before, a, after, split, candidate, ge, gt⟩ := exists_split_of_winner? found
  -- the nodes of the document are split where those of the tree were
  have faces := s.faces_attachTrailing root
  rw [split, List.map_append, List.map_cons] at faces
  obtain ⟨left, rest, preorder, leftFaces, restFaces⟩ := List.map_eq_append_iff.1 faces
  obtain ⟨taker, right, rfl, taken, rightFaces⟩ := List.map_eq_cons_iff.1 restFaces
  have depth : taker.1 = a.depth := congrArg Face.depth taken
  have info : taker.2.info = s.withTrailing (s.candidates root) c.number a.info :=
    congrArg Face.info taken
  refine ⟨left, taker, right, preorder, ?candidate, ?comment, ?above, ?below, ?others⟩
  case candidate =>
    show s.IsCandidate line (Face.of taker).shape (Face.of taker).info
    rw [taken, isCandidate_renumbered]
    exact candidate
  case comment =>
    obtain ⟨starts, _⟩ := candidate
    rw [info]
    exact line_withTrailing (starts ▸ found) (starts ▸ trailing)
  case above =>
    rw [depth]
    exact forall_mem_of_map_eq leftFaces
      (P := fun b => s.IsCandidate line b.shape b.info → a.depth ≤ b.depth)
      fun b mem candidate => ge b mem (isCandidate_renumbered.1 candidate)
  case below =>
    rw [depth]
    exact forall_mem_of_map_eq rightFaces
      (P := fun b => s.IsCandidate line b.shape b.info → a.depth < b.depth)
      fun b mem candidate => gt b mem (isCandidate_renumbered.1 candidate)
  case others =>
    have same : (left ++ right).map Face.of =
        (before ++ after).map (Face.renumbered (s.withTrailing (s.candidates root))) := by
      rw [List.map_append, List.map_append, leftFaces, rightFaces]
    refine forall_mem_of_map_eq same
      (P := fun b => b.info.position.line.toNat = line → b.info.line = "") fun b mem starts => ?_
    have other := number_ne_of_split split b mem
    have inRoot : b ∈ root.faces.zipIdx := by
      rw [split, List.mem_append, List.mem_cons]
      exact (List.mem_append.1 mem).imp_right .inr
    rw [Face.renumbered, position_withTrailing] at starts
    exact line_renumbered blank inRoot (withTrailing_of_ne (starts ▸ found) other)

/-- The nodes of a line have no comments behind them when none is found that may take it, or when the
line has no comment behind its content. -/
lemma line_attachTrailing (blank : ∀ a ∈ root.faces, a.info.line = "") {line : Nat}
    (h : Candidate.winner? (s.candidates root) line = none ∨ s.trailingComment? line = none) :
    ∀ m ∈ (s.attachTrailing root).preorder 0,
      m.2.info.position.line.toNat = line → m.2.info.line = "" := by
  refine forall_mem_of_map_eq (s.faces_attachTrailing root)
    (P := fun b => b.info.position.line.toNat = line → b.info.line = "") fun b inRoot starts => ?_
  rw [Face.renumbered, position_withTrailing] at starts
  subst starts
  apply line_renumbered blank inRoot
  rcases h with none | none
  · exact withTrailing_of_none b.2 none
  · exact withTrailing_of_no_comment _ b.2 none

/-- A line has candidates exactly when one is found. -/
lemma exists_candidate_iff {line : Nat} :
    (∃ m ∈ (s.attachTrailing root).preorder 0, s.IsCandidate line m.2.shape m.2.info) ↔
      ∃ c, Candidate.winner? (s.candidates root) line = some c := by
  constructor
  · rintro ⟨m, mem, candidate⟩
    by_contra absent
    have none := Option.eq_none_iff_forall_ne_some.2 fun c found => absent ⟨c, found⟩
    refine forall_mem_of_map_eq (s.faces_attachTrailing root)
      (P := fun b => ¬ s.IsCandidate line b.shape b.info) (fun b inRoot candidate => ?_) m mem
      candidate
    exact not_isCandidate_of_winner? none b inRoot (isCandidate_renumbered.1 candidate)
  · rintro ⟨c, found⟩
    obtain ⟨before, a, after, split, candidate, _⟩ := exists_split_of_winner? found
    have face : Face.renumbered (s.withTrailing (s.candidates root)) (a, c.number) ∈
        (s.attachTrailing root).faces := by
      rw [faces_attachTrailing, split]
      exact List.mem_map_of_mem (by simp)
    obtain ⟨m, inDoc, eq⟩ := List.mem_map.1 face
    refine ⟨m, inDoc, ?_⟩
    show s.IsCandidate line (Face.of m).shape (Face.of m).info
    rw [eq, isCandidate_renumbered]
    exact candidate

end SourceLines

/-! ### Documents -/

mutual

/-- The nodes of a tree carry at first what the source has for their places, and nothing else. -/
lemma info_ofTree (s : SourceLines) (depth : Nat) (t : Yaml.Tree) :
    ∀ m ∈ (Node.ofTree s t).preorder depth, m.2.info = s.infoAt m.2.info.position := by
  match t with
  | .scalar site plain text =>
    rw [Node.ofTree]
    split
    · exact List.forall_mem_singleton.2 rfl
    · exact List.forall_mem_singleton.2 rfl
  | .reference mark _ => exact List.forall_mem_singleton.2 rfl
  | .sequence site items => exact List.forall_mem_cons.2 ⟨rfl, info_ofItems s (depth + 1) items⟩
  | .mapping site entries => exact List.forall_mem_cons.2 ⟨rfl, info_ofEntries s (depth + 1) entries⟩

/-- The items of a sequence carry at first what the source has for their places. -/
lemma info_ofItems (s : SourceLines) (depth : Nat) (items : List Yaml.Tree) :
    ∀ m ∈ Node.preorderItems depth (Node.ofItems s items), m.2.info = s.infoAt m.2.info.position := by
  match items with
  | [] => simp [Node.ofItems, Node.preorderItems]
  | t :: rest =>
    simp only [Node.ofItems, Node.preorderItems, List.forall_mem_append]
    exact ⟨info_ofTree s depth t, info_ofItems s depth rest⟩

/-- The entries of a mapping carry at first what the source has for their places. -/
lemma info_ofEntries (s : SourceLines) (depth : Nat) (entries : List (Yaml.Tree × Yaml.Tree)) :
    ∀ m ∈ Node.preorderEntries depth (Node.ofEntries s entries),
      m.2.info = s.infoAt m.2.info.position := by
  match entries with
  | [] => simp [Node.ofEntries, Node.preorderEntries]
  | (k, v) :: rest =>
    simp only [Node.ofEntries, Node.preorderEntries, List.forall_mem_append]
    exact ⟨⟨info_ofTree s depth k, info_ofTree s depth v⟩, info_ofEntries s depth rest⟩

end

/-- The nodes of a tree have no comments behind them at first. -/
lemma line_ofTree (s : SourceLines) (depth : Nat) (t : Yaml.Tree) :
    ∀ m ∈ (Node.ofTree s t).preorder depth, m.2.info.line = "" := by
  intro m mem
  rw [info_ofTree s depth t m mem, SourceLines.infoAt]

/-- A comment starts with its marker. -/
lemma head?_of_commentFrom {quoting : Quoting} {prev : Option Char} {line comment : List Char}
    (found : commentFrom quoting prev line = some comment) : comment.head? = some '#' := by
  fun_induction commentFrom quoting prev line with
  | case1 => cases found
  | case9 prev c rest marker =>
    cases found
    rw [marker.1, List.head?_cons]
  | _ => simp_all

/-- The comment behind the content of a line is not empty. -/
lemma SourceLines.trailingComment?_ne_empty {s : SourceLines} {line : Nat} {comment : String}
    (found : s.trailingComment? line = some comment) : comment ≠ "" := by
  obtain ⟨text, _, found⟩ := Option.bind_eq_some_iff.1 found
  split at found
  · cases found
  · obtain ⟨chars, inText, rfl⟩ := Option.map_eq_some_iff.1 found
    have marker := List.mem_of_head? (head?_of_commentFrom inText)
    intro empty
    have none : (chars.reverse.dropWhile Text.isBlank).reverse = [] := String.ofList_injective empty
    rw [List.reverse_eq_nil_iff, List.dropWhile_eq_nil_iff] at none
    exact absurd (none '#' (List.mem_reverse.2 marker)) (by decide)

/-- The comment behind the content of a line goes to exactly one of the nodes that start on it, the last
in pre-order of the shallowest that are null, scalars or flow collections; when the line has no such
comment or no such node, no node that starts on it is given any. So the two walks through a tree number
its nodes in the same way, and the nodes of different lines have no comment in common. -/
theorem trailing_comments_exact :
    (∀ (f : Nat → Info → Info) (root : Node),
      (root.mapNumbered f 0).1.faces = root.faces.zipIdx.map (Face.renumbered f)) ∧
    ∀ (text : String) (events : List (Yaml.Located Yaml.Event)),
      ∀ doc ∈ documentsOf (.ofText text) events, ∀ line : Nat,
        (∀ comment, (SourceLines.ofText text).HasTaker doc line comment →
          comment ≠ "" ∧ ∃ before taker after,
            (SourceLines.ofText text).TakesComment doc line comment before taker after) ∧
        ((∀ comment, ¬ (SourceLines.ofText text).HasTaker doc line comment) →
          ∀ m ∈ doc.preorder 0, m.2.info.position.line.toNat = line → m.2.info.line = "") := by
  refine ⟨fun f root => root.faces_mapNumbered f, fun text events doc mem line => ?_⟩
  obtain ⟨tree, _, rfl⟩ := List.mem_map.1 mem
  have blank : ∀ a ∈ (Node.ofTree (.ofText text) tree).faces, a.info.line = "" := by
    rw [Node.faces, List.forall_mem_map]
    exact line_ofTree _ 0 tree
  constructor
  · rintro comment ⟨trailing, candidates⟩
    obtain ⟨c, found⟩ := SourceLines.exists_candidate_iff.1 candidates
    exact ⟨SourceLines.trailingComment?_ne_empty trailing,
      SourceLines.exists_takesComment blank trailing found⟩
  · intro noTaker
    apply SourceLines.line_attachTrailing blank
    by_contra both
    rw [not_or, ← Ne, ← Ne, Option.ne_none_iff_exists', Option.ne_none_iff_exists'] at both
    obtain ⟨comment, trailing⟩ := both.2
    exact noTaker comment ⟨trailing, SourceLines.exists_candidate_iff.2 both.1⟩

/-- A line with a flow sequence and a comment, and one without comment. -/
def taggedText : String :=
  "tags: [new, old] # all of them\nname: x\n"

/-- The events of the text. -/
def taggedEvents : List (Yaml.Located Yaml.Event) :=
  match Yaml.Event.ofText taggedText.toList with
  | .ok events => events
  | .error _ => []

/-- The document of the text, with the comment at the list. -/
def taggedDocument : Node :=
  (documentsOf (.ofText taggedText) taggedEvents).headD (.null .bare)

/-- In `taggedText` one node takes the comment of the first line, and none that starts on the second
line has one. -/
theorem trailing_comments_exact_tagged :
    taggedDocument ∈ documentsOf (.ofText taggedText) taggedEvents ∧
      (∃ before taker after, (SourceLines.ofText taggedText).TakesComment taggedDocument 1
        "# all of them" before taker after) ∧
      ∀ m ∈ taggedDocument.preorder 0, m.2.info.position.line.toNat = 2 → m.2.info.line = "" := by
  have single : (documentsOf (.ofText taggedText) taggedEvents).length = 1 := by decide +kernel
  have mem : taggedDocument ∈ documentsOf (.ofText taggedText) taggedEvents := by
    obtain ⟨doc, only⟩ := List.length_eq_one_iff.1 single
    rw [taggedDocument, only]
    exact List.mem_singleton_self doc
  have lines := trailing_comments_exact.2 taggedText taggedEvents taggedDocument mem
  refine ⟨mem, ((lines 1).1 "# all of them" ⟨?_, ?_⟩).2, (lines 2).2 ?_⟩
  · decide +kernel
  · decide +kernel
  · rintro comment ⟨trailing, _⟩
    have none : (SourceLines.ofText taggedText).trailingComment? 2 = none := by decide +kernel
    rw [none] at trailing
    cases trailing

end RecordSchema
