import Mathlib
import RecordSchema.Conflict

/-!
# Repeated names

What counts as a repetition is said without a set of names seen so far: a member of a list is
repeated when it is among those before it. Main statements: `repeatedNames_eq_repeats`, the search
for conflicts finds the repeated names in order, `count_repeats`, a name that occurs `n` times is found
`n - 1` times, and `repeatedNames_exact`, which says the same of items by their places.
-/

namespace RecordSchema

/-- The members of a list, each with those before it. -/
def withEarlier {α : Type} : List α → List (List α × α)
  | [] => []
  | x :: rest => ([], x) :: (withEarlier rest).map fun (earlier, y) => (x :: earlier, y)

/-- The members of a list that are among those before them. -/
def repeats {α : Type} [DecidableEq α] (l : List α) : List α :=
  ((withEarlier l).filter fun (earlier, x) => x ∈ earlier).map Prod.snd

/-- No member is lost and none is moved. -/
lemma map_snd_withEarlier {α : Type} (l : List α) : (withEarlier l).map Prod.snd = l := by
  induction l with
  | nil => rfl
  | cons x rest ih =>
    rw [withEarlier, List.map_cons, List.map_map]
    exact congrArg (x :: ·) ih

/-- All that stands before it comes before the last member. -/
lemma withEarlier_concat {α : Type} (l : List α) (x : α) :
    withEarlier (l ++ [x]) = withEarlier l ++ [(l, x)] := by
  induction l with
  | nil => rfl
  | cons y rest ih => simp [withEarlier, ih]

/-- Of the members with a property, all but the first have one before them. -/
lemma countP_withEarlier {α : Type} (p : α → Bool) (l : List α) :
    (withEarlier l).countP (fun (earlier, x) => p x && earlier.any p) = l.countP p - 1 := by
  induction l with
  | nil => rfl
  | cons x rest ih =>
    have member : (withEarlier rest).countP (fun (_, y) => p y) = rest.countP p := by
      conv_rhs => rw [← map_snd_withEarlier rest, List.countP_map]
      rfl
    by_cases hx : p x
    · simp [withEarlier, List.countP_map, Function.comp_def, hx, member]
    · simp [withEarlier, List.countP_map, Function.comp_def, hx, ih]

variable {α : Type} [DecidableEq α]

/-- Each member is repeated one time fewer than it occurs. -/
lemma count_repeats (l : List α) (x : α) : (repeats l).count x = l.count x - 1 := by
  rw [repeats, List.count_eq_countP, List.count_eq_countP, ← countP_withEarlier (· == x),
    List.countP_map, List.countP_filter]
  apply List.countP_congr
  rintro ⟨earlier, y⟩ -
  simp only [Function.comp_apply, Bool.and_eq_true, beq_iff_eq, decide_eq_true_eq, List.any_beq',
    List.contains_iff_mem]
  apply and_congr_right
  rintro rfl
  rfl

/-- Nothing is repeated exactly when the members are distinct. -/
lemma repeats_eq_nil_iff {l : List α} : repeats l = [] ↔ l.Nodup := by
  rw [List.nodup_iff_count_le_one, List.eq_nil_iff_forall_not_mem]
  constructor
  · intro none x
    have absent := List.count_eq_zero.2 (none x)
    rw [count_repeats] at absent
    omega
  · intro once x mem
    have present := List.count_pos_iff.2 mem
    rw [count_repeats] at present
    have := once x
    omega

/-- A new name at the end repeats nothing. -/
lemma repeats_concat_of_notMem {l : List α} {x : α} (new : x ∉ l) :
    repeats (l ++ [x]) = repeats l := by
  simp [repeats, withEarlier_concat, new]

/-- The search with a set of names seen finds what is in the set or among those before. -/
lemma repeatedAfter_eq (seen names : List String) :
    repeatedAfter seen names =
      ((withEarlier names).filter fun (earlier, x) => x ∈ seen ∨ x ∈ earlier).map Prod.snd := by
  induction names generalizing seen with
  | nil => rfl
  | cons name rest ih =>
    -- the members of the rest have one more before them, which the search has put into the set
    have later : repeatedAfter (name :: seen) rest =
        ((withEarlier rest).filter fun (earlier, x) => x ∈ seen ∨ x ∈ name :: earlier).map
          Prod.snd := by
      rw [ih]
      congr 1
      apply List.filter_congr
      rintro ⟨earlier, x⟩ -
      simp only [List.mem_cons, decide_eq_decide]
      tauto
    by_cases known : name ∈ seen
    · have same : repeatedAfter (name :: seen) rest = repeatedAfter seen rest := by
        rw [ih, ih]
        congr 1
        apply List.filter_congr
        rintro ⟨earlier, x⟩ -
        simp only [List.mem_cons, decide_eq_decide]
        grind
      rw [same] at later
      simp [repeatedAfter, withEarlier, known, later, List.filter_map, Function.comp_def]
    · simp [repeatedAfter, withEarlier, known, later, List.filter_map, Function.comp_def]

/-- The search for conflicts finds the repeated names, in order. -/
lemma repeatedNames_eq_repeats {α : Type} (name : α → String) (items : List α) :
    repeatedNames name items = repeats (items.map name) := by
  simp [repeatedNames, repeatedAfter_eq, repeats]

/-! ### Places -/

/-- The members before a member are as many as its place says. -/
lemma withEarlier_eq_finRange {α : Type} (l : List α) :
    withEarlier l = (List.finRange l.length).map fun i : Fin l.length => (l.take i, l[i]) := by
  induction l with
  | nil => rfl
  | cons x rest ih =>
    have places : List.finRange (x :: rest).length = 0 :: (List.finRange rest.length).map Fin.succ :=
      List.finRange_succ
    rw [withEarlier, ih, places, List.map_cons, List.map_map, List.map_map]
    rfl

/-- Changing the members changes those before them as well. -/
lemma withEarlier_map {α β : Type} (f : α → β) (l : List α) :
    withEarlier (l.map f) = (withEarlier l).map fun (earlier, x) => (earlier.map f, f x) := by
  induction l with
  | nil => rfl
  | cons x rest ih =>
    rw [List.map_cons, withEarlier, ih, withEarlier, List.map_cons, List.map_map, List.map_map]
    rfl

/-- What stands in front of a place stands at an earlier one. -/
lemma mem_map_take_iff {α β : Type} (f : α → β) {items : List α} {i : Fin items.length} {y : β} :
    y ∈ (items.take i).map f ↔ ∃ j < i, f items[j] = y := by
  rw [List.mem_map]
  constructor
  · rintro ⟨x, mem, rfl⟩
    obtain ⟨j, bound, rfl⟩ := List.mem_take_iff_getElem.1 mem
    rw [lt_min_iff] at bound
    exact ⟨⟨j, bound.2⟩, bound.1, rfl⟩
  · rintro ⟨j, before, rfl⟩
    exact ⟨_, List.mem_take_iff_getElem.2 ⟨j, lt_min before j.2, rfl⟩, rfl⟩

/-- The search for conflicts answers, in order, the names of the items that have the name of an item at an
earlier place. So a name is reported once less than there are items of it, and nothing is reported exactly
when all names are distinct. -/
theorem repeatedNames_exact {α : Type} (name : α → String) (items : List α) :
    repeatedNames name items =
        ((List.finRange items.length).filter fun i => ∃ j < i, name items[j] = name items[i]).map
          (fun i => name items[i]) ∧
      (∀ n, (repeatedNames name items).count n = items.countP (name · = n) - 1) ∧
      (repeatedNames name items = [] ↔ (items.map name).Nodup) := by
  rw [repeatedNames_eq_repeats]
  refine ⟨?places, fun n => ?count, repeats_eq_nil_iff⟩
  case places =>
    rw [repeats, withEarlier_map, withEarlier_eq_finRange, List.map_map, List.filter_map, List.map_map]
    simp only [Function.comp_def, mem_map_take_iff]
  case count =>
    rw [count_repeats, List.count_eq_countP, List.countP_map]
    rfl

end RecordSchema
