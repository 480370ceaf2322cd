/-!
# Sets of strings

A set of strings is kept as its strictly ascending list, so that two sets with the same members are
equal (`TextSet.ext`). Each operation has one lemma that says which strings are in its result.
-/

namespace MailQuery

/-- A finite set of strings. -/
structure TextSet where
  toList : List String
  sorted : toList.Pairwise (· < ·)

namespace TextSet

instance : DecidableEq TextSet := fun a b =>
  decidable_of_iff (a.toList = b.toList) ⟨fun h => by cases a; cases b; cases h; rfl, fun h => h ▸ rfl⟩

instance : Membership String TextSet := ⟨fun s a => a ∈ s.toList⟩

instance (a : String) (s : TextSet) : Decidable (a ∈ s) :=
  inferInstanceAs (Decidable (a ∈ s.toList))

theorem mem_def {a : String} {s : TextSet} : a ∈ s ↔ a ∈ s.toList := Iff.rfl

/-- The set without members. -/
def empty : TextSet := ⟨[], .nil⟩

instance : EmptyCollection TextSet := ⟨empty⟩

instance : Inhabited TextSet := ⟨empty⟩

@[simp] theorem not_mem_empty (a : String) : a ∉ (∅ : TextSet) := by
  simp [mem_def, EmptyCollection.emptyCollection, empty]

/-- Adds a string to an ascending list, if it is not there. -/
def insertSorted (a : String) : List String → List String
  | [] => [a]
  | x :: xs =>
    if a < x then a :: x :: xs else if a = x then x :: xs else x :: insertSorted a xs

theorem mem_insertSorted {a x : String} {xs : List String} :
    x ∈ insertSorted a xs ↔ x = a ∨ x ∈ xs := by
  induction xs with
  | nil => simp [insertSorted]
  | cons y ys ih =>
    simp only [insertSorted]
    split
    · simp
    split
    · rename_i h
      subst h
      simp
    · simp only [List.mem_cons, ih]
      grind

theorem sorted_insertSorted {a : String} {xs : List String} (h : xs.Pairwise (· < ·)) :
    (insertSorted a xs).Pairwise (· < ·) := by
  induction xs with
  | nil => simp [insertSorted]
  | cons y ys ih =>
    have ⟨hy, hys⟩ := List.pairwise_cons.1 h
    simp only [insertSorted]
    split
    · rename_i hlt
      refine List.pairwise_cons.2 ⟨?_, h⟩
      intro z hz
      rcases List.mem_cons.1 hz with rfl | hz
      · exact hlt
      · exact String.lt_trans hlt (hy z hz)
    split
    · exact h
    · rename_i hlt hne
      refine List.pairwise_cons.2 ⟨?_, ih hys⟩
      intro z hz
      rcases mem_insertSorted.1 hz with rfl | hz
      · exact Std.lt_of_le_of_ne (Std.not_lt.1 hlt) (Ne.symm hne)
      · exact hy z hz

/-- The set with one more string. -/
def insert (s : TextSet) (a : String) : TextSet :=
  ⟨insertSorted a s.toList, sorted_insertSorted s.sorted⟩

@[simp] theorem mem_insert {s : TextSet} {a x : String} : x ∈ s.insert a ↔ x = a ∨ x ∈ s :=
  mem_insertSorted

/-- The set with the strings of a list added. -/
def insertAll (s : TextSet) (xs : List String) : TextSet := xs.foldl insert s

@[simp] theorem mem_insertAll {s : TextSet} {xs : List String} {x : String} :
    x ∈ s.insertAll xs ↔ x ∈ xs ∨ x ∈ s := by
  induction xs generalizing s with
  | nil => simp [insertAll]
  | cons u us ih =>
    have : s.insertAll (u :: us) = (s.insert u).insertAll us := rfl
    rw [this, ih, mem_insert, List.mem_cons]
    grind

/-- The set of the strings of a list. -/
def ofList (xs : List String) : TextSet := (∅ : TextSet).insertAll xs

@[simp] theorem mem_ofList {xs : List String} {x : String} : x ∈ ofList xs ↔ x ∈ xs := by
  simp [ofList]

/-- The strings that are in one of two sets. -/
def union (s t : TextSet) : TextSet := s.insertAll t.toList

@[simp] theorem mem_union {s t : TextSet} {x : String} : x ∈ s.union t ↔ x ∈ s ∨ x ∈ t := by
  rw [union, mem_insertAll]
  exact or_comm

/-- The strings of a set that pass a test. -/
def filter (p : String → Bool) (s : TextSet) : TextSet :=
  ⟨s.toList.filter p, s.sorted.sublist List.filter_sublist⟩

@[simp] theorem mem_filter {p : String → Bool} {s : TextSet} {x : String} :
    x ∈ s.filter p ↔ x ∈ s ∧ p x = true := by
  simp [filter, mem_def]

/-- Whether a string is in the set. -/
def contains (s : TextSet) (a : String) : Bool := decide (a ∈ s)

@[simp] theorem contains_iff {s : TextSet} {a : String} : s.contains a = true ↔ a ∈ s := by
  simp [contains]

theorem toList_eq_of_mem_iff {xs ys : List String} (hx : xs.Pairwise (· < ·))
    (hy : ys.Pairwise (· < ·)) (h : ∀ u, u ∈ xs ↔ u ∈ ys) : xs = ys := by
  induction xs generalizing ys with
  | nil =>
    cases ys with
    | nil => rfl
    | cons y ys => exact absurd ((h y).2 (by simp)) (by simp)
  | cons x xs ih =>
    cases ys with
    | nil => exact absurd ((h x).1 (by simp)) (by simp)
    | cons y ys =>
      have ⟨hx₁, hx₂⟩ := List.pairwise_cons.1 hx
      have ⟨hy₁, hy₂⟩ := List.pairwise_cons.1 hy
      have hxy : x = y := by
        rcases List.mem_cons.1 ((h x).1 (by simp)) with e | hm
        · exact e
        · rcases List.mem_cons.1 ((h y).2 (by simp)) with e | hn
          · exact e.symm
          · exact absurd (String.lt_trans (hy₁ x hm) (hx₁ y hn)) (String.lt_irrefl y)
      subst hxy
      congr 1
      refine ih hx₂ hy₂ fun u => ⟨fun hu => ?_, fun hu => ?_⟩
      · rcases List.mem_cons.1 ((h u).1 (by simp [hu])) with rfl | hm
        · exact absurd (hx₁ u hu) (String.lt_irrefl u)
        · exact hm
      · rcases List.mem_cons.1 ((h u).2 (by simp [hu])) with rfl | hm
        · exact absurd (hy₁ u hu) (String.lt_irrefl u)
        · exact hm

/-- Two sets with the same members are equal. -/
theorem ext {s t : TextSet} (h : ∀ u, u ∈ s ↔ u ∈ t) : s = t := by
  have := toList_eq_of_mem_iff s.sorted t.sorted h
  cases s
  cases t
  cases this
  rfl

end TextSet

end MailQuery
