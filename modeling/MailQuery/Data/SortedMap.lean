/-!
# Maps from strings, in the order of their keys

A map is kept as the list of its entries with strictly ascending keys, so that two maps with the same
look-ups are equal (`SortedMap.ext`). Each operation has one lemma that says what look-up gives
afterwards.
-/

namespace MailQuery

/-- A finite map from strings to values. -/
structure SortedMap (β : Type) where
  entries : List (String × β)
  sorted : entries.Pairwise fun a b => a.1 < b.1

namespace SortedMap

variable {β : Type}

instance [DecidableEq β] : DecidableEq (SortedMap β) := fun a b =>
  decidable_of_iff (a.entries = b.entries)
    ⟨fun h => by cases a; cases b; cases h; rfl, fun h => h ▸ rfl⟩

/-- The map without entries. -/
def empty : SortedMap β := ⟨[], .nil⟩

instance : EmptyCollection (SortedMap β) := ⟨empty⟩

instance : Inhabited (SortedMap β) := ⟨empty⟩

/-- The value of a key. -/
def get? (m : SortedMap β) (key : String) : Option β := m.entries.lookup key

/-- The keys in ascending order. -/
def keys (m : SortedMap β) : List String := m.entries.map (·.1)

/-- Gives a key of an ascending list of entries the value that `f` makes of its present one. -/
def alterSorted (key : String) (f : Option β → Option β) :
    List (String × β) → List (String × β)
  | [] => ((f none).map fun v => (key, v)).toList
  | e :: es =>
    if key < e.1 then ((f none).map fun v => (key, v)).toList ++ e :: es
    else if key = e.1 then ((f (some e.2)).map fun v => (key, v)).toList ++ es
    else e :: alterSorted key f es

theorem key_of_mem_alterSorted {key : String} {f : Option β → Option β} {es : List (String × β)}
    {x : String × β} (h : x ∈ alterSorted key f es) : x.1 = key ∨ x ∈ es := by
  induction es with
  | nil =>
    simp only [alterSorted, Option.mem_toList, Option.map_eq_some_iff] at h
    obtain ⟨v, _, rfl⟩ := h
    exact .inl rfl
  | cons e es ih =>
    simp only [alterSorted] at h
    split at h
    · simp only [List.mem_append, Option.mem_toList, Option.map_eq_some_iff] at h
      rcases h with ⟨v, _, rfl⟩ | h
      · exact .inl rfl
      · exact .inr h
    split at h
    · simp only [List.mem_append, Option.mem_toList, Option.map_eq_some_iff] at h
      rcases h with ⟨v, _, rfl⟩ | h
      · exact .inl rfl
      · exact .inr (List.mem_cons_of_mem _ h)
    · rcases List.mem_cons.1 h with rfl | h
      · exact .inr (List.mem_cons_self ..)
      · exact (ih h).imp id (List.mem_cons_of_mem _)

theorem sorted_alterSorted {key : String} {f : Option β → Option β} {es : List (String × β)}
    (h : es.Pairwise fun a b => a.1 < b.1) :
    (alterSorted key f es).Pairwise fun a b => a.1 < b.1 := by
  induction es with
  | nil =>
    simp only [alterSorted]
    cases f none <;> simp
  | cons e es ih =>
    have ⟨he, hes⟩ := List.pairwise_cons.1 h
    simp only [alterSorted]
    split
    · rename_i hlt
      cases f none with
      | none => exact h
      | some v =>
        refine List.pairwise_cons.2 ⟨fun x hx => ?_, h⟩
        rcases List.mem_cons.1 hx with rfl | hx
        · exact hlt
        · exact String.lt_trans hlt (he x hx)
    split
    · rename_i heq
      cases f (some e.2) with
      | none => exact hes
      | some v => exact List.pairwise_cons.2 ⟨fun x hx => heq ▸ he x hx, hes⟩
    · rename_i hlt hne
      refine List.pairwise_cons.2 ⟨fun x hx => ?_, ih hes⟩
      rcases key_of_mem_alterSorted hx with hk | hx
      · rw [hk]
        exact Std.lt_of_le_of_ne (Std.not_lt.1 hlt) (Ne.symm hne)
      · exact he x hx

/-- The map in which a key has the value that `f` makes of its present one. -/
def alter (m : SortedMap β) (key : String) (f : Option β → Option β) : SortedMap β :=
  ⟨alterSorted key f m.entries, sorted_alterSorted m.sorted⟩

/-- The map in which a key has a given value. -/
def insert (m : SortedMap β) (key : String) (value : β) : SortedMap β :=
  m.alter key fun _ => some value

/-- The map without a key. -/
def erase (m : SortedMap β) (key : String) : SortedMap β := m.alter key fun _ => none

/-- The map of a list of entries, of which later ones win. -/
def ofList (entries : List (String × β)) : SortedMap β :=
  entries.foldl (fun m e => m.insert e.1 e.2) ∅

theorem lookup_cons_eq_if (key : String) (e : String × β) (es : List (String × β)) :
    (e :: es).lookup key = if key = e.1 then some e.2 else es.lookup key := by
  obtain ⟨k, b⟩ := e
  by_cases h : key = k
  · subst h
    simp
  · have hb : (key == k) = false := by simpa using h
    rw [List.lookup_cons, hb, if_neg h]

theorem lookup_eq_none_of_lt {key : String} {es : List (String × β)}
    (h : ∀ x ∈ es, key < x.1) : es.lookup key = none := by
  induction es with
  | nil => rfl
  | cons e es ih =>
    have hne : key ≠ e.1 := by
      intro heq
      exact String.lt_irrefl _ (heq ▸ h e (List.mem_cons_self ..))
    rw [lookup_cons_eq_if, if_neg hne]
    exact ih fun x hx => h x (List.mem_cons_of_mem _ hx)

theorem lookup_toList_append (key k : String) (v? : Option β) (es : List (String × β))
    (h : es.lookup key = none) :
    ((v?.map fun v => (key, v)).toList ++ es).lookup k =
      if k = key then v? else es.lookup k := by
  cases v? with
  | none =>
    by_cases hk : k = key
    · subst hk
      simp [h]
    · simp [hk]
  | some v =>
    simp only [Option.map_some, Option.toList_some, List.singleton_append]
    rw [lookup_cons_eq_if]

theorem lookup_alterSorted {key : String} {f : Option β → Option β} {es : List (String × β)}
    (h : es.Pairwise fun a b => a.1 < b.1) (k : String) :
    (alterSorted key f es).lookup k = if k = key then f (es.lookup key) else es.lookup k := by
  induction es with
  | nil => simpa [alterSorted] using lookup_toList_append key k (f none) [] rfl
  | cons e es ih =>
    have ⟨he, hes⟩ := List.pairwise_cons.1 h
    simp only [alterSorted]
    split
    · rename_i hlt
      have hnone : (e :: es).lookup key = none := by
        refine lookup_eq_none_of_lt fun x hx => ?_
        rcases List.mem_cons.1 hx with rfl | hx
        · exact hlt
        · exact String.lt_trans hlt (he x hx)
      rw [lookup_toList_append key k _ _ hnone, hnone]
    split
    · rename_i heq
      subst heq
      rw [lookup_toList_append _ _ _ _ (lookup_eq_none_of_lt he), lookup_cons_eq_if,
        lookup_cons_eq_if, if_pos rfl]
      split <;> rfl
    · rename_i hlt hne
      simp only [lookup_cons_eq_if, ih hes, if_neg hne]
      by_cases hke : k = e.1
      · subst hke
        simp [Ne.symm hne]
      · simp [hke]

theorem get?_alter (m : SortedMap β) (key k : String) (f : Option β → Option β) :
    (m.alter key f).get? k = if k = key then f (m.get? key) else m.get? k :=
  lookup_alterSorted m.sorted k

@[simp] theorem get?_insert (m : SortedMap β) (key k : String) (value : β) :
    (m.insert key value).get? k = if k = key then some value else m.get? k :=
  get?_alter ..

@[simp] theorem get?_erase (m : SortedMap β) (key k : String) :
    (m.erase key).get? k = if k = key then none else m.get? k :=
  get?_alter ..

@[simp] theorem get?_empty (k : String) : (∅ : SortedMap β).get? k = none := rfl

theorem mem_entries_iff {m : SortedMap β} {key : String} {value : β} :
    (key, value) ∈ m.entries ↔ m.get? key = some value := by
  obtain ⟨es, sorted⟩ := m
  show (key, value) ∈ es ↔ es.lookup key = some value
  induction es with
  | nil => simp
  | cons e es ih =>
    obtain ⟨he, hes⟩ := List.pairwise_cons.1 sorted
    rw [List.mem_cons, lookup_cons_eq_if, ih hes]
    by_cases hkey : key = e.1
    · subst hkey
      rw [if_pos rfl, lookup_eq_none_of_lt he]
      simp [Prod.ext_iff, eq_comm]
    · rw [if_neg hkey]
      simp [Prod.ext_iff, hkey]

theorem entries_eq_of_lookup {xs ys : List (String × β)}
    (hx : xs.Pairwise fun a b => a.1 < b.1) (hy : ys.Pairwise fun a b => a.1 < b.1)
    (h : ∀ k, xs.lookup k = ys.lookup k) : xs = ys := by
  induction xs generalizing ys with
  | nil =>
    cases ys with
    | nil => rfl
    | cons y ys =>
      have hk := h y.1
      rw [lookup_cons_eq_if, if_pos rfl] at hk
      cases hk
  | cons x xs ih =>
    cases ys with
    | nil =>
      have hk := h x.1
      rw [lookup_cons_eq_if, if_pos rfl] at hk
      cases hk
    | cons y ys =>
      have ⟨hxs, hx'⟩ := List.pairwise_cons.1 hx
      have ⟨hys, hy'⟩ := List.pairwise_cons.1 hy
      simp only [lookup_cons_eq_if] at h
      have hle : ¬ x.1 < y.1 := fun hlt => by
        have hk := h x.1
        rw [if_pos rfl, if_neg (fun e => String.lt_irrefl _ (e ▸ hlt)),
          lookup_eq_none_of_lt fun z hz => String.lt_trans hlt (hys z hz)] at hk
        cases hk
      have hge : ¬ y.1 < x.1 := fun hlt => by
        have hk := h y.1
        rw [if_pos rfl, if_neg (fun e => String.lt_irrefl _ (e ▸ hlt)),
          lookup_eq_none_of_lt fun z hz => String.lt_trans hlt (hxs z hz)] at hk
        cases hk
      have hkey : x.1 = y.1 := String.le_antisymm (Std.not_lt.1 hge) (Std.not_lt.1 hle)
      have hvalue := h x.1
      rw [if_pos rfl, if_pos hkey] at hvalue
      obtain rfl : x = y := Prod.ext hkey (Option.some.inj hvalue)
      refine congrArg (x :: ·) (ih hx' hy' fun k => ?_)
      by_cases hk : k = x.1
      · rw [hk, lookup_eq_none_of_lt hxs, lookup_eq_none_of_lt hys]
      · simpa [hk] using h k

/-- Two maps with the same look-ups are equal. -/
theorem ext {m n : SortedMap β} (h : ∀ k, m.get? k = n.get? k) : m = n := by
  have he : m.entries = n.entries := entries_eq_of_lookup m.sorted n.sorted h
  cases m
  cases n
  cases he
  rfl

end SortedMap

end MailQuery
