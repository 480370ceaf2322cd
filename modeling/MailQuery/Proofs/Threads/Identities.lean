import Mathlib.Data.List.Induction
import MailQuery.Proofs.Threads.Links

/-!
# Messages with ids of their own

Where every message has an id, and none has that of another (`HaveOwnIds`), no id is made up and none is taken over.

- `Links.Indexed`: an id leads to the message that has it, and only the ids of messages lead anywhere. A message with a new
  id keeps this (`Links.Fresh.addMessage`), so that it holds after all messages (`Links.indexed_ofSummaries`).
- `HaveOwnIds.fresh`: what is known when the last message comes in.
-/

namespace MailQuery.Search

open Mail

/-- Every message has an id, and no two of them have the same. -/
structure HaveOwnIds (summaries : List Summary) : Prop where
  ne_empty : ∀ s ∈ summaries, normalizeId s.messageId ≠ ""
  nodup : (summaries.map fun s => normalizeId s.messageId).Nodup

namespace Links

variable {l : Links} {id : String} {s : Summary}

/-- The ids of the messages lead to their messages, and no other id leads anywhere. -/
def Indexed (l : Links) : Prop := ∀ id i, l.place? id = some i ↔ l.ids[i]? = some id

theorem indexed_start : start.Indexed := by
  intro id i
  constructor
  · exact fun h => nomatch h
  · exact fun h => nomatch h

theorem Indexed.place?_eq_none (h : l.Indexed) (hid : id ∉ l.ids) : l.place? id = none := by
  cases hplace : l.place? id with
  | none => rfl
  | some i => exact absurd (List.mem_of_getElem? ((h id i).1 hplace)) hid

/-- A new id leads to the new message, and all others lead where they did. -/
theorem Indexed.enter (h : l.Indexed) (hnew : id ∉ l.ids) :
    Indexed (({ l with ids := l.ids ++ [id] } : Links).modify id fun c => { c with entry := some l.ids.length }) := by
  intro k i
  have hsame : ({ l with ids := l.ids ++ [id] } : Links).place? k = l.place? k := rfl
  rw [place?_modify, hsame, ids_modify]
  by_cases hk : k = id
  · rw [if_pos hk, hk, List.getElem?_append]
    constructor
    · intro hi
      obtain rfl : l.ids.length = i := Option.some.inj hi
      simp
    · intro hi
      split at hi
      · exact absurd (List.mem_of_getElem? hi) hnew
      · next hlt =>
        have hzero := (List.getElem?_eq_some_iff.1 hi).1
        rw [List.length_singleton] at hzero
        have heq : l.ids.length = i := by omega
        rw [heq]
  · rw [if_neg hk, h, List.getElem?_append]
    split
    · exact Iff.rfl
    · next hlt =>
      constructor
      · intro hi
        exact absurd (List.getElem?_eq_some_iff.1 hi).1 hlt
      · intro hi
        have hmem := List.mem_of_getElem? hi
        exact absurd (List.mem_singleton.1 hmem) hk

/-- Ids lead to their messages, and the next message has one that is new. -/
structure Fresh (l : Links) (s : Summary) : Prop where
  indexed : l.Indexed
  ne_empty : normalizeId s.messageId ≠ ""
  not_mem : normalizeId s.messageId ∉ l.ids

/-- A message keeps its own id, as long as no earlier message has it. -/
theorem Fresh.freshId_eq (h : l.Fresh s) : l.freshId s = normalizeId s.messageId := by
  rw [freshId, h.indexed.place?_eq_none h.not_mem, if_neg]
  simpa using h.ne_empty

theorem place?_connectAll (l : Links) (pairs : List (String × String)) (id : String) :
    (pairs.foldl (fun l pair => l.connect pair.1 pair.2) l).place? id = l.place? id := by
  induction pairs generalizing l with
  | nil => rfl
  | cons pair pairs ih => rw [List.foldl_cons, ih, place?_connect]

theorem Fresh.addMessage (h : l.Fresh s) :
    (l.addMessage s).Indexed ∧ (l.addMessage s).ids = l.ids ++ [normalizeId s.messageId] := by
  have hids : (l.addMessage s).ids = l.ids ++ [normalizeId s.messageId] := by
    rw [Links.addMessage, ids_connectAll, ids_modify, h.freshId_eq]
  refine ⟨fun id i => ?_, hids⟩
  have hentered := h.indexed.enter h.not_mem id i
  rw [ids_modify] at hentered
  rw [hids, Links.addMessage, place?_connectAll, h.freshId_eq]
  exact hentered

theorem ofSummaries_concat (summaries : List Summary) (s : Summary) :
    ofSummaries (summaries ++ [s]) = (ofSummaries summaries).addMessage s := by
  rw [ofSummaries, List.foldl_append]
  rfl

end Links

theorem HaveOwnIds.of_concat {summaries : List Summary} {s : Summary} (h : HaveOwnIds (summaries ++ [s])) :
    HaveOwnIds summaries ∧ normalizeId s.messageId ≠ "" ∧
      normalizeId s.messageId ∉ summaries.map fun s => normalizeId s.messageId := by
  obtain ⟨hne, hnodup⟩ := h
  rw [List.map_append, List.nodup_append] at hnodup
  obtain ⟨hnodup, -, hdisjoint⟩ := hnodup
  refine ⟨⟨fun t ht => hne t (List.mem_append_left _ ht), hnodup⟩, hne s (by simp), fun hmem => ?_⟩
  exact hdisjoint _ hmem _ (List.mem_singleton.2 rfl) rfl

/-- Messages with ids of their own are found by them. -/
theorem Links.indexed_ofSummaries {summaries : List Summary} (h : HaveOwnIds summaries) :
    (ofSummaries summaries).Indexed ∧ (ofSummaries summaries).ids = summaries.map fun s => normalizeId s.messageId := by
  induction summaries using List.reverseRecOn with
  | nil => exact ⟨indexed_start, rfl⟩
  | append_singleton summaries s ih =>
    obtain ⟨hsummaries, hne, hnew⟩ := h.of_concat
    obtain ⟨hindexed, hids⟩ := ih hsummaries
    rw [← hids] at hnew
    obtain ⟨hadded, hadded_ids⟩ := Fresh.addMessage ⟨hindexed, hne, hnew⟩
    rw [ofSummaries_concat]
    exact ⟨hadded, by rw [hadded_ids, hids, List.map_append]; rfl⟩

/-- The last message has an id that is new to the others. -/
theorem HaveOwnIds.fresh {summaries : List Summary} {s : Summary} (h : HaveOwnIds (summaries ++ [s])) :
    (Links.ofSummaries summaries).Fresh s := by
  obtain ⟨hsummaries, hne, hnew⟩ := h.of_concat
  obtain ⟨hindexed, hids⟩ := Links.indexed_ofSummaries hsummaries
  rw [← hids] at hnew
  exact ⟨hindexed, hne, hnew⟩

end MailQuery.Search
