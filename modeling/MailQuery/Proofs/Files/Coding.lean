import Mathlib.Algebra.BigOperators.Group.List.Basic
import MailQuery.Files.Binary

/-!
# Reading what was written

`Reads` says of a reader and a writing that they belong together: the reader gives back the value from the bytes that
were written, whatever stands behind them, and gives nothing from a part of them. The second half is what tells a file
whose writing broke off from a complete one.

Both halves pass to a reader that is put together from others (`Reads.bind`), so that there is one rule for each kind
of thing that is written. Lengths take eight bytes, which is why only writings of less than `UInt64.size` bytes count.
-/

namespace MailQuery

open Text

theorem Text.utf8?_bytesOf (s : String) : utf8? (bytesOf s) = some s := by
  have hbytes : (bytesOf s).toByteArray = s.toByteArray := by
    rw [← String.utf8Encode_toList]
    rfl
  rw [utf8?, hbytes, String.fromUTF8?, dif_pos s.isValidUTF8]
  rfl

namespace Binary

/-- A reader gets a value from all the bytes that write it, and nothing from less of them. -/
structure Reads {α : Type} (read : Reader α) (written : Bytes) (x : α) : Prop where
  whole : written.length < UInt64.size → ∀ rest, read (written ++ rest) = some (x, rest)
  cut : written.length < UInt64.size → ∀ n < written.length, read (written.take n) = none

theorem length_le_writeList {α : Type} {write : α → Bytes} {xs : List α} (hpos : ∀ x ∈ xs, write x ≠ []) :
    xs.length ≤ (writeList write xs).length := by
  have hones : ∀ k ∈ xs.map fun x => (write x).length, 1 ≤ k := by
    intro k hk
    obtain ⟨x, hx, rfl⟩ := List.mem_map.1 hk
    exact List.length_pos_iff.2 (hpos x hx)
  rw [writeList, List.length_append, List.length_flatMap]
  exact Nat.le_add_left_of_le (by simpa using List.length_le_sum_of_one_le _ hones)

namespace Reads

variable {α β : Type} {read : Reader α} {written : Bytes} {x : α}

/-- What is said of a writing may rest on its size. -/
theorem of_size (h : written.length < UInt64.size → Reads read written x) : Reads read written x :=
  ⟨fun hsize => (h hsize).whole hsize, fun hsize => (h hsize).cut hsize⟩

theorem pure (x : α) : Reads (pure x) [] x := ⟨fun _ _ => rfl, fun _ n hn => absurd hn (Nat.not_lt_zero n)⟩

theorem lift {x? : Option α} (h : x? = some x) : Reads (liftM x?) [] x := by
  subst h
  exact .pure x

/-- One thing behind another. -/
theorem bind {next : α → Reader β} {written' : Bytes} {y : β} (h : Reads read written x)
    (h' : Reads (next x) written' y) : Reads (read >>= next) (written ++ written') y where
  whole hsize rest := by
    rw [List.length_append] at hsize
    show (read _ >>= fun p => next p.1 p.2) = _
    rw [List.append_assoc, h.whole (by omega)]
    exact h'.whole (by omega) rest
  cut hsize n hn := by
    rw [List.length_append] at hsize hn
    show (read _ >>= fun p => next p.1 p.2) = _
    by_cases hfirst : n < written.length
    · rw [List.take_append_of_le_length (Nat.le_of_lt hfirst), h.cut (by omega) n hfirst]
      rfl
    · -- The first thing is complete, and it is the second that breaks off.
      rw [List.take_append, List.take_of_length_le (Nat.le_of_not_lt hfirst), h.whole (by omega)]
      exact h'.cut (by omega) (n - written.length) (by omega)

theorem map (f : α → β) (h : Reads read written x) : Reads (f <$> read) written (f x) := by
  have hbind : Reads (read >>= fun a => Pure.pure (f a)) (written ++ []) (f x) := h.bind (.pure (f x))
  rw [List.append_nil] at hbind
  exact hbind

/-- The last thing of a record. -/
theorem bind_pure {f : α → β} {y : β} (h : Reads read written x) (hy : f x = y) :
    Reads (read >>= fun a => Pure.pure (f a)) written y := by
  subst hy
  exact h.map f

theorem bytes (bs : Bytes) : Reads (readBytes bs.length) bs bs where
  whole _ rest := readBytes_append bs rest
  cut _ n hn := by
    have hlength : ((bs.take n).take bs.length).length ≠ bs.length := by
      rw [List.length_take, List.length_take]
      omega
    exact if_neg hlength

theorem number {count n : Nat} (h : n < Nat.pow 256 count) : Reads (readNumber count) (littleEndian count n) n := by
  have hbytes := (bytes (littleEndian count n)).map ofLittleEndian
  rw [length_littleEndian, ofLittleEndian_littleEndian, Nat.mod_eq_of_lt h] at hbytes
  exact hbytes

theorem length {n : Nat} (h : n < UInt64.size) : Reads readLength (writeLength n) n := number h

theorem word (w : UInt32) : Reads readWord (writeWord w) w := by
  have hsmall : w.toNat < Nat.pow 256 4 := w.toNat_lt
  have hnumber := (number hsmall).map UInt32.ofNat
  rw [UInt32.ofNat_toNat] at hnumber
  exact hnumber

theorem nat (n : UInt64) : Reads readNat (writeNat n) n := by
  have hsmall : n.toNat < Nat.pow 256 8 := n.toNat_lt
  have hnumber := (number hsmall).map UInt64.ofNat
  rw [UInt64.ofNat_toNat] at hnumber
  exact hnumber

theorem int (n : Int64) : Reads readInt (writeInt n) n := by
  have hnat := (nat n.toUInt64).map UInt64.toInt64
  rw [Int64.toInt64_toUInt64] at hnat
  exact hnat

theorem text (s : String) : Reads readText (writeText s) s := by
  refine .of_size fun hsize => ?_
  rw [writeText, List.length_append] at hsize
  refine .bind (.length (by omega)) ?_
  have hbytes : Reads (do let bs ← readBytes (bytesOf s).length; (utf8? bs : Option String)) (bytesOf s ++ []) s :=
    (bytes (bytesOf s)).bind (.lift (utf8?_bytesOf s))
  rw [List.append_nil] at hbytes
  exact hbytes

theorem many {write : α → Bytes} {xs : List α} (h : ∀ x ∈ xs, Reads read (write x) x) :
    Reads (readMany read xs.length) (xs.flatMap write) xs := by
  induction xs with
  | nil => exact .pure []
  | cons x xs ih =>
    obtain ⟨hx, hxs⟩ := List.forall_mem_cons.1 h
    rw [List.flatMap_cons]
    exact hx.bind ((ih hxs).bind_pure rfl)

/-- A list of things that take at least a byte each. -/
theorem list {write : α → Bytes} {xs : List α} (hpos : ∀ x ∈ xs, write x ≠ [])
    (h : ∀ x ∈ xs, Reads read (write x) x) : Reads (readList read) (writeList write xs) xs := by
  have hcount := length_le_writeList hpos
  refine .of_size fun hsize => ?_
  exact .bind (.length (by omega)) (many h)

theorem option {write : α → Bytes} {x? : Option α} (h : ∀ x ∈ x?, Reads read (write x) x) :
    Reads (readOption read) (writeOption write x?) x? := by
  cases x? with
  | none =>
    have htag : Reads (readNumber 1) [0] 0 := number (by decide)
    exact htag.bind (.pure none)
  | some x =>
    have htag : Reads (readNumber 1) [1] 1 := number (by decide)
    exact htag.bind ((h x rfl).map some)

end Reads

theorem writeText_ne_nil (s : String) : writeText s ≠ [] := by
  rw [writeText]
  exact List.append_ne_nil_of_left_ne_nil (List.cons_ne_nil _ _) _

end Binary

end MailQuery
