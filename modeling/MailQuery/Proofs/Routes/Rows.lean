import MailQuery.Proofs.Sql.Cells
import MailQuery.Proofs.Text.Ascii

/-!
# What rows say of messages

A row says of a message what its summary says: the flags in columns of their own and as one number, the size and
the moments as integers, and the subject as a text unless it is empty.
-/

namespace MailQuery

open Mail Sql Text

/-! ### Flags -/

/-- The bit of a flag does not depend on the case of its name. -/
theorem Mail.Flags.bitForName_congr {name name' : String}
    (h : eqIgnoreAsciiCase name.toList name'.toList = true) : bitForName name = bitForName name' := by
  have hsame : ∀ entry : List Char,
      eqIgnoreAsciiCase entry name.toList = eqIgnoreAsciiCase entry name'.toList := by
    intro entry
    rw [eqIgnoreAsciiCase, eqIgnoreAsciiCase, eqIgnoreAsciiCase_iff.1 h]
  simp only [bitForName, hsame]

/-- The flag that a column holds. -/
def Sql.Column.flag : Column → UInt32
  | read => Flags.seen
  | deleted => Flags.deleted
  | replied => Flags.answered
  | important => Flags.flagged
  | junk => Flags.junk
  | attachment => Flags.attachments
  | _ => 0

theorem Mail.Summary.row_of_isFlag (m : Summary) {c : Column} (h : c.isFlag = true) :
    m.row c = .ofBool (m.flags.contains c.flag) := by
  cases c <;> first | rfl | cases h

/-- A flag with a column of its own is stored there. -/
theorem Sql.Column.bitForName_of_alias {name : String} {c : Column}
    (h : (ofAlias? name).filter isFlag = some c) : Flags.bitForName name = c.flag := by
  obtain ⟨halias, hflag⟩ := Option.filter_eq_some_iff.1 h
  obtain ⟨e, hfound, rfl⟩ := Option.map_eq_some_iff.1 halias
  -- A name of the column differs from one in the table in case only, so that only the table is looked through.
  have hknown : ∀ e ∈ aliases, e.2.isFlag = true → Flags.bitForName e.1 = e.2.flag := by decide +kernel
  have hsame : eqIgnoreAsciiCase e.1.toList name.toList = true := by
    simpa using List.find?_some hfound
  rw [← Flags.bitForName_congr hsame]
  exact hknown e (List.mem_of_find?_eq_some hfound) hflag

theorem ofNat_toNat_eq_zero_iff (bits : UInt32) : Int64.ofNat bits.toNat = 0 ↔ bits = 0 := by
  have hlt : bits.toNat < 9223372036854775808 := Nat.lt_trans bits.toNat_lt (by decide)
  constructor
  · intro h
    have hint := congrArg Int64.toInt h
    rw [Int64.toInt_ofNat_of_lt hlt, Int64.toInt_zero] at hint
    exact UInt32.toNat_inj.1 (Int.ofNat_inj.1 hint)
  · rintro rfl
    rfl

/-- The bits that two words share are the same when the words have 64 bits. -/
theorem ofNat_toNat_and (bits bit : UInt32) :
    Int64.ofNat bits.toNat &&& Int64.ofNat bit.toNat = Int64.ofNat (bits &&& bit).toNat := by
  apply Int64.toBitVec_inj.1
  rw [Int64.toBitVec_and, Int64.toBitVec_ofNat', Int64.toBitVec_ofNat', Int64.toBitVec_ofNat', UInt32.toNat_and,
    BitVec.ofNat_and]

/-- A flag without a column of its own is tested on the number of all flags. -/
theorem Mail.Summary.eval_bit (m : Summary) {bit : UInt32} (h : bit ≠ 0) (affinity : Cell.Affinity) :
    Operator.notEqual.apply affinity (Cell.bitAnd (m.row .flags) (.int (Int64.ofNat bit.toNat))) (.int 0) =
      .ofBool (m.flags.contains bit) := by
  show Cell.compareWith (· != .eq) affinity
    (.int (Int64.ofNat m.flags.bits.toNat &&& Int64.ofNat bit.toNat)) (.int 0) = _
  rw [Cell.compareWith_int, ofNat_toNat_and]
  congr 1
  rw [Flags.contains, bne_iff_ne.2 h, Bool.true_and, Bool.eq_iff_iff, bne_iff_ne, bne_iff_ne, Ne,
    compareOfLessAndEq_eq_eq Int64.le_refl Int64.not_le, ofNat_toNat_eq_zero_iff]

/-! ### Sizes -/

/-- The number of whole kilobytes is the same in both ways of counting, for all sizes of 63 bits. -/
theorem Mail.Summary.divide_size (m : Summary) (h : m.size.toNat < 9223372036854775808) :
    Cell.divide (m.row .size) (.int 1024) = .int (m.size / 1024).toInt64 := by
  -- The row holds the size itself, and not the largest number in its place.
  have hsize : (Int64.ofIntClamp m.size.toNat).toInt = m.size.toNat :=
    Int64.toInt_ofIntClamp (Int.le_trans (by decide) (Int.natCast_nonneg _))
      (show (m.size.toNat : Int) ≤ 9223372036854775807 by omega)
  have hquotient : (m.size / 1024).toNat = m.size.toNat / 1024 := UInt64.toNat_div ..
  have htoInt : (m.size / 1024).toInt64.toInt = (m.size.toNat / 1024 : Nat) := by
    have hword : (m.size / 1024).toInt64 = Int64.ofNat (m.size.toNat / 1024) := by
      apply Int64.toBitVec_inj.1
      rw [← hquotient, Int64.toBitVec_ofNat', UInt64.toBitVec_toInt64, BitVec.ofNat_uInt64ToNat]
    rw [hword, Int64.toInt_ofNat_of_lt (Nat.lt_of_le_of_lt (Nat.div_le_self ..) h)]
  apply Cell.divide_int (by decide)
  rw [hsize]
  show int64? ((m.size.toNat : Int).tdiv ((1024 : Nat) : Int)) = _
  rw [← Int.ofNat_tdiv, ← htoInt, int64?_toInt]

end MailQuery
