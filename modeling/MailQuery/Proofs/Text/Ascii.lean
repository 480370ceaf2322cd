import MailQuery.Text.Alphanumeric
import MailQuery.Text.Blank
import MailQuery.Text.Case
import MailQuery.Text.Utf8

/-!
# ASCII texts

A decidable property of all ASCII characters is proved by trying them out (`forall_ascii`). What follows is what
the functions of texts do with ASCII texts, and with those of printable characters only.
-/

namespace MailQuery.Text

/-- A decidable property of all ASCII characters can be tried out. -/
theorem forall_ascii {P : Char → Prop} (h : ∀ n : Fin 128, P (Char.ofNat n.val)) {c : Char}
    (hc : c.toNat < 128) : P c := by
  have := h ⟨c.toNat, hc⟩
  rwa [Char.ofNat_toNat] at this

/-- A decidable property of all characters of a text is decided by going through the text, not through all
characters. -/
instance decidableForallMem {P : Char → Prop} [DecidablePred P] (cs : List Char) : Decidable (∀ c ∈ cs, P c) :=
  List.decidableBAll P cs

instance decidableForallMemOption {P : Char → Prop} [DecidablePred P] (c? : Option Char) :
    Decidable (∀ c ∈ c?, P c) :=
  Option.decidableForallMem c?

theorem toNat_toLower_lt {c : Char} (hc : c.toNat < 128) : c.toLower.toNat < 128 :=
  forall_ascii (P := fun c => c.toLower.toNat < 128) (by decide +kernel) hc

theorem toNat_lt_of_toLower {c : Char} (h : c.toLower.toNat < 128) : c.toNat < 128 := by
  refine Nat.lt_of_not_le fun hhigh => ?_
  have hsame : c.toLower = c := by
    refine dif_neg ?_
    rintro ⟨-, hle⟩
    have hnat : c.toNat ≤ 90 := hle
    omega
  rw [hsame] at h
  omega

theorem isAlphanumeric_toLower {c : Char} (hc : c.toNat < 128) :
    isAlphanumeric c.toLower = isAlphanumeric c :=
  forall_ascii (P := fun c => isAlphanumeric c.toLower = isAlphanumeric c) (by decide +kernel) hc

theorem toLower_toLower {c : Char} (hc : c.toNat < 128) : c.toLower.toLower = c.toLower :=
  forall_ascii (P := fun c => c.toLower.toLower = c.toLower) (by decide +kernel) hc

/-- A text of ASCII characters. -/
def IsAscii (cs : List Char) : Prop := ∀ c ∈ cs, c.toNat < 128

instance (cs : List Char) : Decidable (IsAscii cs) := List.decidableBAll _ _

theorem IsAscii.lower {cs : List Char} (h : IsAscii cs) : IsAscii (lower cs) := by
  rw [lower_of_ascii h]
  intro c hc
  obtain ⟨d, hd, rfl⟩ := List.mem_map.1 hc
  exact toNat_toLower_lt (h d hd)

theorem IsAscii.of_infix {as bs : List Char} (h : IsAscii bs) (hstands : as <:+: bs) : IsAscii as :=
  fun c hc => h c (hstands.subset hc)

theorem eqIgnoreAsciiCase_iff {as bs : List Char} :
    eqIgnoreAsciiCase as bs = true ↔ as.map Char.toLower = bs.map Char.toLower := by
  rw [eqIgnoreAsciiCase, beq_iff_eq]

/-! ### Printable texts -/

/-- A text of the ASCII characters from the space to the tilde. -/
def IsPrintable (cs : List Char) : Prop := ∀ c ∈ cs, 0x20 ≤ c.toNat ∧ c.toNat ≤ 0x7e

instance (cs : List Char) : Decidable (IsPrintable cs) := List.decidableBAll _ _

theorem isBlank_of_printable {c : Char} (hlow : 0x20 ≤ c.toNat) (hhigh : c.toNat ≤ 0x7e) (hspace : c ≠ ' ') :
    isBlank c = false :=
  forall_ascii (P := fun c => 0x20 ≤ c.toNat → c.toNat ≤ 0x7e → c ≠ ' ' → isBlank c = false) (by decide +kernel)
    (Nat.lt_of_le_of_lt hhigh (by decide)) hlow hhigh hspace

namespace IsPrintable

variable {cs : List Char}

theorem isAscii (h : IsPrintable cs) : IsAscii cs := fun c hc => Nat.lt_of_le_of_lt (h c hc).2 (by decide)

theorem nul_not_mem (h : IsPrintable cs) : '\x00' ∉ cs := fun hnul => absurd (h _ hnul).1 (by decide)

end IsPrintable

theorem byteLength_of_ascii {cs : List Char} (h : IsAscii cs) : byteLength cs = cs.length := by
  induction cs with
  | nil => rfl
  | cons c cs ih =>
    have hsize : c.utf8Size = 1 :=
      forall_ascii (P := fun c => c.utf8Size = 1) (by decide +kernel) (h c (List.mem_cons_self ..))
    rw [byteLength_cons, hsize, ih fun d hd => h d (List.mem_cons_of_mem _ hd), List.length_cons, Nat.add_comm]

end MailQuery.Text
