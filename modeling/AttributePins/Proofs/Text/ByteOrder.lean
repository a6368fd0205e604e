import Mathlib.Data.String.Basic

/-! Texts are ordered by their characters. This is also the order of their UTF-8
bytes: a longer encoding has a greater first byte, and encodings of one length are
digits to the base 64 behind a leading byte. So the names that the index and the
sources are sorted by come in byte order. -/
namespace AttributePins.Text

def utf8 (text : String) : List UInt8 := text.toUTF8.data.toList

/-- The order of texts by their UTF-8 bytes. -/
def ByteLt (a b : String) : Prop := utf8 a < utf8 b

theorem utf8_eq (text : String) : utf8 text = text.toList.flatMap String.utf8EncodeChar := by
  rw [utf8, String.toUTF8_eq_toByteArray, ← String.utf8Encode_toList, List.utf8Encode,
    List.toList_data_toByteArray]

/-- The leading byte of a character: a mark for the length and the highest bits. -/
def leadByte (size mark value : Nat) : List UInt8 := [UInt8.ofNat (value % size + mark)]

/-- Bytes of a character with one more behind them, which holds the six lowest bits. -/
def continued (front : Nat → List UInt8) (value : Nat) : List UInt8 :=
  front (value / 64) ++ [UInt8.ofNat (value % 64 + 128)]

theorem cons_byte_lt {m n : Nat} (below : m < n) (bound : n < 256) (r s : List UInt8) :
    UInt8.ofNat m :: r < UInt8.ofNat n :: s := by
  apply List.cons_lt_cons_iff.mpr
  left
  rw [UInt8.lt_iff_toNat_lt, UInt8.toNat_ofNat', UInt8.toNat_ofNat']
  omega

theorem leadByte_lt {size mark v w : Nat} (fits : size + mark ≤ 256) (below : v < w)
    (bound : w < size) (r s : List UInt8) :
    leadByte size mark v ++ r < leadByte size mark w ++ s := by
  simp only [leadByte, List.cons_append, List.nil_append]
  rw [Nat.mod_eq_of_lt bound, Nat.mod_eq_of_lt (below.trans bound)]
  exact cons_byte_lt (by omega) (by omega) r s

theorem continued_lt {front : Nat → List UInt8} {v w : Nat} (below : v < w)
    (ordered : v / 64 < w / 64 → ∀ r s, front (v / 64) ++ r < front (w / 64) ++ s)
    (r s : List UInt8) : continued front v ++ r < continued front w ++ s := by
  simp only [continued, List.append_assoc, List.cons_append, List.nil_append]
  rcases Nat.lt_or_ge (v / 64) (w / 64) with higher | equal
  · exact ordered higher _ _
  · have same : v / 64 = w / 64 := by omega
    rw [same]
    exact List.append_left_lt (cons_byte_lt (by omega) (by omega) r s)

/-- The bytes of a smaller character come first, whatever follows either character. -/
theorem utf8EncodeChar_lt {c d : Char} (before : c < d) (r s : List UInt8) :
    String.utf8EncodeChar c ++ r < String.utf8EncodeChar d ++ s := by
  have below : c.val.toNat < d.val.toNat := before
  have bound : d.val.toNat < 0x110000 := by
    rcases d.valid with low | high
    · exact low.trans (by decide)
    · exact high.2
  unfold String.utf8EncodeChar
  generalize c.val.toNat = v at *
  generalize d.val.toNat = w at *
  have two (short : w ≤ 0x7ff) := continued_lt below
    (fun higher => leadByte_lt (show 32 + 0xc0 ≤ 256 by decide) higher (by omega)) r s
  have three (short : w ≤ 0xffff) := continued_lt below
    (fun higher => continued_lt higher
      fun higher => leadByte_lt (show 16 + 0xe0 ≤ 256 by decide) higher (by omega)) r s
  have four := continued_lt below
    (fun higher => continued_lt higher fun higher => continued_lt higher
      fun higher => leadByte_lt (show 8 + 0xf0 ≤ 256 by decide) higher (by omega)) r s
  simp only [continued, leadByte, Nat.div_div_eq_div_mul, Nat.reduceMul, List.cons_append,
    List.nil_append] at two three four
  dsimp only
  -- Where the lengths differ, so do the leading bytes.
  split_ifs
  all_goals try omega
  all_goals try exact cons_byte_lt (by omega) (by omega) _ _
  · exact two (by omega)
  · exact three (by omega)
  · exact four

theorem flatMap_utf8EncodeChar_lt {a b : List Char} (before : a < b) :
    a.flatMap String.utf8EncodeChar < b.flatMap String.utf8EncodeChar := by
  induction before with
  | @nil c rest =>
    rw [List.flatMap_nil, List.flatMap_cons]
    cases bytes : String.utf8EncodeChar c with
    | nil => exact absurd bytes String.utf8EncodeChar_ne_nil
    | cons byte others => exact List.nil_lt_cons _ _
  | rel before =>
    simp only [List.flatMap_cons]
    exact utf8EncodeChar_lt before _ _
  | cons _ ih =>
    simp only [List.flatMap_cons]
    exact List.append_left_lt ih

theorem byteLt_of_lt {a b : String} (before : a < b) : ByteLt a b := by
  rw [ByteLt, utf8_eq, utf8_eq]
  exact flatMap_utf8EncodeChar_lt before

theorem byteLt_iff_lt {a b : String} : ByteLt a b ↔ a < b := by
  constructor
  · intro before
    rcases lt_trichotomy a b with less | same | greater
    · exact less
    · subst same
      exact absurd before (List.lt_irrefl _)
    · exact absurd before (List.lt_asymm (byteLt_of_lt greater))
  · exact byteLt_of_lt

end AttributePins.Text
