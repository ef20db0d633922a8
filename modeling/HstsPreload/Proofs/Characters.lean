import HstsPreload.Text.Utf8
import Mathlib.Tactic.Lemma
import Mathlib.Tactic.SplitIfs

/-!
# Characters as bytes and back

Every character is read back from its bytes, whatever follows them, so every text is read back
from its own.
-/

namespace HstsPreload.Text.Utf8

lemma toNat_byte {n : Nat} (h : n < 256) : (UInt8.ofNat n).toNat = n :=
  UInt8.toNat_ofNat_of_lt' h

lemma isTail_low (n : Nat) : isTail (0x80 + n % 64) = true := by
  have h : n % 64 < 64 := Nat.mod_lt _ (by decide)
  rw [isTail, decide_eq_true_iff]
  omega

/-- The second byte tells overlong forms and surrogates from characters. -/
lemma follows_second {first n : Nat} (hlow : first = 0xe0 → 0x20 ≤ n % 64)
    (hsurrogate : first = 0xed → n % 64 < 0x20) (hplane : first = 0xf0 → 0x10 ≤ n % 64)
    (hlast : first = 0xf4 → n % 64 < 0x10) : follows first (0x80 + n % 64) = true := by
  have h : n % 64 < 64 := Nat.mod_lt _ (by decide)
  unfold follows secondRange
  rw [decide_eq_true_iff]
  split_ifs with h₁ h₂ h₃ h₄
  · have := hlow h₁; dsimp only; omega
  · have := hsurrogate h₂; dsimp only; omega
  · have := hplane h₃; dsimp only; omega
  · have := hlast h₄; dsimp only; omega
  · dsimp only; omega

variable {n : Nat} (rest : List UInt8)

lemma piece_one (h : n < 0x80) : piece (.ofNat n) rest = .char (.ofNat n) 1 := by
  unfold piece
  rw [toNat_byte (by omega), if_pos h]

lemma piece_two (hlow : 0x80 ≤ n) (h : n < 0x800) :
    piece (.ofNat (0xc0 + n / 64)) (.ofNat (0x80 + n % 64) :: rest) = .char (.ofNat n) 2 := by
  have hsecond : (UInt8.ofNat (0x80 + n % 64)).toNat = 0x80 + n % 64 := toNat_byte (by omega)
  have hn : (0xc0 + n / 64 - 0xc0) * 64 + (0x80 + n % 64 - 0x80) = n := by omega
  unfold piece
  rw [toNat_byte (by omega), if_neg (by omega), if_neg (by omega), if_pos (by omega)]
  dsimp only
  rw [hsecond, isTail_low, if_pos rfl, hn]

lemma piece_three (hlow : 0x800 ≤ n) (h : n < 0x10000) (hsurrogate : n < 0xd800 ∨ 0xdfff < n) :
    piece (.ofNat (0xe0 + n / 4096)) (.ofNat (0x80 + n / 64 % 64) :: .ofNat (0x80 + n % 64) :: rest)
      = .char (.ofNat n) 3 := by
  have hsecond : (UInt8.ofNat (0x80 + n / 64 % 64)).toNat = 0x80 + n / 64 % 64 :=
    toNat_byte (by omega)
  have hthird : (UInt8.ofNat (0x80 + n % 64)).toNat = 0x80 + n % 64 := toNat_byte (by omega)
  have hfollows : follows (0xe0 + n / 4096) (0x80 + n / 64 % 64) = true :=
    follows_second (by omega) (by omega) (by omega) (by omega)
  have hn : (0xe0 + n / 4096 - 0xe0) * 4096 + (0x80 + n / 64 % 64 - 0x80) * 64
      + (0x80 + n % 64 - 0x80) = n := by omega
  unfold piece
  rw [toNat_byte (by omega), if_neg (by omega), if_neg (by omega), if_neg (by omega),
    if_pos (by omega)]
  unfold threeBytes
  dsimp only
  rw [hsecond, hthird, hfollows, isTail_low, hn]
  rfl

lemma piece_four (hlow : 0x10000 ≤ n) (h : n < 0x110000) :
    piece (.ofNat (0xf0 + n / 262144)) (.ofNat (0x80 + n / 4096 % 64) ::
      .ofNat (0x80 + n / 64 % 64) :: .ofNat (0x80 + n % 64) :: rest) = .char (.ofNat n) 4 := by
  have hsecond : (UInt8.ofNat (0x80 + n / 4096 % 64)).toNat = 0x80 + n / 4096 % 64 :=
    toNat_byte (by omega)
  have hthird : (UInt8.ofNat (0x80 + n / 64 % 64)).toNat = 0x80 + n / 64 % 64 :=
    toNat_byte (by omega)
  have hfourth : (UInt8.ofNat (0x80 + n % 64)).toNat = 0x80 + n % 64 := toNat_byte (by omega)
  have hfollows : follows (0xf0 + n / 262144) (0x80 + n / 4096 % 64) = true :=
    follows_second (by omega) (by omega) (by omega) (by omega)
  have hn : (0xf0 + n / 262144 - 0xf0) * 262144 + (0x80 + n / 4096 % 64 - 0x80) * 4096
      + (0x80 + n / 64 % 64 - 0x80) * 64 + (0x80 + n % 64 - 0x80) = n := by omega
  unfold piece
  rw [toNat_byte (by omega), if_neg (by omega), if_neg (by omega), if_neg (by omega),
    if_neg (by omega), if_pos (by omega)]
  unfold fourBytes
  dsimp only
  rw [hsecond, hthird, hfourth, hfollows, isTail_low, isTail_low, hn]
  rfl

lemma piece_encodeChar (c : Char) : ∃ first tail, encodeChar c = first :: tail ∧
    piece first (tail ++ rest) = .char c (tail.length + 1) := by
  have hvalid : c.toNat < 0xd800 ∨ 0xdfff < c.toNat ∧ c.toNat < 0x110000 := c.valid
  have hc : Char.ofNat c.toNat = c := Char.ofNat_toNat c
  unfold encodeChar
  dsimp only
  split_ifs with h₁ h₂ h₃
  · exact ⟨_, _, rfl, (piece_one rest h₁).trans (by rw [hc]; rfl)⟩
  · exact ⟨_, _, rfl, (piece_two rest (by omega) h₂).trans (by rw [hc]; rfl)⟩
  · exact ⟨_, _, rfl, (piece_three rest (by omega) h₃ (by omega)).trans (by rw [hc]; rfl)⟩
  · exact ⟨_, _, rfl, (piece_four rest (by omega) (by omega)).trans (by rw [hc]; rfl)⟩

lemma piece_encode_cons (c : Char) (cs : List Char) : ∃ first tail,
    encode (c :: cs) = first :: (tail ++ encode cs) ∧
      piece first (tail ++ encode cs) = .char c (tail.length + 1) := by
  obtain ⟨first, tail, hbytes, hpiece⟩ := piece_encodeChar (encode cs) c
  refine ⟨first, tail, ?_, hpiece⟩
  rw [encode, List.flatMap_cons, hbytes]
  rfl

lemma decodeLossyFrom_encode (cs : List Char) {fuel : Nat} (h : (encode cs).length ≤ fuel) :
    decodeLossyFrom fuel (encode cs) = cs := by
  induction cs generalizing fuel with
  | nil => cases fuel <;> rfl
  | cons c cs ih =>
    obtain ⟨first, tail, hencode, hpiece⟩ := piece_encode_cons c cs
    rw [hencode, List.length_cons, List.length_append] at h
    obtain ⟨fuel, rfl⟩ : ∃ k, fuel = k + 1 := ⟨fuel - 1, by omega⟩
    rw [hencode, decodeLossyFrom, hpiece]
    dsimp only
    rw [Nat.add_sub_cancel, List.drop_left, ih (by omega)]

/-- A text is read back from its bytes. -/
theorem decodeLossy_encode (cs : List Char) : decodeLossy (encode cs) = cs :=
  decodeLossyFrom_encode cs (Nat.le_refl _)

lemma decodeFrom_encode (cs : List Char) {fuel : Nat} (index : Nat)
    (h : (encode cs).length ≤ fuel) : decodeFrom fuel index (encode cs) = .ok cs := by
  induction cs generalizing fuel index with
  | nil => cases fuel <;> rfl
  | cons c cs ih =>
    obtain ⟨first, tail, hencode, hpiece⟩ := piece_encode_cons c cs
    rw [hencode, List.length_cons, List.length_append] at h
    obtain ⟨fuel, rfl⟩ : ∃ k, fuel = k + 1 := ⟨fuel - 1, by omega⟩
    rw [hencode, decodeFrom, hpiece]
    dsimp only
    rw [Nat.add_sub_cancel, List.drop_left, ih _ (by omega)]
    rfl

theorem decode_encode (cs : List Char) : decode (encode cs) = .ok cs :=
  decodeFrom_encode cs 0 (Nat.le_refl _)

end HstsPreload.Text.Utf8
