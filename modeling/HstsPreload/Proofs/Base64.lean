import HstsPreload.Proofs.Characters
import HstsPreload.Text.Base64

/-!
# Bytes as symbols and back

Each byte string has one written form, and is read back from it. The symbols are characters of
ASCII, so their own bytes are one for each.
-/

namespace HstsPreload.Text.Base64

open Utf8 (encodeChar)

def symbolByte (n : Nat) : UInt8 :=
  .ofNat (symbol n).toNat

lemma encodeChar_symbol : ∀ n < 64, encodeChar (symbol n) = [symbolByte n] := by
  decide

lemma value?_symbolByte : ∀ n < 64, value? (symbolByte n) = some n := by
  decide

lemma symbolByte_ne_padByte : ∀ n < 64, symbolByte n ≠ padByte := by
  decide

lemma bytes_symbol {n : Nat} (h : n < 64) (cs : List Char) :
    Utf8.encode (symbol n :: cs) = symbolByte n :: Utf8.encode cs := by
  rw [Utf8.encode, List.flatMap_cons, encodeChar_symbol n h]
  rfl

lemma bytes_pad (cs : List Char) : Utf8.encode ('=' :: cs) = padByte :: Utf8.encode cs := by
  rw [Utf8.encode, List.flatMap_cons]
  rfl

lemma readSymbol_symbolByte {n : Nat} (h : n < 64) (offset : Nat) :
    readSymbol offset (symbolByte n) = .ok n := by
  rw [readSymbol, value?_symbolByte n h]

lemma readEnding_symbolByte {n : Nat} (h : n < 64) {e : Ending} (he : e.pads = 0)
    (index place : Nat) (rest : List UInt8) :
    readEnding e index place (symbolByte n :: rest) =
      readEnding { e with values := n :: e.values, last := symbolByte n } (index + 1) (place + 1)
        rest := by
  rw [readEnding, if_neg (symbolByte_ne_padByte n h), if_neg fun hp => hp he,
    value?_symbolByte n h]

lemma readEnding_pad {place : Nat} (h : 2 ≤ place) (e : Ending) (index : Nat)
    (rest : List UInt8) : readEnding e index place (padByte :: rest) =
      readEnding { e with
        pads := e.pads + 1, firstPad := if e.pads = 0 then index else e.firstPad }
        (index + 1) (place + 1) rest := by
  rw [readEnding, if_pos rfl, if_neg (Nat.not_lt.mpr h)]

lemma decodeFrom_tail {tail : List UInt8} (h : tail.length ≤ 4) (nonempty : Bool) (start : Nat) :
    decodeFrom nonempty start tail =
      (readEnding {} start 0 tail).bind (closeEnding start nonempty) := by
  rw [decodeFrom]
  · rfl
  · rintro a b c d e rest rfl
    simp only [List.length_cons] at h
    omega

lemma ofNat_eq {n : Nat} {a : UInt8} (h : n = a.toNat) : UInt8.ofNat n = a := by
  rw [h, UInt8.ofNat_toNat]

/-- The bytes that groups of four symbols hold: three in each, and one or two in a last one that
is padded. -/
inductive Groups : List UInt8 → List UInt8 → Prop where
  | none : Groups [] []
  | one {x y : Nat} {a : UInt8} : x < 64 → y < 64 → y % 16 = 0 → .ofNat (x * 4 + y / 16) = a →
      Groups [a] [symbolByte x, symbolByte y, padByte, padByte]
  | two {x y z : Nat} {a b : UInt8} : x < 64 → y < 64 → z < 64 → z % 4 = 0 →
      .ofNat ((x * 4096 + y * 64 + z) / 1024) = a →
      .ofNat ((x * 4096 + y * 64 + z) / 4 % 256) = b →
      Groups [a, b] [symbolByte x, symbolByte y, symbolByte z, padByte]
  | three {x y z w : Nat} {a b c : UInt8} {bytes symbols : List UInt8} :
      x < 64 → y < 64 → z < 64 → w < 64 →
      .ofNat ((x * 262144 + y * 4096 + z * 64 + w) / 65536) = a →
      .ofNat ((x * 262144 + y * 4096 + z * 64 + w) / 256 % 256) = b →
      .ofNat ((x * 262144 + y * 4096 + z * 64 + w) % 256) = c → Groups bytes symbols →
      Groups (a :: b :: c :: bytes)
        (symbolByte x :: symbolByte y :: symbolByte z :: symbolByte w :: symbols)

lemma groups_encode (bytes : List UInt8) : Groups bytes (Utf8.encode (encode bytes)) := by
  induction bytes using encode.induct with
  | case1 a b c rest ih =>
    have ha := a.toNat_lt
    have hb := b.toNat_lt
    have hc := c.toNat_lt
    let n := a.toNat * 65536 + b.toNat * 256 + c.toNat
    have hx : n / 262144 < 64 := by omega
    have hy : n / 4096 % 64 < 64 := by omega
    have hz : n / 64 % 64 < 64 := by omega
    have hw : n % 64 < 64 := by omega
    rw [encode, bytes_symbol hx, bytes_symbol hy, bytes_symbol hz, bytes_symbol hw]
    refine .three hx hy hz hw (ofNat_eq ?_) (ofNat_eq ?_) (ofNat_eq ?_) ih
    all_goals omega
  | case2 a b =>
    have ha := a.toNat_lt
    have hb := b.toNat_lt
    let n := a.toNat * 1024 + b.toNat * 4
    have hx : n / 4096 < 64 := by omega
    have hy : n / 64 % 64 < 64 := by omega
    have hz : n % 64 < 64 := by omega
    rw [encode, bytes_symbol hx, bytes_symbol hy, bytes_symbol hz, bytes_pad]
    refine .two hx hy hz ?_ (ofNat_eq ?_) (ofNat_eq ?_)
    all_goals omega
  | case3 a =>
    have ha := a.toNat_lt
    let n := a.toNat * 16
    have hx : n / 64 < 64 := by omega
    have hy : n % 64 < 64 := by omega
    rw [encode, bytes_symbol hx, bytes_symbol hy, bytes_pad, bytes_pad]
    refine .one hx hy ?_ (ofNat_eq ?_)
    all_goals omega
  | case4 => exact .none

namespace Groups

variable {bytes symbols : List UInt8}

lemma length_mod (h : Groups bytes symbols) : symbols.length % 4 = 0 := by
  induction h with
  | none => rfl
  | one => simp
  | two => simp
  | three _ _ _ _ _ _ _ _ ih =>
    simp only [List.length_cons]
    omega

lemma ne_nil_of_ne_nil (h : Groups bytes symbols) (hne : bytes ≠ []) : symbols ≠ [] := by
  cases h with
  | none => exact (hne rfl).elim
  | one | two | three => exact List.cons_ne_nil _ _

lemma decodeFrom (h : Groups bytes symbols) (hne : bytes ≠ []) (nonempty : Bool) (start : Nat) :
    decodeFrom nonempty start symbols = .ok bytes := by
  induction h generalizing start with
  | none => exact (hne rfl).elim
  | @one x y a hx hy hlast ha =>
    rw [decodeFrom_tail (by simp), readEnding_symbolByte hx rfl, readEnding_symbolByte hy rfl,
      readEnding_pad (by decide), readEnding_pad (by decide)]
    simp [readEnding, closeEnding, Except.bind, hlast, ha]
  | @two x y z a b hx hy hz hlast ha hb =>
    rw [decodeFrom_tail (by simp), readEnding_symbolByte hx rfl, readEnding_symbolByte hy rfl,
      readEnding_symbolByte hz rfl, readEnding_pad (by decide)]
    simp [readEnding, closeEnding, Except.bind, hlast, ha, hb]
  | @three x y z w a b c bytes symbols hx hy hz hw ha hb hc hmore ih =>
    by_cases hbytes : bytes = []
    · obtain rfl := hbytes
      cases hmore
      rw [decodeFrom_tail (by simp), readEnding_symbolByte hx rfl, readEnding_symbolByte hy rfl,
        readEnding_symbolByte hz rfl, readEnding_symbolByte hw rfl]
      simp [readEnding, closeEnding, Except.bind, ha, hb, hc]
    · match symbols, hmore.ne_nil_of_ne_nil hbytes, ih hbytes (start + 4) with
      | e :: symbols, _, hrest =>
        rw [Base64.decodeFrom, readSymbol_symbolByte hx, readSymbol_symbolByte hy,
          readSymbol_symbolByte hz, readSymbol_symbolByte hw]
        simp only [bind, Except.bind, hrest, ha, hb, hc]
        rfl

end Groups

theorem decode_encode (bytes : List UInt8) : decode (Utf8.encode (encode bytes)) = .ok bytes := by
  have hgroups := groups_encode bytes
  by_cases hbytes : bytes = []
  · rw [hbytes]
    rfl
  · have hne := hgroups.ne_nil_of_ne_nil hbytes
    have hlength : (Utf8.encode (encode bytes)).length % 4 ≠ 1 := by
      rw [hgroups.length_mod]
      decide
    rw [decode, List.getLast?_eq_some_getLast hne]
    dsimp only
    rw [if_neg fun h => hlength h.1]
    exact hgroups.decodeFrom hbytes true 0

lemma forall_encode {P : Char → Prop} (hs : ∀ n < 64, P (symbol n)) (hp : P '=')
    (bytes : List UInt8) : ∀ c ∈ encode bytes, P c := by
  induction bytes using encode.induct with
  | case1 a b d rest ih =>
    have ha := a.toNat_lt
    have hb := b.toNat_lt
    have hd := d.toNat_lt
    rw [encode]
    simp only [List.forall_mem_cons]
    exact ⟨hs _ (by omega), hs _ (by omega), hs _ (by omega), hs _ (by omega), ih⟩
  | case2 a b =>
    have ha := a.toNat_lt
    have hb := b.toNat_lt
    rw [encode]
    simp only [List.forall_mem_cons]
    exact ⟨hs _ (by omega), hs _ (by omega), hs _ (by omega), hp, by simp⟩
  | case3 a =>
    have ha := a.toNat_lt
    rw [encode]
    simp only [List.forall_mem_cons]
    exact ⟨hs _ (by omega), hs _ (by omega), hp, hp, by simp⟩
  | case4 => simp [encode]

end HstsPreload.Text.Base64
