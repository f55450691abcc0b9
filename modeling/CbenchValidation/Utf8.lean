import Mathlib.Data.List.Basic

/-! Strict UTF-8 decoding, `bytes.decode("utf-8")`: exactly the well-formed byte
sequences of the Unicode standard decode. Decoding undoes the encoder that `print` uses,
so every text reads back as it was printed. -/
namespace CbenchValidation

/-- A Python `bytes` value. -/
abbrev Bytes := List UInt8

namespace Utf8

def cont (b : ℕ) : Bool := 0x80 ≤ b && b ≤ 0xbf

/-- Well-formed two-byte sequences: `C2..DF 80..BF`. -/
def lead2 (b0 b1 : ℕ) : Bool := 0xc2 ≤ b0 && b0 ≤ 0xdf && cont b1

/-- Well-formed three-byte sequences; `E0` and `ED` narrow the second byte so that no
overlong form and no surrogate decodes. -/
def lead3 (b0 b1 b2 : ℕ) : Bool :=
  (if b0 = 0xe0 then 0xa0 ≤ b1 && b1 ≤ 0xbf
   else if b0 = 0xed then 0x80 ≤ b1 && b1 ≤ 0x9f
   else 0xe1 ≤ b0 && b0 ≤ 0xef && cont b1) && cont b2

/-- Well-formed four-byte sequences; `F0` and `F4` narrow the second byte to the code
points `10000..10FFFF`. -/
def lead4 (b0 b1 b2 b3 : ℕ) : Bool :=
  (if b0 = 0xf0 then 0x90 ≤ b1 && b1 ≤ 0xbf
   else if b0 = 0xf4 then 0x80 ≤ b1 && b1 ≤ 0x8f
   else 0xf1 ≤ b0 && b0 ≤ 0xf3 && cont b1) && cont b2 && cont b3

theorem lead2_iff {b0 b1 : ℕ} : lead2 b0 b1 ↔ 0xc2 ≤ b0 ∧ b0 ≤ 0xdf ∧ 0x80 ≤ b1 ∧ b1 ≤ 0xbf := by
  simp only [lead2,cont,Bool.and_eq_true,decide_eq_true_eq,and_assoc]

theorem lead3_iff {b0 b1 b2 : ℕ} : lead3 b0 b1 b2 ↔ (0xe0 ≤ b0 ∧ b0 ≤ 0xef) ∧ 0x80 ≤ b1 ∧ b1 ≤ 0xbf ∧
    0x80 ≤ b2 ∧ b2 ≤ 0xbf ∧ (b0 = 0xe0 → 0xa0 ≤ b1) ∧ (b0 = 0xed → b1 ≤ 0x9f) := by
  simp only [lead3,cont]
  split_ifs <;> simp <;> omega

theorem lead4_iff {b0 b1 b2 b3 : ℕ} : lead4 b0 b1 b2 b3 ↔ (0xf0 ≤ b0 ∧ b0 ≤ 0xf4) ∧ 0x80 ≤ b1 ∧ b1 ≤ 0xbf ∧
    0x80 ≤ b2 ∧ b2 ≤ 0xbf ∧ 0x80 ≤ b3 ∧ b3 ≤ 0xbf ∧ (b0 = 0xf0 → 0x90 ≤ b1) ∧ (b0 = 0xf4 → b1 ≤ 0x8f) := by
  simp only [lead4,cont]
  split_ifs <;> simp <;> omega

def point2 (b0 b1 : ℕ) : ℕ := (b0-0xc0)*64 + (b1-0x80)
def point3 (b0 b1 b2 : ℕ) : ℕ := (b0-0xe0)*4096 + (b1-0x80)*64 + (b2-0x80)
def point4 (b0 b1 b2 b3 : ℕ) : ℕ := (b0-0xf0)*262144 + (b1-0x80)*4096 + (b2-0x80)*64 + (b3-0x80)

/-- `bytes.decode("utf-8")` with strict errors: `none` where Python raises
`UnicodeDecodeError`. -/
def decode : Bytes → Option (List Char)
  | [] => some []
  | b0::r =>
    if b0.toNat < 0x80 then (Char.ofNat b0.toNat :: ·) <$> decode r else
    match r with
    | [] => none
    | b1::r1 =>
      if lead2 b0.toNat b1.toNat then (Char.ofNat (point2 b0.toNat b1.toNat) :: ·) <$> decode r1 else
      match r1 with
      | [] => none
      | b2::r2 =>
        if lead3 b0.toNat b1.toNat b2.toNat then
          (Char.ofNat (point3 b0.toNat b1.toNat b2.toNat) :: ·) <$> decode r2 else
        match r2 with
        | [] => none
        | b3::r3 =>
          if lead4 b0.toNat b1.toNat b2.toNat b3.toNat then
            (Char.ofNat (point4 b0.toNat b1.toNat b2.toNat b3.toNat) :: ·) <$> decode r3
          else none

theorem decode_cons_one {b0 : UInt8} (r : Bytes) (h : b0.toNat < 0x80) :
    decode (b0::r) = (Char.ofNat b0.toNat :: ·) <$> decode r := by
  rw [decode.eq_def]
  simp only [h,if_true]

theorem decode_cons_two {b0 b1 : UInt8} (r : Bytes) (h0 : ¬ b0.toNat < 0x80) (h : lead2 b0.toNat b1.toNat) :
    decode (b0::b1::r) = (Char.ofNat (point2 b0.toNat b1.toNat) :: ·) <$> decode r := by
  rw [decode.eq_def]
  simp only [h0,h,if_true,if_false]

theorem decode_cons_three {b0 b1 b2 : UInt8} (r : Bytes) (h0 : ¬ b0.toNat < 0x80)
    (h2 : lead2 b0.toNat b1.toNat = false) (h : lead3 b0.toNat b1.toNat b2.toNat) :
    decode (b0::b1::b2::r) = (Char.ofNat (point3 b0.toNat b1.toNat b2.toNat) :: ·) <$> decode r := by
  rw [decode.eq_def]
  simp only [h0,h,h2,Bool.false_eq_true,if_true,if_false]

theorem decode_cons_four {b0 b1 b2 b3 : UInt8} (r : Bytes) (h0 : ¬ b0.toNat < 0x80)
    (h2 : lead2 b0.toNat b1.toNat = false) (h3 : lead3 b0.toNat b1.toNat b2.toNat = false)
    (h : lead4 b0.toNat b1.toNat b2.toNat b3.toNat) :
    decode (b0::b1::b2::b3::r) = (Char.ofNat (point4 b0.toNat b1.toNat b2.toNat b3.toNat) :: ·) <$> decode r := by
  rw [decode.eq_def]
  simp only [h0,h,h2,h3,Bool.false_eq_true,if_true,if_false]

/-- UTF-8 encoding of one code point, `str.encode("utf-8")` on one character. -/
def encodePoint (n : ℕ) : Bytes :=
  if n < 0x80 then [UInt8.ofNat n]
  else if n < 0x800 then [UInt8.ofNat (0xc0 + n/64), UInt8.ofNat (0x80 + n%64)]
  else if n < 0x10000 then
    [UInt8.ofNat (0xe0 + n/4096), UInt8.ofNat (0x80 + n/64%64), UInt8.ofNat (0x80 + n%64)]
  else [UInt8.ofNat (0xf0 + n/262144), UInt8.ofNat (0x80 + n/4096%64),
    UInt8.ofNat (0x80 + n/64%64), UInt8.ofNat (0x80 + n%64)]

def encode (cs : List Char) : Bytes := cs.flatMap fun c => encodePoint c.toNat

@[simp] theorem encode_nil : encode [] = [] := rfl
@[simp] theorem encode_cons (c : Char) (cs : List Char) :
    encode (c::cs) = encodePoint c.toNat ++ encode cs := rfl

theorem encodePoint_digits2 {a c : ℕ} (h1 : 2 ≤ a) (h2 : a < 32) (hc : c < 64) :
    encodePoint (a*64 + c) = [UInt8.ofNat (0xc0 + a),UInt8.ofNat (0x80 + c)] := by
  rw [encodePoint,if_neg (by omega),if_pos (by omega),show (a*64 + c)/64 = a by omega,
    show (a*64 + c)%64 = c by omega]

theorem encodePoint_digits3 {a b c : ℕ} (ha : a < 16) (hb : b < 64) (hc : c < 64)
    (h : 0x800 ≤ a*4096 + b*64 + c) :
    encodePoint (a*4096 + b*64 + c) = [UInt8.ofNat (0xe0 + a),UInt8.ofNat (0x80 + b),UInt8.ofNat (0x80 + c)] := by
  rw [encodePoint,if_neg (by omega),if_neg (by omega),if_pos (by omega),
    show (a*4096 + b*64 + c)/4096 = a by omega,show (a*4096 + b*64 + c)/64%64 = b by omega,
    show (a*4096 + b*64 + c)%64 = c by omega]

theorem encodePoint_digits4 {a b d c : ℕ} (hb : b < 64) (hd : d < 64) (hc : c < 64)
    (h : 0x10000 ≤ a*262144 + b*4096 + d*64 + c) :
    encodePoint (a*262144 + b*4096 + d*64 + c) =
      [UInt8.ofNat (0xf0 + a),UInt8.ofNat (0x80 + b),UInt8.ofNat (0x80 + d),UInt8.ofNat (0x80 + c)] := by
  rw [encodePoint,if_neg (by omega),if_neg (by omega),if_neg (by omega),
    show (a*262144 + b*4096 + d*64 + c)/262144 = a by omega,
    show (a*262144 + b*4096 + d*64 + c)/4096%64 = b by omega,
    show (a*262144 + b*4096 + d*64 + c)/64%64 = d by omega,show (a*262144 + b*4096 + d*64 + c)%64 = c by omega]

theorem toNat_byte {m : ℕ} (h : m < 256) : (UInt8.ofNat m).toNat = m := by
  simp [UInt8.ofNat,UInt8.toNat,Fin.ofNat,Nat.mod_eq_of_lt h]

theorem lead2_of_le {b0 b1 : ℕ} (h : 0xe0 ≤ b0) : lead2 b0 b1 = false :=
  Bool.eq_false_iff.mpr fun h' => by have := lead2_iff.mp h'; omega

theorem lead3_of_le {b0 b1 b2 : ℕ} (h : 0xf0 ≤ b0) : lead3 b0 b1 b2 = false :=
  Bool.eq_false_iff.mpr fun h' => by have := lead3_iff.mp h'; omega

theorem decode_encodePoint_one {n : ℕ} (h : n < 0x80) (r : Bytes) :
    decode (encodePoint n ++ r) = (Char.ofNat n :: ·) <$> decode r := by
  have e : (UInt8.ofNat n).toNat = n := toNat_byte (by omega)
  rw [encodePoint,if_pos h,List.singleton_append,decode_cons_one r (by omega),e]

theorem decode_encodePoint_two {n : ℕ} (h1 : 0x80 ≤ n) (h2 : n < 0x800) (r : Bytes) :
    decode (encodePoint n ++ r) = (Char.ofNat n :: ·) <$> decode r := by
  obtain ⟨a,c,hc,rfl⟩ : ∃ a c, c < 64 ∧ n = a*64 + c := ⟨n/64,n%64,by omega,by omega⟩
  have e0 : (UInt8.ofNat (0xc0 + a)).toNat = 0xc0 + a := toNat_byte (by omega)
  have e1 : (UInt8.ofNat (0x80 + c)).toNat = 0x80 + c := toNat_byte (by omega)
  rw [encodePoint_digits2 (by omega) (by omega) hc,List.cons_append,List.cons_append,List.nil_append,
    decode_cons_two r (by omega) (lead2_iff.mpr (by omega)),e0,e1,
    show point2 (0xc0 + a) (0x80 + c) = a*64 + c by simp only [point2]; omega]

theorem decode_encodePoint_three {n : ℕ} (h1 : 0x800 ≤ n) (h2 : n < 0x10000) (hs : n < 0xd800 ∨ 0xdfff < n)
    (r : Bytes) : decode (encodePoint n ++ r) = (Char.ofNat n :: ·) <$> decode r := by
  obtain ⟨a,b,c,hb,hc,rfl⟩ : ∃ a b c, b < 64 ∧ c < 64 ∧ n = a*4096 + b*64 + c :=
    ⟨n/4096,n/64%64,n%64,by omega,by omega,by omega⟩
  have e0 : (UInt8.ofNat (0xe0 + a)).toNat = 0xe0 + a := toNat_byte (by omega)
  have e1 : (UInt8.ofNat (0x80 + b)).toNat = 0x80 + b := toNat_byte (by omega)
  have e2 : (UInt8.ofNat (0x80 + c)).toNat = 0x80 + c := toNat_byte (by omega)
  rw [encodePoint_digits3 (by omega) hb hc h1,List.cons_append,List.cons_append,List.cons_append,
    List.nil_append,decode_cons_three r (by omega) (lead2_of_le (by omega)) (lead3_iff.mpr (by omega)),e0,e1,e2,
    show point3 (0xe0 + a) (0x80 + b) (0x80 + c) = a*4096 + b*64 + c by simp only [point3]; omega]

theorem decode_encodePoint_four {n : ℕ} (h1 : 0x10000 ≤ n) (h2 : n < 0x110000) (r : Bytes) :
    decode (encodePoint n ++ r) = (Char.ofNat n :: ·) <$> decode r := by
  obtain ⟨a,b,d,c,hb,hd,hc,rfl⟩ : ∃ a b d c, b < 64 ∧ d < 64 ∧ c < 64 ∧ n = a*262144 + b*4096 + d*64 + c :=
    ⟨n/262144,n/4096%64,n/64%64,n%64,by omega,by omega,by omega,by omega⟩
  have e0 : (UInt8.ofNat (0xf0 + a)).toNat = 0xf0 + a := toNat_byte (by omega)
  have e1 : (UInt8.ofNat (0x80 + b)).toNat = 0x80 + b := toNat_byte (by omega)
  have e2 : (UInt8.ofNat (0x80 + d)).toNat = 0x80 + d := toNat_byte (by omega)
  have e3 : (UInt8.ofNat (0x80 + c)).toNat = 0x80 + c := toNat_byte (by omega)
  rw [encodePoint_digits4 hb hd hc h1,List.cons_append,List.cons_append,List.cons_append,List.cons_append,
    List.nil_append,decode_cons_four r (by omega) (lead2_of_le (by omega)) (lead3_of_le (by omega))
      (lead4_iff.mpr (by omega)),e0,e1,e2,e3,
    show point4 (0xf0 + a) (0x80 + b) (0x80 + d) (0x80 + c) = a*262144 + b*4096 + d*64 + c by
      simp only [point4]; omega]

theorem decode_encodePoint_append (c : Char) (r : Bytes) :
    decode (encodePoint c.toNat ++ r) = (c :: ·) <$> decode r := by
  have hv : c.toNat < 0xd800 ∨ (0xdfff < c.toNat ∧ c.toNat < 0x110000) := c.valid
  conv_rhs => rw [← Char.ofNat_toNat c]
  rcases Nat.lt_or_ge c.toNat 0x80 with h1 | h1
  · exact decode_encodePoint_one h1 r
  rcases Nat.lt_or_ge c.toNat 0x800 with h2 | h2
  · exact decode_encodePoint_two h1 h2 r
  rcases Nat.lt_or_ge c.toNat 0x10000 with h3 | h3
  · exact decode_encodePoint_three h2 h3 (by omega) r
  · exact decode_encodePoint_four h3 (by omega) r

/-- Decoding undoes encoding. -/
theorem decode_encode (cs : List Char) : decode (encode cs) = some cs := by
  induction cs with
  | nil => rfl
  | cons c cs ih => rw [encode_cons,decode_encodePoint_append,ih]; rfl

end Utf8
end CbenchValidation
