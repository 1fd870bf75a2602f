/-
# Texts read back

What `Utf8.encode` writes, `Utf8.decode?` reads back.  A character is written as a first byte that
announces how many bytes follow, and each of these carries six bits; the four forms are told apart
by the range of the scalar value (`step_encodeChar`).  The narrower ranges for the second byte are
met because a scalar value is no surrogate and is written in its shortest form.
-/

import Loadable.Text.Utf8

namespace Loadable
namespace Utf8

/-- The announcement of a first byte, by its number. -/
theorem Lead.ofByte?_ofNat {n : Nat} (hn : n < 256) :
    ofByte? (UInt8.ofNat n)
      = if n < 0x80 then some ⟨0, 0x80, 0xBF, n⟩
        else if n < 0xC2 then none
        else if n < 0xE0 then some ⟨1, 0x80, 0xBF, n - 0xC0⟩
        else if n = 0xE0 then some ⟨2, 0xA0, 0xBF, 0⟩
        else if n = 0xED then some ⟨2, 0x80, 0x9F, 0xD⟩
        else if n < 0xF0 then some ⟨2, 0x80, 0xBF, n - 0xE0⟩
        else if n = 0xF0 then some ⟨3, 0x90, 0xBF, 0⟩
        else if n < 0xF4 then some ⟨3, 0x80, 0xBF, n - 0xF0⟩
        else if n = 0xF4 then some ⟨3, 0x80, 0x8F, 4⟩
        else none := by
  have hnat : (UInt8.ofNat n).toNat = n := UInt8.toNat_ofNat_of_lt hn
  simp only [ofByte?, UInt8.lt_iff_toNat_lt, ← UInt8.toNat_inj, hnat]
  rfl

/-- A byte in range adds its six bits. -/
theorem follow_ofNat {n k value : Nat} {low high : UInt8} (hk : k < 64)
    (hlow : low.toNat ≤ k + 0x80) (hhigh : k + 0x80 ≤ high.toNat) (rest : Bytes) :
    follow (n + 1) low high value (UInt8.ofNat (k + 0x80) :: rest)
      = follow n 0x80 0xBF (value * 64 + k) rest := by
  have hnat : (UInt8.ofNat (k + 0x80)).toNat = k + 0x80 := UInt8.toNat_ofNat_of_lt (show k + 0x80 < 256 by omega)
  rw [follow, if_pos, hnat, Nat.add_sub_cancel]
  rw [UInt8.le_iff_toNat_le, UInt8.le_iff_toNat_le, hnat]
  exact ⟨hlow, hhigh⟩

section Tails

variable {i j k value : Nat} {low high : UInt8} (hi : i < 64) (hj : j < 64) (hk : k < 64)
  (hlow : low.toNat ≤ i + 0x80) (hhigh : i + 0x80 ≤ high.toNat) (rest : Bytes)

include hi hlow hhigh

theorem follow_one :
    follow 1 low high value (UInt8.ofNat (i + 0x80) :: rest) = (some (value * 64 + i), rest) := by
  rw [follow_ofNat hi hlow hhigh, follow]

include hj

theorem follow_two :
    follow 2 low high value (UInt8.ofNat (i + 0x80) :: UInt8.ofNat (j + 0x80) :: rest)
      = (some ((value * 64 + i) * 64 + j), rest) := by
  rw [follow_ofNat hi hlow hhigh]
  exact follow_one hj (Nat.le_add_left ..) (by change j + 0x80 ≤ 0xBF; omega) rest

include hk

theorem follow_three :
    follow 3 low high value
        (UInt8.ofNat (i + 0x80) :: UInt8.ofNat (j + 0x80) :: UInt8.ofNat (k + 0x80) :: rest)
      = (some (((value * 64 + i) * 64 + j) * 64 + k), rest) := by
  rw [follow_ofNat hi hlow hhigh]
  exact follow_two hj hk (Nat.le_add_left ..) (by change j + 0x80 ≤ 0xBF; omega) rest

end Tails

/-! ### The four forms -/

section Forms

variable {v : Nat} (rest : Bytes)

theorem step_one (h : v ≤ 0x7f) : step (UInt8.ofNat v) rest = (some (Char.ofNat v), rest) := by
  rw [step, Lead.ofByte?_ofNat (by omega), if_pos (by omega)]
  rfl

theorem step_two (h : 0x7f < v) (h' : v ≤ 0x7ff) :
    step (UInt8.ofNat (v / 64 % 0x20 + 0xc0)) (UInt8.ofNat (v % 0x40 + 0x80) :: rest)
      = (some (Char.ofNat v), rest) := by
  have hvalue : (v / 64 % 0x20 + 0xc0 - 0xC0) * 64 + v % 0x40 = v := by omega
  rw [step, Lead.ofByte?_ofNat (by omega), if_neg (by omega), if_neg (by omega),
    if_pos (by omega)]
  dsimp only
  rw [follow_one (by omega) (Nat.le_add_left ..) (show _ ≤ 0xBF by omega), hvalue]
  rfl

/-- The second byte keeps above the overlong forms and below the surrogates. -/
theorem step_three (h : 0x7ff < v) (h' : v ≤ 0xffff) (hv : v < 0xD800 ∨ 0xDFFF < v) :
    step (UInt8.ofNat (v / 4096 % 0x10 + 0xe0))
        (UInt8.ofNat (v / 64 % 0x40 + 0x80) :: UInt8.ofNat (v % 0x40 + 0x80) :: rest)
      = (some (Char.ofNat v), rest) := by
  rw [step, Lead.ofByte?_ofNat (by omega), if_neg (by omega), if_neg (by omega),
    if_neg (by omega)]
  by_cases hlow : v / 4096 % 0x10 + 0xe0 = 0xE0
  · have hvalue : (0 * 64 + v / 64 % 0x40) * 64 + v % 0x40 = v := by omega
    rw [if_pos hlow]
    dsimp only
    rw [follow_two (by omega) (by omega) (show 0xA0 ≤ _ by omega) (show _ ≤ 0xBF by omega),
      hvalue]
    rfl
  rw [if_neg hlow]
  by_cases hhigh : v / 4096 % 0x10 + 0xe0 = 0xED
  · have hvalue : (0xD * 64 + v / 64 % 0x40) * 64 + v % 0x40 = v := by omega
    rw [if_pos hhigh]
    dsimp only
    rw [follow_two (by omega) (by omega) (Nat.le_add_left ..) (show _ ≤ 0x9F by omega), hvalue]
    rfl
  · have hvalue : ((v / 4096 % 0x10 + 0xe0 - 0xE0) * 64 + v / 64 % 0x40) * 64 + v % 0x40 = v := by
      omega
    rw [if_neg hhigh, if_pos (by omega)]
    dsimp only
    rw [follow_two (by omega) (by omega) (Nat.le_add_left ..) (show _ ≤ 0xBF by omega), hvalue]
    rfl

/-- The second byte keeps above the overlong forms and below the end of the scalar values. -/
theorem step_four (h : 0xffff < v) (h' : v < 0x110000) :
    step (UInt8.ofNat (v / 262144 % 0x08 + 0xf0))
        (UInt8.ofNat (v / 4096 % 0x40 + 0x80) :: UInt8.ofNat (v / 64 % 0x40 + 0x80)
          :: UInt8.ofNat (v % 0x40 + 0x80) :: rest)
      = (some (Char.ofNat v), rest) := by
  rw [step, Lead.ofByte?_ofNat (by omega), if_neg (by omega), if_neg (by omega),
    if_neg (by omega), if_neg (by omega), if_neg (by omega), if_neg (by omega)]
  by_cases hlow : v / 262144 % 0x08 + 0xf0 = 0xF0
  · have hvalue : ((0 * 64 + v / 4096 % 0x40) * 64 + v / 64 % 0x40) * 64 + v % 0x40 = v := by
      omega
    rw [if_pos hlow]
    dsimp only
    rw [follow_three (by omega) (by omega) (by omega) (show 0x90 ≤ _ by omega)
      (show _ ≤ 0xBF by omega), hvalue]
    rfl
  rw [if_neg hlow]
  by_cases hhigh : v / 262144 % 0x08 + 0xf0 = 0xF4
  · have hvalue : ((4 * 64 + v / 4096 % 0x40) * 64 + v / 64 % 0x40) * 64 + v % 0x40 = v := by
      omega
    rw [if_neg (by omega), if_pos hhigh]
    dsimp only
    rw [follow_three (by omega) (by omega) (by omega) (Nat.le_add_left ..)
      (show _ ≤ 0x8F by omega), hvalue]
    rfl
  · have hvalue : (((v / 262144 % 0x08 + 0xf0 - 0xF0) * 64 + v / 4096 % 0x40) * 64
        + v / 64 % 0x40) * 64 + v % 0x40 = v := by
      omega
    rw [if_pos (by omega)]
    dsimp only
    rw [follow_three (by omega) (by omega) (by omega) (Nat.le_add_left ..)
      (show _ ≤ 0xBF by omega), hvalue]
    rfl

end Forms

/-- **A character reads back**, whatever comes after it. -/
theorem step_encodeChar (c : Char) (rest : Bytes) :
    ∃ b bs, String.utf8EncodeChar c = b :: bs ∧ step b (bs ++ rest) = (some c, rest) := by
  have hvalid : c.val.toNat < 0xD800 ∨ 0xDFFF < c.val.toNat ∧ c.val.toNat < 0x110000 := c.valid
  have hchar : Char.ofNat c.val.toNat = c := Char.ofNat_toNat c
  unfold String.utf8EncodeChar
  generalize c.val.toNat = v at hvalid hchar
  subst hchar
  dsimp only
  by_cases h1 : v ≤ 0x7f
  · exact ⟨_, _, if_pos h1, step_one rest h1⟩
  rw [if_neg h1]
  by_cases h2 : v ≤ 0x7ff
  · exact ⟨_, _, if_pos h2, step_two rest (by omega) h2⟩
  rw [if_neg h2]
  by_cases h3 : v ≤ 0xffff
  · exact ⟨_, _, if_pos h3, step_three rest (by omega) h3 (by omega)⟩
  · exact ⟨_, _, if_neg h3, step_four rest (by omega) (by omega)⟩

/-! ### Texts -/

theorem pieces_encode (cs : List Char) : pieces (cs.flatMap String.utf8EncodeChar) = cs.map some := by
  induction cs with
  | nil => rw [List.flatMap_nil, pieces, List.map_nil]
  | cons c cs ih =>
    obtain ⟨b, bs, hbytes, hstep⟩ := step_encodeChar c (cs.flatMap String.utf8EncodeChar)
    rw [List.flatMap_cons, hbytes, List.cons_append, pieces, hstep, ih, List.map_cons]

/-- **A text reads back from its bytes.** -/
@[simp] theorem decode?_encode (s : String) : decode? (encode s) = some s := by
  have hall : ∀ cs : List Char, (cs.map some).mapM id = some cs := by
    intro cs
    induction cs with
    | nil => rfl
    | cons c cs ih => rw [List.map_cons, List.mapM_cons, ih]; rfl
  rw [decode?, encode, pieces_encode, hall, Option.map_some, String.ofList_toList]

/-- What was written as text is read the same by either reading. -/
theorem lossy_encode (s : String) : lossy (encode s) = s := lossy_of_decode? (decode?_encode s)

/-- A letter over and over. -/
theorem encode_replicate (n : Nat) : encode (String.ofList (List.replicate n 'a')) = List.replicate n 97 := by
  rw [encode, String.toList_ofList]
  induction n with
  | zero => rfl
  | succ n ih => exact congrArg (97 :: ·) ih

end Utf8
end Loadable
