/-
# Text in byte strings

`encode` writes a text as UTF-8.  `pieces` reads a byte string as characters and ill-formed
stretches, where a stretch is the longest beginning of some well-formed sequence, or one byte if no
sequence begins so.  `decode?` accepts a byte string without ill-formed stretches; `lossy` puts
U+FFFD in the place of each.

* `encode_append`: texts are written one after the other;
* `encode_inj`: different texts are written differently;
* `lossy_of_decode?`: where `decode?` accepts, `lossy` agrees.
-/

namespace Loadable

/-- A byte string, in which arguments arrive and results leave. -/
abbrev Bytes := List UInt8

namespace Utf8

/-- The UTF-8 form of a text. -/
def encode (s : String) : Bytes := s.toList.flatMap String.utf8EncodeChar

/-- What the first byte of a sequence announces: how many bytes follow, the range of the next one,
and the bits of the scalar value that it carries itself. -/
structure Lead where
  more : Nat
  low : UInt8
  high : UInt8
  bits : Nat
  deriving Repr, DecidableEq

/-- The announcement of a first byte, `none` where no sequence begins with it.  The narrower ranges
keep out overlong forms, surrogates and values above U+10FFFF. -/
def Lead.ofByte? (b : UInt8) : Option Lead :=
  if b < 0x80 then some ⟨0, 0x80, 0xBF, b.toNat⟩
  else if b < 0xC2 then none
  else if b < 0xE0 then some ⟨1, 0x80, 0xBF, b.toNat - 0xC0⟩
  else if b = 0xE0 then some ⟨2, 0xA0, 0xBF, 0⟩
  else if b = 0xED then some ⟨2, 0x80, 0x9F, 0xD⟩
  else if b < 0xF0 then some ⟨2, 0x80, 0xBF, b.toNat - 0xE0⟩
  else if b = 0xF0 then some ⟨3, 0x90, 0xBF, 0⟩
  else if b < 0xF4 then some ⟨3, 0x80, 0xBF, b.toNat - 0xF0⟩
  else if b = 0xF4 then some ⟨3, 0x80, 0x8F, 4⟩
  else none

/-- Read the bytes that a first byte announced: the scalar value, or `none` at the first byte out of
range, and what is left. -/
def follow : Nat → UInt8 → UInt8 → Nat → Bytes → Option Nat × Bytes
  | 0, _, _, value, rest => (some value, rest)
  | _ + 1, _, _, _, [] => (none, [])
  | n + 1, low, high, value, b :: rest =>
    if low ≤ b ∧ b ≤ high then follow n 0x80 0xBF (value * 64 + (b.toNat - 0x80)) rest
    else (none, b :: rest)

theorem follow_length_le (n : Nat) (low high : UInt8) (value : Nat) (bs : Bytes) :
    (follow n low high value bs).2.length ≤ bs.length := by
  fun_induction follow n low high value bs with
  | case1 => simp
  | case2 => simp
  | case3 n low high value b rest _ ih => simpa using Nat.le_succ_of_le ih
  | case4 => simp

/-- Read one character or one ill-formed stretch, which starts with the given byte. -/
def step (b : UInt8) (rest : Bytes) : Option Char × Bytes :=
  match Lead.ofByte? b with
  | none => (none, rest)
  | some lead =>
    let read := follow lead.more lead.low lead.high lead.bits rest
    (read.1.map Char.ofNat, read.2)

theorem step_length_le (b : UInt8) (rest : Bytes) : (step b rest).2.length ≤ rest.length := by
  unfold step
  split
  · simp
  · exact follow_length_le ..

/-- The characters of a byte string, with `none` for each ill-formed stretch. -/
def pieces : Bytes → List (Option Char)
  | [] => []
  | b :: rest => (step b rest).1 :: pieces (step b rest).2
termination_by bs => bs.length
decreasing_by exact Nat.lt_succ_of_le (step_length_le b rest)

/-- The text of a well-formed byte string. -/
def decode? (bs : Bytes) : Option String := ((pieces bs).mapM id).map String.ofList

/-- The text of any byte string, with U+FFFD for each ill-formed stretch. -/
def lossy (bs : Bytes) : String := String.ofList ((pieces bs).map (·.getD '\uFFFD'))

@[simp] theorem encode_append (s t : String) : encode (s ++ t) = encode s ++ encode t := by
  simp [encode]

/-- **Different texts are written differently.** -/
theorem encode_inj {s t : String} : encode s = encode t ↔ s = t := by
  refine ⟨fun h => ?_, fun h => h ▸ rfl⟩
  have h : s.toList.utf8Encode = t.toList.utf8Encode := congrArg List.toByteArray h
  rw [← String.toByteArray_inj, ← @String.ofList_toList s, ← @String.ofList_toList t,
    String.toByteArray_ofList, String.toByteArray_ofList, h]

theorem map_getD_of_mapM {l : List (Option Char)} {cs : List Char} (h : l.mapM id = some cs)
    (d : Char) : l.map (·.getD d) = cs := by
  induction l generalizing cs with
  | nil => simpa using h
  | cons o l ih =>
    cases o with
    | none => simp [List.mapM_cons] at h
    | some c =>
      simp only [List.mapM_cons, id, Option.bind_eq_bind, Option.bind_some] at h
      obtain ⟨t, ht, hc⟩ := Option.bind_eq_some_iff.1 h
      obtain rfl : c :: t = cs := by simpa using hc
      simp [ih ht]

/-- **A well-formed byte string reads the same either way.** -/
theorem lossy_of_decode? {bs : Bytes} {s : String} (h : decode? bs = some s) : lossy bs = s := by
  obtain ⟨cs, hcs, rfl⟩ := Option.map_eq_some_iff.1 h
  rw [lossy, map_getD_of_mapM hcs]

/-- The bytes before the first zero byte, all of them if there is none. -/
def beforeZero (bs : Bytes) : Bytes := bs.takeWhile (· ≠ 0)

end Utf8
end Loadable
