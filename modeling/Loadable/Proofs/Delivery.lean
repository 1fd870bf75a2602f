/-
# Where a string is put

A string goes into the server's buffer if there is one and the string is no longer than the capacity told with
it, and is left where it is otherwise.  In the buffer it lies over the front and all behind it stays
(`getElem?_overwrite`).  So the server reads the very bytes, and no byte at or past the capacity is ever
written: `ResultArea.deliver_exact`, for one string, and `Context.process_spares`, for every call for a value.
-/

import Loadable.Proofs.Outputs

namespace Loadable

/-- What fits over the front of a buffer leaves its size. -/
theorem length_overwrite {bs buffer : Bytes} (h : bs.length ≤ buffer.length) :
    (overwrite bs buffer).length = buffer.length := by
  rw [overwrite, List.length_append, List.length_drop]
  omega

/-- Behind what is written over its front a buffer stays as it is. -/
theorem getElem?_overwrite {bs : Bytes} {i : Nat} (h : bs.length ≤ i) (buffer : Bytes) :
    (overwrite bs buffer)[i]? = buffer[i]? := by
  rw [overwrite, List.getElem?_append_right h, List.getElem?_drop, Nat.add_sub_cancel' h]

namespace ResultArea

variable (area : ResultArea) (bs : Bytes)

/-- The string can be put into the buffer. -/
def Takes : Prop := area.buffer.isSome = true ∧ bs.length ≤ area.length

/-- The capacity does not exceed the buffer. -/
def Sound : Prop := ∀ buffer, area.buffer = some buffer → area.length ≤ buffer.length

/-- Another buffer has the size of this one, and its bytes at and past the capacity. -/
def Spares (after : ResultArea) : Prop :=
  ∀ buffer, area.buffer = some buffer → ∃ left, after.buffer = some left
    ∧ left.length = buffer.length ∧ ∀ i, area.length ≤ i → left[i]? = buffer[i]?

variable {area bs}

theorem deliver_of_takes {buffer : Bytes} (hbuffer : area.buffer = some buffer)
    (hfits : bs.length ≤ area.length) :
    area.deliver bs = (.buffer, ⟨some (overwrite bs buffer), bs.length⟩) := by
  rw [deliver, hbuffer]
  exact if_pos hfits

theorem deliver_of_not_takes (h : ¬ area.Takes bs) :
    area.deliver bs = (.source bs, ⟨area.buffer, bs.length⟩) := by
  rw [deliver]
  split
  case h_1 buffer hbuffer =>
    rw [hbuffer, if_neg fun hfits => h ⟨by rw [hbuffer]; rfl, hfits⟩]
  case h_2 hbuffer => rw [hbuffer]

theorem Spares.refl (area : ResultArea) : area.Spares area :=
  fun buffer hbuffer => ⟨buffer, hbuffer, rfl, fun _ _ => rfl⟩

/-- A string that is handed over spares what lies at and past the capacity. -/
theorem spares_deliver (h : area.Sound) (bs : Bytes) : area.Spares (area.deliver bs).2 := by
  intro buffer hbuffer
  by_cases htakes : area.Takes bs
  · have hroom := h buffer hbuffer
    refine ⟨overwrite bs buffer, by rw [deliver_of_takes hbuffer htakes.2],
      length_overwrite (Nat.le_trans htakes.2 hroom), fun i hi => ?_⟩
    exact getElem?_overwrite (Nat.le_trans htakes.2 hi) buffer
  · exact ⟨buffer, by rw [deliver_of_not_takes htakes, hbuffer], rfl, fun _ _ => rfl⟩

/-- **A string is handed over exactly.**  For every string, every buffer or none, and every capacity that
does not exceed it: the length told is that of the string; the string is in the buffer exactly
if there is one and the capacity suffices, and is else where it was left; the bytes read there are the
string; and of the buffer all bytes stay that are past the string, or all at once if the string was left where
it was, and in any case those at and past the capacity. -/
theorem deliver_exact (area : ResultArea) (h : area.Sound) (bs : Bytes) :
    let p := (area.deliver bs).1
    let after := (area.deliver bs).2
    after.length = bs.length
      ∧ (p = .buffer ↔ area.buffer.isSome = true ∧ bs.length ≤ area.length)
      ∧ (p = .buffer ∨ p = .source bs)
      ∧ after.read p = some bs
      ∧ (area.buffer = none → after.buffer = none)
      ∧ ∀ buffer, area.buffer = some buffer → ∃ left, after.buffer = some left
        ∧ left.length = buffer.length
        ∧ (p = .buffer → ∀ i, bs.length ≤ i → left[i]? = buffer[i]?)
        ∧ (p = .source bs → left = buffer)
        ∧ ∀ i, area.length ≤ i → left[i]? = buffer[i]? := by
  intro p after
  have hread : after.read p = some bs := area.read_deliver bs
  have hspares : area.Spares after := spares_deliver h bs
  by_cases htakes : area.Takes bs
  · obtain ⟨buffer, hbuffer⟩ := Option.isSome_iff_exists.1 htakes.1
    have hp : p = .buffer := congrArg Prod.fst (deliver_of_takes hbuffer htakes.2)
    have hafter : after = ⟨some (overwrite bs buffer), bs.length⟩ :=
      congrArg Prod.snd (deliver_of_takes hbuffer htakes.2)
    refine ⟨by rw [hafter], iff_of_true hp htakes, .inl hp, hread, ?_, fun buffer' hbuffer' => ?_⟩
    · rw [hbuffer]
      nofun
    · obtain rfl : buffer' = buffer := Option.some.inj (hbuffer'.symm.trans hbuffer)
      obtain ⟨left, hleft, hlength, hbeyond⟩ := hspares buffer' hbuffer
      obtain rfl : left = overwrite bs buffer' := Option.some.inj (hleft.symm.trans (by rw [hafter]))
      refine ⟨_, hleft, hlength, fun _ i hi => getElem?_overwrite hi buffer', ?_, hbeyond⟩
      rw [hp]
      nofun
  · have hp : p = .source bs := congrArg Prod.fst (deliver_of_not_takes htakes)
    have hafter : after = ⟨area.buffer, bs.length⟩ := congrArg Prod.snd (deliver_of_not_takes htakes)
    have hout : p ≠ .buffer := by
      rw [hp]
      nofun
    refine ⟨by rw [hafter], iff_of_false hout htakes, .inr hp, hread, fun hnone => by rw [hafter, hnone],
      fun buffer hbuffer => ⟨buffer, by rw [hafter, hbuffer], rfl, ?_, fun _ => rfl, fun _ _ => rfl⟩⟩
    exact fun hin => absurd hin hout

/-- A buffer of six bytes of which four may be written, none left, and no buffer. -/
theorem deliver_exact_sixBytes :
    let area : ResultArea := ⟨some [1, 2, 3, 4, 5, 6], 4⟩
    area.Sound
      ∧ (area.deliver [7, 7, 7, 7]).1 = .buffer
      ∧ (area.deliver [7, 7, 7, 7, 7]).1 = .source [7, 7, 7, 7, 7]
      ∧ (area.deliver [7, 7, 7, 7, 7]).2.buffer = area.buffer
      ∧ (area.deliver []).2.buffer = area.buffer := by
  intro area
  have hsound : area.Sound := by
    rintro buffer ⟨⟩
    decide
  obtain ⟨-, hfits, -⟩ := area.deliver_exact hsound [7, 7, 7, 7]
  obtain ⟨-, hlong, hplace, -, -, hleft⟩ := area.deliver_exact hsound [7, 7, 7, 7, 7]
  obtain ⟨-, hempty, -, -, -, hsame⟩ := area.deliver_exact hsound []
  have hout : (area.deliver [7, 7, 7, 7, 7]).1 = .source [7, 7, 7, 7, 7] :=
    hplace.resolve_left fun h => absurd (hlong.1 h).2 (by decide)
  obtain ⟨left, hbuffer, -, -, hkept, -⟩ := hleft _ rfl
  obtain ⟨left', hbuffer', -, hbehind, -⟩ := hsame _ rfl
  refine ⟨hsound, hfits.2 ⟨rfl, by decide⟩, hout, by rw [hbuffer, hkept hout], ?_⟩
  rw [hbuffer']
  exact congrArg some (List.ext_getElem? fun i =>
    hbehind (hempty.2 ⟨rfl, by decide⟩) i (Nat.zero_le i))

end ResultArea

/-- Whatever the verdict on a call, it spares what lies at and past the capacity. -/
theorem Verdict.spares_delivery {c : Carrier} (verdict : Verdict c.Payload) {area : ResultArea}
    (h : area.Sound) : area.Spares (verdict.delivery c area).2 := by
  cases verdict with
  | value v =>
    cases c with
    | int => exact .refl area
    | real => exact .refl area
    | borrowed => exact ResultArea.spares_deliver h v.toBytes
    | owned => exact ResultArea.spares_deliver h v
  | _ => exact .refl area

/-- **No call for a value writes past its bounds:** the server's buffer keeps its size, and its bytes at and past
the capacity. -/
theorem Context.process_spares {σ : Type} (r : Routine σ) (c : Context σ) (args : List Argument)
    (flags : Flags) {area : ResultArea} (h : area.Sound) :
    area.Spares (c.process r args flags area).area := by
  obtain ⟨-, -, harea⟩ := c.process_verdict r args flags area
  rw [harea]
  exact Verdict.spares_delivery _ h

namespace Session

variable {σ : Type} (s : Session σ)

/-- A call for a value leaves the size of the server's buffer, and so the room in it. -/
theorem room_value (error : UInt8) : (s.value error).session.area.room = s.area.room := by
  have hsound : s.area.Sound := by
    rintro buffer ⟨⟩
    exact Nat.le_refl _
  obtain ⟨left, hleft, hlength, -⟩ :=
    s.context.process_spares s.routine s.arguments ⟨some 0, some error⟩ hsound _ rfl
  rw [value, hleft]
  exact congrArg some hlength

/-- No move changes the room in the server's buffer. -/
theorem Move.room {s t : Session σ} (h : Move s t) : t.area.room = s.area.room := by
  cases h with
  | value error => exact s.room_value error
  | enter items =>
    unfold entered
    split <;> rfl
  | _ => rfl

/-- There is as much room in the server's buffer after every history. -/
theorem room_performAll (ops : List Operation) : (s.performAll ops).area.room = s.area.room :=
  s.performAll_keeps (P := fun t => t.area.room = s.area.room) (fun _ _ hmove h => hmove.room.trans h)
    (fun _ _ _ h => h) rfl

end Session
end Loadable
