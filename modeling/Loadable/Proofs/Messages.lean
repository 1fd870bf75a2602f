/-
# Messages through a buffer of fixed size

A message goes into a buffer whose size is agreed on: as much of it as leaves room for a zero byte, and that
byte, over the front of what was there (`written_writeMessage`).  Who reads the buffer takes the bytes before
the first zero byte.  A message may have one of its own, and may be cut within a character; still the two
commute, so what is read is what stands before its first zero byte, cut (`beforeZero_writeMessage`).

With that a session reports why its `init` failed, `Session.messages_survive`: the error of the function, as
far as it gets through, or that it panicked.
-/

import Loadable.Functions.Constants
import Loadable.Proofs.Delivery
import Loadable.Proofs.History
import Loadable.Proofs.Initialization
import Loadable.Proofs.Utf8RoundTrip
import Mathlib.Data.List.TakeWhile

namespace Loadable

/-! ### What is written -/

/-- The front of a buffer is what was written over it. -/
theorem getElem?_overwrite_of_lt {bs : Bytes} {i : Nat} (h : i < bs.length) (buffer : Bytes) :
    (overwrite bs buffer)[i]? = bs[i]? :=
  List.getElem?_append_left h

/-- A message stands at the front of a buffer of which `size` bytes may be written: as much of it as leaves
room for a zero byte, and that byte.  All else is as it was. -/
structure Written (size : Nat) (message before after : Bytes) : Prop where
  length : after.length = before.length
  text : ∀ i < min message.length (size - 1), after[i]? = message[i]?
  ended : after[min message.length (size - 1)]? = some 0
  rest : ∀ i, min message.length (size - 1) < i → after[i]? = before[i]?

section Write

variable {size : Nat} (hsize : 0 < size) (message : Bytes) {buffer : Bytes}

include hsize

theorem writeMessage_eq (buffer : Bytes) :
    writeMessage size message buffer = overwrite (messagePart size message ++ [0]) buffer :=
  if_neg (Nat.ne_of_gt hsize)

/-- **A message is written with a zero byte behind it,** and nothing else is. -/
theorem written_writeMessage (hroom : size ≤ buffer.length) :
    Written size message buffer (writeMessage size message buffer) := by
  have hpart : (messagePart size message).length = min message.length (size - 1) := by
    rw [messagePart, List.length_take, Nat.min_comm]
  have hall : (messagePart size message ++ [0]).length = min message.length (size - 1) + 1 := by
    rw [List.length_append, hpart, List.length_singleton]
  rw [writeMessage_eq hsize]
  refine ⟨length_overwrite ?_, fun i hi => ?_, ?_, fun i hi => ?_⟩
  · rw [hall]
    omega
  · rw [getElem?_overwrite_of_lt (by omega), List.getElem?_append_left (hpart ▸ hi), messagePart,
      List.getElem?_take_of_lt (by omega)]
  · rw [getElem?_overwrite_of_lt (by omega), ← hpart, List.getElem?_concat_length]
  · exact getElem?_overwrite (by omega) buffer

/-! ### What is read -/

/-- **What is read of a message** is what stands before its first zero byte, cut to the room there was. -/
theorem beforeZero_writeMessage (buffer : Bytes) :
    Utf8.beforeZero (writeMessage size message buffer)
      = (Utf8.beforeZero message).take (size - 1) := by
  -- a zero byte in the part that fits ends the reading before the one behind it does
  have hcut : ∀ bs rest : Bytes, Utf8.beforeZero (bs ++ 0 :: rest) = Utf8.beforeZero bs := by
    intro bs rest
    induction bs with
    | nil => rfl
    | cons b bs ih =>
      rw [Utf8.beforeZero, List.cons_append, List.takeWhile_cons, Utf8.beforeZero,
        List.takeWhile_cons]
      split
      · exact congrArg (b :: ·) ih
      · rfl
  rw [writeMessage_eq hsize, overwrite, List.append_assoc, List.singleton_append, hcut, messagePart,
    Utf8.beforeZero, Utf8.beforeZero, List.take_takeWhile]

end Write

namespace Utf8

/-- Without a zero byte all is read. -/
theorem beforeZero_eq_self {bs : Bytes} (h : 0 ∉ bs) : beforeZero bs = bs :=
  List.takeWhile_eq_self_iff.2 fun _ hb => decide_eq_true (ne_of_mem_of_not_mem hb h)

/-- Behind a text bytes are read as they are read alone. -/
theorem lossy_encode_append (s : String) (bs : Bytes) : lossy (encode s ++ bs) = s ++ lossy bs := by
  have hpieces : ∀ cs : List Char,
      pieces (cs.flatMap String.utf8EncodeChar ++ bs) = cs.map some ++ pieces bs := by
    intro cs
    induction cs with
    | nil => rfl
    | cons c cs ih =>
      obtain ⟨b, tail, hbytes, hstep⟩ :=
        step_encodeChar c (cs.flatMap String.utf8EncodeChar ++ bs)
      rw [List.flatMap_cons, hbytes, List.append_assoc, List.cons_append, pieces, hstep, ih,
        List.map_cons, List.cons_append]
  rw [lossy, encode, hpieces, List.map_append, List.map_map, String.ofList_append, ← lossy]
  congr 1
  simp [Function.comp_def]

end Utf8

/-- Arguments that are put in place for a call have types. -/
theorem Sample.typed_place (items : List Sample) : ∀ a ∈ items.map place, a.Typed := by
  intro a ha
  obtain ⟨item, -, rfl⟩ := List.mem_map.1 ha
  exact ⟨item.value.type, rfl⟩

namespace Session

/-- A message arrives up to its first zero byte, cut to what the server's buffer holds. -/
theorem received_eq (message : String) :
    received message = Utf8.lossy ((Utf8.beforeZero (Utf8.encode message)).take 511) := by
  rw [received, beforeZero_writeMessage (by decide)]
  rfl

/-- Of a message without zero bytes the part that fits arrives as it is, and of what is behind it the bytes
for which there is room, of which the last may be less than a character. -/
theorem received_append {kept rest : String} (hzero : 0 ∉ Utf8.encode (kept ++ rest))
    (hlength : (Utf8.encode kept).length ≤ 511) :
    received (kept ++ rest)
      = kept ++ Utf8.lossy ((Utf8.encode rest).take (511 - (Utf8.encode kept).length)) := by
  rw [received_eq, Utf8.beforeZero_eq_self hzero, Utf8.encode_append, List.take_append,
    List.take_of_length_le hlength, Utf8.lossy_encode_append]

/-- A message without zero bytes that fits arrives as it is. -/
theorem received_of_short {message : String} (hzero : 0 ∉ Utf8.encode message)
    (hlength : (Utf8.encode message).length ≤ 511) : received message = message := by
  rw [received_eq, Utf8.beforeZero_eq_self hzero, List.take_of_length_le hlength,
    Utf8.lossy_encode]

/-- What a session reports of an `init` that failed, with the text that arrived. -/
def failedInit (name text : String) : Report :=
  .ofText [.strong .red s!"{name}_init failed:", .plain " ", .strong .white text]

/-- Without its styles the report is the text that arrived, behind what failed. -/
theorem message_failedInit (name text : String) :
    (failedInit name text).message Text.Styled.plain = s!"{name}_init failed:" ++ " " ++ text := by
  simp [failedInit, Report.message, Report.ofText, Report.ofFault, Fault.message, Text.Styled.plain,
    Text.Piece.strong, Text.Piece.plain, String.join, String.append_assoc]

variable {σ : Type} (s : Session σ)

/-- A session goes by the message: there is none if the function's `init` succeeded. -/
theorem result_entered (reply : InitReply σ) :
    (s.entered reply).result
      = match reply.message with
        | some message => .error (failedInit s.name (received message))
        | none => .ok () := by
  unfold entered
  cases reply.message <;> rfl

/-- `init` succeeds exactly if the function's own code ends well. -/
theorem ok_init_iff {s : Session σ} (hinit : s.initialized = false) (hsym : s.symbols.init.isSome = true)
    {items : List Sample} :
    (s.init items).result = .ok ()
      ↔ ∃ x, (s.routine.init (s.context.preparation s.routine (items.map Sample.place))
        (items.map Sample.place)).outcome = .ok x := by
  rw [s.init_called hinit hsym, result_entered, s.context.init_checked _ _ (Sample.typed_place items),
    Context.message_initWith]
  cases (s.routine.init (s.context.preparation s.routine (items.map Sample.place))
    (items.map Sample.place)).outcome with
  | ok x => exact iff_of_true rfl ⟨x, rfl⟩
  | err text => exact iff_of_false nofun nofun
  | panic p => exact iff_of_false nofun nofun

/-- **Messages survive the buffer.**  Into a buffer with room for `size` bytes a message is written up to
`size - 1` bytes, with one zero byte behind it and nothing else changed; nothing is written where `size` is
zero or there is no buffer.  And of every session in which a function's own `init` is called: an error that
it returns is reported as the text of its bytes before the first zero byte, cut at 511 bytes, with ill-formed
stretches replaced; a panic is reported as one, in the same words always; and nothing is reported where it
succeeds.  Without its styles the report is that text, behind what failed. -/
theorem messages_survive (hinit : s.initialized = false) (hsym : s.symbols.init.isSome = true)
    (items : List Sample) :
    (∀ (size : Nat) (message : Bytes),
        writeMessageAt size message none = none
          ∧ ∀ buffer : Bytes, size ≤ buffer.length →
            (size = 0 → writeMessageAt size message (some buffer) = some buffer)
              ∧ (0 < size → ∃ after, writeMessageAt size message (some buffer) = some after
                ∧ Written size message buffer after))
      ∧ ((s.init items).result
        = match (s.routine.init (s.context.preparation s.routine (items.map Sample.place))
            (items.map Sample.place)).outcome with
          | .ok _ => .ok ()
          | .err message =>
            .error (failedInit s.name
              (Utf8.lossy ((Utf8.beforeZero (Utf8.encode message)).take 511)))
          | .panic _ => .error (failedInit s.name "(critical) init function panicked"))
      ∧ ∀ text, (failedInit s.name text).message Text.Styled.plain
        = s!"{s.name}_init failed:" ++ " " ++ text := by
  refine ⟨fun size message => ⟨rfl, fun buffer hroom => ⟨?_, fun hsize => ?_⟩⟩, ?_,
    message_failedInit s.name⟩
  · rintro rfl
    rfl
  · exact ⟨_, rfl, written_writeMessage hsize message hroom⟩
  · have hpanic : received "(critical) init function panicked" = "(critical) init function panicked" :=
      received_of_short (by decide) (by decide)
    rw [s.init_called hinit hsym, result_entered, s.context.init_checked _ _ (Sample.typed_place items),
      Context.message_initWith]
    cases (s.routine.init (s.context.preparation s.routine (items.map Sample.place))
      (items.map Sample.place)).outcome with
    | ok state => rfl
    | err message => exact congrArg (Except.error ∘ failedInit s.name) (received_eq message)
    | panic p => exact congrArg (Except.error ∘ failedInit s.name) hpanic

/-- An error with a zero byte in it, and one that is cut within its last character. -/
theorem messages_survive_failWith :
    let s : Session Unit :=
      { routine := Functions.failWith, traced := none
        symbols := { name := "fail_with", aggregate := false, init := some () }
        context := .fresh, items := [], types := [], buffer := [], initialized := false
        flags := .clear }
    let long := String.ofList (List.replicate 510 'a')
    (s.init [⟨.int none, "told\x00not told", false⟩]).result = .error (failedInit s.name "told")
      ∧ (s.init [⟨.int none, long ++ "é", false⟩]).result
        = .error (failedInit s.name (long ++ "\uFFFD")) := by
  intro s long
  have hresult (text : String) : (s.init [⟨.int none, text, false⟩]).result
      = .error (failedInit s.name (received text)) := by
    obtain ⟨-, h, -⟩ := s.messages_survive rfl rfl [⟨.int none, text, false⟩]
    have hwritten : (Sample.place ⟨.int none, text, false⟩).writtenAs = text :=
      Sample.writtenAs_place ⟨.int none, text, false⟩
    rw [h, received_eq]
    exact congrArg (fun t => Except.error (failedInit s.name
      (Utf8.lossy ((Utf8.beforeZero (Utf8.encode t)).take 511)))) hwritten
  rw [hresult, hresult]
  constructor
  · have hread : (Utf8.beforeZero (Utf8.encode "told\x00not told")).take 511 = Utf8.encode "told" := by
      decide
    rw [received_eq, hread, Utf8.lossy_encode]
  · have hlength : (Utf8.encode long).length = 510 := by
      rw [Utf8.encode_replicate, List.length_replicate]
    have hzero : 0 ∉ Utf8.encode (long ++ "é") := by
      rw [Utf8.encode_append, Utf8.encode_replicate, List.mem_append, List.mem_replicate]
      exact fun h => h.elim (fun h => absurd h.2 (by decide)) (by decide)
    have hill : Utf8.lossy [0xC3] = "\uFFFD" := by
      have hpieces : Utf8.pieces [0xC3] = [none] := by
        rw [Utf8.pieces, Utf8.pieces.eq_def]
        rfl
      rw [Utf8.lossy, hpieces]
      rfl
    rw [received_append hzero (by omega), hlength]
    exact congrArg (fun t => Except.error (failedInit s.name (long ++ t))) hill

end Session
end Loadable
