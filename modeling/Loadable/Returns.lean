/-
# What a function returns

Integers and reals are returned by value.  Everything else is a string of bytes: copied into the
server's buffer if it fits, else left where it is, with a pointer to it.  A string that the function
makes anew is kept beside the function's state until the next one replaces it.  One of the function's
state comes in a value that is given up at once: if the value held the bytes itself, and did not only
refer to them, a pointer to them dangles.
-/

import Loadable.Buffer
import Loadable.Callback
import Loadable.LittleEndian

namespace Loadable

/-- How a value reaches the server. -/
inductive Carrier where
  | int
  | real
  /-- Bytes that are to live in the function's state, in a value that is not kept. -/
  | borrowed
  /-- Bytes made for this call, which are kept. -/
  | owned
  deriving DecidableEq, Repr

/-- The carrier of a function's values and whether they may be NULL. -/
structure Returns where
  carrier : Carrier
  optional : Bool
  deriving DecidableEq, Repr

/-- What a carrier carries. -/
@[reducible] def Carrier.Payload : Carrier → Type
  | int => Int64
  | real => Double
  | borrowed => Buffer
  | owned => Bytes

/-- The kind of callback that returns through a carrier. -/
def Carrier.kind : Carrier → ProcessKind
  | int => .longlong
  | real => .double
  | borrowed => .string
  | owned => .string

/-- The values a function returns. -/
@[reducible] def Returns.Value (r : Returns) : Type :=
  match r.optional with
  | true => Option r.carrier.Payload
  | false => r.carrier.Payload

/-- A returned value, `none` for NULL. -/
def Returns.toOption : (r : Returns) → r.Value → Option r.carrier.Payload
  | ⟨_, true⟩, v => v
  | ⟨_, false⟩, v => some v

/-- The value that stands for nothing where NULL cannot. -/
def Carrier.blank : (c : Carrier) → c.Payload
  | int => 0
  | real => 0
  | borrowed => .reference (.bytes [])
  | owned => []

/-- The value of an option, with the blank for `none` where NULL cannot be. -/
def Returns.ofOption : (r : Returns) → Option r.carrier.Payload → r.Value
  | ⟨_, true⟩, v => v
  | ⟨c, false⟩, v => v.getD c.blank

theorem Returns.toOption_ofOption_some (r : Returns) (v : r.carrier.Payload) :
    r.toOption (r.ofOption (some v)) = some v := by
  obtain ⟨c, o⟩ := r
  cases o <;> rfl

/-- Only a function whose values may be NULL returns NULL. -/
theorem Returns.toOption_ne_none {r : Returns} (h : r.optional = false) (v : r.Value) :
    r.toOption v ≠ none := by
  obtain ⟨c, o⟩ := r
  subst h
  simp [toOption]

/-- The server's buffer for a string result, `none` for a null pointer, and the length that goes with
it: its capacity before a call, the length of the result after it. -/
structure ResultArea where
  buffer : Option Bytes
  length : Nat
  deriving DecidableEq, Repr

/-- Where a returned string lies. -/
inductive Pointer where
  | null
  /-- In the server's buffer. -/
  | buffer
  /-- Where the function left it. -/
  | source (bytes : Bytes)
  /-- Where it lay in a value that was given up. -/
  | dangling
  deriving DecidableEq, Repr

/-- A pointer to where a function left a string, once the value that held it is given up. -/
def Pointer.givenUp : Pointer → Pointer
  | source _ => dangling
  | p => p

/-- What is written over the front of a buffer. -/
def overwrite (bytes buffer : Bytes) : Bytes := bytes ++ buffer.drop bytes.length

/-- Hand a string to the server: into the buffer if there is one and the string fits. -/
def ResultArea.deliver (area : ResultArea) (bytes : Bytes) : Pointer × ResultArea :=
  match area.buffer with
  | some buffer =>
    if bytes.length ≤ area.length then (.buffer, ⟨some (overwrite bytes buffer), bytes.length⟩)
    else (.source bytes, ⟨some buffer, bytes.length⟩)
  | none => (.source bytes, ⟨none, bytes.length⟩)

/-- Hand the string of a value to the server, and give the value up. -/
def ResultArea.lend (area : ResultArea) (value : Buffer) : Pointer × ResultArea :=
  let (p, after) := area.deliver value.toBytes
  (if value.owns then p.givenUp else p, after)

/-- How long a string may be that the server's buffer takes, `none` without a buffer. -/
def ResultArea.room (area : ResultArea) : Option Nat := area.buffer.map fun _ => area.length

/-- The bytes that the server reads at a pointer, `none` where there are none to be read: at a null
pointer, and where they are no more. -/
def ResultArea.read (area : ResultArea) : Pointer → Option Bytes
  | .null => none
  | .buffer => area.buffer.map (·.take area.length)
  | .source bytes => some (bytes.take area.length)
  | .dangling => none

/-- **The server reads what was handed to it.** -/
theorem ResultArea.read_deliver (area : ResultArea) (bytes : Bytes) :
    (area.deliver bytes).2.read (area.deliver bytes).1 = some bytes := by
  unfold deliver
  split
  · split <;> simp [read, overwrite]
  · simp [read]

/-- A string is in the server's buffer exactly if there is room for it. -/
theorem ResultArea.pointer_deliver (area : ResultArea) (bytes : Bytes) :
    (area.deliver bytes).1 = if area.room.any (bytes.length ≤ ·) then .buffer else .source bytes := by
  unfold deliver room
  cases area.buffer with
  | none => rfl
  | some buffer =>
    simp only [Option.map_some, Option.any_some, decide_eq_true_eq]
    split <;> rfl

/-- The string of a value is handed over like any other, also if it goes with the value. -/
theorem ResultArea.lend_snd (area : ResultArea) (value : Buffer) :
    (area.lend value).2 = (area.deliver value.toBytes).2 := rfl

/-- A string stays where it is if the value only refers to it. -/
theorem ResultArea.lend_of_not_owns {value : Buffer} (h : value.owns = false) (area : ResultArea) :
    area.lend value = area.deliver value.toBytes := by
  rw [lend, h]
  rfl

/-- A string that its value holds goes with the value, unless it was copied. -/
theorem ResultArea.lend_of_owns {value : Buffer} (h : value.owns = true) (area : ResultArea) :
    (area.lend value).1 = (area.deliver value.toBytes).1.givenUp := by
  rw [lend, h]
  rfl

/-- What a callback for the value of a row returns. -/
inductive Returned where
  | int (v : Int64)
  | real (v : Double)
  | string (p : Pointer)
  deriving DecidableEq, Repr

/-- What stands for no value. -/
def Returned.zero : Carrier → Returned
  | .int => .int 0
  | .real => .real ⟨0⟩
  | .borrowed => .string .null
  | .owned => .string .null

/-- Hand a value to the server. -/
def Carrier.deliver : (c : Carrier) → c.Payload → ResultArea → Returned × ResultArea
  | .int, v, area => (.int v, area)
  | .real, v, area => (.real v, area)
  | .borrowed, v, area => ((area.lend v).map Returned.string id)
  | .owned, v, area => ((area.deliver v).map Returned.string id)

/-- What is kept beside the state after a value was returned, given what was kept before. -/
def Carrier.stash : (c : Carrier) → Option c.Payload → Option Bytes → Option Bytes
  | .owned, v, _ => v
  | .int, _, kept => kept
  | .real, _, kept => kept
  | .borrowed, _, kept => kept

/-- As much of a message as leaves room for a zero byte in a buffer of `size` bytes. -/
def messagePart (size : Nat) (message : Bytes) : Bytes := message.take (size - 1)

/-- Write a message into a buffer of `size` bytes, and a zero byte behind it.  Nothing is written into
a buffer of no bytes. -/
def writeMessage (size : Nat) (message buffer : Bytes) : Bytes :=
  if size = 0 then buffer else overwrite (messagePart size message ++ [0]) buffer

/-- Write a message where the server wants it, `none` for a null pointer, at which nothing is written. -/
def writeMessageAt (size : Nat) (message : Bytes) : Option Bytes → Option Bytes
  | none => none
  | some buffer => some (writeMessage size message buffer)

/-- The size of the server's buffer for messages. -/
def messageSize : Nat := 512

/-- The size of the server's buffer for results. -/
def resultSize : Nat := 255

end Loadable
