/-
# Strings that arrive and strings that are lost

A string that a function returns is copied into the server's buffer if it fits, else the server reads
it where the function left it.  Either way it reads the very bytes, of any number and with any contents,
whatever the buffer held and whatever was kept beside the state, with one exception
(`Session.strings_arrive_unless_lost`): what the function says to be of its state is not kept, so a string
too long for the buffer is lost if the value held the bytes itself (`Carrier.loses`).  A function may be
registered that does so (`Registration.exists_string_lost`); none of the catalog does
(`Catalog.strings_arrive`).

Every call finds the buffer at its full size again: a string is only written into it if it fits, and
over its front (`Session.room_performAll`).
-/

import Loadable.Catalog
import Loadable.Proofs.Delivery
import Loadable.Proofs.Moves
import Loadable.Proofs.Outputs
import Loadable.Proofs.Ownership
import Loadable.Proofs.Utf8RoundTrip

namespace Loadable

namespace Carrier

/-- The bytes of a value, if it is a string. -/
def bytes? : (c : Carrier) → c.Payload → Option Bytes
  | .int, _ => none
  | .real, _ => none
  | .borrowed, v => some v.toBytes
  | .owned, v => some v

/-- Whether a value is lost for want of room: only what is not kept can be. -/
def loses (room : Option Nat) : (c : Carrier) → c.Payload → Bool
  | .borrowed, v => v.lost room
  | .int, _ => false
  | .real, _ => false
  | .owned, _ => false

variable {c : Carrier} {room : Option Nat} {v : c.Payload} {bs : Bytes}

/-- Bytes are made of a string that is not lost. -/
theorem output_eq_bytes_iff :
    c.output room v = .bytes bs ↔ c.bytes? v = some bs ∧ c.loses room v = false := by
  cases c with
  | int => simp [output, bytes?]
  | real => simp [output, bytes?]
  | owned => simp [output, bytes?, loses]
  | borrowed =>
    change (if v.lost room then Output.undefined else .bytes v.toBytes) = .bytes bs ↔
      some v.toBytes = some bs ∧ v.lost room = false
    cases v.lost room <;> simp

theorem output_eq_undefined_iff : c.output room v = .undefined ↔ c.loses room v = true := by
  cases c with
  | int => simp [output, loses]
  | real => simp [output, loses]
  | owned => simp [output, loses]
  | borrowed =>
    change (if v.lost room then Output.undefined else .bytes v.toBytes) = .undefined ↔ v.lost room = true
    cases v.lost room <;> simp

/-- A string is handed over as its bytes, and is where it was put unless it is lost. -/
theorem deliver_bytes (h : c.bytes? v = some bs) (area : ResultArea) :
    c.deliver v area = (.string (if c.loses area.room v then .dangling else (area.deliver bs).1),
      (area.deliver bs).2) := by
  cases c with
  | int => cases h
  | real => cases h
  | owned => cases h; rfl
  | borrowed =>
    obtain rfl := Option.some.inj h
    change ((area.lend v).map Returned.string id)
      = (.string (if v.lost area.room then .dangling else (area.deliver v.toBytes).1),
        (area.deliver v.toBytes).2)
    cases howns : v.owns with
    | false =>
      rw [area.lend_of_not_owns howns, Buffer.lost_of_not_owns howns]
      rfl
    | true =>
      refine Prod.ext (congrArg Returned.string ?_) rfl
      change (area.lend v).1 = _
      rw [area.lend_of_owns howns, area.pointer_deliver, Buffer.lost, howns]
      cases area.room.any (v.toBytes.length ≤ ·) <;> rfl

/-- Only a string of the state can be lost. -/
theorem loses_of_ne (h : c ≠ .borrowed) (room : Option Nat) (v : c.Payload) : c.loses room v = false := by
  cases c with
  | borrowed => exact absurd rfl h
  | _ => rfl

/-- A string that fits is not lost. -/
theorem loses_of_fits (h : c.bytes? v = some bs) (hfits : room.any (bs.length ≤ ·) = true) :
    c.loses room v = false := by
  cases c with
  | borrowed =>
    obtain rfl := Option.some.inj h
    change (v.owns && !room.any (v.toBytes.length ≤ ·)) = false
    rw [hfits]
    exact Bool.and_false _
  | _ => rfl

/-- A string that is made for the call is kept. -/
theorem stash_bytes (h : c.bytes? v = some bs) (hc : c = .owned) (kept : Option Bytes) :
    c.stash (some v) kept = some bs := by
  subst hc
  cases h
  rfl

end Carrier

/-- The bytes of a returned value, if it is a string and not NULL. -/
def Returns.bytes? (r : Returns) (v : r.Value) : Option Bytes :=
  (r.toOption v).bind r.carrier.bytes?

namespace Verdict

theorem ofOutcome_eq_value_iff {r : Returns} {outcome : Outcome Unit r.Value}
    {payload : r.carrier.Payload} :
    ofOutcome r outcome = value payload ↔ ∃ v, outcome = .ok v ∧ r.toOption v = some payload := by
  cases outcome with
  | ok v => cases h : r.toOption v <;> simp [h]
  | err e => simp
  | panic p => simp

variable {c : Carrier} {verdict : Verdict c.Payload} {room : Option Nat} {error : UInt8}

/-- Bytes come out of a string that is not lost, asked for without an error. -/
theorem output_eq_bytes_iff {bs : Bytes} :
    verdict.output room error = .bytes bs
      ↔ error = 0 ∧ ∃ v, verdict = .value v ∧ c.bytes? v = some bs ∧ c.loses room v = false := by
  by_cases h : error = 0 <;> cases verdict <;> simp [output, h, Carrier.output_eq_bytes_iff]

theorem output_eq_undefined_iff :
    verdict.output room error = .undefined
      ↔ error = 0 ∧ ∃ v, verdict = .value v ∧ c.loses room v = true := by
  by_cases h : error = 0 <;> cases verdict <;> simp [output, h, Carrier.output_eq_undefined_iff]

end Verdict

/-- Handing a string over, to a server with a buffer. -/
theorem ResultArea.deliver_buffer (bs buffer : Bytes) :
    deliver ⟨some buffer, buffer.length⟩ bs
      = if bs.length ≤ buffer.length then (.buffer, ⟨some (overwrite bs buffer), bs.length⟩)
        else (.source bs, ⟨some buffer, bs.length⟩) := rfl

namespace Context

variable {σ : Type} (r : Routine σ) (c : Context σ) (args : List Argument)

/-- The function's code ends well for a call, with a value that is not NULL. -/
def Gives (error : Option Code) (v : r.returns.carrier.Payload) : Prop :=
  ∃ cell w, c.cell = some cell ∧ (r.process cell.state c.settings args error).outcome = .ok w
    ∧ r.returns.toOption w = some v

variable {r c args}

theorem gives_iff {error : Option Code} {v : r.returns.carrier.Payload} :
    c.Gives r args error v ↔ c.verdict r args error = .value v := by
  unfold Gives verdict
  cases c.cell with
  | none => simp
  | some cell =>
    rw [Verdict.ofOutcome_eq_value_iff]
    constructor
    · rintro ⟨cell', w, hcell, hw⟩
      obtain rfl := Option.some.inj hcell
      exact ⟨w, hw⟩
    · rintro ⟨w, hw⟩
      exact ⟨cell, w, rfl, hw⟩

/-- **Where a string is put:** where the server's buffer and length say, if it is not lost, with the flags
left alone, and beside the state if it was made for the call. -/
theorem process_gives {flags : Flags} {v : r.returns.carrier.Payload} {bs : Bytes}
    (h : c.Gives r args flags.code? v) (hbytes : r.returns.carrier.bytes? v = some bs)
    (area : ResultArea) :
    let reply := c.process r args flags area
    reply.returned
        = .string (if r.returns.carrier.loses area.room v then .dangling else (area.deliver bs).1)
      ∧ reply.area = (area.deliver bs).2
      ∧ reply.flags = flags
      ∧ (r.returns.carrier = .owned → reply.context.cell.bind Cell.stash = some bs) := by
  obtain ⟨cell, w, hcell, hw, hv⟩ := h
  have hverdict : Verdict.ofOutcome r.returns (.ok w) = .value v :=
    Verdict.ofOutcome_eq_value_iff.2 ⟨w, rfl, hv⟩
  rw [process_prepared r c args flags area hcell, hw, hverdict]
  simp only [Verdict.delivery, Carrier.deliver_bytes hbytes]
  exact ⟨trivial, trivial, rfl, fun howned => Carrier.stash_bytes hbytes howned cell.stash⟩

end Context

namespace Session

variable {σ : Type} (s : Session σ)

/-- What comes of the strings that code may give: bytes of those that are not lost, and nothing that can be
read of the others. -/
structure HandedOver {c : Carrier} (room : Option Nat) (gives : c.Payload → Prop)
    (result : Except Report Output) : Prop where
  arrives : ∀ bs, result = .ok (.bytes bs) ↔ ∃ v, gives v ∧ c.bytes? v = some bs ∧ c.loses room v = false
  lost : result = .ok .undefined ↔ ∃ v, gives v ∧ c.loses room v = true

/-- Where no string is lost every one arrives. -/
theorem HandedOver.arrives_iff {c : Carrier} {room : Option Nat} {gives : c.Payload → Prop}
    {result : Except Report Output} (h : HandedOver room gives result)
    (hkept : ∀ v, gives v → c.loses room v = false) (bs : Bytes) :
    result = .ok (.bytes bs) ↔ ∃ v, gives v ∧ c.bytes? v = some bs := by
  rw [h.arrives]
  refine exists_congr fun v => and_congr_right fun hv => and_iff_left (hkept v hv)

/-- A call for a value without an error hands over what the code gives. -/
theorem handedOver_value :
    HandedOver s.area.room (s.context.Gives s.routine s.arguments none) (s.value 0).result := by
  have hgives (v : s.routine.returns.carrier.Payload) :
      s.verdict s.arguments 0 = .value v ↔ s.context.Gives s.routine s.arguments none v :=
    Context.gives_iff.symm
  constructor
  · intro bs
    rw [result_value, Except.ok.injEq, Verdict.output_eq_bytes_iff, and_iff_right rfl]
    simp only [hgives]
  · rw [result_value, Except.ok.injEq, Verdict.output_eq_undefined_iff, and_iff_right rfl]
    simp only [hgives]

/-- A row that fits is handed over as the code gives it. -/
theorem handedOver_process {row : List Datum} (hrow : s.accepts row = true) :
    HandedOver s.area.room (s.context.Gives s.routine (s.laidOut row) none) (s.process row).result := by
  rw [process, onRow_of_accepts s hrow]
  exact (s.withRow row).handedOver_value

/-- So is the value of a group without an error. -/
theorem handedOver_finish (hinit : s.initialized = true) (hflag : s.flags.error = 0) :
    HandedOver s.area.room (s.context.Gives s.routine s.arguments none) s.finish.result := by
  rw [finish, whenInitialized, if_pos hinit, hflag]
  exact s.handedOver_value

/-- **Strings arrive unless they are lost,** in every session.  The value of a row is given as bytes exactly
if the function's code returns a string of these bytes for it that is not lost, and so is the value of a group
without an error: whatever bytes they are and however many, none at all included, and whatever calls before
left in the server's buffer or beside the state.  What is read of a string that is lost is undefined, and
nothing else is.

In a session that was started the buffer has its full size after every history.  Bytes that fit are read from
its front, others where the function left them, if they are not lost; and bytes made for the call are kept. -/
theorem strings_arrive_unless_lost :
    (∀ s : Session σ,
      (∀ row, s.accepts row = true →
        HandedOver s.area.room (s.context.Gives s.routine (s.laidOut row) none) (s.process row).result)
      ∧ (s.initialized = true → s.flags.error = 0 →
        HandedOver s.area.room (s.context.Gives s.routine s.arguments none) s.finish.result))
    ∧ ∀ (routine : Routine σ) (traced : Option Trace.Mode) (lookup : String → Option Unit)
        (name : String) (aggregate : Bool) (returns : Tag) (s : Session σ),
      start routine traced lookup name aggregate returns = .ok s →
      ∀ (ops : List Operation) (args : List Argument),
        let t := s.performAll ops
        let reply := t.context.process t.routine args .clear t.area
        t.area.room = some resultSize
          ∧ ∀ v bs, t.context.Gives t.routine args none v → t.routine.returns.carrier.bytes? v = some bs →
            reply.flags = .clear
              ∧ (if bs.length ≤ resultSize then
                  reply.returned = .string .buffer
                    ∧ reply.area = ⟨some (bs ++ t.buffer.drop bs.length), bs.length⟩
                else
                  reply.returned = .string
                      (if t.routine.returns.carrier.loses (some resultSize) v then .dangling else .source bs)
                    ∧ reply.area = ⟨some t.buffer, bs.length⟩)
              ∧ (t.routine.returns.carrier = .owned →
                reply.context.cell.bind Cell.stash = some bs) := by
  refine ⟨fun s => ⟨fun row => s.handedOver_process, s.handedOver_finish⟩, ?_⟩
  intro routine traced lookup name aggregate returns s hs ops args t reply
  have hsize : t.buffer.length = resultSize :=
    (Option.some.inj (s.room_performAll ops)).trans (start_fresh hs).2.2
  have hroom : t.area.room = some resultSize := congrArg some hsize
  refine ⟨hroom, fun v bs hgives hbytes => ?_⟩
  have hclear : t.context.Gives t.routine args Flags.clear.code? v := hgives
  obtain ⟨hreturned, harea, hflags, hstash⟩ := Context.process_gives hclear hbytes t.area
  refine ⟨hflags, ?_, hstash⟩
  rw [hreturned, harea, hroom, area, ResultArea.deliver_buffer, hsize]
  by_cases hfits : bs.length ≤ resultSize
  · have hkept : t.routine.returns.carrier.loses (some resultSize) v = false :=
      Carrier.loses_of_fits hbytes (by simpa using hfits)
    rw [if_pos hfits, if_pos hfits, hkept]
    exact ⟨rfl, rfl⟩
  · rw [if_neg hfits, if_neg hfits]
    exact ⟨rfl, rfl⟩

/-- Bytes in reverse: none and some, read after others were left in the buffer and kept, and more than
fit into the buffer of a session that was started. -/
theorem strings_arrive_unless_lost_reverseBytes :
    let symbols : Symbols Unit :=
      ⟨"reverse_bytes", false, some (), some (), some ⟨.string, ()⟩, none, none, none⟩
    let s : Session Unit := ⟨Functions.reverseBytes, none, symbols, ⟨.empty, some ⟨(), some [9]⟩⟩,
      [⟨.bytes none, "a", true⟩], [.string], [1, 2], true, .clear⟩
    let fresh : Session Unit := ⟨Functions.reverseBytes, none, symbols, .fresh, [], [],
      List.replicate resultSize 0, false, .clear⟩
    let t := fresh.performAll [.init []]
    let long := List.replicate 256 (7 : UInt8)
    ((s.process [.bytes (some [])]).result = .ok (.bytes [])
        ∧ (s.process [.bytes (some [0, 255, 7])]).result = .ok (.bytes [7, 255, 0]))
      ∧ (t.context.process t.routine [⟨0, some long, long.length, 1, none, 0⟩] .clear t.area).returned
        = .string (.source long.reverse) := by
  intro symbols s fresh t long
  have hall := strings_arrive_unless_lost (σ := Unit)
  refine ⟨⟨?_, ?_⟩, ?_⟩
  · exact (((hall.1 s).1 [.bytes (some [])] rfl).arrives []).2
      ⟨[], ⟨⟨(), some [9]⟩, [], rfl, rfl, rfl⟩, rfl, rfl⟩
  · exact (((hall.1 s).1 [.bytes (some [0, 255, 7])] rfl).arrives [7, 255, 0]).2
      ⟨[7, 255, 0], ⟨⟨(), some [9]⟩, [7, 255, 0], rfl, rfl, rfl⟩, rfl, rfl⟩
  · have hgives (bs : Bytes) :
        t.context.Gives t.routine [⟨0, some bs, bs.length, 1, none, 0⟩] none bs.reverse :=
      ⟨⟨(), none⟩, (bs.take bs.length).reverse, rfl, rfl, by rw [List.take_length]; rfl⟩
    have hplaced (bs : Bytes) (hlong : ¬ bs.reverse.length ≤ resultSize) :
        (t.context.process t.routine [⟨0, some bs, bs.length, 1, none, 0⟩] .clear t.area).returned
          = .string (.source bs.reverse) := by
      obtain ⟨-, hall⟩ := hall.2 Functions.reverseBytes none (fun _ => some ()) "reverse_bytes" false
        .string fresh rfl [.init []] [⟨0, some bs, bs.length, 1, none, 0⟩]
      obtain ⟨-, hplace, -⟩ := hall _ _ (hgives bs) rfl
      rw [if_neg hlong] at hplace
      exact hplace.1
    refine hplaced long ?_
    rw [List.length_reverse, List.length_replicate]
    decide

end Session

/-! ### A string that is lost -/

namespace Registration

open Source

/-- A function of nothing, whose value is said to be of its state. -/
def answering (value : Buffer) : Routine Unit where
  returns := ⟨.borrowed, false⟩
  init p _ := ⟨p, .ok (), []⟩
  process s _ _ _ := ⟨s, .ok value, []⟩

/-- What is read of its value is undefined, if the value holds a string for which there is no room. -/
theorem answering_lost {value : Buffer} (hlost : value.lost (some resultSize) = true) :
    ∃ s, Session.start (answering value) none (fun _ => some ()) "foo" false .string = .ok s
      ∧ (s.init []).result = .ok ()
      ∧ (s.init []).session.context.Gives (answering value) [] none value
      ∧ ((s.init []).session.process []).result = .ok .undefined := by
  let s : Session Unit :=
    { routine := answering value, traced := none
      symbols := ⟨"foo", false, some (), some (), some ⟨.string, ()⟩, none, none, none⟩
      context := .fresh, items := [], types := [], buffer := List.replicate resultSize 0
      initialized := false, flags := .clear }
  let t := (s.init []).session
  have hroom : t.area.room = some resultSize := congrArg some List.length_replicate
  have hgives : t.context.Gives t.routine (t.laidOut []) none value :=
    ⟨⟨(), none⟩, value, rfl, rfl, rfl⟩
  have hloses : t.routine.returns.carrier.loses t.area.room value = true := by
    rw [hroom]
    exact hlost
  have haccepts : t.accepts [] = true := rfl
  exact ⟨s, rfl, rfl, hgives, (t.handedOver_process haccepts).lost.2 ⟨value, hgives, hloses⟩⟩

/-- **A string may be lost.**  A text borrowed or owned by turns is taken for one of the state.  So where a
function gives one of its own, longer than the server's buffer, what is read of it is undefined. -/
theorem exists_string_lost :
    let value : Buffer := .eitherOwned (.ownedText (String.ofList (List.replicate 256 'a')))
    value.HasType (.either .text)
      ∧ (∃ e, Source.type? "Cow<'static, str>" = some e ∧ SpellsReturn e false (.either .text)
        ∧ (Shape.ofType e).returns = (answering value).returns)
      ∧ ∃ s, Session.start (answering value) none (fun _ => some ()) "foo" false .string = .ok s
        ∧ (s.init []).result = .ok ()
        ∧ (s.init []).session.context.Gives (answering value) [] none value
        ∧ ((s.init []).session.process []).result = .ok .undefined := by
  intro value
  obtain ⟨e, he, hspells⟩ := exists_spellsReturn_textByTurns
  have hlost : value.lost (some resultSize) = true := by
    have hlength : value.toBytes.length = 256 := by
      change (Utf8.encode (String.ofList (List.replicate 256 'a'))).length = 256
      rw [Utf8.encode_replicate, List.length_replicate]
    rw [Buffer.lost, hlength]
    rfl
  exact ⟨.eitherOwned rfl (.ownedText _), ⟨e, he, hspells, hspells.returns_ofType⟩, answering_lost hlost⟩

end Registration

/-! ### The strings of the catalog -/

namespace Routine

variable {σ : Type}

/-- A function none of whose strings is lost, where the server's buffer has its size. -/
def LosesNothing (r : Routine σ) : Prop :=
  ∀ x c args e w v, (r.process x c args e).outcome = .ok w → r.returns.toOption w = some v →
    r.returns.carrier.loses (some resultSize) v = false

theorem losesNothing_of_ne {r : Routine σ} (h : r.returns.carrier ≠ .borrowed) : r.LosesNothing :=
  fun _ _ _ _ _ v _ _ => Carrier.loses_of_ne h _ v

end Routine

/-- A string by script is behind a reference, also where there is none. -/
theorem Scripted.losesNothing (f : Scripted) (script : Script) : (f.routine script).LosesNothing := by
  obtain ⟨name, ⟨carrier, optional⟩, isText, removes⟩ := f
  by_cases hcarrier : carrier = .borrowed
  · subst hcarrier
    have hpayload (a : Answer) (v : Buffer) (h : payload? isText .borrowed a = some v) : v.owns = false := by
      cases a <;> cases h
      rfl
    intro x c args e w v hw hv
    refine Buffer.lost_of_not_owns ?_ _
    dsimp only [routine] at hw
    cases hending : script.ending with
    | succeed a =>
      rw [hending] at hw
      obtain rfl := Outcome.ok.inj hw
      cases optional with
      | true => exact hpayload a v hv
      | false =>
        obtain rfl := Option.some.inj hv
        change ((payload? isText .borrowed a).getD _).owns = false
        cases hp : payload? isText .borrowed a with
        | none => rfl
        | some p => exact hpayload a p hp
    | fail text code => rw [hending] at hw; cases hw
    | panic p => rw [hending] at hw; cases hw
  · exact Routine.losesNothing_of_ne hcarrier

namespace Functions

theorem losesNothing_lipsum (filler : Filler) : (lipsum filler).LosesNothing := by
  intro x c args e w v hw hv
  dsimp only [lipsum] at hw
  split at hw
  · cases hw
  · split at hw
    · cases hw
    · split at hw
      · cases hw
      · cases hw
        cases hv
        rfl

theorem losesNothing_mishmash : mishmash.LosesNothing := by
  intro x c args e w v hw hv
  cases hw
  dsimp only [mishmash] at hv
  split at hv
  · cases hv
  · cases hv
    rfl

theorem losesNothing_collectWords : collectWords.LosesNothing := by
  intro x c args e w v hw hv
  dsimp only [collectWords] at hw
  split at hw
  · cases hw
    cases hv
  · cases hw
    cases hv
    rfl

/-- A text that `borrow_cow` makes anew fits. -/
theorem losesNothing_borrowCow : borrowCow.LosesNothing := by
  intro x c args e w v hw hv
  cases hw
  obtain rfl := Option.some.inj hv
  change Buffer.lost (some resultSize)
    (if x.isEmpty then .eitherOwned (.ownedText "empty") else .eitherBorrowed (.text x)) = false
  split <;> rfl

end Functions

namespace Catalog

open Functions Routine

variable {outside : Outside} {f : Registered} (hf : f ∈ functions outside)

include hf

/-- **The functions of the catalog** lose no strings: they give references to strings of their state, but for a
short text. -/
theorem losesNothing_of_mem (script : Script) : (f.code script).LosesNothing := by
  have hall : ∀ f ∈ functions outside, ∀ script, (f.code script).LosesNothing := by
    unfold functions
    simp only [List.forall_mem_append, List.forall_mem_cons, List.forall_mem_map]
    refine ⟨⟨?_, ?_, fun _ => losesNothing_lipsum _, ?_, fun _ => losesNothing_mishmash, ?_, ?_, ?_, ?_, ?_,
      ?_, ?_, ?_, ?_, ?_, ?_, ?_, fun _ => losesNothing_collectWords, ?_, ?_, ?_, ?_, ?_, ?_, ?_, ?_, ?_,
      ?_, fun _ => losesNothing_borrowCow, ?_, ?_, nofun⟩, fun f _ script => f.losesNothing script⟩
    -- the others give one reference, or no string of their state
    all_goals
      intro _
      first
      | exact losesNothing_of_ne (of_decide_eq_false rfl)
      | exact fun _ _ _ _ _ _ hw hv => by cases hw; cases hv; rfl
  exact hall f hf script

/-- **The strings of the catalog arrive,** in a session that was started and after every history: the value
of a row is given as bytes exactly if the function's code returns a string of these bytes for it, and so is the
value of a group without an error. -/
theorem strings_arrive {script : Script} {traced : Option Trace.Mode} {lookup : String → Option Unit}
    {name : String} {aggregate : Bool} {returns : Tag} {s : Session f.State}
    (hs : Session.start (f.code script) traced lookup name aggregate returns = .ok s)
    (ops : List Operation) :
    let t := s.performAll ops
    (∀ row, t.accepts row = true → ∀ bs, (t.process row).result = .ok (.bytes bs)
        ↔ ∃ v, t.context.Gives t.routine (t.laidOut row) none v
          ∧ t.routine.returns.carrier.bytes? v = some bs)
      ∧ (t.initialized = true → t.flags.error = 0 → ∀ bs, t.finish.result = .ok (.bytes bs)
        ↔ ∃ v, t.context.Gives t.routine t.arguments none v
          ∧ t.routine.returns.carrier.bytes? v = some bs) := by
  intro t
  have hroutine : t.routine = f.code script :=
    (s.routine_performAll ops).trans (Session.start_fresh hs).1
  have hroom : t.area.room = some resultSize :=
    (s.room_performAll ops).trans (congrArg some (Session.start_fresh hs).2.2)
  have hkept {args : List Argument} (v : t.routine.returns.carrier.Payload)
      (hv : t.context.Gives t.routine args none v) :
      t.routine.returns.carrier.loses t.area.room v = false := by
    obtain ⟨cell, w, -, hw, hvalue⟩ := hv
    have hall : t.routine.LosesNothing := hroutine ▸ losesNothing_of_mem hf script
    rw [hroom]
    exact hall _ _ _ _ w v hw hvalue
  exact ⟨fun row hrow => (t.handedOver_process hrow).arrives_iff hkept,
    fun hinit hflag => (t.handedOver_finish hinit hflag).arrives_iff hkept⟩

end Catalog
end Loadable
