/-
# Sessions

One function driven as the server drives it: `init` once with the arguments of the statement, then a
call for each row, or for each group a `clear`, an `add` for each row and a call for the result, and
`deinit` at the end.  Every row is cast to the types that `init` asked for.  A call out of order is
refused before anything happens.

An operation gives the session it leaves, its result and what it let be seen.
-/

import Loadable.Output
import Loadable.Samples
import Loadable.Symbols
import Loadable.Text.Styled
import Loadable.Trace

namespace Loadable

/-- A call that the session refuses. -/
inductive Misuse where
  | notInitialized (name : String)
  | alreadyInitialized (name : String)
  | argCount (name : String) (expected got : Nat)
  | notAggregate (name : String)
  | noRemove (name : String)
  deriving DecidableEq, Repr

/-- What a refusal says. -/
def Misuse.message : Misuse → String
  | notInitialized name => s!"`{name}` has not been initialized"
  | alreadyInitialized name => s!"`{name}` is already initialized"
  | argCount name expected got =>
    s!"`{name}` was initialized with {expected} arguments, but the row has {got}"
  | notAggregate name => s!"`{name}` is not an aggregate function"
  | noRemove name => s!"`{name}` does not export a remove function"

/-- Why an operation failed. -/
inductive Fault where
  | misuse (m : Misuse)
  | symbol (e : SymbolError)
  | text (t : Text.Styled)
  deriving DecidableEq, Repr

/-- What a failure says, by a rendering of styled texts. -/
def Fault.message (render : Text.Styled → String) : Fault → String
  | misuse m => m.message
  | symbol e => e.message
  | text t => render t

/-- A failure, with what was being done, the widest view first. -/
structure Report where
  contexts : List String
  fault : Fault
  deriving DecidableEq, Repr

namespace Report

def ofFault (f : Fault) : Report := ⟨[], f⟩

def ofText (t : Text.Styled) : Report := ofFault (.text t)

/-- The failure within something wider. -/
def within (context : String) (r : Report) : Report := { r with contexts := context :: r.contexts }

/-- All messages, the widest view first. -/
def chain (render : Text.Styled → String) (r : Report) : List String :=
  r.contexts ++ [r.fault.message render]

/-- The message of the widest view. -/
def message (render : Text.Styled → String) (r : Report) : String :=
  r.contexts.headD (r.fault.message render)

end Report

/-- The flags of a group, which its steps share. -/
structure GroupFlags where
  isNull : UInt8
  error : UInt8
  deriving DecidableEq, Repr

namespace GroupFlags

def clear : GroupFlags := ⟨0, 0⟩

def toFlags (f : GroupFlags) : Flags := ⟨some f.isNull, some f.error⟩

/-- The flags after a step. -/
def ofFlags (f : Flags) : GroupFlags := ⟨f.isNull.getD 0, f.error.getD 0⟩

end GroupFlags

/-- A function in use. -/
structure Session (σ : Type) where
  routine : Routine σ
  /-- How calls are traced, if they are. -/
  traced : Option Trace.Mode
  symbols : Symbols Unit
  context : Context σ
  /-- The arguments laid out for the last call. -/
  items : List Sample
  /-- The types that rows are cast to. -/
  types : List SqlType
  /-- The server's buffer for results. -/
  buffer : Bytes
  initialized : Bool
  flags : GroupFlags

/-- What an operation leaves. -/
structure Reply (σ α : Type) where
  session : Session σ
  result : Except Report α
  events : List Event

namespace Reply

variable {σ α β : Type}

/-- Go on after an operation that succeeded. -/
def andThen (r : Reply σ α) (next : α → Session σ → Reply σ β) : Reply σ β :=
  match r.result with
  | .error e => ⟨r.session, .error e, r.events⟩
  | .ok a =>
    let s := next a r.session
    ⟨s.session, s.result, r.events ++ s.events⟩

/-- Go on with the result, be it a failure. -/
def attempt (r : Reply σ α) : Reply σ (Except Report α) := ⟨r.session, .ok r.result, r.events⟩

/-- Say what was being done, in a failure. -/
def within (context : String) (r : Reply σ α) : Reply σ α :=
  { r with result := r.result.mapError (Report.within context) }

end Reply

namespace Session

variable {σ α : Type}

/-- Begin to use a function, given what the library exports. -/
def start (routine : Routine σ) (traced : Option Trace.Mode) (lookup : String → Option Unit)
    (name : String) (aggregate : Bool) (returns : Tag) : Except Report (Session σ) :=
  match (Symbols.resolve lookup name aggregate returns).2 with
  | .error e => .error (.within s!"unable to resolve `{name}`" (.ofFault (.symbol e)))
  | .ok symbols =>
    .ok { routine, traced, symbols, context := .fresh, items := [], types := []
          buffer := List.replicate resultSize 0, initialized := false, flags := .clear }

def name (s : Session σ) : String := s.symbols.name

def hasState (s : Session σ) : Bool := s.context.hasState

/-- Succeed without a call. -/
def done (s : Session σ) (a : α) : Reply σ α := ⟨s, .ok a, []⟩

/-- Refuse an operation. -/
def refuse (s : Session σ) (m : Misuse) : Reply σ α := ⟨s, .error (.ofFault (.misuse m)), []⟩

/-- What a call lets be seen, with its trace if calls are traced. -/
def seen (s : Session σ) (kind : CallbackKind) (count : Option Nat) (after : Context σ)
    (events : List Event) : List Event :=
  Trace.seen s.traced kind count s.context after events

/-- The arguments in memory. -/
def arguments (s : Session σ) : List Argument := s.items.map Sample.place

/-- Arguments cast to types. -/
def castItems (items : List Sample) (types : List SqlType) : List Sample :=
  items.zipWith (fun item type => { item with value := item.value.convert type }) types

/-- Accept the types of the arguments for all rows to come. -/
def prepared (s : Session σ) (types : List SqlType) : Session σ :=
  { s with initialized := true, types, items := castItems s.items types }

/-- The message of `init` as it arrives: through a buffer, up to the first zero byte. -/
def received (message : String) : String :=
  Utf8.lossy (Utf8.beforeZero
    (writeMessage messageSize (Utf8.encode message) (List.replicate messageSize 0)))

/-- The failure of `init`. -/
def initFailure (name message : String) : Report :=
  .ofText [.strong .red s!"{name}_init failed:", .plain " ", .strong .white (received message)]

/-- The session after the function's own `init`. -/
def entered (s : Session σ) (reply : InitReply σ) : Reply σ Unit :=
  let events := s.seen .init (some s.items.length) reply.context reply.events
  let s := { s with context := reply.context }
  match reply.message with
  | some m => ⟨s, .error (initFailure s.name m), events⟩
  | none => ⟨s.prepared (Samples.typesOf reply.args), .ok (), events⟩

/-- Prepare the function for a statement with the given arguments. -/
def init (s : Session σ) (items : List Sample) : Reply σ Unit :=
  if s.initialized then s.refuse (.alreadyInitialized s.name)
  else
    let s := { s with items }
    if s.symbols.init.isNone then (s.prepared (Samples.ownTypes items)).done ()
    else s.entered (s.context.init s.routine s.arguments)

/-- Go on if the function was prepared. -/
def whenInitialized (s : Session σ) (next : Reply σ α) : Reply σ α :=
  if s.initialized then next else s.refuse (.notInitialized s.name)

/-- Arguments with the values of a row. -/
def withRow (s : Session σ) (row : List Datum) : Session σ :=
  { s with
    items := castItems (s.items.zipWith (fun item value => { item with value }) row) s.types }

/-- Go on with a row laid out, if it fits. -/
def onRow (s : Session σ) (row : List Datum) (next : Session σ → Reply σ α) : Reply σ α :=
  s.whenInitialized <|
    if row.length ≠ s.types.length then s.refuse (.argCount s.name s.types.length row.length)
    else next (s.withRow row)

/-- The server's memory for a result. -/
def area (s : Session σ) : ResultArea := ⟨some s.buffer, s.buffer.length⟩

/-- Call for a value, with an error flag. -/
def value (s : Session σ) (error : UInt8) : Reply σ Output :=
  let reply := s.context.process s.routine s.arguments ⟨some 0, some error⟩ s.area
  ⟨{ s with context := reply.context, buffer := reply.area.buffer.getD [] },
    .ok (.ofReply reply),
    s.seen s.routine.returns.carrier.kind.toKind (some s.items.length) reply.context
      reply.events⟩

/-- The value of a row. -/
def process (s : Session σ) (row : List Datum) : Reply σ Output := s.onRow row fun s => s.value 0

/-- The session after a step of a group, and the error flag. -/
def stepped (s : Session σ) (kind : CallbackKind) (count : Option Nat) (reply : StepReply σ) :
    Reply σ UInt8 :=
  let flags := GroupFlags.ofFlags reply.flags
  ⟨{ s with context := reply.context, flags }, .ok flags.error,
    s.seen kind count reply.context reply.events⟩

/-- Start a group. -/
def begin (s : Session σ) : Reply σ Unit :=
  s.whenInitialized <|
    if s.symbols.clear.isNone then s.refuse (.notAggregate s.name)
    else
      (s.stepped .clear none (s.context.clear s.routine GroupFlags.clear.toFlags)).andThen
        fun _ s => s.done ()

/-- Take a step of the group with a row, if there is a symbol for it.  The result is the error flag. -/
def rowStep (s : Session σ) (symbol : Option Unit) (missing : Misuse)
    (call : Session σ → StepReply σ) (row : List Datum) : Reply σ UInt8 :=
  if symbol.isNone then s.refuse missing
  else s.onRow row fun s => s.stepped .add (some s.items.length) (call s)

/-- Fold a row into the group. -/
def add (s : Session σ) (row : List Datum) : Reply σ UInt8 :=
  s.rowStep s.symbols.add (.notAggregate s.name)
    (fun s => s.context.add s.routine s.arguments s.flags.toFlags) row

/-- Take a row out of the group. -/
def remove (s : Session σ) (row : List Datum) : Reply σ UInt8 :=
  s.rowStep s.symbols.remove (.noRemove s.name)
    (fun s => s.context.remove s.routine s.arguments s.flags.toFlags) row

/-- The value of the group. -/
def finish (s : Session σ) : Reply σ Output := s.whenInitialized (s.value s.flags.error)

/-- Fold rows in one after the other. -/
def addAll (s : Session σ) : List (List Datum) → Reply σ Unit
  | [] => s.done ()
  | row :: rows => (s.add row).andThen fun _ s => s.addAll rows

/-- The value of a whole group. -/
def group (s : Session σ) (rows : List (List Datum)) : Reply σ Output :=
  s.begin.andThen fun _ s => (s.addAll rows).andThen fun _ s => s.finish

/-- End the statement. -/
def deinit (s : Session σ) : Reply σ Unit :=
  s.whenInitialized <|
    let s := { s with initialized := false }
    if s.symbols.deinit.isNone then s.done ()
    else
      let (context, events) := s.context.deinit s.routine
      ⟨{ s with context }, .ok (), s.seen .deinit none context events⟩

/-- The values of rows. -/
def processAll (s : Session σ) : List (List Datum) → Reply σ (List Output)
  | [] => s.done []
  | row :: rows =>
    (s.process row).andThen fun o s => (s.processAll rows).andThen fun os s => s.done (o :: os)

/-- A whole statement.  It is ended also if a row fails. -/
def run (s : Session σ) (items : List Sample) (rows : List (List Datum)) :
    Reply σ (List Output) :=
  (s.init items).andThen fun _ s =>
    (s.processAll rows).attempt.andThen fun outputs s =>
      s.deinit.andThen fun _ s => ⟨s, outputs, []⟩

/-- The line about a row with an unexpected value. -/
def unexpected (index : Nat) (want got : Output) : Text.Styled :=
  [.plain s!"row {index}: expected ", .coloured .green want.text, .plain ", got ",
    .strong .red got.text]

/-- Lines about the rows with unexpected values, counting the rows from `index` on. -/
def surprises (s : Session σ) (index : Nat) :
    List (List Datum × Output) → Reply σ (List Text.Styled)
  | [] => s.done []
  | (row, want) :: rest =>
    ((s.process row).within s!"row {index}").andThen fun got s =>
      (s.surprises (index + 1) rest).andThen fun lines s =>
        s.done (if got.agrees want then lines else unexpected index want got :: lines)

/-- Compare the values of rows with what is expected. -/
def expect (s : Session σ) (rows : List (List Datum)) (expected : List Output) : Reply σ Unit :=
  if rows.length ≠ expected.length then
    ⟨s, .error (.ofText [.plain s!"{rows.length} rows but {expected.length} expected results"]), []⟩
  else
    (s.surprises 0 (rows.zip expected)).andThen fun lines s =>
      if lines.isEmpty then s.done ()
      else
        ⟨s, .error (.ofText (.plain s!"`{s.name}` returned unexpected results\n"
          :: List.intercalate [.plain "\n"] lines)), []⟩

/-- Change a setting from outside. -/
def configure (s : Session σ) (change : Settings.Change) : Reply σ Unit :=
  ({ s with context := { s.context with settings := s.context.settings.set change } }).done ()

/-- What is seen when the session is given up: a statement still running is ended. -/
def close (s : Session σ) : List Event := if s.initialized then s.deinit.events else []

end Session
end Loadable
