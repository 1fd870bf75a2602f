/-
# What `init` leaves

`init` can fail in three ways: a type tag is not known, the function's code returns an error, or it panics.
It writes in three places: the settings, the types of the arguments and the state.  The types are
checked before the code runs (`typeError?_eq_none_iff`), and those it asked for are written, and the
state put in its place, only after it ended well.  So a failure leaves the state and the arguments as they
were, and a success leaves all that was asked for: `init_all_or_nothing`.
-/

import Loadable.Functions.Sum
import Loadable.Proofs.Observation
import Loadable.Proofs.Requests

namespace Loadable

namespace SqlType

/-- A number that is the tag of a type is read as that type. -/
theorem ofNumber_eq_ok_iff {n : Int} {type : SqlType} :
    ofNumber n = .ok type ↔ n = type.toTag.number := by
  refine ⟨fun h => ?_, fun h => h ▸ ofNumber_number type⟩
  unfold ofNumber at h
  split at h
  case h_1 tag htag =>
    have hn : n = tag.number := by
      unfold Tag.ofNumber? at htag
      split_ifs at htag <;> obtain rfl := Option.some.inj htag <;> assumption
    rw [hn]
    cases tag <;> cases h <;> rfl
  case h_2 => cases h

end SqlType

namespace Argument

/-- The tag is that of a type that values can have. -/
def Typed (a : Argument) : Prop := ∃ type : SqlType, a.tag = type.toTag.number

/-- A tag is either that of a type or an error. -/
theorem not_typed_iff {a : Argument} : ¬ a.Typed ↔ ∃ e, SqlType.ofNumber a.tag = .error e := by
  cases h : SqlType.ofNumber a.tag with
  | ok type =>
    refine iff_of_false (not_not_intro ⟨type, SqlType.ofNumber_eq_ok_iff.1 h⟩) ?_
    rintro ⟨e, he⟩
    cases he
  | error e =>
    refine iff_of_true ?_ ⟨e, rfl⟩
    rintro ⟨type, htype⟩
    rw [SqlType.ofNumber_eq_ok_iff.2 htype] at h
    cases h

/-- The check of one argument finds nothing exactly if its tag is that of a type. -/
theorem typeError_eq_none_iff {a : Argument} :
    (match SqlType.ofNumber a.tag with
      | .ok _ => none
      | .error e => some e) = none ↔ a.Typed := by
  rw [← not_iff_not, not_typed_iff]
  cases SqlType.ofNumber a.tag <;> simp

/-- The check finds nothing exactly if all tags are those of types. -/
theorem typeError?_eq_none_iff {args : List Argument} :
    typeError? args = none ↔ ∀ a ∈ args, a.Typed := by
  rw [typeError?, List.findSome?_eq_none_iff]
  exact forall₂_congr fun a _ => typeError_eq_none_iff

/-- **The check finds the first tag** that is not that of a type. -/
theorem typeError?_eq_some {args : List Argument} {e : TypeError} (h : typeError? args = some e) :
    ∃ before a after, args = before ++ a :: after ∧ (∀ b ∈ before, b.Typed)
      ∧ SqlType.ofNumber a.tag = .error e := by
  obtain ⟨before, a, after, hargs, ha, hbefore⟩ := List.findSome?_eq_some_iff.1 h
  refine ⟨before, a, after, hargs, fun b hb => typeError_eq_none_iff.1 (hbefore b hb), ?_⟩
  cases htag : SqlType.ofNumber a.tag with
  | ok type => simp [htag] at ha
  | error e' => simpa [htag] using ha

end Argument

/-- An argument with the tag of a type, if one is given. -/
def Argument.retagged (a : Argument) (type : Option SqlType) : Argument :=
  { a with tag := (type.map fun t => t.toTag.number).getD a.tag }

/-- Without a type the tag stays. -/
@[simp] theorem Argument.retagged_none (a : Argument) : a.retagged none = a := rfl

/-- Granting writes the type asked for an argument into its tag, and nothing else. -/
theorem Wishes.getElem?_grant (w : Wishes) (args : List Argument) (i : Nat) :
    (w.grant args)[i]? = args[i]?.map fun a => a.retagged w[i]?.join := by
  fun_induction Wishes.grant w args generalizing i with
  | case1 type w a args ih => cases i <;> simp [ih, Argument.retagged]
  | case2 w a args ih => cases i <;> simp [ih, Argument.retagged]
  | case3 w args hsome hnone =>
    cases args with
    | nil => simp
    | cons a args =>
      cases w with
      | nil => simp
      | cons wish w =>
        cases wish with
        | none => exact absurd rfl (hnone w a args rfl)
        | some type => exact absurd rfl (hsome type w a args rfl)

/-- The server's buffer for messages after `init`: a message is written into it, if there is one. -/
def InitReply.messageBuffer {σ : Type} (reply : InitReply σ) (buffer : Option Bytes) :
    Option Bytes :=
  match reply.message with
  | some m => buffer.map (writeMessage messageSize (Utf8.encode m))
  | none => buffer

namespace Context

variable {σ : Type} (r : Routine σ) (c : Context σ) (args : List Argument)

/-- The code starts with no conversion asked for, and with NULL declared possible where it is; the other
settings are those of the context. -/
theorem preparation_eq :
    c.preparation r args
      = ⟨{ c.settings with maybeNull := r.returns.optional || c.settings.maybeNull },
        Wishes.none args.length⟩ := by
  unfold preparation
  cases r.returns.optional <;> rfl

/-! ### The three ways `init` goes -/

/-- An unknown tag is refused before anything happens. -/
theorem init_refused {e : TypeError} (h : Argument.typeError? args = some e) :
    c.init r args = ⟨c, args, some e.message, []⟩ := by
  rw [init, h]

/-- The code runs where all tags are known. -/
theorem init_checked (h : ∀ a ∈ args, a.Typed) :
    c.init r args = c.initWith args (r.init (c.preparation r args) args) := by
  rw [init, Argument.typeError?_eq_none_iff.2 h]

variable (run : Run Preparation String σ)

/-- The settings are left as the code leaves them, also where it fails. -/
theorem settings_initWith :
    (c.initWith args run).context.settings = run.state.settings := by
  unfold initWith
  cases run.outcome <;> rfl

/-- There is a message exactly if the code does not end well: its error, or that it panicked. -/
theorem message_initWith :
    (c.initWith args run).message
      = match run.outcome with
        | .ok _ => none
        | .err text => some text
        | .panic _ => some "(critical) init function panicked" := by
  unfold initWith
  cases run.outcome <;> rfl

/-- Code that does not end well leaves state and arguments as they were. -/
theorem initWith_failed (h : (c.initWith args run).message.isSome = true) :
    (c.initWith args run).context.cell = c.cell ∧ (c.initWith args run).args = args := by
  unfold initWith at h ⊢
  cases ho : run.outcome with
  | ok state => simp [ho] at h
  | err text => exact ⟨rfl, rfl⟩
  | panic p => exact ⟨rfl, rfl⟩

/-- Code that ends well makes the state, with nothing kept beside it. -/
theorem initWith_made (h : (c.initWith args run).message = none) :
    ∃ state, run.outcome = .ok state
      ∧ (c.initWith args run).context.cell = some ⟨state, none⟩ := by
  unfold initWith at h ⊢
  cases ho : run.outcome with
  | ok state => exact ⟨state, rfl, rfl⟩
  | err text => simp [ho] at h
  | panic p => simp [ho] at h

/-- The code of an `init` that succeeds ended well, and made the state. -/
theorem init_made (h : (c.init r args).message = none) :
    ∃ state, (r.init (c.preparation r args) args).outcome = .ok state
      ∧ (c.init r args).context.cell = some ⟨state, none⟩ := by
  cases htypes : Argument.typeError? args with
  | some e =>
    rw [c.init_refused r args htypes] at h
    cases h
  | none =>
    rw [c.init_checked r args (Argument.typeError?_eq_none_iff.1 htypes)] at h ⊢
    exact c.initWith_made args _ h

/-- An `init` that succeeds leaves the settings as its code leaves them. -/
theorem settings_of_init (h : (c.init r args).message = none) :
    (c.init r args).context.settings = (r.init (c.preparation r args) args).state.settings := by
  cases htypes : Argument.typeError? args with
  | some e =>
    rw [c.init_refused r args htypes] at h
    cases h
  | none => rw [c.init_checked r args (Argument.typeError?_eq_none_iff.1 htypes), settings_initWith]

theorem ended_well (h : (c.init r args).message = none) :
    ∃ state, (r.init (c.preparation r args) args).outcome = .ok state := by
  obtain ⟨state, hstate, -⟩ := c.init_made r args h
  exact ⟨state, hstate⟩

/-- The state after `init` is the one before or a new one. -/
theorem cell_init {cell : Cell σ}
    (h : (c.init r args).context.cell = some cell) :
    c.cell = some cell ∨ ∃ p, (r.init p args).outcome = .ok cell.state := by
  unfold init at h
  split at h
  · exact .inl h
  · unfold initWith at h
    cases ho : (r.init (c.preparation r args) args).outcome with
    | ok state =>
      rw [ho] at h
      obtain rfl := Option.some.inj h
      exact .inr ⟨_, ho⟩
    | err text => rw [ho] at h; exact .inl h
    | panic p => rw [ho] at h; exact .inl h

/-- What a successful `init` writes into the tags: the type asked for last, where one was. -/
theorem getElem?_args_init {rs : List Request} (h : (c.init r args).message = none)
    (hrs : (r.init (c.preparation r args) args).state = (c.preparation r args).makeAll rs)
    {i : Nat} {a : Argument} (ha : args[i]? = some a) :
    (c.init r args).args[i]? = some (a.retagged (Request.lastFor? rs i)) := by
  have hlen : i < args.length := (List.getElem?_eq_some_iff.1 ha).1
  have hwishes : (c.preparation r args).wishes = Wishes.none args.length := rfl
  have hnone : (c.preparation r args).wishes[i]?.join = none := by
    rw [hwishes]
    simp [Wishes.none, hlen]
  have hwish := (c.preparation r args).wish_makeAll rs (i := i) (by
    rw [hwishes]
    simpa [Wishes.none] using hlen)
  rw [hnone, Option.or_none] at hwish
  rw [args_init h, hrs, Wishes.getElem?_grant, ha, hwish, Option.map_some]

/-- **`init` does all or nothing.**  The code starts from the settings of the context, with NULL declared
possible if the function may return it.  It fails exactly if a tag is not that of a type or the code does
not end well; a failure leaves the state and the arguments as they were.  The first unknown tag is what is
told, and then the code is not run and the context is as it was.  Where all tags are known the code runs
once, and the settings are as it leaves them.  A success writes no message, puts the new state in its place
with nothing kept beside it, and writes into each tag the type that was asked for last, where one was. -/
theorem init_all_or_nothing (buffer : Option Bytes) :
    let start := c.preparation r args
    let run := r.init start args
    let reply := c.init r args
    let notes := Event.notes (c.init r.observed args).events
    start.settings
        = { c.settings with maybeNull := r.returns.optional || c.settings.maybeNull }
      ∧ (reply.message.isSome = true
          ↔ (∃ a ∈ args, ¬ a.Typed) ∨ ∀ state, run.outcome ≠ .ok state)
      ∧ (reply.message.isSome = true → reply.context.cell = c.cell ∧ reply.args = args)
      ∧ ((∃ a ∈ args, ¬ a.Typed) → notes = [] ∧ reply.context = c
          ∧ ∃ before a after e, args = before ++ a :: after ∧ (∀ b ∈ before, b.Typed)
            ∧ SqlType.ofNumber a.tag = .error e ∧ reply.message = some e.message)
      ∧ ((∀ a ∈ args, a.Typed) → notes = [.prepared start.settings args start.wishes]
          ∧ reply.context.settings = run.state.settings
          ∧ ∀ text, run.outcome = .err text → reply.message = some text)
      ∧ (reply.message = none → reply.messageBuffer buffer = buffer
          ∧ (∃ state, run.outcome = .ok state ∧ reply.context.cell = some ⟨state, none⟩)
          ∧ reply.args.length = args.length
          ∧ ∀ rs, run.state = start.makeAll rs → ∀ (i : Nat) (a : Argument),
            args[i]? = some a → reply.args[i]? = some (a.retagged (Request.lastFor? rs i))) := by
  intro start run reply notes
  have hnotes : notes = _ := c.notes_init r args
  have hstart : start.settings
      = { c.settings with maybeNull := r.returns.optional || c.settings.maybeNull } :=
    congrArg Preparation.settings (c.preparation_eq r args)
  refine ⟨hstart, ?_⟩
  cases htypes : Argument.typeError? args with
  | some e =>
    have hreply : reply = ⟨c, args, some e.message, []⟩ := c.init_refused r args htypes
    obtain ⟨before, a, after, hargs, hbefore, ha⟩ := Argument.typeError?_eq_some htypes
    have hbad : ∃ a ∈ args, ¬ a.Typed :=
      ⟨a, by simp [hargs], Argument.not_typed_iff.2 ⟨e, ha⟩⟩
    rw [htypes] at hnotes
    rw [hreply]
    refine ⟨iff_of_true rfl (.inl hbad), fun _ => ⟨rfl, rfl⟩, fun _ => ⟨hnotes, rfl, ?_⟩, ?_, nofun⟩
    · exact ⟨before, a, after, e, hargs, hbefore, ha, rfl⟩
    · intro hgood
      obtain ⟨a, hmem, ha⟩ := hbad
      exact absurd (hgood a hmem) ha
  | none =>
    have hgood := Argument.typeError?_eq_none_iff.1 htypes
    have hnobad : ¬ ∃ a ∈ args, ¬ a.Typed := fun ⟨a, hmem, ha⟩ => ha (hgood a hmem)
    have hreply : reply = c.initWith args run := c.init_checked r args hgood
    have hmessage := c.message_initWith args run
    rw [htypes] at hnotes
    rw [← hreply] at hmessage
    refine ⟨?_, ?_, fun hbad => absurd hbad hnobad, fun _ => ⟨hnotes, ?_, ?_⟩, fun hnone => ?_⟩
    · rw [or_iff_right hnobad, hmessage]
      cases run.outcome <;> simp
    · rw [hreply]
      exact c.initWith_failed args run
    · rw [hreply]
      exact c.settings_initWith args run
    · intro text htext
      rw [hmessage, htext]
    · refine ⟨by rw [InitReply.messageBuffer, hnone], ?_, ?_, ?_⟩
      · rw [hreply] at hnone ⊢
        exact c.initWith_made args run hnone
      · rw [args_init hnone]
        exact Wishes.length_grant ..
      · exact fun rs hrs i a ha => c.getElem?_args_init r args hnone hrs ha

/-- A sum of a text and a number, and the same arguments with one more whose tag is that of a row. -/
theorem init_all_or_nothing_sumInt :
    let text : Argument := ⟨0, some [55], 1, 0, none, 0⟩
    let number : Argument := ⟨2, none, 0, 1, none, 0⟩
    let row : Argument := ⟨3, none, 0, 0, none, 0⟩
    let c : Context Unit := .fresh
    ((c.init Functions.sumInt [text, number]).args[0]? = some { text with tag := 2 }
        ∧ (c.init Functions.sumInt [text, number]).messageBuffer (some [0]) = some [0])
      ∧ (c.init Functions.sumInt [text, row, number]).context = c
      ∧ (c.init Functions.sumInt [text, row, number]).args = [text, row, number] := by
  intro text number row c
  obtain ⟨-, -, -, -, -, hmade⟩ :=
    c.init_all_or_nothing Functions.sumInt [text, number] (some [0])
  obtain ⟨-, hiff, hkept, hrefused, -⟩ :=
    c.init_all_or_nothing Functions.sumInt [text, row, number] none
  have hrow : ∃ a ∈ [text, row, number], ¬ a.Typed :=
    ⟨row, by simp, Argument.not_typed_iff.2 ⟨.unsupported .row, rfl⟩⟩
  obtain ⟨hbuffer, -, -, htags⟩ := hmade rfl
  refine ⟨⟨?_, hbuffer⟩, (hrefused hrow).2.1, (hkept (hiff.2 (.inl hrow))).2⟩
  exact htags [.conversion 0 .int, .conversion 1 .int, .setting (.isConst true)] rfl 0 text rfl

end Context
end Loadable
