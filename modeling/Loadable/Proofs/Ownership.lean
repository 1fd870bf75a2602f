/-
# Who holds the bytes of a string

A string of the state is handed out where it lies, and the value that it came in is given up before the
server reads it.  That is right if the bytes lie behind a reference, and wrong if the value holds them
itself (`Buffer.owns`).  Whether a return type is taken for one of the state's strings is read off its
spelling: it is, if there is a reference or a lifetime in it.  Of the types of strings the references are
rightly among them, and those on the way to a reference (`Buffer.HasType.owns_eq_false`); the others with a
lifetime are those of values borrowed or owned by turns, and of these some values hold their bytes.
`Registration.lent_unowned_iff` tells exactly which.
-/

import Loadable.Buffer
import Loadable.Proofs.Protocol
import Loadable.Registration.Shape
import Loadable.Source.Reading

namespace Loadable

/-! ### What is handed out where it lies -/

/-- What is left where it is, is the string itself. -/
theorem ResultArea.eq_of_deliver_source {area : ResultArea} {bs bs' : Bytes}
    (h : (area.deliver bs).1 = .source bs') : bs = bs' := by
  unfold deliver at h
  split at h
  · split at h
    · cases h
    · exact Pointer.source.inj h
  · exact Pointer.source.inj h

/-- A string that is handed out where it lies is one of the state, or was kept. -/
theorem Verdict.of_source {c : Carrier} {verdict : Verdict c.Payload} {area : ResultArea}
    {bs : Bytes} (h : (verdict.delivery c area).1 = .string (.source bs)) :
    c = .borrowed ∨ ∀ kept, verdict.stash c kept = some bs := by
  cases verdict with
  | value v =>
    cases c with
    | int => cases h
    | real => cases h
    | borrowed => exact .inl rfl
    | owned =>
      have hv : v = bs := ResultArea.eq_of_deliver_source (Returned.string.inj h)
      exact .inr fun kept => congrArg some hv
  | _ => cases c <;> cases h

/-- **After every call** a string that is handed out where it lies is one of the state, or is kept. -/
theorem Context.kept_of_source {σ : Type} {r : Routine σ} {c : Context σ} {args : List Argument}
    {flags : Flags} {area : ResultArea} {bs : Bytes}
    (h : (c.process r args flags area).returned = .string (.source bs)) :
    r.returns.carrier = .borrowed
      ∨ (c.process r args flags area).context.cell.bind Cell.stash = some bs := by
  cases hc : c.cell with
  | none =>
    rw [process_unprepared r c args flags area hc] at h
    generalize r.returns.carrier = carrier at h
    cases carrier <;> cases h
  | some cell =>
    rw [process_prepared r c args flags area hc] at h ⊢
    exact (Verdict.of_source h).imp_right fun hkept => hkept cell.stash

/-! ### Types of strings and their values -/

/-- The types that strings are returned in. -/
inductive BufferType where
  | text
  | bytes
  | ownedText
  | ownedBytes
  | reference (t : BufferType)
  | mutableReference (t : BufferType)
  | boxed (t : BufferType)
  | shared (t : BufferType)
  | atomicShared (t : BufferType)
  /-- Borrowed from a value of the type, or owned, by turns. -/
  | either (t : BufferType)
  deriving DecidableEq, Repr

namespace BufferType

/-- The type of values of one's own made of values of a type.  A mutable reference cannot be copied. -/
def owned? : BufferType → Option BufferType
  | text => some ownedText
  | bytes => some ownedBytes
  | mutableReference _ => none
  | boxed t => if t.owned?.isSome then some (boxed t) else none
  | t => some t

/-- Whether what may be owned by turns can be owned at all. -/
def wellFormed : BufferType → Bool
  | reference t => t.wellFormed
  | mutableReference t => t.wellFormed
  | boxed t => t.wellFormed
  | shared t => t.wellFormed
  | atomicShared t => t.wellFormed
  | either t => t.owned?.isSome && t.wellFormed
  | _ => true

/-- Whether the bytes lie behind a reference. -/
def behindReference : BufferType → Bool
  | reference _ => true
  | mutableReference _ => true
  | boxed t => t.behindReference
  | shared t => t.behindReference
  | atomicShared t => t.behindReference
  | either t => t.behindReference
  | _ => false

/-- Whether something that is borrowed or owned by turns stands on the way to the bytes, or to the first
reference. -/
def byTurns : BufferType → Bool
  | boxed t => t.byTurns
  | shared t => t.byTurns
  | atomicShared t => t.byTurns
  | either _ => true
  | _ => false

/-- Texts and bytes are owned in a type of their own, all else in its own type. -/
theorem owned?_cases {t u : BufferType} (h : t.owned? = some u) :
    (t = text ∧ u = ownedText) ∨ (t = bytes ∧ u = ownedBytes) ∨ u = t := by
  cases t with
  | text => exact .inl ⟨rfl, (Option.some.inj h).symm⟩
  | bytes => exact .inr (.inl ⟨rfl, (Option.some.inj h).symm⟩)
  | mutableReference t => cases h
  | boxed t =>
    unfold owned? at h
    split at h
    · exact .inr (.inr (Option.some.inj h).symm)
    · cases h
  | _ => exact .inr (.inr (Option.some.inj h).symm)

theorem behindReference_of_owned? {t u : BufferType} (h : t.owned? = some u) :
    u.behindReference = t.behindReference := by
  rcases owned?_cases h with ⟨rfl, rfl⟩ | ⟨rfl, rfl⟩ | rfl <;> rfl

end BufferType

namespace Buffer

/-- The values of a type. -/
inductive HasType : Buffer → BufferType → Prop where
  | text (s : String) : HasType (.text s) .text
  | bytes (bs : Bytes) : HasType (.bytes bs) .bytes
  | ownedText (s : String) : HasType (.ownedText s) .ownedText
  | ownedBytes (bs : Bytes) : HasType (.ownedBytes bs) .ownedBytes
  | reference {b : Buffer} {t : BufferType} : HasType b t → HasType (.reference b) (.reference t)
  | mutableReference {b : Buffer} {t : BufferType} :
    HasType b t → HasType (.mutableReference b) (.mutableReference t)
  | boxed {b : Buffer} {t : BufferType} : HasType b t → HasType (.boxed b) (.boxed t)
  | shared {b : Buffer} {t : BufferType} : HasType b t → HasType (.shared b) (.shared t)
  | atomicShared {b : Buffer} {t : BufferType} :
    HasType b t → HasType (.atomicShared b) (.atomicShared t)
  | eitherBorrowed {b : Buffer} {t : BufferType} :
    HasType b t → HasType (.eitherBorrowed b) (.either t)
  | eitherOwned {b : Buffer} {t u : BufferType} (hu : t.owned? = some u) :
    HasType b u → HasType (.eitherOwned b) (.either t)

/-- **Bytes behind a reference** are held by no value. -/
theorem HasType.owns_eq_false {b : Buffer} {t : BufferType} (h : b.HasType t)
    (ht : t.behindReference = true) : b.owns = false := by
  induction h with
  | reference => rfl
  | mutableReference => rfl
  | eitherBorrowed => rfl
  | boxed _ ih => exact ih ht
  | shared _ ih => exact ih ht
  | atomicShared _ ih => exact ih ht
  | eitherOwned hu _ ih => exact ih ((BufferType.behindReference_of_owned? hu).trans ht)
  | _ => cases ht

/-- Where no reference stands on the way, some value holds its bytes. -/
theorem exists_owns {t : BufferType} (hwell : t.wellFormed = true)
    (ht : t.behindReference = false) : ∃ b : Buffer, b.HasType t ∧ b.owns = true := by
  induction t with
  | text => exact ⟨_, .text "", rfl⟩
  | bytes => exact ⟨_, .bytes [], rfl⟩
  | ownedText => exact ⟨_, .ownedText "", rfl⟩
  | ownedBytes => exact ⟨_, .ownedBytes [], rfl⟩
  | reference => cases ht
  | mutableReference => cases ht
  | boxed t ih =>
    obtain ⟨b, hb, howns⟩ := ih hwell ht
    exact ⟨_, .boxed hb, howns⟩
  | shared t ih =>
    obtain ⟨b, hb, howns⟩ := ih hwell ht
    exact ⟨_, .shared hb, howns⟩
  | atomicShared t ih =>
    obtain ⟨b, hb, howns⟩ := ih hwell ht
    exact ⟨_, .atomicShared hb, howns⟩
  | either t ih =>
    obtain ⟨hsome, hwell⟩ := Bool.and_eq_true_iff.1 hwell
    obtain ⟨u, hu⟩ := Option.isSome_iff_exists.1 hsome
    rcases BufferType.owned?_cases hu with ⟨rfl, rfl⟩ | ⟨rfl, rfl⟩ | rfl
    · exact ⟨_, .eitherOwned hu (.ownedText ""), rfl⟩
    · exact ⟨_, .eitherOwned hu (.ownedBytes []), rfl⟩
    · obtain ⟨b, hb, howns⟩ := ih hwell ht
      exact ⟨_, .eitherOwned hu hb, howns⟩

end Buffer

/-! ### How types of strings are spelled -/

namespace Source

/-- A type by its name in some modules, with arguments. -/
def TypeExpr.named (rooted : Bool) (modules : List String) (name : String) (arguments : Arguments)
    (tokens : List Token) : TypeExpr :=
  .path false rooted (modules.map (fun m => .mk m .none) ++ [.mk name arguments]) tokens

/-- A type alone in angle brackets is all that can borrow there. -/
@[simp] theorem Arguments.borrows_type (e : TypeExpr) :
    (Arguments.angled [.type e]).borrows = e.borrows := by
  simp [Arguments.borrows, GenericArg.anyBorrows, GenericArg.borrows]

namespace TypeExpr

variable {rooted : Bool} {modules : List String} {name : String} {arguments : Arguments}
  {tokens : List Token}

/-- Modules have no lifetimes, so a name borrows what its arguments do. -/
@[simp] theorem borrows_named :
    (named rooted modules name arguments tokens).borrows = arguments.borrows := by
  unfold named borrows
  induction modules with
  | nil => simp [Segment.anyBorrows]
  | cons m modules ih => simpa [Segment.anyBorrows, Arguments.borrows] using ih

theorem isWord_named {w : String} (h : name ≠ w) :
    (named rooted modules name arguments tokens).isWord w = false := by
  cases modules with
  | nil => cases arguments <;> simp [named, isWord, toPath?, Path.isWord, h]
  | cons m modules =>
    cases modules <;> simp [named, isWord, toPath?, Path.isWord]

theorem optionArgument?_named (h : name ≠ "Option") :
    (named rooted modules name arguments tokens).optionArgument? = none := by
  have hlast : (modules.map (fun m => Segment.mk m .none) ++ [Segment.mk name arguments]).getLast?
      = some (Segment.mk name arguments) := by simp
  simp only [named, optionArgument?, hlast]
  split
  · rename_i heq
    obtain ⟨rfl, -⟩ := Segment.mk.inj (Option.some.inj heq)
    rw [if_neg h]
  · rfl

theorem optionArgument?_option (e : TypeExpr) :
    (named rooted modules "Option" (.angled [.type e]) tokens).optionArgument? = some e := by
  simp [named, optionArgument?]

end TypeExpr

/-- The type `u8`, as the items of a list. -/
def TypeExpr.byte (tokens : List Token) : TypeExpr := .named false [] "u8" .none tokens

open TypeExpr in
/-- A type of strings and how it may be spelled, with any names of modules before its own.  Of a reference
only that it is one is kept. -/
inductive Spells : TypeExpr → BufferType → Prop where
  | text (rooted : Bool) (modules : List String) (tokens : List Token) :
    Spells (named rooted modules "str" .none tokens) .text
  | bytes (tokens : List Token) : Spells (.other tokens) .bytes
  | ownedText (rooted : Bool) (modules : List String) (tokens : List Token) :
    Spells (named rooted modules "String" .none tokens) .ownedText
  | ownedBytes (rooted : Bool) (modules : List String) (tokens item : List Token) :
    Spells (named rooted modules "Vec" (.angled [.type (.byte item)]) tokens) .ownedBytes
  | reference (t : BufferType) (tokens : List Token) : Spells (.reference tokens) (.reference t)
  | mutableReference (t : BufferType) (tokens : List Token) :
    Spells (.reference tokens) (.mutableReference t)
  | boxed (rooted : Bool) (modules : List String) (tokens : List Token) {e : TypeExpr}
    {t : BufferType} : Spells e t →
      Spells (named rooted modules "Box" (.angled [.type e]) tokens) (.boxed t)
  | shared (rooted : Bool) (modules : List String) (tokens : List Token) {e : TypeExpr}
    {t : BufferType} : Spells e t →
      Spells (named rooted modules "Rc" (.angled [.type e]) tokens) (.shared t)
  | atomicShared (rooted : Bool) (modules : List String) (tokens : List Token) {e : TypeExpr}
    {t : BufferType} : Spells e t →
      Spells (named rooted modules "Arc" (.angled [.type e]) tokens) (.atomicShared t)
  /-- The lifetime comes first. -/
  | either (rooted : Bool) (modules : List String) (tokens : List Token) {e : TypeExpr}
    {t : BufferType} : Spells e t →
      Spells (named rooted modules "Cow" (.angled [.lifetime, .type e]) tokens) (.either t)
  | paren (tokens : List Token) {e : TypeExpr} {t : BufferType} :
    Spells e t → Spells (.paren e tokens) t

namespace Spells

variable {e : TypeExpr} {t : BufferType}

/-- **A reference or a lifetime** stands in the spelling exactly if there is a reference on the way to the
bytes or something that is borrowed or owned by turns. -/
theorem borrows_eq (h : Spells e t) : e.borrows = (t.behindReference || t.byTurns) := by
  induction h with
  | paren tokens _ ih => exact ih
  | boxed rooted modules tokens _ ih =>
    rw [TypeExpr.borrows_named, Arguments.borrows_type]
    exact ih
  | shared rooted modules tokens _ ih =>
    rw [TypeExpr.borrows_named, Arguments.borrows_type]
    exact ih
  | atomicShared rooted modules tokens _ ih =>
    rw [TypeExpr.borrows_named, Arguments.borrows_type]
    exact ih
  | either rooted modules tokens _ ih =>
    rw [TypeExpr.borrows_named, BufferType.byTurns, Bool.or_true]
    rfl
  | text => rw [TypeExpr.borrows_named]; rfl
  | ownedText => rw [TypeExpr.borrows_named]; rfl
  | ownedBytes rooted modules tokens item =>
    rw [TypeExpr.borrows_named]
    rfl
  | bytes => rfl
  | reference => rfl
  | mutableReference => rfl

/-- A type of strings is none of numbers. -/
theorem isWord_eq_false (h : Spells e t) {w : String} (hw : w = "i64" ∨ w = "f64") :
    e.isWord w = false := by
  cases h with
  | bytes => rfl
  | reference => rfl
  | mutableReference => rfl
  | paren => rfl
  | _ =>
    refine TypeExpr.isWord_named ?_
    rcases hw with rfl | rfl <;> decide

/-- A type of strings is none that may be NULL. -/
theorem optionArgument?_eq_none (h : Spells e t) : e.optionArgument? = none := by
  cases h with
  | bytes => rfl
  | reference => rfl
  | mutableReference => rfl
  | paren => rfl
  | _ => exact TypeExpr.optionArgument?_named (by decide)

end Spells
end Source

namespace Registration

open Source

/-- A type of strings, or one in an `Option`, as it may be spelled. -/
inductive SpellsReturn : TypeExpr → Bool → BufferType → Prop where
  | plain {e : TypeExpr} {t : BufferType} : Spells e t → SpellsReturn e false t
  | optional (rooted : Bool) (modules : List String) (tokens : List Token) {e : TypeExpr}
    {t : BufferType} : Spells e t →
      SpellsReturn (.named rooted modules "Option" (.angled [.type e]) tokens) true t

namespace SpellsReturn

variable {e : TypeExpr} {o : Bool} {t : BufferType}

/-- **What is read off a spelling** of a type of strings: whether it may be NULL, and that its values are
taken for strings of the state exactly if there is a reference or a lifetime in it. -/
theorem returns_ofType (h : SpellsReturn e o t) :
    (Shape.ofType e).returns
      = ⟨if t.behindReference || t.byTurns then .borrowed else .owned, o⟩ := by
  cases h with
  | plain h =>
    rw [Shape.ofType, h.optionArgument?_eq_none]
    simp only [carrierOf, h.isWord_eq_false (.inl rfl), h.isWord_eq_false (.inr rfl), h.borrows_eq]
    rfl
  | optional rooted modules tokens h =>
    rw [Shape.ofType, TypeExpr.optionArgument?_option]
    simp only [carrierOf, h.isWord_eq_false (.inl rfl), h.isWord_eq_false (.inr rfl), h.borrows_eq]
    rfl

end SpellsReturn

/-- **When a return type is rightly taken for strings of the state.**  If it is taken so none of its
values holds its bytes, exactly if a reference stands on the way to the bytes wherever something that is
borrowed or owned by turns does. -/
theorem lent_unowned_iff {e : TypeExpr} {o : Bool} {t : BufferType} (h : SpellsReturn e o t)
    (hwell : t.wellFormed = true) :
    ((Shape.ofType e).returns.carrier = .borrowed → ∀ b : Buffer, b.HasType t → b.owns = false)
      ↔ (t.byTurns = true → t.behindReference = true) := by
  rw [h.returns_ofType]
  cases hbehind : t.behindReference with
  | true => exact iff_of_true (fun _ b hb => hb.owns_eq_false hbehind) fun _ => rfl
  | false =>
    cases hturns : t.byTurns with
    | true =>
      obtain ⟨b, hb, howns⟩ := Buffer.exists_owns hwell hbehind
      refine iff_of_false (fun hlent => ?_) fun hreference => Bool.false_ne_true (hreference rfl)
      exact Bool.false_ne_true ((hlent rfl b hb).symm.trans howns)
    | false => exact iff_of_true nofun nofun

/-- A text borrowed or owned by turns, and one behind a reference in a box. -/
theorem lent_unowned_iff_either :
    let text : TypeExpr := .named false [] "str" .none []
    let either : TypeExpr := .named false ["std", "borrow"] "Cow" (.angled [.lifetime, .type text]) []
    let boxed : TypeExpr := .named false [] "Box" (.angled [.type (.reference [])]) []
    ¬ ((Shape.ofType either).returns.carrier = .borrowed →
        ∀ b : Buffer, b.HasType (.either .text) → b.owns = false)
      ∧ ((Shape.ofType boxed).returns.carrier = .borrowed →
        ∀ b : Buffer, b.HasType (.boxed (.reference .text)) → b.owns = false) := by
  intro text either boxed
  have heither : SpellsReturn either false (.either .text) :=
    .plain (.either false ["std", "borrow"] [] (.text false [] []))
  have hboxed : SpellsReturn boxed false (.boxed (.reference .text)) :=
    .plain (.boxed false [] [] (.reference .text []))
  refine ⟨?_, (lent_unowned_iff hboxed rfl).2 fun _ => rfl⟩
  rw [lent_unowned_iff heither rfl]
  exact fun h => Bool.false_ne_true (h rfl)

/-- Whether a type is spelled `Cow`, with a lifetime, of `str`. -/
def isTextByTurns : TypeExpr → Bool
  | .path false false [.mk "Cow" (.angled [.lifetime, .type (.path false false [.mk "str" .none] _)])]
      _ => true
  | _ => false

theorem spells_of_isTextByTurns {e : TypeExpr} (h : isTextByTurns e = true) :
    Spells e (.either .text) := by
  unfold isTextByTurns at h
  split at h
  · exact .either false [] _ (.text false [] _)
  · cases h

/-- Its spelling with a lifetime that outlives everything is read so. -/
theorem exists_spellsReturn_textByTurns :
    ∃ e, Source.type? "Cow<'static, str>" = some e ∧ SpellsReturn e false (.either .text) := by
  have hread : (Source.type? "Cow<'static, str>").any isTextByTurns = true := by decide +kernel
  obtain ⟨e, he, hspelled⟩ := (Option.any_eq_true _ _).1 hread
  exact ⟨e, he, .plain (spells_of_isTextByTurns hspelled)⟩

/-- **Not all strings that are lent are borrowed:** a text by turns, of any lifetime at all, is taken for
one of the state, and a value of it that owns its text holds the bytes. -/
theorem exists_lent_and_owned :
    ∃ e, Source.type? "Cow<'static, str>" = some e ∧ SpellsReturn e false (.either .text)
      ∧ (BufferType.either .text).wellFormed = true
      ∧ (Shape.ofType e).returns.carrier = .borrowed
      ∧ ∀ s, (Buffer.eitherOwned (.ownedText s)).HasType (.either .text)
        ∧ (Buffer.eitherOwned (.ownedText s)).owns = true := by
  obtain ⟨e, he, hspells⟩ := exists_spellsReturn_textByTurns
  refine ⟨e, he, hspells, rfl, ?_, fun s => ⟨.eitherOwned rfl (.ownedText s), rfl⟩⟩
  rw [hspells.returns_ofType]
  rfl

end Registration
end Loadable
