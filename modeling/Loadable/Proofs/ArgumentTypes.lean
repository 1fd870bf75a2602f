/-
# The types of arguments over a statement

The types that a function sees of its arguments are settled by its `init`: for each argument the last
type that was asked for it, or that of its value.  They are first a wish, then a tag in memory, then a
type of the session, to which every row is cast before it is laid out anew.  The session keeps them,
with the texts and marks of the arguments, through every history within the statement (`Kept`), so
each row that is handed on reads as itself cast to these types (`reads_laidOut`).
-/

import Loadable.Proofs.Requests
import Loadable.Proofs.Watching

namespace Loadable

/-- How the arguments read that were made of a row. -/
structure ReadsRow (args : List Argument) (items : List Sample) (types : List SqlType)
    (row : List Datum) : Prop where
  length : args.length = row.length
  reads : ∀ (i : Nat) (a : Argument), args[i]? = some a → ∃ item type value, items[i]? = some item
    ∧ types[i]? = some type ∧ row[i]? = some value ∧ ReadsAs a item type value

theorem ReadsAs.of_label {a : Argument} {item item' : Sample} {type : SqlType} {value : Datum}
    (h : ReadsAs a item type value) (hlabel : item.label = item'.label) :
    ReadsAs a item' type value where
  reads := h.reads
  typed := h.typed
  null := h.null
  writtenAs := h.writtenAs.trans (congrArg Prod.fst hlabel)
  maybeNull := h.maybeNull.trans (congrArg Prod.snd hlabel)

/-- Of the arguments by hand only the labels matter to how a row reads. -/
theorem ReadsRow.of_labels {args : List Argument} {items items' : List Sample}
    {types : List SqlType} {row : List Datum} (h : ReadsRow args items types row)
    (hlabels : items.map Sample.label = items'.map Sample.label) :
    ReadsRow args items' types row where
  length := h.length
  reads i a ha := by
    obtain ⟨item, type, value, hitem, htype, hvalue, hreads⟩ := h.reads i a ha
    have hi : (items'.map Sample.label)[i]? = some item.label := by
      rw [← hlabels, List.getElem?_map, hitem, Option.map_some]
    rw [List.getElem?_map, Option.map_eq_some_iff] at hi
    obtain ⟨item', hitem', hlabel⟩ := hi
    exact ⟨item', type, value, hitem', htype, hvalue, hreads.of_label hlabel.symm⟩

/-- The integer that a value is cast to, unless it is NULL. -/
def Datum.integer? (d : Datum) : Option Int64 := (d.convert .int).toValue.toInt?

theorem Datum.isNone_integer? (d : Datum) : d.integer?.isNone = d.isNull := by
  have hread := (d.convert .int).isSome_toInt?
  rw [Datum.type_convert, Datum.isNull_convert, decide_eq_true rfl, Bool.true_and] at hread
  rw [integer?, ← Option.not_isSome, hread, Bool.not_not]

/-- The arguments that a step of a group was given, if a note is of one that folds a row in. -/
def Note.added? : Note → Option (List Argument)
  | called .add _ _ _ args => args
  | _ => none

namespace Session

variable {σ α β : Type} (s : Session σ)

/-- What the function's own `init` asks for; nothing if there is none. -/
def Asks (items : List Sample) (rs : List Request) : Prop :=
  if s.symbols.init.isSome then
    let args := items.map Sample.place
    let p := s.context.preparation s.routine args
    (s.routine.init p args).state = p.makeAll rs
  else rs = []

/-- The types that requests leave the arguments with. -/
def typesAsked (items : List Sample) (rs : List Request) : List SqlType :=
  items.mapIdx fun i item => (Request.lastFor? rs i).getD item.value.type

theorem exists_asks (h : s.routine.Requesting) (items : List Sample) : ∃ rs, s.Asks items rs := by
  unfold Asks
  split
  · exact h _ _
  · exact ⟨[], rfl⟩

/-- The types granted where requests were made are those that were asked for. -/
theorem typesOf_granted {items : List Sample} {p : Preparation} {rs : List Request}
    (hp : p.wishes = Wishes.none items.length) :
    Samples.typesOf ((p.makeAll rs).wishes.grant (items.map Sample.place))
      = typesAsked items rs := by
  rw [typesOf_grant, typesAsked]
  refine List.ext_getElem (by simp) fun i hi _ => ?_
  have hlen : i < items.length := by simpa using hi
  have hnone : p.wishes[i]?.join = none := by rw [hp]; simp [Wishes.none, hlen]
  have hwish := p.wish_makeAll rs (i := i) (by rw [hp]; simpa [Wishes.none] using hlen)
  rw [List.getElem_mapIdx, List.getElem_mapIdx, hwish, hnone, Option.or_none]

/-- **A successful `init`** leaves the types that were asked for, and the values cast to them. -/
theorem init_settles {items : List Sample} {rs : List Request} (hrs : s.Asks items rs)
    (h : (s.init items).result = .ok ()) :
    (s.init items).session.types = typesAsked items rs
      ∧ (s.init items).session.items = castItems items (typesAsked items rs) := by
  rcases (s.init_ok h).2 with ⟨hsym, hs⟩ | ⟨hsym, hmessage, hs⟩
  · have hnone : rs = [] := by simpa [Asks, hsym] using hrs
    have htypes : Samples.ownTypes items = typesAsked items rs := by
      rw [hnone]
      exact List.ext_getElem (by simp [Samples.ownTypes, typesAsked])
        fun i _ _ => by simp [Samples.ownTypes, typesAsked, Request.lastFor?]
    rw [hs, htypes]
    exact ⟨rfl, rfl⟩
  · rw [Asks, if_pos hsym] at hrs
    have htypes : Samples.typesOf (s.context.init s.routine (items.map Sample.place)).args
        = typesAsked items rs := by
      rw [Context.args_init hmessage, hrs]
      exact typesOf_granted (by rw [Context.preparation, List.length_map])
    rw [hs, htypes]
    exact ⟨rfl, rfl⟩

/-! ### Rows -/

section Rows

variable {s} {row : List Datum} (hrow : row.length = s.types.length)
  (hlen : s.items.length = s.types.length)

include hrow hlen

theorem length_laidOut : (s.laidOut row).length = row.length := by
  simp [laidOut, withRow, arguments, castItems, hrow, hlen]

/-- The argument at a place is made of the value there. -/
theorem getElem?_laidOut {i : Nat} {a : Argument} (ha : (s.laidOut row)[i]? = some a) :
    ∃ item type value, s.items[i]? = some item ∧ s.types[i]? = some type
      ∧ row[i]? = some value ∧ a = { item with value := value.convert type }.place := by
  obtain ⟨hi, rfl⟩ := List.getElem?_eq_some_iff.1 ha
  rw [length_laidOut hrow hlen] at hi
  have hitems : i < s.items.length := by omega
  have htypes : i < s.types.length := by omega
  refine ⟨s.items[i], s.types[i], row[i], List.getElem?_eq_getElem hitems,
    List.getElem?_eq_getElem htypes, List.getElem?_eq_getElem hi, ?_⟩
  simp [laidOut, withRow, arguments, castItems]

/-- What a function reads at a place of a row: the value there, cast to the type of the argument. -/
theorem bind_laidOut (read : Value → Option α) (i : Nat) :
    ((s.laidOut row)[i]?.bind fun a => read a.value)
      = row[i]?.bind fun d => s.types[i]?.bind fun type => read (d.convert type).toValue := by
  cases ha : (s.laidOut row)[i]? with
  | none =>
    have hshort := List.getElem?_eq_none_iff.1 ha
    rw [length_laidOut hrow hlen] at hshort
    rw [List.getElem?_eq_none hshort]
    rfl
  | some a =>
    obtain ⟨item, type, value, -, htype, hvalue, rfl⟩ := getElem?_laidOut hrow hlen ha
    rw [htype, hvalue, Option.bind_some, Option.bind_some, Option.bind_some, Sample.value_place]

/-- An integer is read at a place of a row that is cast to integers, unless there is NULL. -/
theorem intAt?_laidOut (htypes : ∀ type ∈ s.types, type = .int) (i : Nat) :
    Argument.intAt? (s.laidOut row) i = row[i]?.bind Datum.integer? := by
  rw [Argument.intAt?, bind_laidOut hrow hlen]
  cases hd : row[i]? with
  | none => rfl
  | some d =>
    have hi : i < s.types.length := hrow ▸ (List.getElem?_eq_some_iff.1 hd).1
    rw [List.getElem?_eq_getElem hi, htypes _ (List.getElem_mem hi)]
    rfl

/-- **A row that fits** reads as itself, cast to the types of the session. -/
theorem reads_laidOut : ReadsRow (s.laidOut row) s.items s.types row where
  length := length_laidOut hrow hlen
  reads i a ha := by
    obtain ⟨item, type, value, hitem, htype, hvalue, rfl⟩ := getElem?_laidOut hrow hlen ha
    exact ⟨item, type, value, hitem, htype, hvalue, readsAs_place item type value⟩

end Rows

/-- Arguments with the values of a row depend on the labels and the types only. -/
theorem items_withRow (row : List Datum) :
    (s.withRow row).items
      = ((s.labels.zip row).zip s.types).map fun x => ⟨x.1.2.convert x.2, x.1.1.1, x.1.1.2⟩ := by
  refine List.ext_getElem ?_ fun i _ _ => ?_
  · simp [withRow, castItems, labels]
  · simp [withRow, castItems, labels, Sample.label]

/-- So does how a row is laid out. -/
theorem laidOut_eq (row : List Datum) :
    s.laidOut row
      = ((s.labels.zip row).zip s.types).map fun x =>
        Sample.place ⟨x.1.2.convert x.2, x.1.1.1, x.1.1.2⟩ := by
  rw [laidOut, arguments, items_withRow, List.map_map]
  rfl

/-- Rows are laid out alike all through a statement. -/
theorem laidOut_of_kept {t : Session σ} (h : Kept s t) (hlen : s.items.length = s.types.length) :
    t.laidOut = s.laidOut := by
  funext row
  rw [laidOut_eq, laidOut_eq, h.labels hlen, h.types]

/-! ### Groups -/

theorem accepts_of_kept {t : Session σ} (h : Kept s t) : t.accepts = s.accepts := by
  funext row
  rw [accepts, accepts, h.initialized, h.types]

/-- Each row of a group is handed on until one does not fit. -/
theorem added_addAll (hadd : s.symbols.add.isSome = true)
    (hlen : s.items.length = s.types.length) (rows : List (List Datum)) :
    (Event.notes (s.observed.addAll rows).events).filterMap Note.added?
      = if s.hasState then (rows.takeWhile s.accepts).map s.laidOut else [] := by
  induction rows generalizing s with
  | nil => simp [addAll, done]
  | cons row rows ih =>
    have hnotes := notes_andThen (s.observed.add row) fun _ (t : Session σ) => t.addAll rows
    rw [addAll, hnotes, List.filterMap_append]
    by_cases hrow : s.accepts row = true
    · have hkept := s.kept_add row
      have hrest := ih (s.add row).session (by rw [hkept.symbols, hadd]) (hkept.length_items hlen)
      rw [s.accepts_of_kept hkept, s.laidOut_of_kept hkept hlen, hkept.hasState] at hrest
      obtain ⟨e, he⟩ : ∃ e, (s.add row).result = .ok e :=
        ⟨_, by rw [add, rowStep_accepted _ _ hrow hadd, stepped]⟩
      rw [(s.watched_add row).result, he, (s.watched_add row).session]
      dsimp only
      rw [hrest, s.notes_add hrow hadd, List.takeWhile_cons_of_pos hrow]
      rw [given]
      cases s.hasState <;> simp [Note.added?]
    · have hrefused : ¬ (s.observed.accepts row && s.observed.symbols.add.isSome) = true :=
        fun h => hrow (Bool.and_eq_true_iff.1 h).1
      obtain ⟨m, hm⟩ : ∃ m, s.observed.add row = s.observed.refuse m :=
        rowStep_refused _ _ hrefused
      rw [hm, List.takeWhile_cons_of_neg hrow]
      simp [refuse]

theorem added_finish : (Event.notes s.observed.finish.events).filterMap Note.added? = [] := by
  by_cases hinit : s.initialized = true
  · rw [s.notes_finish hinit, given]
    split <;> rfl
  · rw [finish, whenInitialized, if_neg (show ¬ s.observed.initialized = true from hinit)]
    rfl

/-- **A whole group** hands on its rows as the session lays them out. -/
theorem added_group (hinit : s.initialized = true) (hclear : s.symbols.clear.isSome = true)
    (hadd : s.symbols.add.isSome = true) (hlen : s.items.length = s.types.length)
    (rows : List (List Datum)) :
    (Event.notes (s.observed.group rows).events).filterMap Note.added?
      = if s.hasState then (rows.takeWhile s.accepts).map s.laidOut else [] := by
  have hkept := s.kept_begin
  have hrows := added_addAll s.begin.session (by rw [hkept.symbols, hadd])
    (hkept.length_items hlen) rows
  rw [s.accepts_of_kept hkept, s.laidOut_of_kept hkept hlen, hkept.hasState] at hrows
  have hbegin : (Event.notes s.observed.begin.events).filterMap Note.added? = [] := by
    rw [s.notes_begin hinit hclear, given]
    split <;> rfl
  have hresult : s.observed.begin.result = .ok () := by
    rw [s.observed.begin_called hinit hclear]
    rfl
  rw [group, notes_andThen, hresult, List.filterMap_append, hbegin, List.nil_append]
  dsimp only
  rw [s.watched_begin.session, notes_andThen, List.filterMap_append, hrows]
  -- the call for the value folds nothing in
  rw [(watched_addAll s.begin.session rows).session]
  cases (s.begin.session.observed.addAll rows).result with
  | error e => exact List.append_nil _
  | ok a => rw [added_finish, List.append_nil]

/-! ### Statements -/

/-- A statement that was begun with arguments whose types were asked for. -/
structure Granted (t : Session σ) (items : List Sample) (rs : List Request) : Prop where
  types : t.types = typesAsked items rs
  accepts : ∀ row, t.accepts row = true ↔ row.length = items.length
  reads : ∀ row, t.accepts row = true → ReadsRow (t.laidOut row) items t.types row
  process : ∀ row, t.accepts row = true →
    Event.notes (t.observed.process row).events = t.given .process none (some (t.laidOut row))
  add : ∀ row, t.accepts row = true → t.symbols.add.isSome = true →
    Event.notes (t.observed.add row).events
      = t.given .add (Code.told t.flags.error) (some (t.laidOut row))
  remove : ∀ row, t.accepts row = true → t.symbols.remove.isSome = true →
    Event.notes (t.observed.remove row).events
      = t.given .remove (Code.told t.flags.error) (some (t.laidOut row))
  group : t.symbols.clear.isSome = true → t.symbols.add.isSome = true → ∀ rows,
    (Event.notes (t.observed.group rows).events).filterMap Note.added?
      = if t.hasState then (rows.takeWhile t.accepts).map t.laidOut else []

/-- **What `init` asked for holds over the whole statement.**  Every function of the catalog asks by
requests.  If a session with such a function has begun a statement, then after every history without
a `deinit` the types are those asked for last, or those of the first values; every row that fits reads as
itself cast to them, with the texts and marks for NULL of the statement's arguments; and it is what
the function is given for a value, for a step of a group, and row by row for a whole group. -/
theorem types_asked_for_hold :
    (∀ outside, ∀ f ∈ Catalog.functions outside, ∀ script, (f.code script).Requesting)
    ∧ ∀ {σ : Type} (s : Session σ) (items : List Sample), s.routine.Requesting →
      (s.init items).result = .ok () →
      (∃ rs, s.Asks items rs)
      ∧ ∀ rs, s.Asks items rs → ∀ ops : List Operation, (∀ op ∈ ops, op ≠ .deinit) →
        ((s.init items).session.performAll ops).Granted items rs := by
  refine ⟨Catalog.requesting_of_mem, fun s items hasking hinit => ⟨s.exists_asks hasking items, ?_⟩⟩
  intro rs hrs ops hops
  obtain ⟨htypes, hitems⟩ := s.init_settles hrs hinit
  have hkept : Kept (s.init items).session ((s.init items).session.performAll ops) :=
    kept_performAll _ (s.initialized_init hinit) hops
  generalize (s.init items).session.performAll ops = t at hkept ⊢
  have hasked : t.types = typesAsked items rs := hkept.types.trans htypes
  have hbegun : (s.init items).session.items.length = (s.init items).session.types.length := by
    rw [hitems, htypes]
    simp [castItems, typesAsked]
  have hlen : t.items.length = t.types.length := hkept.length_items hbegun
  have htinit : t.initialized = true := hkept.initialized.trans (s.initialized_init hinit)
  have hlabels : t.items.map Sample.label = items.map Sample.label := by
    have hcast := hkept.labels hbegun
    rw [labels, labels, hitems, labels_castItems (by simp [typesAsked])] at hcast
    exact hcast
  exact
    { types := hasked
      accepts := fun row => by
        rw [accepts, htinit, hasked]
        simp [typesAsked]
      reads := fun row hrow => by
        have hfits : row.length = t.types.length := by
          simpa using (Bool.and_eq_true_iff.1 hrow).2
        exact (reads_laidOut hfits hlen).of_labels hlabels
      process := fun row hrow => t.notes_process hrow
      add := fun row hrow hadd => t.notes_add hrow hadd
      remove := fun row hrow hremove => t.notes_remove hrow hremove
      group := fun hclear hadd rows => t.added_group htinit hclear hadd hlen rows }

/-- A sum of integers given as texts. -/
theorem types_asked_for_hold_sumInt :
    let symbols : Symbols Unit :=
      ⟨"sum_int", false, some (), some (), some ⟨.longlong, ()⟩, none, none, none⟩
    let s : Session Unit := ⟨Functions.sumInt, none, symbols, .fresh, [], [], [], false, .clear⟩
    let items : List Sample := [⟨.string (some "7"), "a", true⟩]
    let t := (s.init items).session.performAll [.process [.string (some "8")]]
    t.types = [.int]
      ∧ ReadsRow (t.laidOut [.real none]) items t.types [.real none] := by
  intro symbols s items t
  have hrequesting : s.routine.Requesting := fun p _ =>
    ((Preparation.Reaches.refl p).askAll .int).set (.isConst true)
  have hgranted := (types_asked_for_hold.2 s items hrequesting rfl).2
    [.conversion 0 .int, .setting (.isConst true)] rfl [.process [.string (some "8")]] (by decide)
  exact ⟨hgranted.types, hgranted.reads [.real none] rfl⟩

end Session
end Loadable
