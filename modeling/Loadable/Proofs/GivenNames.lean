/-
# Given names

A list of entries is accepted (`Registration.Accepted`) if every value is the literal of a text, every key is
`name` or `alias`, and `name` is there at most once.  An entry offends (`Registration.Offends`) by what it is and
by what stands before it, and it is looked at in a fixed order: its value first, and only then its key.

Reading entries goes on while they are accepted, and keeps the names that they give; it ends at the first one that
offends, with the refusal of that one (`Registration.ofEntries_cases`).  So a written list is read back
(`Registration.given_names_are_read`).
-/

import Loadable.Proofs.EntryTexts

namespace Loadable
namespace Registration

open Source (afterOrderMark Escape IsLiteral hashMarks suffix_nil)

/-- Whether an entry is for the name. -/
def Entry.isName (e : Entry) : Bool := e.key.isWord "name"

/-- Whether an entry is for an alias. -/
def Entry.isAlias (e : Entry) : Bool := e.key.isWord "alias"

/-- What is wrong with an entry, given the entries before it.  Its key does not count unless its value is the
literal of a text. -/
inductive Offends (before : List Entry) (e : Entry) : Refusal → Prop
  | notText : e.value = none → Offends before e .notText
  | repeatedName : e.value.isSome = true → e.isName = true → before.any Entry.isName = true →
    Offends before e .repeatedName
  | unknownArgument : e.value.isSome = true → e.isName = false → e.isAlias = false →
    Offends before e .unknownArgument

/-- Entries of which none offends. -/
structure Accepted (es : List Entry) : Prop where
  texts : ∀ e ∈ es, e.value.isSome = true
  known : ∀ e ∈ es, e.isName = true ∨ e.isAlias = true
  once : es.countP Entry.isName ≤ 1

/-- The names that entries give. -/
def namesOf (es : List Entry) : GivenNames where
  name := (es.find? Entry.isName).bind Entry.value
  aliases := (es.filter Entry.isAlias).filterMap Entry.value

variable {before after es : List Entry} {e : Entry} {r : Refusal}

theorem accepted_nil : Accepted [] := ⟨nofun, nofun, Nat.zero_le _⟩

/-- What an entry is that does not offend. -/
theorem not_offends_iff : (∀ r, ¬ Offends es e r) ↔ e.value.isSome = true
    ∧ (e.isName = true ∧ es.any Entry.isName = false ∨ e.isName = false ∧ e.isAlias = true) := by
  constructor
  · intro h
    have hvalue : e.value.isSome = true := by
      by_contra hnone
      exact h _ (.notText (Option.not_isSome_iff_eq_none.1 hnone))
    refine ⟨hvalue, ?_⟩
    cases hname : e.isName with
    | true => exact .inl ⟨rfl, Bool.eq_false_iff.2 fun hany => h _ (.repeatedName hvalue hname hany)⟩
    | false =>
      refine .inr ⟨rfl, by_contra fun halias => ?_⟩
      exact h _ (.unknownArgument hvalue hname (Bool.eq_false_iff.2 halias))
  · rintro ⟨hvalue, hkey⟩ r hr
    cases hr with
    | notText hnone => simp [hnone] at hvalue
    | repeatedName _ hname hany => simp [hname, hany] at hkey
    | unknownArgument _ hname halias => simp [hname, halias] at hkey

theorem any_isName_eq_false : es.any Entry.isName = false ↔ es.countP Entry.isName = 0 := by
  rw [List.any_eq_false, List.countP_eq_zero]

/-- One more entry is accepted just if it does not offend. -/
theorem accepted_snoc_iff : Accepted (es ++ [e]) ↔ Accepted es ∧ ∀ r, ¬ Offends es e r := by
  rw [not_offends_iff, any_isName_eq_false]
  constructor
  · intro h
    have honce := h.once
    have hvalue := h.texts e (by simp)
    have hkey := h.known e (by simp)
    rw [List.countP_append, List.countP_singleton] at honce
    refine ⟨⟨fun e he => h.texts e (List.mem_append_left _ he), fun e he => h.known e (List.mem_append_left _ he),
      by omega⟩, hvalue, ?_⟩
    cases hname : e.isName with
    | true =>
      rw [hname, if_pos rfl] at honce
      exact .inl ⟨rfl, by omega⟩
    | false =>
      rw [hname] at hkey
      exact .inr ⟨rfl, hkey.resolve_left Bool.false_ne_true⟩
  · rintro ⟨h, hvalue, hkey⟩
    have hone : ∀ e' ∈ es ++ [e], e' ∈ es ∨ e' = e := by simp
    refine ⟨fun e' he' => ?_, fun e' he' => ?_, ?_⟩
    · rcases hone e' he' with he' | rfl
      · exact h.texts e' he'
      · exact hvalue
    · rcases hone e' he' with he' | rfl
      · exact h.known e' he'
      · exact hkey.imp And.left And.right
    · have honce := h.once
      rw [List.countP_append, List.countP_singleton]
      rcases hkey with ⟨-, hnone⟩ | ⟨hname, -⟩
      · split <;> omega
      · rw [hname, if_neg Bool.false_ne_true]
        exact honce

theorem Accepted.of_append (h : Accepted (es ++ after)) : Accepted es where
  texts := fun e he => h.texts e (List.mem_append_left _ he)
  known := fun e he => h.known e (List.mem_append_left _ he)
  once := by
    have honce := h.once
    rw [List.countP_append] at honce
    omega

theorem Accepted.not_offends (h : Accepted (before ++ e :: after)) : ¬ Offends before e r := by
  rw [List.append_cons] at h
  exact (accepted_snoc_iff.1 h.of_append).2 r

/-- No key is both words. -/
theorem Entry.isAlias_eq_false (h : e.isName = true) : e.isAlias = false := by
  unfold isName Source.Path.isWord at h
  unfold isAlias Source.Path.isWord
  split at h
  · simp_all
  · cases h

theorem Accepted.isSome_name (h : Accepted es) : (namesOf es).name.isSome = es.any Entry.isName := by
  change ((es.find? Entry.isName).bind Entry.value).isSome = _
  cases hfind : es.find? Entry.isName with
  | none =>
    rw [eq_comm, Option.bind_none, Option.isSome_none, List.any_eq_false]
    exact List.find?_eq_none.1 hfind
  | some e =>
    rw [Option.bind_some, h.texts e (List.mem_of_find?_eq_some hfind), eq_comm, List.any_eq_true]
    exact ⟨e, List.mem_of_find?_eq_some hfind, List.find?_some hfind⟩

theorem namesOf_snoc_name {v : String} (hvalue : e.value = some v) (hname : e.isName = true)
    (hany : es.any Entry.isName = false) : namesOf (es ++ [e]) = { namesOf es with name := some v } := by
  have hnone : es.find? Entry.isName = none := List.find?_eq_none.2 (List.any_eq_false.1 hany)
  have halias := Entry.isAlias_eq_false hname
  simp [namesOf, List.find?_append, hnone, hname, hvalue, halias]

theorem namesOf_snoc_alias {v : String} (hvalue : e.value = some v) (hname : e.isName = false)
    (halias : e.isAlias = true) :
    namesOf (es ++ [e]) = { namesOf es with aliases := (namesOf es).aliases ++ [v] } := by
  simp [namesOf, List.find?_append, hname, hvalue, halias]

/-- What an entry adds whose value is a text. -/
theorem add_of_value {g : GivenNames} {v : String} (hvalue : e.value = some v) : g.add e
    = if e.isName then if g.name.isSome then .error .repeatedName else .ok { g with name := some v }
      else if e.isAlias then .ok { g with aliases := g.aliases ++ [v] }
      else .error .unknownArgument := by
  unfold GivenNames.add
  rw [hvalue]
  rfl

/-- One step: an entry that offends is refused for what is wrong with it, and another one adds to the names. -/
theorem add_cases (es : List Entry) (e : Entry) (h : Accepted es) :
    (∃ r, Offends es e r ∧ (namesOf es).add e = .error r)
      ∨ (∀ r, ¬ Offends es e r) ∧ (namesOf es).add e = .ok (namesOf (es ++ [e])) := by
  cases hvalue : e.value with
  | none =>
    refine .inl ⟨_, .notText hvalue, ?_⟩
    rw [GivenNames.add, hvalue]
  | some v =>
    have hsome : e.value.isSome = true := by rw [hvalue, Option.isSome_some]
    rw [not_offends_iff, add_of_value hvalue, h.isSome_name]
    cases hname : e.isName with
    | true =>
      cases hany : es.any Entry.isName with
      | true => exact .inl ⟨_, .repeatedName hsome hname hany, rfl⟩
      | false =>
        rw [namesOf_snoc_name hvalue hname hany]
        exact .inr ⟨⟨hsome, .inl ⟨rfl, rfl⟩⟩, rfl⟩
    | false =>
      cases halias : e.isAlias with
      | true =>
        rw [namesOf_snoc_alias hvalue hname halias]
        exact .inr ⟨⟨hsome, .inr ⟨rfl, rfl⟩⟩, rfl⟩
      | false => exact .inl ⟨_, .unknownArgument hsome hname halias, rfl⟩

theorem ofEntries_snoc (es : List Entry) (e : Entry) :
    GivenNames.ofEntries (es ++ [e]) = GivenNames.ofEntries es >>= fun g => g.add e := by
  rw [GivenNames.ofEntries, List.foldlM_append]
  simp only [List.foldlM_cons, List.foldlM_nil, bind_pure]
  rfl

/-- **All entries:** they are accepted and give their names, or the first one that offends is refused. -/
theorem ofEntries_cases (es : List Entry) :
    Accepted es ∧ GivenNames.ofEntries es = .ok (namesOf es)
      ∨ ∃ before e after r, es = before ++ e :: after ∧ Accepted before ∧ Offends before e r
        ∧ GivenNames.ofEntries es = .error r := by
  induction es using List.reverseRecOn with
  | nil => exact .inl ⟨accepted_nil, rfl⟩
  | append_singleton es e ih =>
    rw [ofEntries_snoc]
    rcases ih with ⟨hes, heq⟩ | ⟨before, e', after, r, rfl, hbefore, he', heq⟩
    · rw [heq]
      rcases add_cases es e hes with ⟨r, he, hadd⟩ | ⟨he, hadd⟩
      · exact .inr ⟨es, e, [], r, rfl, hes, he, hadd⟩
      · exact .inl ⟨accepted_snoc_iff.2 ⟨hes, he⟩, hadd⟩
    · refine .inr ⟨before, e', after ++ [e], r, by simp, hbefore, he', ?_⟩
      rw [heq]
      rfl

/-- The name is that of the entry for it, wherever it stands. -/
theorem Accepted.name_eq (h : Accepted es) (he : e ∈ es) (hname : e.isName = true) :
    (namesOf es).name = e.value := by
  obtain ⟨before, after, rfl⟩ := List.append_of_mem he
  have hnone : before.find? Entry.isName = none := by
    refine List.find?_eq_none.2 (List.any_eq_false.1 (Bool.eq_false_iff.2 fun hany => ?_))
    exact h.not_offends (.repeatedName (h.texts e he) hname hany)
  simp [namesOf, List.find?_append, hnone, hname]

/-- The aliases are those of the entries for them, in their order. -/
theorem Accepted.aliases_eq (h : Accepted es) :
    (namesOf es).aliases.map some = (es.filter Entry.isAlias).map Entry.value := by
  have hsome (as : List Entry) (has : ∀ e ∈ as, e.value.isSome = true) :
      (as.filterMap Entry.value).map some = as.map Entry.value := by
    induction as with
    | nil => rfl
    | cons a as ih =>
      obtain ⟨ha, has⟩ := List.forall_mem_cons.1 has
      obtain ⟨v, hv⟩ := Option.isSome_iff_exists.1 ha
      rw [List.filterMap_cons_some hv, List.map_cons, List.map_cons, ih has, hv]
  exact hsome _ fun e he => h.texts e (List.mem_filter.1 he).1

/-- **A written list of entries is read back.**  It gives names just if every value is the literal of a text,
every key is `name` or `alias`, and `name` is there at most once.  Then the name is the value of the entry for it,
wherever that stands, and there is none without one; and the aliases are the values of the entries for them, in
their order.  Otherwise it is refused for what is wrong with its first entry that offends; a value that is not the
literal of a text is wrong whatever its key. -/
theorem given_names_are_read {s : String} {es : List Entry} (h : ListText (afterOrderMark s.toList) es) :
    ((∃ g, GivenNames.read s = .ok g) ↔ (∀ e ∈ es, e.value.isSome = true)
        ∧ (∀ e ∈ es, e.isName = true ∨ e.isAlias = true) ∧ es.countP Entry.isName ≤ 1)
      ∧ (∀ g, GivenNames.read s = .ok g →
        (∀ e ∈ es, e.isName = true → g.name = e.value) ∧ ((∀ e ∈ es, e.isName = false) → g.name = none)
          ∧ g.aliases.map some = (es.filter Entry.isAlias).map Entry.value)
      ∧ ∀ f, GivenNames.read s = .error f → ∃ before e after r, es = before ++ e :: after ∧ f = .refused r
        ∧ Offends before e r
        ∧ ∀ before' e' after' r', before = before' ++ e' :: after' → ¬ Offends before' e' r' := by
  rw [GivenNames.read_eq h]
  rcases ofEntries_cases es with ⟨hes, heq⟩ | ⟨before, e, after, r, rfl, hbefore, he, heq⟩
  · rw [heq]
    refine ⟨⟨fun _ => ⟨hes.texts, hes.known, hes.once⟩, fun _ => ⟨_, rfl⟩⟩, ?_, nofun⟩
    rintro g hg
    obtain rfl : namesOf es = g := Except.ok.inj hg
    refine ⟨fun e => hes.name_eq, fun hnone => ?_, hes.aliases_eq⟩
    have hfind : es.find? Entry.isName = none := List.find?_eq_none.2 (by simpa using hnone)
    rw [namesOf, hfind, Option.bind_none]
  · rw [heq]
    refine ⟨⟨nofun, ?_⟩, nofun, ?_⟩
    · rintro ⟨htexts, hknown, honce⟩
      exact absurd he (Accepted.not_offends ⟨htexts, hknown, honce⟩)
    · rintro f hf
      obtain rfl : Failure.refused r = f := Except.error.inj hf
      refine ⟨before, e, after, r, rfl, rfl, he, ?_⟩
      rintro before' e' after' r' rfl
      exact hbefore.not_offends

/-- An alias with an escaped quote and a character by its number, the name as a raw string with a quote in it, and
one more alias with a comma behind it. -/
theorem given_names_are_read_spelled :
    ∃ g, GivenNames.read "alias=\"\\\"\\u\x7be9\x7d\",name=r#\"a\"b\"#,alias=\"c\"," = .ok g
      ∧ g.name = some "a\"b" ∧ g.aliases = ["\"é", "c"] := by
  have hescape : Escape ('u' :: '\x7b' :: 'e' :: (['9'] ++ ['\x7d'])) 'é' :=
    .scalar (by decide) ⟨0, by decide⟩ (by decide)
  have hescaped : IsLiteral ('"' :: (('\\' :: (['"']
      ++ '\\' :: ('u' :: '\x7b' :: 'e' :: (['9'] ++ ['\x7d']) ++ []))) ++ '"' :: [])) (some "\"é") :=
    .string (.cooked (.escape .doubleQuote (.escape hescape .nil)) suffix_nil)
  have hraw : IsLiteral ('r' :: (hashMarks 1 ++ '"' :: (['a', '"', 'b'] ++ '"' :: (hashMarks 1 ++ []))))
      (some "a\"b") :=
    .string (.raw (by decide) ⟨by decide, by decide⟩ suffix_nil)
  have hplain : IsLiteral ('"' :: (['c'] ++ '"' :: [])) (some "c") :=
    .string (.cooked (.char (by decide) (by decide) (by decide) .nil) suffix_nil)
  have hlist := (ListText.nil .refl).cons_word (s := "alias") (by decide) (by decide) hplain
  have hlist := hlist.cons_word (s := "name") (by decide) (by decide) hraw
  have hlist := hlist.cons_word (s := "alias") (by decide) (by decide) hescaped
  obtain ⟨haccepted, hnames, -⟩ := given_names_are_read
    (s := "alias=\"\\\"\\u\x7be9\x7d\",name=r#\"a\"b\"#,alias=\"c\",") hlist
  obtain ⟨g, hg⟩ := haccepted.2 (by decide)
  obtain ⟨hname, -, haliases⟩ := hnames g hg
  refine ⟨g, hg, ?_, ?_⟩
  · rw [hname ⟨Source.Parser.pathOf false ["name"], some "a\"b"⟩ (by simp) (by decide)]
  · have hvalues : g.aliases.map some = ["\"é", "c"].map some := haliases.trans (by decide)
    exact (List.map_inj_right fun _ _ => Option.some.inj).1 hvalues

end Registration
end Loadable
