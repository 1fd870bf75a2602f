/-
# Addresses in their recommended form

An address is written as a literal that denotes it (`Address.literal_writeChars`): the groups that `::` is put
for are zeros among the others (`Address.among_zeros`), and the others are numbers with no zeros in front.  What
is written is ASCII, as all literals are, and has at most 39 characters (`Address.length_writeChars_le`).  So
`lookup6`, which writes what it reads, turns every literal into the recommended form of its address, and leaves
that form as it is (`Session.literals_are_normalised`).
-/

import Loadable.Functions.Lookup
import Loadable.Proofs.AddressLiterals
import Loadable.Proofs.ArgumentTypes
import Loadable.Proofs.Messages
import Loadable.Proofs.Outputs
import Loadable.Proofs.Renewal

namespace Loadable
namespace Address

open Decimal (natDigits)

variable {cs : List Char} {gs : List UInt16} {a b : Address} {decimal : Bool}

/-! ### What literals are -/

/-- A literal denotes one address. -/
theorem Literal.unique (ha : Literal cs a) (hb : Literal cs b) : a = b := by
  have hread : ∀ c, Literal cs c → read? (String.ofList cs) = some c := fun c hc =>
    read?_eq_some_iff.2 (by rwa [String.toList_ofList])
  exact Option.some.inj ((hread a ha).symm.trans (hread b hb))

/-- A digit is an ASCII character. -/
theorem toNat_of_isDigit {base : ℕ} {c : Char} (h : isDigit base c = true) : c.toNat < 128 := by
  by_contra hc
  obtain ⟨d, -, hd⟩ := isDigit_eq_true_iff.1 h
  rw [digit?_eq_none (Nat.not_lt.1 hc)] at hd
  cases hd

/-- A text of ASCII characters. -/
def Ascii (cs : List Char) : Prop := ∀ c ∈ cs, c.toNat < 128

theorem Ascii.append {ds : List Char} (hcs : Ascii cs) (hds : Ascii ds) : Ascii (cs ++ ds) :=
  List.forall_mem_append.2 ⟨hcs, hds⟩

theorem Ascii.cons {c : Char} (hc : c.toNat < 128) (hcs : Ascii cs) : Ascii (c :: cs) :=
  List.forall_mem_cons.2 ⟨hc, hcs⟩

theorem IsGroup.ascii {g : UInt16} (h : IsGroup cs g) : Ascii cs :=
  fun c hc => toNat_of_isDigit (h.digits.all c hc)

theorem ascii_dotted (a b c d : ℕ) : Ascii (dotted a b c d) := by
  have hdigits (n : ℕ) : Ascii (natDigits n) := fun c hc => toNat_of_isDigit ((digits_natDigits n).all c hc)
  have hpoint : '.'.toNat < 128 := by decide
  exact (hdigits a).append (.cons hpoint ((hdigits b).append (.cons hpoint ((hdigits c).append
    (.cons hpoint (hdigits d))))))

theorem Groups.ascii (h : Groups decimal cs gs) : Ascii cs := by
  induction h with
  | last hg => exact hg.ascii
  | decimal => exact ascii_dotted _ _ _ _
  | cons hg _ ih => exact hg.ascii.append (.cons (by decide) ih)

theorem Side.ascii (h : Side decimal cs gs) : Ascii cs := by
  cases h with
  | none => exact nofun
  | some h => exact h.ascii

/-- A literal is ASCII. -/
theorem Literal.ascii (h : Literal cs a) : Ascii cs := by
  cases h with
  | dotted => exact ascii_dotted _ _ _ _
  | grouped h =>
    cases h with
    | full h => exact h.ascii
    | short hhead htail _ _ => exact hhead.ascii.append (.cons (by decide) (.cons (by decide) htail.ascii))

/-- ASCII has one byte for each character. -/
theorem Ascii.length_encode (h : Ascii cs) : (Utf8.encode (String.ofList cs)).length = cs.length := by
  rw [Utf8.encode, String.toList_ofList]
  induction cs with
  | nil => rfl
  | cons c cs ih =>
    obtain ⟨hc, hcs⟩ := List.forall_mem_cons.1 h
    have hone : c.utf8Size = 1 := by
      rw [Char.utf8Size_eq_one_iff, UInt32.le_iff_toNat_le]
      exact Nat.le_of_lt_succ hc
    rw [List.flatMap_cons, List.length_append, String.length_utf8EncodeChar, hone, ih hcs, List.length_cons,
      Nat.add_comm]

/-! ### Runs of zeros -/

/-- A run of zero groups that lies among groups. -/
def Zeros.Among (run : Zeros) (gs : List UInt16) : Prop :=
  ∃ before after, gs = before ++ List.replicate run.length 0 ++ after ∧ before.length = run.start

/-- A run of zero groups with which groups end, if there is any. -/
def Zeros.AtEnd (run : Zeros) (gs : List UInt16) : Prop :=
  ∃ before, gs = before ++ List.replicate run.length 0 ∧ (run.length ≠ 0 → before.length = run.start)

variable {run : Zeros}

theorem Zeros.Among.append (h : run.Among gs) (more : List UInt16) : run.Among (gs ++ more) := by
  obtain ⟨before, after, rfl, hstart⟩ := h
  exact ⟨before, after ++ more, List.append_assoc .., hstart⟩

theorem Zeros.AtEnd.among (h : run.AtEnd gs) (hrun : run.length ≠ 0) : run.Among gs := by
  obtain ⟨before, hgs, hstart⟩ := h
  exact ⟨before, [], by rw [hgs, List.append_nil], hstart hrun⟩

/-- The groups are those before the run, its zeros and those behind it. -/
theorem Zeros.Among.eq_append (h : run.Among gs) :
    gs = gs.take run.start ++ List.replicate run.length 0 ++ gs.drop (run.start + run.length) := by
  obtain ⟨before, after, rfl, hstart⟩ := h
  rw [List.drop_left' (by rw [List.length_append, List.length_replicate, hstart]), List.append_assoc,
    List.take_left' hstart, List.append_assoc]

theorem Zeros.Among.length_eq (h : run.Among gs) : gs.length
    = (gs.take run.start).length + run.length + (gs.drop (run.start + run.length)).length := by
  conv_lhs => rw [h.eq_append]
  rw [List.length_append, List.length_append, List.length_replicate]

/-- A further zero is the first of a run, or makes the run before it longer. -/
theorem Zeros.AtEnd.snoc (h : run.AtEnd gs) :
    (if run.length = 0 then (⟨gs.length, 1⟩ : Zeros) else ⟨run.start, run.length + 1⟩).AtEnd
      (gs ++ [0]) := by
  obtain ⟨before, rfl, hstart⟩ := h
  split
  case isTrue hrun => exact ⟨_, rfl, fun _ => rfl⟩
  case isFalse hrun =>
    refine ⟨before, ?_, fun _ => hstart hrun⟩
    rw [List.append_assoc, List.replicate_succ']

/-- What is found is a run of zeros, if what is kept of the groups `done` before is. -/
theorem among_zerosFrom {done : List UInt16} {current longest : Zeros} (hcurrent : current.AtEnd done)
    (hlongest : longest.Among done) (gs : List UInt16) :
    (zerosFrom done.length current longest gs).Among (done ++ gs) := by
  induction gs generalizing done current longest with
  | nil =>
    rw [List.append_nil]
    exact hlongest
  | cons g gs ih =>
    have hnext := @ih (done ++ [g])
    rw [List.length_append, List.length_singleton, List.append_assoc, List.singleton_append] at hnext
    rw [zerosFrom]
    split
    case isTrue hg =>
      subst hg
      have hmore := hcurrent.snoc
      dsimp only
      generalize (if current.length = 0 then (⟨done.length, 1⟩ : Zeros)
        else ⟨current.start, current.length + 1⟩) = run at hmore ⊢
      refine hnext hmore ?_
      split
      case isTrue hlonger => exact hmore.among (Nat.ne_of_gt (Nat.zero_lt_of_lt hlonger))
      case isFalse => exact hlongest.append _
    case isFalse => exact hnext ⟨_, (List.append_nil _).symm, fun h => absurd rfl h⟩ (hlongest.append _)

/-- **What `::` is put for** are zeros among the groups. -/
theorem among_zeros (gs : List UInt16) : (zeros gs).Among gs :=
  @among_zerosFrom [] _ _ ⟨[], rfl, fun h => absurd rfl h⟩ ⟨[], [], rfl, rfl⟩ gs

/-! ### The form -/

theorem isGroup_toDigits (g : UInt16) : IsGroup (Nat.toDigits 16 g.toNat) g where
  numeral := numeral_toDigits (by decide) (by decide) _
  length := (Nat.length_toDigits_le_iff (by decide) (by decide)).2 g.toNat_lt

theorem groupsText_cons (g : UInt16) (hgs : gs ≠ []) :
    groupsText (g :: gs) = Nat.toDigits 16 g.toNat ++ ':' :: groupsText gs := by
  obtain ⟨h, hs, rfl⟩ := List.exists_cons_of_ne_nil hgs
  simp [groupsText, List.intercalate_cons_cons]

/-- Groups are written as such. -/
theorem groups_groupsText (hgs : gs ≠ []) : Groups false (groupsText gs) gs := by
  induction gs with
  | nil => exact absurd rfl hgs
  | cons g gs ih =>
    by_cases hlast : gs = []
    · subst hlast
      rw [groupsText, List.map_singleton, List.intercalate_singleton]
      exact .last (isGroup_toDigits g)
    · rw [groupsText_cons g hlast]
      exact .cons (isGroup_toDigits g) (ih hlast)

theorem side_groupsText (gs : List UInt16) : Side false (groupsText gs) gs := by
  by_cases hgs : gs = []
  · subst hgs
    exact .none
  · exact .some (groups_groupsText hgs)

/-- Each group takes four digits at most, and a colon but for the last. -/
theorem length_groupsText_le (gs : List UInt16) : (groupsText gs).length ≤ 5 * gs.length - 1 := by
  induction gs with
  | nil => exact Nat.le_refl 0
  | cons g gs ih =>
    have hg := (isGroup_toDigits g).length
    by_cases hlast : gs = []
    · subst hlast
      rw [groupsText, List.map_singleton, List.intercalate_singleton]
      exact hg
    · have hpos := List.length_pos_iff.2 hlast
      rw [groupsText_cons g hlast, List.length_append, List.length_cons, List.length_cons]
      omega

/-- Each of four decimal numbers takes three digits at most. -/
theorem length_dotted_le {a b c d : ℕ} (ha : a < 256) (hb : b < 256) (hc : c < 256) (hd : d < 256) :
    (dotted a b c d).length ≤ 15 := by
  have hdigits : ∀ n < 256, (natDigits n).length ≤ 3 := by decide +kernel
  have hlengths : (dotted a b c d).length
      = (natDigits a).length + (natDigits b).length + (natDigits c).length + (natDigits d).length + 3 := by
    simp only [dotted, List.length_append, List.length_cons]
    omega
  have hab := Nat.add_le_add (hdigits a ha) (hdigits b hb)
  have hcd := Nat.add_le_add (hdigits c hc) (hdigits d hd)
  omega

/-- The literal `::ffff:a.b.c.d` denotes what `a.b.c.d` does. -/
theorem literal_mapped {a b c d : ℕ} (ha : a < 256) (hb : b < 256) (hc : c < 256) (hd : d < 256) :
    Literal ("::ffff:".toList ++ dotted a b c d) (mapped (.ofNat (256 * a + b)) (.ofNat (256 * c + d))) := by
  have hffff : IsGroup "ffff".toList 0xFFFF := isGroup_toDigits 0xFFFF
  exact .grouped (.short .none (.some (.cons hffff (.decimal ha hb hc hd))) (by simp) rfl)

theorem ofNat_bytes (g : UInt16) : UInt16.ofNat (256 * (g.toNat / 256) + g.toNat % 256) = g := by
  rw [Nat.div_add_mod, UInt16.ofNat_toNat]

theorem quadText_eq (g h : UInt16) :
    quadText g h = dotted (g.toNat / 256) (g.toNat % 256) (h.toNat / 256) (h.toNat % 256) := by
  simp [quadText, dotted, List.intercalate_cons_cons]

theorem byte_lt (g : UInt16) : g.toNat / 256 < 256 ∧ g.toNat % 256 < 256 := by
  have hg := g.toNat_lt
  omega

/-- **An address is written as a literal** that denotes it. -/
theorem literal_writeChars (a : Address) : Literal a.writeChars a := by
  obtain ⟨gs, h⟩ := a
  unfold writeChars
  split
  case h_1 g h' hgs =>
    dsimp only at hgs
    subst hgs
    have hmapped := literal_mapped (byte_lt g).1 (byte_lt g).2 (byte_lt h').1 (byte_lt h').2
    rw [ofNat_bytes, ofNat_bytes, ← quadText_eq] at hmapped
    exact hmapped
  case h_2 =>
    dsimp only at h ⊢
    split
    case isTrue hrun =>
      have hamong := among_zeros gs
      have hlength := hamong.length_eq
      rw [List.append_assoc]
      refine .grouped (.short (side_groupsText (gs.take (zeros gs).start))
        (side_groupsText (gs.drop ((zeros gs).start + (zeros gs).length))) (by omega) ?_)
      rw [show 8 - (gs.take (zeros gs).start).length - (gs.drop ((zeros gs).start + (zeros gs).length)).length
        = (zeros gs).length by omega]
      exact hamong.eq_append
    case isFalse =>
      refine .grouped (.full (groups_groupsText ?_))
      rintro rfl
      cases h

/-- **What is written is read** as the address that was written. -/
theorem read?_write (a : Address) : read? a.write = some a :=
  read?_eq_some_iff.2 (by rw [write, String.toList_ofList]; exact a.literal_writeChars)

/-- The longest form is of eight groups of four digits. -/
theorem length_writeChars_le (a : Address) : a.writeChars.length ≤ 39 := by
  obtain ⟨gs, h⟩ := a
  unfold writeChars
  split
  case h_1 g h' _ =>
    have hdotted := length_dotted_le (byte_lt g).1 (byte_lt g).2 (byte_lt h').1 (byte_lt h').2
    rw [quadText_eq, List.length_append]
    exact (Nat.add_le_add_left hdotted 7).trans (by decide)
  case h_2 =>
    dsimp only
    split
    case isTrue hrun =>
      have hlength := (among_zeros gs).length_eq
      have hbefore := length_groupsText_le (gs.take (zeros gs).start)
      have hafter := length_groupsText_le (gs.drop ((zeros gs).start + (zeros gs).length))
      rw [List.length_append, List.length_append, List.length_cons, List.length_singleton]
      omega
    case isFalse =>
      have hgs := length_groupsText_le gs
      omega

/-- The recommended form is the same for no two addresses. -/
theorem write_inj : a.write = b.write ↔ a = b := by
  refine ⟨fun h => ?_, congrArg write⟩
  have hread := a.read?_write
  rw [h, b.read?_write] at hread
  exact (Option.some.inj hread).symm

/-- It has at most 39 bytes. -/
theorem length_encode_write_le (a : Address) : (Utf8.encode a.write).length ≤ 39 := by
  rw [write, a.literal_writeChars.ascii.length_encode]
  exact a.length_writeChars_le

end Address

namespace Functions

/-- A literal needs no lookup. -/
theorem resolve?_literal (resolver : Resolver) {s : String} {a : Address} (ha : Address.Literal s.toList a) :
    resolve? resolver s = some a := by
  rw [resolve?, Address.read?_eq_some_iff.2 ha, Option.some_or]

theorem process_lookup6 (resolver : Resolver) {args : List Argument} {s : String} {a : Address}
    (hs : Argument.textAt? args 0 = some s) (ha : Address.Literal s.toList a) (x : Unit) (settings : Settings)
    (error : Option Code) :
    ((lookup6 resolver).process x settings args error).outcome = .ok (some (Utf8.encode a.write)) := by
  dsimp only [lookup6]
  rw [hs, Option.bind_some, resolve?_literal resolver ha]
  rfl

/-- `init` takes one text, asks for nothing and announces the greatest length. -/
theorem init_lookup6 (resolver : Resolver) (p : Preparation) {item : Sample}
    (hitem : item.value.type = .string) :
    (lookup6 resolver).init p [item.place]
      = ⟨{ p with settings := p.settings.setMaxLength addressLength }, .ok (), []⟩ := by
  dsimp only [lookup6]
  rw [if_neg]
  rw [Sample.value_place, Datum.type_toValue, hitem]
  exact fun h => h rfl

end Functions

/-- The text that a value is cast to, unless it is NULL. -/
def Datum.asText? (d : Datum) : Option String := (d.convert .string).toValue.toText?

theorem Datum.asText?_string (s : String) : (Datum.string (some s)).asText? = some s := Utf8.decode?_encode s

namespace Session

open Functions

/-- **Literals are normalised,** whatever the resolver of names.  A new session of `lookup6` begins a
statement with one argument, which is a text, and announces 39 bytes.  After any operations but the end of the
statement, each row that is cast to a literal comes to the recommended form of its address: a text of at most
39 bytes, which is a literal of the same address and comes to itself.  Two literals come to the same text
exactly if they denote the same address. -/
theorem literals_are_normalised (resolver : Resolver) {u : Session Unit} (hu : u.routine = lookup6 resolver)
    (hnew : u.initialized = false)
    (hsymbol : u.symbols.init.isSome = true) {item : Sample} (hitem : item.value.type = .string) :
    (u.init [item]).result = .ok ()
      ∧ (u.init [item]).session.context.settings.maxLength = 39
      ∧ ∀ ops : List Operation, (∀ op ∈ ops, op ≠ .deinit) →
        let t := (u.init [item]).session.performAll ops
        (∀ d s a, d.asText? = some s → Address.Literal s.toList a →
            (t.process [d]).result = .ok (.bytes (Utf8.encode a.write))
              ∧ (Utf8.encode a.write).length ≤ 39
              ∧ Address.Literal a.write.toList a
              ∧ (t.process [.string (some a.write)]).result = .ok (.bytes (Utf8.encode a.write)))
          ∧ ∀ d s a d' s' a', d.asText? = some s → Address.Literal s.toList a →
            d'.asText? = some s' → Address.Literal s'.toList a' →
              ((t.process [d]).result = (t.process [d']).result ↔ a = a') := by
  have hinit : (u.init [item]).result = .ok () := by
    rw [ok_init_iff hnew hsymbol, hu]
    exact ⟨(), congrArg Run.outcome (init_lookup6 resolver _ hitem)⟩
  obtain ⟨hmessage, hcontext, htypes⟩ := u.init_own hsymbol hinit
  rw [hu] at hmessage hcontext htypes
  refine ⟨hinit, ?_, fun ops hops => ?_⟩
  · rw [hcontext, Context.settings_of_init _ _ _ hmessage]
    exact congrArg (fun run => run.state.settings.maxLength) (init_lookup6 resolver _ hitem)
  intro t
  have hkept : Kept (u.init [item]).session t := kept_performAll _ (u.initialized_init hinit) hops
  have hroutine : t.routine = lookup6 resolver :=
    hkept.routine.trans ((u.routine_performAll [.init [item]]).trans hu)
  have hstate : t.hasState = true := by
    rw [hkept.hasState, hasState, hcontext, Context.hasState_init, hmessage]
    rfl
  obtain ⟨cell, hcell⟩ := Option.isSome_iff_exists.1 hstate
  have htext : t.types = [.string] := by
    have hwishes : ((lookup6 resolver).init (u.context.preparation (lookup6 resolver) [item.place])
        [item.place]).state.wishes = [none] :=
      congrArg (fun run => run.state.wishes) (init_lookup6 resolver _ hitem)
    rw [hkept.types, htypes, Context.args_init hmessage, typesOf_grant]
    simp only [List.map_singleton, hwishes]
    exact congrArg (fun type => [type]) hitem
  have hlen : t.items.length = t.types.length := hkept.length_items (fits_init hinit)
  have hrow (d : Datum) (s : String) (a : Address) (hd : d.asText? = some s)
      (ha : Address.Literal s.toList a) :
      (t.process [d]).result = .ok (.bytes (Utf8.encode a.write)) := by
    have haccepts : t.accepts [d] = true := by
      rw [accepts_of_kept _ hkept]
      exact (u.accepts_init hinit).2 rfl
    have hread : Argument.textAt? (t.laidOut [d]) 0 = some s := by
      rw [Argument.textAt?, bind_laidOut (by rw [htext]; rfl) hlen, htext]
      exact hd
    rw [process_of_cell hroutine haccepts hcell, process_lookup6 resolver hread ha]
    rfl
  refine ⟨fun d s a hd ha => ?_, ?_⟩
  · have hform := Address.read?_eq_some_iff.1 a.read?_write
    exact ⟨hrow d s a hd ha, a.length_encode_write_le, hform,
      hrow _ a.write a (Datum.asText?_string _) hform⟩
  · intro d s a d' s' a' hd ha hd' ha'
    rw [hrow d s a hd ha, hrow d' s' a' hd' ha', ← Address.write_inj, ← Utf8.encode_inj]
    simp

/-- The decimal form of an address and its longest form in capital letters come to the same text, and one with
zeros in front to the short form.  The resolver knows one name. -/
theorem literals_are_normalised_mapped :
    let resolver : Resolver := fun host => if host = "localhost" then some [.short 0x7F00 1] else none
    let symbols : Symbols Unit :=
      ⟨"lookup6", false, some (), some (), some ⟨.string, ()⟩, none, none, none⟩
    let u : Session Unit := ⟨lookup6 resolver, none, symbols, .fresh, [], [], [], false, .clear⟩
    let t := (u.init [⟨.string none, "host", true⟩]).session.performAll [.process [.string none]]
    (t.process [.string (some "127.0.0.1")]).result
        = (t.process [.string (some "0:0:0:0:0:FFFF:7F00:0001")]).result
      ∧ (t.process [.string (some "2001:0db8:0:0:0::0001")]).result
        = .ok (.bytes (Utf8.encode "2001:db8::1")) := by
  intro resolver symbols u t
  have hitem : (⟨.string none, "host", true⟩ : Sample).value.type = .string := rfl
  obtain ⟨-, -, hlater⟩ := literals_are_normalised resolver (u := u) rfl rfl rfl hitem
  obtain ⟨hform, hsame⟩ := hlater [.process [.string none]] (by simp)
  have hdecimal : Address.read? "127.0.0.1" = some (.mapped 0x7F00 1) := by decide +kernel
  have hlong : Address.read? "0:0:0:0:0:FFFF:7F00:0001" = some (.mapped 0x7F00 1) := by decide +kernel
  have hzeros : Address.read? "2001:0db8:0:0:0::0001"
      = some ⟨[0x2001, 0xDB8, 0, 0, 0, 0, 0, 1], rfl⟩ := by decide +kernel
  refine ⟨(hsame _ _ _ _ _ _ (Datum.asText?_string _) (Address.read?_eq_some_iff.1 hdecimal)
    (Datum.asText?_string _) (Address.read?_eq_some_iff.1 hlong)).2 rfl, ?_⟩
  have hwrite : Address.write ⟨[0x2001, 0xDB8, 0, 0, 0, 0, 0, 1], rfl⟩ = "2001:db8::1" := by decide +kernel
  rw [← hwrite]
  exact (hform _ _ _ (Datum.asText?_string _) (Address.read?_eq_some_iff.1 hzeros)).1

end Session
end Loadable
