/-
# Settings of a call context

What a function tells the server about its result.  The server reads them once `init` has returned.
-/

namespace Loadable

/-- The settings of one call context. -/
structure Settings where
  /-- Whether the result may be NULL. -/
  maybeNull : Bool
  /-- The number of places of a real result. -/
  decimals : UInt32
  /-- The greatest length of a string result. -/
  maxLength : UInt64
  /-- Whether the result is the same for the whole statement. -/
  isConst : Bool
  deriving DecidableEq, Repr, Inhabited

namespace Settings

/-- All settings off or zero. -/
def empty : Settings := ⟨false, 0, 0, false⟩

/-- A setting with a value for it. -/
inductive Change where
  | maybeNull (v : Bool)
  | decimals (v : UInt32)
  | maxLength (v : UInt64)
  | isConst (v : Bool)
  deriving DecidableEq, Repr

/-- Give one setting its value. -/
def set (s : Settings) : Change → Settings
  | .maybeNull v => { s with maybeNull := v }
  | .decimals v => { s with decimals := v }
  | .maxLength v => { s with maxLength := v }
  | .isConst v => { s with isConst := v }

/-- A function gives its greatest length with 32 bits. -/
def setMaxLength (s : Settings) (v : UInt32) : Settings := s.set (.maxLength v.toUInt64)

/-- The settings as messages show them. -/
def text (s : Settings) : String :=
  "UdfCfg \x7b maybe_null: " ++ toString s.maybeNull ++ ", decimals: " ++ toString s.decimals.toNat
    ++ ", max_len: " ++ toString s.maxLength.toNat ++ ", is_const: " ++ toString s.isConst
    ++ " \x7d"

end Settings
end Loadable
