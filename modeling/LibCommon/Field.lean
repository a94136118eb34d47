import Mathlib.Data.List.Basic
/-!
# The `field` package — paths, errors and `%q`

What the webhook validators read of `k8s.io/apimachinery/pkg/util/validation/field`:
a `Path` built by `NewPath` and `Child`, its `String` rendering, and the two error
constructors `Invalid` and `Forbidden`, which attribute an error to the rendered path.
The messages are built with `fmt`'s `%q`, which is `strconv.Quote`; `quote` models it.
-/

namespace LibCommon

namespace Field

/-! ## Paths -/

/-- One element of a `field.Path`: a field `name`, or, where the name is empty,
the subscript `index` of the element before it. -/
structure PathElement where
  name : String
  index : String
  deriving DecidableEq, Repr

/-- A `*field.Path`, root first. The nil pointer is the empty path. -/
structure Path where
  elements : List PathElement
  deriving DecidableEq, Repr

/-- `field.NewPath(name, moreNames...)`. -/
def newPath (name : String) (moreNames : List String) : Path :=
  ⟨(name :: moreNames).map fun n => ⟨n, ""⟩⟩

/-- `(*Path).Child(name)`: a new element hung below the path (also below the nil path,
which it then roots). -/
def Path.child (p : Path) (name : String) : Path :=
  ⟨p.elements ++ [⟨name, ""⟩]⟩

/-- How `(*Path).String` writes one element: a name, after a dot unless it is the root,
and an empty name as its subscript in brackets. -/
def PathElement.render (e : PathElement) (hasParent : Bool) : String :=
  if e.name.isEmpty then "[" ++ e.index ++ "]"
  else if hasParent then "." ++ e.name else e.name

/-- `(*Path).String`; `"<nil>"` for the nil path. -/
def Path.toString : Path → String
  | ⟨[]⟩ => "<nil>"
  | ⟨e :: es⟩ => e.render false ++ String.join (es.map (PathElement.render · true))

@[simp] theorem Path.child_elements (p : Path) (name : String) :
    (p.child name).elements = p.elements ++ [⟨name, ""⟩] := rfl

example : ((newPath "spec" []).child "rabbitMqClusterName").toString = "spec.rabbitMqClusterName" := by
  decide

/-! ## Errors -/

/-- The `field.ErrorType`s the validators raise: `FieldValueInvalid` and
`FieldValueForbidden`. -/
inductive ErrorType where
  | invalid
  | forbidden
  deriving DecidableEq, Repr

/-- A `*field.Error`. `BadValue` is an `interface{}` in Go; every error built here carries
a string in it. -/
structure Error where
  type : ErrorType
  field : String
  badValue : String
  detail : String
  deriving DecidableEq, Repr

/-- `field.ErrorList`. -/
abbrev ErrorList := List Error

/-- `field.Invalid(field, value, detail)`. -/
def invalid (field : Path) (value : String) (detail : String) : Error :=
  ⟨.invalid, field.toString, value, detail⟩

/-- `field.Forbidden(field, detail)`: its bad value is `""`. -/
def forbidden (field : Path) (detail : String) : Error :=
  ⟨.forbidden, field.toString, "", detail⟩

/-- The kind of an error and the field it is attributed to: what the validators decide,
as opposed to the message. -/
def Error.kindAt (e : Error) : ErrorType × String := (e.type, e.field)

@[simp] theorem invalid_kindAt (field : Path) (value detail : String) :
    (invalid field value detail).kindAt = (.invalid, field.toString) := rfl

@[simp] theorem forbidden_kindAt (field : Path) (detail : String) :
    (forbidden field detail).kindAt = (.forbidden, field.toString) := rfl

end Field

/-! ## `%q` -/

/-- The lower-case hex digit of a nibble. -/
def hexDigit (n : Nat) : Char :=
  if n < 10 then Char.ofNat (48 + n) else Char.ofNat (87 + n)

/-- `strconv.IsPrint` (which agrees with `unicode.IsPrint`), exactly on Latin-1: ASCII from
the space to the tilde, and U+00A1 to U+00FF but the soft hyphen. Above U+00FF strconv's
tables are not modelled and every rune is taken as printable, so `%q` of a text holding an
unprintable rune there, such as U+200B, is not the one Go writes. -/
def isPrint (c : Char) : Bool :=
  if c.toNat < 256 then (32 ≤ c.toNat ∧ c.toNat < 127) ∨ (161 ≤ c.toNat ∧ c.toNat ≠ 173)
  else true

/-- `strconv`'s `appendEscapedRune` for a double-quoted string. -/
def quoteRune (c : Char) : String :=
  if c = '"' ∨ c = '\\' then "\\" ++ c.toString
  else if isPrint c then c.toString
  else match c.toNat with
    | 7 => "\\a" | 8 => "\\b" | 12 => "\\f" | 10 => "\\n"
    | 13 => "\\r" | 9 => "\\t" | 11 => "\\v"
    | n =>
      if n < 128 then "\\x" ++ (hexDigit (n / 16)).toString ++ (hexDigit (n % 16)).toString
      else if n < 65536 then
        "\\u" ++ String.mk ([12, 8, 4, 0].map fun s => hexDigit (n >>> s &&& 15))
      else "\\U" ++ String.mk ([28, 24, 20, 16, 12, 8, 4, 0].map fun s => hexDigit (n >>> s &&& 15))

/-- `strconv.Quote`, which the `%q` verb writes for a string. -/
def quote (s : String) : String :=
  "\"" ++ String.join (s.toList.map quoteRune) ++ "\""

example : quote "spec.a\"b" = "\"spec.a\\\"b\"" := by decide

example : quote "a\u00a0b" = "\"a\\u00a0b\"" := by decide

end LibCommon
