import Mathlib.Data.Option.Basic

/-!
# Properties of objects

An object is a record of properties. A property may be missing; one that is there may hold
`undefined`, and it may be hidden from what enumerates the object.

* `json_given` : a property of a literal survives `JSON.stringify` and `JSON.parse`.
* `isIn_of_get?` : what is read is there.
-/

namespace Infra

/-- A property of an object. -/
inductive Property (α : Type) where
  | missing
  /-- No value is `undefined`. -/
  | own (value : Option α) (enumerable : Bool)
deriving DecidableEq, Repr

namespace Property

variable {α : Type}

/-- A property of an object literal. -/
def literal (value : α) : Property α := own (some value) true

/-- `...(condition ? { name: value } : {})` in an object literal. -/
def given : Option α → Property α
  | some value => literal value
  | none => missing

/-- A property by `Object.defineProperties` with `enumerable: false`. -/
def hidden (value : α) : Property α := own (some value) false

/-- `'name' in object`. -/
def isIn : Property α → Bool
  | missing => false
  | own _ _ => true

/-- `object.name`. -/
def get? : Property α → Option α
  | missing => none
  | own value _ => value

/-- What `{ ...object }` has of the property. -/
def spread : Property α → Property α
  | own value true => own value true
  | _ => missing

/-- What `JSON.parse(JSON.stringify(object))` has of the property. -/
def json : Property α → Property α
  | own (some value) true => own (some value) true
  | _ => missing

variable {value : α} {given? : Option α} {p : Property α}

@[simp] theorem get?_literal : (literal value).get? = some value := rfl

@[simp] theorem get?_hidden : (hidden value).get? = some value := rfl

@[simp] theorem get?_given : (given given?).get? = given? := by
  cases given? with
  | none => rfl
  | some value => rfl

@[simp] theorem spread_literal : (literal value).spread = literal value := rfl

@[simp] theorem json_given : (given given?).json = given given? := by
  cases given? with
  | none => rfl
  | some value => rfl

/-- What is read is there. -/
theorem isIn_of_get? (h : p.get? = some value) : p.isIn = true := by
  cases p with
  | missing => cases h
  | own value' enumerable => rfl

end Property

end Infra
