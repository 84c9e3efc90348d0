/-!
# Stored data

The form in which dimensions, settings and diagnostics are kept between runs and handed to other programs:
numbers, texts, lists and named fields. A structure is stored as named fields, among which fields that it
lacks are passed over; a list of its fields in order is read as well.
-/

set_option autoImplicit false

namespace Circuitry

/-- Data without domain meaning. -/
inductive Stored where
  | null
  | bool (value : Bool)
  /-- The number `mantissa / 10 ^ places`, written with that many fractional digits. -/
  | number (mantissa : Int) (places : Nat)
  | text (value : String)
  | list (items : List Stored)
  | record (fields : List (String × Stored))
  deriving Inhabited

namespace Stored

def ofInt (n : Int) : Stored := .number n 0

def ofNat (n : Nat) : Stored := .ofInt n

/-- A whole number, written without fractional digits. -/
def int? : Stored → Option Int
  | .number n 0 => some n
  | _ => none

/-- A whole number below a limit. -/
def nat? (limit : Nat) (stored : Stored) : Option Nat := do
  let n ← stored.int?
  if 0 ≤ n ∧ n < limit then some n.toNat else none

def text? : Stored → Option String
  | .text value => some value
  | _ => none

def list? : Stored → Option (List Stored)
  | .list items => some items
  | _ => none

/-- The fields of a structure with given names, in that order, each if it is there. A list must give them
all and nothing else. -/
def fields? (names : List String) : Stored → Option (List (Option Stored))
  | .record fields => some (names.map fun name => fields.lookup name)
  | .list items => if items.length = names.length then some (items.map some) else none
  | _ => none

/-- One of several choices by its name: as a text, or as the name of the only field, which is empty. -/
def choice? {α : Type} (choices : List (String × α)) : Stored → Option α
  | .text name => choices.lookup name
  | .record [(name, .null)] => choices.lookup name
  | _ => none

theorem int?_ofInt (n : Int) : (ofInt n).int? = some n := rfl

theorem nat?_ofNat {n limit : Nat} (small : n < limit) : (ofNat n).nat? limit = some n := by
  have : (n : Int) < limit := by omega
  simp [nat?, ofNat, int?_ofInt, this]

theorem list?_list (items : List Stored) : (Stored.list items).list? = some items := rfl

theorem text?_text (value : String) : (Stored.text value).text? = some value := rfl

end Stored

end Circuitry
