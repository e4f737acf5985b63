/-!
# JSON values

A value is the tree that a JSON document spells out. The members of an object are kept as they
are written, in order and with repeated names; `Value.normalize` sorts them by name and keeps the
last of several with one name, at every level.
-/

namespace GatewayTelemetry
namespace Json

/-- A JSON number: an integer of the 64-bit ranges, or a binary64 number. -/
inductive Number where
  | integer (value : Int)
  | float (value : Float)
  deriving Inhabited

inductive Value where
  | null
  | boolean (value : Bool)
  | number (value : Number)
  | string (text : String)
  | array (items : List Value)
  | object (members : List (String × Value))
  deriving Inhabited

/-- Lists of named entries kept in the order of their names, each name once. -/
abbrev Members (α : Type) := List (String × α)

namespace Members

/-- Set the entry of a name, in its place in the order of names. -/
def insert {α : Type} (name : String) (value : α) : Members α → Members α
  | [] => [(name, value)]
  | (other, old) :: rest =>
    if name = other then (name, value) :: rest
    else if name < other then (name, value) :: (other, old) :: rest
    else (other, old) :: insert name value rest

/-- Entries in the order of their names; of several with one name the last counts. -/
def ofList {α : Type} (entries : List (String × α)) : Members α :=
  entries.foldl (fun members entry => insert entry.1 entry.2 members) []

@[simp]
theorem lookup_insert_self {α : Type} (name : String) (value : α) (members : Members α) :
    (insert name value members).lookup name = some value := by
  fun_induction insert name value members with
  | case1 => simp
  | case2 old rest => simp
  | case3 other old rest different before => simp
  | case4 other old rest different notBefore ih =>
    have unequal : (name == other) = false := by simpa using different
    simpa [List.lookup_cons, unequal] using ih

theorem lookup_insert_of_ne {α : Type} {name other : String} (different : other ≠ name)
    (value : α) (members : Members α) :
    (insert name value members).lookup other = members.lookup other := by
  have unequal : (other == name) = false := by simpa using different
  fun_induction insert name value members with
  | case1 => simp [List.lookup_cons, unequal]
  | case2 old rest => simp [List.lookup_cons, unequal]
  | case3 first old rest unlike before => simp [List.lookup_cons, unequal]
  | case4 first old rest unlike notBefore ih => simp only [List.lookup_cons, ih]

end Members

namespace Value

mutual

/-- The value with the members of every object in it sorted by name, the last of several with one
name counting. -/
def normalize : Value → Value
  | .array items => .array (normalizeItems items)
  | .object members => .object (Members.ofList (normalizeMembers members))
  | value => value

def normalizeItems : List Value → List Value
  | [] => []
  | item :: items => item.normalize :: normalizeItems items

def normalizeMembers : List (String × Value) → List (String × Value)
  | [] => []
  | (name, value) :: members => (name, value.normalize) :: normalizeMembers members

end

def text? : Value → Option String
  | .string text => some text
  | _ => none

def member? (name : String) : Value → Option Value
  | .object members => members.lookup name
  | _ => none

def isNull : Value → Bool
  | .null => true
  | _ => false

end Value
end Json
end GatewayTelemetry
