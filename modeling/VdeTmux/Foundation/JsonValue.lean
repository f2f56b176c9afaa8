import Mathlib.Tactic.Common

/-!
# JSON values

Values as `serde_json` holds them, and the accessors its users read them with. An object is the
list of its members in the order of the map, a float the text it is printed as.
-/

namespace Foundation.Json

inductive Number where
  | posInt (n : ℕ)
  | negInt (n : ℕ)
  | float (printed : String)
  deriving DecidableEq, Repr

inductive Value where
  | null
  | bool (b : Bool)
  | number (n : Number)
  | string (s : String)
  | array (items : List Value)
  | object (members : List (String × Value))

namespace Value

mutual

def same : Value → Value → Bool
  | null, null => true
  | bool a, bool b => a = b
  | number a, number b => a = b
  | string a, string b => a = b
  | array a, array b => sameItems a b
  | object a, object b => sameMembers a b
  | _, _ => false

def sameItems : List Value → List Value → Bool
  | [], [] => true
  | a :: as, b :: bs => same a b && sameItems as bs
  | _, _ => false

def sameMembers : List (String × Value) → List (String × Value) → Bool
  | [], [] => true
  | (k, a) :: as, (l, b) :: bs => decide (k = l) && same a b && sameMembers as bs
  | _, _ => false

end

mutual

theorem same_iff : ∀ a b : Value, same a b = true ↔ a = b
  | null, b => by cases b <;> simp [same]
  | bool _, b => by cases b <;> simp [same]
  | number _, b => by cases b <;> simp [same]
  | string _, b => by cases b <;> simp [same]
  | array as, b => by
    cases b with
    | array bs => simp [same, sameItems_iff as bs]
    | _ => simp [same]
  | object as, b => by
    cases b with
    | object bs => simp [same, sameMembers_iff as bs]
    | _ => simp [same]

theorem sameItems_iff : ∀ as bs : List Value, sameItems as bs = true ↔ as = bs
  | [], bs => by cases bs <;> simp [sameItems]
  | a :: as, bs => by
    cases bs with
    | nil => simp [sameItems]
    | cons b bs => simp [sameItems, same_iff a b, sameItems_iff as bs]

theorem sameMembers_iff : ∀ as bs : List (String × Value), sameMembers as bs = true ↔ as = bs
  | [], bs => by cases bs <;> simp [sameMembers]
  | (k, a) :: as, bs => by
    cases bs with
    | nil => simp [sameMembers]
    | cons b bs =>
      obtain ⟨l, b⟩ := b
      simp [sameMembers, same_iff a b, sameMembers_iff as bs, and_assoc]

end

instance : DecidableEq Value := fun a b => decidable_of_iff (same a b = true) (same_iff a b)

def get (key : String) : Value → Option Value
  | object members => (members.find? fun m => m.1 = key).map (·.2)
  | _ => none

def asStr : Value → Option String
  | string s => some s
  | _ => none

def asBool : Value → Option Bool
  | bool b => some b
  | _ => none

def asArray : Value → Option (List Value)
  | array items => some items
  | _ => none

def asU64 : Value → Option ℕ
  | number (.posInt n) => some n
  | _ => none

def isNull : Value → Bool
  | null => true
  | _ => false

def isObject : Value → Bool
  | object _ => true
  | _ => false

def strField (value : Value) (key : String) : Option String := (value.get key).bind asStr

def flag (value : Value) (key : String) : Bool := (value.get key).bind asBool = some true

example : (object [("type", string "user"), ("isMeta", bool true)]).strField "type" = some "user" := by
  decide

end Value

/-- Reading and printing values, as the crate does it. -/
class SerdeJson where
  fromStr : String → Option Value
  print : Value → String

end Foundation.Json
