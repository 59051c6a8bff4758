import Mathlib.Data.Rat.Defs
import Mathlib.Tactic.Common

/-!
# JSON values

`Json` is the type of JSON values as a parser hands them to a program: integers and
floating-point numbers apart, objects as lists of members. Floating-point numbers
(`Double`) are exact: a finite one is the rational number it stands for.

`Json.get?` looks a member of an object up. `Json.isFinite` singles out the values that
JSON text can carry: the grammar has no spelling for an infinity or a NaN.
-/

/-- A floating-point number, finite ones as the exact number they stand for. -/
inductive Double
  | finite (value : ℚ)
  | infinite (negative : Bool)
  | nan
  deriving DecidableEq

/-- A JSON value. -/
inductive Json
  | null
  | bool (b : Bool)
  | int (n : ℤ)
  | float (x : Double)
  | str (s : String)
  | arr (elements : List Json)
  | obj (members : List (String × Json))

namespace Double

/-- Neither infinite nor NaN. -/
def isFinite : Double → Bool
  | .finite _ => true
  | .infinite _ => false
  | .nan => false

theorem exists_of_isFinite {x : Double} (h : x.isFinite = true) : ∃ q, x = .finite q := by
  cases x with
  | finite q => exact ⟨q, rfl⟩
  | infinite => exact absurd h Bool.false_ne_true
  | nan => exact absurd h Bool.false_ne_true

instance : Inhabited Double := ⟨.finite 0⟩

end Double

namespace Json

instance : Inhabited Json := ⟨.null⟩

/-! ### Equality is decidable -/

mutual

/-- Equality of JSON values, as a test. -/
def beq : Json → Json → Bool
  | .null, .null => true
  | .bool b, .bool c => b == c
  | .int m, .int n => m == n
  | .float x, .float y => x == y
  | .str s, .str t => s == t
  | .arr l, .arr m => beqList l m
  | .obj l, .obj m => beqMembers l m
  | _, _ => false

/-- Equality of arrays, as a test. -/
def beqList : List Json → List Json → Bool
  | [], [] => true
  | a :: l, b :: m => beq a b && beqList l m
  | _, _ => false

/-- Equality of member lists, as a test. -/
def beqMembers : List (String × Json) → List (String × Json) → Bool
  | [], [] => true
  | (k, a) :: l, (k', b) :: m => k == k' && beq a b && beqMembers l m
  | _, _ => false

end

mutual

theorem beq_iff : ∀ a b : Json, beq a b = true ↔ a = b
  | .null, b => by cases b <;> simp [beq]
  | .bool _, b => by cases b <;> simp [beq]
  | .int _, b => by cases b <;> simp [beq]
  | .float _, b => by cases b <;> simp [beq]
  | .str _, b => by cases b <;> simp [beq]
  | .arr l, b => by cases b <;> simp [beq, beqList_iff l]
  | .obj l, b => by cases b <;> simp [beq, beqMembers_iff l]

theorem beqList_iff : ∀ l m : List Json, beqList l m = true ↔ l = m
  | [], m => by cases m <;> simp [beqList]
  | a :: l, m => by cases m <;> simp [beqList, beq_iff a, beqList_iff l]

theorem beqMembers_iff : ∀ l m : List (String × Json), beqMembers l m = true ↔ l = m
  | [], m => by cases m <;> simp [beqMembers]
  | (k, a) :: l, m => by
    cases m with
    | nil => simp [beqMembers]
    | cons p m =>
      obtain ⟨k', b⟩ := p
      simp [beqMembers, beq_iff a, beqMembers_iff l, and_assoc]

end

instance : DecidableEq Json := fun a b => decidable_of_iff (beq a b = true) (beq_iff a b)

/-! ### Members -/

/-- The member of an object under a key. Nothing else has members. -/
def get? (key : String) : Json → Option Json
  | .obj members => members.lookup key
  | _ => none

/-- A value is an object. -/
def isObj : Json → Bool
  | .obj _ => true
  | _ => false

@[simp] theorem isObj_obj (members : List (String × Json)) : isObj (.obj members) = true := rfl

@[simp] theorem get?_obj_nil (key : String) : get? key (.obj []) = none := rfl

@[simp] theorem get?_obj_cons (key k : String) (v : Json) (l : List (String × Json)) :
    get? key (.obj ((k, v) :: l)) = if key = k then some v else get? key (.obj l) := by
  simp only [get?, List.lookup_cons]
  by_cases h : key = k
  · simp [h]
  · have hb : (key == k) = false := by simpa using h
    simp [hb, h]

/-! ### What JSON text can carry -/

mutual

/-- No infinity and no NaN anywhere in the value. -/
def isFinite : Json → Bool
  | .null => true
  | .bool _ => true
  | .int _ => true
  | .float x => x.isFinite
  | .str _ => true
  | .arr l => isFiniteList l
  | .obj l => isFiniteMembers l

/-- `isFinite` of every element. -/
def isFiniteList : List Json → Bool
  | [] => true
  | a :: l => isFinite a && isFiniteList l

/-- `isFinite` of every member. -/
def isFiniteMembers : List (String × Json) → Bool
  | [] => true
  | (_, a) :: l => isFinite a && isFiniteMembers l

end

end Json
