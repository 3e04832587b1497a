import Templating.Value.Basic

/-!
# Equality of values

Values are equal when they contain the same: lists element by element, maps by
key whatever their order, modules by name, exports and body.  A whole number
equals a floating point number of the same size.  Loops and host objects are
equal only to the same instance, and an undefined marker only to a marker of
the same name.
-/
namespace Templating
namespace Value

mutual

/-- Whether two values are equal. -/
def equals : Value → Value → Bool
  | undefined a, undefined b => a == b
  | null, null => true
  | bool a, bool b => a == b
  | int a, int b => a == b
  | float a, float b => a == b
  | int a, float b => Float.ofInt a == b
  | float a, int b => Float.ofInt b == a
  | text a, text b => a == b
  | markup a, markup b => a == b
  | list as, list bs => equalItems as bs
  | map ⟨names, _, as⟩, map bs => names.length == bs.size && equalEntries as bs
  | loop a _, loop b _ => a == b
  | module name ⟨names, _, as⟩ body, module name' bs body' =>
    name == name' && (names.length == bs.size && equalEntries as bs) && body == body'
  | object a _ _ _ _, object b _ _ _ _ => a == b
  | _, _ => false

/-- Whether two sequences are equal element by element. -/
def equalItems : List Value → List Value → Bool
  | [], [] => true
  | a :: as, b :: bs => equals a b && equalItems as bs
  | _, _ => false

/-- Whether a table has an equal entry for each of the given ones. -/
def equalEntries : {names : List String} → Table.Row Value names → Table Value → Bool
  | [], .nil, _ => true
  | key :: _, .cons a rest, bs =>
    (match bs.get? key with
      | some b => equals a b
      | none => false) && equalEntries rest bs

end

/-- Whether two tables have equal entries under the same keys. -/
def equalTables (a b : Table Value) : Bool :=
  a.size == b.size && equalEntries a.row b

/-! ## Values of one kind -/

theorem equals_undefined (a b : String) : (undefined a).equals (undefined b) = (a == b) := rfl

theorem equals_list (as bs : List Value) : (list as).equals (list bs) = equalItems as bs := rfl

theorem equals_map (as bs : Table Value) : (map as).equals (map bs) = equalTables as bs := by
  obtain ⟨_, _, _⟩ := as
  rfl

theorem equals_module (name name' body body' : String) (as bs : Table Value) :
    (module name as body).equals (module name' bs body') =
      (name == name' && equalTables as bs && body == body') := by
  obtain ⟨_, _, _⟩ := as
  rfl

theorem equals_loop (id id' : InstanceId) (context context' : LoopContext) :
    (loop id context).equals (loop id' context') = (id == id') := rfl

theorem equals_object (id id' : InstanceId) (typeName shown typeName' shown' : String)
    (isSafe isSafe' : Bool) (t t' : Table Value) :
    (object id typeName shown isSafe t).equals (object id' typeName' shown' isSafe' t') =
      (id == id') := rfl

theorem equalItems_cons (a b : Value) (as bs : List Value) :
    equalItems (a :: as) (b :: bs) = (a.equals b && equalItems as bs) := rfl

theorem equalEntries_cons {key : String} {names : List String} (a : Value)
    (rest : Table.Row Value names) (bs : Table Value) :
    equalEntries (.cons a rest : Table.Row Value (key :: names)) bs =
      ((match bs.get? key with
        | some b => a.equals b
        | none => false) && equalEntries rest bs) := rfl

end Value
end Templating
