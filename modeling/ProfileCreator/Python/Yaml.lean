import ProfileCreator.Python.Builtins

/-! # The objects `yaml.safe_load` builds

Node documents of a must-gather bundle are loaded into plain Python objects, and the parser
reads them with `.get`, iteration and `in` without checking their types first. `Yaml` is that
object model, with the operations the parser and the validator apply to it:

* `get?` — `obj.get(key)` on a mapping, raising `AttributeError` on anything else;
* `iterate` — `for item in obj`;
* `containsStr` — `needle in obj` for a string needle;
* `pyDedup` — the elements a Python `set` keeps, and `SetOrder`, the order `list(set(...))`
  lists them in.

Floats are kept as their literal text; two floats are taken equal when their texts are.
-/

namespace ProfileCreator.Python

/-- The Python objects `yaml.safe_load` returns. -/
inductive Yaml
  | null
  | bool (value : Bool)
  | int (value : Int)
  | float (literal : String)
  | str (value : String)
  | seq (items : List Yaml)
  | map (entries : List (Yaml × Yaml))

namespace Yaml

/-- The type name CPython puts in an exception message. -/
def typeName : Yaml → String
  | null => "NoneType"
  | bool _ => "bool"
  | int _ => "int"
  | float _ => "float"
  | str _ => "str"
  | seq _ => "list"
  | map _ => "dict"

/-- The value under a string key of a mapping, if any. -/
def lookupKey (key : String) : List (Yaml × Yaml) → Option Yaml
  | [] => none
  | (str other, value) :: rest => if other = key then some value else lookupKey key rest
  | _ :: rest => lookupKey key rest

/-- `obj.get(key)`: only mappings have `get`. -/
def get? (obj : Yaml) (key : String) : Except PyError (Option Yaml) :=
  match obj with
  | map entries => .ok (lookupKey key entries)
  | other => .error (.attributeError ("'" ++ other.typeName ++ "' object has no attribute 'get'"))

/-- `obj.get(key, default)`. -/
def getD (obj : Yaml) (key : String) (default : Yaml) : Except PyError Yaml :=
  (fun found => found.getD default) <$> obj.get? key

/-- `for item in obj`: a mapping yields its keys, a string its characters. -/
def iterate : Yaml → Except PyError (List Yaml)
  | map entries => .ok (entries.map Prod.fst)
  | seq items => .ok items
  | str value => .ok (value.toList.map fun c => str (String.singleton c))
  | other => .error (.typeError ("'" ++ other.typeName ++ "' object is not iterable"))

/-- `needle in obj` for a string needle: a substring of a string, an element of a list, a key
of a mapping; other objects raise. -/
def containsStr (needle : String) : Yaml → Except PyError Bool
  | str value => .ok (contains value needle)
  | seq items => .ok (items.any fun | str item => item = needle | _ => false)
  | map entries => .ok (entries.any fun | (str key, _) => key = needle | _ => false)
  | other => .error (.typeError ("argument of type '" ++ other.typeName ++ "' is not iterable"))

/-- Python `==` between the hashable objects a `set` can hold: a bool equals the int `0` or
`1`. -/
def pyEq : Yaml → Yaml → Bool
  | null, null => true
  | bool a, bool b => a == b
  | bool a, int b => (if a then 1 else 0) == b
  | int a, bool b => a == if b then 1 else 0
  | int a, int b => a == b
  | float a, float b => a == b
  | str a, str b => a == b
  | _, _ => false

/-- Lists and mappings cannot be put in a `set`. -/
def hashable : Yaml → Bool
  | seq _ | map _ => false
  | _ => true

/-- `set.add(item)`: an item equal to a kept one is dropped. -/
def keepNew (kept : List Yaml) (item : Yaml) : List Yaml :=
  if kept.any (pyEq · item) then kept else kept ++ [item]

/-- The elements `set(items)` keeps: each one is the first of the items equal to it. -/
def pyDedup (items : List Yaml) : List Yaml := items.foldl keepNew []

theorem mem_foldl_keepNew : ∀ (items kept : List Yaml) (item : Yaml),
    item ∈ items.foldl keepNew kept → item ∈ kept ∨ item ∈ items
  | [], _, _, member => .inl member
  | head :: rest, kept, item, member => by
    rcases mem_foldl_keepNew rest (keepNew kept head) item member with inKept | inRest
    · unfold keepNew at inKept
      split at inKept
      · exact .inl inKept
      · rcases List.mem_append.mp inKept with old | new
        · exact .inl old
        · exact .inr (List.mem_singleton.mp new ▸ List.mem_cons_self head rest)
    · exact .inr (List.mem_cons_of_mem head inRest)

/-- A set holds only items it was given. -/
theorem mem_of_mem_pyDedup {items : List Yaml} {item : Yaml} (member : item ∈ pyDedup items) :
    item ∈ items :=
  (mem_foldl_keepNew items [] item member).resolve_left (List.not_mem_nil item)

theorem mem_foldl_keepNew_of_mem : ∀ (items : List Yaml) {kept : List Yaml} {item : Yaml},
    item ∈ kept → item ∈ items.foldl keepNew kept
  | [], _, _, member => member
  | _ :: rest, _, _, member => by
    refine mem_foldl_keepNew_of_mem rest ?_
    unfold keepNew
    split
    · exact member
    · exact List.mem_append_left _ member

/-- A set keeps the first item it is given. -/
theorem head_mem_pyDedup (item : Yaml) (rest : List Yaml) : item ∈ pyDedup (item :: rest) :=
  mem_foldl_keepNew_of_mem rest (by simp [keepNew])

/-! ## Length, indexing and truth

What `_init_path_mappings` and `resolve_path` apply to the values `json.loads` returns. -/

/-- `len(obj)`: the characters of a string, the items of a list, the keys of a mapping. -/
def pyLen : Yaml → Except PyError Nat
  | str value => .ok value.length
  | seq items => .ok items.length
  | map entries => .ok entries.length
  | other => .error (.typeError ("object of type '" ++ other.typeName ++ "' has no len()"))

/-- `obj[index]` for an int index: a mapping looks the index up as a key. -/
def pyIndex (obj : Yaml) (index : Nat) : Except PyError Yaml :=
  match obj with
  | str value =>
    match value.toList[index]? with
    | some c => .ok (str (String.singleton c))
    | none => .error (.indexError "string index out of range")
  | seq items =>
    match items[index]? with
    | some item => .ok item
    | none => .error (.indexError "list index out of range")
  | map entries =>
    match entries.find? fun entry => pyEq entry.1 (int index) with
    | some entry => .ok entry.2
    | none => .error (.keyError (toString index))
  | other => .error (.typeError ("'" ++ other.typeName ++ "' object is not subscriptable"))

/-- Whether a float literal denotes zero: nothing but zeros before its exponent. -/
def floatLiteralZero (literal : String) : Bool :=
  (literal.toList.takeWhile fun c => c != 'e' && c != 'E').all fun c => c ∈ ['0', '.', '_', '+', '-']

/-- Python truthiness: `None`, `False`, zero and empty containers are false. -/
def truthy : Yaml → Bool
  | null => false
  | bool value => value
  | int value => value != 0
  | float literal => !floatLiteralZero literal
  | str value => value != ""
  | seq items => !items.isEmpty
  | map entries => !entries.isEmpty

@[simp] theorem truthy_str (value : String) : (str value).truthy = (value != "") := rfl

end Yaml

/-- The order in which `list(set(items))` lists a set. CPython's order follows hashes, which
for strings are randomised per process, so it is an argument of the model, known only to list
each element the set keeps once. -/
structure SetOrder where
  listing : List Yaml → List Yaml
  listing_perm : ∀ items, (listing items).Perm (Yaml.pyDedup items)

namespace SetOrder

theorem mem_of_mem_listing (order : SetOrder) {items : List Yaml} {item : Yaml}
    (member : item ∈ order.listing items) : item ∈ items :=
  Yaml.mem_of_mem_pyDedup ((order.listing_perm items).mem_iff.mp member)

@[simp] theorem listing_singleton (order : SetOrder) (item : Yaml) : order.listing [item] = [item] :=
  List.perm_singleton.mp (order.listing_perm [item])

/-- The set of a non-empty list is not empty, in whatever order it is listed. -/
theorem listing_ne_nil (order : SetOrder) (item : Yaml) (rest : List Yaml) : order.listing (item :: rest) ≠ [] :=
  List.ne_nil_of_mem ((order.listing_perm _).mem_iff.mpr (Yaml.head_mem_pyDedup item rest))

end SetOrder

/-- The order in which the elements were first inserted. -/
def SetOrder.insertion : SetOrder := ⟨Yaml.pyDedup, fun _ => List.Perm.refl _⟩

end ProfileCreator.Python
