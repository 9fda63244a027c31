import McpGateway.Lib.CFloat

/-!
# JSON documents

Documents as trees, and the object operations of a C JSON library on them.
The library's printer and parser are parameters: `JsonLib`. A printer cannot
print a non-finite number and writes `null` for it; `Json.nullify` is what
then comes back from the parser.
-/

namespace McpGateway.Lib

inductive Json
  | null
  | bool (b : Bool)
  | num (x : CFloat)
  | str (s : CStr)
  | arr (items : List Json)
  | obj (fields : List (CStr × Json))

/-- The printer and parser of a JSON library. `printPreallocated j n` prints
into a buffer of `n` bytes. -/
structure JsonLib where
  printUnformatted : Json → CStr
  printPreallocated : Json → Nat → Option CStr
  parse : CStr → Option Json

namespace Json

mutual

/-- The document that parsing the printed document gives back. -/
def nullify : Json → Json
  | .num x => if x.isFinite then .num x else .null
  | .arr items => .arr (nullifyItems items)
  | .obj fields => .obj (nullifyFields fields)
  | j => j

def nullifyItems : List Json → List Json
  | [] => []
  | j :: js => nullify j :: nullifyItems js

def nullifyFields : List (CStr × Json) → List (CStr × Json)
  | [] => []
  | f :: fs => (f.1, nullify f.2) :: nullifyFields fs

end

def toLower (s : CStr) : CStr := s.map Char.toLower

/-- The first field of that name; names compare exactly. -/
def getItemCaseSensitive (j : Json) (name : CStr) : Option Json :=
  match j with
  | .obj fields => (fields.find? fun f => f.1 = name).map Prod.snd
  | _ => none

def string? : Option Json → Option CStr
  | some (.str s) => some s
  | _ => none

def number? : Option Json → Option CFloat
  | some (.num x) => some x
  | _ => none

def isTrue : Option Json → Bool
  | some (.bool b) => b
  | _ => false

/-- The `valueint` of a number: its integer part, within the range of `int`. -/
def valueInt : CFloat → Int
  | .fin q => if q ≥ 2 ^ 31 - 1 then 2 ^ 31 - 1 else if q ≤ -2 ^ 31 then -2 ^ 31 else trunc q
  | .inf neg => if neg then -2 ^ 31 else 2 ^ 31 - 1
  | .nan => 0

end Json

/-- The first entry of that name; names compare without case. -/
def getItem {α : Type*} (fields : List (CStr × α)) (name : CStr) : Option α :=
  (fields.find? fun f => Json.toLower f.1 = Json.toLower name).map Prod.snd

/-- The first field of that name of an object; names compare without case. -/
def Json.getObjectItem (j : Json) (name : CStr) : Option Json :=
  match j with
  | .obj fields => getItem fields name
  | _ => none

/-- Removes the first entry of that name; names compare without case. -/
def deleteItem {α : Type*} (fields : List (CStr × α)) (name : CStr) : List (CStr × α) :=
  fields.eraseP fun f => Json.toLower f.1 = Json.toLower name

/-- Replaces the value of the first entry of that name. -/
def updateItem {α : Type*} (fields : List (CStr × α)) (name : CStr) (value : α) :
    List (CStr × α) :=
  match fields with
  | [] => []
  | f :: fs =>
    if Json.toLower f.1 = Json.toLower name then (f.1, value) :: fs
    else f :: updateItem fs name value

/-! ### The first entry of a name -/

section Items

variable {α : Type*}

def findItem (fields : List (CStr × α)) (name : CStr) : Option (CStr × α) :=
  fields.find? fun f => Json.toLower f.1 = Json.toLower name

structure FirstItem (name : CStr) (before : List (CStr × α)) (f : CStr × α) : Prop where
  named : Json.toLower f.1 = Json.toLower name
  first : ∀ b ∈ before, ¬ Json.toLower b.1 = Json.toLower name

variable {fields before after : List (CStr × α)} {name : CStr} {f : CStr × α} {v : α}

theorem getItem_eq (fields : List (CStr × α)) (name : CStr) :
    getItem fields name = (findItem fields name).map Prod.snd := rfl

@[simp] theorem findItem_nil (name : CStr) : findItem ([] : List (CStr × α)) name = none := rfl

theorem findItem_some (h : findItem fields name = some f) :
    ∃ before after, fields = before ++ f :: after ∧ FirstItem name before f := by
  obtain ⟨hnamed, before, after, hfields, hfirst⟩ := List.find?_eq_some_iff_append.1 h
  refine ⟨before, after, hfields, of_decide_eq_true hnamed, fun b hb => ?_⟩
  exact of_decide_eq_false (by simpa using hfirst b hb)

theorem findItem_none (h : findItem fields name = none) :
    ∀ b ∈ fields, ¬ Json.toLower b.1 = Json.toLower name := by
  intro b hb
  simpa using List.find?_eq_none.1 h b hb

namespace FirstItem

variable (h : FirstItem name before f)

include h

theorem findItem : findItem (before ++ f :: after) name = some f := by
  refine List.find?_eq_some_iff_append.2 ⟨decide_eq_true h.named, before, after, rfl, ?_⟩
  intro b hb
  simpa using h.first b hb

theorem getItem : getItem (before ++ f :: after) name = some f.2 := by
  rw [getItem_eq, h.findItem]
  rfl

theorem deleteItem : deleteItem (before ++ f :: after) name = before ++ after := by
  rw [Lib.deleteItem, List.eraseP_append_right _ (by simpa using h.first),
    List.eraseP_cons, decide_eq_true h.named, cond_true]

theorem updateItem : updateItem (before ++ f :: after) name v = before ++ (f.1, v) :: after := by
  induction before with
  | nil => exact if_pos h.named
  | cons b before ih =>
    have hb := h.first b List.mem_cons_self
    rw [List.cons_append, Lib.updateItem, if_neg hb,
      ih ⟨h.named, fun c hc => h.first c (List.mem_cons_of_mem b hc)⟩]
    rfl

end FirstItem

theorem firstItem_concat (h : findItem fields name = none)
    (hf : Json.toLower f.1 = Json.toLower name) : FirstItem name fields f :=
  ⟨hf, findItem_none h⟩

end Items

theorem mapM_eq_some_iff {α β : Type*} {g : α → Option β} {xs : List α} {ys : List β} :
    xs.mapM g = some ys ↔ xs.map g = ys.map some := by
  induction xs generalizing ys with
  | nil => cases ys <;> simp
  | cons x xs ih =>
    rw [List.mapM_cons, List.map_cons]
    cases hx : g x with
    | none => cases ys <;> simp
    | some y =>
      cases ys with
      | nil => cases xs.mapM g <;> simp
      | cons z zs =>
        rw [List.map_cons, List.cons.injEq, ← ih]
        cases xs.mapM g <;> simp

theorem mem_of_mapM {α β : Type*} {g : α → Option β} {xs : List α} {ys : List β}
    (h : xs.mapM g = some ys) {y : β} (hy : y ∈ ys) : ∃ x ∈ xs, g x = some y := by
  have hmem : some y ∈ xs.map g := by
    rw [mapM_eq_some_iff.1 h]
    exact List.mem_map_of_mem hy
  exact List.mem_map.1 hmem

@[simp] theorem getItem_nil {α : Type*} (name : CStr) : getItem ([] : List (CStr × α)) name = none :=
  rfl

theorem getItem_of_mem {α : Type*} {fields : List (CStr × α)}
    (hn : (fields.map fun f => Json.toLower f.1).Nodup) {name : CStr} {v : α}
    (h : (name, v) ∈ fields) : getItem fields name = some v := by
  induction fields with
  | nil => cases h
  | cons f fs ih =>
    obtain ⟨hf, hn⟩ := List.nodup_cons.1 hn
    rcases List.mem_cons.1 h with rfl | h
    · simp [getItem]
    · have hne : Json.toLower f.1 ≠ Json.toLower name := by
        intro he
        exact hf (List.mem_map.2 ⟨_, h, he.symm⟩)
      have hrest := ih hn h
      rw [getItem] at hrest
      simp only [getItem, List.find?_cons, hne, decide_false, hrest]

@[simp] theorem nullifyFields_eq (fields : List (CStr × Json)) :
    Json.nullifyFields fields = fields.map fun f => (f.1, f.2.nullify) := by
  induction fields with
  | nil => rfl
  | cons f fs ih => simp [Json.nullifyFields, ih]

@[simp] theorem nullify_fin (q : ℚ) : (Json.num (.fin q)).nullify = .num (.fin q) := by
  exact rfl

@[simp] theorem nullify_str (s : CStr) : (Json.str s).nullify = .str s := by exact rfl

@[simp] theorem nullify_bool (b : Bool) : (Json.bool b).nullify = .bool b := by
  exact rfl

@[simp] theorem nullify_obj (fields : List (CStr × Json)) :
    (Json.obj fields).nullify = .obj (fields.map fun f => (f.1, f.2.nullify)) := by
  exact congrArg Json.obj (nullifyFields_eq fields)

@[simp] theorem nullify_arr (items : List Json) :
    (Json.arr items).nullify = .arr (items.map Json.nullify) := by
  have hitems : Json.nullifyItems items = items.map Json.nullify := by
    induction items with
    | nil => rfl
    | cons j js ih => rw [Json.nullifyItems, List.map_cons, ih]
  exact congrArg Json.arr hitems

theorem getItem_nullify (fields : List (CStr × Json)) (name : CStr) :
    (Json.obj fields).nullify.getItemCaseSensitive name =
      ((Json.obj fields).getItemCaseSensitive name).map Json.nullify := by
  simp only [nullify_obj, Json.getItemCaseSensitive, List.find?_map, Option.map_map]
  rfl

/-! ## A library that knows some documents -/

namespace Json

def escape (s : CStr) : CStr := s.flatMap fun c => if c = '"' ∨ c = '\\' then ['\\', c] else [c]

def renderString (s : CStr) : CStr := '"' :: escape s ++ ['"']

def renderNumber : CFloat → CStr
  | .fin q => if q.den = 1 ∧ q < 0 then '-' :: printDecimal q.num.natAbs
    else if q.den = 1 then printDecimal q.num.natAbs else CFloat.printG (.fin q)
  | _ => "null".toList

mutual

/-- The unformatted text of a document whose strings need no other escapes
and whose fractions have at most six digits. -/
def render : Json → CStr
  | .null => "null".toList
  | .bool b => if b then "true".toList else "false".toList
  | .num x => renderNumber x
  | .str s => renderString s
  | .arr items => '[' :: renderItems items ++ [']']
  | .obj fields => '\x7b' :: renderFields fields ++ ['\x7d']

def renderItems : List Json → CStr
  | [] => []
  | [j] => render j
  | j :: js => render j ++ ',' :: renderItems js

def renderFields : List (CStr × Json) → CStr
  | [] => []
  | [f] => renderString f.1 ++ ':' :: render f.2
  | f :: fs => renderString f.1 ++ ':' :: render f.2 ++ ',' :: renderFields fs

end

end Json

/-- A library that prints with `render` and reads back exactly the texts of `docs`. -/
def JsonLib.knowing (docs : List Json) : JsonLib where
  printUnformatted := Json.render
  printPreallocated j n := if j.render.length < n then some j.render else none
  parse s := (docs.find? fun d => d.render = s).map Json.nullify

theorem renderItems_eq (items : List Json) :
    Json.renderItems items = List.intercalate [','] (items.map Json.render) := by
  induction items with
  | nil => rfl
  | cons j js ih =>
    cases js with
    | nil => rw [Json.renderItems, List.map_singleton, List.intercalate_singleton]
    | cons j' js =>
      rw [Json.renderItems, ih, List.map_cons (f := Json.render) (a := j), List.map_cons,
        List.intercalate_cons_cons, List.append_assoc]
      · rfl
      · exact List.cons_ne_nil _ _

theorem knowing_parse (j : Json) : (JsonLib.knowing [j]).parse j.render = some j.nullify := by
  simp [JsonLib.knowing]

end McpGateway.Lib
