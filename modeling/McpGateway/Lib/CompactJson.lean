import McpGateway.Lib.Json

/-!
# The length of a printed document

A document without blanks between its tokens, as C libraries print it: strings
with the escapes of JSON, numbers by a printer of their own, which writes into a
buffer of 26 bytes. The length of a printed object is the sum of the bytes of its
fields.
-/

namespace McpGateway.Lib

/-- A character inside a string; other control characters are printed `\u00xx`. -/
def escapeChar (c : Char) : CStr :=
  if c = '"' ∨ c = '\\' then ['\\', c]
  else if c = '\x08' then ['\\', 'b']
  else if c = '\x0c' then ['\\', 'f']
  else if c = '\n' then ['\\', 'n']
  else if c = '\r' then ['\\', 'r']
  else if c = '\t' then ['\\', 't']
  else if c.toNat < 32 then
    ['\\', 'u', '0', '0', Nat.digitChar (c.toNat / 16), Nat.digitChar (c.toNat % 16)]
  else [c]

def quote (s : CStr) : CStr := '"' :: s.flatMap escapeChar ++ ['"']

namespace Json

variable (number : CFloat → CStr)

mutual

/-- The unformatted text of a document, with its numbers printed by `number`. -/
def compact : Json → CStr
  | .null => "null".toList
  | .bool b => if b then "true".toList else "false".toList
  | .num x => number x
  | .str s => quote s
  | .arr items => '[' :: compactItems items ++ [']']
  | .obj fields => '\x7b' :: compactFields fields ++ ['\x7d']

def compactItems : List Json → CStr
  | [] => []
  | [j] => compact j
  | j :: js => compact j ++ ',' :: compactItems js

def compactFields : List (CStr × Json) → CStr
  | [] => []
  | [f] => quote f.1 ++ ':' :: compact f.2
  | f :: fs => quote f.1 ++ ':' :: compact f.2 ++ ',' :: compactFields fs

end

def fieldBytes (f : CStr × Json) : Nat := (quote f.1).length + (compact number f.2).length + 2

end Json

/-- The library prints compactly, and no number takes more than 25 characters. -/
structure CompactPrinter (lib : JsonLib) (number : CFloat → CStr) : Prop where
  print : ∀ doc, lib.printUnformatted doc = doc.compact number
  number : ∀ x, (number x).length ≤ 25

def JsonLib.compactPrinting (number : CFloat → CStr) : JsonLib where
  printUnformatted := Json.compact number
  printPreallocated j n := if (j.compact number).length < n then some (j.compact number) else none
  parse _ := none

/-! ## Strings -/

theorem escapeChar_length (c : Char) : (escapeChar c).length ≤ 6 := by
  unfold escapeChar
  split_ifs <;> simp only [List.length_cons, List.length_nil] <;> omega

theorem quote_length (s : CStr) : (quote s).length = (s.flatMap escapeChar).length + 2 := by
  unfold quote
  rw [List.length_append, List.length_cons]
  rfl

theorem quote_length_le (s : CStr) : (quote s).length ≤ 6 * s.length + 2 := by
  rw [quote_length]
  have hescaped : (s.flatMap escapeChar).length ≤ 6 * s.length := by
    induction s with
    | nil => exact Nat.le_refl _
    | cons c s ih =>
      have hc := escapeChar_length c
      rw [List.flatMap_cons, List.length_append, List.length_cons]
      omega
  omega

def isPlain (c : Char) : Bool := decide (escapeChar c = [c])

theorem quote_length_plain {s : CStr} (h : s.all isPlain = true) :
    (quote s).length = s.length + 2 := by
  have hescaped : s.flatMap escapeChar = s := by
    induction s with
    | nil => rfl
    | cons c s ih =>
      rw [List.all_cons, Bool.and_eq_true] at h
      rw [List.flatMap_cons, of_decide_eq_true h.1, ih h.2]
      rfl
  rw [quote_length, hescaped]

/-! ## Objects -/

section Objects

variable {number : CFloat → CStr} {fields : List (CStr × Json)}

theorem compactFields_length (h : fields ≠ []) :
    (Json.compactFields number fields).length + 1 =
      (fields.map (Json.fieldBytes number)).sum := by
  induction fields with
  | nil => exact absurd rfl h
  | cons f fs ih =>
    cases fs with
    | nil =>
      rw [Json.compactFields, List.map_singleton, List.sum_singleton, Json.fieldBytes,
        List.length_append, List.length_cons]
      omega
    | cons f' fs =>
      have hrest := ih (List.cons_ne_nil f' fs)
      rw [Json.compactFields, List.map_cons, List.sum_cons, ← hrest, Json.fieldBytes,
        List.length_append, List.length_append, List.length_cons, List.length_cons]
      · omega
      · exact List.cons_ne_nil f' fs

/-- **The length of an object.** -/
theorem compact_obj_length (h : fields ≠ []) :
    (Json.compact number (.obj fields)).length =
      1 + (fields.map (Json.fieldBytes number)).sum := by
  have hfields : (Json.compactFields number fields).length + 1 = _ := compactFields_length h
  rw [Json.compact, List.length_append, List.length_cons, List.length_singleton]
  omega

end Objects

/-! ## Printers -/

section Printers

variable {lib : JsonLib} {number : CFloat → CStr} (h : CompactPrinter lib number)

include h

theorem CompactPrinter.obj_length {fields : List (CStr × Json)} (hne : fields ≠ []) :
    (lib.printUnformatted (.obj fields)).length =
      1 + (fields.map (Json.fieldBytes number)).sum := by
  rw [h.print, compact_obj_length hne]

/-- An object without its first field that `p` picks, and with another field behind. -/
theorem CompactPrinter.swap_length {fields : List (CStr × Json)} {p : CStr × Json → Bool}
    {f g : CStr × Json} (hf : fields.find? p = some f) :
    (lib.printUnformatted (.obj (fields.eraseP p ++ [g]))).length + Json.fieldBytes number f =
      (lib.printUnformatted (.obj fields)).length + Json.fieldBytes number g := by
  have hne : fields ≠ [] := List.ne_nil_of_mem (List.mem_of_find?_eq_some hf)
  have hne' : fields.eraseP p ++ [g] ≠ [] :=
    List.append_ne_nil_of_right_ne_nil _ (List.cons_ne_nil g [])
  have hsum : ((fields.eraseP p).map (Json.fieldBytes number)).sum + Json.fieldBytes number f =
      (fields.map (Json.fieldBytes number)).sum := by
    clear hne hne'
    induction fields with
    | nil => cases hf
    | cons x xs ih =>
      rw [List.find?_cons] at hf
      rw [List.eraseP_cons]
      cases hx : p x with
      | true =>
        rw [hx] at hf
        obtain rfl := Option.some.inj hf
        rw [List.map_cons, List.sum_cons, Nat.add_comm]
        rfl
      | false =>
        rw [hx] at hf
        have hrest := ih hf
        rw [cond_false, List.map_cons, List.sum_cons, List.map_cons, List.sum_cons]
        omega
  rw [h.obj_length hne, h.obj_length hne', List.map_append, List.sum_append, List.map_singleton,
    List.sum_singleton]
  omega

end Printers

end McpGateway.Lib
