import McpGateway.Config
import McpGateway.Lib.JsonReading

/-!
# Strings in chunks

`send_json_string_chunk` sends a string of a streamed document through a buffer of 160
bytes. `json_string_chunks` says that the chunks are one string literal, whatever escapes
meet the end of the buffer, and that none of them is empty, which would end the response.
-/

namespace McpGateway.Web

open McpGateway.Lib

/-- `%04x`. -/
def printHex4 (n : Nat) : CStr :=
  let digits := Nat.toDigits 16 n
  List.replicate (4 - digits.length) '0' ++ digits

/-- The switch of `send_json_string_chunk`: the text of one character, in a buffer of 7
bytes. -/
def escapedChar (c : Char) : CStr :=
  if c = '"' then ['\\', '"']
  else if c = '\\' then ['\\', '\\']
  else if c = '\x08' then ['\\', 'b']
  else if c = '\x0c' then ['\\', 'f']
  else if c = '\n' then ['\\', 'n']
  else if c = '\r' then ['\\', 'r']
  else if c = '\t' then ['\\', 't']
  else if c.toNat < 0x20 then strlcpy 7 ('\\' :: 'u' :: printHex4 c.toNat)
  else [c]

/-- `sizeof(chunk)`. -/
def jsonChunkSize : Nat := 160

/-- The loop of `send_json_string_chunk` from `cursor` on, with `chunk` in the buffer and
the chunks in `sent` handed to `httpd_resp_send_chunk` before; `send i` is what the `i`-th
of these calls returns. -/
def sendJsonChunks (send : Nat → EspErr) : CStr → CStr → List CStr → EspErr × List CStr
  | [], chunk, sent => (send sent.length, sent ++ [chunk ++ ['"']])
  | c :: cursor, chunk, sent =>
    let escaped := escapedChar c
    if chunk.length + escaped.length + 1 ≥ jsonChunkSize then
      if send sent.length ≠ .ok then (send sent.length, sent ++ [chunk])
      else sendJsonChunks send cursor escaped (sent ++ [chunk])
    else sendJsonChunks send cursor (chunk ++ escaped) sent

/-- `send_json_string_chunk`: its result and the chunks it sends. -/
def sendJsonStringChunk (send : Nat → EspErr) (value : Option CStr) : EspErr × List CStr :=
  sendJsonChunks send (value.getD []) ['"'] []

/-! ## Escapes -/

theorem printHex4_spec {n : Nat} (h : n < 32) :
    (printHex4 n).length = 4 ∧ (printHex4 n).all isHex = true ∧ codeUnit (printHex4 n) = n := by
  have hall : ∀ n : Fin 32, (printHex4 n).length = 4 ∧ (printHex4 n).all isHex = true ∧
      codeUnit (printHex4 n) = n := by decide
  exact hall ⟨n, h⟩

theorem escapedChar_control {c : Char} (h : c.toNat < 32) :
    strlcpy 7 ('\\' :: 'u' :: printHex4 c.toNat) = '\\' :: 'u' :: printHex4 c.toNat := by
  apply strlcpy_of_lt
  rw [List.length_cons, List.length_cons, (printHex4_spec h).1]
  omega

theorem JsonEscape.of_control {c : Char} (h : c.toNat < 32) (rest : CStr) :
    JsonEscape ('u' :: printHex4 c.toNat ++ rest) [c] rest := by
  obtain ⟨hlength, hhex, hunit⟩ := printHex4_spec h
  have hescape := JsonEscape.unicode rest hlength hhex (.inl (by omega))
  rw [hunit, utf8, if_pos (by omega), Char.ofNat_toNat] at hescape
  exact hescape

theorem JsonChars.escapedChar (c : Char) {t s rest : CStr} (h : JsonChars t s rest) :
    JsonChars (escapedChar c ++ t) (c :: s) rest := by
  have hshort {l : Char} (hmem : (l, c) ∈ shortEscapes) : JsonChars ('\\' :: l :: t) (c :: s) rest :=
    .escape (.short t hmem) h
  unfold Web.escapedChar
  split_ifs with hquote hslash hb hf hn hr ht hcontrol
  · exact hshort (by rw [hquote]; decide)
  · exact hshort (by rw [hslash]; decide)
  · exact hshort (by rw [hb]; decide)
  · exact hshort (by rw [hf]; decide)
  · exact hshort (by rw [hn]; decide)
  · exact hshort (by rw [hr]; decide)
  · exact hshort (by rw [ht]; decide)
  · rw [escapedChar_control hcontrol]
    exact .escape (JsonEscape.of_control hcontrol t) h
  · have hplain : isUnescaped c = true := by
      simp only [isUnescaped, Bool.and_eq_true, decide_eq_true_eq]
      exact ⟨⟨Nat.le_of_not_lt hcontrol, hquote⟩, hslash⟩
    exact .plain hplain h

theorem escapedChar_length (c : Char) :
    escapedChar c ≠ [] ∧ (escapedChar c).length ≤ 6 := by
  have hpair (x y : Char) : [x, y] ≠ [] ∧ [x, y].length ≤ 6 :=
    ⟨List.cons_ne_nil x [y], by simp⟩
  unfold escapedChar
  split_ifs with hquote hslash hb hf hn hr ht hcontrol
  · exact hpair _ _
  · exact hpair _ _
  · exact hpair _ _
  · exact hpair _ _
  · exact hpair _ _
  · exact hpair _ _
  · exact hpair _ _
  · rw [escapedChar_control hcontrol, List.length_cons, List.length_cons,
      (printHex4_spec hcontrol).1]
    exact ⟨List.cons_ne_nil _ _, Nat.le_refl 6⟩
  · exact ⟨List.cons_ne_nil c [], by simp⟩

theorem JsonChars.of_escaped (s rest : CStr) :
    JsonChars (s.flatMap Web.escapedChar ++ '"' :: rest) s rest := by
  induction s with
  | nil => exact .close rest
  | cons c s ih =>
    rw [List.flatMap_cons, List.append_assoc]
    exact JsonChars.escapedChar c ih

/-! ## Chunks -/

variable {send : Nat → EspErr}

theorem sendJsonChunks_flatten (hsend : ∀ i, send i = .ok) (cursor chunk : CStr)
    (sent : List CStr) : (sendJsonChunks send cursor chunk sent).1 = .ok ∧
      (sendJsonChunks send cursor chunk sent).2.flatten =
        sent.flatten ++ chunk ++ cursor.flatMap escapedChar ++ ['"'] := by
  induction cursor generalizing chunk sent with
  | nil =>
    refine ⟨hsend _, ?_⟩
    simp [sendJsonChunks]
  | cons c cursor ih =>
    unfold sendJsonChunks
    simp only [hsend, ne_eq, not_true_eq_false, if_false]
    split
    · obtain ⟨hok, htext⟩ := ih (escapedChar c) (sent ++ [chunk])
      exact ⟨hok, by simp [htext]⟩
    · obtain ⟨hok, htext⟩ := ih (chunk ++ escapedChar c) sent
      exact ⟨hok, by simp [htext]⟩

def ChunkFits (chunk : CStr) : Prop := chunk ≠ [] ∧ chunk.length ≤ jsonChunkSize

/-- The buffer is never empty when it is sent, and there is room for the closing quote. -/
theorem sendJsonChunks_fit {cursor chunk : CStr} {sent : List CStr} (hne : chunk ≠ [])
    (hroom : chunk.length + 1 < jsonChunkSize) (hsent : ∀ x ∈ sent, ChunkFits x) :
    ∀ x ∈ (sendJsonChunks send cursor chunk sent).2, ChunkFits x := by
  induction cursor generalizing chunk sent with
  | nil =>
    intro x hx
    rcases List.mem_append.1 hx with hold | hlast
    · exact hsent x hold
    · obtain rfl := List.mem_singleton.1 hlast
      refine ⟨List.append_ne_nil_of_left_ne_nil hne _, ?_⟩
      rw [List.length_append, List.length_singleton]
      exact Nat.le_of_lt hroom
  | cons c cursor ih =>
    obtain ⟨hescaped, hlength⟩ := escapedChar_length c
    have hflushed : ∀ x ∈ sent ++ [chunk], ChunkFits x := by
      intro x hx
      rcases List.mem_append.1 hx with hold | hlast
      · exact hsent x hold
      · obtain rfl := List.mem_singleton.1 hlast
        exact ⟨hne, by omega⟩
    unfold sendJsonChunks
    simp only
    split
    · split
      · exact hflushed
      · exact ih hescaped (by unfold jsonChunkSize; omega) hflushed
    · rename_i hfits
      refine ih (List.append_ne_nil_of_left_ne_nil hne _) ?_ hsent
      rw [List.length_append]
      omega

/-- **A string in chunks**: no chunk is empty or larger than the buffer, and if every send
succeeds, the chunks are one literal that reads as the string and as nothing else. -/
theorem json_string_chunks (strtod : CStr → CFloat) (send : Nat → EspErr) (value : Option CStr) :
    (∀ chunk ∈ (sendJsonStringChunk send value).2, chunk ≠ [] ∧ chunk.length ≤ 160) ∧
      ((∀ i, send i = .ok) → (sendJsonStringChunk send value).1 = .ok ∧
        ∀ j rest, JsonValue strtod (sendJsonStringChunk send value).2.flatten j rest ↔
          j = .str (value.getD []) ∧ rest = []) := by
  refine ⟨sendJsonChunks_fit (by simp) (by decide) (by simp), fun hsend => ?_⟩
  obtain ⟨hok, htext⟩ := sendJsonChunks_flatten hsend (value.getD []) ['"'] []
  have hliteral : JsonValue strtod (sendJsonStringChunk send value).2.flatten
      (.str (value.getD [])) [] := by
    unfold sendJsonStringChunk
    rw [htext]
    exact .string (JsonChars.of_escaped _ [])
  refine ⟨hok, fun j rest => ⟨fun h => h.unique hliteral, ?_⟩⟩
  rintro ⟨rfl, rfl⟩
  exact hliteral

/-- Thirty escapes of six bytes in two chunks. -/
theorem json_string_chunks_twice :
    (sendJsonStringChunk (fun _ => .ok) (some (List.replicate 30 '\x01'))).2.length = 2 ∧
      JsonValue (fun _ => .nan)
        (sendJsonStringChunk (fun _ => .ok) (some (List.replicate 30 '\x01'))).2.flatten
        (.str (List.replicate 30 '\x01')) [] :=
  ⟨by decide +kernel,
    (((json_string_chunks _ _ _).2 fun _ => rfl).2 _ _).2 ⟨rfl, rfl⟩⟩

end McpGateway.Web
