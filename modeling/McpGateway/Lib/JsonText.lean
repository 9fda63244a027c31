import Mathlib.Data.List.TakeWhile
import McpGateway.Lib.Json

/-!
# The text of a document

The grammar of JSON on byte strings. `JsonValue strtod t j rest` says that `t`
begins with the text of `j`, and `rest` comes after it; a number is what `strtod`
makes of its literal. Bytes from 0x80 on stand for themselves. Strings that are
printed without escapes come back only if they need none: `JsonChars.unescaped_of_self`.
-/

namespace McpGateway.Lib

/-! ## The grammar -/

def isJsonSpace (c : Char) : Bool := c = ' ' || c = '\t' || c = '\n' || c = '\r'

/-- Blanks before `rest`. -/
inductive JsonSpace : CStr → CStr → Prop
  | nil (t : CStr) : JsonSpace t t
  | cons {c : Char} {t rest : CStr} : isJsonSpace c = true → JsonSpace t rest →
      JsonSpace (c :: t) rest

def isUnescaped (c : Char) : Bool := 32 ≤ c.toNat && c ≠ '"' && c ≠ '\\'

def shortEscapes : List (Char × Char) :=
  [('"', '"'), ('\\', '\\'), ('/', '/'), ('b', '\x08'), ('f', '\x0c'), ('n', '\n'), ('r', '\r'),
    ('t', '\t')]

def isHex (c : Char) : Bool := c.isDigit || ('a' ≤ c && c ≤ 'f') || ('A' ≤ c && c ≤ 'F')

def hexValue (c : Char) : Nat :=
  if c.isDigit then c.toNat - 48 else if 'a' ≤ c then c.toNat - 87 else c.toNat - 55

/-- The number of a `\u` escape. -/
def codeUnit (digits : CStr) : Nat := digits.foldl (fun n c => 16 * n + hexValue c) 0

def utf8 (n : Nat) : CStr :=
  if n < 0x80 then [Char.ofNat n]
  else if n < 0x800 then [Char.ofNat (0xC0 + n / 64), Char.ofNat (0x80 + n % 64)]
  else if n < 0x10000 then
    [Char.ofNat (0xE0 + n / 4096), Char.ofNat (0x80 + n / 64 % 64), Char.ofNat (0x80 + n % 64)]
  else
    [Char.ofNat (0xF0 + n / 262144), Char.ofNat (0x80 + n / 4096 % 64),
      Char.ofNat (0x80 + n / 64 % 64), Char.ofNat (0x80 + n % 64)]

/-- An escape after its backslash, the bytes it stands for, and what follows. -/
inductive JsonEscape : CStr → CStr → CStr → Prop
  | short {l c : Char} (rest : CStr) : (l, c) ∈ shortEscapes → JsonEscape (l :: rest) [c] rest
  | unicode {digits : CStr} (rest : CStr) : digits.length = 4 → digits.all isHex = true →
      (codeUnit digits < 0xD800 ∨ 0xDFFF < codeUnit digits) →
      JsonEscape ('u' :: digits ++ rest) (utf8 (codeUnit digits)) rest
  | pair {high low : CStr} (rest : CStr) : high.length = 4 → high.all isHex = true →
      low.length = 4 → low.all isHex = true →
      0xD800 ≤ codeUnit high → codeUnit high ≤ 0xDBFF →
      0xDC00 ≤ codeUnit low → codeUnit low ≤ 0xDFFF →
      JsonEscape ('u' :: high ++ '\\' :: 'u' :: low ++ rest)
        (utf8 (0x10000 + 0x400 * (codeUnit high - 0xD800) + (codeUnit low - 0xDC00))) rest

/-- The characters of a string up to its closing quote. -/
inductive JsonChars : CStr → CStr → CStr → Prop
  | close (rest : CStr) : JsonChars ('"' :: rest) [] rest
  | plain {c : Char} {t s rest : CStr} : isUnescaped c = true → JsonChars t s rest →
      JsonChars (c :: t) (c :: s) rest
  | escape {t e t' s rest : CStr} : JsonEscape t e t' → JsonChars t' s rest →
      JsonChars ('\\' :: t) (e ++ s) rest

def isNumberChar (c : Char) : Bool :=
  c.isDigit || c = '-' || c = '+' || c = '.' || c = 'e' || c = 'E'

def IsDigits (s : CStr) : Prop := s ≠ [] ∧ s.all Char.isDigit = true

/-- An integer without leading zeros. -/
def IsInteger (s : CStr) : Prop := IsDigits s ∧ (s.head? = some '0' → s = ['0'])

def IsFraction (s : CStr) : Prop := s = [] ∨ ∃ ds, s = '.' :: ds ∧ IsDigits ds

def IsExponent (s : CStr) : Prop :=
  s = [] ∨ ∃ e sign ds, s = e :: sign ++ ds ∧ (e = 'e' ∨ e = 'E') ∧
    (sign = [] ∨ sign = ['+'] ∨ sign = ['-']) ∧ IsDigits ds

def IsNumber (s : CStr) : Prop :=
  ∃ sign int frac exp, s = sign ++ int ++ frac ++ exp ∧ (sign = [] ∨ sign = ['-']) ∧
    IsInteger int ∧ IsFraction frac ∧ IsExponent exp

section Values

variable (strtod : CStr → CFloat)

mutual

inductive JsonValue : CStr → Json → CStr → Prop
  | nullWord (rest : CStr) : JsonValue ('n' :: 'u' :: 'l' :: 'l' :: rest) .null rest
  | trueWord (rest : CStr) : JsonValue ('t' :: 'r' :: 'u' :: 'e' :: rest) (.bool true) rest
  | falseWord (rest : CStr) : JsonValue ('f' :: 'a' :: 'l' :: 's' :: 'e' :: rest) (.bool false) rest
  | number {t : CStr} : IsNumber (t.takeWhile isNumberChar) →
      JsonValue t (.num (strtod (t.takeWhile isNumberChar))) (t.dropWhile isNumberChar)
  | string {t s rest : CStr} : JsonChars t s rest → JsonValue ('"' :: t) (.str s) rest
  | emptyArray {t rest : CStr} : JsonSpace t (']' :: rest) → JsonValue ('[' :: t) (.arr []) rest
  | array {t rest : CStr} {items : List Json} : JsonItems t items rest →
      JsonValue ('[' :: t) (.arr items) rest
  | emptyObject {t rest : CStr} : JsonSpace t ('\x7d' :: rest) →
      JsonValue ('\x7b' :: t) (.obj []) rest
  | object {t rest : CStr} {fields : List (CStr × Json)} : JsonMembers t fields rest →
      JsonValue ('\x7b' :: t) (.obj fields) rest

/-- The items of an array up to its bracket. -/
inductive JsonItems : CStr → List Json → CStr → Prop
  | last {t t₁ t₂ rest : CStr} {j : Json} : JsonSpace t t₁ → JsonValue t₁ j t₂ →
      JsonSpace t₂ (']' :: rest) → JsonItems t [j] rest
  | cons {t t₁ t₂ t₃ rest : CStr} {j : Json} {items : List Json} : JsonSpace t t₁ →
      JsonValue t₁ j t₂ → JsonSpace t₂ (',' :: t₃) → JsonItems t₃ items rest →
      JsonItems t (j :: items) rest

/-- A member of an object, with the blanks around it. -/
inductive JsonMember : CStr → CStr × Json → CStr → Prop
  | mk {t t₁ t₂ t₃ t₄ t₅ rest name : CStr} {j : Json} : JsonSpace t ('"' :: t₁) →
      JsonChars t₁ name t₂ → JsonSpace t₂ (':' :: t₃) → JsonSpace t₃ t₄ →
      JsonValue t₄ j t₅ → JsonSpace t₅ rest → JsonMember t (name, j) rest

/-- The members of an object up to its brace. -/
inductive JsonMembers : CStr → List (CStr × Json) → CStr → Prop
  | last {t rest : CStr} {f : CStr × Json} : JsonMember t f ('\x7d' :: rest) →
      JsonMembers t [f] rest
  | cons {t t' rest : CStr} {f : CStr × Json} {fields : List (CStr × Json)} :
      JsonMember t f (',' :: t') → JsonMembers t' fields rest →
      JsonMembers t (f :: fields) rest

end

/-- The whole text is that of a document. -/
def IsJsonText (t : CStr) (j : Json) : Prop :=
  ∃ t₁ t₂, JsonSpace t t₁ ∧ JsonValue strtod t₁ j t₂ ∧ JsonSpace t₂ []

end Values

/-! ## Blanks -/

theorem JsonSpace.head {t rest text : CStr} {c d : Char} (h : JsonSpace t (d :: rest))
    (htext : t <+: c :: text) (hc : isJsonSpace c = false) :
    t = d :: rest ∧ d = c ∧ rest <+: text := by
  cases h with
  | nil =>
    obtain ⟨hd, hrest⟩ := List.cons_prefix_cons.1 htext
    exact ⟨rfl, hd, hrest⟩
  | cons hspace =>
    obtain ⟨rfl, -⟩ := List.cons_prefix_cons.1 htext
    rw [hc] at hspace
    cases hspace

/-- In front of a text that begins without a blank there is nothing to skip. -/
theorem JsonSpace.stop {t rest text : CStr} {c : Char} (h : JsonSpace t rest)
    (htext : t <+: c :: text) (hc : isJsonSpace c = false) : rest = t := by
  cases h with
  | nil => rfl
  | cons hspace =>
    obtain ⟨rfl, -⟩ := List.cons_prefix_cons.1 htext
    rw [hc] at hspace
    cases hspace

/-! ## Strings without escapes -/

theorem isUnescaped_ne {c : Char} (h : isUnescaped c = true) : c ≠ '"' ∧ c ≠ '\\' := by
  simp only [isUnescaped, Bool.and_eq_true, decide_eq_true_eq] at h
  exact ⟨h.1.2, h.2⟩

namespace JsonChars

theorem unescaped {s : CStr} (hs : s.all isUnescaped = true) (rest : CStr) :
    JsonChars (s ++ '"' :: rest) s rest := by
  induction s with
  | nil => exact .close rest
  | cons c s ih =>
    rw [List.all_cons, Bool.and_eq_true] at hs
    exact .plain hs.1 (ih hs.2)

theorem of_unescaped {s t d rest text : CStr} (hs : s.all isUnescaped = true)
    (h : JsonChars t d rest) (htext : t <+: s ++ '"' :: text) : d = s ∧ rest <+: text := by
  induction s generalizing t d with
  | nil =>
    cases h with
    | close rest => exact ⟨rfl, (List.cons_prefix_cons.1 htext).2⟩
    | plain hc => exact absurd (List.cons_prefix_cons.1 htext).1 (isUnescaped_ne hc).1
    | escape => exact absurd (List.cons_prefix_cons.1 htext).1 (by decide)
  | cons c s ih =>
    rw [List.all_cons, Bool.and_eq_true] at hs
    obtain ⟨hquote, hslash⟩ := isUnescaped_ne hs.1
    cases h with
    | close rest => exact absurd (List.cons_prefix_cons.1 htext).1.symm hquote
    | plain hc hchars =>
      obtain ⟨rfl, htext'⟩ := List.cons_prefix_cons.1 htext
      obtain ⟨rfl, hrest⟩ := ih hs.2 hchars htext'
      exact ⟨rfl, hrest⟩
    | escape => exact absurd (List.cons_prefix_cons.1 htext).1.symm hslash

end JsonChars

/-! ## Strings that read as themselves -/

theorem utf8_length (n : Nat) : (utf8 n).length ≤ 4 := by
  unfold utf8
  split_ifs <;> simp

theorem quote_not_mem_hex {digits : CStr} (h : digits.all isHex = true) : '"' ∉ digits := by
  intro hmem
  have hquote := List.all_eq_true.1 h '"' hmem
  exact absurd hquote (by decide)

/-- An escape is no shorter than what it stands for, and has no quote in it
unless it is the escape of the quote. -/
theorem JsonEscape.raw {t e t' : CStr} (h : JsonEscape t e t') :
    ∃ raw, t = raw ++ t' ∧ e.length ≤ raw.length ∧
      (raw = ['"'] ∧ e = ['"'] ∨ '"' ∉ raw) := by
  cases h with
  | @short l c rest hmem =>
    refine ⟨[l], rfl, le_refl _, ?_⟩
    by_cases hl : l = '"'
    · subst hl
      refine .inl ⟨rfl, ?_⟩
      simp only [shortEscapes, List.mem_cons, Prod.mk.injEq, List.not_mem_nil] at hmem
      simp_all
    · exact .inr fun hmem => hl (List.mem_singleton.1 hmem).symm
  | @unicode digits rest hlength hhex =>
    refine ⟨'u' :: digits, rfl, ?_, .inr fun hmem => ?_⟩
    · rw [List.length_cons, hlength]
      exact (utf8_length _).trans (by decide)
    · rcases List.mem_cons.1 hmem with hu | hmem
      · exact absurd hu (by decide)
      · exact quote_not_mem_hex hhex hmem
  | @pair high low rest hhigh hhexHigh hlow hhexLow =>
    refine ⟨'u' :: high ++ '\\' :: 'u' :: low, rfl, ?_, .inr fun hmem => ?_⟩
    · rw [List.length_append, List.length_cons, List.length_cons, List.length_cons, hhigh, hlow]
      exact (utf8_length _).trans (by decide)
    · rcases List.mem_append.1 hmem with hmem | hmem
      · rcases List.mem_cons.1 hmem with hu | hmem
        · exact absurd hu (by decide)
        · exact quote_not_mem_hex hhexHigh hmem
      · rcases List.mem_cons.1 hmem with hu | hmem
        · exact absurd hu (by decide)
        · rcases List.mem_cons.1 hmem with hu | hmem
          · exact absurd hu (by decide)
          · exact quote_not_mem_hex hhexLow hmem

namespace JsonChars

/-- A string is no longer than its text, and shorter if it has an escape. -/
theorem raw {t s rest : CStr} (h : JsonChars t s rest) :
    ∃ raw, t = raw ++ '"' :: rest ∧ s.length ≤ raw.length ∧
      (s.length = raw.length → s = raw ∧ raw.all isUnescaped = true) := by
  induction h with
  | close rest => exact ⟨[], rfl, le_refl _, fun _ => ⟨rfl, rfl⟩⟩
  | @plain c t s rest hc _ ih =>
    obtain ⟨raw, rfl, hle, heq⟩ := ih
    refine ⟨c :: raw, rfl, Nat.succ_le_succ hle, fun hlength => ?_⟩
    obtain ⟨rfl, hall⟩ := heq (Nat.succ.inj hlength)
    exact ⟨rfl, by rw [List.all_cons, hc, hall]; rfl⟩
  | @escape t e t' s rest hescape _ ih =>
    obtain ⟨raw, rfl, hle, -⟩ := ih
    obtain ⟨code, rfl, hcode, -⟩ := hescape.raw
    refine ⟨'\\' :: code ++ raw, by simp, ?_, fun hlength => ?_⟩
    · simp only [List.length_append, List.length_cons]
      omega
    · simp only [List.length_append, List.length_cons] at hlength
      omega

/-- The text closes at its first quote, or that is escaped and comes out at an
earlier place than it stands at. -/
theorem first_quote {t s rest before after : CStr} (h : JsonChars t s rest)
    (htext : t = before ++ '"' :: after) (hbefore : '"' ∉ before) :
    rest = after ∨ ∃ k < before.length, s[k]? = some '"' := by
  induction h generalizing before with
  | close rest =>
    cases before with
    | nil => exact .inl (List.cons.inj htext).2
    | cons c before =>
      exact absurd ((List.cons.inj htext).1 ▸ List.mem_cons_self) hbefore
  | @plain c t s rest hc _ ih =>
    cases before with
    | nil => exact absurd (List.cons.inj htext).1 (isUnescaped_ne hc).1
    | cons b before =>
      rw [List.mem_cons, not_or] at hbefore
      rcases ih (List.cons.inj htext).2 hbefore.2 with hrest | ⟨k, hk, hquote⟩
      · exact .inl hrest
      · exact .inr ⟨k + 1, Nat.succ_lt_succ hk, hquote⟩
  | @escape t e t' s rest hescape _ ih =>
    obtain ⟨code, rfl, hcode, hquote⟩ := hescape.raw
    cases before with
    | nil => exact absurd (List.cons.inj htext).1 (by decide)
    | cons b before =>
      rw [List.mem_cons, not_or] at hbefore
      have htext := (List.cons.inj htext).2
      rcases hquote with ⟨rfl, rfl⟩ | hquote
      · exact .inr ⟨0, Nat.succ_pos _, rfl⟩
      · rcases List.append_eq_append_iff.1 htext with ⟨mid, rfl, hmid⟩ | ⟨mid, rfl, hmid⟩
        · rcases ih hmid (fun hmem => hbefore.2 (List.mem_append_right _ hmem)) with
            hrest | ⟨k, hk, hs⟩
          · exact .inl hrest
          · refine .inr ⟨e.length + k, ?_, ?_⟩
            · simp only [List.length_cons, List.length_append]
              omega
            · rw [List.getElem?_append_right (Nat.le_add_right _ _), Nat.add_sub_cancel_left, hs]
        · cases mid with
          | nil =>
            rcases @ih [] hmid.symm List.not_mem_nil with hrest | ⟨k, hk, -⟩
            · exact .inl hrest
            · exact absurd hk (Nat.not_lt_zero k)
          | cons c mid =>
            obtain ⟨rfl, -⟩ := List.cons.inj hmid
            exact absurd (List.mem_append_right _ List.mem_cons_self) hquote

/-- A string whose text begins with the string itself and a quote needs no escapes. -/
theorem unescaped_of_self {t s rest text : CStr} (h : JsonChars t s rest) (htext : t <+: s ++ '"' :: text) :
    s.all isUnescaped = true := by
  obtain ⟨raw, hraw, hle, heq⟩ := h.raw
  have hprefix : raw <+: s ++ '"' :: text := (hraw ▸ List.prefix_append raw _).trans htext
  rcases Nat.lt_or_ge s.length raw.length with hlonger | hshorter
  · -- The quote after `s` is in the text of the string, so an earlier one is in `s` too.
    have hstart : s ++ ['"'] <+: raw := by
      have hquote : s ++ ['"'] <+: s ++ '"' :: text := ⟨text, by simp⟩
      refine List.prefix_of_prefix_length_le hquote hprefix ?_
      rw [List.length_append, List.length_singleton]
      omega
    obtain ⟨mid, rfl⟩ := hstart
    have hsplit : ∃ before after, s ++ ['"'] ++ mid = before ++ '"' :: after ∧ '"' ∉ before ∧
        before <+: s := by
      by_cases hmem : '"' ∈ s
      · obtain ⟨before, after, rfl, hbefore⟩ := List.eq_append_cons_of_mem hmem
        exact ⟨before, after ++ ['"'] ++ mid, by simp, hbefore, List.prefix_append _ _⟩
      · exact ⟨s, mid, by simp, hmem, List.prefix_rfl⟩
    obtain ⟨before, after, hbefore, hquote, hs⟩ := hsplit
    rw [hbefore] at hraw
    have htext' : t = before ++ '"' :: (after ++ '"' :: rest) := by rw [hraw]; simp
    rcases h.first_quote htext' hquote with hrest | ⟨k, hk, hget⟩
    · have hlength := congrArg List.length hrest
      simp only [List.length_append, List.length_cons] at hlength
      omega
    · obtain ⟨tail, rfl⟩ := hs
      rw [List.getElem?_append_left hk] at hget
      exact absurd (List.mem_of_getElem? hget) hquote
  · obtain ⟨rfl, hall⟩ := heq (Nat.le_antisymm hle hshorter)
    exact hall

end JsonChars

/-! ## Numbers -/

theorem isNumberChar_of_isDigit {c : Char} (h : c.isDigit = true) : isNumberChar c = true := by
  simp [isNumberChar, h]

theorem IsDigits.all {s : CStr} (h : IsDigits s) : s.all isNumberChar = true :=
  List.all_eq_true.2 fun c hc => isNumberChar_of_isDigit (List.all_eq_true.1 h.2 c hc)

theorem IsNumber.all {s : CStr} (h : IsNumber s) : s.all isNumberChar = true ∧ s ≠ [] := by
  obtain ⟨sign, int, frac, exp, rfl, hsign, ⟨hint, -⟩, hfrac, hexp⟩ := h
  have hsign' : sign.all isNumberChar = true := by
    rcases hsign with rfl | rfl <;> decide
  have hfrac' : frac.all isNumberChar = true := by
    rcases hfrac with rfl | ⟨ds, rfl, hds⟩
    · rfl
    · rw [List.all_cons, hds.all]
      decide
  have hexp' : exp.all isNumberChar = true := by
    rcases hexp with rfl | ⟨e, esign, ds, rfl, he, hesign, hds⟩
    · rfl
    · rw [List.all_append, List.all_cons, hds.all]
      rcases he with rfl | rfl <;> rcases hesign with rfl | rfl | rfl <;> decide
  refine ⟨by rw [List.all_append, List.all_append, List.all_append, hsign', hint.all, hfrac', hexp']
             rfl, fun hnil => ?_⟩
  simp only [List.append_eq_nil_iff] at hnil
  exact hint.1 hnil.1.1.2

theorem takeWhile_number {lit : CStr} (hlit : lit.all isNumberChar = true) {c : Char}
    (hc : isNumberChar c = false) (text : CStr) :
    (lit ++ c :: text).takeWhile isNumberChar = lit ∧
      (lit ++ c :: text).dropWhile isNumberChar = c :: text := by
  have hall := List.all_eq_true.1 hlit
  rw [List.takeWhile_append_of_pos hall, List.dropWhile_append_of_pos hall,
    List.takeWhile_cons_of_neg (by rw [hc]; decide), List.dropWhile_cons_of_neg (by rw [hc]; decide),
    List.append_nil]
  exact ⟨rfl, rfl⟩

section Values

variable {strtod : CStr → CFloat}

theorem JsonValue.number_of {lit : CStr} (h : IsNumber lit) {c : Char}
    (hc : isNumberChar c = false) (text : CStr) :
    JsonValue strtod (lit ++ c :: text) (.num (strtod lit)) (c :: text) := by
  obtain ⟨htake, hdrop⟩ := takeWhile_number h.all.1 hc text
  have hnumber := @JsonValue.number strtod (lit ++ c :: text) (by rw [htake]; exact h)
  rwa [htake, hdrop] at hnumber

theorem JsonValue.begins {t rest : CStr} {j : Json} (h : JsonValue strtod t j rest) :
    (∃ t', t = 'n' :: 'u' :: t') ∨ (∃ c t', t = c :: t' ∧ c ∈ ['t', 'f', '"', '[', '\x7b']) ∨
      IsNumber (t.takeWhile isNumberChar) ∧ rest = t.dropWhile isNumberChar := by
  cases h with
  | nullWord => exact .inl ⟨_, rfl⟩
  | number hnumber => exact .inr (.inr ⟨hnumber, rfl⟩)
  | trueWord => exact .inr (.inl ⟨_, _, rfl, by decide⟩)
  | falseWord => exact .inr (.inl ⟨_, _, rfl, by decide⟩)
  | string => exact .inr (.inl ⟨_, _, rfl, by decide⟩)
  | emptyArray => exact .inr (.inl ⟨_, _, rfl, by decide⟩)
  | array => exact .inr (.inl ⟨_, _, rfl, by decide⟩)
  | emptyObject => exact .inr (.inl ⟨_, _, rfl, by decide⟩)
  | object => exact .inr (.inl ⟨_, _, rfl, by decide⟩)

/-- Number characters before another one are dropped, as far as the text goes. -/
theorem dropWhile_number {t lit text : CStr} {c : Char} (htext : t <+: lit ++ c :: text)
    (hlit : lit.all isNumberChar = true) (hc : isNumberChar c = false) :
    t.dropWhile isNumberChar <+: c :: text := by
  obtain ⟨tail, htail⟩ := htext
  rcases List.append_eq_append_iff.1 htail with ⟨mid, hmid, -⟩ | ⟨mid, rfl, hmid⟩
  · have hall : ∀ b ∈ t, isNumberChar b = true := fun b hb =>
      List.all_eq_true.1 hlit b (hmid ▸ List.mem_append_left mid hb)
    rw [List.dropWhile_eq_nil_iff.2 hall]
    exact List.nil_prefix
  · rw [List.dropWhile_append_of_pos (List.all_eq_true.1 hlit)]
    cases mid with
    | nil => exact List.nil_prefix
    | cons b mid =>
      obtain ⟨rfl, -⟩ := List.cons.inj hmid
      rw [List.dropWhile_cons_of_neg (by rw [hc]; decide)]
      exact ⟨tail, hmid.symm⟩

theorem JsonValue.of_number {t rest lit text : CStr} {j : Json} {c : Char}
    (h : JsonValue strtod t j rest) (htext : t <+: lit ++ c :: text)
    (hlit : lit.all isNumberChar = true) (hc : isNumberChar c = false) (hne : lit ≠ []) :
    rest <+: c :: text := by
  obtain ⟨d, lit', rfl⟩ := List.exists_cons_of_ne_nil hne
  have hd : isNumberChar d = true := List.all_eq_true.1 hlit d List.mem_cons_self
  rcases h.begins with ⟨t', rfl⟩ | ⟨b, t', rfl, hb⟩ | ⟨-, rfl⟩
  · rw [← (List.cons_prefix_cons.1 htext).1] at hd
    exact absurd hd (by decide)
  · rw [← (List.cons_prefix_cons.1 htext).1] at hd
    have hmarks : (['t', 'f', '"', '[', '\x7b'].all fun b => !isNumberChar b) = true := by decide
    have hmark := List.all_eq_true.1 hmarks b hb
    rw [hd] at hmark
    exact absurd hmark (by decide)
  · exact dropWhile_number htext hlit hc

end Values

/-! ## Objects without blanks -/

/-- A member before `text`, which is its value and what follows. -/
def keyed (key text : CStr) : CStr := '"' :: (key ++ '"' :: ':' :: text)

def stringMember (key s rest : CStr) : CStr := keyed key ('"' :: (s ++ '"' :: rest))

section Members

variable {strtod : CStr → CFloat} {key s lit t text rest : CStr}

theorem JsonMember.of_value (hkey : key.all isUnescaped = true) {j : Json}
    (h : JsonValue strtod text j rest) : JsonMember strtod (keyed key text) (key, j) rest :=
  .mk (.nil _) (.unescaped hkey _) (.nil _) (.nil _) h (.nil _)

theorem JsonMember.of_string (hkey : key.all isUnescaped = true) (hs : s.all isUnescaped = true)
    (rest : CStr) : JsonMember strtod (stringMember key s rest) (key, .str s) rest :=
  .of_value hkey (.string (.unescaped hs rest))

/-- A member reads under its key, and its value begins where it is printed. -/
theorem JsonMember.value (hkey : key.all isUnescaped = true) {f : CStr × Json} {c : Char}
    (h : JsonMember strtod t f rest) (htext : t <+: keyed key (c :: text))
    (hc : isJsonSpace c = false) :
    f.1 = key ∧ ∃ t₁ t₂, t₁ <+: c :: text ∧ JsonValue strtod t₁ f.2 t₂ ∧ JsonSpace t₂ rest := by
  cases h with
  | mk hspace hname hcolon hspace' hvalue hrest =>
    obtain ⟨-, -, hinside⟩ := hspace.head htext (by decide)
    obtain ⟨rfl, hcolonText⟩ := hname.of_unescaped hkey hinside
    obtain ⟨-, -, hvalueText⟩ := hcolon.head hcolonText (by decide)
    cases hspace'.stop hvalueText hc
    exact ⟨rfl, _, _, hvalueText, hvalue, hrest⟩

/-- What is read of a member printed as it is: if that is the string itself, it
needs no escapes, and the rest of the text follows. -/
theorem JsonMember.string (hkey : key.all isUnescaped = true) {f : CStr × Json}
    (h : JsonMember strtod t f rest) (htext : t <+: stringMember key s text) :
    f.1 = key ∧ (f.2 = .str s → s.all isUnescaped = true ∧
      ∃ t', t' <+: text ∧ JsonSpace t' rest) := by
  obtain ⟨hname, t₁, t₂, htext, hvalue, hrest⟩ := h.value hkey htext (by decide)
  refine ⟨hname, fun hs => ?_⟩
  rw [hs] at hvalue
  cases hvalue with
  | string hchars =>
    have htext := (List.cons_prefix_cons.1 htext).2
    have hall := hchars.unescaped_of_self htext
    exact ⟨hall, t₂, (hchars.of_unescaped hall htext).2, hrest⟩

theorem not_space_of_numberChar {c : Char} (h : isNumberChar c = true) : isJsonSpace c = false := by
  by_contra hspace
  rw [Bool.not_eq_false] at hspace
  simp only [isJsonSpace, Bool.or_eq_true, decide_eq_true_eq] at hspace
  rcases hspace with ((rfl | rfl) | rfl) | rfl <;> exact absurd h (by decide)

theorem JsonMember.number (hkey : key.all isUnescaped = true) (hlit : lit.all isNumberChar = true)
    (hne : lit ≠ []) {f : CStr × Json} {c : Char} (hc : isNumberChar c = false)
    (h : JsonMember strtod t f rest) (htext : t <+: keyed key (lit ++ c :: text)) :
    f.1 = key ∧ ∃ t', t' <+: c :: text ∧ JsonSpace t' rest := by
  obtain ⟨d, ds, rfl⟩ := List.exists_cons_of_ne_nil hne
  have hd : isJsonSpace d = false :=
    not_space_of_numberChar (List.all_eq_true.1 hlit d List.mem_cons_self)
  obtain ⟨hname, t₁, t₂, htext, hvalue, hrest⟩ := h.value hkey htext hd
  exact ⟨hname, t₂, hvalue.of_number htext hlit hc hne, hrest⟩

theorem JsonMembers.comma {fields : List (CStr × Json)} (h : JsonMembers strtod t fields rest)
    (hfirst : ∀ f fs rest', fields = f :: fs → JsonMember strtod t f rest' →
      ∃ t', t' <+: ',' :: text ∧ JsonSpace t' rest') :
    ∃ f fs t', fields = f :: fs ∧ t' <+: text ∧ JsonMembers strtod t' fs rest := by
  cases h with
  | last hlast =>
    obtain ⟨t', htext, hspace⟩ := hfirst _ _ _ rfl hlast
    exact absurd (hspace.head htext (by decide)).2.1 (by decide)
  | cons hmember hmore =>
    obtain ⟨t', htext, hspace⟩ := hfirst _ _ _ rfl hmember
    obtain ⟨-, -, htext'⟩ := hspace.head htext (by decide)
    exact ⟨_, _, _, rfl, htext', hmore⟩

theorem JsonMembers.first {fields : List (CStr × Json)} (h : JsonMembers strtod t fields rest) :
    ∃ f fs c rest', fields = f :: fs ∧ JsonMember strtod t f (c :: rest') := by
  cases h with
  | last hlast => exact ⟨_, _, _, _, rfl, hlast⟩
  | cons hmember _ => exact ⟨_, _, _, _, rfl, hmember⟩

/-- The first field of a name that the fields before it do not have. -/
theorem getItem_skip {f : CStr × Json} {fields : List (CStr × Json)} {key : CStr}
    (hne : f.1 ≠ key) :
    (Json.obj (f :: fields)).getItemCaseSensitive key =
      (Json.obj fields).getItemCaseSensitive key := by
  unfold Json.getItemCaseSensitive
  simp only
  rw [List.find?_cons_of_neg (by simpa using hne)]

theorem getItem_head {f : CStr × Json} {fields : List (CStr × Json)} {key : CStr}
    (heq : f.1 = key) : (Json.obj (f :: fields)).getItemCaseSensitive key = some f.2 := by
  unfold Json.getItemCaseSensitive
  simp only
  rw [List.find?_cons_of_pos (by simpa using heq)]
  rfl

/-- A member printed as it is and read as itself needs no escapes, and the members
behind its comma follow. -/
theorem JsonMembers.string_comma {key s t text rest : CStr} {fields : List (CStr × Json)}
    (hkey : key.all isUnescaped = true) (h : JsonMembers strtod t fields rest)
    (htext : t <+: stringMember key s (',' :: text))
    (hread : (Json.obj fields).getItemCaseSensitive key = some (.str s)) :
    s.all isUnescaped = true ∧ ∃ f fs t', fields = f :: fs ∧ f.1 = key ∧ t' <+: text ∧
      JsonMembers strtod t' fs rest := by
  have hfirst : ∀ f fs rest', fields = f :: fs → JsonMember strtod t f rest' →
      f.1 = key ∧ s.all isUnescaped = true ∧ ∃ t', t' <+: ',' :: text ∧ JsonSpace t' rest' := by
    rintro f fs rest' rfl hmember
    obtain ⟨hname, hvalue⟩ := hmember.string hkey htext
    rw [getItem_head hname] at hread
    exact ⟨hname, hvalue (Option.some.inj hread)⟩
  obtain ⟨f, fs, c, rest', hfields, hmember⟩ := h.first
  obtain ⟨hname, hall, -⟩ := hfirst f fs _ hfields hmember
  obtain ⟨f', fs', t', hfields', htext', hmore⟩ :=
    h.comma fun f fs rest' hf hm => (hfirst f fs rest' hf hm).2.2
  cases hfields.symm.trans hfields'
  exact ⟨hall, f, fs, t', hfields, hname, htext', hmore⟩

theorem JsonMembers.number_comma {key lit t text rest : CStr} {fields : List (CStr × Json)}
    (hkey : key.all isUnescaped = true) (hlit : IsNumber lit) (h : JsonMembers strtod t fields rest)
    (htext : t <+: keyed key (lit ++ ',' :: text)) :
    ∃ f fs t', fields = f :: fs ∧ f.1 = key ∧ t' <+: text ∧ JsonMembers strtod t' fs rest := by
  have hfirst : ∀ f rest', JsonMember strtod t f rest' →
      f.1 = key ∧ ∃ t', t' <+: ',' :: text ∧ JsonSpace t' rest' := fun f rest' hmember =>
    hmember.number hkey hlit.all.1 hlit.all.2 (by decide) htext
  obtain ⟨f, fs, c, rest', hfields, hmember⟩ := h.first
  obtain ⟨f', fs', t', hfields', htext', hmore⟩ :=
    h.comma fun f fs rest' _ hm => (hfirst f rest' hm).2
  cases hfields.symm.trans hfields'
  exact ⟨f, fs, t', hfields, (hfirst f _ hmember).1, htext', hmore⟩

end Members

/-! ## Printed numbers -/

theorem isDigits_printDecimal (n : Nat) : IsDigits (printDecimal n) :=
  ⟨Nat.toDigits_ne_nil, List.all_eq_true.2 fun _ hc => isDigit_of_mem_printDecimal hc⟩

theorem head_printDecimal {n : Nat} (hn : 0 < n) : (printDecimal n).head? ≠ some '0' := by
  induction n using Nat.strong_induction_on with
  | _ n ih =>
    unfold printDecimal
    rcases Nat.lt_or_ge n 10 with hsmall | hlarge
    · rw [Nat.toDigits_of_lt_base hsmall]
      have hdigit : ∀ k < 10, 0 < k → [Nat.digitChar k].head? ≠ some '0' := by decide
      exact hdigit n hsmall hn
    · rw [Nat.toDigits_of_base_le (by decide) hlarge,
        List.head?_append_of_ne_nil _ Nat.toDigits_ne_nil]
      exact ih (n / 10) (Nat.div_lt_self hn (by decide)) (Nat.div_pos hlarge (by decide))

theorem isInteger_take {s : CStr} (hs : IsDigits s) (hhead : s.head? ≠ some '0') {n : Nat}
    (hn : 0 < n) : IsInteger (s.take n) := by
  obtain ⟨k, rfl⟩ := Nat.exists_eq_succ_of_ne_zero hn.ne'
  obtain ⟨c, s, rfl⟩ := List.exists_cons_of_ne_nil hs.1
  refine ⟨⟨by simp, List.all_eq_true.2 fun b hb =>
    List.all_eq_true.1 hs.2 b (List.mem_of_mem_take hb)⟩, fun hzero => ?_⟩
  exact absurd hzero hhead

theorem isInteger_printDecimal (n : Nat) : IsInteger (printDecimal n) := by
  refine ⟨isDigits_printDecimal n, fun hhead => ?_⟩
  rcases Nat.eq_zero_or_pos n with rfl | hn
  · rfl
  · exact absurd hhead (head_printDecimal hn)

theorem isNumber_of_isInteger {s : CStr} (h : IsInteger s) : IsNumber s :=
  ⟨[], s, [], [], by simp, .inl rfl, h, .inl rfl, .inl rfl⟩

theorem all_digits_zeros (n : Nat) {s : CStr} (hs : s.all Char.isDigit = true) :
    (List.replicate n '0' ++ s).all Char.isDigit = true := by
  rw [List.all_append, hs, Bool.and_true]
  exact List.all_eq_true.2 fun c hc => by rw [(List.mem_replicate.1 hc).2]; decide

theorem isDigits_padDecimal (width n : Nat) : IsDigits (padDecimal width n) :=
  ⟨List.append_ne_nil_of_right_ne_nil _ (isDigits_printDecimal n).1,
    all_digits_zeros _ (isDigits_printDecimal n).2⟩

theorem mem_dropTrailingZeros {s : CStr} {c : Char} (h : c ∈ dropTrailingZeros s) : c ∈ s := by
  unfold dropTrailingZeros at h
  exact List.mem_reverse.1 ((List.dropWhile_sublist _).subset (List.mem_reverse.1 h))

/-- What `%g` prints after the integer part of its digits. -/
theorem isFraction_point {ds : CStr} (hds : ds.all Char.isDigit = true) (n : Nat) :
    ∃ frac, (if dropTrailingZeros (ds.drop n) = [] then ds.take n
      else ds.take n ++ '.' :: dropTrailingZeros (ds.drop n)) = ds.take n ++ frac ∧
      IsFraction frac := by
  by_cases hnil : dropTrailingZeros (ds.drop n) = []
  · rw [if_pos hnil]
    exact ⟨[], (List.append_nil _).symm, .inl rfl⟩
  · rw [if_neg hnil]
    refine ⟨_, rfl, .inr ⟨_, rfl, hnil, List.all_eq_true.2 fun c hc => ?_⟩⟩
    exact List.all_eq_true.1 hds c (List.mem_of_mem_drop (mem_dropTrailingZeros hc))

theorem floor_le_nearbyint (q : ℚ) : ⌊q⌋ ≤ nearbyint q := by
  unfold nearbyint
  simp only
  split_ifs <;> omega

theorem nearbyint_digits_pos {q : ℚ} (hq : 0 < q) :
    0 < (nearbyint (q / (10 : ℚ) ^ (Int.log 10 q - 5))).toNat := by
  have hpow : (0 : ℚ) < 10 ^ (Int.log 10 q - 5) := zpow_pos (by norm_num) _
  have hlog : (10 : ℚ) ^ Int.log 10 q ≤ q := by
    have h := @Int.zpow_log_le_self ℚ _ _ _ _ 10 q (by decide) hq
    exact_mod_cast h
  have hone : (1 : ℚ) ≤ q / 10 ^ (Int.log 10 q - 5) := by
    rw [le_div_iff₀ hpow, one_mul]
    exact (zpow_le_zpow_right₀ (by norm_num) (by omega)).trans hlog
  have hfloor : 1 ≤ ⌊q / 10 ^ (Int.log 10 q - 5)⌋ := Int.le_floor.2 (by exact_mod_cast hone)
  have hround := floor_le_nearbyint (q / 10 ^ (Int.log 10 q - 5))
  omega

theorem isNumber_printGPos {q : ℚ} (hq : 0 < q) {sign : CStr} (hsign : sign = [] ∨ sign = ['-']) :
    IsNumber (sign ++ printGPos q) := by
  unfold printGPos
  simp only
  generalize hm : (nearbyint (q / (10 : ℚ) ^ (Int.log 10 q - 5))).toNat = m
  have hpos : 0 < (if m = 10 ^ 6 then 10 ^ 5 else m) := by
    have hm' := nearbyint_digits_pos hq
    rw [hm] at hm'
    split
    · decide
    · exact hm'
  generalize (if m = 10 ^ 6 then 10 ^ 5 else m) = digits at hpos ⊢
  generalize (if m = 10 ^ 6 then Int.log 10 q + 1 else Int.log 10 q) = e
  have hdigits := isDigits_printDecimal digits
  have hhead := head_printDecimal hpos
  split
  · obtain ⟨frac, hprint, hfrac⟩ := isFraction_point hdigits.2 1
    rw [hprint]
    refine ⟨sign, (printDecimal digits).take 1, frac, 'e' :: (if e < 0 then '-' else '+') ::
      padDecimal 2 e.natAbs, by simp, hsign, isInteger_take hdigits hhead Nat.one_pos, hfrac, ?_⟩
    refine .inr ⟨'e', [if e < 0 then '-' else '+'], padDecimal 2 e.natAbs, by simp, .inl rfl, ?_, ?_⟩
    · split
      · exact .inr (.inr rfl)
      · exact .inr (.inl rfl)
    · exact isDigits_padDecimal 2 e.natAbs
  · split
    · have hzeros : (List.replicate e.natAbs '0' ++ printDecimal digits).all Char.isDigit = true :=
        all_digits_zeros e.natAbs hdigits.2
      obtain ⟨frac, hprint, hfrac⟩ := isFraction_point hzeros 1
      rw [hprint]
      refine ⟨sign, (List.replicate e.natAbs '0' ++ printDecimal digits).take 1, frac, [], by simp,
        hsign, ?_, hfrac, .inl rfl⟩
      obtain ⟨k, hk⟩ := Nat.exists_eq_succ_of_ne_zero (show e.natAbs ≠ 0 by omega)
      rw [hk, List.replicate_succ, List.cons_append, List.take_succ_cons, List.take_zero]
      exact ⟨⟨List.cons_ne_nil _ _, by decide⟩, fun _ => rfl⟩
    · obtain ⟨frac, hprint, hfrac⟩ := isFraction_point hdigits.2 (e.toNat + 1)
      rw [hprint]
      exact ⟨sign, (printDecimal digits).take (e.toNat + 1), frac, [], by simp, hsign,
        isInteger_take hdigits hhead (Nat.succ_pos _), hfrac, .inl rfl⟩

theorem isNumber_printG (q : ℚ) : IsNumber (CFloat.fin q).printG := by
  unfold CFloat.printG
  simp only
  by_cases hzero : q = 0
  · rw [if_pos hzero]
    exact isNumber_of_isInteger ⟨⟨List.cons_ne_nil _ _, by decide⟩, fun _ => rfl⟩
  · rw [if_neg hzero]
    split
    · rename_i hneg
      exact isNumber_printGPos (neg_pos.2 hneg) (.inr rfl)
    · rename_i hpos
      exact isNumber_printGPos (lt_of_le_of_ne (not_lt.1 hpos) (Ne.symm hzero)) (.inl rfl)

theorem not_isNumber_nil : ¬ IsNumber [] := fun h => h.all.2 rfl

theorem not_isNumber_sign : ¬ IsNumber ['-'] := by
  rintro ⟨sign, int, frac, exp, htext, hsign, ⟨⟨hne, hdigits⟩, -⟩, -, -⟩
  obtain ⟨c, int, rfl⟩ := List.exists_cons_of_ne_nil hne
  rcases hsign with rfl | rfl
  · obtain ⟨rfl, -⟩ := List.cons.inj htext
    exact absurd (List.all_eq_true.1 hdigits '-' List.mem_cons_self) (by decide)
  · cases (List.cons.inj htext).2

theorem JsonValue.finite {strtod : CStr → CFloat} {t rest text : CStr} {j : Json} {x : CFloat}
    (h : JsonValue strtod t j rest) (htext : t <+: x.printG ++ text) : x.isFinite = true := by
  have hmarks : (['t', 'f', '"', '[', '\x7b'].all fun b => b != 'n' && b != 'i' && b != '-') =
      true := by decide
  have hmark : ∀ b ∈ ['t', 'f', '"', '[', '\x7b'], b ≠ 'n' ∧ b ≠ 'i' ∧ b ≠ '-' := by
    intro b hb
    have h := List.all_eq_true.1 hmarks b hb
    simp only [Bool.and_eq_true, bne_iff_ne] at h
    exact ⟨h.1.1, h.1.2, h.2⟩
  have hstuck : ∀ {b : Char} {text' : CStr}, isNumberChar b = false → t <+: b :: text' →
      t.takeWhile isNumberChar = [] := by
    intro b text' hb hprefix
    cases t with
    | nil => rfl
    | cons a t =>
      rw [(List.cons_prefix_cons.1 hprefix).1, List.takeWhile_cons_of_neg (by rw [hb]; decide)]
  cases x with
  | fin q => rfl
  | nan =>
    have hnan : t <+: 'n' :: 'a' :: 'n' :: text := htext
    rcases h.begins with ⟨t', rfl⟩ | ⟨b, t', rfl, hb⟩ | ⟨hnumber, -⟩
    · exact absurd (List.cons_prefix_cons.1 (List.cons_prefix_cons.1 hnan).2).1 (by decide)
    · exact absurd (List.cons_prefix_cons.1 hnan).1 (hmark b hb).1
    · rw [hstuck (by decide) hnan] at hnumber
      exact absurd hnumber not_isNumber_nil
  | inf neg =>
    cases neg with
    | false =>
      have hinf : t <+: 'i' :: 'n' :: 'f' :: text := htext
      rcases h.begins with ⟨t', rfl⟩ | ⟨b, t', rfl, hb⟩ | ⟨hnumber, -⟩
      · exact absurd (List.cons_prefix_cons.1 hinf).1 (by decide)
      · exact absurd (List.cons_prefix_cons.1 hinf).1 (hmark b hb).2.1
      · rw [hstuck (by decide) hinf] at hnumber
        exact absurd hnumber not_isNumber_nil
    | true =>
      have hinf : t <+: '-' :: 'i' :: 'n' :: 'f' :: text := htext
      rcases h.begins with ⟨t', rfl⟩ | ⟨b, t', rfl, hb⟩ | ⟨hnumber, -⟩
      · exact absurd (List.cons_prefix_cons.1 hinf).1 (by decide)
      · exact absurd (List.cons_prefix_cons.1 hinf).1 (hmark b hb).2.2
      · cases t with
        | nil => exact absurd hnumber not_isNumber_nil
        | cons a t =>
          obtain ⟨rfl, hinf'⟩ := List.cons_prefix_cons.1 hinf
          have hsign : ('-' :: t).takeWhile isNumberChar = ['-'] := by
            rw [List.takeWhile_cons_of_pos (by decide)]
            cases t with
            | nil => rfl
            | cons b t =>
              rw [(List.cons_prefix_cons.1 hinf').1, List.takeWhile_cons_of_neg (by decide)]
          rw [hsign] at hnumber
          exact absurd hnumber not_isNumber_sign

theorem printG_head (x : CFloat) : ∃ c s, x.printG = c :: s ∧ isJsonSpace c = false := by
  cases x with
  | nan => exact ⟨'n', ['a', 'n'], rfl, by decide⟩
  | inf neg =>
    cases neg
    · exact ⟨'i', ['n', 'f'], rfl, by decide⟩
    · exact ⟨'-', ['i', 'n', 'f'], rfl, by decide⟩
  | fin q =>
    obtain ⟨hall, hne⟩ := (isNumber_printG q).all
    obtain ⟨c, s, hprint⟩ := List.exists_cons_of_ne_nil hne
    rw [hprint] at hall
    exact ⟨c, s, hprint,
      not_space_of_numberChar (List.all_eq_true.1 hall c List.mem_cons_self)⟩

theorem JsonMember.finite {strtod : CStr → CFloat} {key t text rest : CStr} {f : CStr × Json}
    {x : CFloat} (hkey : key.all isUnescaped = true) (h : JsonMember strtod t f rest)
    (htext : t <+: keyed key (x.printG ++ text)) : x.isFinite = true := by
  obtain ⟨c, s, hprint, hc⟩ := printG_head x
  rw [hprint] at htext
  obtain ⟨-, t₁, t₂, htext, hvalue, -⟩ := h.value hkey htext hc
  exact hvalue.finite (by rw [hprint]; exact htext)

/-- The last member, printed as it is and read as itself, is not cut off. -/
theorem JsonMembers.string_end {strtod : CStr → CFloat} {key s t tail rest : CStr}
    {fields : List (CStr × Json)} (hkey : key.all isUnescaped = true)
    (h : JsonMembers strtod t fields rest) (htext : t <+: stringMember key s tail)
    (hread : (Json.obj fields).getItemCaseSensitive key = some (.str s)) :
    s.all isUnescaped = true ∧ tail ≠ [] := by
  obtain ⟨f, fs, c, rest', rfl, hmember⟩ := h.first
  obtain ⟨hname, hvalue⟩ := hmember.string hkey htext
  rw [getItem_head hname] at hread
  obtain ⟨hall, t', htail, hspace⟩ := hvalue (Option.some.inj hread)
  refine ⟨hall, ?_⟩
  rintro rfl
  rw [List.prefix_nil.1 htail] at hspace
  cases hspace

/-! ## The length of a printed number -/

theorem nearbyint_le_floor_add_one (q : ℚ) : nearbyint q ≤ ⌊q⌋ + 1 := by
  unfold nearbyint
  simp only
  split_ifs <;> omega

theorem dropTrailingZeros_length (s : CStr) : (dropTrailingZeros s).length ≤ s.length := by
  unfold dropTrailingZeros
  have h := List.length_dropWhile_le (fun c => decide (c = '0')) s.reverse
  rw [List.length_reverse] at h ⊢
  exact h

theorem point_length (n : Nat) (ds : CStr) :
    (if dropTrailingZeros (ds.drop n) = [] then ds.take n
      else ds.take n ++ '.' :: dropTrailingZeros (ds.drop n)).length ≤ ds.length + 1 := by
  have hdrop := dropTrailingZeros_length (ds.drop n)
  rw [List.length_drop] at hdrop
  split
  · rw [List.length_take]
    omega
  · rw [List.length_append, List.length_cons, List.length_take]
    omega

theorem padDecimal_length {n : Nat} (hn : n < 10 ^ 4) : (padDecimal 2 n).length ≤ 4 := by
  have hdigits := printDecimal_length_le (by decide) hn
  unfold padDecimal
  rw [List.length_append, List.length_replicate]
  omega

/-- The exponent of a number that is neither very large nor very small. -/
theorem log_bounds {q : ℚ} (hlow : (10 : ℚ) ^ (-1000 : ℤ) ≤ q) (hhigh : q < (10 : ℚ) ^ (1000 : ℤ)) :
    -1000 ≤ Int.log 10 q ∧ Int.log 10 q < 1000 := by
  have hpos : 0 < q := lt_of_lt_of_le (zpow_pos (by norm_num) _) hlow
  constructor
  · have h := (Int.zpow_le_iff_le_log (b := 10) (by decide) hpos (x := -1000)).1
    exact h (by exact_mod_cast hlow)
  · have h := (Int.lt_zpow_iff_log_lt (b := 10) (by decide) hpos (x := 1000)).1
    exact h (by exact_mod_cast hhigh)

theorem nearbyint_digits_le (q : ℚ) :
    (nearbyint (q / (10 : ℚ) ^ (Int.log 10 q - 5))).toNat ≤ 10 ^ 6 := by
  have hpow : (0 : ℚ) < 10 ^ (Int.log 10 q - 5) := zpow_pos (by norm_num) _
  have hlog : q < (10 : ℚ) ^ (Int.log 10 q + 1) := by
    have h := @Int.lt_zpow_succ_log_self ℚ _ _ _ _ 10 (by decide) q
    exact_mod_cast h
  have hsix : q / 10 ^ (Int.log 10 q - 5) < (10 ^ 6 : ℕ) := by
    rw [div_lt_iff₀ hpow]
    have hsplit : (10 : ℚ) ^ (Int.log 10 q + 1) = (10 ^ 6 : ℕ) * 10 ^ (Int.log 10 q - 5) := by
      have hexp : Int.log 10 q + 1 = 6 + (Int.log 10 q - 5) := by omega
      rw [hexp, zpow_add₀ (by norm_num)]
      norm_num
    rwa [← hsplit]
  have hfloor : ⌊q / 10 ^ (Int.log 10 q - 5)⌋ < (10 ^ 6 : ℕ) :=
    Int.floor_lt.2 (by exact_mod_cast hsix)
  have hround := nearbyint_le_floor_add_one (q / 10 ^ (Int.log 10 q - 5))
  omega

theorem printGPos_length {q : ℚ} (hlow : (10 : ℚ) ^ (-1000 : ℤ) ≤ q)
    (hhigh : q < (10 : ℚ) ^ (1000 : ℤ)) : (printGPos q).length ≤ 14 := by
  obtain ⟨hmin, hmax⟩ := log_bounds hlow hhigh
  have hdigits := nearbyint_digits_le q
  unfold printGPos
  simp only
  generalize (nearbyint (q / (10 : ℚ) ^ (Int.log 10 q - 5))).toNat = m at hdigits ⊢
  have hm : (if m = 10 ^ 6 then 10 ^ 5 else m) < 10 ^ 6 := by
    split
    · decide
    · omega
  generalize (if m = 10 ^ 6 then 10 ^ 5 else m) = digits at hm ⊢
  have he : (if m = 10 ^ 6 then Int.log 10 q + 1 else Int.log 10 q).natAbs ≤ 1000 := by
    split <;> omega
  generalize (if m = 10 ^ 6 then Int.log 10 q + 1 else Int.log 10 q) = e at he ⊢
  have hsix := printDecimal_length_le (by decide) hm
  split
  · have hpoint := point_length 1 (printDecimal digits)
    have hexp := padDecimal_length (show e.natAbs < 10 ^ 4 by omega)
    rw [List.length_append, List.length_cons, List.length_cons]
    omega
  · split
    · have hpoint := point_length 1 (List.replicate e.natAbs '0' ++ printDecimal digits)
      rw [List.length_append, List.length_replicate] at hpoint
      omega
    · have hpoint := point_length (e.toNat + 1) (printDecimal digits)
      omega

/-- `%g` prints at most fifteen characters of a number that is neither very large
nor very small. -/
theorem printG_length {q : ℚ}
    (h : q = 0 ∨ (10 : ℚ) ^ (-1000 : ℤ) ≤ |q| ∧ |q| < (10 : ℚ) ^ (1000 : ℤ)) :
    (CFloat.fin q).printG.length ≤ 15 := by
  unfold CFloat.printG
  simp only
  rcases h with hzero | ⟨hlow, hhigh⟩
  · rw [if_pos hzero]
    decide
  · split
    · decide
    · split
      · rename_i hneg
        rw [abs_of_neg hneg] at hlow hhigh
        exact Nat.succ_le_succ (printGPos_length hlow hhigh)
      · rename_i hpos
        rw [abs_of_nonneg (not_lt.1 hpos)] at hlow hhigh
        exact (printGPos_length hlow hhigh).trans (by decide)

end McpGateway.Lib
