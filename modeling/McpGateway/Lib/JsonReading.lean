import McpGateway.Lib.JsonText

/-!
# What a text says

The text of a document is the text of no other one (`IsJsonText.unique`), and
has no NUL in it (`IsJsonText.no_nul`). A library that keeps its strings as C
strings gives a document back cut at the NULs in them: `Json.cStrings`.
-/

namespace McpGateway.Lib

/-! ## Texts without a NUL -/

/-- What is read before `rest` has no NUL in it. -/
def Passes (t rest : CStr) : Prop := ∃ read, t = read ++ rest ∧ '\x00' ∉ read

namespace Passes

theorem refl (t : CStr) : Passes t t := ⟨[], rfl, List.not_mem_nil⟩

theorem cons {c : Char} {t rest : CStr} (hc : c ≠ '\x00') (h : Passes t rest) :
    Passes (c :: t) rest := by
  obtain ⟨read, rfl, hread⟩ := h
  refine ⟨c :: read, rfl, fun hmem => ?_⟩
  rcases List.mem_cons.1 hmem with hnul | hmem
  · exact hc hnul.symm
  · exact hread hmem

theorem trans {t u rest : CStr} (h : Passes t u) (h' : Passes u rest) : Passes t rest := by
  obtain ⟨read, rfl, hread⟩ := h
  obtain ⟨read', rfl, hread'⟩ := h'
  refine ⟨read ++ read', (List.append_assoc _ _ _).symm, fun hmem => ?_⟩
  exact (List.mem_append.1 hmem).elim hread hread'

theorem of_all {p : Char → Bool} (hp : p '\x00' = false) {read : CStr} (h : read.all p = true)
    (rest : CStr) : Passes (read ++ rest) rest := by
  refine ⟨read, rfl, fun hmem => ?_⟩
  have hnul := List.all_eq_true.1 h _ hmem
  rw [hp] at hnul
  cases hnul

theorem mark {t rest : CStr} {c : Char} (h : Passes t (c :: rest)) (hc : c ≠ '\x00') :
    Passes t rest := h.trans (.cons hc (.refl rest))

end Passes

theorem JsonSpace.passes {t rest : CStr} (h : JsonSpace t rest) : Passes t rest := by
  induction h with
  | nil t => exact .refl t
  | cons hspace _ ih =>
    refine .cons (fun hnul => ?_) ih
    rw [hnul] at hspace
    exact absurd hspace (by decide)

theorem JsonEscape.passes {t e rest : CStr} (h : JsonEscape t e rest) : Passes t rest := by
  have hhex : isHex '\x00' = false := by decide
  cases h with
  | short _ hmem =>
    refine .cons (fun hnul => ?_) (.refl _)
    rw [hnul] at hmem
    simp [shortEscapes] at hmem
  | unicode _ _ hdigits => exact .cons (by decide) (.of_all hhex hdigits _)
  | pair _ _ hhigh _ hlow =>
    rw [List.append_assoc]
    exact .cons (by decide) ((Passes.of_all hhex hhigh _).trans
      (.cons (by decide) (.cons (by decide) (.of_all hhex hlow _))))

theorem JsonChars.passes {t s rest : CStr} (h : JsonChars t s rest) : Passes t rest := by
  induction h with
  | close rest => exact .cons (by decide) (.refl rest)
  | plain hc _ ih =>
    refine .cons (fun hnul => ?_) ih
    rw [hnul] at hc
    exact absurd hc (by decide)
  | escape hescape _ ih => exact .cons (by decide) (hescape.passes.trans ih)

section Values

variable {strtod : CStr → CFloat}

mutual

theorem JsonValue.passes {t rest : CStr} {j : Json} (h : JsonValue strtod t j rest) :
    Passes t rest := by
  cases h with
  | nullWord => exact ⟨['n', 'u', 'l', 'l'], rfl, by decide⟩
  | trueWord => exact ⟨['t', 'r', 'u', 'e'], rfl, by decide⟩
  | falseWord => exact ⟨['f', 'a', 'l', 's', 'e'], rfl, by decide⟩
  | number hnumber =>
    have hread := Passes.of_all (by decide) hnumber.all.1 (t.dropWhile isNumberChar)
    rwa [List.takeWhile_append_dropWhile] at hread
  | string hchars => exact .cons (by decide) hchars.passes
  | emptyArray hclose => exact .cons (by decide) (hclose.passes.mark (by decide))
  | array hitems => exact .cons (by decide) hitems.passes
  | emptyObject hclose => exact .cons (by decide) (hclose.passes.mark (by decide))
  | object hmembers => exact .cons (by decide) hmembers.passes

theorem JsonItems.passes {t rest : CStr} {items : List Json} (h : JsonItems strtod t items rest) :
    Passes t rest := by
  cases h with
  | last hspace hvalue hend =>
    exact hspace.passes.trans (hvalue.passes.trans (hend.passes.mark (by decide)))
  | cons hspace hvalue hcomma hitems =>
    have hitem := hspace.passes.trans (hvalue.passes.trans (hcomma.passes.mark (by decide)))
    exact hitem.trans hitems.passes

theorem JsonMember.passes {t rest : CStr} {f : CStr × Json} (h : JsonMember strtod t f rest) :
    Passes t rest := by
  cases h with
  | mk hquote hname hcolon hspace hvalue hrest =>
    have hkey := (hquote.passes.mark (by decide)).trans hname.passes
    have hbefore := (hcolon.passes.mark (by decide)).trans hspace.passes
    exact hkey.trans (hbefore.trans (hvalue.passes.trans hrest.passes))

theorem JsonMembers.passes {t rest : CStr} {fields : List (CStr × Json)}
    (h : JsonMembers strtod t fields rest) : Passes t rest := by
  cases h with
  | last hlast => exact hlast.passes.mark (by decide)
  | cons hmember hmembers => exact (hmember.passes.mark (by decide)).trans hmembers.passes

end

theorem IsJsonText.no_nul {t : CStr} {j : Json} (h : IsJsonText strtod t j) : '\x00' ∉ t := by
  obtain ⟨u, r, hspace, hvalue, hend⟩ := h
  obtain ⟨read, hread, hnul⟩ := hspace.passes.trans (hvalue.passes.trans hend.passes)
  rwa [hread, List.append_nil]

end Values

/-! ## One document -/

theorem JsonSpace.unique {t r r' : CStr} {c c' : Char} (h : JsonSpace t (c :: r))
    (h' : JsonSpace t (c' :: r')) (hc : isJsonSpace c = false) (hc' : isJsonSpace c' = false) :
    c = c' ∧ r = r' := by
  generalize hrest : c :: r = rest at h
  induction h with
  | nil t =>
    subst hrest
    obtain ⟨heq, -, -⟩ := h'.head List.prefix_rfl hc
    exact List.cons.inj heq
  | cons hspace _ ih =>
    refine ih ?_ hrest
    cases h' with
    | nil => exact absurd hspace (by rw [hc']; decide)
    | cons _ h' => exact h'

theorem shortEscapes_unique {l c c' : Char} (h : (l, c) ∈ shortEscapes)
    (h' : (l, c') ∈ shortEscapes) : c = c' := by
  simp only [shortEscapes, List.mem_cons, Prod.mk.injEq, List.not_mem_nil, or_false] at h h'
  rcases h with ⟨rfl, rfl⟩ | ⟨rfl, rfl⟩ | ⟨rfl, rfl⟩ | ⟨rfl, rfl⟩ | ⟨rfl, rfl⟩ | ⟨rfl, rfl⟩ |
    ⟨rfl, rfl⟩ | ⟨rfl, rfl⟩ <;> simp_all

theorem u_not_short {c : Char} : ('u', c) ∉ shortEscapes := by
  simp [shortEscapes]

/-- Four digits read after `u`, whatever follows. -/
theorem digits_unique {d d' r r' : CStr} (hd : d.length = 4) (hd' : d'.length = 4)
    (h : d ++ r = d' ++ r') : d = d' ∧ r = r' := List.append_inj h (hd.trans hd'.symm)

theorem JsonEscape.unique {t e e' r r' : CStr} (h : JsonEscape t e r) (h' : JsonEscape t e' r') :
    e = e' ∧ r = r' := by
  cases h with
  | short _ hmem =>
    generalize ht : _ :: r = t at h'
    cases h' with
    | short _ hmem' =>
      obtain ⟨rfl, rfl⟩ := List.cons.inj ht
      exact ⟨congrArg (fun c => [c]) (shortEscapes_unique hmem hmem'), rfl⟩
    | unicode =>
      obtain ⟨rfl, -⟩ := List.cons.inj ht
      exact absurd hmem u_not_short
    | pair =>
      obtain ⟨rfl, -⟩ := List.cons.inj ht
      exact absurd hmem u_not_short
  | unicode _ hlength _ hcode =>
    generalize ht : 'u' :: _ ++ r = t at h'
    cases h' with
    | short _ hmem' =>
      obtain ⟨rfl, -⟩ := List.cons.inj ht
      exact absurd hmem' u_not_short
    | unicode _ hlength' =>
      obtain ⟨rfl, rfl⟩ := digits_unique hlength hlength' (List.cons.inj ht).2
      exact ⟨rfl, rfl⟩
    | pair _ hhigh _ _ _ hlow hhigh =>
      rw [List.append_assoc] at ht
      obtain ⟨rfl, -⟩ := digits_unique hlength ‹_› (List.cons.inj ht).2
      omega
  | pair _ hhigh _ hlow _ hfrom hto =>
    generalize ht : 'u' :: _ ++ '\\' :: 'u' :: _ ++ r = t at h'
    rw [List.append_assoc] at ht
    cases h' with
    | short _ hmem' =>
      obtain ⟨rfl, -⟩ := List.cons.inj ht
      exact absurd hmem' u_not_short
    | unicode _ hlength' _ hcode =>
      obtain ⟨rfl, -⟩ := digits_unique hhigh hlength' (List.cons.inj ht).2
      omega
    | pair _ hhigh' _ hlow' =>
      rw [List.append_assoc] at ht
      obtain ⟨rfl, hrest⟩ := digits_unique hhigh hhigh' (List.cons.inj ht).2
      obtain ⟨rfl, rfl⟩ := digits_unique hlow hlow' (List.cons.inj (List.cons.inj hrest).2).2
      exact ⟨rfl, rfl⟩

theorem JsonChars.unique {t s s' r r' : CStr} (h : JsonChars t s r) (h' : JsonChars t s' r') :
    s = s' ∧ r = r' := by
  induction h generalizing s' r' with
  | close rest =>
    cases h' with
    | close => exact ⟨rfl, rfl⟩
    | plain hc => exact absurd rfl (isUnescaped_ne hc).1
  | plain hc _ ih =>
    cases h' with
    | close => exact absurd rfl (isUnescaped_ne hc).1
    | plain _ h' =>
      obtain ⟨rfl, rfl⟩ := ih h'
      exact ⟨rfl, rfl⟩
    | escape => exact absurd rfl (isUnescaped_ne hc).2
  | escape hescape _ ih =>
    cases h' with
    | plain hc => exact absurd rfl (isUnescaped_ne hc).2
    | escape hescape' h' =>
      obtain ⟨rfl, rfl⟩ := hescape.unique hescape'
      obtain ⟨rfl, rfl⟩ := ih h'
      exact ⟨rfl, rfl⟩

section Values

variable {strtod : CStr → CFloat}

theorem not_isNumber_mark {c : Char} (hc : isNumberChar c = false) (t : CStr) :
    ¬ IsNumber ((c :: t).takeWhile isNumberChar) := by
  rw [List.takeWhile_cons_of_neg (by rw [hc]; decide)]
  exact not_isNumber_nil

/-- A value begins with neither a blank nor a closing bracket. -/
theorem JsonValue.head {t rest : CStr} {j : Json} (h : JsonValue strtod t j rest) :
    ∃ c t', t = c :: t' ∧ isJsonSpace c = false ∧ c ≠ ']' := by
  cases h with
  | number hnumber =>
    cases t with
    | nil => exact absurd hnumber not_isNumber_nil
    | cons c t =>
      have hc : isNumberChar c = true := by
        by_contra hc
        exact not_isNumber_mark (Bool.not_eq_true _ ▸ hc) t hnumber
      refine ⟨c, t, rfl, not_space_of_numberChar hc, fun h => ?_⟩
      rw [h] at hc
      exact absurd hc (by decide)
  | nullWord => exact ⟨_, _, rfl, by decide, by decide⟩
  | trueWord => exact ⟨_, _, rfl, by decide, by decide⟩
  | falseWord => exact ⟨_, _, rfl, by decide, by decide⟩
  | string => exact ⟨_, _, rfl, by decide, by decide⟩
  | emptyArray => exact ⟨_, _, rfl, by decide, by decide⟩
  | array => exact ⟨_, _, rfl, by decide, by decide⟩
  | emptyObject => exact ⟨_, _, rfl, by decide, by decide⟩
  | object => exact ⟨_, _, rfl, by decide, by decide⟩

theorem JsonSpace.unique_value {t u u' rest rest' : CStr} {j j' : Json} (h : JsonSpace t u)
    (hv : JsonValue strtod u j rest) (h' : JsonSpace t u') (hv' : JsonValue strtod u' j' rest') :
    u = u' := by
  obtain ⟨c, r, rfl, hc, -⟩ := hv.head
  obtain ⟨c', r', rfl, hc', -⟩ := hv'.head
  obtain ⟨rfl, rfl⟩ := h.unique h' hc hc'
  rfl

theorem JsonItems.not_close {t rest rest' : CStr} {items : List Json}
    (h : JsonItems strtod t items rest) : ¬ JsonSpace t (']' :: rest') := by
  intro hclose
  have hfirst : ∃ u j r, JsonSpace t u ∧ JsonValue strtod u j r := by
    cases h with
    | last hspace hvalue => exact ⟨_, _, _, hspace, hvalue⟩
    | cons hspace hvalue => exact ⟨_, _, _, hspace, hvalue⟩
  obtain ⟨u, j, r, hspace, hvalue⟩ := hfirst
  obtain ⟨c, r, rfl, hc, hne⟩ := hvalue.head
  exact hne (hspace.unique hclose hc (by decide)).1

theorem JsonMembers.not_close {t rest rest' : CStr} {fields : List (CStr × Json)}
    (h : JsonMembers strtod t fields rest) : ¬ JsonSpace t ('\x7d' :: rest') := by
  intro hclose
  obtain ⟨f, fs, c, r, -, hmember⟩ := h.first
  cases hmember with
  | mk hspace => exact absurd (hspace.unique hclose (by decide) (by decide)).1 (by decide)

/-! What a value can be, by its first character. -/

namespace JsonValue

theorem of_word {c : Char} {t r : CStr} {j : Json} (h : JsonValue strtod (c :: t) j r)
    (hc : c ∈ ['n', 't', 'f']) :
    j = (if c = 'n' then .null else .bool (c = 't')) ∧ r = t.drop (if c = 'f' then 4 else 3) := by
  have hmarks : (['n', 't', 'f'].all fun b => !isNumberChar b) = true := by decide
  have hmark : isNumberChar c = false := by simpa using List.all_eq_true.1 hmarks c hc
  cases h with
  | nullWord => exact ⟨rfl, rfl⟩
  | trueWord => exact ⟨rfl, rfl⟩
  | falseWord => exact ⟨rfl, rfl⟩
  | number hnumber => exact absurd hnumber (not_isNumber_mark hmark t)
  | _ => exact absurd hc (by decide)

theorem of_digits {t r : CStr} {j : Json} (h : JsonValue strtod t j r)
    (hnumber : IsNumber (t.takeWhile isNumberChar)) :
    j = .num (strtod (t.takeWhile isNumberChar)) ∧ r = t.dropWhile isNumberChar := by
  cases h with
  | number => exact ⟨rfl, rfl⟩
  | _ => exact absurd hnumber (not_isNumber_mark (by decide) _)

theorem of_quote {t r : CStr} {j : Json} (h : JsonValue strtod ('"' :: t) j r) :
    ∃ s, j = .str s ∧ JsonChars t s r := by
  cases h with
  | number hnumber => exact absurd hnumber (not_isNumber_mark (by decide) t)
  | string hchars => exact ⟨_, rfl, hchars⟩

theorem of_bracket {t r : CStr} {j : Json} (h : JsonValue strtod ('[' :: t) j r) :
    j = .arr [] ∧ JsonSpace t (']' :: r) ∨ ∃ items, j = .arr items ∧ JsonItems strtod t items r := by
  cases h with
  | number hnumber => exact absurd hnumber (not_isNumber_mark (by decide) t)
  | emptyArray hclose => exact .inl ⟨rfl, hclose⟩
  | array hitems => exact .inr ⟨_, rfl, hitems⟩

theorem of_brace {t r : CStr} {j : Json} (h : JsonValue strtod ('\x7b' :: t) j r) :
    j = .obj [] ∧ JsonSpace t ('\x7d' :: r) ∨
      ∃ fields, j = .obj fields ∧ JsonMembers strtod t fields r := by
  cases h with
  | number hnumber => exact absurd hnumber (not_isNumber_mark (by decide) t)
  | emptyObject hclose => exact .inl ⟨rfl, hclose⟩
  | object hmembers => exact .inr ⟨_, rfl, hmembers⟩

end JsonValue

theorem JsonItems.starts {t r : CStr} {items : List Json} (h : JsonItems strtod t items r) :
    ∃ u j v, JsonSpace t u ∧ JsonValue strtod u j v ∧
      (items = [j] ∧ JsonSpace v (']' :: r) ∨
        ∃ w js, items = j :: js ∧ JsonSpace v (',' :: w) ∧ JsonItems strtod w js r) := by
  cases h with
  | last hspace hvalue hend => exact ⟨_, _, _, hspace, hvalue, .inl ⟨rfl, hend⟩⟩
  | cons hspace hvalue hcomma hitems =>
    exact ⟨_, _, _, hspace, hvalue, .inr ⟨_, _, rfl, hcomma, hitems⟩⟩

theorem JsonMembers.starts {t r : CStr} {fields : List (CStr × Json)}
    (h : JsonMembers strtod t fields r) :
    ∃ f, fields = [f] ∧ JsonMember strtod t f ('\x7d' :: r) ∨
      ∃ w fs, fields = f :: fs ∧ JsonMember strtod t f (',' :: w) ∧ JsonMembers strtod w fs r := by
  cases h with
  | last hlast => exact ⟨_, .inl ⟨rfl, hlast⟩⟩
  | cons hmember hmembers => exact ⟨_, .inr ⟨_, _, rfl, hmember, hmembers⟩⟩

theorem comma_no_space : isJsonSpace ',' = false := by decide

theorem bracket_no_space : isJsonSpace ']' = false := by decide

theorem brace_no_space : isJsonSpace '\x7d' = false := by decide

theorem JsonSpace.not_both {t r r' : CStr} {c : Char} (h : JsonSpace t (',' :: r))
    (h' : JsonSpace t (c :: r')) (hc : isJsonSpace c = false) (hne : ',' ≠ c) : False :=
  hne (h.unique h' comma_no_space hc).1

mutual

theorem JsonValue.unique {t r r' : CStr} {j j' : Json} (h : JsonValue strtod t j r)
    (h' : JsonValue strtod t j' r') : j = j' ∧ r = r' := by
  cases h with
  | nullWord =>
    obtain ⟨rfl, rfl⟩ := h'.of_word (by decide)
    exact ⟨rfl, rfl⟩
  | trueWord =>
    obtain ⟨rfl, rfl⟩ := h'.of_word (by decide)
    exact ⟨rfl, rfl⟩
  | falseWord =>
    obtain ⟨rfl, rfl⟩ := h'.of_word (by decide)
    exact ⟨rfl, rfl⟩
  | number hnumber =>
    obtain ⟨rfl, rfl⟩ := h'.of_digits hnumber
    exact ⟨rfl, rfl⟩
  | string hchars =>
    obtain ⟨s, rfl, hchars'⟩ := h'.of_quote
    obtain ⟨rfl, rfl⟩ := hchars.unique hchars'
    exact ⟨rfl, rfl⟩
  | emptyArray hclose =>
    rcases h'.of_bracket with ⟨rfl, hclose'⟩ | ⟨items, -, hitems⟩
    · exact ⟨rfl, (hclose.unique hclose' bracket_no_space bracket_no_space).2⟩
    · exact absurd hclose hitems.not_close
  | array hitems =>
    rcases h'.of_bracket with ⟨-, hclose⟩ | ⟨items, rfl, hitems'⟩
    · exact absurd hclose hitems.not_close
    · obtain ⟨rfl, rfl⟩ := hitems.unique hitems'
      exact ⟨rfl, rfl⟩
  | emptyObject hclose =>
    rcases h'.of_brace with ⟨rfl, hclose'⟩ | ⟨fields, -, hmembers⟩
    · exact ⟨rfl, (hclose.unique hclose' brace_no_space brace_no_space).2⟩
    · exact absurd hclose hmembers.not_close
  | object hmembers =>
    rcases h'.of_brace with ⟨-, hclose⟩ | ⟨fields, rfl, hmembers'⟩
    · exact absurd hclose hmembers.not_close
    · obtain ⟨rfl, rfl⟩ := hmembers.unique hmembers'
      exact ⟨rfl, rfl⟩

theorem JsonItems.unique {t r r' : CStr} {items items' : List Json}
    (h : JsonItems strtod t items r) (h' : JsonItems strtod t items' r') :
    items = items' ∧ r = r' := by
  obtain ⟨u, j, v, hspace', hvalue', hrest⟩ := h'.starts
  cases h with
  | last hspace hvalue hend =>
    cases hspace.unique_value hvalue hspace' hvalue'
    obtain ⟨rfl, rfl⟩ := hvalue.unique hvalue'
    rcases hrest with ⟨rfl, hend'⟩ | ⟨w, js, rfl, hcomma, -⟩
    · exact ⟨rfl, (hend.unique hend' bracket_no_space bracket_no_space).2⟩
    · exact (hcomma.not_both hend bracket_no_space (by decide)).elim
  | cons hspace hvalue hcomma hitems =>
    cases hspace.unique_value hvalue hspace' hvalue'
    obtain ⟨rfl, rfl⟩ := hvalue.unique hvalue'
    rcases hrest with ⟨rfl, hend⟩ | ⟨w, js, rfl, hcomma', hitems'⟩
    · exact (hcomma.not_both hend bracket_no_space (by decide)).elim
    · obtain ⟨-, rfl⟩ := hcomma.unique hcomma' comma_no_space comma_no_space
      obtain ⟨rfl, rfl⟩ := hitems.unique hitems'
      exact ⟨rfl, rfl⟩

theorem JsonMember.unique {t r r' : CStr} {f f' : CStr × Json} (h : JsonMember strtod t f r)
    (h' : JsonMember strtod t f' r') : f = f' ∧ ∃ u, JsonSpace u r ∧ JsonSpace u r' := by
  cases h with
  | mk hquote hname hcolon hspace hvalue hrest =>
    cases h' with
    | mk hquote' hname' hcolon' hspace' hvalue' hrest' =>
      obtain ⟨-, rfl⟩ := hquote.unique hquote' (by decide) (by decide)
      obtain ⟨rfl, rfl⟩ := hname.unique hname'
      obtain ⟨-, rfl⟩ := hcolon.unique hcolon' (by decide) (by decide)
      cases hspace.unique_value hvalue hspace' hvalue'
      obtain ⟨rfl, rfl⟩ := hvalue.unique hvalue'
      exact ⟨rfl, _, hrest, hrest'⟩

theorem JsonMembers.unique {t r r' : CStr} {fields fields' : List (CStr × Json)}
    (h : JsonMembers strtod t fields r) (h' : JsonMembers strtod t fields' r') :
    fields = fields' ∧ r = r' := by
  obtain ⟨f', hrest⟩ := h'.starts
  cases h with
  | last hlast =>
    rcases hrest with ⟨rfl, hlast'⟩ | ⟨w, fs, rfl, hmember, -⟩
    · obtain ⟨rfl, u, hend, hend'⟩ := hlast.unique hlast'
      exact ⟨rfl, (hend.unique hend' brace_no_space brace_no_space).2⟩
    · obtain ⟨-, u, hend, hcomma⟩ := hlast.unique hmember
      exact (hcomma.not_both hend brace_no_space (by decide)).elim
  | cons hmember hmembers =>
    rcases hrest with ⟨rfl, hlast⟩ | ⟨w, fs, rfl, hmember', hmembers'⟩
    · obtain ⟨-, u, hcomma, hend⟩ := hmember.unique hlast
      exact (hcomma.not_both hend brace_no_space (by decide)).elim
    · obtain ⟨rfl, u, hcomma, hcomma'⟩ := hmember.unique hmember'
      obtain ⟨-, rfl⟩ := hcomma.unique hcomma' comma_no_space comma_no_space
      obtain ⟨rfl, rfl⟩ := hmembers.unique hmembers'
      exact ⟨rfl, rfl⟩

end

theorem IsJsonText.unique {t : CStr} {j j' : Json} (h : IsJsonText strtod t j)
    (h' : IsJsonText strtod t j') : j = j' := by
  obtain ⟨u, r, hspace, hvalue, -⟩ := h
  obtain ⟨u', r', hspace', hvalue', -⟩ := h'
  cases hspace.unique_value hvalue hspace' hvalue'
  exact (hvalue.unique hvalue').1

end Values

/-! ## A library with C strings -/

namespace Json

mutual

/-- The document with each string cut at its first NUL. -/
def cStrings : Json → Json
  | .str s => .str (cutAt ['\x00'] s)
  | .arr items => .arr (cStringsItems items)
  | .obj fields => .obj (cStringsFields fields)
  | j => j

def cStringsItems : List Json → List Json
  | [] => []
  | j :: js => cStrings j :: cStringsItems js

def cStringsFields : List (CStr × Json) → List (CStr × Json)
  | [] => []
  | f :: fs => (cutAt ['\x00'] f.1, cStrings f.2) :: cStringsFields fs

end

end Json

/-- What the parser makes of the text of an object, if anything, is that object;
its strings are C strings. -/
def JsonLib.ReadsObjects (strtod : CStr → CFloat) (lib : JsonLib) : Prop :=
  ∀ t fields root, IsJsonText strtod t (.obj fields) → lib.parse t = some root →
    root = (Json.obj fields).cStrings

theorem knowing_readsObjects {strtod : CStr → CFloat} {fields : List (CStr × Json)}
    (htext : IsJsonText strtod (Json.obj fields).render (.obj fields))
    (hsame : (Json.obj fields).cStrings = (Json.obj fields).nullify) :
    (JsonLib.knowing [.obj fields]).ReadsObjects strtod := by
  intro t fields' root htext' hparse
  obtain ⟨d, hfind, rfl⟩ := Option.map_eq_some_iff.1 hparse
  obtain rfl : d = .obj fields := List.mem_singleton.1 (List.mem_of_find?_eq_some hfind)
  obtain rfl : (Json.obj fields).render = t := by simpa using List.find?_some hfind
  rw [← htext.unique htext', hsame]

end McpGateway.Lib
