import NovaValidation.ParameterTypes.Patterns
import NovaValidation.Regex.Semantics

/-!
# ParameterTypes/ValidName — what `valid_name_regex` and `valid_az_name_regex` accept

`^(?![A])[B]*(?<![A])$` compiles, for non-empty bodies `A` and `B`, to "at the start, not an `A`
code point ahead; `B` code points; not an `A` code point behind; the end".  So `re.search`
accepts a string when its code points are all in `B` and neither its first nor its last is in
`A` — up to `$`, which also matches before a final `\n`.

With the builder's bodies, `A` is "not printable or a space separator" and `B` "printable" (and
not `:` for availability zones).  So on every string `re.search` accepts the names of the reason
string's grammar (`IsValidName`) and, since `$` also matches before a final `\n`, every non-empty
such name followed by one `\n` (`validNameRegex_search`), though `\n` is not printable.  An empty
body breaks the pattern instead: `(?![])` swallows the rest of the pattern into a set.  So the
results assume each body has a member, as real Unicode gives (`U+0000` is `Cc`, `a` is `Ll`).
-/

namespace NovaValidation

/-- The tokens of `valid_name_regex_base % (A, B, A)` for written bodies `A`, `B`. -/
def nameToks (a b : List ClassItem) : List Tok :=
  .ch 94 :: .ch 40 :: .ch 63 :: .ch 33 :: .ch 91 :: (bodyToks a ++ .ch 93 :: .ch 41 :: .ch 91 ::
    (bodyToks b ++ .ch 93 :: .ch 42 :: .ch 40 :: .ch 63 :: .ch 60 :: .ch 33 :: .ch 91 ::
      (bodyToks a ++ [.ch 93, .ch 41, .ch 36])))

/-- The syntax tree of `^(?![A])[B]*(?<![A])$`. -/
def nameNode (a b : List ClassItem) : Node :=
  .ofSeq [.atBeginning, .assertNot 0 (.ofSeq [.inSet false a]), .maxRepeat 0 none (.inSet false b),
    .assertNot 1 (.ofSeq [.inSet false a]), .atEnd]

theorem tokenize_validNameRegexBase (a b : List ClassItem) :
    tokenize (validNameRegexBase (renderBody a) (renderBody b) (renderBody a)) =
      .ok (nameToks a b) := by
  simp only [validNameRegexBase, List.append_assoc]
  rw [tokenize_append_of_no_backslash _ (by decide), tokenize_renderBody_append,
    tokenize_append_of_no_backslash _ (by decide), tokenize_renderBody_append,
    tokenize_append_of_no_backslash _ (by decide), tokenize_renderBody_append]
  rfl

/-- A set read inside a group that closes right after it. -/
theorem parseSub_set_rparen {fuel : Nat} {items : List ClassItem} (h : items ≠ [])
    (rest : List Tok) :
    parseSub (fuel + 2) [] [] (.ch 91 :: (bodyToks items ++ .ch 93 :: .ch 41 :: rest)) =
      .ok (.ofSeq [.inSet false items], .ch 41 :: rest) := by
  rw [parseSub_set (parseClass_bodyToks items h _), parseSub_rparen]
  rfl

theorem parseSub_nameToks {a b : List ClassItem} (ha : a ≠ []) (hb : b ≠ []) (m : Nat) :
    parseSub (m + 8) [] [] (nameToks a b) = .ok (nameNode a b, []) := by
  rw [nameToks, parseSub_caret,
    parseSub_group (groupKind_negLookahead _) (parseSub_set_rparen ha _) (node_negLookahead _),
    parseSub_set (parseClass_bodyToks b hb _),
    parseSub_star (quantified_inSet (by decide) (by decide) _),
    parseSub_group (groupKind_negLookbehind _) (parseSub_set_rparen ha _)
      (node_negLookbehind_set _ _), parseSub_dollar, parseSub_nil]
  rfl

/-- **`valid_name_regex_base` compiles** to `nameNode` when both bodies are non-empty. -/
theorem compile_validNameRegexBase {a b : List ClassItem} (ha : a ≠ []) (hb : b ≠ []) :
    compile (validNameRegexBase (renderBody a) (renderBody b) (renderBody a)) =
      .ok (nameNode a b) :=
  compile_eq_of_parseSub (tokenize_validNameRegexBase a b) (by simp [nameToks]; omega)
    (parseSub_nameToks ha hb)

/-! ## What the compiled pattern matches -/

/-- **`^(?![A])[B]*(?<![A])$` on any string**: a match runs from `0` to a position `e` where `$`
holds, over code points in `B`, with no `A` code point at `0` and none just before `e`. -/
theorem search_nameNode {a b : List ClassItem} {s : List Nat} :
    search (nameNode a b) s ↔ ∃ e, (e = s.length ∨ (e + 1 = s.length ∧ s[e]? = some 10)) ∧
      AllBetween (fun c => inItems b c = true) s 0 e ∧
      (∀ c, s[0]? = some c → inItems a c = false) ∧
      (0 < e → ∀ c, s[e - 1]? = some c → inItems a c = false) := by
  simp only [search, nameNode, Node.matches_ofSeq_cons, Node.matches_atBeginning,
    Node.matches_assertNot_set, matches_star_inSet, Node.matches_atEnd, Node.matches_ofSeq_nil,
    Nat.sub_zero, Nat.zero_le, true_implies, Bool.not_eq_false, ne_eq]
  constructor
  · rintro ⟨i, -, j, k, ⟨rfl, rfl⟩, k1, ⟨hA, rfl⟩, e, ⟨-, hB⟩, k2, ⟨hA', rfl⟩, k3, ⟨hend, rfl⟩, rfl⟩
    exact ⟨_, hend, hB, hA, hA'⟩
  · rintro ⟨e, hend, hB, hA, hA'⟩
    exact ⟨0, Nat.zero_le _, e, 0, ⟨rfl, rfl⟩, 0, ⟨hA, rfl⟩, e, ⟨Nat.zero_le _, hB⟩, e, ⟨hA', rfl⟩,
      e, ⟨hend, rfl⟩, rfl⟩

/-- **A trailing `\n` is let through**: a non-empty string the pattern accepts is still accepted
with `\n` after it, since `$` matches just before a final `\n`. -/
theorem search_nameNode_newline {a b : List ClassItem} {t : List Nat} (ht : t ≠ [])
    (hb : ∀ c ∈ t, inItems b c = true) (hhead : ∀ c ∈ t.head?, inItems a c = false)
    (hlast : ∀ c ∈ t.getLast?, inItems a c = false) : search (nameNode a b) (t ++ [10]) := by
  have hpos : 0 < t.length := List.length_pos.2 ht
  rw [search_nameNode]
  refine ⟨t.length, .inr ⟨by simp, by simp⟩, (allBetween_append_iff _).2 hb,
    fun c hc => hhead c ?_, fun _ c hc => hlast c ?_⟩
  · rwa [List.getElem?_append_left hpos, ← List.head?_eq_getElem?] at hc
  · rwa [List.getElem?_append_left (by omega), ← List.getLast?_eq_getElem?] at hc

/-- What `^(?![A])[B]*(?<![A])$` accepts short of `$`'s final `\n`: strings of `B` code points
whose first and last are not `A` ones. -/
def NameShape (a b : List ClassItem) (t : List Nat) : Prop :=
  (∀ c ∈ t, inItems b c = true) ∧ (∀ c ∈ t.head?, inItems a c = false) ∧
    (∀ c ∈ t.getLast?, inItems a c = false)

/-- The look-behind just before position `t.length` reads `t`'s last code point, whatever follows
`t`. -/
theorem before_length_iff {p : Nat → Prop} (t u : List Nat) :
    (0 < t.length → ∀ c, (t ++ u)[t.length - 1]? = some c → p c) ↔ ∀ c ∈ t.getLast?, p c := by
  rw [List.getLast?_eq_getElem?]
  constructor
  · intro h c hc
    have hpos : 0 < t.length := List.length_pos.2 fun h0 => by simp [h0] at hc
    exact h hpos c (by rwa [List.getElem?_append_left (by omega)])
  · intro h hpos c hc
    exact h c (by rwa [List.getElem?_append_left (by omega)] at hc)

/-- **`^(?![A])[B]*(?<![A])$` on every string**, when `\n` is a `B` code point as soon as it is no
`A` one: the strings of `NameShape`, and the non-empty ones followed by one `\n`. -/
theorem search_nameNode_exact {a b : List ClassItem}
    (h10 : inItems a 10 = false → inItems b 10 = true) {s : List Nat} :
    search (nameNode a b) s ↔ NameShape a b s ∨ ∃ t ≠ [], s = t ++ [10] ∧ NameShape a b t := by
  constructor
  · rw [search_nameNode]
    rintro ⟨e, hend | hend, hB, hA, hA'⟩
    · subst hend
      exact .inl ⟨allBetween_length_iff.1 hB, fun c hc => hA c (by rwa [← List.head?_eq_getElem?]),
        (before_length_iff s []).1 (by simpa using hA')⟩
    · obtain ⟨t, rfl, rfl⟩ := atEnd_before_newline_iff.1 hend
      cases t with
      | nil =>
        -- `"\n"` alone: `$` holds at `0`, and the look-ahead reads the `\n`
        have ha : inItems a 10 = false := hA 10 rfl
        exact .inl ⟨by simpa using h10 ha, by simpa using ha, by simpa using ha⟩
      | cons c t =>
        exact .inr ⟨c :: t, List.cons_ne_nil _ _, rfl, (allBetween_append_iff _).1 hB,
          fun d hd => hA d (by simpa using hd), (before_length_iff _ _).1 hA'⟩
  · rintro (⟨hb, hh, hl⟩ | ⟨t, ht, rfl, hb, hh, hl⟩)
    · rw [search_nameNode]
      exact ⟨s.length, .inl rfl, allBetween_length_iff.2 hb,
        fun c hc => hh c (by rwa [List.head?_eq_getElem?]),
        by simpa using (before_length_iff s []).2 hl⟩
    · exact search_nameNode_newline ht hb hh hl

/-! ## With the builder's bodies -/

/-- The name patterns compile, for category assignments with a code point below `0xFFFF` in each
body, to `nameNode` over the builder's items. -/
theorem exists_compile_validNameRegexBase (category : Nat → String) (exclude : List Nat)
    (hA : ∃ c < 0xFFFF, isPrintable category c = false ∨ category c = "Zs")
    (hB : ∃ c < 0xFFFF, isPrintable category c = true ∧ c ∉ exclude) :
    ∃ a b, compile (validNameRegexBase (buildRegexRange category false true [])
        (buildRegexRange category true false exclude) (buildRegexRange category false true [])) =
          .ok (nameNode a b) ∧
      (∀ c, inItems a c ↔ c < 0xFFFF ∧ validChar category false true [] c = true) ∧
      (∀ c, inItems b c ↔ c < 0xFFFF ∧ validChar category true false exclude c = true) := by
  obtain ⟨a, ha, -, hda⟩ := exists_regexRange_items category false true []
  obtain ⟨b, hb, -, hdb⟩ := exists_regexRange_items category true false exclude
  obtain ⟨ca, hca, hva⟩ := hA
  obtain ⟨cb, hcb, hvb⟩ := hB
  refine ⟨a, b, ?_, hda, hdb⟩
  rw [ha, hb]
  exact compile_validNameRegexBase
    (ne_nil_of_inItems ((hda ca).2 ⟨hca, by cases hva <;> simp_all⟩))
    (ne_nil_of_inItems ((hdb cb).2 ⟨hcb, by simpa using hvb⟩))

/-- The grammar of the reason string `'printable characters. Can not start or end with
whitespace.'`: code points printable and below `0xFFFF`, the first and the last not a space
separator. -/
def IsValidName (category : Nat → String) (t : List Nat) : Prop :=
  (∀ c ∈ t, c < 0xFFFF ∧ isPrintable category c = true) ∧
    (∀ c ∈ t.head?, category c ≠ "Zs") ∧ (∀ c ∈ t.getLast?, category c ≠ "Zs")

instance (category : Nat → String) (t : List Nat) : Decidable (IsValidName category t) :=
  inferInstanceAs (Decidable (_ ∧ _ ∧ _))

/-- Over the builder's bodies, `NameShape` is the reason string's grammar, without `exclude`. -/
theorem nameShape_iff {category : Nat → String} {exclude : List Nat} {a b : List ClassItem}
    (hda : ∀ c, inItems a c ↔ c < 0xFFFF ∧ validChar category false true [] c = true)
    (hdb : ∀ c, inItems b c ↔ c < 0xFFFF ∧ validChar category true false exclude c = true)
    (t : List Nat) : NameShape a b t ↔ IsValidName category t ∧ ∀ c ∈ t, c ∉ exclude := by
  have hb : ∀ c, inItems b c ↔ (c < 0xFFFF ∧ isPrintable category c = true) ∧ c ∉ exclude :=
    fun c => by rw [hdb, validChar_ws_iff, and_assoc]
  -- on a printable code point below `0xFFFF`, "not in `A`" is "not a space separator"
  have hend : ∀ c, c < 0xFFFF ∧ isPrintable category c = true →
      (inItems a c = false ↔ category c ≠ "Zs") := fun c ⟨hlt, hp⟩ => by
    rw [Bool.eq_false_iff, ne_eq, hda]
    simp [hlt, hp]
  constructor
  · rintro ⟨hB, hh, hl⟩
    have hall : ∀ c ∈ t, c < 0xFFFF ∧ isPrintable category c = true :=
      fun c hc => ((hb c).1 (hB c hc)).1
    exact ⟨⟨hall, fun c hc => (hend c (hall c (List.mem_of_mem_head? hc))).1 (hh c hc),
      fun c hc => (hend c (hall c (List.mem_of_mem_getLast? hc))).1 (hl c hc)⟩,
      fun c hc => ((hb c).1 (hB c hc)).2⟩
  · rintro ⟨⟨hall, hh, hl⟩, hx⟩
    exact ⟨fun c hc => (hb c).2 ⟨hall c hc, hx c hc⟩,
      fun c hc => (hend c (hall c (List.mem_of_mem_head? hc))).2 (hh c hc),
      fun c hc => (hend c (hall c (List.mem_of_mem_getLast? hc))).2 (hl c hc)⟩

/-- The name template over the builder's bodies, on every string. -/
theorem reSearch_validNameRegexBase (category : Nat → String) {exclude : List Nat}
    (h10 : 10 ∉ exclude) (hA : ∃ c < 0xFFFF, isPrintable category c = false ∨ category c = "Zs")
    (hB : ∃ c < 0xFFFF, isPrintable category c = true ∧ c ∉ exclude) (s : List Nat) :
    reSearch (validNameRegexBase (buildRegexRange category false true [])
        (buildRegexRange category true false exclude) (buildRegexRange category false true [])) s ↔
      (IsValidName category s ∧ ∀ c ∈ s, c ∉ exclude) ∨
        ∃ t ≠ [], s = t ++ [10] ∧ IsValidName category t ∧ ∀ c ∈ t, c ∉ exclude := by
  obtain ⟨a, b, hc, hda, hdb⟩ := exists_compile_validNameRegexBase category exclude hA hB
  -- `\n` not an `A` code point is printable, so a `B` one
  have hab : inItems a 10 = false → inItems b 10 = true := fun ha => by
    rw [Bool.eq_false_iff, ne_eq, hda, validChar_invert_iff] at ha
    exact (hdb 10).2 ⟨by decide, by simpa [h10] using (not_not.1 (not_and.1 ha (by decide))).1⟩
  rw [reSearch_of_compile hc, search_nameNode_exact hab]
  simp only [nameShape_iff hda hdb]

/-- **What `valid_name_regex` and `valid_az_name_regex` accept, on every string.**  For a
category assignment with a code point below `0xFFFF` that is not printable or is a space
separator, and one that is printable and not `:`: the names of the reason string's grammar (for
availability zones, without `:`), and every non-empty such name followed by one `\n`. -/
theorem validNameRegex_search (category : Nat → String)
    (hA : ∃ c < 0xFFFF, isPrintable category c = false ∨ category c = "Zs")
    (hB : ∃ c < 0xFFFF, isPrintable category c = true ∧ c ≠ 58) (s : List Nat) :
    (reSearch (validNameRegex category).regex s ↔
      IsValidName category s ∨ ∃ t ≠ [], s = t ++ [10] ∧ IsValidName category t) ∧
    (reSearch (validAzNameRegex category).regex s ↔
      (IsValidName category s ∧ 58 ∉ s) ∨ ∃ t ≠ [], s = t ++ [10] ∧ IsValidName category t ∧ 58 ∉ t) := by
  obtain ⟨c, hc, hp, h58⟩ := hB
  constructor
  · rw [validNameRegex, reSearch_validNameRegexBase category (List.not_mem_nil _) hA
      ⟨c, hc, hp, List.not_mem_nil _⟩]
    simp only [List.not_mem_nil, not_false_eq_true, implies_true, and_true]
  · rw [validAzNameRegex, reSearch_validNameRegexBase category (by decide) hA ⟨c, hc, hp, by simpa⟩]
    simp only [List.mem_singleton, List.forall_mem_ne']

/-- At the failing input: `valid_name_regex` and `valid_az_name_regex` accept `"a\n"` when `\n`
is a control character. -/
theorem validNameRegex_search_newline :
    reSearch (validNameRegex fun c => if c = 10 then "Cc" else "Ll").regex [97, 10] ∧
      reSearch (validAzNameRegex fun c => if c = 10 then "Cc" else "Ll").regex [97, 10] ∧
      isPrintable (fun c => if c = 10 then "Cc" else "Ll") 10 = false :=
  have h := validNameRegex_search (fun c => if c = 10 then "Cc" else "Ll")
    ⟨10, by decide, .inl (by decide)⟩ ⟨97, by decide, by decide, by decide⟩ [97, 10]
  ⟨h.1.2 (.inr ⟨[97], by simp, rfl, by decide⟩),
    h.2.2 (.inr ⟨[97], by simp, rfl, by decide, by decide⟩), by decide⟩

/-- **A valid name followed by `\n` is accepted** by `valid_name_regex` and `valid_az_name_regex`,
whatever the category of `\n`. -/
theorem validNameRegex_accepts_newline (category : Nat → String)
    (hA : ∃ c < 0xFFFF, isPrintable category c = false ∨ category c = "Zs")
    (hB : ∃ c < 0xFFFF, isPrintable category c = true ∧ c ≠ 58)
    (t : List Nat) (ht : t ≠ []) (hall : ∀ c ∈ t, c < 0xFFFF ∧ isPrintable category c = true)
    (hhead : ∀ c ∈ t.head?, category c ≠ "Zs") (hlast : ∀ c ∈ t.getLast?, category c ≠ "Zs") :
    reSearch (validNameRegex category).regex (t ++ [10]) ∧
      ((∀ c ∈ t, c ≠ 58) → reSearch (validAzNameRegex category).regex (t ++ [10])) := by
  have hbase : ∀ exclude, (∀ c ∈ t, c ∉ exclude) →
      (∃ c < 0xFFFF, isPrintable category c = true ∧ c ∉ exclude) →
      reSearch (validNameRegexBase (buildRegexRange category false true [])
        (buildRegexRange category true false exclude) (buildRegexRange category false true []))
        (t ++ [10]) := by
    intro exclude hex hB'
    obtain ⟨a, b, hc, hda, hdb⟩ := exists_compile_validNameRegexBase category exclude hA hB'
    have hend : ∀ c ∈ t, category c ≠ "Zs" → inItems a c = false := fun c hc hz =>
      Bool.eq_false_iff.2 fun h => (validChar_invert_iff _ _).1 ((hda c).1 h).2 ⟨(hall c hc).2, hz⟩
    rw [reSearch_of_compile hc]
    exact search_nameNode_newline ht
      (fun c hc => (hdb c).2 ⟨(hall c hc).1, by simp [hall c hc, hex c hc]⟩)
      (fun c hc => hend c (List.mem_of_mem_head? hc) (hhead c hc))
      (fun c hc => hend c (List.mem_of_mem_getLast? hc) (hlast c hc))
  obtain ⟨c, hc, hp, h58⟩ := hB
  exact ⟨hbase [] (by simp) ⟨c, hc, hp, by simp⟩,
    fun h => hbase [58] (by simpa using h) ⟨c, hc, hp, by simpa⟩⟩

theorem validNameRegex_accepts_newline_letter :
    reSearch (validNameRegex fun c => if c = 10 then "Cc" else "Ll").regex ([97] ++ [10]) ∧
      ((∀ c ∈ [97], c ≠ 58) →
        reSearch (validAzNameRegex fun c => if c = 10 then "Cc" else "Ll").regex ([97] ++ [10])) :=
  validNameRegex_accepts_newline _ ⟨10, by decide, .inl (by decide)⟩
    ⟨97, by decide, by decide, by decide⟩ [97] (by simp) (by simp; decide) (by simp) (by simp)

end NovaValidation
