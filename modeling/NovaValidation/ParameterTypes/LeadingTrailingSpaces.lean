import NovaValidation.ParameterTypes.Patterns
import NovaValidation.Regex.Semantics

/-!
# ParameterTypes/LeadingTrailingSpaces — the name patterns that allow spaces at either end

`valid_name_leading_trailing_spaces_regex_base` is

`^[ws]*[no_ws]+[ws]*$|^[ws]*[no_ws][no_ws ws]+[no_ws][ws]*$`

with `ws` the printable code points and `no_ws` the printable ones that are not space
separators (both without `:` for availability zones).  Since `no_ws ⊆ ws`, the first alternative
matches a stretch of `ws` code points with at least one `no_ws` among them, and the second matches
nothing the first does not (`matches_spacesSecond`): it is a special case written out.

So on every string `re.search` accepts the printable strings with a code point that is not a
space separator (`IsSpacesName`, the reason string's "printable characters with at least one non
space character") and, since `$` also matches before a final `\n`, every such string followed by
one `\n` (`validNameLeadingTrailingSpacesRegex_search`), though `\n` is not printable.
-/

namespace NovaValidation

/-- The tokens of the pattern for written bodies `ws = w`, `no_ws = n`. -/
def spacesToks (w n : List ClassItem) : List Tok :=
  .ch 94 :: .ch 91 :: (bodyToks w ++ .ch 93 :: .ch 42 :: .ch 91 :: (bodyToks n ++ .ch 93 ::
    .ch 43 :: .ch 91 :: (bodyToks w ++ .ch 93 :: .ch 42 :: .ch 36 :: .ch 124 :: .ch 94 :: .ch 91 ::
    (bodyToks w ++ .ch 93 :: .ch 42 :: .ch 91 :: (bodyToks n ++ .ch 93 :: .ch 91 :: (bodyToks n ++
    (bodyToks w ++ .ch 93 :: .ch 43 :: .ch 91 :: (bodyToks n ++ .ch 93 :: .ch 91 ::
    (bodyToks w ++ [.ch 93, .ch 42, .ch 36])))))))))

/-- `^[W]*[N]+[W]*$`. -/
def spacesFirst (w n : List ClassItem) : Node :=
  .ofSeq [.atBeginning, .maxRepeat 0 none (.inSet false w), .maxRepeat 1 none (.inSet false n),
    .maxRepeat 0 none (.inSet false w), .atEnd]

/-- `^[W]*[N][NW]+[N][W]*$`. -/
def spacesSecond (w n : List ClassItem) : Node :=
  .ofSeq [.atBeginning, .maxRepeat 0 none (.inSet false w), .inSet false n,
    .maxRepeat 1 none (.inSet false (n ++ w)), .inSet false n, .maxRepeat 0 none (.inSet false w),
    .atEnd]

/-- The syntax tree of the whole pattern: a `BRANCH` of the two alternatives. -/
def spacesNode (w n : List ClassItem) : Node := .branch (spacesFirst w n) (spacesSecond w n)

/-! ## The pattern compiles -/

theorem tokenize_spacesRegexBase (w n : List ClassItem) :
    tokenize (validNameLeadingTrailingSpacesRegexBase (renderBody w) (renderBody n)) =
      .ok (spacesToks w n) := by
  simp only [validNameLeadingTrailingSpacesRegexBase, List.append_assoc]
  rw [tokenize_append_of_no_backslash _ (by decide), tokenize_renderBody_append,
    tokenize_append_of_no_backslash _ (by decide), tokenize_renderBody_append,
    tokenize_append_of_no_backslash _ (by decide), tokenize_renderBody_append,
    tokenize_append_of_no_backslash _ (by decide), tokenize_renderBody_append,
    tokenize_append_of_no_backslash _ (by decide), tokenize_renderBody_append,
    tokenize_append_of_no_backslash _ (by decide), tokenize_renderBody_append,
    tokenize_renderBody_append,
    tokenize_append_of_no_backslash _ (by decide), tokenize_renderBody_append,
    tokenize_append_of_no_backslash _ (by decide), tokenize_renderBody_append]
  rfl

theorem parseSub_spacesToks {w n : List ClassItem} (hw : w ≠ []) (hn : n ≠ []) (m : Nat) :
    parseSub (m + 20) [] [] (spacesToks w n) = .ok (spacesNode w n, []) := by
  have hnw : bodyToks n ++ (bodyToks w ++ .ch 93 :: .ch 43 :: .ch 91 :: (bodyToks n ++ .ch 93 ::
      .ch 91 :: (bodyToks w ++ [.ch 93, .ch 42, .ch 36]))) = bodyToks (n ++ w) ++ .ch 93 ::
      .ch 43 :: .ch 91 :: (bodyToks n ++ .ch 93 :: .ch 91 :: (bodyToks w ++ [.ch 93, .ch 42, .ch 36])) := by
    rw [bodyToks_append, List.append_assoc]
  rw [spacesToks, hnw, parseSub_caret, parseSub_set (parseClass_bodyToks w hw _),
    parseSub_star (quantified_inSet (by decide) (by decide) _),
    parseSub_set (parseClass_bodyToks n hn _),
    parseSub_plus (quantified_inSet (by decide) (by decide) _),
    parseSub_set (parseClass_bodyToks w hw _),
    parseSub_star (quantified_inSet (by decide) (by decide) _), parseSub_dollar, parseSub_bar,
    parseSub_caret, parseSub_set (parseClass_bodyToks w hw _),
    parseSub_star (quantified_inSet (by decide) (by decide) _),
    parseSub_set (parseClass_bodyToks n hn _),
    parseSub_set (parseClass_bodyToks (n ++ w) (by simp [hn]) _),
    parseSub_plus (quantified_inSet (by decide) (by decide) _),
    parseSub_set (parseClass_bodyToks n hn _), parseSub_set (parseClass_bodyToks w hw _),
    parseSub_star (quantified_inSet (by decide) (by decide) _), parseSub_dollar, parseSub_nil]
  rfl

/-- **The pattern compiles** to `spacesNode` when both bodies are non-empty. -/
theorem compile_spacesRegexBase {w n : List ClassItem} (hw : w ≠ []) (hn : n ≠ []) :
    compile (validNameLeadingTrailingSpacesRegexBase (renderBody w) (renderBody n)) =
      .ok (spacesNode w n) :=
  compile_eq_of_parseSub (tokenize_spacesRegexBase w n) (by simp [spacesToks]; omega)
    (parseSub_spacesToks hw hn)

/-! ## What the alternatives match -/

section Match

variable {w n : List ClassItem} {s : List Nat} {i j : Nat}

/-- **The first alternative** matches from `0` to a position `j` where `$` holds, over `ws` code
points with at least one `no_ws` among them — given `no_ws ⊆ ws`. -/
theorem matches_spacesFirst (hnw : ∀ c, inItems n c = true → inItems w c = true) :
    (spacesFirst w n).Matches s i j ↔
      i = 0 ∧ (j = s.length ∨ (j + 1 = s.length ∧ s[j]? = some 10)) ∧
      AllBetween (fun c => inItems w c = true) s 0 j ∧
      ∃ k < j, ∃ c, s[k]? = some c ∧ inItems n c = true := by
  simp only [spacesFirst, Node.matches_ofSeq_cons, Node.matches_atBeginning, matches_star_inSet,
    matches_plus_inSet, Node.matches_atEnd, Node.matches_ofSeq_nil, Bool.not_eq_false, ne_eq]
  constructor
  · rintro ⟨i, ⟨rfl, rfl⟩, k₁, ⟨-, h₁⟩, k₂, ⟨h₁₂, h₂⟩, e, ⟨h₂e, h₃⟩, e', ⟨hend, rfl⟩, rfl⟩
    exact ⟨rfl, hend, (h₁.trans (h₂.mono hnw)).trans h₃, k₁, by omega, h₂ k₁ le_rfl h₁₂⟩
  · rintro ⟨rfl, hend, hw, k, hk, hn⟩
    exact ⟨0, ⟨rfl, rfl⟩, k, ⟨Nat.zero_le _, hw.sub le_rfl hk.le⟩, k + 1,
      ⟨by omega, allBetween_succ_iff.2 hn⟩, j, ⟨hk, hw.sub (Nat.zero_le _) le_rfl⟩, j, ⟨hend, rfl⟩,
      rfl⟩

/-- **The second alternative matches nothing the first does not**: `[N][NW]+[N]` is a stretch
of `ws` code points that starts with a `no_ws` one. -/
theorem matches_spacesSecond (hnw : ∀ c, inItems n c = true → inItems w c = true) :
    (spacesSecond w n).Matches s i j → (spacesFirst w n).Matches s i j := by
  have hnw' : ∀ c, (inItems n c || inItems w c) = true → inItems w c = true := fun c h => by
    rcases Bool.or_eq_true_iff.1 h with h | h
    exacts [hnw c h, h]
  rw [matches_spacesFirst hnw]
  simp only [spacesSecond, Node.matches_ofSeq_cons, Node.matches_atBeginning, matches_star_inSet,
    matches_plus_inSet, Node.matches_inSet, Node.matches_atEnd, Node.matches_ofSeq_nil,
    Bool.not_eq_false, ne_eq, inItems_append]
  rintro ⟨i, ⟨rfl, rfl⟩, k₁, ⟨-, h₁⟩, k₂, ⟨hn₁, rfl⟩, k₃, ⟨h₂₃, h₂⟩, k₄, ⟨hn₃, rfl⟩, e, ⟨h₄e, h₃⟩,
    e', ⟨hend, rfl⟩, rfl⟩
  refine ⟨rfl, hend, ?_, k₁, by omega, hn₁⟩
  exact (((h₁.trans ((allBetween_succ_iff.2 hn₁).mono hnw)).trans (h₂.mono hnw')).trans
    ((allBetween_succ_iff.2 hn₃).mono hnw)).trans h₃

/-- `re.search` with the whole pattern: a stretch from `0` to a position where `$` holds, of
`ws` code points with a `no_ws` one among them. -/
theorem search_spacesNode (hnw : ∀ c, inItems n c = true → inItems w c = true) :
    search (spacesNode w n) s ↔ ∃ e, (e = s.length ∨ (e + 1 = s.length ∧ s[e]? = some 10)) ∧
      AllBetween (fun c => inItems w c = true) s 0 e ∧
      ∃ k < e, ∃ c, s[k]? = some c ∧ inItems n c = true := by
  constructor
  · rintro ⟨i, -, j, h⟩
    have h : (spacesFirst w n).Matches s i j := h.elim id (matches_spacesSecond hnw)
    obtain ⟨-, hend, hw, hn⟩ := (matches_spacesFirst hnw).1 h
    exact ⟨j, hend, hw, hn⟩
  · rintro ⟨e, hend, hw, hn⟩
    exact ⟨0, Nat.zero_le _, e, .inl ((matches_spacesFirst hnw).2 ⟨rfl, hend, hw, hn⟩)⟩

/-- What the pattern asks of the string before `$`: `ws` code points with a `no_ws` one among
them. -/
def SpacesShape (w n : List ClassItem) (t : List Nat) : Prop :=
  (∀ c ∈ t, inItems w c = true) ∧ ∃ c ∈ t, inItems n c = true

/-- Some code point of `t` passes `p`, read in `t` followed by anything. -/
theorem exists_getElem?_append_iff {p : Nat → Prop} {t : List Nat} (u : List Nat) :
    (∃ k < t.length, ∃ c, (t ++ u)[k]? = some c ∧ p c) ↔ ∃ c ∈ t, p c := by
  rw [← exists_getElem?_iff]
  exact exists_congr fun k => and_congr_right fun hk => by rw [List.getElem?_append_left hk]

/-- **The pattern on every string**: the strings of `SpacesShape`, and those followed by one
`\n`. -/
theorem search_spacesNode_exact (hnw : ∀ c, inItems n c = true → inItems w c = true) :
    search (spacesNode w n) s ↔ SpacesShape w n s ∨ ∃ t, s = t ++ [10] ∧ SpacesShape w n t := by
  rw [search_spacesNode hnw]
  constructor
  · rintro ⟨e, rfl | hend, hw, hn⟩
    · exact .inl ⟨allBetween_length_iff.1 hw, exists_getElem?_iff.1 hn⟩
    · obtain ⟨t, rfl, rfl⟩ := atEnd_before_newline_iff.1 hend
      exact .inr ⟨t, rfl, (allBetween_append_iff _).1 hw, (exists_getElem?_append_iff _).1 hn⟩
  · rintro (⟨hw, hn⟩ | ⟨t, rfl, hw, hn⟩)
    · exact ⟨s.length, .inl rfl, allBetween_length_iff.2 hw, exists_getElem?_iff.2 hn⟩
    · exact ⟨t.length, .inr (atEnd_before_newline_iff.2 ⟨t, rfl, rfl⟩),
        (allBetween_append_iff _).2 hw, (exists_getElem?_append_iff _).2 hn⟩

end Match

/-! ## With the builder's bodies -/

/-- The two patterns compile, for a category assignment with a printable code point below
`0xFFFF` that is not a space separator nor excluded, to `spacesNode` over the builder's items;
the `no_ws` items are among the `ws` ones. -/
theorem exists_compile_spacesRegexBase (category : Nat → String) (exclude : List Nat)
    (hN : ∃ c < 0xFFFF, isPrintable category c = true ∧ category c ≠ "Zs" ∧ c ∉ exclude) :
    ∃ w n, compile (validNameLeadingTrailingSpacesRegexBase
        (buildRegexRange category true false exclude) (buildRegexRange category false false exclude)) =
          .ok (spacesNode w n) ∧
      (∀ c, inItems w c ↔ c < 0xFFFF ∧ isPrintable category c = true ∧ c ∉ exclude) ∧
      (∀ c, inItems n c ↔
        c < 0xFFFF ∧ isPrintable category c = true ∧ category c ≠ "Zs" ∧ c ∉ exclude) ∧
      ∀ c, inItems n c = true → inItems w c = true := by
  obtain ⟨w, hw, -, hdw⟩ := exists_regexRange_items category true false exclude
  obtain ⟨n, hn, -, hdn⟩ := exists_regexRange_items category false false exclude
  simp only [validChar_ws_iff, validChar_noWs_iff] at hdw hdn
  obtain ⟨c, hc, hN⟩ := hN
  refine ⟨w, n, ?_, hdw, hdn, fun d hd => ?_⟩
  · rw [hw, hn]
    exact compile_spacesRegexBase (ne_nil_of_inItems ((hdw c).2 ⟨hc, hN.1, hN.2.2⟩))
      (ne_nil_of_inItems ((hdn c).2 ⟨hc, hN⟩))
  · obtain ⟨h₁, h₂, -, h₃⟩ := (hdn d).1 hd
    exact (hdw d).2 ⟨h₁, h₂, h₃⟩

/-- The grammar of the reason string `'printable characters with at least one non space
character'`: code points printable and below `0xFFFF`, one of them not a space separator. -/
def IsSpacesName (category : Nat → String) (t : List Nat) : Prop :=
  (∀ c ∈ t, c < 0xFFFF ∧ isPrintable category c = true) ∧ ∃ c ∈ t, category c ≠ "Zs"

instance (category : Nat → String) (t : List Nat) : Decidable (IsSpacesName category t) :=
  inferInstanceAs (Decidable (_ ∧ _))

/-- Over the builder's bodies, `SpacesShape` is the reason string's grammar, without
`exclude`. -/
theorem spacesShape_iff {category : Nat → String} {exclude : List Nat} {w n : List ClassItem}
    (hdw : ∀ c, inItems w c ↔ c < 0xFFFF ∧ isPrintable category c = true ∧ c ∉ exclude)
    (hdn : ∀ c, inItems n c ↔
      c < 0xFFFF ∧ isPrintable category c = true ∧ category c ≠ "Zs" ∧ c ∉ exclude)
    (t : List Nat) : SpacesShape w n t ↔ IsSpacesName category t ∧ ∀ c ∈ t, c ∉ exclude := by
  simp only [SpacesShape, IsSpacesName, hdw, hdn]
  constructor
  · rintro ⟨hall, c, hc, -, -, hz, -⟩
    exact ⟨⟨fun d hd => ⟨(hall d hd).1, (hall d hd).2.1⟩, c, hc, hz⟩, fun d hd => (hall d hd).2.2⟩
  · rintro ⟨⟨hall, c, hc, hz⟩, hx⟩
    exact ⟨fun d hd => ⟨(hall d hd).1, (hall d hd).2, hx d hd⟩, c, hc, (hall c hc).1,
      (hall c hc).2, hz, hx c hc⟩

theorem spacesRegexBase_search (category : Nat → String) (exclude : List Nat)
    (hN : ∃ c < 0xFFFF, isPrintable category c = true ∧ category c ≠ "Zs" ∧ c ∉ exclude)
    (s : List Nat) :
    (∃ p q, compile (validNameLeadingTrailingSpacesRegexBase
        (buildRegexRange category true false exclude) (buildRegexRange category false false exclude)) =
          .ok (.branch p q) ∧ ∀ t i j, q.Matches t i j → p.Matches t i j) ∧
    (reSearch (validNameLeadingTrailingSpacesRegexBase (buildRegexRange category true false exclude)
        (buildRegexRange category false false exclude)) s ↔
      (IsSpacesName category s ∧ ∀ c ∈ s, c ∉ exclude) ∨
        ∃ t, s = t ++ [10] ∧ IsSpacesName category t ∧ ∀ c ∈ t, c ∉ exclude) := by
  obtain ⟨w, n, hc, hdw, hdn, hnw⟩ := exists_compile_spacesRegexBase category exclude hN
  refine ⟨⟨_, _, hc, fun _ _ _ => matches_spacesSecond hnw⟩, ?_⟩
  rw [reSearch_of_compile hc, search_spacesNode_exact hnw]
  simp only [spacesShape_iff hdw hdn]

/-- **`valid_name_leading_trailing_spaces_regex` and its availability-zone twin, on every
string.**  For a category assignment with a printable code point below `0xFFFF` that is neither a
space separator nor `:`: each pattern compiles to a `BRANCH` whose second alternative matches
nothing the first does not; and `re.search` accepts the strings of the reason string's grammar
(for availability zones, without `:`), and every such string followed by one `\n`. -/
theorem validNameLeadingTrailingSpacesRegex_search (category : Nat → String)
    (hN : ∃ c < 0xFFFF, isPrintable category c = true ∧ category c ≠ "Zs" ∧ c ≠ 58)
    (s : List Nat) :
    (∃ p q, compile (validNameLeadingTrailingSpacesRegex category).regex = .ok (.branch p q) ∧
      ∀ t i j, q.Matches t i j → p.Matches t i j) ∧
    (∃ p q, compile (validAzNameLeadingTrailingSpacesRegex category).regex = .ok (.branch p q) ∧
      ∀ t i j, q.Matches t i j → p.Matches t i j) ∧
    (reSearch (validNameLeadingTrailingSpacesRegex category).regex s ↔
      IsSpacesName category s ∨ ∃ t, s = t ++ [10] ∧ IsSpacesName category t) ∧
    (reSearch (validAzNameLeadingTrailingSpacesRegex category).regex s ↔
      (IsSpacesName category s ∧ 58 ∉ s) ∨ ∃ t, s = t ++ [10] ∧ IsSpacesName category t ∧ 58 ∉ t) := by
  obtain ⟨c, hc, hp, hz, h58⟩ := hN
  obtain ⟨h₁, h₂⟩ := spacesRegexBase_search category [] ⟨c, hc, hp, hz, List.not_mem_nil _⟩ s
  obtain ⟨h₃, h₄⟩ := spacesRegexBase_search category [58] ⟨c, hc, hp, hz, by simpa⟩ s
  refine ⟨h₁, h₃, h₂.trans ?_, h₄.trans ?_⟩
  · simp only [List.not_mem_nil, not_false_eq_true, implies_true, and_true]
  · simp only [List.mem_singleton, List.forall_mem_ne']

/-- At the failing input: both patterns accept `"a\n"` when `\n` is a control character. -/
theorem validNameLeadingTrailingSpacesRegex_search_newline :
    reSearch (validNameLeadingTrailingSpacesRegex fun c => if c = 10 then "Cc" else "Ll").regex
        [97, 10] ∧
      reSearch (validAzNameLeadingTrailingSpacesRegex fun c => if c = 10 then "Cc" else "Ll").regex
        [97, 10] ∧
      isPrintable (fun c => if c = 10 then "Cc" else "Ll") 10 = false :=
  have h := validNameLeadingTrailingSpacesRegex_search (fun c => if c = 10 then "Cc" else "Ll")
    ⟨97, by decide, by decide, by decide, by decide⟩ [97, 10]
  ⟨h.2.2.1.2 (.inr ⟨[97], rfl, by decide⟩), h.2.2.2.2 (.inr ⟨[97], rfl, by decide, by decide⟩),
    by decide⟩

end NovaValidation
