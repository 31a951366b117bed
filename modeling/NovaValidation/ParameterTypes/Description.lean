import NovaValidation.ParameterTypes.Patterns
import NovaValidation.Regex.Anchored

/-!
# ParameterTypes/Description — what the `description` schema's `pattern` accepts

`valid_description_regex` is `^[B]*$`, with `B` the builder's printable code points, and the
`description` schema hands it to `re.search`.  The comment above the builder says it matches
"all printable characters", but `$` also matches just before a final `\n`: the pattern accepts
exactly the printable strings *and the printable strings followed by one `\n`*
(`validDescriptionRegex_search`).  So `"\n"` passes as a description, though `\n` is a control
character.
-/

namespace NovaValidation

/-- The tokens of `'^[%s]*$' % B` for a written body `B = b`. -/
def descriptionToks (b : List ClassItem) : List Tok :=
  .ch 94 :: .ch 91 :: (bodyToks b ++ [.ch 93, .ch 42, .ch 36])

theorem tokenize_descriptionRegex (b : List ClassItem) :
    tokenize (str "^[" ++ renderBody b ++ str "]*$") = .ok (descriptionToks b) := by
  rw [List.append_assoc, tokenize_append_of_no_backslash _ (by decide), tokenize_renderBody_append]
  rfl

theorem parseSub_descriptionToks {b : List ClassItem} (hb : b ≠ []) (m : Nat) :
    parseSub (m + 5) [] [] (descriptionToks b) = .ok (classStar false b, []) := by
  rw [descriptionToks, parseSub_caret, parseSub_set (parseClass_bodyToks b hb _),
    parseSub_star (quantified_inSet (by decide) (by decide) _), parseSub_dollar, parseSub_nil]
  rfl

theorem compile_descriptionRegex {b : List ClassItem} (hb : b ≠ []) :
    compile (str "^[" ++ renderBody b ++ str "]*$") = .ok (classStar false b) :=
  compile_eq_of_parseSub (tokenize_descriptionRegex b) (by simp [descriptionToks])
    (parseSub_descriptionToks hb)

/-- **What the `description` pattern accepts.**  For a category assignment with a printable code
point below `0xFFFF`: the strings whose code points are all printable and below `0xFFFF`, and
those strings followed by one `\n`. -/
theorem validDescriptionRegex_search (category : Nat → String)
    (hB : ∃ c < 0xFFFF, isPrintable category c = true) (s : List Nat) :
    reSearch (validDescriptionRegex category) s ↔
      (∀ c ∈ s, c < 0xFFFF ∧ isPrintable category c = true) ∨
        ∃ t, s = t ++ [10] ∧ ∀ c ∈ t, c < 0xFFFF ∧ isPrintable category c = true := by
  obtain ⟨b, hb, -, hdb⟩ := exists_regexRange_items category true false []
  simp only [validChar_ws_iff, List.not_mem_nil, not_false_eq_true, and_true] at hdb
  obtain ⟨c, hc, hp⟩ := hB
  rw [validDescriptionRegex, hb,
    reSearch_of_compile (compile_descriptionRegex (ne_nil_of_inItems ((hdb c).2 ⟨hc, hp⟩))),
    search_classStar]
  simp only [ne_eq, Bool.not_eq_false, hdb]

/-- At the failing input: `"\n"` is accepted as a description when `\n` is a control character. -/
theorem validDescriptionRegex_search_newline :
    reSearch (validDescriptionRegex fun c => if c = 10 then "Cc" else "Ll") [10] ∧
      isPrintable (fun c => if c = 10 then "Cc" else "Ll") 10 = false :=
  ⟨(validDescriptionRegex_search _ ⟨97, by decide, by decide⟩ [10]).2 (.inr ⟨[], rfl, by simp⟩),
    by decide⟩

end NovaValidation
