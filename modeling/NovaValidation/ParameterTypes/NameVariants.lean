import NovaValidation.ParameterTypes.ValidName
import NovaValidation.ParameterTypes.LeadingTrailingSpaces

/-!
# ParameterTypes/NameVariants — how the four name patterns relate

`parameter_types` builds four name patterns from two templates.  The availability-zone twin of
each is the same template with `:` left out of its bodies, and the leading/trailing-spaces
template is meant as a relaxation of the strict one.  Both relations hold on every string, the
ones ending in `\n` included:

    valid_az_name…  accepts s  ↔  valid_name…  accepts s  ∧  ':' ∉ s     (`validAzName_iff`)
    s ≠ ""  →  valid_name  accepts s  →  valid_name_leading_trailing_spaces  accepts s
                                                   (`validName_leadingTrailingSpaces`)

Each is proved once on the compiled trees (`search_nameNode_restrict`,
`search_spacesNode_restrict`) and read back through the builder's bodies.
-/

namespace NovaValidation

/-! ## On the compiled trees -/

section Trees

variable {s : List Nat} {x : Nat}

/-- A string has no `x` exactly when no code point before a position where `$` holds is `x`, for
`x ≠ \n`. -/
theorem allBetween_ne_iff (hx : x ≠ 10) {e : Nat}
    (hend : e = s.length ∨ (e + 1 = s.length ∧ s[e]? = some 10)) :
    AllBetween (· ≠ x) s 0 e ↔ x ∉ s := by
  rw [@allBetween_atEnd_iff (· ≠ x) s e hx.symm hend]
  exact ⟨fun h hs => h x hs rfl, fun h c hc hcx => h (hcx ▸ hc)⟩

/-- **Leaving `x` out of the middle set of `^(?![A])[B]*(?<![A])$`** leaves out exactly the
strings with an `x`. -/
theorem search_nameNode_restrict {a a' b b' : List ClassItem} (hx : x ≠ 10)
    (ha : ∀ c, inItems a' c = inItems a c)
    (hb : ∀ c, inItems b' c = true ↔ inItems b c = true ∧ c ≠ x) :
    search (nameNode a' b') s ↔ search (nameNode a b) s ∧ x ∉ s := by
  simp only [search_nameNode, ha, hb, AllBetween.and_iff]
  constructor
  · rintro ⟨e, hend, ⟨hB, hX⟩, hfirst, hlast⟩
    exact ⟨⟨e, hend, hB, hfirst, hlast⟩, (allBetween_ne_iff hx hend).1 hX⟩
  · rintro ⟨⟨e, hend, hB, hfirst, hlast⟩, hxs⟩
    exact ⟨e, hend, ⟨hB, (allBetween_ne_iff hx hend).2 hxs⟩, hfirst, hlast⟩

/-- **Leaving `x` out of both sets of the spaces pattern** leaves out exactly the strings with an
`x`. -/
theorem search_spacesNode_restrict {w w' n n' : List ClassItem} (hx : x ≠ 10)
    (hnw : ∀ c, inItems n c = true → inItems w c = true)
    (hnw' : ∀ c, inItems n' c = true → inItems w' c = true)
    (hw : ∀ c, inItems w' c = true ↔ inItems w c = true ∧ c ≠ x)
    (hn : ∀ c, inItems n' c = true ↔ inItems n c = true ∧ c ≠ x) :
    search (spacesNode w' n') s ↔ search (spacesNode w n) s ∧ x ∉ s := by
  simp only [search_spacesNode hnw, search_spacesNode hnw', hw, hn, AllBetween.and_iff]
  constructor
  · rintro ⟨e, hend, ⟨hW, hX⟩, k, hk, c, hc, hN, -⟩
    exact ⟨⟨e, hend, hW, k, hk, c, hc, hN⟩, (allBetween_ne_iff hx hend).1 hX⟩
  · rintro ⟨⟨e, hend, hW, k, hk, c, hc, hN⟩, hxs⟩
    exact ⟨e, hend, ⟨hW, (allBetween_ne_iff hx hend).2 hxs⟩, k, hk, c, hc, hN,
      fun h => hxs (h ▸ List.getElem?_mem hc)⟩

end Trees

/-! ## With the builder's bodies -/

section Patterns

variable (category : Nat → String)

/-- **The availability-zone patterns are the name patterns without `:`**, on every string.  The
hypotheses are what makes each pattern compile: a code point below `0xFFFF` that is not printable
or is a space separator, and a printable one that is neither a space separator nor `:`. -/
theorem validAzName_iff (hA : ∃ c < 0xFFFF, isPrintable category c = false ∨ category c = "Zs")
    (hN : ∃ c < 0xFFFF, isPrintable category c = true ∧ category c ≠ "Zs" ∧ c ≠ 58)
    (s : List Nat) :
    (reSearch (validAzNameRegex category).regex s ↔
      reSearch (validNameRegex category).regex s ∧ 58 ∉ s) ∧
    (reSearch (validAzNameLeadingTrailingSpacesRegex category).regex s ↔
      reSearch (validNameLeadingTrailingSpacesRegex category).regex s ∧ 58 ∉ s) := by
  obtain ⟨c, hc, hp, hz, h58⟩ := hN
  obtain ⟨a, b, hcn, hda, hdb⟩ :=
    exists_compile_validNameRegexBase category [] hA ⟨c, hc, hp, by simp⟩
  obtain ⟨a', b', hcz, hda', hdb'⟩ :=
    exists_compile_validNameRegexBase category [58] hA ⟨c, hc, hp, by simpa⟩
  obtain ⟨w, n, hcs, hdw, hdn, hnw⟩ :=
    exists_compile_spacesRegexBase category [] ⟨c, hc, hp, hz, by simp⟩
  obtain ⟨w', n', hcs', hdw', hdn', hnw'⟩ :=
    exists_compile_spacesRegexBase category [58] ⟨c, hc, hp, hz, by simpa⟩
  refine ⟨?_, ?_⟩
  · rw [validAzNameRegex, validNameRegex, reSearch_of_compile hcz, reSearch_of_compile hcn]
    refine search_nameNode_restrict (by decide) (fun d => Bool.eq_iff_iff.2 ?_) fun d => ?_
    · rw [hda, hda']
    · simp only [hdb, hdb', validChar_ws_iff, List.mem_singleton, List.not_mem_nil,
        not_false_eq_true, and_true, and_assoc]
  · rw [validAzNameLeadingTrailingSpacesRegex, validNameLeadingTrailingSpacesRegex,
      reSearch_of_compile hcs', reSearch_of_compile hcs]
    refine search_spacesNode_restrict (by decide) hnw hnw' (fun d => ?_) fun d => ?_ <;>
      simp only [hdw, hdw', hdn, hdn', List.mem_singleton, List.not_mem_nil, not_false_eq_true,
        and_true, and_assoc]

theorem validAzName_iff_colon :
    (∃ c < 0xFFFF, isPrintable (fun c => if c = 10 then "Cc" else "Ll") c = false ∨
      (fun c => if c = 10 then "Cc" else "Ll") c = "Zs") ∧
    (∃ c < 0xFFFF, isPrintable (fun c => if c = 10 then "Cc" else "Ll") c = true ∧
      (fun c => if c = 10 then "Cc" else "Ll") c ≠ "Zs" ∧ c ≠ 58) ∧
    ((reSearch (validAzNameRegex fun c => if c = 10 then "Cc" else "Ll").regex [97, 58] ↔
      reSearch (validNameRegex fun c => if c = 10 then "Cc" else "Ll").regex [97, 58] ∧
        58 ∉ [97, 58]) ∧
    (reSearch (validAzNameLeadingTrailingSpacesRegex fun c => if c = 10 then "Cc" else "Ll").regex
        [97, 58] ↔
      reSearch (validNameLeadingTrailingSpacesRegex fun c => if c = 10 then "Cc" else "Ll").regex
        [97, 58] ∧ 58 ∉ [97, 58])) :=
  have hA : ∃ c < 0xFFFF, isPrintable (fun c => if c = 10 then "Cc" else "Ll") c = false ∨
      (fun c => if c = 10 then "Cc" else "Ll") c = "Zs" := ⟨10, by decide, .inl (by decide)⟩
  have hN : ∃ c < 0xFFFF, isPrintable (fun c => if c = 10 then "Cc" else "Ll") c = true ∧
      (fun c => if c = 10 then "Cc" else "Ll") c ≠ "Zs" ∧ c ≠ 58 :=
    ⟨97, by decide, by decide, by decide, by decide⟩
  ⟨hA, hN, validAzName_iff _ hA hN [97, 58]⟩

/-- The strict name template over `exclude` lets through only what the spaces template over the
same `exclude` lets through, the empty string apart, when `\n` is not excluded. -/
theorem nameRegexBase_spacesRegexBase (exclude : List Nat) (h10 : 10 ∉ exclude)
    (hA : ∃ c < 0xFFFF, isPrintable category c = false ∨ category c = "Zs")
    (hN : ∃ c < 0xFFFF, isPrintable category c = true ∧ category c ≠ "Zs" ∧ c ∉ exclude)
    {s : List Nat} (hs : s ≠ [])
    (h : reSearch (validNameRegexBase (buildRegexRange category false true [])
      (buildRegexRange category true false exclude) (buildRegexRange category false true [])) s) :
    reSearch (validNameLeadingTrailingSpacesRegexBase (buildRegexRange category true false exclude)
      (buildRegexRange category false false exclude)) s := by
  obtain ⟨c, hc, hp, hz, hex⟩ := hN
  obtain ⟨a, b, hcn, hda, hdb⟩ :=
    exists_compile_validNameRegexBase category exclude hA ⟨c, hc, hp, hex⟩
  obtain ⟨w, n, hcs, hdw, hdn, hnw⟩ :=
    exists_compile_spacesRegexBase category exclude ⟨c, hc, hp, hz, hex⟩
  rw [reSearch_of_compile hcn, search_nameNode] at h
  rw [reSearch_of_compile hcs, search_spacesNode hnw]
  obtain ⟨e, hend, hB, hfirst, -⟩ := h
  obtain ⟨c₀, hc₀⟩ : ∃ c₀, s[0]? = some c₀ :=
    Option.ne_none_iff_exists'.1 (by simpa [List.getElem?_eq_none_iff] using hs)
  -- the first code point is printable and not a space separator, since it is no `A` one
  have hn₀ : c₀ < 0xFFFF → c₀ ∉ exclude → inItems n c₀ = true := fun hlt hex => by
    have ha := hfirst c₀ hc₀
    rw [Bool.eq_false_iff, ne_eq, hda, validChar_invert_iff] at ha
    obtain ⟨hp₀, hz₀⟩ := not_not.1 fun h => ha ⟨hlt, h⟩
    exact (hdn c₀).2 ⟨hlt, hp₀, hz₀, hex⟩
  rcases Nat.eq_zero_or_pos e with rfl | he
  · -- an empty match before a final `\n`: the string is `"\n"`, and `\n` is a `no_ws` code point
    obtain ⟨hlen, h10'⟩ := hend.resolve_left fun h => hs (List.length_eq_zero.1 h.symm)
    obtain rfl : c₀ = 10 := Option.some_injective _ (hc₀.symm.trans h10')
    have hn := hn₀ (by decide) h10
    exact ⟨1, .inl (by omega), allBetween_succ_iff.2 ⟨10, hc₀, hnw _ hn⟩, 0, Nat.one_pos, 10, hc₀, hn⟩
  · obtain ⟨d, hd, hbd⟩ := hB 0 le_rfl he
    obtain rfl : d = c₀ := Option.some_injective _ (hd.symm.trans hc₀)
    have hbd' := (hdb d).1 hbd
    rw [validChar_ws_iff] at hbd'
    refine ⟨e, hend, hB.mono fun c hc => ?_, 0, he, d, hd, hn₀ hbd'.1 hbd'.2.2⟩
    have := (hdb c).1 hc
    rw [validChar_ws_iff] at this
    exact (hdw c).2 ⟨this.1, this.2⟩

/-- **Every non-empty name the strict patterns accept, the leading/trailing-spaces patterns
accept**, for names and for availability zones, on every string. -/
theorem validName_leadingTrailingSpaces
    (hA : ∃ c < 0xFFFF, isPrintable category c = false ∨ category c = "Zs")
    (hN : ∃ c < 0xFFFF, isPrintable category c = true ∧ category c ≠ "Zs" ∧ c ≠ 58)
    {s : List Nat} (hs : s ≠ []) :
    (reSearch (validNameRegex category).regex s →
      reSearch (validNameLeadingTrailingSpacesRegex category).regex s) ∧
    (reSearch (validAzNameRegex category).regex s →
      reSearch (validAzNameLeadingTrailingSpacesRegex category).regex s) := by
  obtain ⟨c, hc, hp, hz, h58⟩ := hN
  exact ⟨nameRegexBase_spacesRegexBase category [] (by simp) hA ⟨c, hc, hp, hz, by simp⟩ hs,
    nameRegexBase_spacesRegexBase category [58] (by decide) hA ⟨c, hc, hp, hz, by simpa⟩ hs⟩

theorem validName_leadingTrailingSpaces_letter :
    (∃ c < 0xFFFF, isPrintable (fun c => if c = 10 then "Cc" else "Ll") c = false ∨
      (fun c => if c = 10 then "Cc" else "Ll") c = "Zs") ∧
    (∃ c < 0xFFFF, isPrintable (fun c => if c = 10 then "Cc" else "Ll") c = true ∧
      (fun c => if c = 10 then "Cc" else "Ll") c ≠ "Zs" ∧ c ≠ 58) ∧ [97] ≠ [] ∧
    (reSearch (validNameRegex fun c => if c = 10 then "Cc" else "Ll").regex [97] →
      reSearch (validNameLeadingTrailingSpacesRegex fun c => if c = 10 then "Cc" else "Ll").regex
        [97]) ∧
    (reSearch (validAzNameRegex fun c => if c = 10 then "Cc" else "Ll").regex [97] →
      reSearch (validAzNameLeadingTrailingSpacesRegex fun c => if c = 10 then "Cc" else "Ll").regex
        [97]) :=
  have hA : ∃ c < 0xFFFF, isPrintable (fun c => if c = 10 then "Cc" else "Ll") c = false ∨
      (fun c => if c = 10 then "Cc" else "Ll") c = "Zs" := ⟨10, by decide, .inl (by decide)⟩
  have hN : ∃ c < 0xFFFF, isPrintable (fun c => if c = 10 then "Cc" else "Ll") c = true ∧
      (fun c => if c = 10 then "Cc" else "Ll") c ≠ "Zs" ∧ c ≠ 58 :=
    ⟨97, by decide, by decide, by decide, by decide⟩
  ⟨hA, hN, by simp, validName_leadingTrailingSpaces _ hA hN (by simp)⟩

end Patterns

end NovaValidation
