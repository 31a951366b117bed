import NovaValidation.Regex.Semantics

/-!
# Regex/Anchored — patterns of the form `^…$`

Most schema patterns of `parameter_types` are `^`, a few repeated sets, then `$`.  Under
`re.search` such a pattern can only match from `0`, and `$` ends the match at the end of the string
or just before a final `\n` (`search_anchored`).  So each of them accepts a language of its own
*and* the strings of that language followed by one `\n`.

* `search_classRepeat` — `^[C]{lo,hi}$`: the strings of `lo` to `hi` code points of `C`, with
  `search_classStar` (`^[C]*$`) and `search_classPlus` (`^[C]+$`) as cases;
* `search_classEnds` — `^[E]+[C]*[E]+$` with `E ⊆ C`: strings of `C` code points, at least two long,
  that start and end with an `E` code point.
-/

namespace NovaValidation

namespace Node

variable {s : List Nat} {i j : Nat}

theorem matches_ofSeq_append : ∀ {l₁ l₂ : List Node} {i j : Nat},
    (ofSeq (l₁ ++ l₂)).Matches s i j ↔ ∃ k, (ofSeq l₁).Matches s i k ∧ (ofSeq l₂).Matches s k j
  | [], _, _, _ => by simp
  | a :: l₁, l₂, i, j => by
    simp only [List.cons_append, matches_ofSeq_cons, matches_ofSeq_append]
    exact ⟨fun ⟨k, ha, m, hl, hr⟩ => ⟨m, ⟨k, ha, hl⟩, hr⟩,
      fun ⟨m, ⟨k, ha, hl⟩, hr⟩ => ⟨k, ha, m, hl, hr⟩⟩

end Node

/-- **`^…$` under `re.search`**: the middle matches from `0` to the end, or to just before a final
`\n`. -/
theorem search_anchored (middle : List Node) {s : List Nat} :
    search (.ofSeq (.atBeginning :: (middle ++ [.atEnd]))) s ↔
      (Node.ofSeq middle).Matches s 0 s.length ∨
        ∃ t, s = t ++ [10] ∧ (Node.ofSeq middle).Matches s 0 t.length := by
  simp only [search, Node.matches_ofSeq_cons, Node.matches_atBeginning, Node.matches_ofSeq_append,
    Node.matches_atEnd, Node.matches_ofSeq_nil]
  constructor
  · rintro ⟨i, -, j, k, ⟨rfl, rfl⟩, e, hm, e', ⟨hend | hend, rfl⟩, rfl⟩
    · exact .inl (hend ▸ hm)
    · obtain ⟨t, rfl, rfl⟩ := atEnd_before_newline_iff.1 hend
      exact .inr ⟨t, rfl, hm⟩
  · rintro (hm | ⟨t, rfl, hm⟩)
    · exact ⟨0, Nat.zero_le _, _, 0, ⟨rfl, rfl⟩, _, hm, _, ⟨.inl rfl, rfl⟩, rfl⟩
    · exact ⟨0, Nat.zero_le _, _, 0, ⟨rfl, rfl⟩, _, hm, _,
        ⟨.inr (atEnd_before_newline_iff.2 ⟨t, rfl, rfl⟩), rfl⟩, rfl⟩

/-- The same language, with or without a final `\n`. -/
theorem search_anchored_iff (middle : List Node) (P : List Nat → Prop)
    (h : ∀ t u, (Node.ofSeq middle).Matches (t ++ u) 0 t.length ↔ P t) {s : List Nat} :
    search (.ofSeq (.atBeginning :: (middle ++ [.atEnd]))) s ↔ P s ∨ ∃ t, s = t ++ [10] ∧ P t := by
  rw [search_anchored]
  refine or_congr (by simpa using h s []) (exists_congr fun t => ?_)
  exact ⟨fun ⟨hs, hm⟩ => ⟨hs, (h t [10]).1 (hs ▸ hm)⟩, fun ⟨hs, hp⟩ => ⟨hs, hs ▸ (h t [10]).2 hp⟩⟩

/-! ## Repeated sets -/

/-- `^[C]{lo,hi}$`. -/
def classRepeat (negate : Bool) (items : List ClassItem) (lo : Nat) (hi : Option Nat) : Node :=
  .ofSeq [.atBeginning, .maxRepeat lo hi (.inSet negate items), .atEnd]

/-- `^[C]*$`. -/
def classStar (negate : Bool) (items : List ClassItem) : Node := classRepeat negate items 0 none

/-- `^[C]+$`. -/
def classPlus (negate : Bool) (items : List ClassItem) : Node := classRepeat negate items 1 none

/-- `^[E]+[C]*[E]+$`. -/
def classEnds (ends body : List ClassItem) : Node :=
  .ofSeq [.atBeginning, .maxRepeat 1 none (.inSet false ends), .maxRepeat 0 none (.inSet false body),
    .maxRepeat 1 none (.inSet false ends), .atEnd]

section Sets

variable {negate : Bool} {items : List ClassItem} {s : List Nat}

/-- **`^[C]{lo,hi}$` accepts the strings of `lo` to `hi` code points of `C`, with or without one
final `\n`.** -/
theorem search_classRepeat {lo : Nat} {hi : Option Nat} :
    search (classRepeat negate items lo hi) s ↔
      (lo ≤ s.length ∧ (∀ m ∈ hi, s.length ≤ m) ∧ ∀ c ∈ s, inItems items c ≠ negate) ∨
      ∃ t, s = t ++ [10] ∧
        lo ≤ t.length ∧ (∀ m ∈ hi, t.length ≤ m) ∧ ∀ c ∈ t, inItems items c ≠ negate :=
  search_anchored_iff [_]
    (fun t => lo ≤ t.length ∧ (∀ m ∈ hi, t.length ≤ m) ∧ ∀ c ∈ t, inItems items c ≠ negate)
    fun t u => by
      simp only [Node.matches_ofSeq_cons, matches_repeat_inSet, Node.matches_ofSeq_nil,
        exists_eq_right', Nat.zero_add, allBetween_append_iff]

/-- **`^[C]*$` accepts the strings of `C` code points, with or without one final `\n`.** -/
theorem search_classStar :
    search (classStar negate items) s ↔ (∀ c ∈ s, inItems items c ≠ negate) ∨
      ∃ t, s = t ++ [10] ∧ ∀ c ∈ t, inItems items c ≠ negate := by
  simp [classStar, search_classRepeat]

/-- When `\n` is itself a `C` code point, the final `\n` that `$` lets through adds nothing:
`^[C]*$` accepts exactly the strings of `C` code points. -/
theorem search_classStar_of_newline (h10 : inItems items 10 ≠ negate) :
    search (classStar negate items) s ↔ ∀ c ∈ s, inItems items c ≠ negate := by
  rw [search_classStar, or_iff_left_of_imp]
  rintro ⟨t, rfl, h⟩ c hc
  rcases List.mem_append.1 hc with hc | hc
  · exact h c hc
  · rwa [List.mem_singleton.1 hc]

/-- **`^[C]+$` accepts the non-empty strings of `C` code points, with or without one final
`\n`.** -/
theorem search_classPlus :
    search (classPlus negate items) s ↔ (s ≠ [] ∧ ∀ c ∈ s, inItems items c ≠ negate) ∨
      ∃ t, s = t ++ [10] ∧ t ≠ [] ∧ ∀ c ∈ t, inItems items c ≠ negate := by
  simp [classPlus, search_classRepeat, Nat.one_le_iff_ne_zero]

/-- `[E]+[C]*[E]+` from `0` to `e`, given `E ⊆ C`: at least two code points, all in `C`, the
first and the last in `E`. -/
theorem matches_classEnds_middle {ends body : List ClassItem}
    (hsub : ∀ c, inItems ends c = true → inItems body c = true) {e : Nat} :
    (Node.ofSeq [.maxRepeat 1 none (.inSet false ends), .maxRepeat 0 none (.inSet false body),
      .maxRepeat 1 none (.inSet false ends)]).Matches s 0 e ↔
      2 ≤ e ∧ AllBetween (fun c => inItems body c = true) s 0 e ∧
        (∃ c, s[0]? = some c ∧ inItems ends c = true) ∧
        ∃ c, s[e - 1]? = some c ∧ inItems ends c = true := by
  simp only [Node.matches_ofSeq_cons, matches_plus_inSet, matches_star_inSet,
    Node.matches_ofSeq_nil, Bool.not_eq_false, ne_eq]
  constructor
  · rintro ⟨k₁, ⟨h0, h₁⟩, k₂, ⟨h12, h₂⟩, k₃, ⟨h23, h₃⟩, rfl⟩
    exact ⟨by omega, (h₁.mono hsub).trans (h₂.trans (h₃.mono hsub)), h₁ 0 le_rfl h0,
      h₃ _ (by omega) (by omega)⟩
  · rintro ⟨he, hall, hfirst, hlast⟩
    have hend := allBetween_succ_iff.2 hlast
    rw [Nat.sub_add_cancel (by omega)] at hend
    exact ⟨1, ⟨Nat.one_pos, allBetween_succ_iff.2 hfirst⟩, e - 1,
      ⟨by omega, hall.sub (Nat.zero_le _) (by omega)⟩, e, ⟨by omega, hend⟩, rfl⟩

/-- **`^[E]+[C]*[E]+$` with `E ⊆ C`** accepts the strings of `C` code points, at least two long,
whose first and last code points are in `E` — with or without one final `\n`. -/
theorem search_classEnds {ends body : List ClassItem}
    (hsub : ∀ c, inItems ends c = true → inItems body c = true) :
    search (classEnds ends body) s ↔
      (2 ≤ s.length ∧ (∀ c ∈ s, inItems body c = true) ∧ (∀ c ∈ s.head?, inItems ends c = true) ∧
        ∀ c ∈ s.getLast?, inItems ends c = true) ∨
      ∃ t, s = t ++ [10] ∧ 2 ≤ t.length ∧ (∀ c ∈ t, inItems body c = true) ∧
        (∀ c ∈ t.head?, inItems ends c = true) ∧ ∀ c ∈ t.getLast?, inItems ends c = true := by
  refine search_anchored_iff [_, _, _] (fun t => 2 ≤ t.length ∧ (∀ c ∈ t, inItems body c = true) ∧
    (∀ c ∈ t.head?, inItems ends c = true) ∧ ∀ c ∈ t.getLast?, inItems ends c = true) fun t u => ?_
  rw [matches_classEnds_middle hsub, allBetween_append_iff]
  refine and_congr_right fun h2 => and_congr_right fun _ => ?_
  have ht : t ≠ [] := List.ne_nil_of_length_pos (by omega)
  rw [List.getElem?_append_left (by omega), List.getElem?_append_left (by omega),
    ← List.head?_eq_getElem?, ← List.getLast?_eq_getElem?]
  obtain ⟨a, ha⟩ := Option.ne_none_iff_exists'.1 (mt List.head?_eq_none_iff.1 ht)
  obtain ⟨z, hz⟩ := Option.ne_none_iff_exists'.1 (mt List.getLast?_eq_none_iff.1 ht)
  simp [ha, hz]

end Sets

end NovaValidation
