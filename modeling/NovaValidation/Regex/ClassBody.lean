import NovaValidation.Regex.Parser

/-!
# Regex/ClassBody — a written class body reads back as its items

The builder writes each item as `re.escape(a)` or `re.escape(a) + "-" + re.escape(b)`.  Since
`re.escape` puts a backslash before `]`, `-` and `^`, none of these occurs bare in a written body,
so `sre_parse`'s set loop reads the items back one by one and stops at the first bare `]` after
them — provided there is at least one item; an empty body leaves that `]` to be read as a literal
(`classLoop_bodyToks`).
-/

namespace NovaValidation

theorem classEscape_of_special {c : Nat} (h : c ∈ specialChars) : classEscape c = .ok c := by
  simp only [specialChars, List.mem_cons, List.mem_singleton, List.not_mem_nil, or_false] at h
  rcases h with rfl | rfl | rfl | rfl | rfl | rfl | rfl | rfl | rfl | rfl | rfl | rfl | rfl | rfl |
    rfl | rfl | rfl | rfl | rfl | rfl | rfl | rfl | rfl | rfl <;> rfl

/-- A written code point stands for itself in a set. -/
@[simp] theorem classAtom_escTok (c : Nat) : classAtom (escTok c) = .ok c := by
  unfold escTok
  split
  · exact classEscape_of_special ‹_›
  · rfl

/-- A written code point is never a bare `]`, `-` or `^`: `re.escape` guards them all. -/
theorem escTok_ne_ch {d : Nat} (hd : d ∈ specialChars) (c : Nat) : escTok c ≠ .ch d := by
  unfold escTok
  split
  · simp
  · intro h
    injection h with h
    subst h
    contradiction

section Loop

variable {set : List ClassItem} {this that : Tok} {lo hi : Nat} {rest : List Tok}

/-- A bare `]` closes a non-empty set. -/
theorem classLoop_close (hset : set ≠ []) : classLoop set (.ch 93 :: rest) = .ok (set, rest) := by
  rw [classLoop, if_pos ⟨rfl, hset⟩]

/-- A code point not followed by a bare `-` is a literal. -/
theorem classLoop_literal (h93 : this ≠ .ch 93) (hlo : classAtom this = .ok lo)
    (hrest : ∀ r, rest ≠ .ch 45 :: r) :
    classLoop set (this :: rest) = classLoop (set ++ [.literal lo]) rest := by
  rw [classLoop, if_neg (fun h => h93 h.1), hlo]
  dsimp only
  split
  · exact (hrest _ rfl).elim
  · exact (hrest _ rfl).elim
  · exact (hrest _ rfl).elim
  · rfl

/-- `a-b` with `a ≤ b` is a range. -/
theorem classLoop_range (h93 : this ≠ .ch 93) (hlo : classAtom this = .ok lo)
    (h93' : that ≠ .ch 93) (hhi : classAtom that = .ok hi) (hle : lo ≤ hi) :
    classLoop set (this :: .ch 45 :: that :: rest) = classLoop (set ++ [.range lo hi hle]) rest := by
  rw [classLoop, if_neg (fun h => h93 h.1), hlo]
  dsimp only
  split
  next h => simp at h
  next h => simp only [List.cons.injEq, true_and] at h; exact absurd h.1 h93'
  next h =>
    simp only [List.cons.injEq, true_and] at h
    obtain ⟨rfl, rfl⟩ := h
    simp [hhi, hle]
  next h => exact (h _ _ rfl).elim

/-- **A written body reads back as its items**, the set loop stopping at the `]` after it —
when the set is not empty by then. -/
theorem classLoop_bodyToks (items : List ClassItem) (set : List ClassItem)
    (h : set ++ items ≠ []) (rest : List Tok) :
    classLoop set (bodyToks items ++ .ch 93 :: rest) = .ok (set ++ items, rest) := by
  induction items generalizing set with
  | nil => simpa using classLoop_close (by simpa using h)
  | cons it items ih =>
    have hne : set ++ [it] ++ items ≠ [] := by simp
    cases it with
    | literal c =>
      simp only [bodyToks, List.flatMap_cons, ClassItem.toks, List.singleton_append,
        List.cons_append]
      rw [classLoop_literal (escTok_ne_ch (by decide) c) (classAtom_escTok c)]
      · simpa [bodyToks] using ih _ hne
      · intro r hr
        cases items with
        | nil => simp at hr
        | cons it' items' =>
          cases it' <;> simp [ClassItem.toks] at hr <;> exact escTok_ne_ch (by decide) _ hr.1
    | range lo hi hle =>
      rw [bodyToks, List.flatMap_cons, ClassItem.toks, List.append_assoc, List.cons_append,
        List.cons_append, List.cons_append, List.nil_append,
        classLoop_range (escTok_ne_ch (by decide) lo) (classAtom_escTok lo)
          (escTok_ne_ch (by decide) hi) (classAtom_escTok hi) hle]
      simpa [bodyToks] using ih _ hne

end Loop

/-- **A written body between `[` and `]` is the set of its items.** -/
theorem parseClass_bodyToks (items : List ClassItem) (h : items ≠ []) (rest : List Tok) :
    parseClass (bodyToks items ++ .ch 93 :: rest) = .ok (.inSet false items, rest) := by
  obtain ⟨it, items, rfl⟩ := List.exists_cons_of_ne_nil h
  have hfirst : ∃ t ts, bodyToks (it :: items) = t :: ts ∧ t ≠ .ch 94 := by
    cases it <;> exact ⟨_, _, rfl, escTok_ne_ch (by decide) _⟩
  obtain ⟨t, ts, hts, ht⟩ := hfirst
  have hloop := classLoop_bodyToks (it :: items) [] (by simp) rest
  rw [hts] at hloop ⊢
  rw [List.cons_append, parseClass.eq_2 _ (by simpa using ht), ← List.cons_append, hloop]
  rfl

/-- **A written body determines its items**: `sre_parse` reads each back from its text. -/
theorem renderBody_inj {a b : List ClassItem} (ha : a ≠ []) (hb : b ≠ [])
    (h : renderBody a = renderBody b) : a = b := by
  have hread : ∀ items : List ClassItem, items ≠ [] →
      (tokenize (renderBody items ++ [93]) >>= parseClass) = .ok (.inSet false items, []) := by
    intro items hne
    rw [tokenize_renderBody_append, tokenize_cons_of_ne (by decide)]
    exact parseClass_bodyToks items hne []
  have := (hread a ha).symm.trans (h ▸ hread b hb)
  injection this with h'
  injection h' with h'
  injection h'

end NovaValidation
