import NovaValidation.Regex.Width

/-!
# Regex/WellFormed — the trees `sre_parse` returns

`re.compile` rejects `{m,n}` with `n < m` or a count of `MAXREPEAT` or more, and a look-behind
whose body has no single width.  So every tree it does return has a shape of its own,
`Node.WellFormed`, and `compile_wellFormed` proves it by following `parseSub` token by token
(`parseSub_wellFormed`, an induction along the parser's own recursion).

The parser also refuses a quantifier right after an anchor or another quantifier, but that check
leaves no trace in the tree: `sre_parse` unwraps a non-capturing group after checking it, so
`(?:^)*` and `(?:a*)*` repeat an anchor and a repeat.  `WellFormed` asks of the item a repeat
repeats only that it be well formed itself.

With `Node.lookback_iff` this says that in every compiled pattern the look-behinds mean what
the documentation says they mean (`WellFormed.lookbehind_iff`, `WellFormed.negLookbehind_iff`).
-/

namespace NovaValidation

theorem except_bind_eq_ok {ε α β : Type} {x : Except ε α} {f : α → Except ε β} {b : β} :
    x >>= f = .ok b ↔ ∃ a, x = .ok a ∧ f a = .ok b := by
  cases x <;> simp

theorem except_map_eq_ok {ε α β : Type} {x : Except ε α} {f : α → β} {b : β} :
    f <$> x = .ok b ↔ ∃ a, x = .ok a ∧ f a = b := by
  cases x <;> simp [Functor.map, Except.map]

/-! ## The shape -/

/-- The bounds `sre_parse` lets a repeat have: `min ≤ max`, both below `MAXREPEAT`. -/
def RepeatBounds (lo : Nat) (hi : Option Nat) : Prop :=
  lo < sreMaxRepeat ∧ ∀ m ∈ hi, lo ≤ m ∧ m < sreMaxRepeat

instance (lo : Nat) (hi : Option Nat) : Decidable (RepeatBounds lo hi) :=
  inferInstanceAs (Decidable (_ ∧ _))

namespace Node

/-- **The trees the parser returns**: a repeat has `RepeatBounds`; an assertion looks back `0`
positions (a look-ahead) or exactly the single width of its body (a look-behind). -/
def WellFormed : Node → Prop
  | cat a b | branch a b => a.WellFormed ∧ b.WellFormed
  | maxRepeat lo hi p => RepeatBounds lo hi ∧ p.WellFormed
  | assert back p | assertNot back p => (back = 0 ∨ p.width = (back, some back)) ∧ p.WellFormed
  | empty | literal _ | any | inSet _ _ | atBeginning | atEnd => True

instance decWellFormed : (p : Node) → Decidable p.WellFormed
  | empty | literal _ | any | inSet _ _ | atBeginning | atEnd => isTrue trivial
  | cat a b | branch a b =>
    have := decWellFormed a
    have := decWellFormed b
    inferInstanceAs (Decidable (a.WellFormed ∧ b.WellFormed))
  | maxRepeat lo hi p =>
    have := decWellFormed p
    inferInstanceAs (Decidable (RepeatBounds lo hi ∧ p.WellFormed))
  | assert back p | assertNot back p =>
    have := decWellFormed p
    inferInstanceAs (Decidable ((back = 0 ∨ p.width = (back, some back)) ∧ p.WellFormed))

theorem wellFormed_ofSeq : ∀ {l : List Node}, (∀ n ∈ l, n.WellFormed) → (ofSeq l).WellFormed
  | [], _ => trivial
  | a :: _, h => ⟨h a (List.mem_cons_self _ _), wellFormed_ofSeq fun n hn => h n (.tail _ hn)⟩

theorem wellFormed_ofBranches : ∀ {l : List Node}, (∀ n ∈ l, n.WellFormed) →
    (ofBranches l).WellFormed
  | [], _ => trivial
  | [a], h => h a (List.mem_singleton_self _)
  | a :: _ :: _, h =>
    ⟨h a (List.mem_cons_self _ _), wellFormed_ofBranches fun n hn => h n (.tail _ hn)⟩

end Node

/-- Every node of a list, with one more appended. -/
theorem wellFormed_append_single {seq : List Node} {n : Node} (hseq : ∀ m ∈ seq, m.WellFormed)
    (hn : n.WellFormed) : ∀ m ∈ seq ++ [n], m.WellFormed := by
  intro m hm
  rcases List.mem_append.1 hm with hm | hm
  exacts [hseq m hm, List.eq_of_mem_singleton hm ▸ hn]

/-! ## What each piece of the parser builds -/

section Pieces

variable {toks rest : List Tok} {n : Node}

/-- A set reads as a set. -/
theorem parseClass_wellFormed (h : parseClass toks = .ok (n, rest)) : n.WellFormed := by
  unfold parseClass at h
  split at h <;> obtain ⟨_, -, h⟩ := except_map_eq_ok.1 h <;> cases h <;> trivial

/-- An escape outside a set reads as a literal. -/
theorem escapeNode_wellFormed {c : Nat} (h : escapeNode c = .ok n) : n.WellFormed := by
  unfold escapeNode at h
  split at h
  · cases h
  · obtain ⟨_, -, h⟩ := except_map_eq_ok.1 h
    cases h
    trivial

/-- A count read from digits is below `MAXREPEAT`. -/
theorem repeatCount_lt {ds : List Nat} {m : Option Nat} (h : repeatCount ds = .ok m) :
    ∀ v ∈ m, v < sreMaxRepeat := by
  unfold repeatCount at h
  split_ifs at h with h₁ h₂ <;> cases h
  · intro v hv; cases hv
  · intro v hv; cases hv; omega

/-- **`{m,n}` reads only ordered bounds below `MAXREPEAT`.** -/
theorem braceBounds_repeatBounds {ds es : List Nat} {r : List Tok} {lo : Nat} {hi : Option Nat}
    (h : braceBounds ds es r = .ok (lo, hi, rest)) : RepeatBounds lo hi := by
  simp only [braceBounds, except_bind_eq_ok] at h
  obtain ⟨m, hm, k, hk, h⟩ := h
  have hm' : m.getD 0 < sreMaxRepeat := by
    cases m with
    | none => decide
    | some v => exact repeatCount_lt hm v rfl
  cases k with
  | none => cases h; exact ⟨hm', fun _ h => by cases h⟩
  | some k =>
    simp only at h
    split_ifs at h with hlt
    cases h
    exact ⟨hm', fun _ h => by cases h; exact ⟨by omega, repeatCount_lt hk k rfl⟩⟩

theorem braceRepeat_repeatBounds {lo : Nat} {hi : Option Nat} {r : List Tok}
    (h : braceRepeat toks = some (.ok (lo, hi, r))) : RepeatBounds lo hi := by
  unfold braceRepeat at h
  split at h
  · cases h
  · simp only at h
    split at h
    · exact braceBounds_repeatBounds (Option.some.inj h)
    · cases h

section Repeat

variable {lo : Nat} {hi : Option Nat} {seq seq' : List Node}

/-- **A quantifier keeps the items well formed**: it repeats the last item with bounds the parser
has checked. -/
theorem repeatLast_wellFormed (hb : RepeatBounds lo hi) (hseq : ∀ m ∈ seq, m.WellFormed)
    (h : repeatLast lo hi seq = .ok seq') : ∀ m ∈ seq', m.WellFormed := by
  unfold repeatLast at h
  split at h
  · cases h
  · next item hitem =>
    split_ifs at h
    cases h
    exact wellFormed_append_single (fun m hm => hseq m (List.dropLast_subset _ hm))
      ⟨hb, hseq item (List.mem_of_getLast?_eq_some hitem)⟩

theorem quantified_wellFormed (hb : RepeatBounds lo hi) (hseq : ∀ m ∈ seq, m.WellFormed)
    (h : quantified lo hi seq toks = .ok (seq', rest)) : ∀ m ∈ seq', m.WellFormed := by
  obtain ⟨seq₁, hr, h⟩ := except_bind_eq_ok.1 h
  split at h
  · cases h
  · cases h
  · cases h
    exact repeatLast_wellFormed hb hseq hr

end Repeat

/-- **A closed group keeps the body well formed**: a look-behind is built only around a body of a
single width, which becomes its `back`. -/
theorem GroupKind.node_wellFormed {kind : GroupKind} {p : Node} (hp : p.WellFormed)
    (h : kind.node p = .ok n) : n.WellFormed := by
  cases kind with
  | capture | nonCapture => cases h; exact hp
  | lookahead negate => cases negate <;> cases h <;> exact ⟨.inl rfl, hp⟩
  | lookbehind negate =>
    simp only [GroupKind.node] at h
    split at h
    next hw =>
      have hfixed : p.width = (p.width.1, some p.width.1) := Prod.ext rfl hw
      cases negate <;> cases h <;> exact ⟨.inr hfixed, hp⟩
    next => cases h

end Pieces

/-! ## The whole parse -/

/-- **`parseSub` builds only well-formed trees** from well-formed pieces, whatever tokens it reads:
one case per branch of its `match`, each closed by the lemma about the piece that branch builds. -/
theorem parseSub_wellFormed {fuel : Nat} {alts seq : List Node} {toks : List Tok} {p : Node}
    {rest : List Tok} (halts : ∀ n ∈ alts, n.WellFormed) (hseq : ∀ n ∈ seq, n.WellFormed)
    (h : parseSub fuel alts seq toks = .ok (p, rest)) : p.WellFormed := by
  induction fuel, alts, seq, toks using parseSub.induct generalizing p rest with
  | case1 => cases h
  | case2 | case3 =>
    cases h
    exact Node.wellFormed_ofBranches (wellFormed_append_single halts (Node.wellFormed_ofSeq hseq))
  | case4 fuel alts seq rest ih =>
    exact ih (wellFormed_append_single halts (Node.wellFormed_ofSeq hseq)) (fun _ h => by cases h) h
  | case5 fuel alts seq rest ih =>
    obtain ⟨⟨set, rest'⟩, hc, h⟩ := except_bind_eq_ok.1 h
    exact ih set rest' halts (wellFormed_append_single hseq (parseClass_wellFormed hc)) h
  | case6 fuel alts seq rest ih | case7 fuel alts seq rest ih | case8 fuel alts seq rest ih =>
    obtain ⟨⟨seq', rest'⟩, hq, h⟩ := except_bind_eq_ok.1 h
    exact ih seq' rest' halts (quantified_wellFormed (by decide) hseq hq) h
  | case9 fuel alts seq rest hb ih =>
    rw [parseSub_brace_literal hb] at h
    exact ih halts (wellFormed_append_single hseq trivial) h
  | case10 fuel alts seq rest r hb ih =>
    simp only [parseSub, hb] at h
    replace h := except_bind_eq_ok.1 h
    obtain ⟨⟨lo, hi, r'⟩, rfl, h⟩ := h
    obtain ⟨⟨seq', rest'⟩, hq, h⟩ := except_bind_eq_ok.1 h
    exact ih seq' rest' halts (quantified_wellFormed (braceRepeat_repeatBounds hb) hseq hq) h
  | case11 fuel alts seq rest ih | case12 fuel alts seq rest ih | case13 fuel alts seq rest ih =>
    exact ih halts (wellFormed_append_single hseq trivial) h
  | case14 fuel alts seq rest ihg ih =>
    obtain ⟨⟨kind, r₁⟩, -, h⟩ := except_bind_eq_ok.1 h
    obtain ⟨⟨q, r₂⟩, hq, h⟩ := except_bind_eq_ok.1 h
    dsimp only at h
    split at h
    · obtain ⟨n, hn, h⟩ := except_bind_eq_ok.1 h
      have hqwf := ihg r₁ (fun _ h => by cases h) (fun _ h => by cases h) hq
      exact ih _ n halts (wellFormed_append_single hseq (GroupKind.node_wellFormed hqwf hn)) h
    · cases h
  | case15 fuel alts seq c rest ih =>
    obtain ⟨n, hn, h⟩ := except_bind_eq_ok.1 h
    exact ih n halts (wellFormed_append_single hseq (escapeNode_wellFormed hn)) h
  | case16 fuel alts seq c rest h1 h2 h3 h4 h5 h6 h7 h8 h9 h10 h11 ih =>
    rw [parseSub_literal (by simp_all)] at h
    exact ih halts (wellFormed_append_single hseq trivial) h

/-- `a(?<=bc|d)` is refused: its look-behind has widths `1` and `2`. -/
example : compile [97, 40, 63, 60, 61, 98, 99, 124, 100, 41] = .error .lookbehindNotFixed := by rfl

/-- `(?<=(?:a*){0})b` is read: a repeat with `max` `0` has width `0`, whatever its item. -/
example : compile [40, 63, 60, 61, 40, 63, 58, 97, 42, 41, 123, 48, 125, 41, 98] =
    .ok (.ofSeq [.assert 0 (.ofSeq [.maxRepeat 0 (some 0) (.ofSeq [.maxRepeat 0 none (.literal 97)])]),
      .literal 98]) := by rfl

/-- A repeat the parser would refuse: `{2,1}`. -/
example : ¬ (Node.maxRepeat 2 (some 1) .any).WellFormed := by decide

/-! ## Look-behinds in a compiled pattern -/

namespace Node

variable {back : Nat} {p : Node} {s : List Nat} {i j : Nat}

/-- An assertion of a well-formed tree that looks back has a body of that single width. -/
theorem WellFormed.width_of_back (hwf : (assert back p).WellFormed ∨ (assertNot back p).WellFormed)
    (hb : 0 < back) : p.width.2 = some p.width.1 ∧ back = p.width.1 := by
  obtain ⟨h | h, -⟩ | ⟨h | h, -⟩ := hwf <;> first | omega | simp [h]

/-- **In a well-formed tree, `(?<=…)` holds where its body matches a stretch ending here.** -/
theorem WellFormed.lookbehind_iff (hwf : (assert back p).WellFormed) (hb : 0 < back) :
    (assert back p).Matches s i j ↔ (∃ k, p.Matches s k i) ∧ j = i := by
  obtain ⟨hw, rfl⟩ := WellFormed.width_of_back (.inl hwf) hb
  exact and_congr_left' (lookback_iff hw)

/-- **…and `(?<!…)` where it matches none.** -/
theorem WellFormed.negLookbehind_iff (hwf : (assertNot back p).WellFormed) (hb : 0 < back) :
    (assertNot back p).Matches s i j ↔ (¬ ∃ k, p.Matches s k i) ∧ j = i := by
  obtain ⟨hw, rfl⟩ := WellFormed.width_of_back (.inr hwf) hb
  exact and_congr_left' (not_congr (lookback_iff hw))

theorem negLookbehind_iff_space :
    (assertNot 1 (ofSeq [.inSet false [.literal 32]])).WellFormed ∧ 0 < 1 ∧
    ((assertNot 1 (ofSeq [.inSet false [.literal 32]])).Matches [97] 1 1 ↔
      (¬ ∃ k, (ofSeq [.inSet false [.literal 32]]).Matches [97] k 1) ∧ 1 = 1) :=
  ⟨by decide, Nat.one_pos, WellFormed.negLookbehind_iff (by decide) Nat.one_pos⟩

end Node

end NovaValidation
