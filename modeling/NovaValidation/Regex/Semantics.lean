import NovaValidation.Regex.Parser

/-!
# Regex/Semantics — what a compiled pattern matches, and what `re.search` accepts

`Node.Matches s p i j` says that `p` can match the code points of `s` from position `i` to `j`.
It is the declarative reading of the `sre` engine: for patterns without back-references the
backtracking matcher finds a match exactly when one exists, so `re.search` succeeds on `s`
exactly when some start position has a match (`search`).  Anchors follow `_sre` without
`MULTILINE`: `^` is position `0`, and `$` is the end of the string *or the position just before a
final `\n`*.  An assertion looks back `back` positions, as `ASSERT_NOT` does, and fails to match
there when that is before the start.

`reSearch pattern s` is `re.search(pattern, s)` succeeding: the pattern compiles and matches.
-/

namespace NovaValidation

/-- `n` successive `R`-steps lead from `i` to `j`. -/
def relIter (R : Nat → Nat → Prop) : Nat → Nat → Nat → Prop
  | 0, i, j => i = j
  | n + 1, i, j => ∃ k, R i k ∧ relIter R n k j

namespace Node

/-- The positions between which a node can match `s`. -/
def Matches (s : List Nat) : Node → Nat → Nat → Prop
  | empty, i, j => j = i
  | literal c, i, j => s[i]? = some c ∧ j = i + 1
  | any, i, j => (∃ c, s[i]? = some c ∧ c ≠ 10) ∧ j = i + 1
  | inSet negate items, i, j => (∃ c, s[i]? = some c ∧ inItems items c ≠ negate) ∧ j = i + 1
  | atBeginning, i, j => i = 0 ∧ j = i
  | atEnd, i, j => (i = s.length ∨ (i + 1 = s.length ∧ s[i]? = some 10)) ∧ j = i
  | cat a b, i, j => ∃ k, a.Matches s i k ∧ b.Matches s k j
  | branch a b, i, j => a.Matches s i j ∨ b.Matches s i j
  | maxRepeat lo hi p, i, j =>
    ∃ n, lo ≤ n ∧ (∀ m ∈ hi, n ≤ m) ∧ relIter (fun a b => p.Matches s a b) n i j
  | assert back p, i, j => (back ≤ i ∧ ∃ k, p.Matches s (i - back) k) ∧ j = i
  | assertNot back p, i, j => ¬ (back ≤ i ∧ ∃ k, p.Matches s (i - back) k) ∧ j = i

end Node

/-- `pattern.search(s)` succeeding: a match from some start position. -/
def search (p : Node) (s : List Nat) : Prop := ∃ i ≤ s.length, ∃ j, p.Matches s i j

/-- `re.search(pattern, s)` succeeding: `pattern` compiles, and the compiled pattern matches. -/
def reSearch (pattern s : List Nat) : Prop := ∃ p, compile pattern = .ok p ∧ search p s

theorem reSearch_of_compile {pattern : List Nat} {p : Node} (h : compile pattern = .ok p)
    (s : List Nat) : reSearch pattern s ↔ search p s :=
  ⟨fun ⟨_, hq, hs⟩ => by rw [h] at hq; cases hq; exact hs, fun hs => ⟨p, h, hs⟩⟩

theorem not_reSearch_of_compile {pattern : List Nat} {e : ParseError}
    (h : compile pattern = .error e) (s : List Nat) : ¬ reSearch pattern s := by
  rintro ⟨p, hp, -⟩
  rw [h] at hp
  cases hp

/-! ## One lemma per opcode -/

namespace Node

variable {s : List Nat} {i j : Nat}

@[simp] theorem matches_empty : empty.Matches s i j ↔ j = i := Iff.rfl

@[simp] theorem matches_literal {c : Nat} :
    (literal c).Matches s i j ↔ s[i]? = some c ∧ j = i + 1 := Iff.rfl

@[simp] theorem matches_inSet {negate : Bool} {items : List ClassItem} :
    (inSet negate items).Matches s i j ↔
      (∃ c, s[i]? = some c ∧ inItems items c ≠ negate) ∧ j = i + 1 := Iff.rfl

@[simp] theorem matches_atBeginning : atBeginning.Matches s i j ↔ i = 0 ∧ j = i := Iff.rfl

@[simp] theorem matches_atEnd :
    atEnd.Matches s i j ↔ (i = s.length ∨ (i + 1 = s.length ∧ s[i]? = some 10)) ∧ j = i :=
  Iff.rfl

@[simp] theorem matches_cat {a b : Node} :
    (cat a b).Matches s i j ↔ ∃ k, a.Matches s i k ∧ b.Matches s k j := Iff.rfl

@[simp] theorem matches_branch {a b : Node} :
    (branch a b).Matches s i j ↔ a.Matches s i j ∨ b.Matches s i j := Iff.rfl

@[simp] theorem matches_assertNot {back : Nat} {p : Node} :
    (assertNot back p).Matches s i j ↔ ¬ (back ≤ i ∧ ∃ k, p.Matches s (i - back) k) ∧ j = i :=
  Iff.rfl

theorem matches_maxRepeat {lo : Nat} {hi : Option Nat} {p : Node} :
    (maxRepeat lo hi p).Matches s i j ↔
      ∃ n, lo ≤ n ∧ (∀ m ∈ hi, n ≤ m) ∧ relIter (fun a b => p.Matches s a b) n i j := Iff.rfl

@[simp] theorem matches_ofSeq_nil : (ofSeq []).Matches s i j ↔ j = i := Iff.rfl

@[simp] theorem matches_ofSeq_cons {a : Node} {l : List Node} :
    (ofSeq (a :: l)).Matches s i j ↔ ∃ k, a.Matches s i k ∧ (ofSeq l).Matches s k j := Iff.rfl

/-- `(?![C])` and `(?<![C])` on one set `C`: the code point `back` positions behind, if there is
one, is not in `C`. -/
theorem matches_assertNot_set {back : Nat} {negate : Bool} {items : List ClassItem} :
    (assertNot back (ofSeq [inSet negate items])).Matches s i j ↔
      (back ≤ i → ∀ c, s[i - back]? = some c → inItems items c = negate) ∧ j = i := by
  simp

end Node

/-! ## A character set, repeated

`[C]*` and `[C]+` match a stretch of `s` whose code points are all in `C`. -/

/-- Every code point of `s` from `i` up to `j` satisfies `p` (so `s` has them all). -/
def AllBetween (p : Nat → Prop) (s : List Nat) (i j : Nat) : Prop :=
  ∀ k, i ≤ k → k < j → ∃ c, s[k]? = some c ∧ p c

/-- **A repeated item of fixed width `w`**: `n` steps from `i` end at `i + w * n`, and the item's
condition holds at each of the `n` starts. -/
theorem relIter_fixed {R : Nat → Nat → Prop} {w : Nat} {Q : Nat → Prop}
    (hR : ∀ a b, R a b ↔ b = a + w ∧ Q a) (n : Nat) :
    ∀ {i j : Nat}, relIter R n i j ↔ j = i + w * n ∧ ∀ k < n, Q (i + w * k) := by
  induction n with
  | zero =>
    intro i j
    simp [relIter, eq_comm]
  | succ n ih =>
    intro i j
    simp only [relIter, hR, ih, Nat.mul_succ]
    constructor
    · rintro ⟨k, ⟨rfl, hq⟩, rfl, hall⟩
      refine ⟨by omega, fun m hm => ?_⟩
      rcases m with _ | m
      · simpa using hq
      · simpa only [Nat.mul_succ, Nat.add_assoc, Nat.add_comm w] using hall m (by omega)
    · rintro ⟨rfl, hall⟩
      refine ⟨i + w, ⟨rfl, by simpa using hall 0 (by omega)⟩, by omega, fun m hm => ?_⟩
      simpa only [Nat.mul_succ, Nat.add_assoc, Nat.add_comm w] using hall (m + 1) (by omega)

theorem relIter_inSet_iff {s : List Nat} {negate : Bool} {items : List ClassItem} (n : Nat) :
    ∀ {i j : Nat}, relIter (fun a b => (Node.inSet negate items).Matches s a b) n i j ↔
      j = i + n ∧ AllBetween (fun c => inItems items c ≠ negate) s i j := by
  intro i j
  rw [relIter_fixed (fun a b => by rw [Node.matches_inSet, and_comm]) n, Nat.one_mul]
  refine and_congr_right fun hj =>
    ⟨fun h k hik hkj => ?_, fun h k hk => by simpa using h (i + k) (by omega) (by omega)⟩
  simpa [Nat.add_sub_cancel' hik] using h (k - i) (by omega)

namespace AllBetween

variable {p q : Nat → Prop} {s : List Nat} {i j k : Nat}

theorem trans (h₁ : AllBetween p s i j) (h₂ : AllBetween p s j k) : AllBetween p s i k :=
  fun m hi hk => if hm : m < j then h₁ m hi hm else h₂ m (by omega) hk

theorem mono (hpq : ∀ c, p c → q c) (h : AllBetween p s i j) : AllBetween q s i j :=
  fun m h₁ h₂ => let ⟨c, hc, hp⟩ := h m h₁ h₂; ⟨c, hc, hpq c hp⟩

theorem sub {i' j' : Nat} (hi : i ≤ i') (hj : j' ≤ j) (h : AllBetween p s i j) :
    AllBetween p s i' j' :=
  fun m h₁ h₂ => h m (by omega) (by omega)

theorem and_iff : AllBetween (fun c => p c ∧ q c) s i j ↔ AllBetween p s i j ∧ AllBetween q s i j := by
  refine ⟨fun h => ⟨h.mono fun _ h => h.1, h.mono fun _ h => h.2⟩, fun ⟨hp, hq⟩ k h₁ h₂ => ?_⟩
  obtain ⟨c, hc, hpc⟩ := hp k h₁ h₂
  obtain ⟨d, hd, hqd⟩ := hq k h₁ h₂
  obtain rfl : c = d := Option.some_injective _ (hc.symm.trans hd)
  exact ⟨c, hc, hpc, hqd⟩

end AllBetween

theorem allBetween_succ_iff {p : Nat → Prop} {s : List Nat} {k : Nat} :
    AllBetween p s k (k + 1) ↔ ∃ c, s[k]? = some c ∧ p c :=
  ⟨fun h => h k le_rfl (by omega), fun h m h₁ h₂ => by rwa [show m = k by omega]⟩

/-- Some position below the length holds a code point with `p` exactly when some code point of
the string has it. -/
theorem exists_getElem?_iff {p : Nat → Prop} {s : List Nat} :
    (∃ k < s.length, ∃ c, s[k]? = some c ∧ p c) ↔ ∃ c ∈ s, p c := by
  constructor
  · rintro ⟨k, -, c, hc, hp⟩
    exact ⟨c, List.getElem?_mem hc, hp⟩
  · rintro ⟨c, hc, hp⟩
    obtain ⟨k, hk, rfl⟩ := List.mem_iff_getElem.1 hc
    exact ⟨k, hk, _, List.getElem?_eq_getElem hk, hp⟩

/-- The positions of `t ++ u` below `t.length` are the code points of `t`. -/
theorem allBetween_append_iff {p : Nat → Prop} {t : List Nat} (u : List Nat) :
    AllBetween p (t ++ u) 0 t.length ↔ ∀ c ∈ t, p c := by
  constructor
  · intro h c hc
    obtain ⟨k, hk, rfl⟩ := List.mem_iff_getElem.1 hc
    obtain ⟨c, hc, hp⟩ := h k (Nat.zero_le k) hk
    rw [List.getElem?_append_left hk, List.getElem?_eq_getElem hk] at hc
    exact Option.some_injective _ hc ▸ hp
  · intro h k _ hk
    exact ⟨t[k], by rw [List.getElem?_append_left hk, List.getElem?_eq_getElem hk],
      h _ (List.getElem_mem hk)⟩

theorem allBetween_length_iff {p : Nat → Prop} {s : List Nat} :
    AllBetween p s 0 s.length ↔ ∀ c ∈ s, p c := by
  simpa using allBetween_append_iff (p := p) (t := s) []

/-- `$` short of the end: the string is some `t` followed by a final `\n`, and the position is
`t`'s length. -/
theorem atEnd_before_newline_iff {s : List Nat} {e : Nat} :
    (e + 1 = s.length ∧ s[e]? = some 10) ↔ ∃ t, s = t ++ [10] ∧ e = t.length := by
  constructor
  · rintro ⟨h₁, h₂⟩
    refine ⟨s.take e, ?_, by simp; omega⟩
    conv_lhs => rw [← List.take_of_length_le (le_of_eq h₁.symm), List.take_succ, h₂]
    rfl
  · rintro ⟨t, rfl, rfl⟩
    simp

/-- **Up to a position where `$` holds**, a property that `\n` has holds of every code point of
the string. -/
theorem allBetween_atEnd_iff {p : Nat → Prop} {s : List Nat} {e : Nat} (h10 : p 10)
    (hend : e = s.length ∨ (e + 1 = s.length ∧ s[e]? = some 10)) :
    AllBetween p s 0 e ↔ ∀ c ∈ s, p c := by
  rcases hend with rfl | hend
  · exact allBetween_length_iff
  · obtain ⟨t, rfl, rfl⟩ := atEnd_before_newline_iff.1 hend
    simp [allBetween_append_iff, or_imp, forall_and, h10]

/-- **`$` on a string that does not end in `\n`** matches only at the end. -/
theorem atEnd_iff_of_getLast? {s : List Nat} (hs : s.getLast? ≠ some 10) (e : Nat) :
    (e = s.length ∨ (e + 1 = s.length ∧ s[e]? = some 10)) ↔ e = s.length := by
  refine ⟨fun h => h.resolve_right ?_, .inl⟩
  rintro ⟨h1, h2⟩
  rw [List.getLast?_eq_getElem?, ← h1, Nat.add_sub_cancel] at hs
  exact hs h2

/-- **`[C]{lo,hi}` from `i` to `j`**: at least `lo` and at most `hi` code points, all in `C`. -/
theorem matches_repeat_inSet {s : List Nat} {negate : Bool} {items : List ClassItem} {lo : Nat}
    {hi : Option Nat} {i j : Nat} :
    (Node.maxRepeat lo hi (.inSet negate items)).Matches s i j ↔
      i + lo ≤ j ∧ (∀ m ∈ hi, j ≤ i + m) ∧
        AllBetween (fun c => inItems items c ≠ negate) s i j := by
  simp only [Node.matches_maxRepeat, relIter_inSet_iff]
  constructor
  · rintro ⟨n, hlo, hhi, rfl, h⟩
    exact ⟨by omega, fun m hm => Nat.add_le_add_left (hhi m hm) i, h⟩
  · rintro ⟨hlo, hhi, h⟩
    exact ⟨j - i, by omega, fun m hm => by have := hhi m hm; omega, by omega, h⟩

/-- **`[C]*` from `i` to `j`**: every code point in between is in `C`. -/
theorem matches_star_inSet {s : List Nat} {negate : Bool} {items : List ClassItem} {i j : Nat} :
    (Node.maxRepeat 0 none (.inSet negate items)).Matches s i j ↔
      i ≤ j ∧ AllBetween (fun c => inItems items c ≠ negate) s i j := by
  simp [matches_repeat_inSet]

/-- **`[C]+` from `i` to `j`**: at least one code point, all in `C`. -/
theorem matches_plus_inSet {s : List Nat} {negate : Bool} {items : List ClassItem} {i j : Nat} :
    (Node.maxRepeat 1 none (.inSet negate items)).Matches s i j ↔
      i < j ∧ AllBetween (fun c => inItems items c ≠ negate) s i j := by
  simp [matches_repeat_inSet, Nat.lt_iff_add_one_le]

end NovaValidation
