import NovaValidation.Regex.Semantics

/-!
# Regex/Width — `getwidth` bounds every match, and what a look-behind reads

`sre_parse` computes for every subpattern the least and the greatest length it can match
(`Node.width`), and `sre_compile` uses it for one thing: a look-behind must have a single width,
which becomes the `back` of its `ASSERT`.  The engine then runs the body from `back` positions
before the current one and asks only that it match there, wherever that match ends.

* `Node.width_sound` — every match from `i` to `j` lies within the width: `i + lo ≤ j`, and
  `j ≤ i + hi` when `hi` is bounded.  One lemma per combinator (`WithinWidth.cat`, `.branch_left`,
  `.relIter`, and `.clamp` for `getwidth`'s `MAXREPEAT` clamp), then an induction over the tree.
* `Node.lookback_iff` — for a body of a single width `w`, that reading is the one the `re`
  documentation gives: the body, started `w` positions back, matches exactly when it matches a
  stretch of the string *ending* at the current position.
-/

namespace NovaValidation

/-! ## Lengths within a width -/

/-- A match from `i` to `j` within the width `(lo, hi)`: at least `lo` long, and at most `hi` when
`hi` is bounded. -/
def WithinWidth (w : Nat × Option Nat) (i j : Nat) : Prop := i + w.1 ≤ j ∧ ∀ m ∈ w.2, j ≤ i + m

namespace WithinWidth

variable {w v : Nat × Option Nat} {i j k : Nat}

theorem zero : WithinWidth (0, some 0) i i := ⟨le_rfl, fun _ hm => by cases hm; rfl⟩

theorem one : WithinWidth (1, some 1) i (i + 1) := ⟨le_rfl, fun _ hm => by cases hm; rfl⟩

/-- Widths add up along a sequence, as `getwidth` adds them over the items of a subpattern. -/
theorem cat (hw : WithinWidth w i k) (hv : WithinWidth v k j) :
    WithinWidth (w.1 + v.1, w.2.bind fun x => v.2.map (x + ·)) i j := by
  refine ⟨by have := hw.1; have := hv.1; omega, fun m hm => ?_⟩
  simp only [Option.mem_def, Option.bind_eq_some, Option.map_eq_some'] at hm
  obtain ⟨x, hx, y, hy, rfl⟩ := hm
  have := hw.2 x hx
  have := hv.2 y hy
  omega

/-- A branch's width spans both alternatives': the least of the least widths, the greatest of the
greatest. -/
theorem branch_left (hw : WithinWidth w i j) :
    WithinWidth (min w.1 v.1, w.2.bind fun x => v.2.map (max x ·)) i j := by
  refine ⟨by have := hw.1; omega, fun m hm => ?_⟩
  simp only [Option.mem_def, Option.bind_eq_some, Option.map_eq_some'] at hm
  obtain ⟨x, hx, y, -, rfl⟩ := hm
  have := hw.2 x hx
  omega

theorem branch_right (hv : WithinWidth v i j) :
    WithinWidth (min w.1 v.1, w.2.bind fun x => v.2.map (max x ·)) i j := by
  refine ⟨by have := hv.1; omega, fun m hm => ?_⟩
  simp only [Option.mem_def, Option.bind_eq_some, Option.map_eq_some'] at hm
  obtain ⟨x, -, y, hy, rfl⟩ := hm
  have := hv.2 y hy
  omega

/-- `getwidth`'s clamp only loosens the bounds. -/
theorem clamp (hw : WithinWidth w i j) : WithinWidth (clampWidth w) i j := by
  refine ⟨le_trans (Nat.add_le_add_left (min_le_left _ _) i) hw.1, fun m hm => ?_⟩
  simp only [clampWidth, Option.mem_def, Option.bind_eq_some, Option.ite_none_right_eq_some,
    Option.some.injEq] at hm
  obtain ⟨h, hh, -, rfl⟩ := hm
  exact hw.2 h hh

/-- `n` steps of an item of width `w` span `n` times that width. -/
theorem relIter {R : Nat → Nat → Prop} (hR : ∀ a b, R a b → WithinWidth w a b) :
    ∀ {n i j : Nat}, NovaValidation.relIter R n i j → WithinWidth (w.1 * n, w.2.map (· * n)) i j
  | 0, _, _, h => by
    cases h
    refine ⟨by simp, fun m hm => ?_⟩
    obtain ⟨x, -, rfl⟩ := Option.map_eq_some'.1 hm
    simp
  | n + 1, i, j, ⟨k, hk, hn⟩ => by
    have hstep := hR i k hk
    have hrest := relIter hR hn
    refine ⟨by have := hstep.1; have := hrest.1; rw [Nat.mul_succ]; omega, fun m hm => ?_⟩
    obtain ⟨x, hx, rfl⟩ := Option.map_eq_some'.1 hm
    have := hstep.2 x hx
    have := hrest.2 (x * n) (Option.mem_map_of_mem _ hx)
    rw [Nat.mul_succ]
    omega

end WithinWidth

namespace Node

/-- The greatest width of a repeat, from its item's and its `max`: none when either is unbounded,
except that an item of greatest width `0`, or a `max` of `0`, gives `0`. -/
def repeatHi : Option Nat → Option Nat → Option Nat
  | some 0, _ => some 0
  | _, some 0 => some 0
  | some x, some m => some (x * m)
  | _, _ => none

theorem width_maxRepeat (lo : Nat) (hi : Option Nat) (p : Node) :
    (maxRepeat lo hi p).width = (p.width.1 * lo, repeatHi p.width.2 hi) := rfl

variable {s : List Nat} {i j : Nat}

/-- Under `0 < n ≤ max`, a repeat's greatest width is at least `n` times its item's. -/
theorem le_of_mem_repeatHi {x hi : Option Nat} {n m : Nat} (hpos : 0 < n)
    (hhi : ∀ k ∈ hi, n ≤ k) (hm : m ∈ repeatHi x hi) : ∃ y ∈ x, y * n ≤ m := by
  rcases x with _ | _ | y <;> rcases hi with _ | _ | k <;> simp [repeatHi] at hm hhi ⊢ <;>
    first | omega | exact hm ▸ Nat.mul_le_mul_left _ hhi

/-- A repeat of `n` items, with `lo ≤ n ≤ hi`, lies within the repeat's width: `getwidth`
multiplies the item's least width by `min` and its greatest by `max`. -/
theorem withinWidth_maxRepeat {lo n : Nat} {hi : Option Nat} {p : Node}
    (hp : ∀ a b, p.Matches s a b → WithinWidth p.width a b) (hn : relIter (p.Matches s) n i j)
    (hlo : lo ≤ n) (hhi : ∀ m ∈ hi, n ≤ m) : WithinWidth (maxRepeat lo hi p).width i j := by
  rcases Nat.eq_zero_or_pos n with rfl | hpos
  · -- no item: the repeat ends where it starts
    obtain rfl : j = i := hn.symm
    exact ⟨by simp [width_maxRepeat, Nat.le_zero.1 hlo], fun m _ => Nat.le_add_right _ _⟩
  have h := WithinWidth.relIter hp hn
  rw [width_maxRepeat]
  refine ⟨le_trans (Nat.add_le_add_left (Nat.mul_le_mul_left _ hlo) i) h.1, fun m hm => ?_⟩
  obtain ⟨y, hy, hym⟩ := le_of_mem_repeatHi hpos hhi hm
  exact le_trans (h.2 _ (Option.mem_map_of_mem _ hy)) (Nat.add_le_add_left hym i)

/-- **`getwidth` is sound**: a match of any node from `i` to `j` is at least the node's least width
long and at most its greatest. -/
theorem width_sound (p : Node) {i j : Nat} (h : p.Matches s i j) : WithinWidth p.width i j := by
  induction p generalizing i j with
  | empty => exact h ▸ WithinWidth.zero
  | atBeginning | atEnd | assert _ _ _ | assertNot _ _ _ =>
    obtain ⟨-, rfl⟩ := h
    exact WithinWidth.zero
  | literal _ | any | inSet _ _ =>
    obtain ⟨-, rfl⟩ := h
    exact WithinWidth.one
  | cat a b iha ihb =>
    obtain ⟨k, ha, hb⟩ := h
    exact ((iha ha).cat (ihb hb)).clamp
  | branch a b iha ihb =>
    rcases h with ha | hb
    exacts [(iha ha).branch_left, (ihb hb).branch_right]
  | maxRepeat lo hi p ih =>
    obtain ⟨n, hlo, hhi, hn⟩ := h
    exact withinWidth_maxRepeat (fun _ _ => ih) hn hlo hhi

theorem width_sound_set :
    (ofSeq [.inSet false [.literal 97]]).Matches [97] 0 1 ∧
      WithinWidth (ofSeq [.inSet false [.literal 97]]).width 0 1 :=
  have h : (ofSeq [.inSet false [.literal 97]]).Matches [97] 0 1 := ⟨1, ⟨⟨97, rfl, by decide⟩, rfl⟩, rfl⟩
  ⟨h, width_sound _ h⟩

/-- A body of fixed width `w` ends exactly `w` after it starts. -/
theorem matches_of_fixed_width {p : Node} (hw : p.width.2 = some p.width.1)
    (h : p.Matches s i j) : j = i + p.width.1 := by
  have hfit := width_sound p h
  have := hfit.2 _ hw
  have := hfit.1
  omega

/-- **Started `w` back, a body of fixed width `w` ends here**: `ASSERT`'s reading of a look-behind
(the body matches from `i - w`, anywhere) is a match of the body ending at `i`. -/
theorem lookback_iff {p : Node} (hw : p.width.2 = some p.width.1) :
    (p.width.1 ≤ i ∧ ∃ k, p.Matches s (i - p.width.1) k) ↔ ∃ k, p.Matches s k i := by
  constructor
  · rintro ⟨hle, k, hk⟩
    have := matches_of_fixed_width hw hk
    exact ⟨i - p.width.1, by rwa [show k = i by omega] at hk⟩
  · rintro ⟨k, hk⟩
    have := matches_of_fixed_width hw hk
    exact ⟨by omega, i, by rwa [show i - p.width.1 = k by omega]⟩

end Node

end NovaValidation
