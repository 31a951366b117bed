import NovaValidation.ParameterTypes.Printable
import NovaValidation.Regex.ClassBody

/-!
# ParameterTypes/RegexRange — `_build_regex_range` writes exactly the valid code points

The builder walks the code points `0 … 0xFFFE` once and run-length encodes `valid_char` into a
character-class body: a run opens with `re.escape(c)`, and closes with `-` and its last code
point unless it is one code point long; a run still open when the loop ends is closed by the
`for`'s `else` with `-￾`, even when it is that one code point.

`buildRegexRange_spec` is the builder's specification: its output is a list of items written one
after another, in increasing order with no overlap, that together match exactly the code points
below `0xFFFF` on which `valid_char` holds.  The proof is one loop invariant, `LoopInv`: after the
code points below `k`, `regex` is the runs closed so far followed by the start of the open run.
-/

namespace NovaValidation

/-! ## The builder, as the source runs it -/

/-- `_get_all_chars`: the code points `0 … 0xFFFE`. -/
def getAllChars : List Nat := List.range 0xFFFF

/-- The loop variables of `_build_regex_range`. -/
structure RegexRangeState where
  regex : List Nat
  inRange : Bool
  last : Option Nat
  lastAdded : Option Nat

/-- `regex = ""`, `in_range = False`, `last = None`, `last_added = None`. -/
def RegexRangeState.init : RegexRangeState := ⟨[], false, none, none⟩

/-- `"-" + re.escape(last)`; `last` is `None` only before the first code point, when no run is
open to close. -/
def closeRange (last : Option Nat) : List Nat := 45 :: (last.map reEscape).getD []

/-- One pass of the `for` body on code point `c`. -/
def regexRangeStep (valid : Nat → Bool) (st : RegexRangeState) (c : Nat) : RegexRangeState :=
  let st :=
    if valid c then
      let st := if !st.inRange then { st with regex := st.regex ++ reEscape c, lastAdded := some c }
        else st
      { st with inRange := true }
    else
      let st := if st.inRange && st.last != st.lastAdded then
          { st with regex := st.regex ++ closeRange st.last }
        else st
      { st with inRange := false }
  { st with last := some c }

/-- The `for` loop over the code points below `n`. -/
def regexRangeLoop (valid : Nat → Bool) (n : Nat) : RegexRangeState :=
  (List.range n).foldl (regexRangeStep valid) .init

/-- The `for`'s `else`: a run still open is closed with `c`, the last code point visited. -/
def regexRangeElse (st : RegexRangeState) (c : Nat) : List Nat :=
  if st.inRange then st.regex ++ [45] ++ reEscape c else st.regex

/-- `_build_regex_range(ws, invert, exclude)`, with `exclude=None` passed as `[]`; Python's
defaults are `ws=True`, `invert=False`. -/
def buildRegexRange (category : Nat → String) (ws invert : Bool) (exclude : List Nat) :
    List Nat :=
  regexRangeElse (getAllChars.foldl (regexRangeStep (validChar category ws invert exclude)) .init)
    (0xFFFF - 1)

theorem buildRegexRange_eq (category : Nat → String) (ws invert : Bool) (exclude : List Nat) :
    buildRegexRange category ws invert exclude =
      regexRangeElse (regexRangeLoop (validChar category ws invert exclude) 0xFFFF) (0xFFFF - 1) :=
  rfl

/-! ## The four branches of the loop body -/

section Step

variable {valid : Nat → Bool} {st : RegexRangeState} {c : Nat}

/-- A valid code point outside a run opens one. -/
theorem regexRangeStep_open (hv : valid c = true) (hr : st.inRange = false) :
    regexRangeStep valid st c = ⟨st.regex ++ reEscape c, true, some c, some c⟩ := by
  simp [regexRangeStep, hv, hr]

/-- A valid code point inside a run extends it. -/
theorem regexRangeStep_extend (hv : valid c = true) (hr : st.inRange = true) :
    regexRangeStep valid st c = ⟨st.regex, true, some c, st.lastAdded⟩ := by
  simp [regexRangeStep, hv, hr]

/-- An invalid code point outside a run changes only `last`. -/
theorem regexRangeStep_idle (hv : valid c = false) (hr : st.inRange = false) :
    regexRangeStep valid st c = ⟨st.regex, false, some c, st.lastAdded⟩ := by
  simp [regexRangeStep, hv, hr]

/-- An invalid code point inside a run closes it, writing `-last` unless the run is one code
point long. -/
theorem regexRangeStep_close (hv : valid c = false) (hr : st.inRange = true) :
    regexRangeStep valid st c =
      ⟨if st.last != st.lastAdded then st.regex ++ closeRange st.last else st.regex, false,
        some c, st.lastAdded⟩ := by
  by_cases h : st.last != st.lastAdded <;> simp_all [regexRangeStep]

end Step

/-! ## The loop invariant -/

/-- What the loop has written after the code points below `k`: the runs `closed`, and the start
of the run still open, if any.  The closed runs match exactly the valid code points below the
open run (below `k` when none is open), in increasing order. -/
structure LoopInv (valid : Nat → Bool) (k : Nat) (st : RegexRangeState)
    (closed : List ClassItem) (start : Option Nat) : Prop where
  regex : st.regex = renderBody closed ++ (start.map reEscape).getD []
  inRange : st.inRange = start.isSome
  last : st.last = if k = 0 then none else some (k - 1)
  lastAdded : ∀ a ∈ start, st.lastAdded = some a
  start_lt : ∀ a ∈ start, a < k
  open_valid : ∀ a ∈ start, ∀ c, a ≤ c → c < k → valid c = true
  denote : ∀ c, inItems closed c ↔ c < start.getD k ∧ valid c = true
  sorted : closed.Pairwise fun x y => x.hi < y.lo
  hi_lt : ∀ it ∈ closed, it.hi < start.getD k

theorem loopInv_init (valid : Nat → Bool) : LoopInv valid 0 .init [] none where
  regex := rfl
  inRange := rfl
  last := rfl
  lastAdded := by simp
  start_lt := by simp
  open_valid := by simp
  denote := by simp [inItems]
  sorted := List.Pairwise.nil
  hi_lt := by simp

theorem renderBody_append_single (closed : List ClassItem) (it : ClassItem) :
    renderBody (closed ++ [it]) = renderBody closed ++ it.render := by
  simp [renderBody]

theorem inItems_append_single (closed : List ClassItem) (it : ClassItem) (c : Nat) :
    inItems (closed ++ [it]) c ↔ inItems closed c ∨ (it.lo ≤ c ∧ c ≤ it.hi) := by
  simp [inItems, ClassItem.contains_iff]

/-- Closing the open run `[a, k - 1]` at an invalid `k`: the closed runs now match exactly the
valid code points below `k + 1`. -/
theorem LoopInv.close {valid : Nat → Bool} {k : Nat} {st : RegexRangeState}
    {closed : List ClassItem} {a : Nat} (h : LoopInv valid k st closed (some a))
    (hv : valid k = false) (it : ClassItem) (hlo : it.lo = a) (hhi : it.hi = k - 1)
    (st' : RegexRangeState) (hregex : st'.regex = renderBody (closed ++ [it]))
    (hin : st'.inRange = false) (hlast : st'.last = some k) :
    LoopInv valid (k + 1) st' (closed ++ [it]) none := by
  have hak : a < k := h.start_lt a rfl
  refine ⟨by simpa using hregex, by simpa using hin, by simpa using hlast, by simp, by simp,
    by simp, fun c => ?_, ?_, ?_⟩
  · rw [inItems_append_single, h.denote, hlo, hhi]
    have hopen := h.open_valid a rfl c
    simp only [Option.getD_some, Option.getD_none]
    constructor
    · rintro (⟨h1, h2⟩ | ⟨h1, h2⟩)
      · exact ⟨by omega, h2⟩
      · exact ⟨by omega, hopen h1 (by omega)⟩
    · rintro ⟨h1, h2⟩
      by_cases hca : c < a
      · exact .inl ⟨hca, h2⟩
      · have hck : c ≠ k := by rintro rfl; rw [hv] at h2; cases h2
        exact .inr ⟨by omega, by omega⟩
  · refine List.pairwise_append.2 ⟨h.sorted, by simp, fun x hx y hy => ?_⟩
    rw [List.mem_singleton.1 hy, hlo]
    simpa using h.hi_lt x hx
  · intro x hx
    rcases List.mem_append.1 hx with hx | hx
    · have := h.hi_lt x hx
      simp only [Option.getD_some] at this
      simp only [Option.getD_none]
      omega
    · rw [List.mem_singleton.1 hx, hhi]
      simp only [Option.getD_none]
      omega

/-- An invalid code point outside a run changes no run. -/
theorem LoopInv.skip {valid : Nat → Bool} {k : Nat} {st : RegexRangeState}
    {closed : List ClassItem} (h : LoopInv valid k st closed none) (hv : valid k = false) :
    LoopInv valid (k + 1) (regexRangeStep valid st k) closed none := by
  rw [regexRangeStep_idle hv (by simpa using h.inRange)]
  refine ⟨by simpa using h.regex, rfl, by simp, by simp, by simp, by simp, fun c => ?_,
    h.sorted, fun x hx => by have := h.hi_lt x hx; simp only [Option.getD_none] at this ⊢; omega⟩
  have hck : valid c = true → c ≠ k := by rintro h2 rfl; rw [hv] at h2; cases h2
  simp only [h.denote c, Option.getD_none]
  exact ⟨fun ⟨h1, h2⟩ => ⟨by omega, h2⟩, fun ⟨h1, h2⟩ => ⟨by have := hck h2; omega, h2⟩⟩

/-- A valid code point outside a run opens one at it. -/
theorem LoopInv.begin {valid : Nat → Bool} {k : Nat} {st : RegexRangeState}
    {closed : List ClassItem} (h : LoopInv valid k st closed none) (hv : valid k = true) :
    LoopInv valid (k + 1) (regexRangeStep valid st k) closed (some k) := by
  rw [regexRangeStep_open hv (by simpa using h.inRange)]
  refine ⟨by simp [h.regex], rfl, by simp, by simp, by simp, fun a ha c h1 h2 => ?_,
    fun c => by simpa using h.denote c, h.sorted, fun x hx => by simpa using h.hi_lt x hx⟩
  obtain rfl : a = k := by simpa using ha.symm
  obtain rfl : c = a := by omega
  exact hv

/-- A valid code point inside the run `[a, k - 1]` extends it. -/
theorem LoopInv.extend {valid : Nat → Bool} {k : Nat} {st : RegexRangeState}
    {closed : List ClassItem} {a : Nat} (h : LoopInv valid k st closed (some a))
    (hv : valid k = true) :
    LoopInv valid (k + 1) (regexRangeStep valid st k) closed (some a) := by
  rw [regexRangeStep_extend hv (by simpa using h.inRange)]
  refine ⟨h.regex, by simp, by simp, h.lastAdded, fun b hb => by
    have := h.start_lt b hb; omega, fun b hb c h1 h2 => ?_, h.denote, h.sorted, h.hi_lt⟩
  obtain rfl : b = a := by simpa using hb.symm
  rcases Nat.lt_or_ge c k with hc | hc
  · exact h.open_valid b rfl c h1 hc
  · obtain rfl : c = k := by omega
    exact hv

/-- **The step lemma**: one pass of the loop body keeps the invariant, for some new runs. -/
theorem LoopInv.step {valid : Nat → Bool} {k : Nat} {st : RegexRangeState}
    {closed : List ClassItem} {start : Option Nat} (h : LoopInv valid k st closed start) :
    ∃ closed' start', LoopInv valid (k + 1) (regexRangeStep valid st k) closed' start' := by
  rcases start with _ | a
  · cases hv : valid k
    · exact ⟨closed, none, h.skip hv⟩
    · exact ⟨closed, some k, h.begin hv⟩
  · cases hv : valid k
    · -- an invalid code point closes the run `[a, k - 1]`
      have hak : a < k := h.start_lt a rfl
      have hlast : st.last = some (k - 1) := by rw [h.last, if_neg (by omega)]
      rw [regexRangeStep_close hv (by simpa using h.inRange), hlast, h.lastAdded a rfl]
      by_cases hone : k - 1 = a
      · refine ⟨closed ++ [.literal a], none, h.close hv (.literal a) rfl
          (by simp [ClassItem.hi]; omega) _ ?_ rfl rfl⟩
        simp [hone, h.regex, renderBody_append_single, ClassItem.render]
      · refine ⟨closed ++ [.range a (k - 1) (by omega)], none,
          h.close hv (.range a (k - 1) (by omega)) rfl rfl _ ?_ rfl rfl⟩
        have hne : (some (k - 1) != some a) = true := by simpa using hone
        simp [hne, h.regex, renderBody_append_single, ClassItem.render, closeRange]
    · exact ⟨closed, some a, h.extend hv⟩

/-- **The run lemma**: after the code points below `n`, the loop state is described by some
closed runs and open run. -/
theorem loopInv_regexRangeLoop (valid : Nat → Bool) (n : Nat) :
    ∃ closed start, LoopInv valid n (regexRangeLoop valid n) closed start := by
  induction n with
  | zero => exact ⟨[], none, loopInv_init valid⟩
  | succ n ih =>
    obtain ⟨closed, start, h⟩ := ih
    rw [regexRangeLoop, List.range_succ, List.foldl_append, List.foldl_cons, List.foldl_nil]
    exact h.step

/-- **The `for`'s `else`**: closing the run still open at `n - 1` leaves runs, in increasing
order, that match exactly the valid code points below `n`. -/
theorem LoopInv.finish {valid : Nat → Bool} {n : Nat} {st : RegexRangeState}
    {closed : List ClassItem} {start : Option Nat} (h : LoopInv valid n st closed start) :
    ∃ items, regexRangeElse st (n - 1) = renderBody items ∧
      items.Pairwise (fun x y => x.hi < y.lo) ∧
      ∀ c, inItems items c ↔ c < n ∧ valid c = true := by
  rcases start with _ | a
  · refine ⟨closed, ?_, h.sorted, fun c => by simpa using h.denote c⟩
    have hr : st.inRange = false := by simpa using h.inRange
    simp [regexRangeElse, hr, h.regex]
  · have han : a < n := h.start_lt a rfl
    have hr : st.inRange = true := by simpa using h.inRange
    refine ⟨closed ++ [.range a (n - 1) (by omega)], ?_, ?_, fun c => ?_⟩
    · simp [regexRangeElse, hr, h.regex, renderBody_append_single, ClassItem.render]
    · refine List.pairwise_append.2 ⟨h.sorted, by simp, fun x hx y hy => ?_⟩
      rw [List.mem_singleton.1 hy]
      simpa [ClassItem.lo] using h.hi_lt x hx
    · rw [inItems_append_single, h.denote]
      have hopen := h.open_valid a rfl c
      simp only [Option.getD_some, ClassItem.lo, ClassItem.hi]
      constructor
      · rintro (⟨h1, h2⟩ | ⟨h1, h2⟩)
        · exact ⟨by omega, h2⟩
        · exact ⟨by omega, hopen h1 (by omega)⟩
      · rintro ⟨h1, h2⟩
        by_cases hca : c < a
        · exact .inl ⟨hca, h2⟩
        · exact .inr ⟨by omega, by omega⟩

/-- The builder's output as items: for every category assignment and arguments, in increasing
order, matching exactly the valid code points below `0xFFFF`. -/
theorem exists_regexRange_items (category : Nat → String) (ws invert : Bool)
    (exclude : List Nat) :
    ∃ items : List ClassItem,
      buildRegexRange category ws invert exclude = renderBody items ∧
      items.Pairwise (fun x y => x.hi < y.lo) ∧
      ∀ c, inItems items c ↔ c < 0xFFFF ∧ validChar category ws invert exclude c = true := by
  obtain ⟨closed, start, h⟩ :=
    loopInv_regexRangeLoop (validChar category ws invert exclude) 0xFFFF
  obtain ⟨items, hout, hsorted, hdenote⟩ := h.finish
  exact ⟨items, (buildRegexRange_eq ..).trans hout, hsorted, hdenote⟩

/-- **The output tells the valid code points apart**: two argument triples whose `valid_char`
differ below `0xFFFF` (and each with a valid code point there) give different outputs. -/
theorem buildRegexRange_ne {category : Nat → String} {ws invert ws' invert' : Bool}
    {exclude exclude' : List Nat} {c : Nat} (hc : c < 0xFFFF)
    (hv : validChar category ws invert exclude c ≠ validChar category ws' invert' exclude' c)
    (h₁ : ∃ d < 0xFFFF, validChar category ws invert exclude d = true)
    (h₂ : ∃ d < 0xFFFF, validChar category ws' invert' exclude' d = true) :
    buildRegexRange category ws invert exclude ≠ buildRegexRange category ws' invert' exclude' := by
  obtain ⟨a, ha, -, hda⟩ := exists_regexRange_items category ws invert exclude
  obtain ⟨b, hb, -, hdb⟩ := exists_regexRange_items category ws' invert' exclude'
  obtain ⟨d₁, hd₁, hv₁⟩ := h₁
  obtain ⟨d₂, hd₂, hv₂⟩ := h₂
  rw [ha, hb]
  intro h
  obtain rfl := renderBody_inj (ne_nil_of_inItems ((hda d₁).2 ⟨hd₁, hv₁⟩))
    (ne_nil_of_inItems ((hdb d₂).2 ⟨hd₂, hv₂⟩)) h
  exact hv (Bool.eq_iff_iff.2 (calc
    validChar category ws invert exclude c = true
        ↔ c < 0xFFFF ∧ validChar category ws invert exclude c = true := (and_iff_right hc).symm
    _ ↔ inItems a c = true := (hda c).symm
    _ ↔ c < 0xFFFF ∧ validChar category ws' invert' exclude' c = true := hdb c
    _ ↔ validChar category ws' invert' exclude' c = true := and_iff_right hc))

/-- **`_build_regex_range` writes a class body for exactly the valid code points.**  For every
category assignment, `ws`, `invert` and `exclude`, the output is a sequence of items — each
`re.escape(c)`, or `re.escape(a) + "-" + re.escape(b)` with `a ≤ b` — in increasing order with no
overlap; the items match exactly the code points below `0xFFFF` on which `valid_char` holds; and
when there is at least one, `sre_parse` reads the output followed by `]` back as exactly this set,
going on with whatever follows. -/
theorem buildRegexRange_spec (category : Nat → String) (ws invert : Bool) (exclude : List Nat) :
    ∃ items : List ClassItem,
      buildRegexRange category ws invert exclude = renderBody items ∧
      items.Pairwise (fun x y => x.hi < y.lo) ∧
      (∀ c, inItems items c ↔ c < 0xFFFF ∧ validChar category ws invert exclude c = true) ∧
      (items ≠ [] → ∀ rest : List Nat,
        (tokenize (buildRegexRange category ws invert exclude ++ 93 :: rest) >>= parseClass) =
          (fun ts => (Node.inSet false items, ts)) <$> tokenize rest) := by
  obtain ⟨items, hout, hsorted, hdenote⟩ := exists_regexRange_items category ws invert exclude
  refine ⟨items, hout, hsorted, hdenote, fun hne rest => ?_⟩
  rw [hout, tokenize_renderBody_append, tokenize_cons_of_ne (by decide)]
  cases tokenize rest with
  | error e => rfl
  | ok ts => exact parseClass_bodyToks items hne ts

end NovaValidation
