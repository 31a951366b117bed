import NovaValidation.ParameterTypes.Schemas

/-!
# ParameterTypes/KeypairName — the two keypair name schemas

`keypair_name_special_chars` and `keypair_name_special_chars_v292` are each the `allOf` of two
schemas.  The first is `name`: a string of 1 to 255 code points that the checker registered for the
`'name'` format accepts (that checker is in `validators.py`, outside the source, so here it is a
parameter `nameFormat`).  The second is a schema of their own whose pattern lists the characters a
keypair name may use: `^[_\- a-zA-Z0-9]+$`, and in the 2.92 schema `^[_\-\@\. a-zA-Z0-9]+$`.

* `keypairNameSpecialChars_valid` — for every checker of `'name'`, each schema accepts exactly the
  strings the checker accepts that are at most 255 of its characters, at least one — and, since
  `$` matches before a final `\n`, such a string followed by one `\n`.
* `keypairNameSpecialChars_iff_v292` — the 2.92 schema adds `@` and `.` and nothing else: a value
  passes the older schema exactly when it passes the newer one and holds neither.
-/

namespace NovaValidation

/-! ## `allOf`, and a `format` -/

/-- `'allOf'`: a value passes every member. -/
def allOf (members : List (Instance → Prop)) (v : Instance) : Prop := ∀ p ∈ members, p v

/-- A schema with a `'format'`: its keywords and, on a string, the checker registered for the
format. -/
def Schema.ValidWithFormat (sch : Schema) (checker : List Nat → Bool) : Instance → Prop
  | .string s => sch.Valid (.string s) ∧ checker s = true
  | v => sch.Valid v

/-- `name`, but for its `'format': 'name'`. -/
def name : Schema := { type := [.string], minLength := 1, maxLength := some 255 }

/-- The member of a keypair name schema that lists its characters. -/
def keypairNamePattern (pattern : List Nat) : Schema :=
  { type := [.string], pattern := some pattern, minLength := 1, maxLength := some 255 }

/-- `{'allOf': [name, {'type': 'string', 'pattern': pattern, 'minLength': 1, 'maxLength': 255}]}`,
with `name`'s format checked by `nameFormat`. -/
def keypairNameSchema (pattern : List Nat) (nameFormat : List Nat → Bool) : Instance → Prop :=
  allOf [name.ValidWithFormat nameFormat, (keypairNamePattern pattern).Valid]

/-- `keypair_name_special_chars`. -/
def keypairNameSpecialChars : (List Nat → Bool) → Instance → Prop :=
  keypairNameSchema (str "^[_\\- a-zA-Z0-9]+$")

/-- `keypair_name_special_chars_v292`. -/
def keypairNameSpecialCharsV292 : (List Nat → Bool) → Instance → Prop :=
  keypairNameSchema (str "^[_\\-\\@\\. a-zA-Z0-9]+$")

/-- The characters `[_\- a-zA-Z0-9]`. -/
def isKeypairNameChar (c : Nat) : Bool := c == 95 || c == 45 || c == 32 || isAsciiAlnum c

/-- The characters `[_\-\@\. a-zA-Z0-9]`. -/
def isKeypairNameCharV292 (c : Nat) : Bool :=
  c == 95 || c == 45 || c == 64 || c == 46 || c == 32 || isAsciiAlnum c

theorem compile_keypairNameSpecialChars : compile (str "^[_\\- a-zA-Z0-9]+$") =
    .ok (classPlus false ([.literal 95, .literal 45, .literal 32] ++ alnumItems)) := rfl

theorem compile_keypairNameSpecialCharsV292 : compile (str "^[_\\-\\@\\. a-zA-Z0-9]+$") =
    .ok (classPlus false ([.literal 95, .literal 45, .literal 64, .literal 46, .literal 32] ++
      alnumItems)) := rfl

/-! ## What a keypair name schema accepts -/

@[simp] theorem allOf_pair (p q : Instance → Prop) (v : Instance) : allOf [p, q] v ↔ p v ∧ q v := by
  simp [allOf]

/-- A keypair name schema whose pattern is `^[C]+$` takes the strings `nameFormat` accepts of at
most 255 `C` code points, at least one, with or without one final `\n`. -/
theorem keypairNameSchema_valid {pattern : List Nat} {items : List ClassItem}
    (hc : compile pattern = .ok (classPlus false items)) (nameFormat : List Nat → Bool)
    (v : Instance) :
    keypairNameSchema pattern nameFormat v ↔ ∃ s, v = .string s ∧ nameFormat s = true ∧
      s.length ≤ 255 ∧ ((s ≠ [] ∧ ∀ c ∈ s, inItems items c = true) ∨
        ∃ t, s = t ++ [10] ∧ t ≠ [] ∧ ∀ c ∈ t, inItems items c = true) := by
  cases v with
  | string s =>
    rw [keypairNameSchema, allOf_pair, Schema.ValidWithFormat,
      @Schema.valid_string (keypairNamePattern pattern) pattern s rfl _ hc, search_classPlus]
    simp only [name, keypairNamePattern, Schema.Valid, List.mem_singleton, Option.mem_def,
      Option.some.injEq, forall_eq', reduceCtorEq, false_implies, implies_true, and_true,
      Bool.not_eq_false, Instance.string.injEq, exists_eq_left', true_and]
    constructor
    · rintro ⟨⟨-, hf⟩, -, hl, hp⟩
      exact ⟨hf, hl, hp⟩
    · rintro ⟨hf, hl, hp⟩
      -- `^[C]+$` needs a code point, so both `minLength`s hold already
      have h1 : 1 ≤ s.length := by
        rcases hp with ⟨hne, -⟩ | ⟨t, rfl, -⟩
        exacts [List.length_pos.2 hne, by simp]
      exact ⟨⟨⟨h1, hl⟩, hf⟩, h1, hl, hp⟩
  | integer _ | null => simp [keypairNameSchema, allOf, Schema.ValidWithFormat, name, Schema.Valid]

@[simp] theorem inItems_keypairName (c : Nat) :
    inItems ([.literal 95, .literal 45, .literal 32] ++ alnumItems) c = isKeypairNameChar c := by
  simp [isKeypairNameChar, Bool.or_assoc]

@[simp] theorem inItems_keypairNameV292 (c : Nat) :
    inItems ([.literal 95, .literal 45, .literal 64, .literal 46, .literal 32] ++ alnumItems) c =
      isKeypairNameCharV292 c := by
  simp [isKeypairNameCharV292, Bool.or_assoc]

/-- **What the two keypair name schemas accept**, for every checker of the `'name'` format. -/
theorem keypairNameSpecialChars_valid (nameFormat : List Nat → Bool) (v : Instance) :
    (keypairNameSpecialChars nameFormat v ↔ ∃ s, v = .string s ∧ nameFormat s = true ∧
      s.length ≤ 255 ∧ ((s ≠ [] ∧ ∀ c ∈ s, isKeypairNameChar c = true) ∨
        ∃ t, s = t ++ [10] ∧ t ≠ [] ∧ ∀ c ∈ t, isKeypairNameChar c = true)) ∧
    (keypairNameSpecialCharsV292 nameFormat v ↔ ∃ s, v = .string s ∧ nameFormat s = true ∧
      s.length ≤ 255 ∧ ((s ≠ [] ∧ ∀ c ∈ s, isKeypairNameCharV292 c = true) ∨
        ∃ t, s = t ++ [10] ∧ t ≠ [] ∧ ∀ c ∈ t, isKeypairNameCharV292 c = true)) :=
  ⟨by rw [keypairNameSpecialChars, keypairNameSchema_valid compile_keypairNameSpecialChars]
      simp only [inItems_keypairName],
    by rw [keypairNameSpecialCharsV292, keypairNameSchema_valid compile_keypairNameSpecialCharsV292]
       simp only [inItems_keypairNameV292]⟩

/-! ## What 2.92 adds -/

/-- The older characters are the 2.92 ones but `@` and `.`. -/
theorem isKeypairNameChar_iff (c : Nat) :
    isKeypairNameChar c = true ↔ (isKeypairNameCharV292 c = true ∧ c ≠ 64) ∧ c ≠ 46 := by
  simp only [isKeypairNameChar, isKeypairNameCharV292, isAsciiAlnum, Bool.or_eq_true,
    beq_iff_eq, Bool.and_eq_true, decide_eq_true_eq]
  omega

/-- Leaving a code point other than `\n` out of `C` leaves it out of what `^[C]+$` accepts. -/
theorem plusLine_without {p : Nat → Prop} {a : Nat} (ha : a ≠ 10) (s : List Nat) :
    ((s ≠ [] ∧ ∀ c ∈ s, p c ∧ c ≠ a) ∨ ∃ t, s = t ++ [10] ∧ t ≠ [] ∧ ∀ c ∈ t, p c ∧ c ≠ a) ↔
      ((s ≠ [] ∧ ∀ c ∈ s, p c) ∨ ∃ t, s = t ++ [10] ∧ t ≠ [] ∧ ∀ c ∈ t, p c) ∧ a ∉ s := by
  simp only [forall_and, List.forall_mem_ne']
  constructor
  · rintro (⟨hne, hp, ha'⟩ | ⟨t, rfl, hne, hp, ha'⟩)
    exacts [⟨.inl ⟨hne, hp⟩, ha'⟩, ⟨.inr ⟨t, rfl, hne, hp⟩, by simp [ha', ha]⟩]
  · rintro ⟨⟨hne, hp⟩ | ⟨t, rfl, hne, hp⟩, ha'⟩
    exacts [.inl ⟨hne, hp, ha'⟩, .inr ⟨t, rfl, hne, hp, fun h => ha' (List.mem_append_left _ h)⟩]

/-- **The 2.92 keypair name schema adds `@` and `.`, and nothing else**: for every checker of the
`'name'` format, a value passes `keypair_name_special_chars` exactly when it passes
`keypair_name_special_chars_v292` and holds neither. -/
theorem keypairNameSpecialChars_iff_v292 (nameFormat : List Nat → Bool) (v : Instance) :
    keypairNameSpecialChars nameFormat v ↔
      keypairNameSpecialCharsV292 nameFormat v ∧ ∀ s, v = .string s → 64 ∉ s ∧ 46 ∉ s := by
  rw [keypairNameSpecialChars, keypairNameSpecialCharsV292,
    keypairNameSchema_valid compile_keypairNameSpecialChars,
    keypairNameSchema_valid compile_keypairNameSpecialCharsV292]
  simp only [inItems_keypairName, inItems_keypairNameV292, isKeypairNameChar_iff,
    plusLine_without (show 46 ≠ 10 by decide), plusLine_without (show 64 ≠ 10 by decide)]
  cases v with
  | string s =>
    simp only [Instance.string.injEq, exists_eq_left', forall_eq', and_assoc]
  | integer _ | null => simp

end NovaValidation
