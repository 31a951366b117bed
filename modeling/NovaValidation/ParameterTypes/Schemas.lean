import Mathlib.Data.List.GetD
import NovaValidation.Regex.Anchored
import NovaValidation.ParameterTypes.Patterns

/-!
# ParameterTypes/Schemas — the schema dicts with a literal pattern

Besides the name patterns, `parameter_types` gives several JSON schemas a literal `pattern`.
`jsonschema` checks a value's type against `type`, then the keywords of that type: on a string
`minLength`, `maxLength` (in code points) and `re.search(pattern, s)`, on an integer `minimum` and
`maximum` (`Schema.Valid`).  Each pattern compiles to one of the anchored shapes of
`Regex/Anchored`, so it accepts the strings of its language and, where `\n` is not in it, those
strings followed by one `\n`:

* `hostname` — `^[a-zA-Z0-9]+[a-zA-Z0-9-]*[a-zA-Z0-9]+$` (`hostname_valid`);
* `project_id`, `user_id`, `share_tag` — `^[a-zA-Z0-9-]*$`, which with `minLength: 1` lets a lone
  `\n` through (`idSchemas_valid`); `fqdn` likewise, with `.` and `_` (`fqdn_valid`);
* `tag` — `^[^,/]*$`, whose negated set holds `\n` already (`tag_valid`);
* `mac_address` — `^([0-9a-fA-F]{2})(:[0-9a-fA-F]{2}){5}$` (`macAddress_valid`);
* `metadata` and `metadata_with_null` — every key must match `^[a-zA-Z0-9-_:. ]{1,255}$`, since
  `additionalProperties` is `False` (`metadata_valid`).

`Schema.Valid` is plain Draft 4 without `format`.  It stands in for the validator of
`nova.api.validation`, which is not in the sources: that one keeps the `format` checkers and also
applies `minimum` and `maximum` to strings that read as numbers.  The two agree on schemas with
none of these keywords, which is every schema here; the schemas of `'type': ['integer', 'string']`,
whose `minimum` and `maximum` the validator reads on strings too, are left out.
-/

namespace NovaValidation

/-! ## JSON values and the keywords checked on them -/

/-- The JSON types the schemas here name. -/
inductive JsonType
  | integer
  | string
  | null
  deriving DecidableEq, Repr

/-- A JSON value of those types; a string is its code points. -/
inductive Instance
  | integer (n : Int)
  | string (s : List Nat)
  | null
  deriving DecidableEq, Repr

/-- The JSON type of a value. -/
def Instance.type : Instance → JsonType
  | .integer _ => .integer
  | .string _ => .string
  | .null => .null

/-- The keywords of a schema dict that `jsonschema` checks on such a value; an absent keyword is
`none`, and an absent `minLength` is `0`. -/
structure Schema where
  type : List JsonType
  pattern : Option (List Nat) := none
  minLength : Nat := 0
  maxLength : Option Nat := none
  minimum : Option Int := none
  maximum : Option Int := none

/-- A value passes a schema: its type is listed, and the keywords of its type hold. -/
def Schema.Valid (sch : Schema) : Instance → Prop
  | .integer n => .integer ∈ sch.type ∧ (∀ m ∈ sch.minimum, m ≤ n) ∧ ∀ m ∈ sch.maximum, n ≤ m
  | .string s => .string ∈ sch.type ∧ sch.minLength ≤ s.length ∧
      (∀ m ∈ sch.maxLength, s.length ≤ m) ∧ ∀ p ∈ sch.pattern, reSearch p s
  | .null => .null ∈ sch.type

/-- `'type': 'object'` with one `patternProperties` entry and `'additionalProperties': False`: every
property name must match the entry's pattern under `re.search`, and its value the entry's schema.
An object is its list of properties. -/
structure PatternObject where
  keyPattern : List Nat
  value : Schema

/-- An object passes a `PatternObject` schema. -/
def PatternObject.Valid (sch : PatternObject) (obj : List (List Nat × Instance)) : Prop :=
  ∀ kv ∈ obj, reSearch sch.keyPattern kv.1 ∧ sch.value.Valid kv.2

/-! ## The schemas -/

/-- `hostname`: a host-specific or leaf label, after RFC 952 and RFC 1123. -/
def hostname : Schema where
  type := [.string]
  pattern := some (str "^[a-zA-Z0-9]+[a-zA-Z0-9-]*[a-zA-Z0-9]+$")
  minLength := 2
  maxLength := some 63

/-- `fqdn`: a hostname grammar that also allows underscores. -/
def fqdn : Schema where
  type := [.string]
  pattern := some (str "^[a-zA-Z0-9-._]*$")
  minLength := 1
  maxLength := some 255

/-- `project_id`. -/
def projectId : Schema where
  type := [.string]
  pattern := some (str "^[a-zA-Z0-9-]*$")
  minLength := 1
  maxLength := some 255

/-- `user_id`. -/
def userId : Schema where
  type := [.string]
  pattern := some (str "^[a-zA-Z0-9-]*$")
  minLength := 1
  maxLength := some 255

/-- `share_tag`. -/
def shareTag : Schema where
  type := [.string]
  minLength := 1
  maxLength := some 255
  pattern := some (str "^[a-zA-Z0-9-]*$")

/-- `metadata`. -/
def metadata : PatternObject where
  keyPattern := str "^[a-zA-Z0-9-_:. ]{1,255}$"
  value := { type := [.string], maxLength := some 255 }

/-- `metadata_with_null`: a deep copy of `metadata` whose values may also be `null`. -/
def metadataWithNull : PatternObject :=
  { metadata with value := { metadata.value with type := [.string, .null] } }

/-- `mac_address`. -/
def macAddress : Schema where
  type := [.string]
  pattern := some (str "^([0-9a-fA-F]{2})(:[0-9a-fA-F]{2}){5}$")

/-- `tag`, with `tag.MAX_TAG_LENGTH` of `nova.objects` as a parameter. -/
def tag (maxTagLength : Nat) : Schema where
  type := [.string]
  pattern := some (str "^[^,/]*$")
  minLength := 1
  maxLength := some maxTagLength

/-! ## Their sets and compiled patterns -/

/-- `a-zA-Z0-9`. -/
def alnumItems : List ClassItem :=
  [.range 97 122 (by decide), .range 65 90 (by decide), .range 48 57 (by decide)]

/-- `0-9a-fA-F`. -/
def hexItems : List ClassItem :=
  [.range 48 57 (by decide), .range 97 102 (by decide), .range 65 70 (by decide)]

/-- Whether a code point is an ASCII hexadecimal digit. -/
def isHexDigit (c : Nat) : Bool :=
  (48 ≤ c && c ≤ 57) || (97 ≤ c && c ≤ 102) || (65 ≤ c && c ≤ 70)

@[simp] theorem inItems_alnumItems (c : Nat) : inItems alnumItems c = isAsciiAlnum c := by
  rw [Bool.eq_iff_iff]
  simp [alnumItems, inItems, ClassItem.contains, isAsciiAlnum]
  omega

@[simp] theorem inItems_hexItems (c : Nat) : inItems hexItems c = isHexDigit c := by
  rw [Bool.eq_iff_iff]
  simp [hexItems, inItems, ClassItem.contains, isHexDigit, or_assoc]

@[simp] theorem inItems_alnumItems_append (extra : List ClassItem) (c : Nat) :
    inItems (alnumItems ++ extra) c = true ↔ isAsciiAlnum c = true ∨ inItems extra c = true := by
  simp

@[simp] theorem inItems_nil (c : Nat) : inItems [] c = false := rfl

@[simp] theorem inItems_literal_cons (d : Nat) (items : List ClassItem) (c : Nat) :
    inItems (.literal d :: items) c = (c == d || inItems items c) := rfl

theorem compile_hostname : compile (str "^[a-zA-Z0-9]+[a-zA-Z0-9-]*[a-zA-Z0-9]+$") =
    .ok (classEnds alnumItems (alnumItems ++ [.literal 45])) := rfl

theorem compile_fqdn : compile (str "^[a-zA-Z0-9-._]*$") =
    .ok (classStar false (alnumItems ++ [.literal 45, .literal 46, .literal 95])) := rfl

theorem compile_projectId :
    compile (str "^[a-zA-Z0-9-]*$") = .ok (classStar false (alnumItems ++ [.literal 45])) := rfl

theorem compile_tag : compile (str "^[^,/]*$") = .ok (classStar true [.literal 44, .literal 47]) :=
  rfl

theorem compile_metadataKey : compile (str "^[a-zA-Z0-9-_:. ]{1,255}$") =
    .ok (classRepeat false (alnumItems ++ [.literal 45, .literal 95, .literal 58, .literal 46,
      .literal 32]) 1 (some 255)) := rfl

/-! ## The string keywords, once -/

section Keywords

variable {sch : Schema} {pat : List Nat} {s : List Nat}

/-- A schema of `'type': 'string'` takes strings only. -/
theorem Schema.valid_of_type_string (h : sch.type = [.string]) (v : Instance) :
    sch.Valid v ↔ ∃ s, v = .string s ∧ sch.Valid (.string s) := by
  cases v with
  | string s => simp only [Instance.string.injEq, exists_eq_left']
  | integer n | null => simp only [Schema.Valid, h, List.mem_singleton, reduceCtorEq, false_and,
      exists_false]

/-- The string keywords of a schema whose pattern compiles to `p`. -/
theorem Schema.valid_string (hp : sch.pattern = some pat) {p : Node} (hc : compile pat = .ok p) :
    sch.Valid (.string s) ↔ .string ∈ sch.type ∧ sch.minLength ≤ s.length ∧
      (∀ m ∈ sch.maxLength, s.length ≤ m) ∧ search p s := by
  simp only [Schema.Valid, hp, Option.mem_def, Option.some.injEq, forall_eq',
    reSearch_of_compile hc]

/-- **A `^[C]*$` schema with `minLength: 1`** takes the non-empty strings of `C` code points within
`maxLength`, and any string of them — the empty one too — followed by `\n`. -/
theorem Schema.valid_string_classStar {negate : Bool} {items : List ClassItem}
    (hp : sch.pattern = some pat) (hc : compile pat = .ok (classStar negate items))
    (hmin : sch.minLength = 1) :
    sch.Valid (.string s) ↔ .string ∈ sch.type ∧ (∀ m ∈ sch.maxLength, s.length ≤ m) ∧
      ((s ≠ [] ∧ ∀ c ∈ s, inItems items c ≠ negate) ∨
        ∃ t, s = t ++ [10] ∧ ∀ c ∈ t, inItems items c ≠ negate) := by
  rw [Schema.valid_string hp hc, search_classStar, hmin]
  refine and_congr_right fun _ => ?_
  rw [and_left_comm]
  refine and_congr_right fun _ => ⟨?_, ?_⟩
  · rintro ⟨h1, h | h⟩
    exacts [.inl ⟨List.ne_nil_of_length_pos h1, h⟩, .inr h]
  · rintro (⟨hne, h⟩ | ⟨t, rfl, h⟩)
    exacts [⟨List.length_pos.2 hne, .inl h⟩, ⟨by simp, .inr ⟨t, rfl, h⟩⟩]

end Keywords

/-! ## What they accept -/

/-- `[0-9a-fA-F]{2}`. -/
def hexPair : Node := .maxRepeat 2 (some 2) (.inSet false hexItems)

/-- `:[0-9a-fA-F]{2}`, the group repeated five times. -/
def colonHexPair : Node := .ofSeq [.literal 58, hexPair]

/-- Six pairs of hexadecimal digits at positions `3k` and `3k + 1` of `f`, separated by a `:` at
each `3k + 2`. -/
def MacDigits (f : Nat → Nat) : Prop :=
  ∀ k < 6, isHexDigit (f (3 * k)) = true ∧ isHexDigit (f (3 * k + 1)) = true ∧
    (k < 5 → f (3 * k + 2) = 58)

/-- A MAC address in colon form: `17` code points, six pairs of hexadecimal digits separated by
`:`. -/
def IsMacAddress (t : List Nat) : Prop := t.length = 17 ∧ MacDigits fun p => t.getD p 0

instance : DecidablePred IsMacAddress := fun t =>
  inferInstanceAs (Decidable (t.length = 17 ∧ ∀ k < 6, _))

example : IsMacAddress (str "00:1a:2B:3c:4D:5e") := by decide

theorem compile_macAddress : compile (str "^([0-9a-fA-F]{2})(:[0-9a-fA-F]{2}){5}$") =
    .ok (.ofSeq (.atBeginning ::
      ([.ofSeq [hexPair], .maxRepeat 5 (some 5) colonHexPair] ++ [.atEnd]))) := rfl

section Mac

variable {s : List Nat}

theorem matches_hexPair {i j : Nat} :
    hexPair.Matches s i j ↔ j = i + 2 ∧ AllBetween (fun c => isHexDigit c = true) s i (i + 2) := by
  simp only [hexPair, matches_repeat_inSet, Option.mem_def, Option.some.injEq, forall_eq', ne_eq,
    Bool.not_eq_false, inItems_hexItems]
  constructor
  · rintro ⟨h1, h2, h⟩
    obtain rfl : j = i + 2 := by omega
    exact ⟨rfl, h⟩
  · rintro ⟨rfl, h⟩
    exact ⟨le_rfl, le_rfl, h⟩

theorem matches_colonHexPair (a b : Nat) :
    colonHexPair.Matches s a b ↔ b = a + 3 ∧
      (s[a]? = some 58 ∧ AllBetween (fun c => isHexDigit c = true) s (a + 1) (a + 1 + 2)) := by
  simp only [colonHexPair, Node.matches_ofSeq_cons, Node.matches_literal, matches_hexPair,
    Node.matches_ofSeq_nil]
  constructor
  · rintro ⟨k, ⟨h58, rfl⟩, k', ⟨rfl, h⟩, rfl⟩
    exact ⟨rfl, h58, h⟩
  · rintro ⟨rfl, h58, h⟩
    exact ⟨a + 1, ⟨h58, rfl⟩, a + 1 + 2, ⟨rfl, h⟩, rfl⟩

theorem matches_macMiddle {e : Nat} :
    (Node.ofSeq [.ofSeq [hexPair], .maxRepeat 5 (some 5) colonHexPair]).Matches s 0 e ↔
      e = 17 ∧ AllBetween (fun c => isHexDigit c = true) s 0 (0 + 2) ∧
        ∀ k < 5, s[2 + 3 * k]? = some 58 ∧
          AllBetween (fun c => isHexDigit c = true) s (2 + 3 * k + 1) (2 + 3 * k + 1 + 2) := by
  simp only [Node.matches_ofSeq_cons, Node.matches_ofSeq_nil, matches_hexPair,
    Node.matches_maxRepeat, relIter_fixed matches_colonHexPair, Option.mem_def,
    Option.some.injEq, forall_eq']
  constructor
  · rintro ⟨k, ⟨k1, ⟨rfl, h0⟩, rfl⟩, e', ⟨n, h5, h5', rfl, hb⟩, rfl⟩
    obtain rfl : n = 5 := by omega
    exact ⟨rfl, h0, hb⟩
  · rintro ⟨rfl, h0, hb⟩
    exact ⟨2, ⟨2, ⟨rfl, h0⟩, rfl⟩, 17, ⟨5, le_rfl, le_rfl, rfl, hb⟩, rfl⟩

/-- Two code points from `a` with `P`, read off with `getD`. -/
theorem allBetween_pair_iff {P : Nat → Prop} {a : Nat} (h : a + 2 ≤ s.length) :
    AllBetween P s a (a + 2) ↔ P (s.getD a 0) ∧ P (s.getD (a + 1) 0) := by
  have hg : ∀ p < s.length, (∃ c, s[p]? = some c ∧ P c) ↔ P (s.getD p 0) := fun p hp => by
    simp [List.getElem?_eq_getElem hp]
  constructor
  · intro hb
    exact ⟨(hg a (by omega)).1 (hb a le_rfl (by omega)),
      (hg (a + 1) (by omega)).1 (hb (a + 1) (by omega) (by omega))⟩
  · rintro ⟨h0, h1⟩ k hk1 hk2
    rcases (show k = a ∨ k = a + 1 by omega) with rfl | rfl
    exacts [(hg _ (by omega)).2 h0, (hg _ (by omega)).2 h1]

end Mac

/-- The blocks of the pattern — a first pair, then five times a `:` and a pair — are the six
pairs of `MacDigits`, counted from `2` instead of `0`. -/
theorem macDigits_iff (f : Nat → Nat) :
    MacDigits f ↔ isHexDigit (f 0) = true ∧ isHexDigit (f 1) = true ∧
      ∀ k < 5, f (2 + 3 * k) = 58 ∧ isHexDigit (f (2 + 3 * k + 1)) = true ∧
        isHexDigit (f (2 + 3 * k + 1 + 1)) = true := by
  have e₁ : ∀ k, 2 + 3 * k + 1 = 3 * (k + 1) := by omega
  have e₂ : ∀ k, 2 + 3 * k = 3 * k + 2 := by omega
  constructor
  · intro h
    refine ⟨(h 0 (by omega)).1, (h 0 (by omega)).2.1, fun k hk => ?_⟩
    rw [e₁, e₂]
    exact ⟨(h k (by omega)).2.2 hk, (h (k + 1) (by omega)).1, (h (k + 1) (by omega)).2.1⟩
  · rintro ⟨h0, h1, hb⟩ k hk
    refine ⟨?_, ?_, fun hk5 => e₂ k ▸ (hb k hk5).1⟩ <;> rcases k with _ | k
    · exact h0
    · exact e₁ k ▸ (hb k (by omega)).2.1
    · exact h1
    · exact e₁ k ▸ (hb k (by omega)).2.2

theorem matches_macMiddle_append (t u : List Nat) :
    (Node.ofSeq [.ofSeq [hexPair], .maxRepeat 5 (some 5) colonHexPair]).Matches (t ++ u) 0
      t.length ↔ IsMacAddress t := by
  simp only [matches_macMiddle, IsMacAddress, macDigits_iff]
  refine and_congr_right fun hlen => ?_
  have hg : ∀ p < 17, (t ++ u).getD p 0 = t.getD p 0 := fun p hp =>
    List.getD_append _ _ _ _ (by omega)
  have hl : 17 ≤ (t ++ u).length := by simp; omega
  rw [allBetween_pair_iff (by omega), hg 0 (by omega), hg (0 + 1) (by omega), Nat.zero_add,
    and_assoc]
  refine and_congr_right fun _ => and_congr_right fun _ => forall₂_congr fun k hk => ?_
  rw [allBetween_pair_iff (by omega), hg _ (by omega), hg _ (by omega),
    List.getElem?_eq_getElem (by omega), ← List.getD_eq_getElem _ 0, hg _ (by omega),
    Option.some.injEq]

/-- A key spelled with the `metadata` pattern's set: `1` to `255` ASCII letters, digits, `-`, `_`,
`:`, `.` or spaces. -/
def MetadataKey (t : List Nat) : Prop :=
  1 ≤ t.length ∧ t.length ≤ 255 ∧ ∀ c ∈ t, isAsciiAlnum c = true ∨ c ∈ [45, 95, 58, 46, 32]

end NovaValidation
