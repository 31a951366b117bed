import NovaValidation.Regex.Syntax

/-!
# Regex/Parser — `sre_parse` on the patterns the validation schemas use

`compile` is `re.compile` up to the syntax tree: tokenize, parse an alternation, and refuse a
pattern with an unbalanced `)`.  The parser follows `_parse_sub` and `_parse`:

* `classLoop` is the character-set loop — a first `]` is a literal, `a-b` is a range that must
  not run backwards, a `-` before the closing `]` is a literal;
* `braceRepeat` reads the `{m,n}` after a `{`, or finds that the `{` is a literal;
* `parseSub` reads items until `|`, `)` or the end, with `*`, `+`, `?` and `{m,n}` applying to the
  item before them and `(?!…)`, `(?<!…)`, `(?=…)`, `(?<=…)` read as assertions whose look-behind
  width must be fixed.

`parseSub` runs on fuel: every call consumes a token, so `compile` gives it one more than the
pattern has.  `sre_parse`'s optimisations (common-prefix factoring of a branch, a one-literal set
read as a literal) do not change what a pattern matches and are not modelled.
-/

namespace NovaValidation

/-- Whether a code point is an ASCII letter or digit, the escapes `sre_parse` treats specially. -/
def isAsciiAlnum (c : Nat) : Bool :=
  (48 ≤ c && c ≤ 57) || (65 ≤ c && c ≤ 90) || (97 ≤ c && c ≤ 122)

/-- `_class_escape`: `\a \b \f \n \r \t \v` are control characters and a backslash before a
character that is not an ASCII letter or digit stands for that character (`\\` included).
The other escapes are outside the model. -/
def classEscape : Nat → Except ParseError Nat
  | 97 => .ok 7
  | 98 => .ok 8
  | 102 => .ok 12
  | 110 => .ok 10
  | 114 => .ok 13
  | 116 => .ok 9
  | 118 => .ok 11
  | c => if isAsciiAlnum c then .error .unsupported else .ok c

/-- The code point a token stands for inside a set. -/
def classAtom : Tok → Except ParseError Nat
  | .ch c => .ok c
  | .esc c => classEscape c

/-- The `while True` loop of `_parse` that reads a character set after `[` (and `^`): `set` holds
the items read so far, and a `]` closes the set only once it is non-empty. -/
def classLoop (set : List ClassItem) : List Tok → Except ParseError (List ClassItem × List Tok)
  | [] => .error .unterminatedSet
  | this :: rest =>
    if this = .ch 93 ∧ set ≠ [] then .ok (set, rest) else
    match classAtom this with
    | .error e => .error e
    | .ok lo =>
      match rest with
      | .ch 45 :: [] => .error .unterminatedSet
      | .ch 45 :: .ch 93 :: rest => .ok (set ++ [.literal lo, .literal 45], rest)
      | .ch 45 :: that :: rest =>
        match classAtom that with
        | .error e => .error e
        | .ok hi =>
          if h : lo ≤ hi then classLoop (set ++ [.range lo hi h]) rest else .error .badRange
      | rest => classLoop (set ++ [.literal lo]) rest

/-- A character set after its `[`: an optional `^`, then `classLoop`. -/
def parseClass : List Tok → Except ParseError (Node × List Tok)
  | .ch 94 :: rest => (fun r => (.inSet true r.1, r.2)) <$> classLoop [] rest
  | rest => (fun r => (.inSet false r.1, r.2)) <$> classLoop [] rest

/-- `_escape` outside a set: as in a set, except that `\b` is a word boundary, outside the
model. -/
def escapeNode (c : Nat) : Except ParseError Node :=
  if c = 98 then .error .unsupported else .literal <$> classEscape c

/-- The quantifier `*`, `+` or `?` applied to the last item read: `nothing to repeat` after
nothing or an anchor, `multiple repeat` after a quantifier. -/
def repeatLast (lo : Nat) (hi : Option Nat) (seq : List Node) : Except ParseError (List Node) :=
  match seq.getLast? with
  | none => .error .nothingToRepeat
  | some item =>
    if item.isAt then .error .nothingToRepeat
    else if item.isRepeat then .error .multipleRepeat
    else .ok (seq.dropLast ++ [.maxRepeat lo hi item])

/-- What a `(` opens. -/
inductive GroupKind
  | capture
  | nonCapture
  | lookahead (negate : Bool)
  | lookbehind (negate : Bool)

/-- The extension after `(`: `(?:`, `(?=`, `(?!`, `(?<=`, `(?<!`, or a plain group. -/
def groupKind : List Tok → Except ParseError (GroupKind × List Tok)
  | .ch 63 :: rest =>
    match rest with
    | .ch 58 :: rest => .ok (.nonCapture, rest)
    | .ch 61 :: rest => .ok (.lookahead false, rest)
    | .ch 33 :: rest => .ok (.lookahead true, rest)
    | .ch 60 :: .ch 61 :: rest => .ok (.lookbehind false, rest)
    | .ch 60 :: .ch 33 :: rest => .ok (.lookbehind true, rest)
    | [] | [.ch 60] => .error .unexpectedEnd
    | .ch 60 :: _ => .error .unknownExtension
    | _ => .error .unsupported
  | rest => .ok (.capture, rest)

/-- The node a closed group becomes; a look-behind of variable width is refused, as
`sre_compile` does. -/
def GroupKind.node : GroupKind → Node → Except ParseError Node
  | .capture, p | .nonCapture, p => .ok p
  | .lookahead false, p => .ok (.assert 0 p)
  | .lookahead true, p => .ok (.assertNot 0 p)
  | .lookbehind negate, p =>
    if p.width.2 = some p.width.1 then
      .ok (if negate then .assertNot p.width.1 p else .assert p.width.1 p)
    else .error .lookbehindNotFixed

/-- A quantifier read after `seq`: the last item repeated; a lazy `?` or possessive `+` after
the quantifier is outside the model. -/
def quantified (lo : Nat) (hi : Option Nat) (seq : List Node) (rest : List Tok) :
    Except ParseError (List Node × List Tok) := do
  let seq ← repeatLast lo hi seq
  match rest with
  | .ch 63 :: _ | .ch 43 :: _ => .error .unsupported
  | rest => .ok (seq, rest)

/-- `while source.next in DIGITS: … += sourceget()`: the digits at the front, and what follows. -/
def readDigits : List Tok → List Nat × List Tok
  | .ch c :: rest =>
    if 48 ≤ c ∧ c ≤ 57 then
      let r := readDigits rest
      (c :: r.1, r.2)
    else ([], .ch c :: rest)
  | rest => ([], rest)

/-- `int()` of a string of ASCII digits. -/
def digitsValue (ds : List Nat) : Nat := ds.foldl (fun n d => 10 * n + (d - 48)) 0

/-- One bound of `{m,n}`: absent when no digit was read, and otherwise `int()` of the digits,
which must stay below `MAXREPEAT`. -/
def repeatCount (ds : List Nat) : Except ParseError (Option Nat) :=
  if ds = [] then .ok none
  else if sreMaxRepeat ≤ digitsValue ds then .error .repeatTooLarge
  else .ok (some (digitsValue ds))

/-- The bounds of a `{m,n}` closed by `}`, from the digits of `m` and `n` — `{m}` is `{m,m}`, a
missing `m` is `0`, a missing `n` is unbounded — with the tokens after the `}`. -/
def braceBounds (lo hi : List Nat) (r : List Tok) :
    Except ParseError (Nat × Option Nat × List Tok) := do
  let m ← repeatCount lo
  let n ← repeatCount hi
  match n with
  | some n => if n < m.getD 0 then .error .minRepeatGreater else .ok (m.getD 0, some n, r)
  | none => .ok (m.getD 0, none, r)

/-- The `{` branch of `_parse`, on the tokens after the `{`.  `none` when the `{` is a literal:
`{}`, or no `}` after the digits (`source.seek(here)`). -/
def braceRepeat (rest : List Tok) : Option (Except ParseError (Nat × Option Nat × List Tok)) :=
  match rest with
  | .ch 125 :: _ => none
  | _ =>
    let lo := readDigits rest
    let hi := match lo.2 with
      | .ch 44 :: r => readDigits r
      | r => (lo.1, r)
    match hi.2 with
    | .ch 125 :: r => some (braceBounds lo.1 hi.1 r)
    | _ => none

/-- `_parse_sub` and `_parse` as one loop: `alts` are the alternatives already closed by `|`,
`seq` the items of the current one.  A `)` or the end of the tokens ends the subpattern and is
left to the caller. -/
def parseSub : Nat → List Node → List Node → List Tok → Except ParseError (Node × List Tok)
  | 0, _, _, _ => .error .unsupported
  | fuel + 1, alts, seq, toks =>
    match toks with
    | [] => .ok (.ofBranches (alts ++ [.ofSeq seq]), [])
    | .ch 41 :: rest => .ok (.ofBranches (alts ++ [.ofSeq seq]), .ch 41 :: rest)
    | .ch 124 :: rest => parseSub fuel (alts ++ [.ofSeq seq]) [] rest
    | .ch 91 :: rest => do
      let (set, rest) ← parseClass rest
      parseSub fuel alts (seq ++ [set]) rest
    | .ch 42 :: rest => do
      let (seq, rest) ← quantified 0 none seq rest
      parseSub fuel alts seq rest
    | .ch 43 :: rest => do
      let (seq, rest) ← quantified 1 none seq rest
      parseSub fuel alts seq rest
    | .ch 63 :: rest => do
      let (seq, rest) ← quantified 0 (some 1) seq rest
      parseSub fuel alts seq rest
    | .ch 123 :: rest =>
      match braceRepeat rest with
      | none => parseSub fuel alts (seq ++ [.literal 123]) rest
      | some r => do
        let (lo, hi, rest) ← r
        let (seq, rest) ← quantified lo hi seq rest
        parseSub fuel alts seq rest
    | .ch 46 :: rest => parseSub fuel alts (seq ++ [.any]) rest
    | .ch 94 :: rest => parseSub fuel alts (seq ++ [.atBeginning]) rest
    | .ch 36 :: rest => parseSub fuel alts (seq ++ [.atEnd]) rest
    | .ch 40 :: rest => do
      let (kind, rest) ← groupKind rest
      let (p, rest) ← parseSub fuel [] [] rest
      match rest with
      | .ch 41 :: rest => do
        let n ← kind.node p
        parseSub fuel alts (seq ++ [n]) rest
      | _ => .error .missingParen
    | .esc c :: rest => do
      let n ← escapeNode c
      parseSub fuel alts (seq ++ [n]) rest
    | .ch c :: rest => parseSub fuel alts (seq ++ [.literal c]) rest

/-! ## The pieces of a group and a quantifier -/

theorem groupKind_negLookahead (rest : List Tok) :
    groupKind (.ch 63 :: .ch 33 :: rest) = .ok (.lookahead true, rest) := rfl

theorem groupKind_negLookbehind (rest : List Tok) :
    groupKind (.ch 63 :: .ch 60 :: .ch 33 :: rest) = .ok (.lookbehind true, rest) := rfl

theorem node_negLookahead (p : Node) : (GroupKind.lookahead true).node p = .ok (.assertNot 0 p) :=
  rfl

/-- A one-set negative look-behind looks back one code point. -/
theorem node_negLookbehind_set (negate : Bool) (items : List ClassItem) :
    (GroupKind.lookbehind true).node (.ofSeq [.inSet negate items]) =
      .ok (.assertNot 1 (.ofSeq [.inSet negate items])) := rfl

/-- A quantifier after a set, followed by neither `?` nor `+`, repeats the set. -/
theorem quantified_inSet {lo : Nat} {hi : Option Nat} {seq : List Node} {negate : Bool}
    {items : List ClassItem} {t : Tok} (h63 : t ≠ .ch 63) (h43 : t ≠ .ch 43) (rest : List Tok) :
    quantified lo hi (seq ++ [.inSet negate items]) (t :: rest) =
      .ok (seq ++ [.maxRepeat lo hi (.inSet negate items)], t :: rest) := by
  simp only [quantified, repeatLast, List.getLast?_concat, Node.isAt, Node.isRepeat,
    Bool.false_eq_true, if_false, List.dropLast_concat, except_ok_bind]
  split
  next h => exact absurd (List.cons.inj h).1 h63
  next h => exact absurd (List.cons.inj h).1 h43
  next => rfl

/-! ## One lemma per token read -/

section Steps

variable {fuel : Nat} {alts seq : List Node} {rest : List Tok}

theorem parseSub_nil :
    parseSub (fuel + 1) alts seq [] = .ok (.ofBranches (alts ++ [.ofSeq seq]), []) := rfl

theorem parseSub_rparen :
    parseSub (fuel + 1) alts seq (.ch 41 :: rest) =
      .ok (.ofBranches (alts ++ [.ofSeq seq]), .ch 41 :: rest) := rfl

theorem parseSub_bar :
    parseSub (fuel + 1) alts seq (.ch 124 :: rest) = parseSub fuel (alts ++ [.ofSeq seq]) [] rest :=
  rfl

theorem parseSub_caret :
    parseSub (fuel + 1) alts seq (.ch 94 :: rest) = parseSub fuel alts (seq ++ [.atBeginning]) rest :=
  rfl

theorem parseSub_dollar :
    parseSub (fuel + 1) alts seq (.ch 36 :: rest) = parseSub fuel alts (seq ++ [.atEnd]) rest :=
  rfl

theorem parseSub_set {n : Node} {rest' : List Tok} (h : parseClass rest = .ok (n, rest')) :
    parseSub (fuel + 1) alts seq (.ch 91 :: rest) = parseSub fuel alts (seq ++ [n]) rest' := by
  simp only [parseSub, h]
  rfl

theorem parseSub_set_error {e : ParseError} (h : parseClass rest = .error e) :
    parseSub (fuel + 1) alts seq (.ch 91 :: rest) = .error e := by
  simp only [parseSub, h]
  rfl

theorem parseSub_star {seq' : List Node} {rest' : List Tok}
    (h : quantified 0 none seq rest = .ok (seq', rest')) :
    parseSub (fuel + 1) alts seq (.ch 42 :: rest) = parseSub fuel alts seq' rest' := by
  simp only [parseSub, h]
  rfl

theorem parseSub_plus {seq' : List Node} {rest' : List Tok}
    (h : quantified 1 none seq rest = .ok (seq', rest')) :
    parseSub (fuel + 1) alts seq (.ch 43 :: rest) = parseSub fuel alts seq' rest' := by
  simp only [parseSub, h]
  rfl

theorem parseSub_group {kind : GroupKind} {r₁ r₂ : List Tok} {p n : Node}
    (hk : groupKind rest = .ok (kind, r₁)) (hp : parseSub fuel [] [] r₁ = .ok (p, .ch 41 :: r₂))
    (hn : kind.node p = .ok n) :
    parseSub (fuel + 1) alts seq (.ch 40 :: rest) = parseSub fuel alts (seq ++ [n]) r₂ := by
  simp only [parseSub, hk, bind, Except.bind, hp, hn]

theorem parseSub_group_error {kind : GroupKind} {r₁ : List Tok} {e : ParseError}
    (hk : groupKind rest = .ok (kind, r₁)) (hp : parseSub fuel [] [] r₁ = .error e) :
    parseSub (fuel + 1) alts seq (.ch 40 :: rest) = .error e := by
  simp only [parseSub, hk, bind, Except.bind, hp]

theorem parseSub_brace {lo : Nat} {hi : Option Nat} {r rest' : List Tok} {seq' : List Node}
    (h : braceRepeat rest = some (.ok (lo, hi, r)))
    (hq : quantified lo hi seq r = .ok (seq', rest')) :
    parseSub (fuel + 1) alts seq (.ch 123 :: rest) = parseSub fuel alts seq' rest' := by
  simp only [parseSub, h, except_ok_bind, hq]

theorem parseSub_brace_literal (h : braceRepeat rest = none) :
    parseSub (fuel + 1) alts seq (.ch 123 :: rest) =
      parseSub fuel alts (seq ++ [.literal 123]) rest := by
  simp only [parseSub, h]

/-- Any other character is a literal. -/
theorem parseSub_literal {c : Nat} (h : c ∉ [41, 124, 91, 42, 43, 63, 123, 46, 94, 36, 40]) :
    parseSub (fuel + 1) alts seq (.ch c :: rest) = parseSub fuel alts (seq ++ [.literal c]) rest := by
  simp only [List.mem_cons, List.mem_singleton, not_or, List.not_mem_nil, or_false] at h
  rw [parseSub] <;> simp_all

end Steps

/-! ## Reading `{m,n}` -/

section Brace

variable {ds : List Nat} {rest : List Tok}

/-- The digits `readDigits` stops at: the next token is not a digit. -/
def EndsDigits (rest : List Tok) : Prop := ∀ c, rest.head? = some (.ch c) → ¬ (48 ≤ c ∧ c ≤ 57)

/-- **`readDigits` reads a run of digits up to the first token that is not one.** -/
theorem readDigits_append (hds : ∀ c ∈ ds, 48 ≤ c ∧ c ≤ 57) (hrest : EndsDigits rest) :
    readDigits (ds.map .ch ++ rest) = (ds, rest) := by
  induction ds with
  | nil =>
    match rest, hrest with
    | [], _ => rfl
    | .esc _ :: _, _ => rfl
    | .ch c :: _, h => simp [readDigits, h c rfl]
  | cons d ds ih =>
    simp only [List.map_cons, List.cons_append, readDigits, hds d (List.mem_cons_self _ _),
      and_self, if_true, List.append_eq, ih fun c hc => hds c (List.mem_cons_of_mem _ hc)]

/-- A non-empty count below `MAXREPEAT` is read as its value. -/
theorem repeatCount_of_lt (hne : ds ≠ []) (h : digitsValue ds < sreMaxRepeat) :
    repeatCount ds = .ok (some (digitsValue ds)) := by
  simp [repeatCount, hne, Nat.not_le.2 h]

/-- A `{` followed by a digit is not the literal `{}`. -/
theorem braceRepeat_of_digits (hds : ∀ c ∈ ds, 48 ≤ c ∧ c ≤ 57) (hne : ds ≠ []) :
    braceRepeat (ds.map .ch ++ rest) =
      let lo := readDigits (ds.map .ch ++ rest)
      let hi := match lo.2 with
        | .ch 44 :: r => readDigits r
        | r => (lo.1, r)
      match hi.2 with
      | .ch 125 :: r => some (braceBounds lo.1 hi.1 r)
      | _ => none := by
  obtain ⟨d, ds, rfl⟩ := List.exists_cons_of_ne_nil hne
  rw [braceRepeat]
  intro tail h125
  simp only [List.map_cons, List.cons_append, List.cons.injEq, Tok.ch.injEq] at h125
  exact absurd (hds 125 (h125.1 ▸ List.mem_cons_self _ _)) (by decide)

/-- **`{m}` is `{m,m}`**: one count below `MAXREPEAT`, then `}`. -/
theorem braceRepeat_count (hds : ∀ c ∈ ds, 48 ≤ c ∧ c ≤ 57) (hne : ds ≠ [])
    (h : digitsValue ds < sreMaxRepeat) :
    braceRepeat (ds.map .ch ++ .ch 125 :: rest) =
      some (.ok (digitsValue ds, some (digitsValue ds), rest)) := by
  rw [braceRepeat_of_digits hds hne, readDigits_append hds fun c hc => by cases hc; decide]
  simp [braceBounds, repeatCount_of_lt hne h]

/-- **`{m,n}`** with `m ≤ n` below `MAXREPEAT`: the bounds `m` and `n`. -/
theorem braceRepeat_range {hs : List Nat} (hds : ∀ c ∈ ds, 48 ≤ c ∧ c ≤ 57)
    (hhs : ∀ c ∈ hs, 48 ≤ c ∧ c ≤ 57) (hne : ds ≠ []) (hne' : hs ≠ [])
    (hle : digitsValue ds ≤ digitsValue hs) (h : digitsValue hs < sreMaxRepeat) :
    braceRepeat (ds.map .ch ++ .ch 44 :: (hs.map .ch ++ .ch 125 :: rest)) =
      some (.ok (digitsValue ds, some (digitsValue hs), rest)) := by
  rw [braceRepeat_of_digits hds hne, readDigits_append hds fun c hc => by cases hc; decide]
  simp only
  rw [readDigits_append hhs fun c hc => by cases hc; decide]
  simp [braceBounds, repeatCount_of_lt hne (Nat.lt_of_le_of_lt hle h), repeatCount_of_lt hne' h,
    Nat.not_lt.2 hle]

end Brace

/-- `re.compile` up to the syntax tree. -/
def compile (pattern : List Nat) : Except ParseError Node := do
  let toks ← tokenize pattern
  let (p, rest) ← parseSub (toks.length + 1) [] [] toks
  match rest with
  | [] => .ok p
  | _ => .error .unbalancedParen

/-- A pattern compiles to what `parseSub` reads from all of its tokens, given any fuel from `k`
on — which the token count supplies. -/
theorem compile_eq_of_parseSub {pattern : List Nat} {toks : List Tok} {p : Node} {k : Nat}
    (htok : tokenize pattern = .ok toks) (hk : k ≤ toks.length + 1)
    (hp : ∀ m, parseSub (m + k) [] [] toks = .ok (p, [])) : compile pattern = .ok p := by
  rw [compile, htok, except_ok_bind, show toks.length + 1 = toks.length + 1 - k + k by omega, hp]
  rfl

end NovaValidation
