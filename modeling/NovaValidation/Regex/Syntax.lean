import Mathlib.Data.List.Basic

/-!
# Regex/Syntax — the pieces of a Python pattern the validation regexes are made of

The patterns of `parameter_types` are strings handed to `re.search`.  This file fixes what the
rest of the development reads them into, following `sre_parse`:

* `reEscape` — `re.escape` on one code point, the only way the builder writes a character;
* `Tok` and `tokenize` — the tokenizer, which pairs a backslash with the character after it;
* `ClassItem` — a member of a character set, `LITERAL c` or `RANGE (lo, hi)`; a range carries
  `lo ≤ hi`, which the parser checks before it builds one;
* `Node` — the opcodes a parsed pattern is built from, with the width `sre_parse` computes for a
  look-behind.

Strings are lists of code points throughout.
-/

namespace NovaValidation

/-- Why `re.compile` rejects a pattern.  `repeatTooLarge` is the `OverflowError` of a count of
`MAXREPEAT` or more.  `unsupported` marks syntax outside this model (class categories such as
`\d`, numeric escapes, lazy and possessive quantifiers, named groups, flags): the model reports it
instead of reading it. -/
inductive ParseError
  | badEscapeEnd
  | unterminatedSet
  | badRange
  | nothingToRepeat
  | multipleRepeat
  | repeatTooLarge
  | minRepeatGreater
  | missingParen
  | unbalancedParen
  | unexpectedEnd
  | unknownExtension
  | lookbehindNotFixed
  | unsupported
  deriving DecidableEq, Repr

@[simp] theorem except_ok_bind {ε α β : Type} (x : α) (f : α → Except ε β) :
    (Except.ok x >>= f) = f x := rfl

@[simp] theorem except_error_bind {ε α β : Type} (e : ε) (f : α → Except ε β) :
    (Except.error e >>= f) = Except.error e := rfl

/-! ## `re.escape` -/

/-- The code points `re.escape` puts a backslash before: `()[]{}?*+-|^$\.&~#`, space, and
`\t \n \r \v \f`. -/
def specialChars : List Nat :=
  [40, 41, 91, 93, 123, 125, 63, 42, 43, 45, 124, 94, 36, 92, 46, 38, 126, 35, 32, 9, 10, 13, 11,
    12]

/-- `re.escape` on a one-character string. -/
def reEscape (c : Nat) : List Nat := if c ∈ specialChars then [92, c] else [c]

/-! ## Tokens -/

/-- A token of `sre_parse.Tokenizer`: one character, or a backslash with the character after it. -/
inductive Tok
  | ch (c : Nat)
  | esc (c : Nat)
  deriving DecidableEq, Repr

/-- `sre_parse.Tokenizer`: a backslash joins the character after it; a backslash at the very end
is `bad escape (end of pattern)`. -/
def tokenize : List Nat → Except ParseError (List Tok)
  | [] => .ok []
  | [92] => .error .badEscapeEnd
  | 92 :: c :: rest => (Tok.esc c :: ·) <$> tokenize rest
  | c :: rest => (Tok.ch c :: ·) <$> tokenize rest

theorem tokenize_backslash (c : Nat) (rest : List Nat) :
    tokenize (92 :: c :: rest) = (Tok.esc c :: ·) <$> tokenize rest := rfl

theorem tokenize_cons_of_ne {c : Nat} (h : c ≠ 92) (rest : List Nat) :
    tokenize (c :: rest) = (Tok.ch c :: ·) <$> tokenize rest :=
  tokenize.eq_4 c rest (fun h' => absurd h' h) (fun _ _ h' => absurd h' h)

/-- **A stretch without backslashes tokenizes character by character.** -/
theorem tokenize_append_of_no_backslash (l : List Nat) (h : ∀ c ∈ l, c ≠ 92) (rest : List Nat) :
    tokenize (l ++ rest) = (l.map Tok.ch ++ ·) <$> tokenize rest := by
  induction l with
  | nil => simp
  | cons c l ih =>
    rw [List.cons_append, tokenize_cons_of_ne (h c (List.mem_cons_self c l)),
      ih fun d hd => h d (List.mem_cons_of_mem c hd), Functor.map_map]
    rfl

/-- The token `re.escape c` becomes. -/
def escTok (c : Nat) : Tok := if c ∈ specialChars then .esc c else .ch c

theorem tokenize_reEscape_append (c : Nat) (rest : List Nat) :
    tokenize (reEscape c ++ rest) = (escTok c :: ·) <$> tokenize rest := by
  unfold reEscape escTok
  by_cases h : c ∈ specialChars
  · simp only [h, if_true, List.cons_append, List.nil_append, tokenize_backslash]
  · have h92 : c ≠ 92 := by rintro rfl; exact h (by decide)
    simp only [h, if_false, List.cons_append, List.nil_append, tokenize_cons_of_ne h92]

/-! ## Character sets -/

/-- A member of an `IN` set: `LITERAL c`, or `RANGE (lo, hi)` — which the parser builds only when
`lo ≤ hi`. -/
inductive ClassItem
  | literal (c : Nat)
  | range (lo hi : Nat) (le : lo ≤ hi)
  deriving DecidableEq, Repr

namespace ClassItem

/-- The smallest code point of an item. -/
def lo : ClassItem → Nat
  | literal c => c
  | range lo _ _ => lo

/-- The largest code point of an item. -/
def hi : ClassItem → Nat
  | literal c => c
  | range _ hi _ => hi

theorem lo_le_hi : ∀ it : ClassItem, it.lo ≤ it.hi
  | literal _ => le_rfl
  | range _ _ h => h

/-- Whether an item matches code point `c`. -/
def contains : ClassItem → Nat → Bool
  | literal c, d => d == c
  | range lo hi _, d => lo ≤ d && d ≤ hi

theorem contains_iff (it : ClassItem) (d : Nat) : it.contains d ↔ it.lo ≤ d ∧ d ≤ it.hi := by
  cases it with
  | literal c => simp only [contains, lo, hi, beq_iff_eq]; omega
  | range a b _ => simp [contains, lo, hi]

/-- How the builder writes an item: `re.escape(a)`, or `re.escape(a) + "-" + re.escape(b)`. -/
def render : ClassItem → List Nat
  | literal c => reEscape c
  | range lo hi _ => reEscape lo ++ [45] ++ reEscape hi

/-- The tokens of a written item. -/
def toks : ClassItem → List Tok
  | literal c => [escTok c]
  | range lo hi _ => [escTok lo, .ch 45, escTok hi]

end ClassItem

/-- Whether a list of items matches code point `c`. -/
def inItems (items : List ClassItem) (c : Nat) : Bool := items.any (·.contains c)

theorem inItems_iff (items : List ClassItem) (c : Nat) :
    inItems items c ↔ ∃ it ∈ items, it.lo ≤ c ∧ c ≤ it.hi := by
  simp [inItems, ClassItem.contains_iff]

/-- Items with a member are not empty. -/
theorem ne_nil_of_inItems {items : List ClassItem} {c : Nat} (h : inItems items c = true) :
    items ≠ [] := by
  rintro rfl
  simp [inItems] at h

@[simp] theorem inItems_append (a b : List ClassItem) (c : Nat) :
    inItems (a ++ b) c = (inItems a c || inItems b c) := by
  simp [inItems]

/-- A class body as the builder writes it: its items, one after another. -/
def renderBody (items : List ClassItem) : List Nat := items.flatMap ClassItem.render

/-- The tokens of a class body. -/
def bodyToks (items : List ClassItem) : List Tok := items.flatMap ClassItem.toks

/-- Two bodies written one after the other are the body of both item lists. -/
theorem renderBody_append (a b : List ClassItem) :
    renderBody (a ++ b) = renderBody a ++ renderBody b := by
  simp [renderBody]

theorem bodyToks_append (a b : List ClassItem) : bodyToks (a ++ b) = bodyToks a ++ bodyToks b := by
  simp [bodyToks]

theorem tokenize_render_append (it : ClassItem) (rest : List Nat) :
    tokenize (it.render ++ rest) = (it.toks ++ ·) <$> tokenize rest := by
  cases it with
  | literal c =>
    rw [ClassItem.render, tokenize_reEscape_append]
    rfl
  | range lo hi _ =>
    simp only [ClassItem.render, List.append_assoc, List.cons_append, List.nil_append,
      tokenize_reEscape_append, tokenize_cons_of_ne (show 45 ≠ 92 by decide), Functor.map_map]
    rfl

/-- **A written body tokenizes item by item.** -/
theorem tokenize_renderBody_append (items : List ClassItem) (rest : List Nat) :
    tokenize (renderBody items ++ rest) = (bodyToks items ++ ·) <$> tokenize rest := by
  induction items with
  | nil => simp [renderBody, bodyToks]
  | cons it items ih =>
    simp only [renderBody, bodyToks, List.flatMap_cons, List.append_assoc] at ih ⊢
    rw [tokenize_render_append, ih, Functor.map_map]

/-! ## Parsed patterns -/

/-- The `sre_parse` opcodes of the patterns the model reads.  A `SubPattern` list is a chain of
`cat` ending in `empty`; a capturing or non-capturing group is its content, since no pattern here
refers back to a group. -/
inductive Node
  | empty
  | literal (c : Nat)
  | any
  | inSet (negate : Bool) (items : List ClassItem)
  | atBeginning
  | atEnd
  | cat (a b : Node)
  | branch (a b : Node)
  | maxRepeat (min : Nat) (max : Option Nat) (item : Node)
  | assert (back : Nat) (p : Node)
  | assertNot (back : Nat) (p : Node)
  deriving DecidableEq, Repr

/-- `MAXREPEAT` of `_sre`: a repetition count must stay below it, and a greatest width of
`MAXREPEAT` stands for "unbounded". -/
def sreMaxRepeat : Nat := 4294967295

/-- The last step of `SubPattern.getwidth`: `min(lo, MAXREPEAT - 1), min(hi, MAXREPEAT)`, with a
greatest width of `MAXREPEAT` read as the unbounded `none`. -/
def clampWidth (w : Nat × Option Nat) : Nat × Option Nat :=
  (min w.1 (sreMaxRepeat - 1), w.2.bind fun h => if h < sreMaxRepeat then some h else none)

namespace Node

/-- `SubPattern.getwidth`: the least and greatest length a node can match, `none` for the
unbounded `MAXREPEAT`.  `getwidth` ends each subpattern with `clampWidth`; a subpattern is a chain
of `cat`, and clamping each partial sum gives the same result, so the clamp sits on `cat`.  A
repeat with `max` `0` adds nothing, even of an unbounded item (`j * 0`). -/
def width : Node → Nat × Option Nat
  | empty | atBeginning | atEnd | assert _ _ | assertNot _ _ => (0, some 0)
  | literal _ | any | inSet _ _ => (1, some 1)
  | cat a b => clampWidth (a.width.1 + b.width.1, a.width.2.bind fun x => b.width.2.map (x + ·))
  | branch a b => (min a.width.1 b.width.1, (a.width.2.bind fun x => b.width.2.map (max x ·)))
  | maxRepeat lo hi p =>
    (p.width.1 * lo, match p.width.2, hi with
      | some 0, _ => some 0
      | _, some 0 => some 0
      | some x, some m => some (x * m)
      | _, _ => none)

/-- A sequence of nodes, as a `SubPattern`. -/
def ofSeq (items : List Node) : Node := items.foldr cat empty

/-- The alternatives of a `BRANCH`; a single alternative is the subpattern itself. -/
def ofBranches : List Node → Node
  | [] => empty
  | [a] => a
  | a :: rest => branch a (ofBranches rest)

/-- The `AT` codes, which `sre_parse` refuses to repeat. -/
def isAt : Node → Bool
  | atBeginning | atEnd => true
  | _ => false

/-- The repeat codes, which `sre_parse` refuses to repeat again. -/
def isRepeat : Node → Bool
  | maxRepeat _ _ _ => true
  | _ => false

end Node

end NovaValidation
