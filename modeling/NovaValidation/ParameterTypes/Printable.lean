import Mathlib.Data.List.Basic

/-!
# ParameterTypes/Printable — the code points the name patterns count as printable

`_is_printable` reads a code point's Unicode general category: a code point is printable unless
its category is an "other" one (`C*`) or a line or paragraph separator (`Zl`, `Zp`); the space
separators `Zs` are printable.  `valid_char`, inside `_build_regex_range`, keeps a printable code
point that is not excluded and, unless `ws`, not a space separator, and inverts the answer on
request.

The Unicode database is a parameter throughout: `category` is any assignment of category names to
code points, as `unicodedata.category` returns them.  A Python `str` is a list of code points.
-/

namespace NovaValidation

/-- `str.startswith(prefix)`. -/
def startswith (s pre : String) : Bool := pre.toList.isPrefixOf s.toList

/-- `_is_printable`: not an "other" (`C*`) code point, and a separator (`Z*`) only when it is a
space separator. -/
def isPrintable (category : Nat → String) (char : Nat) : Bool :=
  !startswith (category char) "C" && (!startswith (category char) "Z" || category char == "Zs")

/-- `valid_char`, the predicate `_build_regex_range` encodes.  `invert` is compared with `is True`
in the source, so a Python `bool` is all it can usefully be. -/
def validChar (category : Nat → String) (ws invert : Bool) (exclude : List Nat) (char : Nat) :
    Bool :=
  let result :=
    if char ∈ exclude then false
    else if ws then isPrintable category char
    else isPrintable category char && category char != "Zs"
  if invert then !result else result

/-- **`valid_char` in one formula** — not excluded, printable, and (with `ws`) any or (without)
no space separator, exclusive-or `invert`. -/
theorem validChar_eq (category : Nat → String) (ws invert : Bool) (exclude : List Nat)
    (char : Nat) :
    validChar category ws invert exclude char =
      xor (!decide (char ∈ exclude) && isPrintable category char &&
        (ws || category char != "Zs")) invert := by
  unfold validChar
  by_cases h : char ∈ exclude <;> cases ws <;> cases invert <;> simp [h]

/-! ## The three predicates the patterns are built from -/

section Calls

variable (category : Nat → String) (exclude : List Nat) (c : Nat)

/-- `_build_regex_range(exclude=…)`: the printable code points outside `exclude`. -/
@[simp] theorem validChar_ws_iff :
    validChar category true false exclude c = true ↔ isPrintable category c = true ∧ c ∉ exclude := by
  simp [validChar, and_comm]

/-- `_build_regex_range(ws=False, exclude=…)`: the printable code points outside `exclude` that are
not space separators. -/
@[simp] theorem validChar_noWs_iff :
    validChar category false false exclude c = true ↔
      isPrintable category c = true ∧ category c ≠ "Zs" ∧ c ∉ exclude := by
  by_cases h : c ∈ exclude <;> simp [validChar, h]

/-- `_build_regex_range(ws=False, invert=True)`: the code points that are not printable or are
space separators. -/
@[simp] theorem validChar_invert_iff :
    validChar category false true [] c = true ↔
      ¬ (isPrintable category c = true ∧ category c ≠ "Zs") := by
  unfold validChar
  cases isPrintable category c <;> simp

end Calls

end NovaValidation
