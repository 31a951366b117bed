import NovaValidation.ParameterTypes.RegexRange

/-!
# ParameterTypes/Patterns — the validation patterns `parameter_types` builds at import time

Each pattern is a template with `%s` (or `%(ws)s`, `%(no_ws)s`) slots, filled with class bodies
from `_build_regex_range`:

* `valid_name_regex` and `valid_az_name_regex` — `^(?![A])[B]*(?<![A])$`, where `A` is every
  code point that is not printable or is a space separator, and `B` the printable ones (without
  `:` for availability zones);
* `valid_name_leading_trailing_spaces_regex` and its `az` twin — two alternatives around a
  non-space class `no_ws` inside the printable class `ws`;
* `valid_description_regex` — `^[B]*$`.

The category assignment is a parameter, so each pattern is a function of it.  `_(…)` marks a
reason for translation and is the identity on the English text.
-/

namespace NovaValidation

/-- A Python string literal, as its code points. -/
def str (s : String) : List Nat := s.toList.map Char.toNat

/-- `ValidationRegex`: a pattern, and the reason a value that does not match it is refused. -/
structure ValidationRegex where
  regex : List Nat
  reason : String

/-- `valid_name_regex_base % (a, b, c)`, for `'^(?![%s])[%s]*(?<![%s])$'`. -/
def validNameRegexBase (a b c : List Nat) : List Nat :=
  str "^(?![" ++ a ++ str "])[" ++ b ++ str "]*(?<![" ++ c ++ str "])$"

/-- `valid_name_regex`. -/
def validNameRegex (category : Nat → String) : ValidationRegex where
  regex := validNameRegexBase (buildRegexRange category false true [])
    (buildRegexRange category true false []) (buildRegexRange category false true [])
  reason := "printable characters. Can not start or end with whitespace."

/-- `valid_name_leading_trailing_spaces_regex_base % {'ws': ws, 'no_ws': no_ws}`, for
`"^[%(ws)s]*[%(no_ws)s]+[%(ws)s]*$|^[%(ws)s]*[%(no_ws)s][%(no_ws)s%(ws)s]+[%(no_ws)s][%(ws)s]*$"`. -/
def validNameLeadingTrailingSpacesRegexBase (ws noWs : List Nat) : List Nat :=
  str "^[" ++ ws ++ str "]*[" ++ noWs ++ str "]+[" ++ ws ++ str "]*$|^[" ++ ws ++ str "]*[" ++
    noWs ++ str "][" ++ noWs ++ ws ++ str "]+[" ++ noWs ++ str "][" ++ ws ++ str "]*$"

/-- `valid_az_name_regex`: as `valid_name_regex`, with `:` excluded from the middle class. -/
def validAzNameRegex (category : Nat → String) : ValidationRegex where
  regex := validNameRegexBase (buildRegexRange category false true [])
    (buildRegexRange category true false [58]) (buildRegexRange category false true [])
  reason := "printable characters except :.Can not start or end with whitespace."

/-- `valid_az_name_leading_trailing_spaces_regex`. -/
def validAzNameLeadingTrailingSpacesRegex (category : Nat → String) : ValidationRegex where
  regex := validNameLeadingTrailingSpacesRegexBase (buildRegexRange category true false [58])
    (buildRegexRange category false false [58])
  reason := "printable characters except :, with at least one non space character"

/-- `valid_name_leading_trailing_spaces_regex`. -/
def validNameLeadingTrailingSpacesRegex (category : Nat → String) : ValidationRegex where
  regex := validNameLeadingTrailingSpacesRegexBase (buildRegexRange category true false [])
    (buildRegexRange category false false [])
  reason := "printable characters with at least one non space character"

/-- `valid_description_regex_base % (_build_regex_range())`, for `'^[%s]*$'`: the `pattern` of the
`description` schema. -/
def validDescriptionRegex (category : Nat → String) : List Nat :=
  str "^[" ++ buildRegexRange category true false [] ++ str "]*$"

end NovaValidation
