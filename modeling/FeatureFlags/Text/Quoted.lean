import FeatureFlags.Text.Digits
import FeatureFlags.Text.Unprintable

/-!
# Quoted text

Text between double quotes in which every character can be seen: quotes and
backslashes are escaped, four controls have short escapes, and every other
character that is not shown as it is becomes its code point in braces.
-/

namespace FeatureFlags

/-- One character inside quotes. -/
def quotedChar (c : Char) : List Char :=
  match c with
  | '"' => ['\\', '"']
  | '\\' => ['\\', '\\']
  | '\x00' => ['\\', '0']
  | '\t' => ['\\', 't']
  | '\n' => ['\\', 'n']
  | '\r' => ['\\', 'r']
  | c =>
    if ' ' ≤ c ∧ c ≤ '~' then [c]
    else if unprintable c then ['\\', 'u', '\x7b'] ++ hexDigits c.toNat ++ ['\x7d']
    else [c]

/-- Text in quotes. -/
def quoted (s : String) : String :=
  String.ofList ('"' :: s.toList.flatMap quotedChar ++ ['"'])

end FeatureFlags
