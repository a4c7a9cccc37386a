import IdentityTokens.Text.Printable

/-!
# Quoted texts

The form in which messages show a text that came from outside: in double quotes, with everything
escaped that a reader could not see or could mistake.

## Main definitions

* `Quoted.escape c`: one character of the form.
* `Quoted.quote s`: the form of a text.
-/

namespace IdentityTokens.Quoted

/-- The lower-case hexadecimal digits of a number, without padding. -/
def hexDigits (n : Nat) : List Char := Nat.toDigits 16 n

/-- One character as it stands between the quotes. -/
def escape (c : Char) : List Char :=
  match c with
  | '\x00' => ['\\', '0']
  | '\t' => ['\\', 't']
  | '\n' => ['\\', 'n']
  | '\r' => ['\\', 'r']
  | '"' => ['\\', '"']
  | '\\' => ['\\', '\\']
  | c => if isPrintable c then [c] else ['\\', 'u', '\x7b'] ++ hexDigits c.toNat ++ ['\x7d']

/-- A text in double quotes. -/
def quote (s : String) : String := String.ofList ('"' :: s.toList.flatMap escape ++ ['"'])

/-- A text that may be missing, in the same form. -/
def quoteOption : Option String → String
  | none => "None"
  | some s => "Some(" ++ quote s ++ ")"

end IdentityTokens.Quoted
