import IdentityTokens.DomainName.Basic
import IdentityTokens.Http.Percent

/-!
# Hosts

The host in an address: a domain name, or a numeric address of version 4 or 6, in its one written
form.

## Main definitions

* `Host.ipv4?`, `Host.ipv6?`: numeric addresses.
* `Host.read?`: the written form of a host.
* `Host.readAny?`: the same where nothing is known of hosts but their limits.
-/

namespace IdentityTokens.Host

/-! ## Numbers -/

/-- A part of a numeric address: hexadecimal after `0x`, octal after `0`, else decimal. -/
def part? : List Char → Option Nat
  | [] => none
  | '0' :: 'x' :: cs => Digits.value? 16 cs
  | '0' :: 'X' :: cs => Digits.value? 16 cs
  | '0' :: c :: cs => Digits.value? 8 (c :: cs)
  | cs => Digits.value? 10 cs

/-- The parts of a name without an empty one at its end. -/
def labels (cs : List Char) : List (List Char) :=
  let parts := cs.splitOn '.'
  if parts.getLast? = some [] ∧ 1 < parts.length then parts.dropLast else parts

/-- Whether the last part of a name is a number. Such a name is a numeric address or none. -/
def endsInNumber (cs : List Char) : Bool :=
  match (labels cs).getLast? with
  | none => false
  | some last => (!last.isEmpty && last.all Char.isDigit) || (part? last).isSome

/-- An address of version 4. The last part fills all octets that the parts before it leave. -/
def ipv4? (cs : List Char) : Option Nat :=
  match (labels cs).mapM part? with
  | none => none
  | some parts =>
    let leading := parts.dropLast
    match parts.getLast? with
    | none => none
    | some last =>
      if 4 < parts.length ∨ Nat.pow 256 (4 - leading.length) ≤ last ∨ leading.any (255 < ·) then
        none
      else some (leading.foldr (fun p n => p * 16777216 + n / 256) 0 + last)

/-- Four decimal numbers with points between them. -/
def renderIpv4 (n : Nat) : String :=
  String.intercalate "." ([n / 16777216, n / 65536 % 256, n / 256 % 256, n % 256].map toString)

/-! ## Version 6 -/

/-- Two groups of an address of version 6 from the decimal form of one of version 4. -/
def embedded? (cs : List Char) : Option (List Nat) :=
  match cs.splitOn '.' with
  | [a, b, c, d] =>
    match [a, b, c, d].mapM fun p =>
        if p.isEmpty ∨ (p.length ≠ 1 ∧ p.head? = some '0') then none
        else (Digits.value? 10 p).filter (· < 256) with
    | some [a, b, c, d] => some [a * 256 + b, c * 256 + d]
    | _ => none
  | _ => none

/-- The groups of a text with colons between them. Only the last may have points. -/
def groups? : List (List Char) → Option (List Nat)
  | [] => some []
  | [last] =>
    if last.contains '.' then embedded? last
    else if last.isEmpty ∨ 4 < last.length then none
    else (Digits.value? 16 last).map ([·])
  | group :: rest =>
    if group.isEmpty ∨ 4 < group.length then none
    else
      match Digits.value? 16 group with
      | none => none
      | some n => (groups? rest).map (n :: ·)

/-- The characters before and after the first two colons that stand together. -/
def splitGap : List Char → Option (List Char × List Char)
  | [] => none
  | ':' :: ':' :: rest => some ([], rest)
  | c :: rest => (splitGap rest).map fun (before, after) => (c :: before, after)

/-- The groups of a text that may be empty. -/
def groupsOf? (cs : List Char) : Option (List Nat) :=
  if cs.isEmpty then some [] else groups? (cs.splitOn ':')

/-- An address of version 6: eight groups, where two colons stand for groups of zero. -/
def ipv6? (cs : List Char) : Option (List Nat) :=
  match splitGap cs with
  | none => (groupsOf? cs).filter (·.length = 8)
  | some (before, after) =>
    if before.contains '.' then none
    else
      match groupsOf? before, groupsOf? after with
      | some first, some last =>
        if first.length + last.length < 8 then
          some (first ++ List.replicate (8 - first.length - last.length) 0 ++ last)
        else none
      | _, _ => none

/-- The number of zeros at the front. -/
def zeroRun (groups : List Nat) : Nat := (groups.takeWhile (· = 0)).length

/-- The place and length of the first of the longest runs of zeros. -/
def longestRun : Nat → List Nat → Nat × Nat
  | _, [] => (0, 0)
  | place, group :: rest =>
    let here := zeroRun (group :: rest)
    let later := longestRun (place + 1) rest
    if later.2 ≤ here then (place, here) else later

/-- Groups in hexadecimal with colons between them. -/
def renderGroups (groups : List Nat) : String :=
  String.intercalate ":" (groups.map fun n => String.ofList (Nat.toDigits 16 n))

/-- The written form of an address of version 6, in brackets. The first of the longest runs of
two zeros or more is written as two colons. -/
def renderIpv6 (groups : List Nat) : String :=
  let (place, length) := longestRun 0 groups
  let body :=
    if length < 2 then renderGroups groups
    else renderGroups (groups.take place) ++ "::" ++ renderGroups (groups.drop (place + length))
  "[" ++ body ++ "]"

/-! ## Hosts -/

/-- The written form of a name or of an address of version 4. -/
def domain? (cs : List Char) : Option String :=
  match (Percent.decodeText? cs).bind DomainName.toAscii? with
  | none => none
  | some name =>
    if name.isEmpty then none
    else if endsInNumber name then (ipv4? name).map renderIpv4
    else some (String.ofList name)

/-- The written form of a text in brackets, if it is an address of version 6. -/
def bracketed? (rest : List Char) : Option String :=
  if rest.getLast? = some ']' then (ipv6? rest.dropLast).map renderIpv6 else none

/-- The written form of a host. -/
def read? (cs : List Char) : Option String :=
  match cs with
  | '[' :: rest => bracketed? rest
  | cs => domain? cs

/-- Whether a character may not stand in any host. -/
def isForbidden (c : Char) : Bool :=
  c = Char.ofNat 0 || " #/:<>?@[\\]^|".toList.contains c

/-- The written form of a host of which nothing is known. It may be empty. -/
def readAny? (cs : List Char) : Option String :=
  match cs with
  | '[' :: rest => bracketed? rest
  | cs => if cs.any isForbidden then none else some (Percent.escape [] cs)

end IdentityTokens.Host
