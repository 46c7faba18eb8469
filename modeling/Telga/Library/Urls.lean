import Mathlib.Data.List.Basic

namespace Telga.Library

/-- The schemes of the web, whose references take a backslash for a slash. -/
inductive WebScheme
  | http
  | https
deriving DecidableEq

def WebScheme.defaultPort : WebScheme → Nat
  | http => 80
  | https => 443

/-- Where a page comes from. The port is missing when it is the scheme's own. -/
structure Origin (Host : Type) where
  scheme : WebScheme
  host : Host
  port : Option Nat := none
deriving DecidableEq

namespace Url

def controlOrSpace (char : Char) : Bool :=
  char.toNat ≤ 0x20

def tabOrNewline (char : Char) : Bool :=
  char = '\t' ∨ char = '\n' ∨ char = '\r'

/-- The reference a browser reads: without control characters and spaces around it, and without
tabs and line breaks. -/
def cleaned (reference : List Char) : List Char :=
  let trimmed := ((reference.dropWhile controlOrSpace).reverse.dropWhile controlOrSpace).reverse
  trimmed.filter fun char => !tabOrNewline char

def isSlash (char : Char) : Bool :=
  char = '/' ∨ char = '\\'

def endsAuthority (char : Char) : Bool :=
  isSlash char ∨ char = '?' ∨ char = '#'

/-- The authority behind two slashes or more. -/
def authority (rest : List Char) : List Char :=
  (rest.dropWhile isSlash).takeWhile fun char => !endsAuthority char

/-- What stands behind the last `@`. -/
def behindUser (chars : List Char) : List Char :=
  (chars.reverse.takeWhile (· ≠ '@')).reverse

/-- A host up to a colon outside of brackets, and what follows the colon. -/
def splitPort (bracketed : Bool) : List Char → List Char × Option (List Char)
  | [] => ([], none)
  | char :: rest =>
    if char = ':' ∧ bracketed = false then ([], some rest)
    else
      let inside := if char = '[' then true else if char = ']' then false else bracketed
      let (host, port) := splitPort inside rest
      (char :: host, port)

def readPort (scheme : WebScheme) (digits : List Char) : Option (Option Nat) :=
  if digits.all Char.isDigit then
    let port := digits.foldl (fun value digit => 10 * value + (digit.toNat - '0'.toNat)) 0
    if 65535 < port then none
    else if digits = [] ∨ port = scheme.defaultPort then some none
    else some (some port)
  else none

variable {Host : Type} (parseHost : List Char → Option Host)

/-- The origin an authority names. A missing host is a failure. -/
def namedOrigin (scheme : WebScheme) (chars : List Char) : Option (Origin Host) := do
  let (host, port) := splitPort false (behindUser chars)
  if host = [] then none
  else
    let host ← parseHost host
    let port ← match port with
      | some digits => readPort scheme digits
      | none => some none
    return { scheme, host, port }

def schemeChar (char : Char) : Bool :=
  char.isAlphanum ∨ char = '+' ∨ char = '-' ∨ char = '.'

/-- Whether a reference begins with a scheme. -/
def hasScheme : List Char → Bool
  | [] => false
  | first :: rest => first.isAlpha && (rest.dropWhile schemeChar).head? = some ':'

/-- The origin a reference leads to from a page of the web. What a reference with a scheme of its
own leads to is given. -/
def resolve (absolute : List Char → Option (Origin Host)) (base : Origin Host)
    (reference : List Char) : Option (Origin Host) :=
  let chars := cleaned reference
  if hasScheme chars then absolute chars
  else
    match chars with
    | first :: second :: rest =>
      if isSlash first && isSlash second then
        namedOrigin parseHost base.scheme (authority rest)
      else some base
    | _ => some base

section Lemmas

variable {parseHost} {absolute : List Char → Option (Origin Host)} {base : Origin Host}
  {reference rest : List Char} {second : Char}

/-- A first character that is no space stays first, and what stands behind it does where there are
no tabs and line breaks. -/
theorem cleaned_cons (first : Char) (rest : List Char) (visible : controlOrSpace first = false)
    (kept : tabOrNewline first = false) :
    ∃ rest', cleaned (first :: rest) = first :: rest' ∧
      ((∀ char ∈ rest, tabOrNewline char = false) → rest' <+: rest) := by
  have front : (first :: rest).dropWhile controlOrSpace = first :: rest := by
    rw [List.dropWhile_cons, visible, if_neg Bool.false_ne_true]
  have back : ((rest.reverse ++ [first]).dropWhile controlOrSpace) =
      rest.reverse.dropWhile controlOrSpace ++ [first] := by
    rw [List.dropWhile_append]
    split
    · rename_i empty
      rw [List.isEmpty_iff.mp empty, List.dropWhile_cons, visible, if_neg Bool.false_ne_true]
      rfl
    · rfl
  refine ⟨(rest.reverse.dropWhile controlOrSpace).reverse.filter fun char => !tabOrNewline char,
    ?_, ?_⟩
  · simp only [cleaned]
    rw [front, List.reverse_cons, back, List.reverse_append, List.reverse_singleton,
      List.singleton_append, List.filter_cons_of_pos (by rw [kept]; rfl)]
  · intro plain
    have trimmed : (rest.reverse.dropWhile controlOrSpace).reverse <+: rest := by
      apply List.reverse_suffix.mp
      rw [List.reverse_reverse]
      exact List.dropWhile_suffix controlOrSpace
    rw [List.filter_eq_self.mpr]
    · exact trimmed
    · intro char listed
      rw [plain char (trimmed.subset listed)]
      rfl

/-- A path cannot be taken for a scheme. -/
theorem hasScheme_slash : hasScheme ('/' :: rest) = false := by
  rw [hasScheme]
  rfl

/-- A reference that begins with one slash only stays where it is. -/
theorem resolve_path (begins : cleaned reference = '/' :: rest)
    (one : ∀ second rest', rest = second :: rest' → isSlash second = false) :
    resolve parseHost absolute base reference = some base := by
  simp only [resolve, begins, hasScheme_slash, Bool.false_eq_true, ↓reduceIte]
  cases rest with
  | nil => rfl
  | cons second rest' =>
    have differs := one second rest' rfl
    simp only [differs, Bool.and_false, Bool.false_eq_true, ↓reduceIte]

/-- One that begins with two goes where the authority behind them says. -/
theorem resolve_authority (begins : cleaned reference = '/' :: second :: rest)
    (two : isSlash second = true) :
    resolve parseHost absolute base reference =
      namedOrigin parseHost base.scheme (authority rest) := by
  have slash : isSlash '/' = true := rfl
  simp only [resolve, begins, hasScheme_slash, slash, two, Bool.and_self, Bool.false_eq_true,
    ↓reduceIte]

end Lemmas

end Url

end Telga.Library
