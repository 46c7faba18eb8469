import Mathlib.Data.List.Basic

namespace Telga.Application

/-- Where to go after signing in at a counter. Anything not a plain path falls back. -/
def safeReturnTo : Option String → String
  | none => "/launcher/apps"
  | some value =>
    let chars := value.toList
    if chars = [] then "/launcher/apps"
    else if ['/'].isPrefixOf chars = false then "/launcher/apps"
    else if ['/', '/'].isPrefixOf chars then "/launcher/apps"
    else if ':' ∈ chars then "/launcher/apps"
    -- Old addresses normalise forward rather than being refused.
    else if value = "/splash" ∨ value = "/launcher" then "/launcher/apps"
    else value

/-- The characters of `/[\u0000-\u001f\u007f]/`. -/
def isControl (char : Char) : Bool :=
  char.toNat ≤ 0x1f ∨ char.toNat = 0x7f

/-- Where a step-up may send an admin of the console afterwards. -/
def consoleReturnTo : Option String → String
  | none => "/"
  | some candidate =>
    let chars := candidate.toList
    if chars = [] then "/"
    else if ['/'].isPrefixOf chars = false then "/"
    else if '\\' ∈ chars then "/"
    else if ['/', '/'].isPrefixOf chars then "/"
    else if chars.any isControl then "/"
    else candidate

end Telga.Application
