import Telga.Library.Entries
import Telga.Library.Markup

namespace Telga.Application.Elements
open Library Library.Markup

/-- An attribute's value; what a number is written as is left to the language. -/
inductive AttributeValue (ν : Type)
  | text (value : Units)
  | number (value : ν)
  | flag (value : Bool)
  | undefined

/-- The attributes of an element: an object's entries, each key once. -/
structure Attributes (ν : Type) where
  entries : Entries Units (AttributeValue ν)
  single : Entries.Single entries

/-- An element, or text. -/
inductive Node (ν : Type)
  | text (value : Units)
  | el (tag : Units) (attrs : Attributes ν) (children : List (Node ν))

variable {ν : Type} (numberText : ν → Units)

/-- Build an element. Children that are left out are dropped. -/
def h (tag : Units) (attrs : Attributes ν) (children : List (Option (Node ν))) : Node ν :=
  .el tag attrs (children.filterMap id)

def voidTags : List Units :=
  ["br", "hr", "img", "input", "meta", "link"].map units

/-- Replace every occurrence of a unit. -/
def replaced (unit : Char) (text : String) (value : Units) : Units :=
  value.flatMap fun found => if found = unit.toNat then units text else [found]

/-- The five characters that turn text into markup, the ampersand first. -/
def escapeText (value : Units) : Units :=
  let value := replaced '&' "&amp;" value
  let value := replaced '<' "&lt;" value
  let value := replaced '>' "&gt;" value
  let value := replaced '"' "&quot;" value
  replaced '\'' "&#39;" value

/-- One attribute, written. -/
def attributeText (key : Units) : AttributeValue ν → Units
  | .undefined | .flag false => []
  | .flag true => units " " ++ key
  | .text value => units " " ++ key ++ units "=\"" ++ escapeText value ++ units "\""
  | .number value =>
    units " " ++ key ++ units "=\"" ++ escapeText (numberText value) ++ units "\""

def attributesText (entries : Entries Units (AttributeValue ν)) : Units :=
  entries.flatMap fun (key, value) => attributeText numberText key value

mutual

def renderToHtml : Node ν → Units
  | .text value => escapeText value
  | .el tag attrs children =>
    let start := units "<" ++ tag ++ attributesText numberText attrs.entries ++ units ">"
    if tag ∈ voidTags then start
    else start ++ renderAll children ++ (units "</" ++ tag ++ units ">")

def renderAll : List (Node ν) → Units
  | [] => []
  | node :: nodes => renderToHtml node ++ renderAll nodes

end

/-- What is set of an attribute, unless it is left out. -/
def setAttribute (attributes : Entries Units Units) (key : Units) :
    AttributeValue ν → Entries Units Units
  | .undefined | .flag false => attributes
  | .flag true => attributes.put key []
  | .text value => attributes.put key value
  | .number value => attributes.put key (numberText value)

def setAttributes (entries : Entries Units (AttributeValue ν)) : Entries Units Units :=
  entries.foldl (fun attributes (key, value) => setAttribute numberText attributes key value) []

mutual

/-- Build the document's nodes from the same tree. -/
def mount : Node ν → Dom
  | .text value => .text value
  | .el tag attrs children =>
    .element tag (setAttributes numberText attrs.entries) (mountAll children)

def mountAll : List (Node ν) → List Dom
  | [] => []
  | node :: nodes => mount node :: mountAll nodes

end

end Telga.Application.Elements
