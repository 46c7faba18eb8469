import Telga.Domain.Text
import Telga.Library.Search
import Telga.Library.Table
import Telga.Library.Utf8

namespace Telga.Application
open Domain Library

/-- A file with its declared type. -/
structure MultipartFile where
  name : String
  filename : String
  mediaType : String
  content : List UInt8
deriving DecidableEq

structure MultipartForm where
  fields : List (String × String) := []
  files : List MultipartFile := []
deriving DecidableEq

inductive MultipartRefusal
  | notMultipart
  | boundaryMissing
  | tooManyParts
  | malformedPart
deriving DecidableEq, Repr

/-- A registration form has ten fields and three files. Twenty-four is generous. -/
def maxParts : Nat := 24

/-- What follows a pattern's literal that stands here, in whichever case. -/
def following : List Char → List Char → Option (List Char)
  | [], source => some source
  | _ :: _, [] => none
  | wanted :: more, char :: source =>
    if wanted.toLower = char.toLower then following more source else none

/-- `boundary=`, and a quoted value or one up to a semicolon or white space. -/
def boundaryHere (source : List Char) : Option (List Char) := do
  let rest ← following "boundary=".toList source
  let quoted := match rest with
    | '"' :: inner =>
      let value := inner.takeWhile (· ≠ '"')
      if value ≠ [] ∧ '"' ∈ inner then some value else none
    | _ => none
  let bare := rest.takeWhile fun char => char ≠ ';' ∧ isWhitespace char = false
  quoted <|> (if bare ≠ [] then some bare else none)

def boundaryChar (char : Char) : Bool :=
  char.isAlphanum || char ∈ "'()+_,-./:=?".toList

/-- The boundary from a `Content-Type`. -/
def boundaryOf (toLowerCase : String → String) (contentType : Option String) : Option String := do
  let contentType ← contentType
  if (toLowerCase contentType).startsWith "multipart/form-data" = false then none
  else
    let boundary ← firstMatch boundaryHere contentType.toList
    if boundary = [] ∨ 70 < boundary.length then none
    else if boundary.all boundaryChar then some (String.ofList boundary) else none

/-- `key="x"`, whose value has no quotes in it. -/
def attributeHere (key : String) (source : List Char) : Option (List Char) := do
  let rest ← following (key.toList ++ ['=', '"']) source
  if '"' ∈ rest then some (rest.takeWhile (· ≠ '"')) else none

/-- `name="x"; filename="y"`: the quoted value. -/
def attributeOf (source : List Char) (key : String) : Option (List Char) :=
  firstMatch (attributeHere key) source

def lineBreak (char : Char) : Bool :=
  char = '\r' ∨ char = '\n'

/-- `content-disposition:`, and the rest of its line. -/
def dispositionHere (source : List Char) : Option (List Char) :=
  (following "content-disposition:".toList source).map
    (List.takeWhile fun char => lineBreak char = false)

/-- `content-type:`, white space, and something up to a line break or a semicolon. Where nothing
else is left for it, the pattern gives back some of the white space. -/
def contentTypeHere (source : List Char) : Option (List Char) := do
  let rest ← following "content-type:".toList source
  let valued := fun char => lineBreak char = false ∧ char ≠ ';'
  let value := (rest.dropWhile isWhitespace).takeWhile valued
  let spare := (rest.takeWhile isWhitespace).reverse.find? fun char => lineBreak char = false
  if value ≠ [] then some value else spare.map ([·])

def crlf : List UInt8 := [13, 10]

def subarray (body : List UInt8) (start stop : Nat) : List UInt8 :=
  (body.take stop).drop start

/-- Where a pattern first occurs at the offset or later. -/
def indexFrom (body pattern : List UInt8) (offset : Nat) : Option Nat :=
  (indexOf pattern (body.drop offset)).map (· + offset)

/-- Assign a text to a property of a plain object. The one that names its prototype takes no text:
the assignment does nothing. -/
def setField (fields : List (String × String)) (name value : String) : List (String × String) :=
  if name = "__proto__" then fields
  else if (fields.lookup name).isSome then
    update (fun field => field.1 = name) (fun _ => (name, value)) fields
  else fields ++ [(name, value)]

/-- Take one part into the form. -/
def takePart (toLowerCase : String → String) (headers : List Char) (content : List UInt8)
    (form : MultipartForm) : Except MultipartRefusal MultipartForm :=
  let disposition := (firstMatch dispositionHere headers).getD []
  match attributeOf disposition "name" with
  | none => .error .malformedPart
  | some name =>
    match attributeOf disposition "filename" with
    | none =>
      .ok { form with
        fields := setField form.fields (String.ofList name) (String.ofList (utf8Text content)) }
    | some filename =>
      -- An empty file input is not an error and not a file: it is simply absent.
      if filename ≠ [] ∧ content ≠ [] then
        let mediaType := toLowerCase
          (trim (String.ofList ((firstMatch contentTypeHere headers).getD [])))
        .ok { form with
          files := form.files ++
            [{ name := String.ofList name, filename := String.ofList filename, mediaType
               content }] }
      else .ok form

/-- The loop over the parts, with so many rounds left. -/
def parseParts (toLowerCase : String → String) (body delimiter : List UInt8) :
    Nat → Nat → MultipartForm → Except MultipartRefusal MultipartForm
  | 0, _, _ => .error .tooManyParts
  | left + 1, cursor, form =>
    -- Two dashes after the delimiter are the epilogue: the form is finished.
    if subarray body cursor (cursor + 2) = utf8Bytes "--".toList then .ok form
    else
      let cursor :=
        if subarray body cursor (cursor + 2) = crlf then cursor + 2
        else if subarray body cursor (cursor + 1) = [10] then cursor + 1
        else cursor
      match indexFrom body (crlf ++ crlf) cursor with
      | none => .error .malformedPart
      | some headerEnd =>
        let headers := utf8Text (subarray body cursor headerEnd)
        match indexFrom body delimiter headerEnd with
        | none => .error .malformedPart
        | some next =>
          -- The line end immediately before the next delimiter belongs to the delimiter.
          let contentEnd :=
            if subarray body (next - 2) next = crlf then next - 2
            else if subarray body (next - 1) next = [10] then next - 1
            else next
          match takePart toLowerCase headers (subarray body (headerEnd + 4) contentEnd) form with
          | .error refusal => .error refusal
          | .ok form => parseParts toLowerCase body delimiter left (next + delimiter.length) form

/-- Parse a body that has already been read and size-capped by the caller. -/
def parseMultipart (toLowerCase : String → String) (body : List UInt8) (boundary : String) :
    Except MultipartRefusal MultipartForm :=
  let delimiter := utf8Bytes ("--".toList ++ boundary.toList)
  match indexFrom body delimiter 0 with
  | none => .error .malformedPart
  | some cursor =>
    parseParts toLowerCase body delimiter (maxParts + 1) (cursor + delimiter.length) {}

end Telga.Application
