import Telga.Application.Multipart

namespace Telga.Proofs.UploadForms
open Application Library

/-- A file somebody chose: it has a name. -/
structure Upload where
  filename : String
  mediaType : String
  content : List UInt8
  named : filename ≠ ""

/-- One control of a form as it is sent: a text, or a file input with the file chosen, if any. -/
inductive Entry
  | text (name value : String)
  | file (name : String) (upload : Option Upload)

/-- A text that stands between quotes on one line. -/
def Plain (text : List Char) : Prop :=
  '"' ∉ text ∧ '\r' ∉ text ∧ '\n' ∉ text

/-- No quotes and no line breaks in an entry's names and media type. -/
def Entry.Plain : Entry → Prop
  | .text name _ => UploadForms.Plain name.toList
  | .file name upload => UploadForms.Plain name.toList ∧
      ∀ chosen ∈ upload, UploadForms.Plain chosen.filename.toList ∧
        UploadForms.Plain chosen.mediaType.toList

/-- What an entry sends below its header. -/
def Entry.content : Entry → List UInt8
  | .text _ value => utf8Bytes value.toList
  | .file _ upload => (upload.map (·.content)).getD []

/-- What stands behind `Content-Disposition:`. -/
def Entry.disposition : Entry → List Char
  | .text name _ => " form-data; name=".toList ++ '"' :: (name.toList ++ ['"'])
  | .file name upload =>
    " form-data; name=".toList ++ '"' :: (name.toList ++ '"' ::
      ("; filename=".toList ++ '"' :: (((upload.map (·.filename)).getD "").toList ++ ['"'])))

theorem Entry.disposition_text (name value : String) : (Entry.text name value).disposition =
    " form-data; name=".toList ++ '"' :: (name.toList ++ ['"']) := rfl

theorem Entry.disposition_file (name : String) (upload : Option Upload) :
    (Entry.file name upload).disposition =
      " form-data; name=".toList ++ '"' :: (name.toList ++ '"' ::
        ("; filename=".toList ++ '"' ::
          (((upload.map (·.filename)).getD "").toList ++ ['"']))) := rfl

/-- The media type an entry declares, if it is a file. -/
def Entry.declared : Entry → Option (List Char)
  | .text _ _ => none
  | .file _ upload => some ((upload.map (·.mediaType)).getD "application/octet-stream").toList

/-- The line that declares a media type. -/
def typeLine : Option (List Char) → List Char
  | none => []
  | some mediaType => "\r\nContent-Type: ".toList ++ mediaType

/-- The header of an entry. -/
def Entry.header (entry : Entry) : List Char :=
  "Content-Disposition:".toList ++ entry.disposition ++ typeLine entry.declared

theorem Entry.header_eq (entry : Entry) :
    entry.header = "Content-Disposition:".toList ++ entry.disposition ++ typeLine entry.declared :=
  rfl

/-- The delimiter of a form. -/
def delimiterOf (boundary : String) : List UInt8 :=
  utf8Bytes ("--".toList ++ boundary.toList)

/-- What a browser sends after a delimiter. -/
def remaining (delimiter : List UInt8) : List Entry → List UInt8
  | [] => utf8Bytes "--\r\n".toList
  | entry :: entries =>
    crlf ++ utf8Bytes entry.header ++ (crlf ++ crlf) ++ entry.content ++ crlf ++ delimiter ++
      remaining delimiter entries

/-- How a browser encodes a form. -/
def encodeForm (boundary : String) (entries : List Entry) : List UInt8 :=
  delimiterOf boundary ++ remaining (delimiterOf boundary) entries

/-- A form that can be sent with a boundary: a browser chooses one that no content has in it. -/
structure Sendable (boundary : String) (entries : List Entry) : Prop where
  few : entries.length ≤ 24
  plain : ∀ entry ∈ entries, entry.Plain
  apart : ∀ entry ∈ entries, ¬ delimiterOf boundary <:+: entry.content

/-- The last value a form's texts of one name have. -/
def lastValue (entries : List Entry) (name : String) : Option String :=
  (entries.filterMap fun
    | .text other value => if other = name then some value else none
    | .file _ _ => none).getLast?

/-- The files of a form that are not empty: whose input, and what is in them. -/
def sentFiles (entries : List Entry) : List (String × List UInt8) :=
  entries.filterMap fun
    | .text _ _ => none
    | .file name upload =>
      upload.bind fun chosen => if chosen.content = [] then none else some (name, chosen.content)

/-- A parsed form has every text under its name, the last one of a repeated name, and every file
that is not empty. -/
structure Returns (entries : List Entry) (form : MultipartForm) : Prop where
  fields : ∀ name, form.fields.lookup name = lastValue entries name
  files : form.files.map (fun file => (file.name, file.content)) = sentFiles entries

section Attributes

variable {wanted front back : List Char}

/-- Only a quote is a quote in lower case. -/
theorem toLower_quote {char : Char} (same : '"' = char.toLower) : char = '"' := by
  delta Char.toLower at same
  split at same
  · rename_i upper
    have code := congrArg Char.toNat same
    have low : 65 ≤ char.toNat := UInt32.le_iff_toNat_le.mp upper.1
    have high : char.toNat ≤ 90 := UInt32.le_iff_toNat_le.mp upper.2
    have moved : (34 : Nat) = (char.toNat + 32) % 4294967296 := by simpa using code
    omega
  · exact same.symm

/-- A literal that ends with a quote reaches to the first quote, or does not match. -/
theorem following_quote (bare : '"' ∉ wanted) (open' : '"' ∉ front) :
    following (wanted ++ ['"']) (front ++ '"' :: back) =
      if following wanted front = some [] then some back else none := by
  induction wanted generalizing front with
  | nil =>
    cases front with
    | nil => rfl
    | cons char front =>
      have apart : ¬ '"' = char.toLower := by
        intro same
        have quote := toLower_quote same
        exact open' (quote ▸ List.mem_cons_self)
      simp [following, apart]
  | cons letter wanted ih =>
    have letterBare : letter ≠ '"' := fun same => bare (same ▸ List.mem_cons_self)
    have bare' : '"' ∉ wanted := fun mem => bare (List.mem_cons_of_mem _ mem)
    cases front with
    | nil =>
      have apart : ¬ letter.toLower = '"' := fun same => letterBare (toLower_quote same.symm)
      simp [following, apart]
    | cons char front =>
      have open'' : '"' ∉ front := fun mem => open' (List.mem_cons_of_mem _ mem)
      by_cases same : letter.toLower = char.toLower
      · simp [following, same, ih bare' open'']
      · simp [following, same]

theorem following_length (h : following wanted front = some back) :
    front.length = wanted.length + back.length := by
  induction wanted generalizing front with
  | nil =>
    cases h
    simp
  | cons letter wanted ih =>
    cases front with
    | nil => cases h
    | cons char front =>
      simp only [following] at h
      split at h
      · have rest := ih h
        simp only [List.length_cons]
        omega
      · cases h

/-- A text ends with a literal, in whichever case. -/
def EndsWith (wanted front : List Char) : Prop :=
  following wanted (front.drop (front.length - wanted.length)) = some []

instance : Decidable (EndsWith wanted front) :=
  inferInstanceAs (Decidable (_ = _))

theorem endsWith_cons {char : Char} : EndsWith wanted (char :: front) ↔
    following wanted (char :: front) = some [] ∨ EndsWith wanted front := by
  unfold EndsWith
  rw [List.length_cons]
  rcases Nat.lt_trichotomy wanted.length (front.length + 1) with less | same | more
  · have split : front.length + 1 - wanted.length = (front.length - wanted.length) + 1 := by
      omega
    rw [split, List.drop_succ_cons]
    refine ⟨.inr, ?_⟩
    rintro (whole | ends)
    · have length := following_length whole
      simp only [List.length_cons, List.length_nil] at length
      omega
    · exact ends
  · have none : front.length + 1 - wanted.length = 0 := by omega
    rw [none, List.drop_zero]
    refine ⟨.inl, ?_⟩
    rintro (whole | ends)
    · exact whole
    · have length := following_length ends
      simp only [List.length_drop, List.length_nil] at length
      omega
  · have none : front.length + 1 - wanted.length = 0 := by omega
    rw [none, List.drop_zero]
    refine ⟨.inl, ?_⟩
    rintro (whole | ends)
    · exact whole
    · have length := following_length ends
      simp only [List.length_drop, List.length_nil] at length
      omega

/-- The value of a key is what stands between the first quotes that an equals sign and the key
stand before. -/
theorem attributeOf_quote {key : String} (bare : '"' ∉ key.toList) (open' : '"' ∉ front) :
    attributeOf (front ++ '"' :: back) key =
      if EndsWith (key.toList ++ ['=']) front ∧ '"' ∈ back then some (back.takeWhile (· ≠ '"'))
      else attributeOf back key := by
  have bare' : '"' ∉ key.toList ++ ['='] := by
    simpa using bare
  have here : ∀ late, '"' ∉ late → attributeHere key (late ++ '"' :: back) =
      if following (key.toList ++ ['=']) late = some [] ∧ '"' ∈ back
      then some (back.takeWhile (· ≠ '"')) else none := by
    intro late open'
    have split : key.toList ++ ['=', '"'] = (key.toList ++ ['=']) ++ ['"'] := by simp
    rw [attributeHere, split, following_quote bare' open']
    by_cases ends : following (key.toList ++ ['=']) late = some []
    · by_cases closed : '"' ∈ back <;> simp [ends, closed]
    · simp [ends]
  induction front with
  | nil =>
    have missed : ¬ following (key.toList ++ ['=']) [] = some [] := by
      intro hit
      have length := following_length hit
      simp at length
    have ends : ¬ EndsWith (key.toList ++ ['=']) [] := by
      simpa [EndsWith] using missed
    rw [List.nil_append, attributeOf, firstMatch]
    have none := here [] (List.not_mem_nil)
    rw [if_neg fun both => missed both.1, List.nil_append] at none
    rw [none, Option.none_or, if_neg fun both => ends both.1]
    rfl
  | cons char front ih =>
    have open'' : '"' ∉ front := fun mem => open' (List.mem_cons_of_mem _ mem)
    have now := here (char :: front) open'
    have later := ih open''
    rw [attributeOf] at later
    rw [attributeOf, List.cons_append, firstMatch]
    rw [List.cons_append] at now
    rw [now, later]
    by_cases closed : '"' ∈ back
    · simp only [closed, and_true, endsWith_cons]
      by_cases whole : following (key.toList ++ ['=']) (char :: front) = some []
      · simp [whole]
      · by_cases ends : EndsWith (key.toList ++ ['=']) front <;> simp [whole, ends, attributeOf]
    · simp [closed, attributeOf]

theorem takeWhile_quote (open' : '"' ∉ front) :
    (front ++ '"' :: back).takeWhile (· ≠ '"') = front := by
  have all : ∀ char ∈ front, decide (char ≠ '"') = true := by
    intro char mem
    apply decide_eq_true
    rintro rfl
    exact open' mem
  rw [List.takeWhile_append_of_pos all]
  simp

theorem bare_literals : '"' ∉ " form-data; name=".toList ∧ '"' ∉ "; filename=".toList ∧
    '"' ∉ "name".toList ∧ '"' ∉ "filename".toList := by
  simp

theorem opening_bare : '"' ∉ " form-data; name=".toList :=
  bare_literals.1

theorem between_bare : '"' ∉ "; filename=".toList :=
  bare_literals.2.1

theorem name_bare : '"' ∉ "name".toList :=
  bare_literals.2.2.1

theorem filename_bare : '"' ∉ "filename".toList :=
  bare_literals.2.2.2

theorem opening_names : EndsWith ("name".toList ++ ['=']) " form-data; name=".toList ∧
    ¬ EndsWith ("filename".toList ++ ['=']) " form-data; name=".toList := by
  simp only [String.reduceToList]
  decide

theorem between_names : EndsWith ("filename".toList ++ ['=']) "; filename=".toList ∧
    "; filename=".toList ≠ [] := by
  simp only [String.reduceToList]
  decide

/-- The name of the control an entry is from. -/
def Entry.name : Entry → String
  | .text name _ => name
  | .file name _ => name

/-- The name of an entry is read from its disposition. -/
theorem attributeOf_name {entry : Entry} (plain : entry.Plain) :
    attributeOf entry.disposition "name" = some entry.name.toList := by
  cases entry with
  | text name value =>
    rw [Entry.disposition_text, attributeOf_quote name_bare opening_bare,
      if_pos ⟨opening_names.1, by simp⟩, takeWhile_quote plain.1]
    rfl
  | file name upload =>
    rw [Entry.disposition_file, attributeOf_quote name_bare opening_bare,
      if_pos ⟨opening_names.1, by simp⟩, takeWhile_quote plain.1.1]
    rfl

/-- A text has no file name. -/
theorem attributeOf_filename_text (plain : (Entry.text name value).Plain) :
    attributeOf (Entry.text name value).disposition "filename" = none := by
  rw [Entry.disposition_text, attributeOf_quote filename_bare opening_bare,
    if_neg fun both => opening_names.2 both.1, attributeOf_quote filename_bare plain.1,
    if_neg fun both => List.not_mem_nil both.2]
  decide +kernel

/-- A file input has one, which is empty only if no file was chosen. -/
theorem attributeOf_filename_file (plain : (Entry.file name upload).Plain) :
    ∃ filename, attributeOf (Entry.file name upload).disposition "filename" = some filename ∧
      (filename = [] → upload = none) := by
  have bare : '"' ∉ ((upload.map (·.filename)).getD "").toList := by
    cases upload with
    | none => simp
    | some chosen => exact (plain.2 chosen rfl).1.1
  rw [Entry.disposition_file, attributeOf_quote filename_bare opening_bare,
    if_neg fun both => opening_names.2 both.1, attributeOf_quote filename_bare plain.1.1]
  split
  · rw [takeWhile_quote between_bare]
    exact ⟨_, rfl, fun empty => absurd empty between_names.2⟩
  · rw [attributeOf_quote filename_bare between_bare, if_pos ⟨between_names.1, by simp⟩,
      takeWhile_quote bare]
    refine ⟨_, rfl, fun empty => ?_⟩
    cases upload with
    | none => rfl
    | some chosen => exact absurd (by simpa using empty) chosen.named

end Attributes

section Headers

variable {boundary : String} {entries : List Entry} {entry : Entry}

theorem following_append {wanted front middle : List Char} (back : List Char)
    (h : following wanted front = some middle) :
    following wanted (front ++ back) = some (middle ++ back) := by
  induction wanted generalizing front with
  | nil =>
    cases h
    rfl
  | cons letter wanted ih =>
    cases front with
    | nil => cases h
    | cons char front =>
      simp only [following, List.cons_append] at h ⊢
      split at h
      · rename_i same
        rw [if_pos same]
        exact ih h
      · cases h

theorem line_literals : (∀ char ∈ " form-data; name=".toList, lineBreak char = false) ∧
    (∀ char ∈ "; filename=".toList, lineBreak char = false) ∧
    (∀ char ∈ "Content-Disposition:".toList, lineBreak char = false) ∧
    (∀ char ∈ "Content-Type: ".toList, lineBreak char = false) ∧
    (∀ char ∈ "application/octet-stream".toList, lineBreak char = false) ∧
    ∀ char ∈ "--".toList, lineBreak char = false := by
  simp [lineBreak]

theorem opening_line : ∀ char ∈ " form-data; name=".toList, lineBreak char = false :=
  line_literals.1

theorem between_line : ∀ char ∈ "; filename=".toList, lineBreak char = false :=
  line_literals.2.1

theorem title_line : ∀ char ∈ "Content-Disposition:".toList, lineBreak char = false :=
  line_literals.2.2.1

theorem typeTitle_line : ∀ char ∈ "Content-Type: ".toList, lineBreak char = false :=
  line_literals.2.2.2.1

theorem octetStream_line : ∀ char ∈ "application/octet-stream".toList, lineBreak char = false :=
  line_literals.2.2.2.2.1

theorem dashes_line : ∀ char ∈ "--".toList, lineBreak char = false :=
  line_literals.2.2.2.2.2

theorem typeLine_some (mediaType : List Char) : typeLine (some mediaType) =
    '\r' :: '\n' :: ("Content-Type: ".toList ++ mediaType) := by
  have split : "\r\nContent-Type: ".toList = '\r' :: '\n' :: "Content-Type: ".toList := by
    simp
  exact congrArg (· ++ mediaType) split

theorem title_follows :
    following "content-disposition:".toList "Content-Disposition:".toList = some [] := by
  simp only [String.reduceToList]
  decide

/-- A plain text is on one line. -/
theorem Plain.line {text : List Char} (plain : Plain text) :
    ∀ char ∈ text, lineBreak char = false := by
  intro char mem
  have ret : char ≠ '\r' := fun same => plain.2.1 (same ▸ mem)
  have feed : char ≠ '\n' := fun same => plain.2.2 (same ▸ mem)
  simp [lineBreak, ret, feed]

/-- The disposition of a plain entry is on one line. -/
theorem disposition_line (plain : entry.Plain) :
    ∀ char ∈ entry.disposition, lineBreak char = false := by
  have quote : lineBreak '"' = false := by decide
  intro char mem
  cases entry with
  | text name value =>
    rw [Entry.disposition_text] at mem
    simp only [List.mem_append, List.mem_cons, List.not_mem_nil, or_false] at mem
    rcases mem with front | rfl | own | rfl
    · exact opening_line char front
    · exact quote
    · exact Plain.line plain char own
    · exact quote
  | file name upload =>
    rw [Entry.disposition_file] at mem
    simp only [List.mem_append, List.mem_cons, List.not_mem_nil, or_false] at mem
    rcases mem with front | rfl | own | rfl | middle | rfl | chosen | rfl
    · exact opening_line char front
    · exact quote
    · exact Plain.line plain.1 char own
    · exact quote
    · exact between_line char middle
    · exact quote
    · cases upload with
      | none => exact absurd chosen (by simp)
      | some upload => exact Plain.line (plain.2 upload rfl).1 char chosen
    · exact quote

/-- The media type a plain entry declares is on one line. -/
theorem declared_line (plain : entry.Plain) :
    ∀ mediaType ∈ entry.declared, ∀ char ∈ mediaType, lineBreak char = false := by
  intro mediaType declared char mem
  cases entry with
  | text name value => cases declared
  | file name upload =>
    cases declared
    cases upload with
    | none => exact octetStream_line char mem
    | some upload => exact Plain.line (plain.2 upload rfl).2 char mem

theorem header_none (h : entry.declared = none) :
    entry.header = "Content-Disposition:".toList ++ entry.disposition := by
  have none := congrArg typeLine h
  rw [Entry.header_eq, none]
  exact List.append_nil _

theorem header_some {mediaType : List Char} (h : entry.declared = some mediaType) :
    entry.header = "Content-Disposition:".toList ++ entry.disposition ++
      '\r' :: '\n' :: ("Content-Type: ".toList ++ mediaType) := by
  have line := congrArg typeLine h
  rw [Entry.header_eq, line, typeLine_some]

/-- The disposition of an entry is read from its header. -/
theorem disposition_read (plain : entry.Plain) :
    firstMatch dispositionHere entry.header = some entry.disposition := by
  apply firstMatch_here
  have line : ∀ char ∈ entry.disposition, decide (lineBreak char = false) = true :=
    fun char mem => decide_eq_true (disposition_line plain char mem)
  cases declared : entry.declared with
  | none =>
    rw [header_none declared, dispositionHere, following_append _ title_follows, Option.map_some,
      List.nil_append, ← List.append_nil entry.disposition, List.takeWhile_append_of_pos
        (by simpa using line)]
    simp
  | some mediaType =>
    rw [header_some declared, List.append_assoc, dispositionHere,
      following_append _ title_follows, Option.map_some, List.nil_append,
      List.takeWhile_append_of_pos line]
    simp [lineBreak]

end Headers

section Bytes

variable {boundary : String} {entry : Entry} {delimiter content : List UInt8}

/-- The bytes of a line have no line ends among them. -/
theorem bytes_line {text : List Char} (line : ∀ char ∈ text, lineBreak char = false) :
    (13 : UInt8) ∉ utf8Bytes text ∧ (10 : UInt8) ∉ utf8Bytes text := by
  constructor
  · intro mem
    obtain ⟨char, there, code⟩ := mem_utf8Bytes (by decide) mem
    have same : char = '\r' := Char.toNat_inj.mp code
    have broken := line char there
    rw [same] at broken
    exact absurd broken (by decide)
  · intro mem
    obtain ⟨char, there, code⟩ := mem_utf8Bytes (by decide) mem
    have same : char = '\n' := Char.toNat_inj.mp code
    have broken := line char there
    rw [same] at broken
    exact absurd broken (by decide)

theorem ends_refused : boundaryChar '\r' = false ∧ boundaryChar '\n' = false := by
  simp only [boundaryChar, String.reduceToList]
  decide

/-- What may stand in a boundary is no line end. -/
theorem boundaryChar_line {char : Char} (allowed : boundaryChar char = true) :
    lineBreak char = false := by
  have ret : char ≠ '\r' := by
    rintro rfl
    rw [ends_refused.1] at allowed
    cases allowed
  have feed : char ≠ '\n' := by
    rintro rfl
    rw [ends_refused.2] at allowed
    cases allowed
  simp [lineBreak, ret, feed]

/-- A boundary that is accepted makes a delimiter without line ends. -/
theorem delimiter_line {toLowerCase : String → String} {contentType : Option String}
    (given : boundaryOf toLowerCase contentType = some boundary) :
    (13 : UInt8) ∉ delimiterOf boundary ∧ (10 : UInt8) ∉ delimiterOf boundary := by
  apply bytes_line
  intro char mem
  rcases List.mem_append.mp mem with dash | own
  · exact dashes_line char dash
  · apply boundaryChar_line
    cases contentType with
    | none => cases given
    | some contentType =>
      simp only [boundaryOf, Option.bind_eq_bind, Option.bind_some] at given
      split at given
      · cases given
      · obtain ⟨found, -, given⟩ := Option.bind_eq_some_iff.mp given
        split at given
        · cases given
        · split at given
          · rename_i all
            cases given
            rw [String.toList_ofList] at own
            exact List.all_eq_true.mp all char own
          · cases given

theorem delimiter_ne : delimiterOf boundary ≠ [] := by
  intro none
  have dashes : utf8Bytes "--".toList = [45, 45] := by
    simp only [String.reduceToList]
    decide
  rw [delimiterOf, utf8Bytes_append, dashes] at none
  cases none

/-- An empty line is not in a line. -/
theorem indexOf_line {front rest : List UInt8} (line : (13 : UInt8) ∉ front) :
    indexOf (crlf ++ crlf) (front ++ rest) =
      (indexOf (crlf ++ crlf) rest).map (· + front.length) :=
  indexOf_clear line

/-- One line end is not two. -/
theorem indexOf_crlf {rest : List UInt8} (more : rest ≠ []) (line : (13 : UInt8) ∉ rest)
    (back : List UInt8) : indexOf (crlf ++ crlf) (crlf ++ (rest ++ back)) =
      (indexOf (crlf ++ crlf) (rest ++ back)).map (· + 2) := by
  have second : (13 : UInt8) ∉ [10] := by decide
  cases rest with
  | nil => exact absurd rfl more
  | cons byte rest =>
    have apart : (13 : UInt8) ≠ byte := List.ne_of_not_mem_cons line
    have past : indexOf (crlf ++ crlf) ([10] ++ (byte :: rest ++ back)) =
        (indexOf (crlf ++ crlf) (byte :: rest ++ back)).map (· + 1) := indexOf_clear second
    have missed : (crlf ++ crlf).isPrefixOf (13 :: ([10] ++ (byte :: rest ++ back))) = false := by
      simp [crlf, List.isPrefixOf, apart]
    have first : crlf ++ (byte :: rest ++ back) = 13 :: ([10] ++ (byte :: rest ++ back)) := rfl
    rw [first, indexOf, missed, past]
    simp [Option.map_map, Function.comp_def]

/-- The header of an entry ends with the first empty line. -/
theorem headerEnd_found (plain : entry.Plain) (back : List UInt8) :
    indexOf (crlf ++ crlf) (utf8Bytes entry.header ++ (crlf ++ crlf ++ back)) =
      some (utf8Bytes entry.header).length := by
  have line : ∀ char ∈ "Content-Disposition:".toList ++ entry.disposition,
      lineBreak char = false := by
    intro char mem
    rcases List.mem_append.mp mem with title | own
    · exact title_line char title
    · exact disposition_line plain char own
  have ret := (bytes_line line).1
  cases declared : entry.declared with
  | none =>
    rw [header_none declared, indexOf_line ret, indexOf_here]
    simp
  | some mediaType =>
    have typed : ∀ char ∈ "Content-Type: ".toList ++ mediaType, lineBreak char = false := by
      intro char mem
      rcases List.mem_append.mp mem with title | own
      · exact typeTitle_line char title
      · exact declared_line plain mediaType declared char own
    have ret' := (bytes_line typed).1
    have more : utf8Bytes ("Content-Type: ".toList ++ mediaType) ≠ [] := by
      have first : utf8Bytes "Content-Type: ".toList ≠ [] := by
        simp only [String.reduceToList]
        decide
      rw [utf8Bytes_append]
      exact List.append_ne_nil_of_left_ne_nil first _
    have ends : ∀ text, utf8Bytes ('\r' :: '\n' :: text) = crlf ++ utf8Bytes text :=
      fun text => rfl
    rw [header_some declared, utf8Bytes_append, ends, List.append_assoc, List.append_assoc,
      indexOf_line ret, indexOf_crlf more ret', indexOf_line ret', indexOf_here]
    simp [crlf]
    omega

/-- The next delimiter is the one that ends the content. -/
theorem delimiter_found (line : (13 : UInt8) ∉ delimiter ∧ (10 : UInt8) ∉ delimiter)
    (some : delimiter ≠ []) (apart : ¬ delimiter <:+: content) (back : List UInt8) :
    indexOf delimiter (crlf ++ crlf ++ (content ++ (crlf ++ (delimiter ++ back)))) =
      .some (content.length + 6) := by
  have nothing : ¬ delimiter <:+: [] := fun hit => some (List.eq_nil_of_infix_nil hit)
  have before : ¬ delimiter <:+: crlf ++ crlf ++ (content ++ [13]) := by
    have ends : ¬ delimiter <:+: content ++ 13 :: [] := not_infix_fenced line.1 apart nothing
    have four : ¬ delimiter <:+: [] ++ 10 :: (content ++ [13]) :=
      not_infix_fenced line.2 nothing ends
    have three : ¬ delimiter <:+: [] ++ 13 :: (10 :: (content ++ [13])) :=
      not_infix_fenced line.1 nothing four
    have two : ¬ delimiter <:+: [] ++ 10 :: (13 :: 10 :: (content ++ [13])) :=
      not_infix_fenced line.2 nothing three
    have one : ¬ delimiter <:+: [] ++ 13 :: (10 :: 13 :: 10 :: (content ++ [13])) :=
      not_infix_fenced line.1 nothing two
    exact one
  have found := indexOf_fenced line.2 before back
  have split : crlf ++ crlf ++ (content ++ (crlf ++ (delimiter ++ back))) =
      crlf ++ crlf ++ (content ++ [13]) ++ 10 :: (delimiter ++ back) := by
    simp [crlf]
  rw [split, found]
  simp [crlf]

end Bytes

section Parts

variable {delimiter : List UInt8} {entry : Entry}

theorem subarray_middle (front middle back : List UInt8) :
    subarray (front ++ (middle ++ back)) front.length (front.length + middle.length) = middle := by
  rw [subarray, List.take_append, List.take_of_length_le (by omega), Nat.add_sub_cancel_left,
    List.take_left, List.drop_left]

theorem indexFrom_behind (front back pattern : List UInt8) :
    indexFrom (front ++ back) pattern front.length =
      (indexOf pattern back).map (· + front.length) := by
  rw [indexFrom, List.drop_left]

/-- The fields of a form that an entry is taken into. -/
def fieldsWith : Entry → List (String × String) → List (String × String)
  | .text name value, fields => setField fields name value
  | .file _ _, fields => fields

theorem sentFiles_cons (entry : Entry) (entries : List Entry) :
    sentFiles (entry :: entries) = sentFiles [entry] ++ sentFiles entries := by
  have split : entry :: entries = [entry] ++ entries := rfl
  rw [split, sentFiles, List.filterMap_append]
  rfl

/-- An entry becomes a field, a file, or nothing. -/
theorem takePart_entry (toLowerCase : String → String) (plain : entry.Plain) (form : MultipartForm) :
    ∃ form', takePart toLowerCase entry.header entry.content form = .ok form' ∧
      form'.fields = fieldsWith entry form.fields ∧
      form'.files.map (fun file => (file.name, file.content)) =
        form.files.map (fun file => (file.name, file.content)) ++ sentFiles [entry] := by
  rw [takePart, disposition_read plain, Option.getD_some]
  simp only [attributeOf_name plain]
  cases entry with
  | text name value =>
    rw [attributeOf_filename_text plain]
    refine ⟨_, rfl, ?_, (List.append_nil _).symm⟩
    simp only [Entry.name, String.ofList_toList, Entry.content, utf8Text_bytes, fieldsWith]
  | file name upload =>
    obtain ⟨filename, read, chosen⟩ := attributeOf_filename_file plain
    simp only [read]
    cases upload with
    | none =>
      have absent : ¬ (filename ≠ [] ∧ (Entry.file name none).content ≠ []) := fun both =>
        both.2 rfl
      rw [if_neg absent]
      exact ⟨_, rfl, rfl, (List.append_nil _).symm⟩
    | some upload =>
      have named : filename ≠ [] := fun empty => nomatch chosen empty
      by_cases empty : upload.content = []
      · have absent : ¬ (filename ≠ [] ∧ (Entry.file name (some upload)).content ≠ []) :=
          fun both => both.2 empty
        have nothing : sentFiles [Entry.file name (some upload)] = [] := by
          simp [sentFiles, empty]
        rw [if_neg absent, nothing]
        exact ⟨_, rfl, rfl, (List.append_nil _).symm⟩
      · have there : filename ≠ [] ∧ (Entry.file name (some upload)).content ≠ [] :=
          ⟨named, empty⟩
        rw [if_pos there]
        refine ⟨_, rfl, rfl, ?_⟩
        simp [sentFiles, empty, Entry.name, Entry.content]

/-- What a round reads: one entry up to its delimiter. -/
def roundOf (delimiter : List UInt8) (entry : Entry) : List UInt8 :=
  crlf ++ utf8Bytes entry.header ++ (crlf ++ crlf) ++ entry.content ++ crlf ++ delimiter

/-- One round takes the next entry. -/
theorem parseParts_round (toLowerCase : String → String) (front back : List UInt8) (left : Nat)
    (form : MultipartForm) (plain : entry.Plain)
    (line : (13 : UInt8) ∉ delimiter ∧ (10 : UInt8) ∉ delimiter) (some : delimiter ≠ [])
    (apart : ¬ delimiter <:+: entry.content) :
    parseParts toLowerCase (front ++ (roundOf delimiter entry ++ back)) delimiter (left + 1)
        front.length form =
      match takePart toLowerCase entry.header entry.content form with
      | .error refusal => .error refusal
      | .ok form =>
        parseParts toLowerCase ((front ++ roundOf delimiter entry) ++ back) delimiter left
          (front ++ roundOf delimiter entry).length form := by
  have dashes : crlf ≠ utf8Bytes "--".toList := by
    simp only [String.reduceToList]
    decide
  have two : crlf.length = 2 := rfl
  -- The body from the cursor, the header, the header's end and the content on.
  have body : front ++ (roundOf delimiter entry ++ back) = front ++ (crlf ++
      (utf8Bytes entry.header ++ (crlf ++ crlf ++ (entry.content ++ (crlf ++
        (delimiter ++ back)))))) := by
    simp [roundOf]
  have fromHeader : front ++ (roundOf delimiter entry ++ back) = (front ++ crlf) ++
      (utf8Bytes entry.header ++ (crlf ++ crlf ++ (entry.content ++ (crlf ++
        (delimiter ++ back))))) := by
    simp [roundOf]
  have fromEnd : front ++ (roundOf delimiter entry ++ back) =
      (front ++ crlf ++ utf8Bytes entry.header) ++ (crlf ++ crlf ++ (entry.content ++ (crlf ++
        (delimiter ++ back)))) := by
    simp [roundOf]
  have fromContent : front ++ (roundOf delimiter entry ++ back) =
      (front ++ crlf ++ utf8Bytes entry.header ++ (crlf ++ crlf)) ++ (entry.content ++ (crlf ++
        (delimiter ++ back))) := by
    simp [roundOf]
  have behind : front ++ (roundOf delimiter entry ++ back) =
      (front ++ crlf ++ utf8Bytes entry.header ++ (crlf ++ crlf) ++ entry.content) ++ (crlf ++
        (delimiter ++ back)) := by
    simp [roundOf]
  have start : subarray (front ++ (roundOf delimiter entry ++ back)) front.length
      (front.length + 2) = crlf := by
    rw [body]
    exact subarray_middle _ _ _
  have headerEnd : indexFrom (front ++ (roundOf delimiter entry ++ back)) (crlf ++ crlf)
      (front.length + 2) = .some (front.length + 2 + (utf8Bytes entry.header).length) := by
    have found := indexFrom_behind (front ++ crlf) (utf8Bytes entry.header ++ (crlf ++ crlf ++
      (entry.content ++ (crlf ++ (delimiter ++ back))))) (crlf ++ crlf)
    rw [headerEnd_found plain, List.length_append, two, ← fromHeader] at found
    rw [found]
    simp [Nat.add_comm]
  have headers : subarray (front ++ (roundOf delimiter entry ++ back)) (front.length + 2)
      (front.length + 2 + (utf8Bytes entry.header).length) = utf8Bytes entry.header := by
    rw [fromHeader]
    have read := subarray_middle (front ++ crlf) (utf8Bytes entry.header) (crlf ++ crlf ++
      (entry.content ++ (crlf ++ (delimiter ++ back))))
    rw [List.length_append, two] at read
    exact read
  have next : indexFrom (front ++ (roundOf delimiter entry ++ back)) delimiter
      (front.length + 2 + (utf8Bytes entry.header).length) = .some
        (front.length + 2 + (utf8Bytes entry.header).length + 4 + entry.content.length + 2) := by
    have found := indexFrom_behind (front ++ crlf ++ utf8Bytes entry.header) (crlf ++ crlf ++
      (entry.content ++ (crlf ++ (delimiter ++ back)))) delimiter
    rw [delimiter_found line some apart, List.length_append, List.length_append, two,
      ← fromEnd] at found
    rw [found, Option.map_some]
    apply congrArg
    omega
  have content : subarray (front ++ (roundOf delimiter entry ++ back))
      (front.length + 2 + (utf8Bytes entry.header).length + 4)
      (front.length + 2 + (utf8Bytes entry.header).length + 4 + entry.content.length) =
        entry.content := by
    rw [fromContent]
    have read := subarray_middle (front ++ crlf ++ utf8Bytes entry.header ++ (crlf ++ crlf))
      entry.content (crlf ++ (delimiter ++ back))
    simp only [List.length_append, two] at read
    exact read
  have ends : subarray (front ++ (roundOf delimiter entry ++ back))
      (front.length + 2 + (utf8Bytes entry.header).length + 4 + entry.content.length)
      (front.length + 2 + (utf8Bytes entry.header).length + 4 + entry.content.length + 2) =
        crlf := by
    rw [behind]
    have read := subarray_middle
      (front ++ crlf ++ utf8Bytes entry.header ++ (crlf ++ crlf) ++ entry.content) crlf
      (delimiter ++ back)
    simp only [List.length_append, two] at read
    exact read
  have reached : front.length + 2 + (utf8Bytes entry.header).length + 4 + entry.content.length +
      2 + delimiter.length = (front ++ roundOf delimiter entry).length := by
    simp only [roundOf, List.length_append, two]
    omega
  cases took : takePart toLowerCase entry.header entry.content form
  all_goals
    rw [parseParts]
    simp only [start, if_neg dashes, if_true, headerEnd, headers, utf8Text_bytes, next,
      Nat.add_sub_cancel, ends, content, took, reached, List.append_assoc]

end Parts

section Forms

variable {delimiter : List UInt8} {boundary : String} {contentType : Option String}
  {entries : List Entry} {fields : List (String × String)}

/-- The fields of a form that some entries are taken into. -/
def fieldsWithAll (entries : List Entry) (fields : List (String × String)) :
    List (String × String) :=
  entries.foldl (fun fields entry => fieldsWith entry fields) fields

theorem remaining_cons (delimiter : List UInt8) (entry : Entry) (entries : List Entry) :
    remaining delimiter (entry :: entries) =
      roundOf delimiter entry ++ remaining delimiter entries := rfl

/-- The rounds take every entry and stop at the epilogue. -/
theorem parseParts_run (toLowerCase : String → String)
    (line : (13 : UInt8) ∉ delimiter ∧ (10 : UInt8) ∉ delimiter)
    (some : delimiter ≠ []) (plain : ∀ entry ∈ entries, entry.Plain)
    (apart : ∀ entry ∈ entries, ¬ delimiter <:+: entry.content) (front : List UInt8) {left : Nat}
    (enough : entries.length < left) (form : MultipartForm) :
    ∃ form', parseParts toLowerCase (front ++ remaining delimiter entries) delimiter left
        front.length form = .ok form' ∧
      form'.fields = fieldsWithAll entries form.fields ∧
      form'.files.map (fun file => (file.name, file.content)) =
        form.files.map (fun file => (file.name, file.content)) ++ sentFiles entries := by
  induction entries generalizing front left form with
  | nil =>
    obtain ⟨left, rfl⟩ : ∃ fewer, left = fewer + 1 := ⟨left - 1, by
      simp only [List.length_nil] at enough
      omega⟩
    have epilogue : utf8Bytes "--\r\n".toList = utf8Bytes "--".toList ++ crlf ∧
        (utf8Bytes "--".toList).length = 2 := by
      simp only [String.reduceToList]
      decide
    have dashes : subarray (front ++ remaining delimiter []) front.length (front.length + 2) =
        utf8Bytes "--".toList := by
      have read := subarray_middle front (utf8Bytes "--".toList) crlf
      rw [epilogue.2, ← epilogue.1] at read
      exact read
    rw [parseParts, if_pos dashes]
    exact ⟨form, rfl, rfl, (List.append_nil _).symm⟩
  | cons entry entries ih =>
    obtain ⟨left, rfl⟩ : ∃ fewer, left = fewer + 1 := ⟨left - 1, by
      simp only [List.length_cons] at enough
      omega⟩
    have fewer : entries.length < left := by
      simp only [List.length_cons] at enough
      omega
    obtain ⟨taken, took, takenFields, takenFiles⟩ :=
      takePart_entry toLowerCase (plain entry List.mem_cons_self) form
    obtain ⟨form', parsed, allFields, allFiles⟩ :=
      ih (fun entry mem => plain entry (List.mem_cons_of_mem _ mem))
        (fun entry mem => apart entry (List.mem_cons_of_mem _ mem))
        (front ++ roundOf delimiter entry) fewer taken
    have round := parseParts_round toLowerCase front (remaining delimiter entries) left form
      (plain entry List.mem_cons_self) line some (apart entry List.mem_cons_self)
    refine ⟨form', ?_, ?_, ?_⟩
    · rw [remaining_cons, round, took]
      exact parsed
    · rw [allFields, takenFields]
      rfl
    · rw [allFiles, takenFiles, sentFiles_cons entry entries, List.append_assoc]

theorem lookup_update (name other value : String) :
    (update (fun field => field.1 = other) (fun _ => (other, value)) fields).lookup name =
      if other = name then (fields.lookup name).map fun _ => value else fields.lookup name := by
  induction fields with
  | nil => simp [update]
  | cons field fields ih =>
    obtain ⟨key, old⟩ := field
    rw [update] at ih
    rw [update, List.map_cons]
    by_cases own : key = other
    · subst own
      rw [if_pos (decide_eq_true rfl), List.lookup_cons, List.lookup_cons]
      by_cases same : key = name
      · subst same
        simp
      · have apart : (name == key) = false := by
          rw [beq_eq_false_iff_ne]
          exact fun equal => same equal.symm
        rw [if_neg same] at ih
        rw [apart, if_neg same]
        exact ih
    · rw [if_neg (by simpa using own), List.lookup_cons, List.lookup_cons]
      by_cases same : key = name
      · subst same
        have apart : other ≠ key := fun equal => own equal.symm
        simp [apart]
      · have apart : (name == key) = false := by
          rw [beq_eq_false_iff_ne]
          exact fun equal => same equal.symm
        rw [apart]
        exact ih

/-- What a property is after an assignment. -/
theorem lookup_setField (name other value : String) :
    (setField fields other value).lookup name =
      if other = name ∧ other ≠ "__proto__" then some value else fields.lookup name := by
  rw [setField]
  by_cases proto : other = "__proto__"
  · rw [if_pos proto, if_neg fun both => both.2 proto]
  · rw [if_neg proto]
    split
    · rename_i there
      rw [lookup_update]
      by_cases same : other = name
      · subst same
        obtain ⟨old, stored⟩ := Option.isSome_iff_exists.mp there
        rw [if_pos rfl, if_pos ⟨rfl, proto⟩, stored]
        rfl
      · rw [if_neg same, if_neg fun both => same both.1]
    · rename_i absent
      rw [List.lookup_append]
      by_cases same : other = name
      · subst same
        have none := Option.not_isSome_iff_eq_none.mp absent
        rw [none, if_pos ⟨rfl, proto⟩]
        simp
      · have apart : (name == other) = false := by
          rw [beq_eq_false_iff_ne]
          exact fun equal => same equal.symm
        rw [if_neg fun both => same both.1, List.lookup_cons, apart]
        simp

theorem lastValue_text (other value name : String) (entries : List Entry) :
    lastValue (.text other value :: entries) name =
      (lastValue entries name).or (if other = name then some value else none) := by
  rw [lastValue, lastValue, List.filterMap_cons]
  by_cases same : other = name
  · simp only [if_pos same, List.getLast?_cons]
    cases (List.getLast? _) <;> rfl
  · simp only [if_neg same, Option.or_none]

/-- Of the texts of one name the last is kept, unless it is the prototype's. -/
theorem lookup_withAll (name : String) (fields : List (String × String)) :
    (fieldsWithAll entries fields).lookup name =
      if name = "__proto__" then fields.lookup name
      else (lastValue entries name).or (fields.lookup name) := by
  induction entries generalizing fields with
  | nil =>
    have none : lastValue [] name = none := rfl
    rw [none, Option.none_or, ite_self]
    rfl
  | cons entry entries ih =>
    have next : fieldsWithAll (entry :: entries) fields =
        fieldsWithAll entries (fieldsWith entry fields) := rfl
    rw [next, ih]
    cases entry with
    | file other upload => rfl
    | text other value =>
      rw [fieldsWith, lookup_setField, lastValue_text]
      by_cases proto : name = "__proto__"
      · rw [if_pos proto, if_pos proto, if_neg]
        rintro ⟨same, apart⟩
        exact apart (same.trans proto)
      · rw [if_neg proto, if_neg proto, Option.or_assoc]
        apply congrArg
        by_cases same : other = name
        · have both : other = name ∧ other ≠ "__proto__" :=
            ⟨same, fun equal => proto (same.symm.trans equal)⟩
          rw [if_pos both, if_pos same, Option.some_or]
        · rw [if_neg fun both => same both.1, if_neg same, Option.none_or]

/-- Some text has a name exactly if the name has a last value. -/
theorem lastValue_none {name : String} :
    lastValue entries name = none ↔ ∀ value, Entry.text name value ∉ entries := by
  rw [lastValue, List.getLast?_eq_none_iff, List.filterMap_eq_nil_iff]
  constructor
  · intro none value mem
    have own := none _ mem
    simp only [if_true] at own
    cases own
  · intro absent entry mem
    cases entry with
    | file other upload => rfl
    | text other value =>
      simp only [ite_eq_right_iff]
      rintro rfl
      exact absurd mem (absent value)

/-- A form that is sent is parsed, and everything it holds comes back but a text that has the name
of an object's prototype. -/
theorem parseMultipart_sent (toLowerCase : String → String)
    (given : boundaryOf toLowerCase contentType = some boundary)
    (sendable : Sendable boundary entries) :
    ∃ form, parseMultipart toLowerCase (encodeForm boundary entries) boundary = .ok form ∧
      (∀ name, form.fields.lookup name =
        if name = "__proto__" then none else lastValue entries name) ∧
      form.files.map (fun file => (file.name, file.content)) = sentFiles entries := by
  have line := delimiter_line given
  have enough : entries.length < maxParts + 1 := by
    have few := sendable.few
    simp only [maxParts]
    omega
  have first : indexFrom (encodeForm boundary entries) (delimiterOf boundary) 0 = some 0 := by
    rw [indexFrom, List.drop_zero, encodeForm, indexOf_here]
    rfl
  obtain ⟨form, parsed, fields, files⟩ := parseParts_run toLowerCase line delimiter_ne
    sendable.plain sendable.apart (delimiterOf boundary) enough {}
  refine ⟨form, ?_, ?_, files⟩
  · have first' : indexFrom (encodeForm boundary entries)
        (utf8Bytes ("--".toList ++ boundary.toList)) 0 = some 0 := first
    simp only [parseMultipart, first', Nat.zero_add]
    exact parsed
  · intro name
    rw [fields, lookup_withAll]
    simp

/-- A form that is sent comes back whole exactly if it has no text with the name of an object's
prototype, and whatever else is sent, the parser ends with a form or a refusal. -/
theorem form_returned (toLowerCase : String → String) (contentType : Option String)
    (boundary : String) (entries : List Entry)
    (given : boundaryOf toLowerCase contentType = some boundary)
    (sendable : Sendable boundary entries) :
    ((∃ form, parseMultipart toLowerCase (encodeForm boundary entries) boundary = .ok form ∧
        Returns entries form) ↔
      ∀ value, Entry.text "__proto__" value ∉ entries) ∧
    ∀ body other, (∃ form, parseMultipart toLowerCase body other = .ok form) ∨
      ∃ refusal, parseMultipart toLowerCase body other = .error refusal := by
  obtain ⟨form, parsed, fields, files⟩ := parseMultipart_sent toLowerCase given sendable
  refine ⟨?_, ?_⟩
  · rw [← lastValue_none]
    constructor
    · rintro ⟨form', parsed', returned⟩
      have same : form = form' := Except.ok.inj (parsed.symm.trans parsed')
      rw [← returned.fields "__proto__", ← same, fields, if_pos rfl]
    · intro none
      refine ⟨form, parsed, ?_, files⟩
      intro name
      rw [fields]
      split
      · rename_i proto
        rw [proto, none]
      · rfl
  · intro body other
    cases parseMultipart toLowerCase body other with
    | ok form => exact .inl ⟨form, rfl⟩
    | error refusal => exact .inr ⟨refusal, rfl⟩

/-- A licence whose bytes end in line breaks. -/
def licence : Upload :=
  { filename := "licence.jpg", mediaType := "image/jpeg", content := [255, 216, 13, 10, 13, 10]
    named := by decide }

/-- A name given twice, a photograph, and an input left empty. -/
def registrationForm : List Entry :=
  [.text "owner" "Abebe", .file "licence" (some licence), .file "photograph" none,
    .text "owner" "Kebede"]

theorem names_plain : Plain "owner".toList ∧ Plain "licence".toList ∧ Plain "photograph".toList ∧
    Plain "licence.jpg".toList ∧ Plain "image/jpeg".toList := by
  simp [Plain]

theorem registrationForm_sendable : Sendable "x7" registrationForm := by
  have plain := names_plain
  refine ⟨by decide, ?_, ?_⟩
  · intro entry mem
    simp only [registrationForm, List.mem_cons, List.not_mem_nil, or_false] at mem
    rcases mem with rfl | rfl | rfl | rfl
    · exact plain.1
    · refine ⟨plain.2.1, ?_⟩
      intro chosen same
      cases same
      exact ⟨plain.2.2.2.1, plain.2.2.2.2⟩
    · exact ⟨plain.2.2.1, fun chosen same => nomatch same⟩
    · exact plain.1
  · have apart : registrationForm.all fun entry =>
        decide (¬ delimiterOf "x7" <:+: entry.content) := by
      decide +kernel
    intro entry mem
    exact of_decide_eq_true (List.all_eq_true.mp apart entry mem)

theorem boundary_given :
    boundaryOf String.toLower (some "multipart/form-data; boundary=x7") = some "x7" := by
  decide +kernel

theorem registrationForm_returned :
    (∃ form, parseMultipart String.toLower (encodeForm "x7" registrationForm) "x7" = .ok form ∧
      Returns registrationForm form) ∧
    lastValue registrationForm "owner" = some "Kebede" ∧
    sentFiles registrationForm = [("licence", [255, 216, 13, 10, 13, 10])] := by
  have ordinary : ∀ value, Entry.text "__proto__" value ∉ registrationForm := by
    intro value mem
    simp [registrationForm] at mem
  refine ⟨?_, by decide +kernel, by decide +kernel⟩
  exact (form_returned String.toLower (some "multipart/form-data; boundary=x7") "x7"
    registrationForm boundary_given registrationForm_sendable).1.mpr ordinary

theorem proto_sendable : Sendable "x7" [.text "__proto__" "1"] := by
  have plain : Plain "__proto__".toList := by
    simp [Plain]
  have apart : ¬ delimiterOf "x7" <:+: (Entry.text "__proto__" "1").content := by
    decide +kernel
  refine ⟨by decide, ?_, ?_⟩
  · intro entry mem
    rw [List.mem_singleton.mp mem]
    exact plain
  · intro entry mem
    rw [List.mem_singleton.mp mem]
    exact apart

/-- A text with the name of an object's prototype is lost. -/
theorem proto_lost : ¬ ∀ (toLowerCase : String → String) (contentType : Option String)
    (boundary : String) (entries : List Entry),
    boundaryOf toLowerCase contentType = some boundary → Sendable boundary entries →
    ∃ form, parseMultipart toLowerCase (encodeForm boundary entries) boundary = .ok form ∧
      Returns entries form := by
  intro claim
  obtain ⟨form, parsed, returned⟩ := claim String.toLower _ "x7" [.text "__proto__" "1"]
    boundary_given proto_sendable
  obtain ⟨form', parsed', fields, -⟩ :=
    parseMultipart_sent String.toLower boundary_given proto_sendable
  have same : form' = form := Except.ok.inj (parsed'.symm.trans parsed)
  have kept := returned.fields "__proto__"
  rw [← same, fields, if_pos rfl] at kept
  simp [lastValue] at kept

end Forms

end Telga.Proofs.UploadForms
