namespace Telga.Library.Markup

/-- A text as its code units. -/
abbrev Units := List Nat

def units (text : String) : Units :=
  text.toList.map Char.toNat

/-- A document's nodes. -/
inductive Dom
  | text (value : Units)
  | element (tag : Units) (attributes : List (Units × Units)) (children : List Dom)
deriving Repr

section Joining

/-- Put text behind nodes that are given the last first: it joins the text they end in, and empty
text is dropped. -/
def addText : List Dom → Units → List Dom
  | .text before :: nodes, value => .text (before ++ value) :: nodes
  | nodes, value => if value = [] then nodes else .text value :: nodes

/-- Put nodes behind others, the last first, with adjacent texts joined and empty ones dropped. -/
def joinOnto : List Dom → List Dom → List Dom
  | nodes, [] => nodes
  | nodes, .text value :: rest => joinOnto (addText nodes value) rest
  | nodes, .element tag attributes children :: rest =>
    joinOnto (.element tag attributes (joinOnto [] children).reverse :: nodes) rest

/-- Nodes up to joining adjacent texts and dropping empty ones. -/
def joined (nodes : List Dom) : List Dom :=
  (joinOnto [] nodes).reverse

variable {nodes : List Dom} {value next : Units}

theorem addText_nil : addText nodes [] = nodes := by
  unfold addText
  split
  · rw [List.append_nil]
  · rfl

/-- Text that is added in two pieces is added in one. -/
theorem addText_append : addText (addText nodes value) next = addText nodes (value ++ next) := by
  cases nodes with
  | nil =>
    cases value with
    | nil => rfl
    | cons unit value => rfl
  | cons node nodes =>
    cases node with
    | text before => exact congrArg (fun text => Dom.text text :: nodes) (List.append_assoc ..)
    | element tag attributes children =>
      cases value with
      | nil => rfl
      | cons unit value => rfl

theorem joinOnto_cons (node : Dom) (rest : List Dom) :
    joinOnto nodes (node :: rest) = joinOnto (joinOnto nodes [node]) rest := by
  cases node with
  | text value => simp only [joinOnto]
  | element tag attributes children => simp only [joinOnto]

end Joining

section Names

def isLetter (unit : Nat) : Bool :=
  ('a'.toNat ≤ unit && unit ≤ 'z'.toNat) || ('A'.toNat ≤ unit && unit ≤ 'Z'.toNat)

def isDigit (unit : Nat) : Bool :=
  '0'.toNat ≤ unit && unit ≤ '9'.toNat

/-- What a name is made of after its first letter. -/
def isNameUnit (unit : Nat) : Bool :=
  isLetter unit || isDigit unit || unit == '-'.toNat || unit == '_'.toNat ||
    unit == ':'.toNat || unit == '.'.toNat

/-- A plain name of a tag or an attribute. -/
def Plain : Units → Prop
  | [] => False
  | first :: rest => isLetter first = true ∧ ∀ unit ∈ rest, isNameUnit unit = true

instance : DecidablePred Plain
  | [] => inferInstanceAs (Decidable False)
  | _ :: _ => inferInstanceAs (Decidable (_ ∧ _))

end Names

section References

/-- The number that decimal digits write. -/
def decimal (digits : Units) : Nat :=
  digits.foldl (fun number digit => 10 * number + (digit - '0'.toNat)) 0

/-- What a character reference stands for, its name between the ampersand and the semicolon. -/
def referred (name : Units) : Option Nat :=
  if name = units "amp" then some '&'.toNat
  else if name = units "lt" then some '<'.toNat
  else if name = units "gt" then some '>'.toNat
  else if name = units "quot" then some '"'.toNat
  else if name = units "apos" then some '\''.toNat
  else match name with
    | [] => none
    | mark :: digits =>
      if mark = '#'.toNat ∧ digits ≠ [] ∧ digits.all isDigit then some (decimal digits) else none

/-- What is read of a reference that a semicolon ends; one that is not known is text. -/
def resolved (name : Units) : Units :=
  match referred name with
  | some unit => [unit]
  | none => '&'.toNat :: name ++ [';'.toNat]

def isReferenceUnit (unit : Nat) : Bool :=
  isLetter unit || isDigit unit || unit == '#'.toNat

end References

section Reading

/-- Where in a tag or in text the reader is, with what it has read of it. -/
inductive Mode
  | data
  | reference (name : Units)
  | tagOpen
  | tagName (tag : Units)
  | endTag (tag : Units)
  | beforeName (tag : Units) (attributes : List (Units × Units))
  | attributeName (tag : Units) (attributes : List (Units × Units)) (name : Units)
  | beforeValue (tag : Units) (attributes : List (Units × Units)) (name : Units)
  | value (tag : Units) (attributes : List (Units × Units)) (name value : Units)
  | valueReference (tag : Units) (attributes : List (Units × Units)) (name value : Units)
      (reference : Units)
  | afterValue (tag : Units) (attributes : List (Units × Units))
deriving Repr

/-- An element that is not closed yet, with the nodes before it, the last first. -/
structure Unclosed where
  tag : Units
  attributes : List (Units × Units)
  before : List Dom
deriving Repr

/-- A reader: its mode, the nodes read so far inside the element that is open, the last first, and
the elements around them. -/
structure Reader where
  mode : Mode
  nodes : List Dom
  unclosed : List Unclosed
deriving Repr

variable (isVoid : Units → Bool)

/-- An attribute that was given before is not given again. -/
def addAttribute (attributes : List (Units × Units)) (name value : Units) :
    List (Units × Units) :=
  if attributes.any (·.1 = name) then attributes else attributes ++ [(name, value)]

/-- The end of a start tag: a void element has no children, another is open from here. -/
def opened (r : Reader) (tag : Units) (attributes : List (Units × Units)) : Reader :=
  if isVoid tag then { r with mode := .data, nodes := .element tag attributes [] :: r.nodes }
  else ⟨.data, [], ⟨tag, attributes, r.nodes⟩ :: r.unclosed⟩

/-- The end of an end tag: the one of a void element is passed over, another closes the element
that is open, and has its name. -/
def closed (r : Reader) (tag : Units) : Option Reader :=
  if isVoid tag then some { r with mode := .data }
  else match r.unclosed with
    | [] => none
    | last :: unclosed =>
      if last.tag = tag then
        some ⟨.data, .element tag last.attributes r.nodes.reverse :: last.before, unclosed⟩
      else none

/-- A unit of text, outside a tag. -/
def readData (r : Reader) (unit : Nat) : Reader :=
  if unit = '<'.toNat then { r with mode := .tagOpen }
  else if unit = '&'.toNat then { r with mode := .reference [] }
  else { r with mode := .data, nodes := addText r.nodes [unit] }

/-- A unit of a quoted value. -/
def readValue (r : Reader) (tag : Units) (attributes : List (Units × Units)) (name value : Units)
    (unit : Nat) : Reader :=
  if unit = '"'.toNat then { r with mode := .afterValue tag (addAttribute attributes name value) }
  else if unit = '&'.toNat then { r with mode := .valueReference tag attributes name value [] }
  else { r with mode := .value tag attributes name (value ++ [unit]) }

/-- A unit after a tag's name, or after an attribute. -/
def leave (r : Reader) (tag : Units) (attributes : List (Units × Units)) (unit : Nat) :
    Option Reader :=
  if unit = ' '.toNat then some { r with mode := .beforeName tag attributes }
  else if unit = '>'.toNat then some (opened isVoid r tag attributes)
  else none

/-- One unit of markup; what is no tag, void element, bare or double-quoted attribute or character
reference is not read. -/
def read (r : Reader) (unit : Nat) : Option Reader :=
  match r.mode with
  | .data => some (readData r unit)
  | .reference name =>
    if unit = ';'.toNat then
      some { r with mode := .data, nodes := addText r.nodes (resolved name) }
    else if isReferenceUnit unit then some { r with mode := .reference (name ++ [unit]) }
    else some (readData { r with nodes := addText r.nodes ('&'.toNat :: name) } unit)
  | .tagOpen =>
    if unit = '/'.toNat then some { r with mode := .endTag [] }
    else if isLetter unit then some { r with mode := .tagName [unit] }
    else none
  | .tagName tag =>
    if isNameUnit unit then some { r with mode := .tagName (tag ++ [unit]) }
    else leave isVoid r tag [] unit
  | .endTag tag =>
    if unit = '>'.toNat then closed isVoid r tag
    else if isNameUnit unit then some { r with mode := .endTag (tag ++ [unit]) }
    else none
  | .beforeName tag attributes =>
    if isLetter unit then some { r with mode := .attributeName tag attributes [unit] }
    else if unit = ' '.toNat then some r
    else if unit = '>'.toNat then some (opened isVoid r tag attributes)
    else none
  | .attributeName tag attributes name =>
    if isNameUnit unit then some { r with mode := .attributeName tag attributes (name ++ [unit]) }
    else if unit = '='.toNat then some { r with mode := .beforeValue tag attributes name }
    else leave isVoid r tag (addAttribute attributes name []) unit
  | .beforeValue tag attributes name =>
    if unit = '"'.toNat then some { r with mode := .value tag attributes name [] } else none
  | .value tag attributes name value => some (readValue r tag attributes name value unit)
  | .valueReference tag attributes name value reference =>
    if unit = ';'.toNat then
      some { r with mode := .value tag attributes name (value ++ resolved reference) }
    else if isReferenceUnit unit then
      some { r with mode := .valueReference tag attributes name value (reference ++ [unit]) }
    else some (readValue r tag attributes name (value ++ '&'.toNat :: reference) unit)
  | .afterValue tag attributes => leave isVoid r tag attributes unit

def readAll (r : Reader) (text : Units) : Option Reader :=
  text.foldlM (read isVoid) r

/-- The nodes markup holds: it ends outside every tag, with every element closed. -/
def parse (text : Units) : Option (List Dom) :=
  match readAll isVoid ⟨.data, [], []⟩ text with
  | some ⟨.data, nodes, []⟩ => some nodes.reverse
  | some ⟨.reference name, nodes, []⟩ => some (addText nodes ('&'.toNat :: name)).reverse
  | _ => none

end Reading

section Pieces

variable {isVoid : Units → Bool} {nodes : List Dom} {unclosed : List Unclosed}
  {tag name value rest : Units} {attributes : List (Units × Units)} {r : Reader}

theorem readAll_append (text next : Units) : readAll isVoid r (text ++ next) =
    (readAll isVoid r text).bind fun r => readAll isVoid r next := by
  unfold readAll
  rw [List.foldlM_append]
  rfl

/-- Two pieces are read one after the other. -/
theorem readAll_step {text next : Units} {between last : Reader}
    (first : readAll isVoid r text = some between)
    (second : readAll isVoid between next = some last) :
    readAll isVoid r (text ++ next) = some last := by
  rw [readAll_append, first]
  exact second

theorem readAll_cons (unit : Nat) (text : Units) : readAll isVoid r (unit :: text) =
    (read isVoid r unit).bind fun r => readAll isVoid r text := by
  unfold readAll
  rw [List.foldlM_cons]
  rfl

theorem isNameUnit_of_letter {unit : Nat} (letter : isLetter unit = true) :
    isNameUnit unit = true := by
  simp [isNameUnit, letter]

theorem isNameUnit_ne {unit : Nat} (named : isNameUnit unit = true) {mark : Char}
    (other : isNameUnit mark.toNat = false) : unit ≠ mark.toNat := by
  intro same
  rw [same, other] at named
  cases named

theorem isLetter_ne {unit : Nat} (letter : isLetter unit = true) {mark : Char}
    (other : isLetter mark.toNat = false) : unit ≠ mark.toNat := by
  intro same
  rw [same, other] at letter
  cases letter

theorem read_tagName (named : ∀ unit ∈ rest, isNameUnit unit = true) :
    readAll isVoid ⟨.tagName tag, nodes, unclosed⟩ rest =
      some ⟨.tagName (tag ++ rest), nodes, unclosed⟩ := by
  induction rest generalizing tag with
  | nil => simp [readAll]
  | cons unit rest ih =>
    obtain ⟨first, later⟩ := List.forall_mem_cons.mp named
    rw [readAll_cons]
    simp only [read, first, if_true, Option.bind_some]
    rw [ih later, List.append_assoc]
    rfl

theorem read_attributeName (named : ∀ unit ∈ rest, isNameUnit unit = true) :
    readAll isVoid ⟨.attributeName tag attributes name, nodes, unclosed⟩ rest =
      some ⟨.attributeName tag attributes (name ++ rest), nodes, unclosed⟩ := by
  induction rest generalizing name with
  | nil => simp [readAll]
  | cons unit rest ih =>
    obtain ⟨first, later⟩ := List.forall_mem_cons.mp named
    rw [readAll_cons]
    simp only [read, first, if_true, Option.bind_some]
    rw [ih later, List.append_assoc]
    rfl

theorem read_endName (named : ∀ unit ∈ rest, isNameUnit unit = true) :
    readAll isVoid ⟨.endTag tag, nodes, unclosed⟩ rest =
      some ⟨.endTag (tag ++ rest), nodes, unclosed⟩ := by
  induction rest generalizing tag with
  | nil => simp [readAll]
  | cons unit rest ih =>
    obtain ⟨first, later⟩ := List.forall_mem_cons.mp named
    rw [readAll_cons]
    have inside := isNameUnit_ne first (show isNameUnit '>'.toNat = false from rfl)
    simp only [read, inside, first, if_true, if_false, Option.bind_some]
    rw [ih later, List.append_assoc]
    rfl

/-- A plain name behind `<` is a tag's. -/
theorem read_start (plain : Plain name) :
    readAll isVoid ⟨.data, nodes, unclosed⟩ (units "<" ++ name) =
      some ⟨.tagName name, nodes, unclosed⟩ := by
  cases name with
  | nil => exact plain.elim
  | cons first rest =>
    obtain ⟨letter, named⟩ := plain
    have mark : readAll isVoid ⟨.data, nodes, unclosed⟩ (units "<") =
        some ⟨.tagOpen, nodes, unclosed⟩ := rfl
    refine readAll_step mark ?_
    rw [readAll_cons]
    have inside := isLetter_ne letter (show isLetter '/'.toNat = false from rfl)
    simp only [read, inside, letter, if_true, if_false, Option.bind_some]
    exact read_tagName named

/-- A plain name behind a blank is an attribute's. -/
theorem read_name (plain : Plain name) :
    readAll isVoid ⟨.beforeName tag attributes, nodes, unclosed⟩ name =
      some ⟨.attributeName tag attributes name, nodes, unclosed⟩ := by
  cases name with
  | nil => exact plain.elim
  | cons first rest =>
    obtain ⟨letter, named⟩ := plain
    rw [readAll_cons]
    simp only [read, letter, if_true, Option.bind_some]
    exact read_attributeName named

theorem plain_named (plain : Plain name) : ∀ unit ∈ name, isNameUnit unit = true := by
  cases name with
  | nil => exact plain.elim
  | cons first rest =>
    exact List.forall_mem_cons.mpr ⟨isNameUnit_of_letter plain.1, plain.2⟩

/-- An end tag is read to its end. -/
theorem read_end (plain : Plain tag) :
    readAll isVoid ⟨.data, nodes, unclosed⟩ (units "</" ++ tag ++ units ">") =
      closed isVoid ⟨.endTag tag, nodes, unclosed⟩ tag := by
  have mark : readAll isVoid ⟨.data, nodes, unclosed⟩ (units "</") =
      some ⟨.endTag [], nodes, unclosed⟩ := rfl
  have name := readAll_step mark (read_endName (plain_named plain))
  rw [List.nil_append] at name
  rw [readAll_append, name, Option.bind_some]
  change readAll isVoid _ ['>'.toNat] = _
  rw [readAll_cons]
  simp only [read, if_true]
  cases closed isVoid ⟨.endTag tag, nodes, unclosed⟩ tag with
  | none => rfl
  | some r => rfl

/-- A mode in which a tag has been read with its attributes so far, and the tag may end. -/
inductive Heads (tag : Units) : List (Units × Units) → Mode → Prop
  | name : Heads tag [] (.tagName tag)
  | bare (attributes : List (Units × Units)) (name : Units) :
      Heads tag (addAttribute attributes name []) (.attributeName tag attributes name)
  | quoted (attributes : List (Units × Units)) : Heads tag attributes (.afterValue tag attributes)

theorem Heads.leaves {mode : Mode} (heads : Heads tag attributes mode) {unit : Nat}
    (other : isNameUnit unit = false) (other' : unit ≠ '='.toNat) :
    read isVoid ⟨mode, nodes, unclosed⟩ unit =
      leave isVoid ⟨mode, nodes, unclosed⟩ tag attributes unit := by
  cases heads with
  | name => simp only [read, other, Bool.false_eq_true, if_false]
  | bare attributes name => simp only [read, other, other', Bool.false_eq_true, if_false]
  | quoted => rfl

theorem Heads.blank {mode : Mode} (heads : Heads tag attributes mode) :
    readAll isVoid ⟨mode, nodes, unclosed⟩ (units " ") =
      some ⟨.beforeName tag attributes, nodes, unclosed⟩ := by
  change readAll isVoid _ [' '.toNat] = _
  rw [readAll_cons, heads.leaves rfl (by decide)]
  rfl

/-- The end of a start tag opens the element, or is the whole of it. -/
theorem Heads.ends {mode : Mode} (heads : Heads tag attributes mode) :
    readAll isVoid ⟨mode, nodes, unclosed⟩ (units ">") =
      some (opened isVoid ⟨.data, nodes, unclosed⟩ tag attributes) := by
  change readAll isVoid _ ['>'.toNat] = _
  rw [readAll_cons, heads.leaves rfl (by decide)]
  have ended : leave isVoid ⟨mode, nodes, unclosed⟩ tag attributes '>'.toNat =
      some (opened isVoid ⟨mode, nodes, unclosed⟩ tag attributes) := rfl
  rw [ended]
  unfold opened
  split <;> rfl

theorem addAttribute_new (new : name ∉ attributes.map Prod.fst) :
    addAttribute attributes name value = attributes ++ [(name, value)] := by
  unfold addAttribute
  rw [if_neg]
  intro there
  obtain ⟨entry, mem, same⟩ := List.any_eq_true.mp there
  exact new (List.mem_map.mpr ⟨entry, mem, of_decide_eq_true same⟩)

end Pieces

section Outlines

/-- The elements of a document with the names of their attributes, without a text or a value. -/
inductive Outline
  | element (tag : Units) (names : List Units) (children : List Outline)

def outlines : List Dom → List Outline
  | [] => []
  | .text _ :: nodes => outlines nodes
  | .element tag attributes children :: nodes =>
    .element tag (attributes.map Prod.fst) (outlines children) :: outlines nodes

variable {nodes rest : List Dom}

theorem outlines_append : outlines (nodes ++ rest) = outlines nodes ++ outlines rest := by
  induction nodes with
  | nil => simp [outlines]
  | cons node nodes ih =>
    cases node with
    | text value => simp only [List.cons_append, outlines, ih]
    | element tag attributes children => simp only [List.cons_append, outlines, ih]

theorem outlines_addText (value : Units) :
    outlines (addText nodes value).reverse = outlines nodes.reverse := by
  have text : ∀ before, outlines [Dom.text before] = [] := fun _ => by simp [outlines]
  unfold addText
  split
  · rw [List.reverse_cons, List.reverse_cons, outlines_append, outlines_append, text, text]
  · split
    · rfl
    · rw [List.reverse_cons, outlines_append, text, List.append_nil]

/-- Joining texts changes no element. -/
theorem outlines_joinOnto :
    outlines (joinOnto nodes rest).reverse = outlines nodes.reverse ++ outlines rest := by
  induction nodes, rest using joinOnto.induct with
  | case1 nodes => simp [joinOnto, outlines]
  | case2 nodes value rest ih =>
    simp only [joinOnto, outlines]
    rw [ih, outlines_addText]
  | case3 nodes tag attributes children rest inner ih =>
    have inside : outlines (joinOnto [] children).reverse = outlines children := by
      simpa [outlines] using inner
    simp only [joinOnto, outlines]
    rw [ih, List.reverse_cons, outlines_append]
    simp only [outlines, inside, List.append_assoc, List.cons_append, List.nil_append]

theorem outlines_joined : outlines (joined nodes) = outlines nodes := by
  have all := @outlines_joinOnto [] nodes
  simpa [joined, outlines] using all

end Outlines

end Telga.Library.Markup
