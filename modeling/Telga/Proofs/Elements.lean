import Telga.Application.Elements

namespace Telga.Proofs.Elements
open Library Library.Markup Application.Elements

variable {ν : Type} {isVoid : Units → Bool} {numberText : ν → Units} {nodes : List Dom}
  {unclosed : List Unclosed} {tag key : Units} {attributes : List (Units × Units)}

section Escaping

/-- What one unit is escaped to. -/
def escaped (unit : Nat) : Units :=
  if unit = '&'.toNat then units "&amp;"
  else if unit = '<'.toNat then units "&lt;"
  else if unit = '>'.toNat then units "&gt;"
  else if unit = '"'.toNat then units "&quot;"
  else if unit = '\''.toNat then units "&#39;"
  else [unit]

/-- A replacement after others is made in what each unit became. -/
theorem replaced_flatMap (mark : Char) (text : String) (become : Nat → Units) (value : Units) :
    replaced mark text (value.flatMap become) =
      value.flatMap fun unit => replaced mark text (become unit) :=
  List.flatMap_assoc ..

theorem replaced_other {mark : Char} (text : String) {unit : Nat} (other : unit ≠ mark.toNat) :
    replaced mark text [unit] = [unit] := by
  unfold replaced
  rw [List.flatMap_singleton, if_neg other]

/-- The ampersand is replaced first, so that no reference is escaped again. -/
theorem escapeText_eq (value : Units) : escapeText value = value.flatMap escaped := by
  have first : replaced '&' "&amp;" value =
      value.flatMap fun unit => if unit = '&'.toNat then units "&amp;" else [unit] := rfl
  simp only [escapeText, first, replaced_flatMap]
  congr 1
  funext unit
  unfold escaped
  by_cases amp : unit = '&'.toNat
  · rw [if_pos amp, if_pos amp]
    rfl
  rw [if_neg amp, if_neg amp]
  by_cases lt : unit = '<'.toNat
  · rw [lt]
    rfl
  rw [if_neg lt, replaced_other "&lt;" lt]
  by_cases gt : unit = '>'.toNat
  · rw [gt]
    rfl
  rw [if_neg gt, replaced_other "&gt;" gt]
  by_cases quot : unit = '"'.toNat
  · rw [quot]
    rfl
  rw [if_neg quot, replaced_other "&quot;" quot]
  by_cases apos : unit = '\''.toNat
  · rw [apos]
    rfl
  rw [if_neg apos, replaced_other "&#39;" apos]

/-- An escaped unit is read as itself in text. -/
theorem read_escaped (unit : Nat) : readAll isVoid ⟨.data, nodes, unclosed⟩ (escaped unit) =
    some ⟨.data, addText nodes [unit], unclosed⟩ := by
  unfold escaped
  by_cases amp : unit = '&'.toNat
  · rw [if_pos amp, amp]
    rfl
  rw [if_neg amp]
  by_cases lt : unit = '<'.toNat
  · rw [if_pos lt, lt]
    rfl
  rw [if_neg lt]
  by_cases gt : unit = '>'.toNat
  · rw [if_pos gt, gt]
    rfl
  rw [if_neg gt]
  by_cases quot : unit = '"'.toNat
  · rw [if_pos quot, quot]
    rfl
  rw [if_neg quot]
  by_cases apos : unit = '\''.toNat
  · rw [if_pos apos, apos]
    rfl
  rw [if_neg apos, readAll_cons]
  simp only [Markup.read, readData, lt, amp, if_false, Option.bind_some]
  rfl

/-- Escaped text is read as the text, whatever it is. -/
theorem read_text (value : Units) :
    readAll isVoid ⟨.data, nodes, unclosed⟩ (escapeText value) =
      some ⟨.data, addText nodes value, unclosed⟩ := by
  rw [escapeText_eq]
  induction value generalizing nodes with
  | nil =>
    rw [addText_nil]
    rfl
  | cons unit value ih =>
    rw [List.flatMap_cons]
    refine readAll_step (read_escaped unit) ?_
    rw [ih, addText_append]
    rfl

/-- An escaped unit is read as itself between quotation marks, too. -/
theorem read_escaped_value (value : Units) (unit : Nat) :
    readAll isVoid ⟨.value tag attributes key value, nodes, unclosed⟩ (escaped unit) =
      some ⟨.value tag attributes key (value ++ [unit]), nodes, unclosed⟩ := by
  unfold escaped
  by_cases amp : unit = '&'.toNat
  · rw [if_pos amp, amp]
    rfl
  rw [if_neg amp]
  by_cases lt : unit = '<'.toNat
  · rw [if_pos lt, lt]
    rfl
  rw [if_neg lt]
  by_cases gt : unit = '>'.toNat
  · rw [if_pos gt, gt]
    rfl
  rw [if_neg gt]
  by_cases quot : unit = '"'.toNat
  · rw [if_pos quot, quot]
    rfl
  rw [if_neg quot]
  by_cases apos : unit = '\''.toNat
  · rw [if_pos apos, apos]
    rfl
  rw [if_neg apos, readAll_cons]
  simp only [Markup.read, readValue, quot, amp, if_false, Option.bind_some]
  rfl

theorem read_value (before value : Units) :
    readAll isVoid ⟨.value tag attributes key before, nodes, unclosed⟩ (escapeText value) =
      some ⟨.value tag attributes key (before ++ value), nodes, unclosed⟩ := by
  rw [escapeText_eq]
  induction value generalizing before with
  | nil =>
    rw [List.append_nil]
    rfl
  | cons unit value ih =>
    rw [List.flatMap_cons]
    refine readAll_step (read_escaped_value before unit) ?_
    rw [ih, List.append_assoc]
    rfl

end Escaping

section Values

/-- The text an attribute is set to, unless it is left out. -/
def shown (numberText : ν → Units) : AttributeValue ν → Option Units
  | .undefined | .flag false => none
  | .flag true => some []
  | .text value => some value
  | .number value => some (numberText value)

def isShown : AttributeValue ν → Bool
  | .undefined | .flag false => false
  | .flag true | .text _ | .number _ => true

/-- The attributes that are kept of an object's entries, with their texts. -/
def shownAll (numberText : ν → Units) (entries : Entries Units (AttributeValue ν)) :
    List (Units × Units) :=
  entries.filterMap fun (key, value) => (shown numberText value).map fun text => (key, text)

theorem shownAll_cons {value : AttributeValue ν} {entries : Entries Units (AttributeValue ν)} :
    shownAll numberText ((key, value) :: entries) =
      ((shown numberText value).map fun text => (key, text)).toList ++
        shownAll numberText entries := by
  unfold shownAll
  cases text : shown numberText value with
  | none | some text' => simp [text]

theorem setAttribute_shown (attributes : Entries Units Units) (value : AttributeValue ν) :
    setAttribute numberText attributes key value =
      match shown numberText value with
      | none => attributes
      | some text => attributes.put key text := by
  cases value with
  | flag value => cases value <;> rfl
  | _ => rfl

theorem put_new {attributes : Entries Units Units} {text : Units}
    (new : key ∉ attributes.map Prod.fst) : attributes.put key text = attributes ++ [(key, text)] := by
  unfold Entries.put
  rw [if_neg]
  intro there
  obtain ⟨entry, mem, same⟩ := List.any_eq_true.mp there
  exact new (List.mem_map.mpr ⟨entry, mem, of_decide_eq_true same⟩)

/-- Attributes whose names differ from those that are set are set behind them. -/
theorem setAttributes_from {entries : Entries Units (AttributeValue ν)}
    {attributes : Entries Units Units} (single : Entries.Single entries)
    (new : ∀ name ∈ entries.map Prod.fst, name ∉ attributes.map Prod.fst) :
    entries.foldl (fun attributes (key, value) => setAttribute numberText attributes key value)
      attributes = attributes ++ shownAll numberText entries := by
  induction entries generalizing attributes with
  | nil => exact (List.append_nil _).symm
  | cons entry entries ih =>
    obtain ⟨key, value⟩ := entry
    obtain ⟨apart, single⟩ := List.nodup_cons.mp single
    obtain ⟨fresh, later⟩ := List.forall_mem_cons.mp new
    rw [List.foldl_cons]
    change List.foldl _ (setAttribute numberText attributes key value) entries = _
    rw [setAttribute_shown]
    cases text : shown numberText value with
    | none =>
      change List.foldl _ attributes entries = _
      rw [ih single later, shownAll_cons, text]
      rfl
    | some text' =>
      change List.foldl _ (attributes.put key text') entries = _
      rw [put_new fresh, ih single, shownAll_cons, text, List.append_assoc]
      · rfl
      · intro name listed there
        rw [List.map_append] at there
        rcases List.mem_append.mp there with before | last
        · exact later name listed before
        · rw [List.mem_singleton.mp last] at listed
          exact apart listed

theorem setAttributes_shown (attrs : Attributes ν) :
    setAttributes numberText attrs.entries = shownAll numberText attrs.entries := by
  have all := @setAttributes_from ν numberText attrs.entries [] attrs.single
    fun _ _ none => by cases none
  exact all

/-- A quoted value is read whole. -/
theorem read_quoted (value : Units) (new : key ∉ attributes.map Prod.fst) :
    readAll isVoid ⟨.attributeName tag attributes key, nodes, unclosed⟩
        (units "=\"" ++ escapeText value ++ units "\"") =
      some ⟨.afterValue tag (attributes ++ [(key, value)]), nodes, unclosed⟩ := by
  have mark : readAll isVoid ⟨.attributeName tag attributes key, nodes, unclosed⟩ (units "=\"") =
      some ⟨.value tag attributes key [], nodes, unclosed⟩ := rfl
  refine readAll_step (readAll_step mark (read_value [] value)) ?_
  rw [List.nil_append, ← addAttribute_new new]
  rfl

/-- An attribute is read as it is set, and leaves the tag where the next may follow. -/
theorem read_attribute {mode : Mode} (heads : Heads tag attributes mode) (plain : Plain key)
    (new : key ∉ attributes.map Prod.fst) (value : AttributeValue ν) :
    ∃ mode', readAll isVoid ⟨mode, nodes, unclosed⟩ (attributeText numberText key value) =
        some ⟨mode', nodes, unclosed⟩ ∧
      Heads tag (attributes ++ ((shown numberText value).map fun text => (key, text)).toList)
        mode' := by
  have blank : readAll isVoid ⟨mode, nodes, unclosed⟩ (units " ") =
      some ⟨.beforeName tag attributes, nodes, unclosed⟩ := heads.blank
  have named := readAll_step blank (read_name plain)
  have quoted : ∀ text, readAll isVoid ⟨mode, nodes, unclosed⟩
      (units " " ++ key ++ units "=\"" ++ escapeText text ++ units "\"") =
        some ⟨.afterValue tag (attributes ++ [(key, text)]), nodes, unclosed⟩ := by
    intro text
    have whole := readAll_step named (@read_quoted isVoid nodes unclosed tag key attributes text new)
    simpa only [List.append_assoc] using whole
  cases value with
  | undefined => exact ⟨mode, rfl, by simpa [shown] using heads⟩
  | text value => exact ⟨_, quoted value, .quoted _⟩
  | number value => exact ⟨_, quoted (numberText value), .quoted _⟩
  | flag value =>
    cases value with
    | false => exact ⟨mode, rfl, by simpa [shown] using heads⟩
    | true =>
      refine ⟨_, named, ?_⟩
      have bare : Heads tag (addAttribute attributes key []) (.attributeName tag attributes key) :=
        .bare attributes key
      rw [addAttribute_new new] at bare
      exact bare

/-- The attributes of an element are read as they are set. -/
theorem read_attributes {entries : Entries Units (AttributeValue ν)} {mode : Mode}
    (heads : Heads tag attributes mode) (single : Entries.Single entries)
    (plain : ∀ entry ∈ entries, Plain entry.1)
    (new : ∀ name ∈ entries.map Prod.fst, name ∉ attributes.map Prod.fst) :
    ∃ mode', readAll isVoid ⟨mode, nodes, unclosed⟩ (attributesText numberText entries) =
        some ⟨mode', nodes, unclosed⟩ ∧
      Heads tag (attributes ++ shownAll numberText entries) mode' := by
  induction entries generalizing attributes mode with
  | nil => exact ⟨mode, rfl, by simpa [shownAll] using heads⟩
  | cons entry entries ih =>
    obtain ⟨key, value⟩ := entry
    obtain ⟨apart, single⟩ := List.nodup_cons.mp single
    obtain ⟨first, others⟩ := List.forall_mem_cons.mp plain
    obtain ⟨fresh, later⟩ := List.forall_mem_cons.mp new
    obtain ⟨between, read, heads⟩ := @read_attribute ν isVoid numberText nodes unclosed tag key
      attributes mode heads first fresh value
    have apart' : ∀ name ∈ entries.map Prod.fst, name ∉
        (attributes ++ ((shown numberText value).map fun text => (key, text)).toList).map
          Prod.fst := by
      intro name listed there
      rw [List.map_append] at there
      rcases List.mem_append.mp there with before | last
      · exact later name listed before
      · cases text : shown numberText value with
        | none =>
          rw [text] at last
          cases last
        | some text' =>
          rw [text] at last
          rw [List.mem_singleton.mp last] at listed
          exact apart listed
    obtain ⟨mode', rest, heads⟩ := ih heads single others apart'
    refine ⟨mode', readAll_step read rest, ?_⟩
    have whole : attributes ++ shownAll numberText ((key, value) :: entries) =
        attributes ++ ((shown numberText value).map fun text => (key, text)).toList ++
          shownAll numberText entries := by
      rw [List.append_assoc, shownAll_cons]
    rw [whole]
    exact heads

end Values

section Trees

mutual

/-- A tree of plain names, whose void elements have no children. -/
def PlainTree (isVoid : Units → Bool) : Node ν → Prop
  | .text _ => True
  | .el tag attrs children =>
    Plain tag ∧ (∀ entry ∈ attrs.entries, Plain entry.1) ∧
      (isVoid tag = true → children = []) ∧ PlainTrees isVoid children

def PlainTrees (isVoid : Units → Bool) : List (Node ν) → Prop
  | [] => True
  | node :: nodes => PlainTree isVoid node ∧ PlainTrees isVoid nodes

end

/-- A start tag is read, with its attributes. -/
theorem read_opened (attrs : Attributes ν) (plain : Plain tag)
    (names : ∀ entry ∈ attrs.entries, Plain entry.1) :
    readAll isVoid ⟨.data, nodes, unclosed⟩
        (units "<" ++ tag ++ attributesText numberText attrs.entries ++ units ">") =
      some (opened isVoid ⟨.data, nodes, unclosed⟩ tag
        (setAttributes numberText attrs.entries)) := by
  obtain ⟨mode, read, heads⟩ := @read_attributes ν isVoid numberText nodes unclosed tag []
    attrs.entries _ .name attrs.single names fun _ _ none => by cases none
  rw [List.nil_append] at heads
  rw [setAttributes_shown]
  exact readAll_step (readAll_step (read_start plain) read) heads.ends

mutual

/-- A tree's markup is read as what the tree builds. -/
theorem read_node (known : ∀ tag ∈ voidTags, isVoid tag = true) :
    ∀ (node : Node ν), PlainTree isVoid node → ∀ nodes unclosed,
      readAll isVoid ⟨.data, nodes, unclosed⟩ (renderToHtml numberText node) =
        some ⟨.data, joinOnto nodes [mount numberText node], unclosed⟩
  | .text value, _, nodes, unclosed => by
    simp only [renderToHtml, mount, joinOnto]
    exact read_text value
  | .el tag attrs children, plain, nodes, unclosed => by
    simp only [PlainTree] at plain
    obtain ⟨name, names, childless, inner⟩ := plain
    have start := @read_opened ν isVoid numberText nodes unclosed tag attrs name names
    simp only [renderToHtml, mount, joinOnto]
    by_cases void : isVoid tag = true
    · -- a void element is read whole with its start tag, and an end tag is passed over
      have none := childless void
      subst none
      clear childless
      have whole : opened isVoid ⟨.data, nodes, unclosed⟩ tag
            (setAttributes numberText attrs.entries) =
          ⟨.data, .element tag (setAttributes numberText attrs.entries) [] :: nodes,
            unclosed⟩ := by
        simp only [opened, void, if_true]
      have childless : (joinOnto [] (mountAll numberText ([] : List (Node ν)))).reverse = [] := by
        simp only [mountAll, joinOnto, List.reverse_nil]
      rw [whole] at start
      rw [childless]
      split
      · exact start
      · rw [renderAll, List.append_nil]
        refine readAll_step start ?_
        rw [read_end name]
        simp only [closed, void, if_true]
    · have notVoid : tag ∉ voidTags := fun listed => void (known tag listed)
      rw [if_neg notVoid]
      have within : opened isVoid ⟨.data, nodes, unclosed⟩ tag
            (setAttributes numberText attrs.entries) =
          ⟨.data, [], ⟨tag, setAttributes numberText attrs.entries, nodes⟩ :: unclosed⟩ := by
        simp only [opened, void]
        rfl
      rw [within] at start
      refine readAll_step (readAll_step start (read_nodes known children inner _ _)) ?_
      rw [read_end name]
      simp only [closed, void, if_true]
      rfl

theorem read_nodes (known : ∀ tag ∈ voidTags, isVoid tag = true) :
    ∀ (list : List (Node ν)), PlainTrees isVoid list → ∀ nodes unclosed,
      readAll isVoid ⟨.data, nodes, unclosed⟩ (renderAll numberText list) =
        some ⟨.data, joinOnto nodes (mountAll numberText list), unclosed⟩
  | [], _, nodes, unclosed => by
    simp only [renderAll, mountAll, joinOnto]
    rfl
  | node :: list, plain, nodes, unclosed => by
    simp only [PlainTrees] at plain
    simp only [renderAll, mountAll]
    rw [joinOnto_cons]
    exact readAll_step (read_node known node plain.1 nodes unclosed)
      (read_nodes known list plain.2 _ unclosed)

end

mutual

/-- The elements of a tree with the names of the attributes that are not left out: neither the
texts nor the values. -/
def outline : Node ν → List Outline
  | .text _ => []
  | .el tag attrs children =>
    [.element tag ((attrs.entries.filter fun entry => isShown entry.2).map Prod.fst)
      (outlineAll children)]

def outlineAll : List (Node ν) → List Outline
  | [] => []
  | node :: nodes => outline node ++ outlineAll nodes

end

theorem shownAll_names (entries : Entries Units (AttributeValue ν)) :
    (shownAll numberText entries).map Prod.fst =
      (entries.filter fun entry => isShown entry.2).map Prod.fst := by
  induction entries with
  | nil => rfl
  | cons entry entries ih =>
    obtain ⟨key, value⟩ := entry
    rw [shownAll_cons, List.map_append, ih]
    cases value with
    | undefined => rfl
    | text value => rfl
    | number value => rfl
    | flag value => cases value <;> rfl

mutual

/-- What a tree builds has the elements and the attributes of the tree. -/
theorem outline_mount : ∀ node : Node ν, outlines [mount numberText node] = outline node
  | .text value => by simp only [mount, outlines, outline]
  | .el tag attrs children => by
    simp only [mount, outlines, outline]
    rw [setAttributes_shown, shownAll_names, outline_mountAll children]

theorem outline_mountAll : ∀ list : List (Node ν),
    outlines (mountAll numberText list) = outlineAll list
  | [] => by simp only [mountAll, outlines, outlineAll]
  | node :: list => by
    have first := outline_mount node
    have rest := outline_mountAll list
    simp only [mountAll, outlineAll]
    rw [← List.singleton_append, outlines_append, first, rest]

end

end Trees

/-- Markup is read back as the tree that is mounted, with its elements and attributes whatever the
texts and the values are. -/
theorem rendered_mounted (known : ∀ tag ∈ voidTags, isVoid tag = true) (tree : Node ν)
    (plain : PlainTree isVoid tree) :
    parse isVoid (renderToHtml numberText tree) = some (joined [mount numberText tree]) ∧
      outlines (joined [mount numberText tree]) = outline tree := by
  constructor
  · unfold parse
    rw [read_node known tree plain [] []]
    rfl
  · rw [outlines_joined]
    exact outline_mount tree

/-- The void elements a browser knows. -/
def htmlVoid (tag : Units) : Bool :=
  (["area", "base", "br", "col", "embed", "hr", "img", "input", "link", "meta", "source", "track",
    "wbr"].map units).contains tag

/-- A link whose title and text look like markup, and escaped already. -/
def lookalike : Node Unit :=
  .el (units "a")
    ⟨[(units "title", .text (units "\"><b>&quot;")), (units "hidden", .flag true)], by unfold Entries.Single; decide⟩
    [.text (units "</a>&lt;"), .el (units "br") ⟨[], List.nodup_nil⟩ []]

theorem lookalike_mounted :
    parse htmlVoid (renderToHtml (fun _ => units "0") lookalike) =
        some (joined [mount (fun _ => units "0") lookalike]) ∧
      outlines (joined [mount (fun _ => units "0") lookalike]) = outline lookalike := by
  apply rendered_mounted (by decide)
  simp only [lookalike, PlainTree, PlainTrees, and_true]
  decide

end Telga.Proofs.Elements
