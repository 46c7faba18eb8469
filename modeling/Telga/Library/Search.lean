import Mathlib.Data.List.Infix

namespace Telga.Library

variable {α : Type u} {β : Type v}

/-- Where a pattern first occurs in a list. -/
def indexOf [BEq α] (pattern : List α) : List α → Option Nat
  | [] => if pattern.isEmpty then some 0 else none
  | x :: xs => if pattern.isPrefixOf (x :: xs) then some 0 else (indexOf pattern xs).map (· + 1)

/-- The first of a list's tails that something can be made of, and what is made of it. -/
def firstMatch (matched : List α → Option β) : List α → Option β
  | [] => matched []
  | x :: xs => (matched (x :: xs)).or (firstMatch matched xs)

section Fences

variable {pattern front rest : List α} {x : α}

/-- A pattern without some element occurs before it or not at all. -/
theorem prefix_of_fence (absent : x ∉ pattern) (hit : pattern <+: front ++ x :: rest) :
    pattern <+: front := by
  induction pattern generalizing front with
  | nil => exact List.nil_prefix
  | cons y ys ih =>
    have apart := List.ne_of_not_mem_cons absent
    cases front with
    | nil =>
      have same := (List.cons_prefix_cons.mp hit).1
      exact absurd same.symm apart
    | cons z zs =>
      obtain ⟨same, hit⟩ := List.cons_prefix_cons.mp hit
      rw [same]
      exact List.cons_prefix_cons.mpr ⟨rfl, ih (List.not_mem_of_not_mem_cons absent) hit⟩

/-- Two lists without a pattern, with an element between them that it does not have, are one. -/
theorem not_infix_fenced (absent : x ∉ pattern) (before : ¬ pattern <:+: front)
    (after : ¬ pattern <:+: rest) : ¬ pattern <:+: front ++ x :: rest := by
  induction front with
  | nil =>
    intro hit
    rcases List.infix_cons_iff.mp hit with hit | hit
    · have empty : pattern <+: [] := prefix_of_fence absent hit
      exact before empty.isInfix
    · exact after hit
  | cons y ys ih =>
    have before' : ¬ pattern <:+: ys := fun hit => before (List.infix_cons hit)
    intro hit
    rcases List.infix_cons_iff.mp hit with hit | hit
    · have inside : pattern <+: y :: ys := prefix_of_fence absent hit
      exact before inside.isInfix
    · exact ih before' hit

end Fences

section Search

variable [BEq α] [LawfulBEq α] {pattern front rest : List α} {x : α}

/-- A pattern that is there is found at once. -/
theorem indexOf_here (pattern back : List α) : indexOf pattern (pattern ++ back) = some 0 := by
  cases pattern with
  | nil => cases back <;> rfl
  | cons x xs =>
    have here : (x :: xs).isPrefixOf (x :: xs ++ back) = true :=
      List.isPrefixOf_iff_prefix.mpr (List.prefix_append _ _)
    simp only [List.cons_append] at here ⊢
    rw [indexOf, if_pos here]

/-- What no occurrence starts in is passed over. -/
theorem indexOf_skip (none : ∀ late, late ≠ [] → late <:+ front → ¬ pattern <+: late ++ rest) :
    indexOf pattern (front ++ rest) = (indexOf pattern rest).map (· + front.length) := by
  induction front with
  | nil => simp
  | cons x xs ih =>
    have later := ih fun late some suffix => none late some (suffix.trans (List.suffix_cons x xs))
    have missed : pattern.isPrefixOf (x :: (xs ++ rest)) = false := by
      rw [Bool.eq_false_iff]
      intro hit
      exact none (x :: xs) (List.cons_ne_nil _ _) List.suffix_rfl
        (List.isPrefixOf_iff_prefix.mp hit)
    rw [List.cons_append, indexOf, if_neg (by rw [missed]; exact Bool.false_ne_true), later,
      Option.map_map]
    apply congrArg (Option.map · (indexOf pattern rest))
    funext at'
    simp only [Function.comp, List.length_cons]
    omega

/-- What lacks a pattern's first element is passed over. -/
theorem indexOf_clear (absent : x ∉ front) :
    indexOf (x :: pattern) (front ++ rest) =
      (indexOf (x :: pattern) rest).map (· + front.length) := by
  apply indexOf_skip
  intro late some suffix hit
  cases late with
  | nil => exact some rfl
  | cons y late =>
    have first := (List.cons_prefix_cons.mp hit).1
    have there : x ∈ y :: late := first ▸ List.mem_cons_self
    exact absent (suffix.subset there)

/-- A pattern is found right behind a fence, if it does not occur before. -/
theorem indexOf_fenced (absent : x ∉ pattern) (before : ¬ pattern <:+: front) (back : List α) :
    indexOf pattern (front ++ x :: (pattern ++ back)) = some (front.length + 1) := by
  have skip : indexOf pattern ((front ++ [x]) ++ (pattern ++ back)) =
      (indexOf pattern (pattern ++ back)).map (· + (front ++ [x]).length) := by
    apply indexOf_skip
    intro late some suffix hit
    obtain ⟨early, split⟩ := suffix
    rcases List.eq_nil_or_concat late with rfl | ⟨late', y, rfl⟩
    · exact some rfl
    · have ends : early ++ late' = front ∧ y = x := by
        have same : (early ++ late') ++ [y] = front ++ [x] := by simpa using split
        have both := List.append_inj' same rfl
        exact ⟨both.1, by simpa using both.2⟩
      obtain ⟨rfl, rfl⟩ := ends
      rw [List.concat_eq_append, List.append_assoc] at hit
      have inside := prefix_of_fence absent hit
      exact before (inside.isInfix.trans (List.suffix_append _ _).isInfix)
  rw [indexOf_here] at skip
  simpa using skip

end Search

/-- The first tail is tried first. -/
theorem firstMatch_here {matched : List α → Option β} {rest : List α}
    (hit : matched rest = some found) : firstMatch matched rest = some found := by
  cases rest with
  | nil => exact hit
  | cons x xs => rw [firstMatch, hit, Option.some_or]

section Split

variable [DecidableEq α] {separator : α} {text front rest : List α}

/-- Put a piece in front of the first of some. -/
def glue (front : List α) : List (List α) → List (List α)
  | [] => [front]
  | first :: more => (front ++ first) :: more

/-- The pieces of a list between a separator. -/
def splitAtEach (separator : α) : List α → List (List α)
  | [] => [[]]
  | x :: xs =>
    if x = separator then [] :: splitAtEach separator xs else glue [x] (splitAtEach separator xs)

/-- The pieces of a list between two separators at a time, from the left. -/
def splitAtPairs (separator : α) : List α → List (List α)
  | [] => [[]]
  | [x] => [[x]]
  | x :: y :: rest =>
    if x = separator ∧ y = separator then [] :: splitAtPairs separator rest
    else glue [x] (splitAtPairs separator (y :: rest))

omit [DecidableEq α] in
theorem glue_glue (front back : List α) (pieces : List (List α)) :
    glue front (glue back pieces) = glue (front ++ back) pieces := by
  cases pieces with
  | nil => rfl
  | cons first more => simp [glue]

theorem splitAtEach_some (separator : α) (text : List α) :
    ∃ first more, splitAtEach separator text = first :: more := by
  cases text with
  | nil => exact ⟨[], [], rfl⟩
  | cons x xs =>
    rw [splitAtEach]
    split
    · exact ⟨_, _, rfl⟩
    · cases splitAtEach separator xs with
      | nil => exact ⟨_, _, rfl⟩
      | cons first more => exact ⟨_, _, rfl⟩

/-- What has no separator goes to the first piece. -/
theorem splitAtEach_skip (absent : separator ∉ front) :
    splitAtEach separator (front ++ rest) = glue front (splitAtEach separator rest) := by
  induction front with
  | nil =>
    obtain ⟨first, more, split⟩ := splitAtEach_some separator rest
    rw [List.nil_append, split]
    rfl
  | cons x xs ih =>
    have differs : x ≠ separator := fun same => absent (same ▸ List.mem_cons_self)
    rw [List.cons_append, splitAtEach, if_neg differs,
      ih fun listed => absent (List.mem_cons_of_mem _ listed), glue_glue]
    rfl

/-- A list without a separator is one piece. -/
theorem splitAtEach_one (absent : separator ∉ text) : splitAtEach separator text = [text] := by
  have skipped : splitAtEach separator (text ++ []) = glue text (splitAtEach separator []) :=
    splitAtEach_skip absent
  rw [List.append_nil] at skipped
  rw [skipped]
  simp [splitAtEach, glue]

/-- What stands before a separator is the first piece. -/
theorem splitAtEach_cons (absent : separator ∉ front) :
    splitAtEach separator (front ++ separator :: rest) = front :: splitAtEach separator rest := by
  rw [splitAtEach_skip absent, splitAtEach, if_pos rfl, glue, List.append_nil]

/-- The first piece, and where the others come from. -/
theorem splitAtEach_cases {first : List α} {more : List (List α)}
    (split : splitAtEach separator text = first :: more) :
    separator ∉ first ∧ (more = [] ∧ text = first ∨
      ∃ rest, text = first ++ separator :: rest ∧ splitAtEach separator rest = more) := by
  induction text generalizing first with
  | nil =>
    obtain ⟨rfl, rfl⟩ := List.cons.inj split
    exact ⟨List.not_mem_nil, .inl ⟨rfl, rfl⟩⟩
  | cons x xs ih =>
    rw [splitAtEach] at split
    by_cases same : x = separator
    · rw [if_pos same] at split
      obtain ⟨rfl, rfl⟩ := List.cons.inj split
      exact ⟨List.not_mem_nil, .inr ⟨xs, by rw [same]; rfl, rfl⟩⟩
    · rw [if_neg same] at split
      obtain ⟨first', more', inner⟩ := splitAtEach_some separator xs
      rw [inner] at split
      obtain ⟨rfl, rfl⟩ := List.cons.inj split
      obtain ⟨absent, others⟩ := ih inner
      refine ⟨?_, ?_⟩
      · intro listed
        rcases List.mem_cons.mp listed with equal | listed
        · exact same equal.symm
        · exact absent listed
      · rcases others with ⟨rfl, rfl⟩ | ⟨rest, rfl, split⟩
        · exact .inl ⟨rfl, rfl⟩
        · exact .inr ⟨rest, rfl, split⟩

theorem splitAtPairs_some (separator : α) (text : List α) :
    ∃ first more, splitAtPairs separator text = first :: more := by
  induction text using splitAtPairs.induct separator with
  | case1 => exact ⟨_, _, rfl⟩
  | case2 x => exact ⟨_, _, rfl⟩
  | case3 x y rest pair ih =>
    rw [splitAtPairs, if_pos pair]
    exact ⟨_, _, rfl⟩
  | case4 x y rest apart ih =>
    obtain ⟨first, more, split⟩ := ih
    rw [splitAtPairs, if_neg apart, split]
    exact ⟨_, _, rfl⟩

theorem splitAtPairs_pair :
    splitAtPairs separator (separator :: separator :: rest) =
      [] :: splitAtPairs separator rest := by
  rw [splitAtPairs, if_pos ⟨rfl, rfl⟩]

/-- An element that begins no pair goes to the first piece. -/
theorem splitAtPairs_step {x : α} (apart : ¬ (x = separator ∧ rest.head? = some separator)) :
    splitAtPairs separator (x :: rest) = glue [x] (splitAtPairs separator rest) := by
  cases rest with
  | nil => simp [splitAtPairs, glue]
  | cons y rest =>
    rw [splitAtPairs, if_neg]
    rintro ⟨first, second⟩
    exact apart ⟨first, congrArg some second⟩

/-- What has no separator goes to the first piece. -/
theorem splitAtPairs_skip (absent : separator ∉ front) :
    splitAtPairs separator (front ++ rest) = glue front (splitAtPairs separator rest) := by
  induction front with
  | nil =>
    obtain ⟨first, more, split⟩ := splitAtPairs_some separator rest
    rw [List.nil_append, split]
    rfl
  | cons x xs ih =>
    have differs : x ≠ separator := fun same => absent (same ▸ List.mem_cons_self)
    rw [List.cons_append, splitAtPairs_step fun pair => differs pair.1,
      ih fun listed => absent (List.mem_cons_of_mem _ listed), glue_glue]
    rfl

/-- The first piece, and where the others come from. -/
theorem splitAtPairs_cases {first : List α} {more : List (List α)}
    (split : splitAtPairs separator text = first :: more) :
    more = [] ∧ text = first ∨
      ∃ rest, text = first ++ separator :: separator :: rest ∧
        splitAtPairs separator rest = more := by
  induction text using splitAtPairs.induct separator generalizing first with
  | case1 =>
    obtain ⟨rfl, rfl⟩ := List.cons.inj split
    exact .inl ⟨rfl, rfl⟩
  | case2 x =>
    obtain ⟨rfl, rfl⟩ := List.cons.inj split
    exact .inl ⟨rfl, rfl⟩
  | case3 x y rest pair ih =>
    rw [splitAtPairs, if_pos pair] at split
    obtain ⟨rfl, rfl⟩ := List.cons.inj split
    exact .inr ⟨rest, by rw [pair.1, pair.2]; rfl, rfl⟩
  | case4 x y rest apart ih =>
    rw [splitAtPairs, if_neg apart] at split
    obtain ⟨first', more', inner⟩ := splitAtPairs_some separator (y :: rest)
    rw [inner] at split
    obtain ⟨rfl, rfl⟩ := List.cons.inj split
    rcases ih inner with ⟨rfl, text⟩ | ⟨tail, text, split⟩
    · exact .inl ⟨rfl, by rw [text]; rfl⟩
    · exact .inr ⟨tail, by rw [text]; rfl, split⟩

end Split

end Telga.Library
