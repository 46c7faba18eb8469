import Telga.Application.Redirects
import Telga.Library.Urls

namespace Telga.Proofs.Redirects
open Application Library Url

variable {Host : Type} {parseHost : List Char → Option Host}
  {absolute : List Char → Option (Origin Host)} {base : Origin Host} {value : String}

/-- What a browser makes of a path has one slash in front, or the host it names behind two is the
one it comes from. -/
def OnePath (parseHost : List Char → Option Host) (base : Origin Host) (chars : List Char) :
    Prop :=
  match cleaned chars with
  | _ :: second :: rest =>
    isSlash second = true → namedOrigin parseHost base.scheme (authority rest) = some base
  | _ => True

/-- A text is refused for its first characters or a colon, or it is one path. -/
def Stays (parseHost : List Char → Option Host) (base : Origin Host) (value : String) : Prop :=
  ['/'].isPrefixOf value.toList = false ∨ ['/', '/'].isPrefixOf value.toList = true ∨
    ':' ∈ value.toList ∨ OnePath parseHost base value.toList

/-- What begins with a slash leads home exactly where it is one path. -/
theorem resolve_slash (begins : ['/'].isPrefixOf value.toList = true) :
    resolve parseHost absolute base value.toList = some base ↔
      OnePath parseHost base value.toList := by
  obtain ⟨rest, text⟩ := List.isPrefixOf_iff_prefix.mp begins
  rw [List.singleton_append] at text
  obtain ⟨rest', read, -⟩ := cleaned_cons '/' rest rfl rfl
  rw [text] at read
  unfold OnePath
  rw [read]
  cases rest' with
  | nil => exact ⟨fun _ => trivial, fun _ => resolve_path read nofun⟩
  | cons second rest' =>
    cases slash : isSlash second with
    | false =>
      refine ⟨fun _ no => absurd no (by rw [slash]; exact Bool.false_ne_true), fun _ => ?_⟩
      apply resolve_path read
      intro second' rest'' same
      cases same
      exact slash
    | true =>
      rw [resolve_authority read slash]
      exact ⟨fun home _ => home, fun home => home slash⟩

theorem launcher_stays :
    resolve parseHost absolute base "/launcher/apps".toList = some base := by
  have read : cleaned "/launcher/apps".toList = '/' :: "launcher/apps".toList := by decide
  apply resolve_path read
  intro second rest same
  have first : second = 'l' := by
    simp at same
    exact same.1.symm
  rw [first]
  rfl

/-- The counter's own old addresses are paths. -/
theorem old_address (old : value = "/splash" ∨ value = "/launcher") :
    OnePath parseHost base value.toList := by
  rcases old with rfl | rfl
  · have read : cleaned "/splash".toList = '/' :: 's' :: "plash".toList := by decide
    rw [OnePath, read]
    exact fun no => absurd no (by decide)
  · have read : cleaned "/launcher".toList = '/' :: 'l' :: "auncher".toList := by decide
    rw [OnePath, read]
    exact fun no => absurd no (by decide)

/-- Where a sign-in or an unlock sends a browser is on the server's own origin exactly when the
text is refused, or has no second slash or backslash once tabs and line breaks are gone, or names
that origin. -/
theorem safeReturnTo_stays (parseHost : List Char → Option Host)
    (absolute : List Char → Option (Origin Host)) (base : Origin Host) (value : Option String) :
    resolve parseHost absolute base (safeReturnTo value).toList = some base ↔
      ∀ text, value = some text → Stays parseHost base text := by
  cases value with
  | none => exact ⟨fun _ => nofun, fun _ => launcher_stays⟩
  | some text =>
    have only : (∀ text', some text = some text' → Stays parseHost base text') ↔
        Stays parseHost base text :=
      ⟨fun all => all text rfl, fun one text' same => Option.some.inj same ▸ one⟩
    rw [only, safeReturnTo]
    unfold Stays
    split
    · rename_i empty
      rw [empty]
      exact ⟨fun _ => .inl rfl, fun _ => launcher_stays⟩
    split
    · rename_i refused
      exact ⟨fun _ => .inl refused, fun _ => launcher_stays⟩
    rename_i begins
    rw [Bool.not_eq_false] at begins
    split
    · rename_i refused
      exact ⟨fun _ => .inr (.inl refused), fun _ => launcher_stays⟩
    rename_i single
    split
    · rename_i refused
      exact ⟨fun _ => .inr (.inr (.inl refused)), fun _ => launcher_stays⟩
    rename_i plain
    have last : (['/'].isPrefixOf text.toList = false ∨ ['/', '/'].isPrefixOf text.toList = true ∨
        ':' ∈ text.toList ∨ OnePath parseHost base text.toList) ↔
        OnePath parseHost base text.toList := by
      simp only [begins, Bool.true_eq_false, Bool.false_eq_true, single, plain, false_or]
    rw [last]
    split
    · rename_i old
      exact ⟨fun _ => old_address old, fun _ => launcher_stays⟩
    · exact resolve_slash begins

/-- A backslash is as good as a slash to a browser. -/
theorem backslash_leaves :
    ¬ ∀ value : Option String,
      resolve (fun chars => some (String.ofList chars)) (fun _ => none)
        ⟨.https, "pos.example", none⟩ (safeReturnTo value).toList =
          some ⟨.https, "pos.example", none⟩ := by
  intro claimed
  have home := claimed (some "/\\evil.example/sign-in")
  revert home
  decide

/-- A tab or a line break is a control character. -/
theorem control_tab {char : Char} (plain : isControl char = false) :
    tabOrNewline char = false := by
  rw [Bool.eq_false_iff] at plain ⊢
  intro dropped
  apply plain
  have cases' : char = '\t' ∨ char = '\n' ∨ char = '\r' := of_decide_eq_true dropped
  rcases cases' with rfl | rfl | rfl
  all_goals decide

/-- Neither a second slash nor a backslash, and nothing a browser would drop: the second character
stays the second. -/
theorem second_kept {rest : List Char} (single : ['/', '/'].isPrefixOf ('/' :: rest) = false)
    (straight : '\\' ∉ '/' :: rest) (plain : ('/' :: rest).any isControl = false) :
    ∃ rest', cleaned ('/' :: rest) = '/' :: rest' ∧
      ∀ second rest'', rest' = second :: rest'' → isSlash second = false := by
  obtain ⟨rest', read, start⟩ := cleaned_cons '/' rest rfl rfl
  refine ⟨rest', read, ?_⟩
  intro second rest'' same
  have kept : rest' <+: rest := by
    apply start
    intro char listed
    apply control_tab
    have none := List.any_eq_false.mp plain char (List.mem_cons_of_mem _ listed)
    exact Bool.eq_false_iff.mpr none
  rw [same] at kept
  obtain ⟨tail, text⟩ := kept
  subst text
  apply decide_eq_false
  intro slash
  rcases slash with rfl | rfl
  · simp at single
  · exact straight (by simp)

/-- The console's own function of the name lets nothing leave. -/
theorem consoleReturnTo_stays (parseHost : List Char → Option Host)
    (absolute : List Char → Option (Origin Host)) (base : Origin Host) (value : Option String) :
    resolve parseHost absolute base (consoleReturnTo value).toList = some base := by
  have dashboard : resolve parseHost absolute base "/".toList = some base := by
    have read : cleaned "/".toList = '/' :: [] := by decide
    exact resolve_path read nofun
  cases value with
  | none => exact dashboard
  | some candidate =>
    rw [consoleReturnTo]
    split
    · exact dashboard
    split
    · exact dashboard
    rename_i begins
    split
    · exact dashboard
    rename_i straight
    split
    · exact dashboard
    rename_i single
    split
    · exact dashboard
    rename_i plain
    rw [Bool.not_eq_false] at begins
    obtain ⟨rest, text⟩ := List.isPrefixOf_iff_prefix.mp begins
    rw [List.singleton_append] at text
    rw [← text] at straight single plain ⊢
    obtain ⟨rest', read, kept⟩ := second_kept (Bool.eq_false_iff.mpr single) straight
      (Bool.eq_false_iff.mpr plain)
    exact resolve_path read kept

end Telga.Proofs.Redirects
