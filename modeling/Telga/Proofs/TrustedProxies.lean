import Mathlib.Algebra.Group.Nat.Defs
import Telga.Application.TrustedProxies

namespace Telga.Proofs.TrustedProxies
open Application Library Domain
open Ip

section Quads

variable {text : List Char} {bytes : List Nat}

/-- Numbers are read exactly when all of them are numbers of a quad. -/
theorem readOctets_iff (parts : List (List Char)) :
    readOctets parts = some bytes ↔
      (∀ part ∈ parts, Octet part) ∧ bytes = parts.map decimalValue := by
  induction parts generalizing bytes with
  | nil => simp [readOctets, eq_comm]
  | cons part parts ih =>
    rw [readOctets]
    by_cases malformed : part = [] ∨ 3 < part.length ∨ part.all Char.isDigit = false
    · rw [if_pos malformed]
      constructor
      · nofun
      · intro ⟨octets, _⟩
        have octet := octets part List.mem_cons_self
        rcases malformed with empty | long | other
        · exact absurd empty octet.some
        · exact absurd octet.short (Nat.not_le.mpr long)
        · rw [octet.digits] at other
          cases other
    · rw [if_neg malformed]
      obtain ⟨some, short, digits⟩ : part ≠ [] ∧ part.length ≤ 3 ∧ part.all Char.isDigit = true := by
        simpa only [not_or, Nat.not_lt, Bool.not_eq_false] using malformed
      by_cases large : 255 < decimalValue part
      · simp only [if_pos large]
        constructor
        · nofun
        · intro ⟨octets, _⟩
          have octet := octets part List.mem_cons_self
          exact absurd octet.byte (Nat.not_le.mpr large)
      · simp only [if_neg large, Option.map_eq_some_iff, ih]
        constructor
        · intro ⟨values, ⟨octets, listed⟩, told⟩
          refine ⟨?_, by rw [← told, listed]; rfl⟩
          intro other present
          rcases List.mem_cons.mp present with rfl | present
          · exact ⟨some, short, digits, Nat.not_lt.mp large⟩
          · exact octets other present
        · intro ⟨octets, listed⟩
          exact ⟨parts.map decimalValue,
            ⟨fun other present => octets other (List.mem_cons_of_mem _ present), rfl⟩, listed.symm⟩

/-- Four pieces between dots are what a text is made of. -/
theorem four_pieces {a b c d : List Char} (pieces : splitAtEach '.' text = [a, b, c, d]) :
    text = a ++ '.' :: (b ++ '.' :: (c ++ '.' :: d)) := by
  obtain ⟨-, ⟨no, -⟩ | ⟨rest, text_eq, pieces⟩⟩ := splitAtEach_cases pieces
  · cases no
  obtain ⟨-, ⟨no, -⟩ | ⟨rest', rest_eq, pieces⟩⟩ := splitAtEach_cases pieces
  · cases no
  obtain ⟨-, ⟨no, -⟩ | ⟨rest'', rest'_eq, pieces⟩⟩ := splitAtEach_cases pieces
  · cases no
  obtain ⟨-, ⟨-, last⟩ | ⟨rest, _, pieces⟩⟩ := splitAtEach_cases pieces
  · rw [text_eq, rest_eq, rest'_eq, last]
  · obtain ⟨_, _, some⟩ := splitAtEach_some '.' rest
    rw [some] at pieces
    cases pieces

theorem parseIpv4_iff {address : Address} :
    parseIpv4 text = some address ↔ ∃ bytes, Quad text bytes ∧ address = ⟨bytes, .v4⟩ := by
  rw [parseIpv4]
  constructor
  · intro parsed
    split at parsed
    · cases parsed
    rename_i four
    rw [Decidable.not_not] at four
    obtain ⟨bytes, read, rfl⟩ := Option.map_eq_some_iff.mp parsed
    refine ⟨bytes, ?_, rfl⟩
    obtain ⟨octets, rfl⟩ := (readOctets_iff _).mp read
    match pieces : splitAtEach '.' text with
    | [a, b, c, d] =>
      rw [pieces] at octets
      rw [four_pieces pieces]
      exact .dotted (octets a (by simp)) (octets b (by simp)) (octets c (by simp))
        (octets d (by simp))
    | [] | [_] | [_, _] | [_, _, _] | _ :: _ :: _ :: _ :: _ :: _ =>
      rw [pieces] at four
      simp at four
  · intro ⟨bytes, quad, told⟩
    cases quad with
    | @dotted a b c d first second third fourth =>
      have pieces : splitAtEach '.' (a ++ '.' :: (b ++ '.' :: (c ++ '.' :: d))) = [a, b, c, d] := by
        rw [splitAtEach_cons first.undotted, splitAtEach_cons second.undotted,
          splitAtEach_cons third.undotted, splitAtEach_one fourth.undotted]
      have read : readOctets [a, b, c, d] = some ([a, b, c, d].map decimalValue) := by
        apply (readOctets_iff _).mpr
        refine ⟨?_, rfl⟩
        intro part present
        simp only [List.mem_cons, List.not_mem_nil, or_false] at present
        rcases present with rfl | rfl | rfl | rfl
        · exact first
        · exact second
        · exact third
        · exact fourth
      simp only [pieces]
      rw [if_neg (by simp), read, told]
      rfl

end Quads

section Groups

variable {quad : Bool} {text : List Char} {bytes : List Nat}

theorem hexDigit_lt {char : Char} (digit : hexLower char = true) : hexDigit char < 16 := by
  rw [hexLower] at digit
  rw [hexDigit]
  split
  · rename_i decimal
    simp only [Char.isDigit, Bool.and_eq_true, decide_eq_true_eq] at decimal
    have upper : char.toNat ≤ 57 := by simpa [UInt32.le_iff_toNat_le] using decimal.2
    omega
  · rename_i letter
    rw [Bool.eq_false_iff.mpr letter, Bool.false_or, Bool.and_eq_true] at digit
    have upper : char ≤ 'f' := of_decide_eq_true digit.2
    have small : char.toNat ≤ 'f'.toNat := upper
    have f : 'f'.toNat = 102 := rfl
    omega

theorem hexValue_lt (digits : List Char) (lower : digits.all hexLower = true) :
    hexValue digits < 16 ^ digits.length := by
  induction digits using List.reverseRecOn with
  | nil => simp [hexValue]
  | append_singleton digits digit ih =>
    rw [List.all_append, Bool.and_eq_true] at lower
    have before := ih lower.1
    have last : hexDigit digit < 16 := by
      apply hexDigit_lt
      simpa using lower.2
    rw [hexValue_snoc, List.length_append, List.length_singleton, Nat.pow_succ]
    omega

/-- The two bytes of a group. -/
theorem groupBytes_eq (group : Group text) :
    [hexValue text >>> 8 &&& 0xff, hexValue text &&& 0xff] = groupBytes text := by
  have small : hexValue text < 16 ^ 4 :=
    Nat.lt_of_lt_of_le (hexValue_lt text group.digits)
      (Nat.pow_le_pow_right (by omega) group.short)
  have low : ∀ n : Nat, n &&& 0xff = n % 256 := fun n => Nat.and_two_pow_sub_one_eq_mod n 8
  have high : hexValue text >>> 8 = hexValue text / 256 := Nat.shiftRight_eq_div_pow _ 8
  have whole : hexValue text / 256 % 256 = hexValue text / 256 := Nat.mod_eq_of_lt (by omega)
  rw [low, low, high, whole]
  rfl

/-- Groups are read one by one, and a dotted quad at the end only. -/
theorem readGroups_iff :
    readGroups (splitAtEach ':' text) = some bytes ↔ Groups true text bytes := by
  constructor
  · intro read
    generalize pieces : splitAtEach ':' text = groups at read
    induction groups generalizing text bytes with
    | nil =>
      obtain ⟨_, _, some⟩ := splitAtEach_some ':' text
      rw [some] at pieces
      cases pieces
    | cons group groups ih =>
      obtain ⟨single, others⟩ := splitAtEach_cases pieces
      rw [readGroups] at read
      by_cases dotted : '.' ∈ group
      · rw [if_pos dotted] at read
        split at read
        · cases read
        rename_i last
        rw [Decidable.not_not] at last
        obtain ⟨address, parsed, rfl⟩ := Option.map_eq_some_iff.mp read
        obtain ⟨bytes, quad, rfl⟩ := parseIpv4_iff.mp parsed
        rcases others with ⟨-, rfl⟩ | ⟨rest, -, none⟩
        · exact .embedded rfl quad
        · obtain ⟨_, _, some⟩ := splitAtEach_some ':' rest
          rw [some, last] at none
          cases none
      · rw [if_neg dotted] at read
        split at read
        · cases read
        rename_i formed
        obtain ⟨some, short, digits⟩ :
            group ≠ [] ∧ group.length ≤ 4 ∧ group.all hexLower = true := by
          simpa only [not_or, Nat.not_lt, Bool.not_eq_false] using formed
        have read_group : Group group := ⟨some, short, digits⟩
        obtain ⟨bytes', inner, rfl⟩ := Option.map_eq_some_iff.mp read
        rw [groupBytes_eq read_group]
        rcases others with ⟨rfl, rfl⟩ | ⟨rest, rfl, behind⟩
        · cases inner
          exact .last read_group
        · exact .more read_group (ih behind inner)
  · intro groups
    induction groups with
    | @last text group =>
      rw [splitAtEach_one group.single, readGroups, if_neg group.undotted, if_neg]
      · simp only [readGroups, Option.map_some, groupBytes_eq group, List.append_nil]
      · simpa only [not_or, Nat.not_lt, Bool.not_eq_false] using
          ⟨group.some, group.short, group.digits⟩
    | @embedded text bytes _ dotted =>
      have parsed : parseIpv4 text = some ⟨bytes, .v4⟩ := parseIpv4_iff.mpr ⟨bytes, dotted, rfl⟩
      rw [splitAtEach_one dotted.single, readGroups, if_pos dotted.dot, if_neg (by simp), parsed]
      rfl
    | @more text rest bytes group _ ih =>
      rw [splitAtEach_cons group.single, readGroups, if_neg group.undotted, if_neg, ih]
      · simp only [Option.map_some, groupBytes_eq group]
      · simpa only [not_or, Nat.not_lt, Bool.not_eq_false] using
          ⟨group.some, group.short, group.digits⟩

theorem readSegment_iff : readSegment text = some bytes ↔ Side true text bytes := by
  rw [readSegment, Side]
  by_cases empty : text = []
  · rw [if_pos empty]
    constructor
    · intro none
      exact .inl ⟨empty, (Option.some.inj none).symm⟩
    · intro side
      rcases side with ⟨-, rfl⟩ | groups
      · rfl
      · obtain ⟨first, rest, some, -⟩ := groups.begins
        rw [empty] at some
        cases some
  · rw [if_neg empty, readGroups_iff]
    exact ⟨.inr, fun side => side.resolve_left fun none => empty none.1⟩

end Groups

section Normalized

variable {text : List Char}

/-- An address of sixteen bytes is read as it is, also with a dotted quad before the double
colon. -/
theorem parseIpv6_iff {address : Address} :
    parseIpv6 text = some address ↔ ∃ bytes, V6 true text bytes ∧ address = ⟨bytes, .v6⟩ := by
  rw [parseIpv6]
  constructor
  · intro parsed
    split at parsed
    · cases parsed
    split at parsed
    · rename_i whole pieces
      rcases splitAtPairs_cases pieces with ⟨-, rfl⟩ | ⟨rest, -, none⟩
      · obtain ⟨head, read, parsed⟩ := Option.bind_eq_some_iff.mp parsed
        split at parsed
        · rename_i sixteen
          cases parsed
          rcases readSegment_iff.mp read with ⟨-, rfl⟩ | groups
          · cases sixteen
          · exact ⟨head, .full groups sixteen, rfl⟩
        · cases parsed
      · obtain ⟨_, _, some⟩ := splitAtPairs_some ':' rest
        rw [some] at none
        cases none
    · rename_i first second pieces
      rcases splitAtPairs_cases pieces with ⟨no, -⟩ | ⟨rest, rfl, behind⟩
      · cases no
      obtain ⟨head, read, joined⟩ := Option.bind_eq_some_iff.mp parsed
      obtain ⟨tail, read', made⟩ := Option.bind_eq_some_iff.mp joined
      have before : Side true first head := readSegment_iff.mp read
      have after : Side true second tail := readSegment_iff.mp read'
      rcases splitAtPairs_cases behind with ⟨-, rfl⟩ | ⟨rest, -, none⟩
      · have even := before.even
        have even' := after.even
        simp only at made
        split at made
        · cases made
        · rename_i elided
          cases made
          have room : head.length + tail.length + 2 ≤ 16 := by omega
          have missing : ((16 : Int) - head.length - tail.length).toNat =
              16 - head.length - tail.length := by omega
          rw [missing]
          exact ⟨_, .compressed before after room, rfl⟩
      · obtain ⟨_, _, some⟩ := splitAtPairs_some ':' rest
        rw [some] at none
        cases none
    · cases parsed
  · intro ⟨bytes, address', told⟩
    cases address' with
    | full groups whole =>
      obtain ⟨first, rest, begins, -⟩ := groups.begins
      have read : readSegment text = some bytes := readSegment_iff.mpr (.inr groups)
      rw [if_neg (by rw [begins]; exact List.cons_ne_nil _ _), groups.whole]
      simp only [read, Option.bind_eq_bind, Option.bind_some, if_pos whole, told]
    | @compressed head tail front back before behind elided =>
      have read : readSegment head = some front := readSegment_iff.mpr before
      have read' : readSegment tail = some back := readSegment_iff.mpr behind
      have room : ¬ ((16 : Int) - front.length - back.length < 1) := by omega
      have missing : ((16 : Int) - front.length - back.length).toNat =
          16 - front.length - back.length := by omega
      rw [if_neg (by simp), before.pairs, behind.whole]
      simp only [read, read', Option.bind_eq_bind, Option.bind_some, if_neg room, missing, told]

theorem parseNormalized_iff {address : Address} :
    parseNormalized text = some address ↔
      (∃ bytes, Quad text bytes ∧ address = ⟨bytes, .v4⟩) ∨
        ∃ bytes, V6 true text bytes ∧ address = ⟨bytes, .v6⟩ := by
  rw [parseNormalized]
  by_cases empty : text = []
  · rw [if_pos empty]
    constructor
    · nofun
    · rintro (⟨bytes, quad, -⟩ | ⟨bytes, address, -⟩)
      · have dot := quad.dot
        rw [empty] at dot
        cases dot
      · have colon := address.colon
        rw [empty] at colon
        cases colon
  · rw [if_neg empty]
    by_cases colon : ':' ∈ text
    · rw [if_pos colon, parseIpv6_iff]
      exact ⟨.inr, fun either => either.resolve_left fun ⟨_, quad, _⟩ => quad.single colon⟩
    · rw [if_neg colon, parseIpv4_iff]
      exact ⟨.inl, fun either => either.resolve_right fun ⟨_, address, _⟩ => colon address.colon⟩

end Normalized

/-- The prefix of a dotted address of four bytes among those of sixteen. -/
def mappedText : List Char :=
  "::ffff:".toList

/-- The texts which are taken for another address than theirs, or for one when they are none, or
for none: what follows the prefix is read alone; a zone is accepted behind a dotted quad, and an
empty one; a dotted quad may stand before the double colon; and one that is mapped in another
spelling is read as sixteen bytes. -/
inductive Misread (text : List Char) : Prop
  | prefixed {rest : List Char} {bytes : List Nat} (same : text = mappedText ++ rest)
      (address : V6 true rest bytes)
  | unprefixed {rest : List Char} {address : Address} (same : text = mappedText ++ rest)
      (reads : Reads text address) (other : ∀ bytes, ¬ Quad rest bytes)
  | zonedQuad {bytes : List Nat} (bare : ¬ mappedText <+: text) (quad : Quad (beforeZone text) bytes)
      (zone : text ≠ beforeZone text)
  | emptyZone {bytes : List Nat} (bare : ¬ mappedText <+: text)
      (address : V6 true (beforeZone text) bytes) (zone : text = beforeZone text ++ ['%'])
  | early {head tail : List Char} {front bytes : List Nat} (bare : ¬ mappedText <+: text)
      (address : V6 true (beforeZone text) bytes) (before : Side true head front)
      (same : beforeZone text = head ++ ':' :: ':' :: tail) (dot : '.' ∈ head)
  | mapped {bytes : List Nat} (bare : ¬ mappedText <+: text)
      (address : V6 false (beforeZone text) bytes) (mapped : Mapped (beforeZone text) bytes)

section Texts

variable {text rest body : List Char} {bytes bytes' : List Nat} {address : Address}

theorem Quad.same (quad : Quad text bytes) (quad' : Quad text bytes') : bytes = bytes' := by
  have parsed := parseIpv4_iff.mpr ⟨bytes, quad, rfl⟩
  rw [parseIpv4_iff.mpr ⟨bytes', quad', rfl⟩] at parsed
  simpa using parsed.symm

theorem V6.same (address : V6 true text bytes) (address' : V6 true text bytes') :
    bytes = bytes' := by
  have parsed := parseIpv6_iff.mpr ⟨bytes, address, rfl⟩
  rw [parseIpv6_iff.mpr ⟨bytes', address', rfl⟩] at parsed
  simpa using parsed.symm

theorem Groups.same (groups : Groups true text bytes) (groups' : Groups true text bytes') :
    bytes = bytes' := by
  have read := readGroups_iff.mpr groups
  rw [readGroups_iff.mpr groups'] at read
  exact (Option.some.inj read).symm

/-- What follows the prefix in an address is groups, and too few for an address. -/
theorem V6.unprefixed {early : Bool} (address : V6 early (mappedText ++ rest) bytes) :
    ∃ bytes', Groups true rest bytes' ∧ bytes'.length ≤ 12 := by
  generalize same : mappedText ++ rest = text at address
  cases address with
  | full groups _ =>
    obtain ⟨first, others, begins, differs⟩ := groups.begins
    rw [← same] at begins
    exact absurd (List.cons.inj begins).1.symm differs
  | @compressed head tail front back before behind elided =>
    have nothing : head = [] := by
      rcases before with ⟨rfl, -⟩ | groups
      · rfl
      · obtain ⟨first, others, begins, differs⟩ := groups.begins
        rw [begins] at same
        exact absurd (List.cons.inj same).1.symm differs
    rw [nothing] at same
    have ffff : tail = "ffff".toList ++ ':' :: rest := by
      have inner := (List.cons.inj (List.cons.inj same).2).2
      exact inner.symm
    rw [ffff] at behind
    rcases behind with ⟨none, -⟩ | groups
    · cases none
    · obtain ⟨bytes', groups, length⟩ := groups.behind (by decide)
      exact ⟨bytes', groups, by omega⟩

/-- So the prefix stands before no address of sixteen bytes in an address. -/
theorem unprefixed_short {early : Bool} (address : V6 early (mappedText ++ rest) bytes)
    (alone : V6 true rest bytes') : False := by
  obtain ⟨bytes'', groups, short⟩ := V6.unprefixed address
  cases alone with
  | full groups' whole =>
    rw [Groups.same groups groups'] at short
    omega
  | @compressed head tail front back before _ _ =>
    have one := groups.whole
    rw [before.pairs] at one
    obtain ⟨_, _, some⟩ := splitAtPairs_some ':' tail
    rw [some] at one
    exact absurd (List.cons.inj one).2 (List.cons_ne_nil _ _)

/-- A dotted quad behind the prefix is an address of four bytes. -/
theorem reads_mapped (quad : Quad rest bytes) : Reads (mappedText ++ rest) ⟨bytes, .v4⟩ := by
  have ffff : Group "ffff".toList := ⟨by decide, by decide, by decide⟩
  have groups : Groups true ("ffff".toList ++ ':' :: rest) (groupBytes "ffff".toList ++ bytes) :=
    .more ffff (.embedded rfl quad)
  have two : groupBytes "ffff".toList = [0xff, 0xff] := by decide
  have length := quad.length
  rw [two] at groups
  have before : Side false [] [] := .inl ⟨rfl, rfl⟩
  have address := V6.compressed before (.inr groups) (by simp [length])
  have whole : [] ++ List.replicate (16 - ([] : List Nat).length - ([0xff, 0xff] ++ bytes).length) 0
      ++ ([0xff, 0xff] ++ bytes) = mappedPrefix ++ bytes := by
    simp only [List.length_append, length]
    rfl
  rw [whole] at address
  have zoned : Zoned (mappedText ++ rest) ([] ++ ':' :: ':' :: ("ffff".toList ++ ':' :: rest)) :=
    .inl rfl
  refine Reads.mapped address zoned ⟨?_, rfl⟩
  exact List.mem_cons_of_mem _ (List.mem_cons_of_mem _ (List.mem_append_right _
    (List.mem_cons_of_mem _ quad.dot)))

theorem Reads.same (reads : Reads text address) {address' : Address}
    (reads' : Reads text address') : address = address' := by
  have apart : ∀ {body bytes bytes'}, Quad text bytes → V6 false body bytes' → Zoned text body →
      False := by
    intro body bytes bytes' quad v6 zoned
    have colon : ':' ∈ text := by
      rcases zoned with same | ⟨zone, -, same⟩
      · exact same ▸ v6.colon
      · exact same ▸ List.mem_append_left _ v6.colon
    exact quad.single colon
  have once : ∀ {body body' bytes bytes'}, V6 false body bytes → V6 false body' bytes' →
      Zoned text body → Zoned text body' → body = body' ∧ bytes = bytes' := by
    intro body body' bytes bytes' v6 v6' zoned zoned'
    have bodies : body = body' :=
      (zoned.before v6.unzoned).symm.trans (zoned'.before v6'.unzoned)
    refine ⟨bodies, ?_⟩
    rw [← bodies] at v6'
    exact V6.same v6.widen v6'.widen
  cases reads with
  | quad dotted =>
    cases reads' with
    | quad dotted' => rw [Quad.same dotted dotted']
    | mapped v6 zoned _ => exact absurd v6 fun v6 => apart dotted v6 zoned
    | groups v6 zoned _ => exact absurd v6 fun v6 => apart dotted v6 zoned
  | mapped v6 zoned mapped =>
    cases reads' with
    | quad dotted => exact absurd v6 fun v6 => apart dotted v6 zoned
    | mapped v6' zoned' _ => rw [(once v6 v6' zoned zoned').2]
    | groups v6' zoned' other =>
      obtain ⟨bodies, same⟩ := once v6 v6' zoned zoned'
      rw [bodies, same] at mapped
      exact absurd mapped other
  | groups v6 zoned other =>
    cases reads' with
    | quad dotted => exact absurd v6 fun v6 => apart dotted v6 zoned
    | mapped v6' zoned' mapped =>
      obtain ⟨bodies, same⟩ := once v6 v6' zoned zoned'
      rw [← bodies, ← same] at mapped
      exact absurd mapped other
    | groups v6' zoned' _ => rw [(once v6 v6' zoned zoned').2]

/-- A text with the prefix is read as what follows it. -/
theorem normalizeText_mapped : normalizeText (mappedText ++ rest) = rest := by
  exact if_pos (List.isPrefixOf_iff_prefix.mpr (List.prefix_append mappedText rest))

theorem normalizeText_bare (bare : ¬ mappedText <+: text) :
    normalizeText text = beforeZone text := by
  exact if_neg fun there => bare (List.isPrefixOf_iff_prefix.mp there)

/-- An address of sixteen bytes behind the prefix is none with it. -/
theorem prefixed_unread (alone : V6 true rest bytes) :
    ¬ Reads (mappedText ++ rest) ⟨bytes, .v6⟩ := by
  intro reads
  have plain : '%' ∉ mappedText ++ rest := by
    intro listed
    rcases List.mem_append.mp listed with listed | listed
    · exact absurd listed (by decide)
    · exact alone.unzoned listed
  cases reads with
  | @groups body _ address zoned _ =>
    have whole : mappedText ++ rest = body := by
      rw [← zoned.before address.unzoned, beforeZone_self plain]
    rw [← whole] at address
    exact unprefixed_short address alone

/-- Behind the prefix a text is read rightly exactly when it is not misread. -/
theorem mapped_right :
    (∀ address, parseNormalized rest = some address ↔ Reads (mappedText ++ rest) address) ↔
      ¬ Misread (mappedText ++ rest) := by
  constructor
  · intro right misread
    have none : ∀ bytes, ¬ V6 true rest bytes := by
      intro bytes alone
      exact prefixed_unread alone ((right _).mp (parseNormalized_iff.mpr (.inr ⟨bytes, alone, rfl⟩)))
    cases misread with
    | @prefixed rest' bytes same alone =>
      rw [← List.append_cancel_left same] at alone
      exact none bytes alone
    | @unprefixed rest' address same reads other =>
      rw [← List.append_cancel_left same] at other
      rcases parseNormalized_iff.mp ((right address).mpr reads) with
        ⟨bytes, quad, -⟩ | ⟨bytes, alone, -⟩
      · exact other bytes quad
      · exact none bytes alone
    | zonedQuad bare | emptyZone bare | early bare | mapped bare =>
      exact bare (List.prefix_append _ _)
  · intro right address
    rw [parseNormalized_iff]
    constructor
    · rintro (⟨bytes, quad, rfl⟩ | ⟨bytes, v6, rfl⟩)
      · exact reads_mapped quad
      · exact absurd (Misread.prefixed rfl v6) right
    · intro reads
      by_cases quad : ∃ bytes, Quad rest bytes
      · obtain ⟨bytes, quad⟩ := quad
        exact .inl ⟨bytes, quad, Reads.same reads (reads_mapped quad)⟩
      · exact absurd (Misread.unprefixed rfl reads fun bytes dotted => quad ⟨bytes, dotted⟩) right

/-- What an address of sixteen bytes before the zone must be, to be read as it is. -/
theorem reads_groups (address : V6 true (beforeZone text) bytes)
    (reads : Reads text ⟨bytes, .v6⟩) :
    V6 false (beforeZone text) bytes ∧ Zoned text (beforeZone text) ∧
      ¬ Mapped (beforeZone text) bytes := by
  cases reads with
  | groups address' zoned other =>
    rw [zoned.before address'.unzoned]
    exact ⟨address', zoned, other⟩

/-- A dotted quad is read as it is only without a zone. -/
theorem reads_quad (quad : Quad (beforeZone text) bytes) (reads : Reads text ⟨bytes', .v4⟩) :
    text = beforeZone text := by
  cases reads with
  | quad dotted => exact (beforeZone_self dotted.unzoned).symm
  | mapped address zoned _ =>
    rw [zoned.before address.unzoned] at quad
    exact absurd address.colon quad.single

/-- Without the prefix a text is read rightly exactly when it is not misread. -/
theorem bare_right (bare : ¬ mappedText <+: text) :
    (∀ address, parseNormalized (beforeZone text) = some address ↔ Reads text address) ↔
      ¬ Misread text := by
  constructor
  · intro right misread
    have exact_groups : ∀ {bytes}, V6 true (beforeZone text) bytes →
        V6 false (beforeZone text) bytes ∧ Zoned text (beforeZone text) ∧
          ¬ Mapped (beforeZone text) bytes := by
      intro bytes address
      apply reads_groups address
      exact (right _).mp (parseNormalized_iff.mpr (.inr ⟨bytes, address, rfl⟩))
    cases misread with
    | prefixed same _ | unprefixed same _ _ =>
      exact bare ⟨_, same.symm⟩
    | @zonedQuad bytes _ quad zone =>
      apply zone
      exact reads_quad quad ((right _).mp (parseNormalized_iff.mpr (.inl ⟨bytes, quad, rfl⟩)))
    | emptyZone _ address zone =>
      rcases (exact_groups address).2.1 with none | ⟨zone', some, same⟩
      · have both := none.symm.trans zone
        exact absurd (congrArg List.length both) (by simp)
      · have both := List.append_cancel_left (same.symm.trans zone)
        exact some (List.cons.inj both).2
    | early _ address before same dot =>
      exact (exact_groups address).1.no_dot before same dot
    | mapped _ address mapped =>
      exact (exact_groups address.widen).2.2 mapped
  · intro right address
    rw [parseNormalized_iff]
    constructor
    · rintro (⟨bytes, quad, rfl⟩ | ⟨bytes, v6, rfl⟩)
      · have whole : text = beforeZone text := by
          by_contra zone
          exact right (.zonedQuad bare quad zone)
        rw [← whole] at quad
        exact .quad quad
      · have proper : V6 false (beforeZone text) bytes := by
          rcases v6.late with proper | ⟨head, tail, front, same, dot, before⟩
          · exact proper
          · exact absurd (Misread.early bare v6 before same dot) right
        have other : ¬ Mapped (beforeZone text) bytes := fun mapped =>
          right (.mapped bare proper mapped)
        refine .groups proper ?_ other
        rcases beforeZone_cases text with whole | ⟨zone, whole⟩
        · exact .inl whole
        · refine .inr ⟨zone, ?_, whole⟩
          intro empty
          rw [empty] at whole
          exact right (.emptyZone bare v6 whole)
    · intro reads
      cases reads with
      | quad dotted =>
        rw [beforeZone_self dotted.unzoned]
        exact .inl ⟨_, dotted, rfl⟩
      | mapped v6 zoned mapped =>
        have before := zoned.before v6.unzoned
        rw [← before] at v6 mapped
        exact absurd (Misread.mapped bare v6 mapped) right
      | groups v6 zoned _ =>
        rw [← zoned.before v6.unzoned] at v6
        exact .inr ⟨_, v6.widen, rfl⟩

theorem read_right (text : List Char) :
    (∀ address, parseNormalized (normalizeText text) = some address ↔ Reads text address) ↔
      ¬ Misread text := by
  by_cases mapped : mappedText <+: text
  · obtain ⟨rest, rfl⟩ := mapped
    rw [normalizeText_mapped]
    exact mapped_right
  · rw [normalizeText_bare mapped]
    exact bare_right mapped

end Texts

section Trust

variable {toLowerCase : String → String} {text peer : Option String} {entry : String}
  {trusted : List String} {address : Address} {range : TrustedRange}

/-- The characters a text is read by: in small letters, without white space around. -/
def spelled (toLowerCase : String → String) : Option String → List Char
  | none => []
  | some text => if text = "" then [] else (toLowerCase (trim text)).toList

theorem normalizeAddress_eq :
    normalizeAddress toLowerCase text = normalizeText (spelled toLowerCase text) := by
  have nothing : normalizeText [] = [] := by decide
  cases text with
  | none => exact nothing.symm
  | some text =>
    rw [normalizeAddress, spelled]
    split
    · exact nothing.symm
    · rfl

/-- An address is read rightly exactly where its text is not misread. -/
theorem parseAddress_right :
    (∀ address, parseAddress toLowerCase text = some address ↔
        Reads (spelled toLowerCase text) address) ↔ ¬ Misread (spelled toLowerCase text) := by
  rw [← read_right, ← normalizeAddress_eq]
  rfl

/-- What a trusted entry says: an address alone, which stands for itself, or one with so many of
its bits, one at least. -/
inductive EntryReads (toLowerCase : String → String) (entry : String) : TrustedRange → Prop
  | alone {address : Address} (plain : '/' ∉ (trim entry).toList)
      (reads : Reads (spelled toLowerCase (some (trim entry))) address) :
      EntryReads toLowerCase entry ⟨address, address.bytes.length * 8⟩
  | range {front suffix : List Char} {address : Address}
      (same : (trim entry).toList = front ++ '/' :: suffix) (last : '/' ∉ suffix)
      (written : suffix ≠ []) (digits : suffix.all Char.isDigit = true)
      (reads : Reads (spelled toLowerCase (some (String.ofList front))) address)
      (least : 1 ≤ decimalValue suffix) (most : decimalValue suffix ≤ address.bytes.length * 8) :
      EntryReads toLowerCase entry ⟨address, decimalValue suffix⟩

/-- The part of an entry that is an address. -/
def addressPart (entry : String) : String :=
  match splitAtSlash (trim entry).toList with
  | none => trim entry
  | some (front, _) => String.ofList front

theorem splitAtSlash_none {chars : List Char} (plain : '/' ∉ chars) : splitAtSlash chars = none :=
  if_neg plain

theorem splitAtSlash_some {front suffix : List Char} (last : '/' ∉ suffix) :
    splitAtSlash (front ++ '/' :: suffix) = some (front, suffix) := by
  have behind : (front ++ '/' :: suffix).reverse.takeWhile (· ≠ '/') = suffix.reverse := by
    rw [List.reverse_append, List.reverse_cons, List.append_assoc, List.takeWhile_append_of_pos]
    · simp
    · intro char listed
      exact decide_eq_true fun same => last (same ▸ List.mem_reverse.mp listed)
  have length : (front ++ '/' :: suffix).length - suffix.length - 1 = front.length := by
    simp only [List.length_append, List.length_cons]
    omega
  rw [splitAtSlash, if_pos (by simp)]
  simp only [behind, List.reverse_reverse, length, List.take_left']

/-- A text without a slash, or what stands before its last slash and behind it. -/
theorem splitAtSlash_cases (chars : List Char) :
    '/' ∉ chars ∧ splitAtSlash chars = none ∨
      ∃ front suffix, chars = front ++ '/' :: suffix ∧ '/' ∉ suffix ∧
        splitAtSlash chars = some (front, suffix) := by
  by_cases slash : '/' ∈ chars
  · obtain ⟨back, front, same, last⟩ := List.eq_append_cons_of_mem (List.mem_reverse.mpr slash)
    have forward : chars = front.reverse ++ '/' :: back.reverse := by
      rw [← List.reverse_reverse chars, same]
      simp
    refine .inr ⟨front.reverse, back.reverse, forward, ?_, ?_⟩
    · exact fun listed => last (List.mem_reverse.mp listed)
    · rw [forward]
      exact splitAtSlash_some fun listed => last (List.mem_reverse.mp listed)
  · exact .inl ⟨slash, splitAtSlash_none slash⟩

theorem reads_nothing : ¬ Reads [] address := by
  intro reads
  cases reads with
  | quad dotted => exact absurd dotted.dot List.not_mem_nil
  | mapped v6 zoned _ | groups v6 zoned _ =>
    rcases zoned with same | ⟨zone, -, same⟩
    · exact absurd (same ▸ v6.colon) List.not_mem_nil
    · exact absurd same (by simp)

/-- An entry is read as it says where its address is not misread. -/
theorem parseTrustedEntry_iff
    (right : ¬ Misread (spelled toLowerCase (some (addressPart entry)))) :
    parseTrustedEntry toLowerCase entry = some range ↔ EntryReads toLowerCase entry range := by
  have parsed := parseAddress_right.mpr right
  rw [parseTrustedEntry]
  by_cases empty : trim entry = ""
  · simp only [if_pos empty]
    constructor
    · nofun
    · intro reads
      cases reads with
      | alone _ reads =>
        rw [empty] at reads
        exact absurd reads reads_nothing
      | range same _ _ _ _ _ _ =>
        rw [empty] at same
        exact absurd same (by simp)
  · simp only [if_neg empty]
    rcases splitAtSlash_cases (trim entry).toList with ⟨plain, split⟩ | ⟨front, suffix, same, last, split⟩
    · rw [addressPart, split] at parsed
      simp only [split, Option.map_eq_some_iff, parsed]
      constructor
      · intro ⟨address, reads, told⟩
        rw [← told]
        exact .alone plain reads
      · intro reads
        cases reads with
        | alone _ reads => exact ⟨_, reads, rfl⟩
        | range same _ _ _ _ _ _ =>
          rw [same] at plain
          exact absurd plain (by simp)
    · rw [addressPart, split] at parsed
      simp only [split, Option.bind_eq_bind, Option.bind_eq_some_iff, parsed]
      constructor
      · intro ⟨address, reads, told⟩
        split at told
        · cases told
        rename_i formed
        split at told
        · cases told
        rename_i sized
        cases told
        simp only [not_or, Bool.not_eq_false] at formed
        simp only [not_or, Nat.not_lt] at sized
        exact .range same last formed.1 formed.2 reads sized.1 sized.2
      · intro reads
        cases reads with
        | alone plain _ =>
          rw [same] at plain
          exact absurd plain (by simp)
        | @range front' suffix' address same' last' written digits reads least most =>
          have pieces : splitAtSlash (front' ++ '/' :: suffix') = some (front', suffix') :=
            splitAtSlash_some last'
          rw [← same', split] at pieces
          obtain ⟨rfl, rfl⟩ := Prod.mk.inj (Option.some.inj pieces)
          refine ⟨address, reads, ?_⟩
          rw [if_neg, if_neg]
          · simpa only [not_or, Nat.not_lt] using ⟨least, most⟩
          · simpa only [not_or, Bool.not_eq_false] using ⟨written, digits⟩

theorem leadingEqual_cons (byte other : Nat) (bytes others : List Nat) (n : Nat) :
    leadingEqual (byte :: bytes) (other :: others) n =
      if n = 0 then true
      else if byte &&& ((0xff <<< (8 - min 8 n)) &&& 0xff) ≠
          other &&& ((0xff <<< (8 - min 8 n)) &&& 0xff) then false
      else leadingEqual bytes others (n - min 8 n) := rfl

/-- The loop over the bytes compares the leading bits. -/
theorem leadingEqual_iff {bytes others : List Nat} (length : bytes.length = others.length)
    (n : Nat) :
    leadingEqual bytes others n = true ↔ (bits bytes).take n = (bits others).take n := by
  induction bytes generalizing others n with
  | nil =>
    cases others with
    | nil => exact ⟨fun _ => rfl, fun _ => rfl⟩
    | cons _ _ => cases length
  | cons byte bytes ih =>
    cases others with
    | nil => cases length
    | cons other others =>
      have later := ih (Nat.succ.inj length) (n - 8)
      have split : ∀ b (bs : List Nat), (bits (b :: bs)).take n =
          (byteBits b).take n ++ (bits bs).take (n - 8) := by
        intro b bs
        rw [bits, List.flatMap_cons, List.take_append, byteBits_length]
        rfl
      have apart : ∀ b, ((byteBits b).take n).length = min n 8 := by
        intro b
        rw [List.length_take, byteBits_length]
      have first : (byteBits byte).take (min 8 n) = (byteBits other).take (min 8 n) ↔
          (byteBits byte).take n = (byteBits other).take n := by
        have whole : ∀ b, (byteBits b).take (min 8 n) = (byteBits b).take n := by
          intro b
          rcases Nat.le_total n 8 with small | large
          · rw [Nat.min_eq_right small]
          · rw [Nat.min_eq_left large, List.take_of_length_le (Nat.le_of_eq (byteBits_length b)),
              List.take_of_length_le (by rw [byteBits_length]; exact large)]
        rw [whole, whole]
      rw [leadingEqual_cons, split, split]
      by_cases zero : n = 0
      · rw [if_pos zero, zero]
        simp
      · rw [if_neg zero]
        have masked := masked_iff (x := byte) (y := other) (Nat.min_le_left 8 n)
        have rest : n - min 8 n = n - 8 := by omega
        rw [rest]
        by_cases same : (byteBits byte).take n = (byteBits other).take n
        · rw [if_neg (not_not.mpr (masked.mpr (first.mpr same))), later, same]
          exact ⟨fun equal => by rw [equal], fun equal => List.append_cancel_left equal⟩
        · rw [if_pos fun equal => same (first.mp (masked.mp equal))]
          constructor
          · nofun
          · intro equal
            exact absurd (List.append_inj equal (by rw [apart, apart])).1 same

/-- An address is inside a range of its own family when their leading bits are equal. -/
def InRange (address : Address) (range : TrustedRange) : Prop :=
  address.family = range.address.family ∧
    (bits address.bytes).take range.prefixLength =
      (bits range.address.bytes).take range.prefixLength

theorem EntryReads.size (reads : EntryReads toLowerCase entry range) :
    range.address.bytes.length = range.address.family.size := by
  cases reads with
  | alone _ reads | range _ _ _ _ reads _ _ => exact reads.size

theorem addressInRange_iff (sized : address.bytes.length = address.family.size)
    (reads : EntryReads toLowerCase entry range) :
    addressInRange address range = true ↔ InRange address range := by
  rw [addressInRange, InRange]
  by_cases family : address.family = range.address.family
  · have length : address.bytes.length = range.address.bytes.length := by
      rw [sized, reads.size, family]
    rw [if_neg (not_not.mpr family), leadingEqual_iff length]
    exact ⟨fun equal => ⟨family, equal⟩, fun both => both.2⟩
  · rw [if_pos family]
    exact ⟨nofun, fun both => absurd both.1 family⟩

/-- Whom the configured entries name: an address in one of their ranges, or what is no address and
has the text of one of them. -/
def Trusts (toLowerCase : String → String) (trusted : List String) (peer : Option String) : Prop :=
  (∃ address, Reads (spelled toLowerCase peer) address ∧ ∃ entry ∈ trusted, ∃ range,
    EntryReads toLowerCase entry range ∧ InRange address range) ∨
  ((∀ address, ¬ Reads (spelled toLowerCase peer) address) ∧
    normalizeAddress toLowerCase peer ≠ [] ∧ ∃ entry ∈ trusted,
      normalizeAddress toLowerCase (some entry) = normalizeAddress toLowerCase peer)

theorem fromTrustedProxy_iff (right : ¬ Misread (spelled toLowerCase peer))
    (entries : ∀ entry ∈ trusted, ¬ Misread (spelled toLowerCase (some (addressPart entry)))) :
    fromTrustedProxy toLowerCase (some trusted) peer = true ↔
      Trusts toLowerCase trusted peer := by
  have reads := parseAddress_right.mpr right
  rw [fromTrustedProxy, Trusts]
  cases parsed : parseAddress toLowerCase peer with
  | none =>
    have unread : ∀ address, ¬ Reads (spelled toLowerCase peer) address := by
      intro address told
      rw [(reads address).mpr told] at parsed
      cases parsed
    simp only
    by_cases empty : normalizeAddress toLowerCase peer = []
    · rw [if_pos empty]
      constructor
      · nofun
      · rintro (⟨address, told, -⟩ | ⟨-, some, -⟩)
        · exact absurd told (unread address)
        · exact absurd empty some
    · rw [if_neg empty, List.any_eq_true]
      constructor
      · intro ⟨entry, listed, same⟩
        exact .inr ⟨unread, empty, entry, listed, of_decide_eq_true same⟩
      · rintro (⟨address, told, -⟩ | ⟨-, -, entry, listed, same⟩)
        · exact absurd told (unread address)
        · exact ⟨entry, listed, decide_eq_true same⟩
  | some candidate =>
    have read : Reads (spelled toLowerCase peer) candidate := (reads candidate).mp parsed
    simp only [List.any_eq_true]
    constructor
    · intro ⟨entry, listed, inside⟩
      cases named : parseTrustedEntry toLowerCase entry with
      | none =>
        simp only [named] at inside
        cases inside
      | some range =>
        simp only [named] at inside
        have told := (parseTrustedEntry_iff (entries entry listed)).mp named
        exact .inl ⟨candidate, read, entry, listed, range, told,
          (addressInRange_iff read.size told).mp inside⟩
    · rintro (⟨address, told, entry, listed, range, named, inside⟩ | ⟨unread, -⟩)
      · rw [Reads.same told read] at inside
        refine ⟨entry, listed, ?_⟩
        simp only [(parseTrustedEntry_iff (entries entry listed)).mpr named]
        exact (addressInRange_iff read.size named).mpr inside
      · exact absurd read (unread candidate)

end Trust

/-- A text without a colon and a zone is not misread. -/
theorem plain_right {text : List Char} (single : ':' ∉ text) (plain : '%' ∉ text) :
    ¬ Misread text := by
  intro misread
  have whole := beforeZone_self plain
  have prefix_colon : ∀ rest, ':' ∈ mappedText ++ rest := by
    intro rest
    exact List.mem_append_left _ (by decide)
  cases misread with
  | prefixed same _ | unprefixed same _ _ => exact single (same ▸ prefix_colon _)
  | zonedQuad _ _ zone => exact zone whole.symm
  | emptyZone _ address _ | early _ address _ _ _ | mapped _ address _ =>
    exact single (whole ▸ address.colon)

/-- Small letters, as far as an address has letters. -/
def asciiLower (text : String) : String :=
  String.ofList (text.toList.map Char.toLower)

/-- The address of a mapped one in groups. -/
theorem hex_mapped : Reads "::ffff:a00:7".toList
    ⟨[0, 0, 0, 0, 0, 0, 0, 0, 0, 0, 0xff, 0xff, 0xa, 0, 0, 7], .v6⟩ := by
  have ffff : Group "ffff".toList := ⟨by decide, by decide, by decide⟩
  have a00 : Group "a00".toList := ⟨by decide, by decide, by decide⟩
  have seven : Group "7".toList := ⟨by decide, by decide, by decide⟩
  have behind : Side true "ffff:a00:7".toList [0xff, 0xff, 0xa, 0, 0, 7] :=
    .inr (.more ffff (.more a00 (.last seven)))
  have before : Side false [] [] := .inl ⟨rfl, rfl⟩
  have address := V6.compressed before behind (by decide)
  exact .groups address (.inl rfl) fun mapped => absurd mapped.1 (by decide)

end Telga.Proofs.TrustedProxies
