import Telga.Application.Totp
import Telga.Library.Digits

namespace Telga.Proofs.Totp
open Domain Application Library

/-- The value of a symbol. -/
def symbolValue (c : Char) : Nat :=
  base32.idxOf c

def bytesRead (bytes : List UInt8) : Nat :=
  numeral 256 (bytes.map (·.toNat))

def symbolsRead (symbols : List Char) : Nat :=
  numeral 32 (symbols.map symbolValue)

/-- Text in the symbols of the alphabet. -/
def Symbols (text : List Char) : Prop :=
  ∀ c ∈ text, c ∈ base32

theorem symbolValue_getD (small : value < 32) :
    base32.getD value 'A' ∈ base32 ∧ symbolValue (base32.getD value 'A') = value := by
  have within : value < base32.length := small
  rw [← List.getElem_eq_getD (h := within) 'A']
  exact ⟨List.getElem_mem within, (by decide : base32.Nodup).idxOf_getElem _ within⟩

theorem symbolValue_lt (mem : c ∈ base32) : symbolValue c < 32 :=
  List.idxOf_lt_length_of_mem mem

theorem symbolsRead_snoc (symbols : List Char) (c : Char) :
    symbolsRead (symbols ++ [c]) = symbolsRead symbols * 32 + symbolValue c := by
  rw [symbolsRead, List.map_append, List.map_singleton, numeral_snoc, symbolsRead]

theorem bytesRead_snoc (bytes : List UInt8) (byte : UInt8) :
    bytesRead (bytes ++ [byte]) = bytesRead bytes * 256 + byte.toNat := by
  rw [bytesRead, List.map_append, List.map_singleton, numeral_snoc, bytesRead]

/-- What has been read is what has been written and what the accumulator still carries. -/
structure Wrote (read count bits : Nat) (value : BitVec 32) (out : List Char) : Prop where
  carries : Carries read (symbolsRead out) bits value
  length : count = 5 * out.length + bits
  symbols : Symbols out

/-- A symbol written is five bits fewer to write. -/
theorem Wrote.symbol {read count bits : Nat} (wrote : Wrote read count (bits + 5) value out) :
    Wrote read count bits value
      (out ++ [base32.getD (value >>> bits &&& 31).toNat 'A']) := by
  have digit : (value >>> bits &&& 31).toNat = digitAbove value bits 5 := rfl
  have small : digitAbove value bits 5 < 32 := digitAbove_lt (by decide)
  obtain ⟨mem, own⟩ := symbolValue_getD small
  rw [digit]
  refine ⟨?_, ?_, ?_⟩
  · rw [symbolsRead_snoc, own]
    exact wrote.carries.pop (by decide)
  · rw [wrote.length, List.length_append, List.length_singleton]
    omega
  · intro c there
    rcases List.mem_append.mp there with there | there
    · exact wrote.symbols c there
    · rw [List.mem_singleton.mp there]
      exact mem

theorem writeSymbols_wrote {read count bits : Nat} (wrote : Wrote read count bits value out) :
    Wrote read count (writeSymbols value bits out).1 value (writeSymbols value bits out).2 ∧
      (writeSymbols value bits out).1 < 5 := by
  induction bits, out using writeSymbols.induct value with
  | case1 out bits ih =>
    rw [writeSymbols]
    exact ih wrote.symbol
  | case2 bits out few =>
    rw [writeSymbols]
    · refine ⟨wrote, ?_⟩
      by_contra many
      exact few (bits - 5) (by omega)
    · exact few

/-- Writing goes on from the bytes read so far. -/
def Writing (bytes : List UInt8) (state : Base32Writing) : Prop :=
  Wrote (bytesRead bytes) (8 * bytes.length) state.bits state.value state.out ∧ state.bits < 5

/-- What a turn leaves to be carried on. -/
theorem turn_eq (state : Base32Writing) (byte : UInt8) : state.turn byte =
    let value := state.value <<< 8 ||| BitVec.ofNat 32 byte.toNat
    { bits := (writeSymbols value (state.bits + 8) state.out).1, value
      out := (writeSymbols value (state.bits + 8) state.out).2 } :=
  rfl

theorem writing_turn (writing : Writing bytes state) (byte : UInt8) :
    Writing (bytes ++ [byte]) (state.turn byte) := by
  obtain ⟨wrote, few⟩ := writing
  have taken : Wrote (bytesRead (bytes ++ [byte])) (8 * (bytes ++ [byte]).length) (state.bits + 8)
      (state.value <<< 8 ||| BitVec.ofNat 32 byte.toNat) state.out := by
    refine ⟨?_, ?_, wrote.symbols⟩
    · rw [bytesRead_snoc]
      exact wrote.carries.push byte.toNat_lt (by omega)
    · rw [List.length_append, List.length_singleton, Nat.mul_add, wrote.length]
      omega
  rw [turn_eq]
  generalize state.value <<< 8 ||| BitVec.ofNat 32 byte.toNat = value at taken ⊢
  generalize state.bits + 8 = bits at taken ⊢
  exact writeSymbols_wrote taken

theorem writing_all (bytes read : List UInt8) (writing : Writing read state) :
    Writing (read ++ bytes) (bytes.foldl Base32Writing.turn state) := by
  induction bytes generalizing read state with
  | nil => rwa [List.append_nil]
  | cons byte bytes ih =>
    rw [List.append_cons]
    exact ih _ (writing_turn writing byte)

/-- The text of some bytes: their number, with fewer than five zero bits below it. -/
theorem toBase32_wrote (bytes : List UInt8) : Symbols (toBase32 bytes).toList ∧
    ∃ padding < 5, 5 * (toBase32 bytes).toList.length = 8 * bytes.length + padding ∧
      symbolsRead (toBase32 bytes).toList = bytesRead bytes * 2 ^ padding := by
  have start : Writing [] { bits := 0, value := 0, out := [] } :=
    ⟨⟨carries_nothing 0, rfl, by rintro c ⟨⟩⟩, by decide⟩
  have done := writing_all bytes [] start
  rw [List.nil_append] at done
  generalize ended : bytes.foldl Base32Writing.turn { bits := 0, value := 0, out := [] } = state
    at done
  obtain ⟨wrote, few⟩ := done
  simp only [toBase32, ended, String.toList_ofList]
  split
  · rename_i some
    have last : Wrote (bytesRead bytes * 2 ^ (5 - state.bits))
        (8 * bytes.length + (5 - state.bits)) (0 + 5)
        (state.value <<< (5 - state.bits) ||| BitVec.ofNat 32 0) state.out := by
      refine ⟨?_, ?_, wrote.symbols⟩
      · have pushed := wrote.carries.push (Nat.two_pow_pos (5 - state.bits))
          (by omega : state.bits + (5 - state.bits) ≤ 32)
        rw [show state.bits + (5 - state.bits) = 0 + 5 by omega] at pushed
        exact pushed
      · rw [wrote.length]
        omega
    have ends := last.symbol
    rw [BitVec.ushiftRight_zero, BitVec.ofNat_eq_ofNat, BitVec.or_zero] at ends
    generalize state.out ++ [base32.getD (state.value <<< (5 - state.bits) &&& 31#32).toNat 'A'] =
      out at ends ⊢
    refine ⟨ends.symbols, 5 - state.bits, by omega, ?_, ?_⟩
    · have length := ends.length
      omega
    · have carried := ends.carries
      rw [Carries, pow_zero, Nat.mod_one, Nat.mul_one] at carried
      exact carried.symm
  · rename_i none
    have empty : state.bits = 0 := by omega
    refine ⟨wrote.symbols, 0, by decide, ?_, ?_⟩
    · rw [wrote.length, empty, Nat.add_zero]
    · have carried := wrote.carries
      rw [empty, Carries, pow_zero, Nat.mod_one, Nat.mul_one, Nat.add_zero] at carried
      rw [← carried, pow_zero, Nat.mul_one]

/-- Reading goes on from the symbols read so far. -/
structure Reading (symbols : List Char) (state : Base32Reading) : Prop where
  carries : Carries (symbolsRead symbols) (bytesRead state.out) state.bits state.value
  length : 5 * symbols.length = 8 * state.out.length + state.bits
  few : state.bits < 8

theorem looked_up (mem : c ∈ base32) : base32.idxOf? c = some (symbolValue c) := by
  apply List.idxOf?_eq_some_iff.mpr
  refine ⟨symbolValue_lt mem, List.getElem_idxOf (symbolValue_lt mem), ?_⟩
  intro j before
  simpa using List.not_of_lt_findIdx before

theorem reading_turn (reading : Reading symbols state) (mem : c ∈ base32) :
    ∃ state', state.turn c = .ok state' ∧ Reading (symbols ++ [c]) state' := by
  have taken : Carries (symbolsRead (symbols ++ [c])) (bytesRead state.out) (state.bits + 5)
      (state.value <<< 5 ||| BitVec.ofNat 32 (symbolValue c)) := by
    have few := reading.few
    have fits : state.bits + 5 ≤ 32 := by omega
    rw [symbolsRead_snoc]
    exact reading.carries.push (symbolValue_lt mem) fits
  have longer : 5 * (symbols ++ [c]).length = 8 * state.out.length + (state.bits + 5) := by
    rw [List.length_append, List.length_singleton, Nat.mul_add, reading.length]
    omega
  simp only [Base32Reading.turn, looked_up mem]
  generalize state.value <<< 5 ||| BitVec.ofNat 32 (symbolValue c) = value at taken ⊢
  split
  · rename_i whole
    refine ⟨_, rfl, ?_, ?_, ?_⟩
    · have digit : (value >>> (state.bits + 5 - 8) &&& 255).toNat =
          digitAbove value (state.bits + 5 - 8) 8 := rfl
      have small : digitAbove value (state.bits + 5 - 8) 8 < 256 := digitAbove_lt (by decide)
      rw [show state.bits + 5 = state.bits + 5 - 8 + 8 by omega] at taken
      rw [bytesRead_snoc, digit, UInt8.toNat_ofNat', Nat.mod_eq_of_lt small]
      exact taken.pop (by decide)
    · simp only [List.length_append, List.length_singleton] at longer ⊢
      omega
    · have few := reading.few
      simp only []
      omega
  · rename_i part
    refine ⟨_, rfl, taken, longer, ?_⟩
    simp only []
    omega

theorem reading_all (symbols read : List Char) (spelled : Symbols symbols)
    (reading : Reading read state) :
    ∃ state', symbols.foldlM Base32Reading.turn state = .ok state' ∧
      Reading (read ++ symbols) state' := by
  induction symbols generalizing read state with
  | nil => exact ⟨state, rfl, by rwa [List.append_nil]⟩
  | cons c symbols ih =>
    obtain ⟨next, turned, reading⟩ := reading_turn reading (spelled c List.mem_cons_self)
    obtain ⟨last, rest, reading⟩ :=
      ih _ (fun c mem => spelled c (List.mem_cons_of_mem _ mem)) reading
    refine ⟨last, ?_, ?_⟩
    · rw [List.foldlM_cons, turned]
      exact rest
    · rwa [List.append_cons]

/-- The symbols of some bytes, read, are the bytes. -/
theorem symbols_read (bytes : List UInt8) :
    (toBase32 bytes).toList.foldlM Base32Reading.turn { bits := 0, value := 0, out := [] } >>=
      (fun state => (pure state.out : Except String (List UInt8))) = .ok bytes := by
  obtain ⟨spelled, padding, few, length, written⟩ := toBase32_wrote bytes
  have start : Reading [] { bits := 0, value := 0, out := [] } :=
    ⟨carries_nothing 0, rfl, by decide⟩
  obtain ⟨state, done, carries, length', few'⟩ := reading_all _ [] spelled start
  rw [List.nil_append] at carries length'
  rw [done]
  have bits : state.bits = padding := by omega
  have count : state.out.length = bytes.length := by omega
  have number : bytesRead state.out = bytesRead bytes := by
    rw [Carries, written, bits] at carries
    have rest := Nat.mod_lt state.value.toNat (Nat.two_pow_pos padding)
    have divided := congrArg (· / 2 ^ padding) carries
    simp only [Nat.mul_div_cancel _ (Nat.two_pow_pos padding)] at divided
    rw [Nat.mul_comm, Nat.mul_add_div (Nat.two_pow_pos padding), Nat.div_eq_of_lt rest] at divided
    exact divided.symm
  have same : state.out.map (·.toNat) = bytes.map (·.toNat) := by
    refine numeral_inj (by decide) (by rw [List.length_map, List.length_map, count]) ?_ ?_ number
    · intro digit mem
      obtain ⟨byte, _, rfl⟩ := List.mem_map.mp mem
      exact byte.toNat_lt
    · intro digit mem
      obtain ⟨byte, _, rfl⟩ := List.mem_map.mp mem
      exact byte.toNat_lt
  have toNat_inj : Function.Injective UInt8.toNat := fun a b same => UInt8.toNat_inj.mp same
  exact congrArg Except.ok (toNat_inj.list_map same)

/-- A text with blanks, hyphens or padding put between its characters, and some of them in lower
case. -/
inductive Restyled : List Char → List Char → Prop
  | nil : Restyled [] []
  | kept : Restyled text text' → Restyled (c :: text) (c :: text')
  | lowered : Restyled text text' → Restyled (c :: text) (c.toLower :: text')
  | filled : base32Filler c = true → Restyled text text' → Restyled text (c :: text')

/-- The characters that upper casing moves only by their case. -/
def Ascii (text : List Char) : Prop :=
  ∀ c ∈ text, c.toNat < 128

/-- Upper casing is known where there is nothing but these. -/
def UpperCases (toUpperCase : String → String) : Prop :=
  ∀ text, Ascii text → toUpperCase (String.ofList text) = String.ofList (text.map Char.toUpper)

theorem lowered_alike : ∀ n < 128, (Char.ofNat n).toLower.toUpper = (Char.ofNat n).toUpper ∧
    base32Filler (Char.ofNat n).toLower = base32Filler (Char.ofNat n) ∧
    (Char.ofNat n).toLower.toNat < 128 := by
  decide

def unfilled (text : List Char) : List Char :=
  text.filter fun c => ¬ base32Filler c

theorem unfilled_cons (c : Char) (text : List Char) :
    unfilled (c :: text) = if base32Filler c then unfilled text else c :: unfilled text := by
  unfold unfilled
  rw [List.filter_cons]
  by_cases filler : base32Filler c
  · simp [filler]
  · simp [filler]

/-- What is left of a text when what stands between its symbols is taken out is the same however it
is styled. -/
theorem Restyled.unfilled (restyled : Restyled text text') (ascii : Ascii text) :
    Ascii (unfilled text') ∧
      (unfilled text').map Char.toUpper = (unfilled text).map Char.toUpper := by
  have step : ∀ {c d : Char} {text text' : List Char}, d.toNat < 128 → d.toUpper = c.toUpper →
      base32Filler d = base32Filler c →
      Ascii (Totp.unfilled text') ∧
        (Totp.unfilled text').map Char.toUpper = (Totp.unfilled text).map Char.toUpper →
      Ascii (Totp.unfilled (d :: text')) ∧
        (Totp.unfilled (d :: text')).map Char.toUpper =
          (Totp.unfilled (c :: text)).map Char.toUpper := by
    intro c d text text' small upper same ⟨rest, alike⟩
    rw [unfilled_cons, unfilled_cons, same]
    split
    · exact ⟨rest, alike⟩
    · rw [List.map_cons, List.map_cons, upper, alike]
      refine ⟨?_, rfl⟩
      intro e mem
      rcases List.mem_cons.mp mem with rfl | mem
      · exact small
      · exact rest e mem
  induction restyled with
  | nil => exact ⟨by rintro c ⟨⟩, rfl⟩
  | @kept text text' c _ ih =>
    obtain ⟨small, ascii⟩ := List.forall_mem_cons.mp ascii
    exact step small rfl rfl (ih ascii)
  | @lowered text text' c _ ih =>
    obtain ⟨small, ascii⟩ := List.forall_mem_cons.mp ascii
    have alike := lowered_alike c.toNat small
    rw [Char.ofNat_toNat] at alike
    obtain ⟨upper, filler, within⟩ := alike
    exact step within upper filler (ih ascii)
  | @filled c text text' filler _ ih =>
    rw [unfilled_cons, if_pos filler]
    exact ih ascii

theorem Restyled.refl (text : List Char) : Restyled text text := by
  induction text with
  | nil => exact .nil
  | cons c text ih => exact .kept ih

theorem fromBase32_eq (toUpperCase : String → String) (text : List Char) :
    fromBase32 toUpperCase (String.ofList text) =
      (toUpperCase (String.ofList (unfilled text))).toList.foldlM Base32Reading.turn
        { bits := 0, value := 0, out := [] } >>= fun state => pure state.out := by
  rw [fromBase32, String.toList_ofList]
  rfl

/-- A text is read the same however it is styled. -/
theorem fromBase32_restyled (upper : UpperCases toUpperCase) (ascii : Ascii text)
    (restyled : Restyled text text') :
    fromBase32 toUpperCase (String.ofList text') = fromBase32 toUpperCase (String.ofList text) := by
  obtain ⟨within', alike⟩ := restyled.unfilled ascii
  obtain ⟨within, _⟩ := (Restyled.refl text).unfilled ascii
  rw [fromBase32_eq, fromBase32_eq, upper _ within', upper _ within, alike]

/-- The text of some bytes is read as the bytes. -/
theorem fromBase32_toBase32 (upper : UpperCases toUpperCase) (bytes : List UInt8) :
    fromBase32 toUpperCase (toBase32 bytes) = .ok bytes := by
  have clean : ∀ c ∈ base32, base32Filler c = false ∧ c.toNat < 128 ∧ c.toUpper = c := by
    have all : base32.all fun c =>
        decide (base32Filler c = false ∧ c.toNat < 128 ∧ c.toUpper = c) := by
      decide
    intro c mem
    exact of_decide_eq_true (List.all_eq_true.mp all c mem)
  obtain ⟨spelled, _⟩ := toBase32_wrote bytes
  have same : unfilled (toBase32 bytes).toList = (toBase32 bytes).toList := by
    apply List.filter_eq_self.mpr
    intro c mem
    simp [(clean c (spelled c mem)).1]
  have ascii : Ascii (toBase32 bytes).toList := fun c mem => (clean c (spelled c mem)).2.1
  have upper_same : (toBase32 bytes).toList.map Char.toUpper = (toBase32 bytes).toList := by
    rw [List.map_congr_left fun c mem => (clean c (spelled c mem)).2.2]
    exact List.map_id' _
  have kept := upper _ ascii
  rw [upper_same] at kept
  have read := fromBase32_eq toUpperCase (toBase32 bytes).toList
  rw [String.ofList_toList, same, kept, String.toList_ofList] at read
  rw [read]
  exact symbols_read bytes

/-- What is encoded of bytes of any length is decoded to them, and however its text is grouped,
padded or lowered, to the same. -/
theorem base32_roundTrip (upper : UpperCases toUpperCase) (bytes : List UInt8) :
    fromBase32 toUpperCase (toBase32 bytes) = .ok bytes ∧
    ∀ text text', Ascii text → Restyled text text' →
      fromBase32 toUpperCase (String.ofList text') =
        fromBase32 toUpperCase (String.ofList text) :=
  ⟨fromBase32_toBase32 upper bytes, fun _ _ => fromBase32_restyled upper⟩

/-- Upper casing of the letters of the alphabet alone. -/
def asciiUpper (text : String) : String :=
  String.ofList (text.toList.map Char.toUpper)

theorem asciiUpper_cases : UpperCases asciiUpper := by
  intro text _
  rw [asciiUpper, String.toList_ofList]

theorem base32_roundTrip_six :
    fromBase32 asciiUpper (toBase32 [255, 0, 128, 1, 77, 200]) =
      .ok [255, 0, 128, 1, 77, 200] :=
  (base32_roundTrip asciiUpper_cases [255, 0, 128, 1, 77, 200]).1

example : toBase32 [255, 0, 128, 1, 77, 200] = "74AIAAKNZA" := by decide

end Telga.Proofs.Totp
