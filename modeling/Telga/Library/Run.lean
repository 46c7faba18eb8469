namespace Telga.Library

/-- One step as it was taken: the state it found, what happened, the state it left. -/
structure Taken (σ : Type u) (ε : Type v) where
  before : σ
  event : ε
  after : σ

/-- A finite run, with every step taken so far, the latest first. -/
inductive Run (init : σ → Prop) (step : σ → ε → σ → Prop) : List (Taken σ ε) → σ → Prop
  | start : init s → Run init step [] s
  | step : Run init step past s → step s e s' → Run init step (⟨s, e, s'⟩ :: past) s'

variable {σ : Type u} {ε : Type v} {init : σ → Prop} {step : σ → ε → σ → Prop}

/-- What holds at the start and survives every step holds wherever a run arrives. -/
theorem Run.invariant {I : σ → Prop} (start : ∀ s, init s → I s)
    (keep : ∀ s e s', I s → step s e s' → I s') {past : List (Taken σ ε)} {s : σ}
    (run : Run init step past s) : I s := by
  induction run with
  | start h => exact start _ h
  | step _ taken ih => exact keep _ _ _ ih taken

/-- Every step on record was a step of the system, from a state the invariant holds in. -/
theorem Run.taken {I : σ → Prop} (start : ∀ s, init s → I s)
    (keep : ∀ s e s', I s → step s e s' → I s') {past : List (Taken σ ε)} {s : σ}
    (run : Run init step past s) :
    ∀ t ∈ past, I t.before ∧ step t.before t.event t.after ∧ I t.after := by
  induction run with
  | start _ => simp
  | step run taken ih =>
    intro t ht
    have found := run.invariant start keep
    rcases List.mem_cons.mp ht with rfl | ht
    · exact ⟨found, taken, keep _ _ _ found taken⟩
    · exact ih t ht

/-- The steps before any step of a run were a run themselves. -/
theorem Run.earlier {taken : Taken σ ε} {later earlier : List (Taken σ ε)} {s : σ}
    (run : Run init step (later ++ taken :: earlier) s) :
    Run init step earlier taken.before ∧ step taken.before taken.event taken.after := by
  induction later generalizing s with
  | nil =>
    cases run with
    | step before moved => exact ⟨before, moved⟩
  | cons last rest ih =>
    cases run with
    | step before _ => exact ih before

/-- What holds of a run's history and its state, at the start and after every step. -/
theorem Run.history {H : List (Taken σ ε) → σ → Prop} (start : ∀ s, init s → H [] s)
    (keep : ∀ past s e s', H past s → step s e s' → H (⟨s, e, s'⟩ :: past) s')
    {past : List (Taken σ ε)} {s : σ} (run : Run init step past s) : H past s := by
  induction run with
  | start h => exact start _ h
  | step _ taken ih => exact keep _ _ _ _ ih taken

/-- What every step makes of a state, the steps after a given one make of it together. -/
theorem Run.since {J : σ → Prop} {R : σ → σ → Prop} (refl : ∀ s, R s s)
    (trans : ∀ a b c, R a b → R b c → R a c)
    (start : ∀ s, init s → J s) (keep : ∀ s e s', J s → step s e s' → J s')
    (moves : ∀ s e s', J s → step s e s' → R s s')
    {past : List (Taken σ ε)} {s : σ} (run : Run init step past s) :
    ∀ t ∈ past, R t.before s ∧ R t.after s := by
  induction run with
  | start _ => simp
  | step run taken ih =>
    have moved := moves _ _ _ (run.invariant start keep) taken
    intro t mem
    rcases List.mem_cons.mp mem with rfl | mem
    · exact ⟨moved, refl _⟩
    · obtain ⟨before, after⟩ := ih t mem
      exact ⟨trans _ _ _ before moved, trans _ _ _ after moved⟩

/-- A property that holds at the start holds after every step exactly when every step was good,
provided each step out of a state that has it keeps it exactly when that step is good. -/
theorem Run.always_iff {J I : σ → Prop} {Good : Taken σ ε → Prop}
    (start : ∀ s, init s → J s) (keep : ∀ s e s', J s → step s e s' → J s')
    (first : ∀ s, init s → I s)
    (turn : ∀ s e s', J s → I s → step s e s' → (I s' ↔ Good ⟨s, e, s'⟩))
    {past : List (Taken σ ε)} {s : σ} (run : Run init step past s) :
    (∀ t ∈ past, I t.after) ↔ ∀ t ∈ past, Good t := by
  have arrives : ∀ {past s}, Run init step past s → (∀ t ∈ past, I t.after) → I s := by
    intro past s run
    cases run with
    | start h => exact fun _ => first _ h
    | step _ _ => exact fun all => all _ (List.mem_cons_self ..)
  induction run with
  | start _ => simp
  | step run taken ih =>
    have found := run.invariant start keep
    simp only [List.forall_mem_cons]
    constructor
    · intro ⟨now, earlier⟩
      have holds := arrives run earlier
      exact ⟨(turn _ _ _ found holds taken).mp now, ih.mp earlier⟩
    · intro ⟨now, earlier⟩
      have earlier := ih.mpr earlier
      have holds := arrives run earlier
      exact ⟨(turn _ _ _ found holds taken).mpr now, earlier⟩

/-- What an invariant of good steps gives holds after every step exactly when every step was good,
provided no other step leaves it. -/
theorem Run.within_iff {J I : σ → Prop} {Good : Taken σ ε → Prop}
    (start : ∀ s, init s → J s) (within : ∀ s, J s → I s)
    (turn : ∀ s e s', J s → step s e s' →
      (Good ⟨s, e, s'⟩ → J s') ∧ (I s' → Good ⟨s, e, s'⟩))
    {past : List (Taken σ ε)} {s : σ} (run : Run init step past s) :
    (∀ t ∈ past, I t.after) ↔ ∀ t ∈ past, Good t := by
  have arrives : ∀ {past s}, Run init step past s → (∀ t ∈ past, Good t) →
      J s ∧ ∀ t ∈ past, I t.after := by
    intro past s run
    induction run with
    | start h => exact fun _ => ⟨start _ h, by simp⟩
    | step _ taken ih =>
      intro good
      obtain ⟨now, earlier⟩ := List.forall_mem_cons.mp good
      obtain ⟨found, held⟩ := ih earlier
      have kept := (turn _ _ _ found taken).1 now
      exact ⟨kept, List.forall_mem_cons.mpr ⟨within _ kept, held⟩⟩
  refine ⟨fun all => ?_, fun good => (arrives run good).2⟩
  induction run with
  | start _ => simp
  | step run taken ih =>
    obtain ⟨now, earlier⟩ := List.forall_mem_cons.mp all
    have good := ih earlier
    exact List.forall_mem_cons.mpr ⟨(turn _ _ _ (arrives run good).1 taken).2 now, good⟩

/-- A kind of step that closes a latch nothing reopens, and that only an open latch permits,
is taken at most once. -/
theorem Run.at_most_once {J : σ → Prop} (Closed : σ → Prop) (Kind : Taken σ ε → Prop)
    (start : ∀ s, init s → J s) (keep : ∀ s e s', J s → step s e s' → J s')
    (stays : ∀ s e s', J s → Closed s → step s e s' → Closed s')
    (closes : ∀ s e s', J s → step s e s' → Kind ⟨s, e, s'⟩ → ¬ Closed s ∧ Closed s')
    {past : List (Taken σ ε)} {s : σ} (run : Run init step past s) :
    past.Pairwise fun later earlier => ¬ (Kind later ∧ Kind earlier) := by
  have latched : ∀ {past s}, Run init step past s → (∃ t ∈ past, Kind t) → Closed s := by
    intro past s run
    induction run with
    | start _ => simp
    | step run taken ih =>
      have found := run.invariant start keep
      intro ⟨t, ht, kind⟩
      rcases List.mem_cons.mp ht with rfl | ht
      · exact (closes _ _ _ found taken kind).2
      · exact stays _ _ _ found (ih ⟨t, ht, kind⟩) taken
  induction run with
  | start _ => exact List.Pairwise.nil
  | step run taken ih =>
    refine List.Pairwise.cons ?_ ih
    intro t ht both
    have closed := latched run ⟨t, ht, both.2⟩
    exact (closes _ _ _ (run.invariant start keep) taken both.1).1 closed

/-- Two steps of a kind that is taken at most once are the same step. -/
theorem taken_once {τ : Type w} {Kind : τ → Prop} {past : List τ}
    (once : past.Pairwise fun later earlier => ¬ (Kind later ∧ Kind earlier)) {a b : τ}
    (ha : a ∈ past) (hb : b ∈ past) (first : Kind a) (next : Kind b) : a = b := by
  induction once with
  | nil => cases ha
  | @cons last rest apart _ ih =>
    rcases List.mem_cons.mp ha with now | before
    · rcases List.mem_cons.mp hb with now' | before'
      · exact now.trans now'.symm
      · exact absurd ⟨now ▸ first, next⟩ (apart b before')
    · rcases List.mem_cons.mp hb with now' | before'
      · exact absurd ⟨now' ▸ next, first⟩ (apart a before)
      · exact ih before before'

/-- Something of one kind happened, and since then nothing that ends it. -/
def Since {τ : Type w} (Kind Ends : τ → Prop) (past : List τ) : Prop :=
  ∃ newer last older, past = newer ++ last :: older ∧ Kind last ∧ ∀ t ∈ newer, ¬ Ends t

theorem Since.now {τ : Type w} {Kind Ends : τ → Prop} {t : τ} {past : List τ} (kind : Kind t) :
    Since Kind Ends (t :: past) :=
  ⟨[], t, past, rfl, kind, by simp⟩

theorem Since.later {τ : Type w} {Kind Ends : τ → Prop} {t : τ} {past : List τ}
    (since : Since Kind Ends past) (lasts : ¬ Ends t) : Since Kind Ends (t :: past) := by
  obtain ⟨newer, last, older, rfl, kind, none⟩ := since
  exact ⟨t :: newer, last, older, rfl, kind, List.forall_mem_cons.mpr ⟨lasts, none⟩⟩

theorem Since.weaken {τ : Type w} {Kind Ends Ends' : τ → Prop} {past : List τ}
    (since : Since Kind Ends past) (ends : ∀ t, Ends' t → Ends t) : Since Kind Ends' past := by
  obtain ⟨newer, last, older, split, kind, none⟩ := since
  exact ⟨newer, last, older, split, kind, fun t mem ended => none t mem (ends t ended)⟩

/-- What has lasted has begun with the latest step, or lasted before it and was not ended by it. -/
theorem Since.cases {τ : Type w} {Kind Ends : τ → Prop} {t : τ} {past : List τ}
    (since : Since Kind Ends (t :: past)) : Kind t ∨ Since Kind Ends past ∧ ¬ Ends t := by
  obtain ⟨newer, last, older, split, kind, none⟩ := since
  cases newer with
  | nil =>
    cases split
    exact .inl kind
  | cons head rest =>
    cases split
    have ⟨first, rest⟩ := List.forall_mem_cons.mp none
    exact .inr ⟨⟨_, last, older, rfl, kind, rest⟩, first⟩

/-- What is only done while something lasts that it ends is done at most as often as that began. -/
theorem Since.countP_le {τ : Type w} {Kind Ends : τ → Prop} [DecidablePred Kind]
    [DecidablePred Ends] {past : List τ}
    (each : ∀ newer t older, past = newer ++ t :: older → Ends t → Since Kind Ends older) :
    past.countP (fun t => Ends t) ≤ past.countP fun t => Kind t := by
  have spent : past.countP (fun t => Ends t) ≤ past.countP (fun t => Kind t) ∧
      (Since Kind Ends past →
        past.countP (fun t => Ends t) < past.countP fun t => Kind t) := by
    induction past with
    | nil =>
      refine ⟨Nat.le_refl _, fun since => ?_⟩
      obtain ⟨newer, last, older, split, _⟩ := since
      cases newer <;> cases split
    | cons t past ih =>
      have ⟨few, fewer⟩ := ih fun newer t' older split =>
        each (t :: newer) t' older (by rw [split, List.cons_append])
      simp only [List.countP_cons]
      by_cases kind : Kind t
      · by_cases ends : Ends t
        · have before := fewer (each [] t past rfl ends)
          simp only [kind, ends, decide_true, if_true]
          exact ⟨by omega, fun _ => by omega⟩
        · simp only [kind, ends, decide_true, decide_false, if_true]
          exact ⟨by simp; omega, fun _ => by simp; omega⟩
      · by_cases ends : Ends t
        · have before := fewer (each [] t past rfl ends)
          simp only [kind, ends, decide_true, decide_false, if_true]
          refine ⟨by simp; omega, fun since => ?_⟩
          rcases since.cases with now | ⟨_, lasts⟩
          · exact absurd now kind
          · exact absurd ends lasts
        · simp only [kind, ends, decide_false]
          refine ⟨few, fun since => ?_⟩
          rcases since.cases with now | ⟨since, _⟩
          · exact absurd now kind
          · exact fewer since
  exact spent.1

/-- Events that may happen one after another, each in the state the ones before it leave. -/
def Playable (may : σ → ε → Prop) (next : σ → ε → σ) : List ε → σ → Prop
  | [], _ => True
  | e :: es, s => may s e ∧ Playable may next es (next s e)

/-- The steps such events make, the latest first, and the state they arrive in. -/
def played (next : σ → ε → σ) : List ε → List (Taken σ ε) → σ → List (Taken σ ε) × σ
  | [], past, s => (past, s)
  | e :: es, past, s => played next es (⟨s, e, next s e⟩ :: past) (next s e)

/-- The steps events make are steps of those events. -/
theorem played_event {next : σ → ε → σ} {es : List ε} {past : List (Taken σ ε)} {s : σ}
    {t : Taken σ ε} (mem : t ∈ (played next es past s).1) : t ∈ past ∨ t.event ∈ es := by
  induction es generalizing past s with
  | nil => exact .inl mem
  | cons e es ih =>
    rcases ih mem with before | later
    · rcases List.mem_cons.mp before with rfl | before
      · exact .inr (List.mem_cons_self ..)
      · exact .inl before
    · exact .inr (List.mem_cons_of_mem _ later)

instance playableDecidable (may : σ → ε → Prop) [∀ s e, Decidable (may s e)] (next : σ → ε → σ) :
    ∀ es s, Decidable (Playable may next es s)
  | [], _ => isTrue trivial
  | e :: es, s =>
    have : Decidable (Playable may next es (next s e)) := playableDecidable may next es (next s e)
    inferInstanceAs (Decidable (_ ∧ _))

/-- Playing out events that may happen carries a run on. -/
theorem Run.play {may : σ → ε → Prop} {next : σ → ε → σ}
    (steps : ∀ s e, may s e → step s e (next s e)) {past : List (Taken σ ε)} {s : σ}
    (run : Run init step past s) {es : List ε} (playable : Playable may next es s) :
    Run init step (played next es past s).1 (played next es past s).2 := by
  induction es generalizing past s with
  | nil => exact run
  | cons e es ih => exact ih (.step run (steps s e playable.1)) playable.2

end Telga.Library
