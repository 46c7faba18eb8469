import Mathlib.Data.List.Basic
import Mathlib.Tactic.Common

namespace Telga.Library.FixedWindow

/-- The start of the window that is open after some times, the latest first. A window opens with
the first time that is not in the one before it. -/
def opened (span : Int) : List Int → Option Int
  | [] => none
  | time :: earlier =>
    match opened span earlier with
    | none => some time
    | some start => if span ≤ time - start then some time else some start

/-- A time opens a window, or the window that is open has let fewer than the limit through. -/
def passes (span : Int) (limit : Nat) (time : Int) (start : Option Int) (through : List Int) :
    Bool :=
  match start with
  | none => true
  | some start => span ≤ time - start || through.countP (start ≤ ·) < limit

/-- The times that are let through. -/
def through (span : Int) (limit : Nat) : List Int → List Int
  | [] => []
  | time :: earlier =>
    if passes span limit time (opened span earlier) (through span limit earlier) then
      time :: through span limit earlier
    else through span limit earlier

/-- A window opened at a start among some times. -/
def Opens (span : Int) (times : List Int) (start : Int) : Prop :=
  ∃ newer older, times = newer ++ older ∧ opened span older = some start

/-- How many times fall into the window of a start. -/
def inside (span start : Int) (times : List Int) : Nat :=
  times.countP fun time => start ≤ time ∧ time < start + span

variable {span start time : Int} {limit : Nat} {times earlier : List Int}

theorem opened_cons : opened span (time :: earlier) =
    match opened span earlier with
    | none => some time
    | some start => if span ≤ time - start then some time else some start :=
  rfl

theorem through_cons : through span limit (time :: earlier) =
    if passes span limit time (opened span earlier) (through span limit earlier) then
      time :: through span limit earlier
    else through span limit earlier :=
  rfl

theorem opened_cons_none (none : opened span earlier = none) :
    opened span (time :: earlier) = some time := by
  rw [opened_cons, none]

theorem opened_cons_over (open' : opened span earlier = some start)
    (closed : span ≤ time - start) : opened span (time :: earlier) = some time := by
  rw [opened_cons, open']
  exact if_pos closed

theorem opened_cons_live (open' : opened span earlier = some start)
    (live : ¬ span ≤ time - start) : opened span (time :: earlier) = some start := by
  rw [opened_cons, open']
  exact if_neg live

theorem opened_eq_none : opened span times = none ↔ times = [] := by
  cases times with
  | nil => exact iff_of_true rfl rfl
  | cons time earlier =>
    cases open' : opened span earlier with
    | none => simp [opened_cons_none open']
    | some start =>
      by_cases closed : span ≤ time - start
      · simp [opened_cons_over open' closed]
      · simp [opened_cons_live open' closed]

theorem opened_mem (open' : opened span times = some start) : start ∈ times := by
  induction times with
  | nil => cases open'
  | cons time earlier ih =>
    cases before : opened span earlier with
    | none =>
      rw [opened_cons_none before] at open'
      cases open'
      exact List.mem_cons_self
    | some last =>
      by_cases closed : span ≤ time - last
      · rw [opened_cons_over before closed] at open'
        cases open'
        exact List.mem_cons_self
      · rw [opened_cons_live before closed] at open'
        cases open'
        exact List.mem_cons_of_mem _ (ih before)

/-- No time is after the window that is open. -/
theorem before_close (wide : 0 < span) (open' : opened span times = some start) :
    ∀ time ∈ times, time < start + span := by
  induction times generalizing start with
  | nil => cases open'
  | cons last earlier ih =>
    cases before : opened span earlier with
    | none =>
      rw [opened_cons_none before] at open'
      rw [opened_eq_none.mp before]
      cases open'
      intro time listed
      rw [List.mem_singleton.mp listed]
      omega
    | some old =>
      by_cases closed : span ≤ last - old
      · rw [opened_cons_over before closed] at open'
        cases open'
        intro time listed
        rcases List.mem_cons.mp listed with same | listed
        · omega
        · have := ih before time listed
          omega
      · rw [opened_cons_live before closed] at open'
        cases open'
        intro time listed
        rcases List.mem_cons.mp listed with same | listed
        · omega
        · exact ih before time listed

theorem opens_now (open' : opened span times = some start) : Opens span times start :=
  ⟨[], times, rfl, open'⟩

theorem Opens.cases (opens : Opens span (time :: earlier) start) :
    opened span (time :: earlier) = some start ∨ Opens span earlier start := by
  obtain ⟨newer, older, split, open'⟩ := opens
  cases newer with
  | nil =>
    rw [List.nil_append] at split
    rw [split]
    exact .inl open'
  | cons head newer =>
    rw [List.cons_append] at split
    exact .inr ⟨newer, older, (List.cons.inj split).2, open'⟩

/-- The windows before the one that is open are over where it starts. -/
theorem Opens.over (wide : 0 < span) (opens : Opens span times start) {last : Int}
    (open' : opened span times = some last) : start = last ∨ start + span ≤ last := by
  induction times generalizing last with
  | nil => cases open'
  | cons time earlier ih =>
    rcases opens.cases with now | before
    · rw [now] at open'
      exact .inl (Option.some.inj open')
    · cases found : opened span earlier with
      | none =>
        rw [opened_eq_none.mp found] at before
        obtain ⟨newer, older, split, opened'⟩ := before
        rw [(List.append_eq_nil_iff.mp split.symm).2] at opened'
        cases opened'
      | some old =>
        have reached := ih before found
        by_cases closed : span ≤ time - old
        · rw [opened_cons_over found closed] at open'
          cases open'
          exact .inr (by omega)
        · rw [opened_cons_live found closed] at open'
          cases open'
          exact reached

theorem through_sublist : (through span limit times).Sublist times := by
  induction times with
  | nil => exact List.Sublist.refl _
  | cons time earlier ih =>
    rw [through_cons]
    split
    · exact ih.cons_cons time
    · exact ih.cons time

theorem inside_cons :
    inside span start (time :: times) =
      inside span start times + if start ≤ time ∧ time < start + span then 1 else 0 := by
  unfold inside
  rw [List.countP_cons]
  simp only [decide_eq_true_eq]

/-- Each window lets at most the limit through. -/
theorem inside_le (wide : 0 < span) (some' : 1 ≤ limit)
    (ordered : times.Pairwise (· ≥ ·)) (opens : Opens span times start) :
    inside span start (through span limit times) ≤ limit := by
  induction times with
  | nil => exact Nat.zero_le _
  | cons time earlier ih =>
    obtain ⟨latest, ordered⟩ := List.pairwise_cons.mp ordered
    have outside : ∀ {last : Int}, opened span earlier = some last → span ≤ time - last →
        inside span time (through span limit earlier) = 0 := by
      intro last found closed
      unfold inside
      rw [List.countP_eq_zero]
      intro other listed held
      have early := before_close wide found other (through_sublist.subset listed)
      have late := (of_decide_eq_true held).1
      omega
    rw [through_cons]
    cases found : opened span earlier with
    | none =>
      rw [opened_eq_none.mp found]
      simp only [passes, through]
      rw [if_pos trivial, inside_cons]
      unfold inside
      split
      · simp; omega
      · simp
    | some last =>
      by_cases closed : span ≤ time - last
      · rw [if_pos (by simp [passes, closed]), inside_cons]
        rcases opens.cases with now | before
        · rw [opened_cons_over found closed] at now
          cases now
          rw [outside found closed]
          split <;> omega
        · have reached := before.over wide found
          rw [if_neg (by omega)]
          exact ih ordered before
      · have before : Opens span earlier start := by
          rcases opens.cases with now | before
          · rw [opened_cons_live found closed] at now
            cases now
            exact opens_now found
          · exact before
        by_cases few : (through span limit earlier).countP (last ≤ ·) < limit
        · rw [if_pos (by simp [passes, few]), inside_cons]
          rcases before.over wide found with same | past
          · rw [same]
            have fewer : inside span last (through span limit earlier) ≤
                (through span limit earlier).countP (last ≤ ·) := by
              apply List.countP_mono_left
              intro other _ held
              exact decide_eq_true (of_decide_eq_true held).1
            split <;> omega
          · have after := latest last (opened_mem found)
            rw [if_neg (by omega)]
            exact ih ordered before
        · rw [if_neg (by simp [passes, closed]; omega)]
          exact ih ordered before

/-- What opens a window is let through. -/
theorem Opens.passed (opens : Opens span times start) : start ∈ through span limit times := by
  induction times with
  | nil =>
    obtain ⟨newer, older, split, opened'⟩ := opens
    rw [(List.append_eq_nil_iff.mp split.symm).2] at opened'
    cases opened'
  | cons time earlier ih =>
    rw [through_cons]
    have kept : Opens span earlier start → start ∈
        if passes span limit time (opened span earlier) (through span limit earlier) then
          time :: through span limit earlier
        else through span limit earlier := by
      intro before
      split
      · exact List.mem_cons_of_mem _ (ih before)
      · exact ih before
    rcases opens.cases with now | before
    · cases found : opened span earlier with
      | none =>
        rw [opened_cons_none found] at now
        cases now
        rw [if_pos (by simp [passes])]
        exact List.mem_cons_self
      | some last =>
        by_cases closed : span ≤ time - last
        · rw [opened_cons_over found closed] at now
          cases now
          rw [if_pos (by simp [passes, closed])]
          exact List.mem_cons_self
        · rw [opened_cons_live found closed] at now
          cases now
          rw [← found]
          exact kept (opens_now found)
    · exact kept before

end Telga.Library.FixedWindow
