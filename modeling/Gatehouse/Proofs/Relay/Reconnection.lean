import Gatehouse.Proofs.Relay.Inflow

/-!
# When the change feed is tried again

After an attempt that fails and after a subscription that is lost the loop waits and then tries
again.  The first wait after the start or after a success is the initial one; each further wait is
twice as long as the one before, up to a longest one.  Nothing else makes the loop try, least of
all while a subscription is open.

Main results:

- Theorem {lit}`Backoff.HasWaited.wait_eq`: how long the wait after so many others is.
- Theorem {lit}`Intake.hears_paced`: how far the waits have grown in any course of the loop.
- Theorem {lit}`Intake.moments_split`: when each thing in a script is told.
- Theorem {lit}`Intake.elapsed_after_wait`: when a wait is over.
- Theorem {lit}`Intake.attempts_spaced`: when the attempts in a script begin.
-/

namespace Gatehouse

/-! ## Waits that double -/

namespace Backoff

variable {b : Backoff} {initial longest : Duration} {count : Nat}

/-- How long the wait after so many others is, in nanoseconds: the initial one is doubled as many
times, up to the longest. -/
def delay (initial longest : Duration) (count : Nat) : Nat :=
  min (initial.nanoseconds * Nat.pow 2 count) (max initial.nanoseconds longest.nanoseconds)

/-- Whether waits have been as many as this, since they started anew. -/
structure HasWaited (b : Backoff) (initial longest : Duration) (count : Nat) : Prop where
  initial_eq : b.initial = initial
  longest_eq : b.longest.nanoseconds = max initial.nanoseconds longest.nanoseconds
  current_eq : b.current.nanoseconds = delay initial longest count

/-- The wait after one more is twice as long, up to the longest. -/
theorem delay_succ (initial longest : Duration) (count : Nat) :
    delay initial longest (count + 1) =
      min (2 * delay initial longest count) (max initial.nanoseconds longest.nanoseconds) := by
  have hdouble : initial.nanoseconds * Nat.pow 2 (count + 1) =
      2 * (initial.nanoseconds * Nat.pow 2 count) := by
    rw [Nat.pow_eq, Nat.pow_eq, Nat.pow_succ, ← Nat.mul_assoc, Nat.mul_comm]
  unfold delay
  rw [hdouble]
  omega

theorem hasWaited_ofBounds (initial longest : Duration) :
    (ofBounds initial longest).HasWaited initial longest 0 where
  initial_eq := rfl
  longest_eq := by
    rw [ofBounds, Duration.longer_nanoseconds]
    exact Nat.max_comm _ _
  current_eq := by
    have hundoubled : initial.nanoseconds * Nat.pow 2 0 = initial.nanoseconds := Nat.mul_one _
    have hinitial : delay initial longest 0 = initial.nanoseconds := by
      unfold delay
      omega
    exact hinitial.symm

/-- The wait after so many others. -/
theorem HasWaited.wait_eq (h : b.HasWaited initial longest count) :
    b.next.1.nanoseconds = delay initial longest count :=
  h.current_eq

/-- Doubling never runs over: where it would, the wait is the longest already. -/
theorem HasWaited.next (h : b.HasWaited initial longest count) :
    b.next.2.HasWaited initial longest (count + 1) where
  initial_eq := h.initial_eq
  longest_eq := h.longest_eq
  current_eq := by
    have hbound : max initial.nanoseconds longest.nanoseconds ≤ Duration.longestNanoseconds := by
      have hinitial := initial.le_longest
      have hlongest := longest.le_longest
      unfold Duration.longestNanoseconds
      omega
    have hcurrent : b.next.2.current.nanoseconds =
        min (min (2 * b.current.nanoseconds) Duration.longestNanoseconds)
          b.longest.nanoseconds := by
      rw [Backoff.next, Duration.shorter_nanoseconds, Duration.double_nanoseconds]
    rw [hcurrent, h.current_eq, h.longest_eq, delay_succ]
    omega

theorem HasWaited.reset (h : b.HasWaited initial longest count) :
    b.reset.HasWaited initial longest 0 where
  initial_eq := h.initial_eq
  longest_eq := h.longest_eq
  current_eq := by
    have hstart := (hasWaited_ofBounds initial longest).current_eq
    rw [← hstart, Backoff.reset, h.initial_eq]
    rfl

end Backoff

/-! ## Waits in a course of the loop -/

namespace Tiding

/-- How many waits are over since the last attempt that succeeded, or since the start. -/
def waits (told : List Tiding) : Nat :=
  (told.reverse.takeWhile fun t => t != .accepted).count .elapsed

/-- Whether an attempt comes to its end: it has failed, or its subscription has been lost. -/
def EndsAttempt (t : Tiding) : Prop := t = .refused ∨ t = .lost

/-- The end of a wait is not the end of an attempt: it begins the next one. -/
theorem not_endsAttempt_elapsed : ¬ EndsAttempt .elapsed := by
  simp [EndsAttempt]

variable {told : List Tiding} {t : Tiding}

@[simp]
theorem waits_accepted (told : List Tiding) : waits (told ++ [.accepted]) = 0 := by
  simp [waits]

@[simp]
theorem waits_elapsed (told : List Tiding) : waits (told ++ [.elapsed]) = waits told + 1 := by
  simp [waits]

/-- Whatever else is told leaves the waits as they are. -/
theorem waits_append (haccepted : t ≠ .accepted) (helapsed : t ≠ .elapsed) :
    waits (told ++ [t]) = waits told := by
  simp [waits, haccepted, helapsed]

end Tiding

namespace Intake

variable {i : Intake} {told : List Tiding} {t : Tiding} {initial longest : Duration}

/-- Where the loop stands with its waits after what it has been told: it makes an attempt at the
start and when a wait is over, and it waits when an attempt has come to its end, for as long as
it has to after the waits since the last success. -/
def Paced (initial longest : Duration) (told : List Tiding) (i : Intake) : Prop :=
  match i.stage with
  | .connecting =>
      (told = [] ∨ ∃ earlier, told = earlier ++ [.elapsed]) ∧
        i.backoff.HasWaited initial longest (Tiding.waits told)
  | .subscribed => i.backoff.HasWaited initial longest (Tiding.waits told)
  | .waiting wait =>
      (∃ earlier cause, told = earlier ++ [cause] ∧ cause.EndsAttempt) ∧
        wait.nanoseconds = Backoff.delay initial longest (Tiding.waits told) ∧
        i.backoff.HasWaited initial longest (Tiding.waits told + 1)
  | .stopped => True

theorem paced_start (hub : Hub) (initial longest : Duration) :
    (start hub (.ofBounds initial longest)).Paced initial longest [] :=
  ⟨.inl rfl, Backoff.hasWaited_ofBounds initial longest⟩

/-- The loop begins the wait that is due when an attempt comes to its end. -/
theorem paced_rest {hub : Hub} {b : Backoff} {stage : Stage}
    (hb : b.HasWaited initial longest (Tiding.waits told)) (hends : t.EndsAttempt) :
    (rest ⟨hub, b, stage⟩).Paced initial longest (told ++ [t]) := by
  have hsame : Tiding.waits (told ++ [t]) = Tiding.waits told := by
    rcases hends with rfl | rfl <;> exact Tiding.waits_append (by simp) (by simp)
  refine ⟨⟨told, t, rfl, hends⟩, ?_⟩
  rw [hsame]
  exact ⟨hb.wait_eq, hb.next⟩

/-- Whatever the loop can be told keeps it paced. -/
theorem Paced.next (h : i.Paced initial longest told) (ht : i.stage.Hears t) :
    (i.next t).Paced initial longest (told ++ [t]) := by
  rcases i with ⟨hub, b, stage⟩
  cases ht with
  | refused => exact paced_rest h.2 (.inl rfl)
  | accepted =>
      have hanew : b.reset.HasWaited initial longest (Tiding.waits (told ++ [.accepted])) := by
        rw [Tiding.waits_accepted]
        exact h.2.reset
      exact hanew
  | frame text =>
      have hsame : b.HasWaited initial longest (Tiding.waits (told ++ [.frame text])) := by
        rw [Tiding.waits_append (by simp) (by simp)]
        exact h
      exact hsame
  | lost => exact paced_rest h (.inr rfl)
  | elapsed wait =>
      have hover : b.HasWaited initial longest (Tiding.waits (told ++ [.elapsed])) := by
        rw [Tiding.waits_elapsed]
        exact h.2.2
      exact ⟨.inr ⟨told, rfl⟩, hover⟩
  | shutdown =>
      unfold Paced
      rw [next_shutdown_stage]
      trivial

/-- In any course of the loop its waits are paced. -/
theorem hears_paced {before later : List Tiding} (h : i.Paced initial longest before)
    (hlater : i.Hears later) :
    (later.foldl Intake.next i).Paced initial longest (before ++ later) := by
  induction later generalizing i before with
  | nil =>
      rw [List.append_nil]
      exact h
  | cons t rest ih =>
      rcases hlater with ⟨hnow, hrest⟩
      have hpaced := ih (h.next hnow) hrest
      rw [List.append_assoc] at hpaced
      exact hpaced

/-- While a subscription is open no wait is over before the subscription is lost. -/
theorem lost_mem_of_hears {between rest : List Tiding} (h : i.stage = .subscribed)
    (hears : i.Hears (between ++ .elapsed :: rest)) : .lost ∈ between := by
  induction between generalizing i with
  | nil =>
      have hnow : i.stage.Hears .elapsed := hears.1
      rw [h] at hnow
      cases hnow
  | cons t between ih =>
      rcases hears with ⟨hnow, hlater⟩
      rcases i with ⟨hub, b, stage⟩
      cases h
      cases hnow with
      | lost => exact List.mem_cons_self
      | frame text => exact List.mem_cons_of_mem _ (ih rfl hlater)
      | shutdown =>
          -- A loop that is stopped is told nothing more.
          cases between with
          | nil => cases hlater.1
          | cons next between =>
              cases hlater.1
              contradiction

end Intake

/-! ## What follows the end of an attempt -/

namespace Attempt

/-- Whether after the end of each attempt the next thing in a script is that a wait is over, with
no time beyond the wait. -/
def Resumed : List (Nat × Tiding) → Prop
  | [] => True
  | (_, t) :: rest => (t.EndsAttempt → ∃ later, rest = (0, .elapsed) :: later) ∧ Resumed rest

variable {going script : List (Nat × Tiding)}

/-- Where no attempt ends there is nothing to follow. -/
theorem resumed_append (hgoing : ∀ step ∈ going, ¬ step.2.EndsAttempt) (h : Resumed script) :
    Resumed (going ++ script) := by
  induction going with
  | nil => exact h
  | cons step going ih =>
      have hnow : ¬ step.2.EndsAttempt := hgoing step List.mem_cons_self
      have hlater : Resumed (going ++ script) :=
        ih fun step hstep => hgoing step (List.mem_cons_of_mem _ hstep)
      exact ⟨fun hends => absurd hends hnow, hlater⟩

/-- What follows the end of an attempt anywhere in a script. -/
theorem Resumed.follows {done later : List (Nat × Tiding)} {gap : Nat} {cause : Tiding}
    (h : Resumed (done ++ (gap, cause) :: later)) (hends : cause.EndsAttempt) :
    ∃ rest, later = (0, .elapsed) :: rest := by
  induction done with
  | nil => exact h.1 hends
  | cons step done ih => exact ih h.2

/-- An attempt either does not end or ends with the last thing that is told in it; no wait is over
in it. -/
theorem tidings_cases (a : Attempt) :
    ∃ going, (∀ step ∈ going, ¬ step.2.EndsAttempt ∧ step.2 ≠ .elapsed) ∧
      (a.isOver = false ∧ a.tidings = going ∨
        a.isOver = true ∧ ∃ gap cause, a.tidings = going ++ [(gap, cause)] ∧
          cause.EndsAttempt) := by
  unfold tidings isOver
  cases a.subscription with
  | none => exact ⟨[], by simp, .inr ⟨rfl, a.takes, .refused, rfl, .inl rfl⟩⟩
  | some s =>
      let frames := s.frames.map fun step => (step.1, Tiding.frame step.2)
      have hgoing : ∀ step ∈ (a.takes, Tiding.accepted) :: frames,
          ¬ step.2.EndsAttempt ∧ step.2 ≠ .elapsed := by
        intro step hstep
        rcases List.mem_cons.1 hstep with rfl | hframe
        · simp [Tiding.EndsAttempt]
        · rcases List.mem_map.1 hframe with ⟨source, -, rfl⟩
          simp [Tiding.EndsAttempt]
      refine ⟨_, hgoing, ?_⟩
      simp only [Option.all_some, Subscription.tidings]
      cases s.lasts with
      | none => exact .inl ⟨rfl, by simp [frames]⟩
      | some gap => exact .inr ⟨rfl, gap, .lost, rfl, .inr rfl⟩

/-- In the course of some attempts each that ends is followed by the end of a wait. -/
theorem resumed_course (attempts : List Attempt) : Resumed (course attempts) := by
  induction attempts with
  | nil => trivial
  | cons a rest ih =>
      rcases a.tidings_cases with ⟨going, hgoing, hcases⟩
      have hfree : ∀ step ∈ going, ¬ step.2.EndsAttempt := fun step hstep => (hgoing step hstep).1
      rw [course]
      rcases hcases with ⟨hover, htidings⟩ | ⟨hover, gap, cause, htidings, -⟩
      · have hrest : Resumed (if a.isOver then (0, .elapsed) :: course rest else []) := by
          rw [if_neg (by simp [hover])]
          trivial
        rw [htidings]
        exact resumed_append hfree hrest
      · have hwaited : Resumed ((gap, cause) :: (0, .elapsed) :: course rest) :=
          ⟨fun _ => ⟨_, rfl⟩, fun hends => absurd hends Tiding.not_endsAttempt_elapsed, ih⟩
        rw [htidings, if_pos hover, List.append_assoc]
        exact resumed_append hfree hwaited

/-- No wait is over while an attempt goes on. -/
theorem elapsed_not_mem_tidings (a : Attempt) (gap : Nat) : (gap, .elapsed) ∉ a.tidings := by
  rcases a.tidings_cases with ⟨going, hgoing, hcases⟩
  intro hmem
  rcases hcases with ⟨-, htidings⟩ | ⟨-, last, cause, htidings, hends⟩
  · rw [htidings] at hmem
    exact (hgoing _ hmem).2 rfl
  · rw [htidings, List.mem_append, List.mem_singleton] at hmem
    rcases hmem with hmem | hmem
    · exact (hgoing _ hmem).2 rfl
    · cases hmem
      exact Tiding.not_endsAttempt_elapsed hends

/-- A wait takes no longer than it has to. -/
theorem gap_eq_zero_of_elapsed {attempts : List Attempt} {gap : Nat}
    (h : (gap, .elapsed) ∈ course attempts) : gap = 0 := by
  induction attempts with
  | nil => cases h
  | cons a rest ih =>
      rw [course, List.mem_append] at h
      have hrest := h.resolve_left (a.elapsed_not_mem_tidings gap)
      by_cases hover : a.isOver = true
      · rw [if_pos hover, List.mem_cons] at hrest
        rcases hrest with hnow | hlater
        · exact congrArg Prod.fst hnow
        · exact ih hlater
      · rw [if_neg hover] at hrest
        cases hrest

end Attempt

/-! ## The times of the attempts -/

namespace Intake

variable {i : Intake}

/-- The loop after what it has been told at some times. -/
def after (i : Intake) (told : List (Nat × Tiding)) : Intake :=
  (told.map Prod.snd).foldl next i

/-- Each thing is told after the one before it, once the loop has waited if it has to and the time
that the script says has passed. -/
theorem moments_split {now time : Nat} {t : Tiding} {script before rest : List (Nat × Tiding)}
    (h : i.moments now script = before ++ (time, t) :: rest) :
    ∃ gap done later, script = done ++ (gap, t) :: later ∧
      later.map Prod.snd = rest.map Prod.snd ∧
      time = (before.map Prod.fst).getLast?.getD now + (i.after before).pause + gap := by
  induction before generalizing i now script with
  | nil =>
      cases script with
      | nil => cases h
      | cons step script =>
          rcases step with ⟨gap, first⟩
          rw [moments, List.nil_append] at h
          injection h with hstep hrest
          cases hstep
          refine ⟨gap, [], script, rfl, ?_, rfl⟩
          rw [← hrest, moments_map_snd]
  | cons told before ih =>
      cases script with
      | nil => cases h
      | cons step script =>
          rcases step with ⟨gap, first⟩
          rw [moments, List.cons_append] at h
          injection h with hstep hrest
          rcases ih hrest with ⟨gap', done, later, hscript, hlater, htime⟩
          refine ⟨gap', (gap, first) :: done, later, ?_, hlater, ?_⟩
          · rw [hscript]
            rfl
          · rw [htime, ← hstep, List.map_cons, List.getLast?_cons, Option.getD_some]
            rfl

section Script

variable {initial longest : Duration} {attempts : List Attempt} {now time : Nat}
  {before rest : List (Nat × Tiding)} (h : i.stage = .connecting)
include h

/-- The loop can be told each thing that it is told when it is told. -/
theorem hears_moments (htold : i.moments now (Attempt.course attempts) = before ++ rest) :
    i.Hears (before.map Prod.snd) ∧ (i.after before).Hears (rest.map Prod.snd) := by
  have hall := i.hears_course h attempts
  rw [← moments_map_snd i now, htold, List.map_append, hears_append] at hall
  exact hall

/-- The loop makes an attempt at the start and when a wait is over, and at no other time. -/
theorem connecting_iff (hpaced : i.Paced initial longest [])
    (htold : i.moments now (Attempt.course attempts) = before ++ rest) :
    (i.after before).stage = .connecting ↔
      before = [] ∨ ∃ earlier time, before = earlier ++ [(time, .elapsed)] := by
  have hhears : i.Hears (before.map Prod.snd) := (hears_moments h htold).1
  constructor
  · intro hconnecting
    have hstands : (i.after before).Paced initial longest (before.map Prod.snd) :=
      hears_paced hpaced hhears
    unfold Paced at hstands
    rw [hconnecting] at hstands
    rcases hstands.1 with hnone | ⟨earlier, hlast⟩
    · exact .inl (List.map_eq_nil_iff.1 hnone)
    · rcases List.map_eq_append_iff.1 hlast with ⟨first, last, rfl, -, hsingle⟩
      rcases List.map_eq_singleton_iff.1 hsingle with ⟨⟨time, t⟩, rfl, rfl⟩
      exact .inr ⟨first, time, rfl⟩
  · rintro (rfl | ⟨earlier, time, rfl⟩)
    · exact h
    · rw [List.append_assoc] at htold
      have hwaits := (hears_moments h htold).2.1
      unfold after
      rw [List.map_append, List.foldl_append]
      change ((i.after earlier).next .elapsed).stage = .connecting
      generalize i.after earlier = j at hwaits
      rcases j with ⟨hub, b, stage⟩
      cases hwaits
      rfl

/-- A wait is over so long after the end of an attempt as the waits before it make it. -/
theorem elapsed_after_wait (hpaced : i.Paced initial longest [])
    (htold : i.moments now (Attempt.course attempts) = before ++ (time, .elapsed) :: rest) :
    ∃ earlier ended cause wait, before = earlier ++ [(ended, cause)] ∧ cause.EndsAttempt ∧
      (i.after before).stage = .waiting wait ∧
      wait.nanoseconds = Backoff.delay initial longest (Tiding.waits (before.map Prod.snd)) ∧
      time = ended + wait.ceilMilliseconds := by
  rcases hears_moments h htold with ⟨hhears, hnow⟩
  have hstands : (i.after before).Paced initial longest (before.map Prod.snd) :=
    hears_paced hpaced hhears
  rcases moments_split htold with ⟨gap, done, later, hscript, -, htime⟩
  have hmem : (gap, .elapsed) ∈ Attempt.course attempts := by
    rw [hscript]
    exact List.mem_append_right _ List.mem_cons_self
  have hgap : gap = 0 := Attempt.gap_eq_zero_of_elapsed hmem
  have hwaiting : ∃ wait, (i.after before).stage = .waiting wait := by
    have hstage := hnow.1
    generalize (i.after before).stage = stage at hstage
    cases hstage with
    | elapsed wait => exact ⟨wait, rfl⟩
  rcases hwaiting with ⟨wait, hwait⟩
  unfold Paced at hstands
  rw [hwait] at hstands
  rcases hstands with ⟨⟨earlier, cause, hlast, hends⟩, hlength, -⟩
  rcases List.map_eq_append_iff.1 hlast with ⟨first, last, rfl, -, hsingle⟩
  rcases List.map_eq_singleton_iff.1 hsingle with ⟨⟨ended, t⟩, rfl, rfl⟩
  refine ⟨first, ended, t, wait, rfl, hends, hwait, hlength, ?_⟩
  have hpause : (i.after (first ++ [(ended, t)])).pause = wait.ceilMilliseconds := by
    rw [pause, hwait]
  rw [htime, hpause, hgap, Nat.add_zero, List.map_append, List.map_singleton,
    List.getLast?_concat, Option.getD_some]

/-- Between a success and the end of a later wait the subscription is lost. -/
theorem lost_between {opened : Nat} {between : List (Nat × Tiding)}
    (htold : i.moments now (Attempt.course attempts) =
      before ++ (opened, .accepted) :: (between ++ (time, .elapsed) :: rest)) :
    ∃ ended, (ended, .lost) ∈ between := by
  have hhears := (hears_moments h htold).2
  rw [List.map_cons, List.map_append, List.map_cons] at hhears
  have hopen : ((i.after before).next .accepted).stage = .subscribed := by
    have hstage := hhears.1
    generalize i.after before = j at hstage
    rcases j with ⟨hub, b, stage⟩
    cases hstage
    rfl
  have hlost : .lost ∈ between.map Prod.snd := lost_mem_of_hears hopen hhears.2
  rcases List.mem_map.1 hlost with ⟨⟨ended, t⟩, hmem, rfl⟩
  exact ⟨ended, hmem⟩

end Script

/-- The end of an attempt is followed by the end of a wait. -/
theorem elapsed_follows_end {now ended : Nat} {cause : Tiding} {attempts : List Attempt}
    {before rest : List (Nat × Tiding)} (hends : cause.EndsAttempt)
    (htold : i.moments now (Attempt.course attempts) = before ++ (ended, cause) :: rest) :
    ∃ time later, rest = (time, .elapsed) :: later := by
  rcases moments_split htold with ⟨gap, done, later, hscript, hlater, -⟩
  have hresumed := Attempt.resumed_course attempts
  rw [hscript] at hresumed
  rcases hresumed.follows hends with ⟨further, rfl⟩
  rw [List.map_cons] at hlater
  rcases List.map_eq_cons_iff.1 hlater.symm with ⟨⟨time, t⟩, rest, rfl, rfl, -⟩
  exact ⟨time, rest, rfl⟩

/-- In every script the loop makes its first attempt at the start and each further one when a wait
is over.  There is a wait after each attempt that fails and after each subscription that is lost,
and nowhere else; while a subscription is open there is no attempt.  The wait is the initial one,
doubled as many times as there have been waits since the last success or the start, up to the
longest one, which counts as no shorter than the initial one.  It is measured from the failure or
the loss, on a clock that counts milliseconds, a part of one in full.  A deadline cuts all this off
and does nothing else to it. -/
theorem attempts_spaced (hub : Hub) (initial longest : Duration) (attempts : List Attempt) :
    let i := start hub (.ofBounds initial longest)
    let told := i.moments 0 (Attempt.course attempts)
    (∀ before rest, told = before ++ rest →
      ((i.after before).stage = .connecting ↔
        before = [] ∨ ∃ earlier time, before = earlier ++ [(time, .elapsed)])) ∧
    (∀ before time rest, told = before ++ (time, .elapsed) :: rest →
      ∃ earlier ended cause wait, before = earlier ++ [(ended, cause)] ∧ cause.EndsAttempt ∧
        (i.after before).stage = .waiting wait ∧
        wait.nanoseconds =
          min (initial.nanoseconds * Nat.pow 2 (Tiding.waits (before.map Prod.snd)))
            (max initial.nanoseconds longest.nanoseconds) ∧
        time = ended + wait.ceilMilliseconds ∧
        (1000000 ∣ wait.nanoseconds → 1000000 * (time - ended) = wait.nanoseconds)) ∧
    (∀ before ended cause rest, told = before ++ (ended, cause) :: rest → cause.EndsAttempt →
      ∃ time later, rest = (time, .elapsed) :: later) ∧
    (∀ before opened between time rest,
      told = before ++ (opened, .accepted) :: (between ++ (time, .elapsed) :: rest) →
      ∃ ended, (ended, .lost) ∈ between) ∧
    ∀ deadline, i.toldBefore deadline attempts <+: told := by
  intro i told
  have hstart : i.stage = .connecting := rfl
  have hpaced : i.Paced initial longest [] := paced_start hub initial longest
  refine ⟨?_, ?_, ?_, ?_, ?_⟩
  · intro before rest htold
    exact connecting_iff hstart hpaced htold
  · intro before time rest htold
    rcases elapsed_after_wait hstart hpaced htold with
      ⟨earlier, ended, cause, wait, hbefore, hends, hstage, hlength, htime⟩
    refine ⟨earlier, ended, cause, wait, hbefore, hends, hstage, hlength, htime, ?_⟩
    intro hwhole
    unfold Duration.ceilMilliseconds at htime
    omega
  · intro before ended cause rest htold hends
    exact elapsed_follows_end hends htold
  · intro before opened between time rest htold
    exact lost_between hstart htold
  · intro deadline
    exact List.takeWhile_prefix _

/-- A failure, a success that lasts a while, and two more failures. -/
def unsteady : List Attempt :=
  [⟨10, none⟩, ⟨5, some ⟨[(3, "beat")], some 20⟩⟩, ⟨7, none⟩, ⟨1, none⟩]

/-- With waits from 500 to 1800 milliseconds: the success makes them start anew, the second
after it is doubled and the third is the longest. -/
theorem attempts_spaced_of_unsteady :
    let i := start ⟨4, 0, [], []⟩ (.ofBounds (.ofMilliseconds 500) (.ofMilliseconds 1800))
    let before := [(10, Tiding.refused), (510, .elapsed), (515, .accepted), (518, .frame "beat"),
      (538, .lost), (1038, .elapsed), (1045, .refused), (2045, .elapsed), (2046, .refused)]
    i.moments 0 (Attempt.course unsteady) = before ++ [(3846, .elapsed)] ∧
    ∃ earlier ended cause wait, before = earlier ++ [(ended, cause)] ∧ cause.EndsAttempt ∧
      (i.after before).stage = .waiting wait ∧ wait.nanoseconds = 1800000000 ∧
      1000000 * (3846 - ended) = wait.nanoseconds := by
  intro i before
  have htold : i.moments 0 (Attempt.course unsteady) = before ++ [(3846, .elapsed)] := by decide
  refine ⟨htold, ?_⟩
  have hspaced :=
    attempts_spaced ⟨4, 0, [], []⟩ (.ofMilliseconds 500) (.ofMilliseconds 1800) unsteady
  rcases hspaced.2.1 before 3846 [] htold with
    ⟨earlier, ended, cause, wait, hbefore, hends, hstage, hlength, -, hwhole⟩
  have hlongest : wait.nanoseconds = 1800000000 := by
    rw [hlength]
    decide
  refine ⟨earlier, ended, cause, wait, hbefore, hends, hstage, hlongest, hwhole ?_⟩
  rw [hlongest]
  decide

end Intake

end Gatehouse
