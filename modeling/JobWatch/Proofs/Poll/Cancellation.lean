import JobWatch.Poll.Wait
import Mathlib.Data.List.Basic
import Mathlib.Data.List.Infix

/-! Waits under a token that is cancelled now or later, in any order with other steps. Of all times
at which the token is cancelled only the earliest one counts: a wait that begins behind it is over
at once, a wait that it falls into is cut there, and every other wait takes its whole interval.
-/

namespace JobWatch.Poll

-----------------------------------------------------------------------
-- Earliest times
-----------------------------------------------------------------------

/-- Some times lead others if none of the others comes before all of them. -/
def Leads (left right : List Nat) : Prop :=
  ∀ time ∈ right, ∃ earlier ∈ left, earlier ≤ time

theorem Leads.of_subset {left right : List Nat} (subset : ∀ time ∈ right, time ∈ left)
    : Leads left right :=
  fun time member => ⟨time, subset time member, Nat.le_refl time⟩

theorem Leads.append {left right : List Nat} (leads : Leads left right) (more : List Nat)
    : Leads (left ++ more) (right ++ more) := by
  intro time member
  rcases List.mem_append.mp member with member | member
  · obtain ⟨earlier, isThere, order⟩ := leads time member
    exact ⟨earlier, List.mem_append_left _ isThere, order⟩
  · exact ⟨time, List.mem_append_right _ member, Nat.le_refl time⟩

/-- Times that lead each other have the same earliest one, by cases of there being any. -/
theorem Leads.min?_eq {left right : List Nat} (leads : Leads left right) (led : Leads right left)
    : left.min? = right.min? := by
  cases found : right.min? with
  | none =>
      obtain rfl := List.min?_eq_none_iff.mp found
      refine List.min?_eq_none_iff.mpr (List.eq_nil_iff_forall_not_mem.mpr fun time member => ?_)
      obtain ⟨_, isThere, _⟩ := led time member
      cases isThere
  | some earliest =>
      obtain ⟨isThere, least⟩ := List.min?_eq_some_iff.mp found
      obtain ⟨earlier, member, order⟩ := leads earliest isThere
      have atLeast {time : Nat} (member : time ∈ left) : earliest ≤ time := by
        obtain ⟨other, isOther, order⟩ := led time member
        exact Nat.le_trans (least other isOther) order
      obtain rfl := Nat.le_antisymm order (atLeast member)
      exact List.min?_eq_some_iff.mpr ⟨member, fun time => atLeast⟩

/-- The earliest of some times is no later than any of them. -/
theorem exists_min?_le {times : List Nat} {time : Nat} (member : time ∈ times)
    : ∃ earliest, times.min? = some earliest ∧ earliest ≤ time := by
  obtain ⟨earliest, found⟩ := Option.isSome_iff_exists.mp (List.isSome_min?_of_mem member)
  exact ⟨earliest, found, (List.min?_eq_some_iff.mp found).2 time member⟩

-----------------------------------------------------------------------
-- Turns
-----------------------------------------------------------------------

/-- One step of a sequence: when it begins, its result if it is a wait, and when it is over. -/
structure Turn where
  step : WaitStep
  begun : Nat
  result : Option Bool
  ended : Nat
  deriving DecidableEq, Repr

/-- The steps of a sequence in order, with the clock at the first one. -/
def turns (interval : Nat) : Clock → List WaitStep → List Turn
  | _, [] => []
  | clock, step :: steps =>
    { step
      begun := clock.now
      result := (step.take interval clock).1
      ended := (step.take interval clock).2.now }
      :: turns interval (step.take interval clock).2 steps

/-- The clock behind the steps of a sequence. -/
def Clock.behind (interval : Nat) (clock : Clock) (steps : List WaitStep) : Clock :=
  steps.foldl (fun clock step => (step.take interval clock).2) clock

/-- The time at which a step that begins at some time cancels the token. -/
def WaitStep.cancels? (begun : Nat) : WaitStep → Option Nat
  | .cancel => some begun
  | .cancelIn delay => some (begun + delay)
  | .wait _ | .sleep _ => none

namespace Turn

/-- What a timeline tells of a step. -/
def row (turn : Turn) : Option Bool × Nat :=
  (turn.result, turn.ended)

/-- The time at which the step cancels the token. -/
def cancels? (turn : Turn) : Option Nat :=
  turn.step.cancels? turn.begun

/-- The step is a wait. -/
def isWait (turn : Turn) : Bool :=
  match turn.step with
  | .wait _ => true
  | .cancel | .cancelIn _ | .sleep _ => false

end Turn

/-- The times at which the token is cancelled, in the order of the steps that do it. -/
def cancellations (turns : List Turn) : List Nat :=
  turns.filterMap Turn.cancels?

variable {interval : Nat} {clock : Clock} {times : List Nat}

theorem timeline_eq (interval : Nat) (clock : Clock) (steps : List WaitStep)
    : timeline interval clock steps = (turns interval clock steps).map Turn.row := by
  induction steps generalizing clock with
  | nil => rfl
  | cons step steps ih => exact congrArg (List.cons _) (ih _)

theorem turns_append (interval : Nat) (clock : Clock) (front back : List WaitStep)
    : turns interval clock (front ++ back)
      = turns interval clock front ++ turns interval (clock.behind interval front) back := by
  induction front generalizing clock with
  | nil => rfl
  | cons step front ih => exact congrArg (List.cons _) (ih _)

theorem length_turns (interval : Nat) (clock : Clock) (steps : List WaitStep)
    : (turns interval clock steps).length = steps.length := by
  induction steps generalizing clock with
  | nil => rfl
  | cons step steps ih => exact congrArg Nat.succ (ih _)

theorem cancellations_append (front back : List Turn)
    : cancellations (front ++ back) = cancellations front ++ cancellations back :=
  List.filterMap_append

theorem cancellations_cons (turn : Turn) (rest : List Turn)
    : cancellations (turn :: rest) = turn.cancels?.toList ++ cancellations rest := by
  cases cancels : turn.cancels? <;> simp [cancellations, cancels]

-----------------------------------------------------------------------
-- What the clock knows of the cancellations
-----------------------------------------------------------------------

/-- A clock keeps the cancellations of some times: once one of them has come the token is cancelled,
and until then all of them are still to come.
-/
structure Clock.Keeps (clock : Clock) (times : List Nat) : Prop where
  passed : clock.cancelled = true → ∃ time ∈ times, time ≤ clock.now
  pending : clock.cancelled = false → ∀ time, time ∈ clock.deadlines ↔ time ∈ times

namespace Clock.Keeps

theorem start : Clock.start.Keeps [] :=
  ⟨nofun, fun _ _ => .rfl⟩

/-- A token that is not cancelled by a time has no cancellation up to then. -/
theorem lt_of_moveTo (keeps : clock.Keeps times) {time : Nat}
    (active : (clock.moveTo time).cancelled = false)
    : ∀ other ∈ times, time < other := by
  intro other member
  obtain ⟨notYet, noneDue⟩ := Bool.or_eq_false_iff.mp active
  have due := List.any_eq_false.mp noneDue other ((keeps.pending notYet other).mpr member)
  simpa using due

/-- Time that passes keeps the cancellations. -/
theorem moveTo (keeps : clock.Keeps times) {time : Nat} (onward : clock.now ≤ time)
    : (clock.moveTo time).Keeps times := by
  constructor
  · intro cancelled
    rcases Bool.or_eq_true_iff.mp cancelled with cancelled | due
    · obtain ⟨passed, member, order⟩ := keeps.passed cancelled
      exact ⟨passed, member, Nat.le_trans order onward⟩
    · cases before : clock.cancelled with
      | true =>
          obtain ⟨passed, member, order⟩ := keeps.passed before
          exact ⟨passed, member, Nat.le_trans order onward⟩
      | false =>
          obtain ⟨passed, member, order⟩ := List.any_eq_true.mp due
          exact ⟨passed, (keeps.pending before passed).mp member, of_decide_eq_true order⟩
  · intro active other
    have later := keeps.lt_of_moveTo active
    have notYet := (Bool.or_eq_false_iff.mp active).1
    have same := keeps.pending notYet other
    constructor
    · exact fun member => same.mp (List.mem_of_mem_filter member)
    · exact fun member => List.mem_filter.mpr ⟨same.mpr member, by simpa using later other member⟩

/-- A cancellation now is one more cancellation. -/
theorem cancel (clock : Clock) (times : List Nat) : clock.cancel.Keeps (times ++ [clock.now]) :=
  ⟨fun _ => ⟨clock.now, by simp, Nat.le_refl _⟩, nofun⟩

/-- A cancellation after a delay is one more cancellation. -/
theorem cancelIn (keeps : clock.Keeps times) (delay : Nat)
    : (clock.cancelIn delay).Keeps (times ++ [clock.after delay]) := by
  constructor
  · intro cancelled
    obtain ⟨passed, member, order⟩ := keeps.passed cancelled
    exact ⟨passed, List.mem_append_left _ member, order⟩
  · intro active time
    rw [List.mem_append, List.mem_singleton, ← keeps.pending active time, or_comm]
    exact List.mem_cons

end Clock.Keeps

/-- How a wait ends that the earliest cancellation may cut, and when. A cancellation at the very end
of the interval counts.
-/
def cut (earliest? : Option Nat) (begun finish : Nat) : Bool × Nat :=
  match earliest? with
  | some time =>
    if time ≤ begun then (false, begun)
    else if time ≤ finish then (false, time)
    else (true, finish)
  | none => (true, finish)

/-- What a step that begins at some time comes to if waits end by a rule: its result, and the time
behind it.
-/
def WaitStep.outcome (rule : Nat → Nat → Bool × Nat) (interval begun : Nat)
    : WaitStep → Option Bool × Nat
  | .wait _ =>
    let ending := rule begun (begun + interval)
    (some ending.1, ending.2)
  | .sleep time => (none, begun + time)
  | .cancel | .cancelIn _ => (none, begun)

/-- A wait is cut by the earliest of the cancellations that the clock keeps. Witness: if the token
is not cancelled when the wait begins, the deadlines are the cancellations.
-/
theorem Clock.Keeps.wait (keeps : clock.Keeps times) (interval : Nat)
    : ((clock.wait interval).1, (clock.wait interval).2.now)
        = cut times.min? clock.now (clock.after interval)
      ∧ (clock.wait interval).2.Keeps times := by
  have settled := keeps.moveTo (Nat.le_refl clock.now)
  rw [Clock.wait]
  cases active : (clock.moveTo clock.now).cancelled with
  | true =>
      obtain ⟨passed, member, order⟩ := settled.passed active
      obtain ⟨earliest, found, first⟩ := exists_min?_le member
      have order : earliest ≤ clock.now := Nat.le_trans first order
      simp only [if_true, found, cut, if_pos order]
      exact ⟨rfl, settled⟩
  | false =>
      have later := keeps.lt_of_moveTo active
      have same : (clock.moveTo clock.now).deadlines.min? = times.min? :=
        Leads.min?_eq (.of_subset fun time => (settled.pending active time).mpr)
          (.of_subset fun time => (settled.pending active time).mp)
      have onward : clock.now ≤ clock.after interval := Nat.le_add_right _ _
      simp only [Bool.false_eq_true, if_false, same]
      cases found : times.min? with
      | none => exact ⟨rfl, settled.moveTo onward⟩
      | some earliest =>
          have later := later earliest (List.min?_mem found)
          have notBefore : ¬earliest ≤ clock.now := Nat.not_le.mpr later
          simp only [cut, if_neg notBefore]
          split
          case isTrue due =>
            rw [if_pos (show earliest ≤ clock.after interval from due)]
            exact ⟨rfl, settled.moveTo (Nat.le_of_lt later)⟩
          case isFalse due =>
            rw [if_neg (show ¬earliest ≤ clock.after interval from due)]
            exact ⟨rfl, settled.moveTo onward⟩

/-- What a step comes to hangs on the earliest cancellation so far, and it adds its own to them. -/
theorem Clock.Keeps.take (keeps : clock.Keeps times) (interval : Nat) (step : WaitStep)
    : ((step.take interval clock).1, (step.take interval clock).2.now)
        = step.outcome (cut times.min?) interval clock.now
      ∧ (step.take interval clock).2.Keeps (times ++ (step.cancels? clock.now).toList) := by
  cases step with
  | wait copy =>
      obtain ⟨ending, kept⟩ := keeps.wait interval
      refine ⟨congrArg (fun ending : Bool × Nat => (some ending.1, ending.2)) ending, ?_⟩
      change (clock.wait interval).2.Keeps (times ++ [])
      rwa [List.append_nil]
  | cancel => exact ⟨rfl, .cancel clock times⟩
  | cancelIn delay => exact ⟨rfl, keeps.cancelIn delay⟩
  | sleep time =>
      refine ⟨rfl, ?_⟩
      change (clock.moveTo (clock.after time)).Keeps (times ++ [])
      rw [List.append_nil]
      exact keeps.moveTo (Nat.le_add_right _ _)

-----------------------------------------------------------------------
-- Whole sequences
-----------------------------------------------------------------------

/-- The clock behind some steps keeps their cancellations too, by induction on the steps. -/
theorem Clock.Keeps.behind (keeps : clock.Keeps times) (interval : Nat) (steps : List WaitStep)
    : (clock.behind interval steps).Keeps
        (times ++ cancellations (turns interval clock steps)) := by
  induction steps generalizing clock times with
  | nil =>
      rw [show cancellations (turns interval clock []) = [] from rfl, List.append_nil]
      exact keeps
  | cons step steps ih =>
      rw [turns, cancellations_cons, ← List.append_assoc]
      exact ih (keeps.take interval step).2

/-- Every step comes to what the earliest cancellation before it makes of it. Witness: induction on
the steps, the cancellations of each joining those that the clock keeps.
-/
theorem Clock.Keeps.row_eq (keeps : clock.Keeps times) {steps : List WaitStep}
    {front back : List Turn} {turn : Turn}
    (parts : turns interval clock steps = front ++ turn :: back)
    : turn.row
      = turn.step.outcome (cut (times ++ cancellations front).min?) interval turn.begun := by
  induction steps generalizing clock times front with
  | nil => exact absurd parts.symm (List.append_ne_nil_of_right_ne_nil _ (List.cons_ne_nil _ _))
  | cons step steps ih =>
      obtain ⟨outcome, kept⟩ := keeps.take interval step
      cases front with
      | nil =>
          obtain ⟨rfl, -⟩ := List.cons.inj parts
          rw [show cancellations [] = [] from rfl, List.append_nil]
          exact outcome
      | cons first front =>
          obtain ⟨rfl, rest⟩ := List.cons.inj parts
          rw [cancellations_cons, ← List.append_assoc]
          exact ih kept rest

/-- A wait takes its whole interval, or it is cancelled and over with the earliest cancellation, or
at once if that has come.
-/
theorem cut_cases (earliest? : Option Nat) (begun finish : Nat)
    : cut earliest? begun finish = (true, finish)
      ∨ ∃ time, earliest? = some time ∧ cut earliest? begun finish = (false, max begun time) := by
  cases earliest? with
  | none => exact .inl rfl
  | some time =>
      simp only [cut]
      split
      case isTrue passed => exact .inr ⟨time, rfl, by rw [Nat.max_eq_left passed]⟩
      case isFalse later =>
        split
        case isTrue => exact .inr ⟨time, rfl, by rw [Nat.max_eq_right (Nat.le_of_not_le later)]⟩
        case isFalse => exact .inl rfl

/-- No wait ends before it begins. -/
theorem le_cut (earliest? : Option Nat) {begun finish : Nat} (order : begun ≤ finish)
    : begun ≤ (cut earliest? begun finish).2 := by
  rcases cut_cases earliest? begun finish with whole | ⟨time, -, cancelled⟩
  · rwa [whole]
  · rw [cancelled]
    exact Nat.le_max_left begun time

/-- A step that begins takes the clock on, by cases of the step. -/
theorem WaitStep.le_outcome (earliest? : Option Nat) (interval begun : Nat) (step : WaitStep)
    : begun ≤ (step.outcome (cut earliest?) interval begun).2 := by
  cases step with
  | wait => exact le_cut _ (Nat.le_add_right _ _)
  | sleep => exact Nat.le_add_right _ _
  | cancel | cancelIn => exact Nat.le_refl _

/-- The clock never goes back. -/
theorem Clock.Keeps.le_take (keeps : clock.Keeps times) (interval : Nat) (step : WaitStep)
    : clock.now ≤ (step.take interval clock).2.now := by
  have outcome : (step.take interval clock).2.now
      = (step.outcome (cut times.min?) interval clock.now).2 :=
    congrArg Prod.snd (keeps.take interval step).1
  rw [outcome]
  exact step.le_outcome times.min? interval clock.now

/-- The steps behind a clock begin at its time or later, and end no earlier, by induction. -/
theorem Clock.Keeps.le_begun (keeps : clock.Keeps times) {steps : List WaitStep} {turn : Turn}
    (member : turn ∈ turns interval clock steps)
    : clock.now ≤ turn.begun ∧ turn.begun ≤ turn.ended := by
  induction steps generalizing clock times with
  | nil => cases member
  | cons step steps ih =>
      have onward := keeps.le_take interval step
      rcases List.mem_cons.mp member with rfl | member
      · exact ⟨Nat.le_refl _, onward⟩
      · obtain ⟨later, order⟩ := ih (keeps.take interval step).2 member
        exact ⟨Nat.le_trans onward later, order⟩

/-- A step cancels the token when it begins, or later, by cases of the step. -/
theorem Turn.begun_le {turn : Turn} {time : Nat} (cancels : turn.cancels? = some time)
    : turn.begun ≤ time := by
  rw [Turn.cancels?] at cancels
  cases step : turn.step with
  | wait | sleep =>
      rw [step] at cancels
      cases cancels
  | cancel =>
      rw [step] at cancels
      exact Nat.le_of_eq (Option.some.inj cancels)
  | cancelIn delay =>
      rw [step] at cancels
      exact Nat.le.intro (Option.some.inj cancels)

/-- The steps behind a clock cancel the token at its time or later. -/
theorem Clock.Keeps.le_cancellation (keeps : clock.Keeps times) {steps : List WaitStep} {time : Nat}
    (member : time ∈ cancellations (turns interval clock steps))
    : clock.now ≤ time := by
  obtain ⟨turn, isTurn, cancels⟩ := List.mem_filterMap.mp member
  exact Nat.le_trans (keeps.le_begun isTurn).1 (Turn.begun_le cancels)

/-- Of two steps the first one is over when the second one begins, by induction. -/
theorem Clock.Keeps.ordered (keeps : clock.Keeps times) (interval : Nat) (steps : List WaitStep)
    : (turns interval clock steps).Pairwise fun earlier later => earlier.ended ≤ later.begun := by
  induction steps generalizing clock times with
  | nil => exact .nil
  | cons step steps ih =>
      have kept := (keeps.take interval step).2
      exact .cons (fun later member => (kept.le_begun member).1) (ih kept)

/-- Every step begins where the one before it ends, by induction. -/
theorem begun_eq (interval : Nat) (clock : Clock) (steps : List WaitStep)
    : (turns interval clock steps).map (·.begun)
      = (clock.now :: (turns interval clock steps).map (·.ended)).dropLast := by
  induction steps generalizing clock with
  | nil => rfl
  | cons step steps ih => exact congrArg (List.cons _) (ih _)

/-- What the steps come to hangs on the time and on the earliest of the cancellations so far, by
induction on the steps.
-/
theorem turns_congr {left right : Clock} {leftTimes rightTimes : List Nat}
    (leftKeeps : left.Keeps leftTimes) (rightKeeps : right.Keeps rightTimes)
    (sameTime : left.now = right.now) (leads : Leads leftTimes rightTimes)
    (led : Leads rightTimes leftTimes) (interval : Nat) (steps : List WaitStep)
    : turns interval left steps = turns interval right steps := by
  induction steps generalizing left right leftTimes rightTimes with
  | nil => rfl
  | cons step steps ih =>
      obtain ⟨leftOutcome, leftKept⟩ := leftKeeps.take interval step
      obtain ⟨rightOutcome, rightKept⟩ := rightKeeps.take interval step
      have same : (step.take interval left).1 = (step.take interval right).1
          ∧ (step.take interval left).2.now = (step.take interval right).2.now := by
        rw [← Prod.mk.injEq, leftOutcome, rightOutcome, leads.min?_eq led, sameTime]
      rw [← sameTime] at rightKept
      have rest := ih leftKept rightKept same.2 (leads.append _) (led.append _)
      rw [turns, turns, rest, same.1, same.2, sameTime]

/-- A cancellation that falls behind the end of a wait does not change it, and neither does one that
falls behind another cancellation.
-/
theorem cut_late {left right : List Nat} {late begun finish : Nat} (order : begun ≤ finish)
    (same : ∀ time, time ∈ right ↔ time ∈ left ∨ time = late)
    (sooner : (∃ time ∈ left, time < late) ∨ (cut left.min? begun finish).2 < late)
    : cut right.min? begun finish = cut left.min? begun finish := by
  have subset : ∀ time ∈ left, time ∈ right := fun time member => (same time).mpr (.inl member)
  by_cases before : ∃ time ∈ left, time ≤ late
  · -- The late one is not the earliest.
    obtain ⟨time, member, order⟩ := before
    refine congrArg (cut · begun finish) (Leads.min?_eq (.of_subset subset) fun other isOther => ?_)
    rcases (same other).mp isOther with isOther | rfl
    · exact ⟨other, isOther, Nat.le_refl _⟩
    · exact ⟨time, member, order⟩
  · -- The late one is the earliest, and the wait is over before it.
    have least : right.min? = some late := by
      refine List.min?_eq_some_iff.mpr ⟨(same late).mpr (.inr rfl), fun other isOther => ?_⟩
      rcases (same other).mp isOther with isOther | rfl
      · exact Nat.le_of_not_le fun order => before ⟨other, isOther, order⟩
      · exact Nat.le_refl _
    have ended : (cut left.min? begun finish).2 < late := by
      refine sooner.resolve_left fun ⟨time, member, order⟩ => ?_
      exact before ⟨time, member, Nat.le_of_lt order⟩
    have uncut : cut left.min? begun finish = (true, finish) := by
      cases found : left.min? with
      | none => rfl
      | some earliest =>
          have behind : late < earliest :=
            Nat.lt_of_not_le fun order => before ⟨earliest, List.min?_mem found, order⟩
          have begins := le_cut left.min? order
          rw [found] at ended begins
          simp only [cut] at ended begins ⊢
          split at ended
          case isTrue passed => omega
          case isFalse =>
            split at ended
            case isTrue => omega
            case isFalse apart notBefore => rw [if_neg apart, if_neg notBefore]
    rw [uncut] at ended ⊢
    have ended : finish < late := ended
    rw [least, cut, if_neg (by omega), if_neg (by omega)]

/-- A cancellation that comes late, behind another one that the steps or those before them bring,
changes nothing about the steps. Witness: induction on the steps; until the other one comes, every
wait is over before the late one.
-/
theorem turns_late {clock delayed : Clock} {times delayedTimes : List Nat} {late : Nat}
    (keeps : clock.Keeps times) (delayedKeeps : delayed.Keeps delayedTimes)
    (sameTime : delayed.now = clock.now)
    (same : ∀ time, time ∈ delayedTimes ↔ time ∈ times ∨ time = late) {steps : List WaitStep}
    (sooner : ∃ time ∈ times ++ cancellations (turns interval clock steps), time < late)
    : turns interval delayed steps = turns interval clock steps := by
  induction steps generalizing clock delayed times delayedTimes with
  | nil => rfl
  | cons step steps ih =>
      obtain ⟨outcome, kept⟩ := keeps.take interval step
      obtain ⟨delayedOutcome, delayedKept⟩ := delayedKeeps.take interval step
      rw [turns, cancellations_cons, ← List.append_assoc] at sooner
      have sameOutcome : step.outcome (cut delayedTimes.min?) interval clock.now
          = step.outcome (cut times.min?) interval clock.now := by
        cases step with
        | wait copy =>
            refine congrArg (fun ending : Bool × Nat => (some ending.1, ending.2))
              (cut_late (Nat.le_add_right _ _) same ?_)
            obtain ⟨time, member, order⟩ := sooner
            rcases List.mem_append.mp member with member | member
            · exact .inl ⟨time, by simpa [Turn.cancels?, WaitStep.cancels?] using member, order⟩
            · have before := Nat.lt_of_le_of_lt (kept.le_cancellation member) order
              have ended := congrArg Prod.snd outcome
              exact .inr (Nat.lt_of_le_of_lt (Nat.le_of_eq ended.symm) before)
        | cancel | cancelIn | sleep => rfl
      rw [sameTime, sameOutcome, ← outcome, Prod.mk.injEq] at delayedOutcome
      obtain ⟨sameResult, sameEnd⟩ := delayedOutcome
      rw [sameTime] at delayedKept
      have rest := ih kept delayedKept sameEnd (fun time => by
        rw [List.mem_append, List.mem_append, same, or_right_comm]) sooner
      rw [turns, turns, rest, sameResult, sameEnd, sameTime]

-----------------------------------------------------------------------
-- The law
-----------------------------------------------------------------------

/-- The steps of a sequence that begins with the clock at zero and an active token. -/
def history (interval : Nat) (steps : List WaitStep) : List Turn :=
  turns interval .start steps

/-- How a wait ends by the earliest time of cancellation, and when: at once if that time has come,
at that time if it comes before the interval is over, and else with the interval.
-/
def waitEnd (earliest? : Option Nat) (begun finish : Nat) : Bool × Nat :=
  match earliest? with
  | some time =>
    if time ≤ begun then (false, begun)
    else if time < finish then (false, time)
    else (true, finish)
  | none => (true, finish)

/-- A step comes to what it should if a time is the earliest one of all cancellations. -/
def Turn.Obeys (turn : Turn) (interval : Nat) (earliest? : Option Nat) : Prop :=
  turn.row = turn.step.outcome (waitEnd earliest?) interval turn.begun

/-- No cancellation falls on the end of an interval: none was scheduled for the time at which a
later wait is over that took its whole interval, if that is any time at all.
-/
def IsClear (interval : Nat) (turns : List Turn) : Prop :=
  turns.Pairwise fun earlier later =>
    0 < interval → later.isWait → later.ended = later.begun + interval
      → earlier.cancels? ≠ some later.ended

/-- How long all the waits among some steps took that went on. -/
def waited (interval : Nat) (turns : List Turn) : Nat :=
  turns.countP (·.result = some true) * interval

/-- What is known of the steps of a sequence by the times at which the token is cancelled. -/
structure CancellationLaw (interval : Nat) (steps : List WaitStep) : Prop where
  shown : timeline interval .start steps = (history interval steps).map Turn.row
  begun : (history interval steps).map (·.begun)
    = (0 :: (history interval steps).map (·.ended)).dropLast
  obeyed : ∀ turn ∈ history interval steps,
    (interval = 0 → turn.begun ∉ cancellations (history interval steps))
    → turn.Obeys interval (cancellations (history interval steps)).min?
  obeyedSoFar : ∀ front turn back, history interval steps = front ++ turn :: back
    → turn.Obeys interval (cancellations front).min?
  forward : (0 :: (history interval steps).map (·.ended)).Pairwise (· ≤ ·)
  latched : ∀ front turn back, history interval steps = front ++ turn :: back
    → (∃ earlier ∈ front, earlier.result = some false) → turn.isWait
    → turn.row = (some false, turn.begun)
  superfluous : ∀ front step back late, steps = front ++ step :: back
    → step.cancels? (Clock.start.behind interval front).now = some late
    → ((∃ time ∈ cancellations (history interval front), time ≤ late)
      ∨ ∃ time ∈ cancellations (history interval (front ++ back)), time < late)
    → timeline interval .start (front ++ back)
      = (timeline interval .start steps).eraseIdx front.length
  paced : ∀ front turn back, history interval steps = front ++ turn :: back
    → waited interval (front ++ [turn]) ≤ turn.ended

/-- The end of the interval makes no difference to a wait if no cancellation falls on it. -/
theorem cut_eq_waitEnd {earliest? : Option Nat} {begun finish : Nat}
    (apart : begun < finish → earliest? ≠ some finish)
    : cut earliest? begun finish = waitEnd earliest? begun finish := by
  cases earliest? with
  | none => rfl
  | some time =>
      simp only [cut, waitEnd]
      split
      case isTrue => rfl
      case isFalse later =>
        have notAtEnd : time ≠ finish := by
          rintro rfl
          exact apart (Nat.lt_of_not_le later) rfl
        simp only [Nat.lt_iff_le_and_ne, and_iff_left notAtEnd]

/-- A wait takes its whole interval if all cancellations come behind its begin and not before its
end.
-/
theorem waitEnd_uncut {times : List Nat} {begun finish : Nat}
    (behind : ∀ time ∈ times, begun < time ∧ finish ≤ time)
    : waitEnd times.min? begun finish = (true, finish) := by
  cases found : times.min? with
  | none => rfl
  | some earliest =>
      obtain ⟨later, notBefore⟩ := behind earliest (List.min?_mem found)
      rw [waitEnd, if_neg (Nat.not_le.mpr later), if_neg (Nat.not_lt.mpr notBefore)]

/-- Cancellations behind the end of a wait make no difference to it. -/
theorem waitEnd_append {earlier later : List Nat} {begun finish : Nat} (order : begun ≤ finish)
    (behind : ∀ time ∈ later, (waitEnd earlier.min? begun finish).2 ≤ time)
    (apart : begun = finish → begun ∉ later)
    : waitEnd (earlier ++ later).min? begun finish = waitEnd earlier.min? begun finish := by
  by_cases cuts : ∃ time ∈ earlier, time ≤ begun ∨ time < finish
  · -- The wait ends with the earliest time or behind it, so that no later one comes before.
    obtain ⟨time, member, cuts⟩ := cuts
    obtain ⟨earliest, found, first⟩ := exists_min?_le member
    have reached : earliest ≤ (waitEnd earlier.min? begun finish).2 := by
      rw [found, waitEnd]
      split
      case isTrue passed => exact passed
      case isFalse later =>
        rw [if_pos (by omega)]
    refine congrArg (waitEnd · begun finish) (Leads.min?_eq ?_ fun other isOther => ?_)
    · exact .of_subset fun time => List.mem_append_left later
    · rcases List.mem_append.mp isOther with isOther | isOther
      · exact ⟨other, isOther, Nat.le_refl _⟩
      · exact ⟨earliest, List.min?_mem found, Nat.le_trans reached (behind other isOther)⟩
  · have uncut : ∀ time ∈ earlier, begun < time ∧ finish ≤ time := by
      intro time member
      have notCut : ¬(time ≤ begun ∨ time < finish) := fun cutsHere => cuts ⟨time, member, cutsHere⟩
      omega
    rw [waitEnd_uncut uncut] at behind ⊢
    refine waitEnd_uncut fun time member => ?_
    rcases List.mem_append.mp member with member | member
    · exact uncut time member
    · have notBefore : finish ≤ time := behind time member
      have notAtOnce : begun = finish → begun ≠ time :=
        fun noTime same => apart noTime (same ▸ member)
      omega

/-- A wait that goes on takes its interval, and one that is cancelled ends with one of the
cancellations, or at once. No other step has a result.
-/
theorem ended_by_result {turn : Turn} {times : List Nat}
    (row : turn.row = turn.step.outcome (cut times.min?) interval turn.begun)
    : (turn.result = some true → turn.ended = turn.begun + interval)
      ∧ (turn.result = some false → ∃ time ∈ times, turn.ended = max turn.begun time) := by
  obtain ⟨result, ended⟩ := Prod.mk.inj row
  cases isStep : turn.step with
  | cancel | cancelIn | sleep =>
      rw [isStep] at result
      rw [result]
      exact ⟨nofun, nofun⟩
  | wait copy =>
      rw [isStep] at result ended
      rcases cut_cases times.min? turn.begun (turn.begun + interval) with
        whole | ⟨time, found, cancelled⟩
      · simp only [whole] at result ended
        rw [result]
        exact ⟨fun _ => ended, nofun⟩
      · simp only [cancelled] at result ended
        rw [result]
        exact ⟨nofun, fun _ => ⟨time, List.min?_mem found, ended⟩⟩

/-- The time of one step and of all waits behind it, by cases of the step being a wait that goes on.
-/
theorem waited_cons {turn : Turn} {times : List Nat}
    (row : turn.row = turn.step.outcome (cut times.min?) interval turn.begun) (rest : List Turn)
    : turn.begun + waited interval (turn :: rest) ≤ turn.ended + waited interval rest := by
  rw [waited, waited, List.countP_cons, Nat.add_mul]
  split
  case isTrue goesOn =>
    rw [(ended_by_result row).1 (of_decide_eq_true goesOn)]
    omega
  case isFalse =>
    have order : turn.begun ≤ turn.ended := by
      rw [show turn.ended = _ from congrArg Prod.snd row]
      exact turn.step.le_outcome times.min? interval turn.begun
    omega

/-- The clock stands no lower than the intervals of all waits that went on, by induction on the
steps.
-/
theorem Clock.Keeps.paced (keeps : clock.Keeps times) {steps : List WaitStep}
    {front back : List Turn} {turn : Turn}
    (parts : turns interval clock steps = front ++ turn :: back)
    : clock.now + waited interval (front ++ [turn]) ≤ turn.ended := by
  induction steps generalizing clock times front with
  | nil => exact absurd parts.symm (List.append_ne_nil_of_right_ne_nil _ (List.cons_ne_nil _ _))
  | cons step steps ih =>
      cases front with
      | nil =>
          have paid := waited_cons (keeps.row_eq parts) []
          obtain ⟨rfl, -⟩ := List.cons.inj parts
          simpa [waited] using paid
      | cons first front =>
          have begins : turns interval clock (step :: steps)
              = [] ++ first :: (front ++ turn :: back) := parts
          have paid := waited_cons (keeps.row_eq begins) (front ++ [turn])
          obtain ⟨rfl, rest⟩ := List.cons.inj parts
          exact Nat.le_trans paid (ih (keeps.take interval step).2 rest)

section History

variable {steps : List WaitStep} {front back : List Turn} {turn : Turn}

/-- What the token's cancellations make of a step that has some steps before it. -/
theorem row_history (parts : history interval steps = front ++ turn :: back)
    : turn.row = turn.step.outcome (cut (cancellations front).min?) interval turn.begun :=
  Clock.Keeps.start.row_eq parts

/-- The steps before a step are over when it begins. -/
theorem ended_le_begun (parts : history interval steps = front ++ turn :: back) {earlier : Turn}
    (member : earlier ∈ front)
    : earlier.ended ≤ turn.begun := by
  have ordered := Clock.Keeps.start.ordered interval steps
  rw [show turns interval .start steps = front ++ turn :: back from parts] at ordered
  exact (List.pairwise_append.mp ordered).2.2 earlier member turn List.mem_cons_self

/-- The steps behind a step cancel the token when it is over, or later. -/
theorem ended_le_cancellation (parts : history interval steps = front ++ turn :: back) {time : Nat}
    (member : time ∈ cancellations back)
    : turn.ended ≤ time := by
  have ordered := Clock.Keeps.start.ordered interval steps
  rw [show turns interval .start steps = front ++ turn :: back from parts] at ordered
  obtain ⟨later, isLater, cancels⟩ := List.mem_filterMap.mp member
  have order := List.rel_of_pairwise_cons (List.pairwise_append.mp ordered).2.1 isLater
  exact Nat.le_trans order (Turn.begun_le cancels)

/-- A step obeys the earliest cancellation of the steps before it. Only for a wait there is
something to show: that it does not end with its interval and this cancellation at once.
-/
theorem obeys_soFar (clear : IsClear interval (history interval steps))
    (parts : history interval steps = front ++ turn :: back)
    : turn.Obeys interval (cancellations front).min? := by
  rw [Turn.Obeys, row_history parts]
  cases isStep : turn.step with
  | cancel | cancelIn | sleep => rfl
  | wait copy =>
      refine congrArg (fun ending : Bool × Nat => (some ending.1, ending.2))
        (cut_eq_waitEnd fun lasts atEnd => ?_)
      have row := row_history parts
      rw [isStep, atEnd, WaitStep.outcome, cut, if_neg (Nat.not_le.mpr lasts),
        if_pos (Nat.le_refl _)] at row
      have ended : turn.ended = turn.begun + interval := congrArg Prod.snd row
      obtain ⟨earlier, member, cancels⟩ := List.mem_filterMap.mp (List.min?_mem atEnd)
      rw [IsClear, parts] at clear
      have apart := (List.pairwise_append.mp clear).2.2 earlier member turn List.mem_cons_self
      exact apart (by omega) (by rw [Turn.isWait, isStep]) ended (ended.symm ▸ cancels)

/-- A step obeys the earliest cancellation of all, since those behind it come too late for it. -/
theorem obeys_all (clear : IsClear interval (history interval steps))
    (member : turn ∈ history interval steps)
    (apart : interval = 0 → turn.begun ∉ cancellations (history interval steps))
    : turn.Obeys interval (cancellations (history interval steps)).min? := by
  obtain ⟨front, back, parts⟩ := List.mem_iff_append.mp member
  have obeys := obeys_soFar clear parts
  rw [Turn.Obeys] at obeys ⊢
  rw [obeys]
  cases isStep : turn.step with
  | cancel | cancelIn | sleep => rfl
  | wait copy =>
      have noneHere : turn.cancels? = none := by rw [Turn.cancels?, isStep]; rfl
      have all : cancellations (history interval steps)
          = cancellations front ++ cancellations back := by
        rw [parts, cancellations_append, cancellations_cons, noneHere]
        rfl
      have ended : turn.ended
          = (waitEnd (cancellations front).min? turn.begun (turn.begun + interval)).2 := by
        rw [isStep] at obeys
        exact congrArg Prod.snd obeys
      rw [all] at apart ⊢
      refine congrArg (fun ending : Bool × Nat => (some ending.1, ending.2))
        (waitEnd_append (Nat.le_add_right _ _) (fun time isLater => ?_)
          fun noTime isLater => ?_).symm
      · exact ended ▸ ended_le_cancellation parts isLater
      · exact apart (by omega) (List.mem_append_right _ isLater)

/-- Behind a wait that was cancelled every wait is over at once: the time that cut the one has come
when the other begins.
-/
theorem latched (parts : history interval steps = front ++ turn :: back)
    (cancelled : ∃ earlier ∈ front, earlier.result = some false) (isWait : turn.isWait)
    : turn.row = (some false, turn.begun) := by
  obtain ⟨earlier, member, result⟩ := cancelled
  obtain ⟨first, between, rfl⟩ := List.mem_iff_append.mp member
  have earlierParts : history interval steps = first ++ earlier :: (between ++ turn :: back) := by
    rw [parts, List.append_assoc, List.cons_append]
  obtain ⟨time, isTime, endsThere⟩ := (ended_by_result (row_history earlierParts)).2 result
  have ended := ended_le_begun parts member
  have isBefore : time ∈ cancellations (first ++ earlier :: between) := by
    rw [cancellations_append]
    exact List.mem_append_left _ isTime
  obtain ⟨earliest, found, order⟩ := exists_min?_le isBefore
  have row := row_history parts
  rw [Turn.isWait] at isWait
  cases isStep : turn.step with
  | cancel | cancelIn | sleep =>
      rw [isStep] at isWait
      cases isWait
  | wait copy =>
      rw [isStep, found, WaitStep.outcome, cut, if_pos (by omega)] at row
      exact row

/-- A cancellation that repeats another one, or comes behind it, may be left out. -/
theorem superfluous {front back : List WaitStep} {step : WaitStep} {late : Nat}
    (cancels : step.cancels? (Clock.start.behind interval front).now = some late)
    (sooner : (∃ time ∈ cancellations (history interval front), time ≤ late)
      ∨ ∃ time ∈ cancellations (history interval (front ++ back)), time < late)
    : timeline interval .start (front ++ back)
      = (timeline interval .start (front ++ step :: back)).eraseIdx front.length := by
  have keeps := Clock.Keeps.start.behind interval front
  obtain ⟨outcome, kept⟩ := keeps.take interval step
  rw [cancels, Option.toList_some] at kept
  have sameTime : (step.take interval (Clock.start.behind interval front)).2.now
      = (Clock.start.behind interval front).now := by
    cases step with
    | wait | sleep => cases cancels
    | cancel | cancelIn => rfl
  have same : turns interval (step.take interval (Clock.start.behind interval front)).2 back
      = turns interval (Clock.start.behind interval front) back := by
    rcases sooner with ⟨time, member, order⟩ | sooner
    · -- The same time or an earlier one is kept already.
      refine turns_congr kept keeps sameTime ?_ (fun other isOther => ?_) interval back
      · exact .of_subset fun time => List.mem_append_left _
      · rcases List.mem_append.mp isOther with isOther | isOther
        · exact ⟨other, isOther, Nat.le_refl _⟩
        · obtain rfl := List.mem_singleton.mp isOther
          exact ⟨time, member, order⟩
    · rw [history, turns_append, cancellations_append] at sooner
      refine turns_late keeps kept sameTime (fun time => ?_) sooner
      rw [List.mem_append, List.mem_singleton]
  have place : ((turns interval .start front).map Turn.row).length = front.length := by
    rw [List.length_map, length_turns]
  rw [timeline_eq, timeline_eq, turns_append, turns_append, turns, same, List.map_append,
    List.map_append, List.map_cons, ← place, List.eraseIdx_append_of_length_le (Nat.le_refl _),
    Nat.sub_self, List.eraseIdx_cons_zero]

/-- Every wait that went on took its interval from the clock. -/
theorem paced (parts : history interval steps = front ++ turn :: back)
    : waited interval (front ++ [turn]) ≤ turn.ended := by
  have paced := Clock.Keeps.start.paced parts
  exact Nat.le_trans (Nat.le_add_left _ _) paced

/-- The clock never goes back from zero: a step is over when it begins or later, and then the next
one begins.
-/
theorem forward (interval : Nat) (steps : List WaitStep)
    : (0 :: (history interval steps).map (·.ended)).Pairwise (· ≤ ·) := by
  refine .cons (fun time _ => Nat.zero_le time) (List.pairwise_map.mpr ?_)
  refine (Clock.Keeps.start.ordered interval steps).imp_of_mem fun _ isLater order => ?_
  exact Nat.le_trans order (Clock.Keeps.start.le_begun isLater).2

end History

/-- If no cancellation falls on the end of an interval, the earliest one tells of every wait how it
ends and when. So the clock never goes back, a token that was seen cancelled stays so for all copies
of a wait, cancellations that come behind another one make no difference, and the waits that went on
have taken their intervals from the clock.
-/
theorem waits_end_by_earliest_cancellation {interval : Nat} {steps : List WaitStep}
    (clear : IsClear interval (history interval steps))
    : CancellationLaw interval steps where
  shown := timeline_eq interval .start steps
  begun := begun_eq interval .start steps
  obeyed _ member apart := obeys_all clear member apart
  obeyedSoFar _ _ _ parts := obeys_soFar clear parts
  forward := forward interval steps
  latched _ _ _ parts cancelled isWait := latched parts cancelled isWait
  superfluous _ _ _ _ parts cancels sooner := parts ▸ superfluous cancels sooner
  paced _ _ _ parts := paced parts

/-- A cancellation is scheduled, then an earlier one, between two waits that go on. The third wait
is cut by the earlier one, behind a sleep, and a copy of it is over at once.
-/
theorem third_wait_is_cut
    : let steps : List WaitStep :=
        [.cancelIn 500, .wait false, .cancelIn 130, .wait true, .sleep 20, .wait false, .wait true]
      IsClear 100 (history 100 steps)
      ∧ timeline 100 .start steps
        = [(none, 0), (some true, 100), (none, 100), (some true, 200), (none, 220),
          (some false, 230), (some false, 230)]
      ∧ CancellationLaw 100 steps := by
  intro steps
  have clear : IsClear 100 (history 100 steps) := by
    unfold IsClear
    decide
  exact ⟨clear, by decide, waits_end_by_earliest_cancellation clear⟩

end JobWatch.Poll
