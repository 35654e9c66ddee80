import Mathlib.Algebra.BigOperators.Group.Finset.Basic
import Mathlib.Algebra.BigOperators.Ring.Finset
import Mathlib.Tactic.Tauto
import Mockup.Proofs.Session.Life

namespace Mockup

namespace Session

/-!
# The load of a session

The weight of a job is the number of actions that may yet be carried out
because of it, when no action lies deeper than a limit and each is answered
by every watcher and has one follow-up.  A job that runs pays for what it
does: the actions it carries out, together with the weight of what it leaves,
never exceed its own weight.
-/

/-! ## Weights -/

/--
How many actions there are on some levels, from one action on the first
level, when each leads to one further action and one for every watcher.
-/
def forest
    (watchers levels : Nat) :
    Nat :=
  ∑ level ∈ Finset.range levels, (watchers + 1) ^ level

/-- An action, and below it a forest for each action it leads to. -/
theorem forest_succ
    (watchers levels : Nat) :
    forest watchers (levels + 1) =
      1 + (watchers + 1) * forest watchers levels := by
  rw [forest, Finset.sum_range_succ', forest, Finset.mul_sum, pow_zero,
    Nat.add_comm]
  simp only [pow_succ']

section

variable (watchers limit : Nat)

/-- How many actions may yet be carried out because of a job. -/
def weight : Job → Nat
  | .timer timer =>
      match timer.work with
      | .hideToast =>
          0
      | .fire firing =>
          forest watchers (limit - firing.context.depth)
  | .task task =>
      match task.stage with
      | .start _ depth =>
          forest watchers (limit + 1 - depth)
      | .answered _ _ depth =>
          (watchers + 1) * forest watchers (limit - depth)
      | .rested _ depth =>
          forest watchers (limit - depth)
      | .void =>
          0

/-- How many actions some notes are of. -/
def performances
    (news : List Occurrence) :
    Nat :=
  news.countP fun occurrence =>
    match occurrence with
    | .performed _ _ _ =>
        true
    | _ =>
        false

/-- How many actions may yet be carried out because of the jobs of a list. -/
def load
    (entries : List (Ticketed Job)) :
    Nat :=
  (entries.map fun entry => weight watchers limit entry.job).sum

theorem performances_eq_zero
    {news : List Occurrence}
    (none :
      ∀ ticket action depth,
        .performed ticket action depth ∉ news) :
    performances news = 0 := by
  rw [performances, List.countP_eq_zero]
  intro occurrence member
  split
  · exact absurd member (none _ _ _)
  · simp

theorem weight_start_succ
    (origin : Origin)
    (action : Action)
    (depth : Nat)
    (settled : Option Outcome) :
    weight watchers limit
        (.task ⟨origin, .start action (depth + 1), settled⟩) =
      forest watchers (limit - depth) := by
  simp only [weight, Nat.add_sub_add_right]

/-- An action that may be carried out weighs one more than its rest. -/
theorem weight_start
    (origin : Origin)
    (action : Action)
    {depth : Nat}
    (within : depth ≤ limit)
    (settled : Option Outcome) :
    weight watchers limit (.task ⟨origin, .start action depth, settled⟩) =
      1 + (watchers + 1) * forest watchers (limit - depth) := by
  have levels : limit + 1 - depth = limit - depth + 1 := by
    omega
  simp only [weight, levels, forest_succ]

theorem weight_continues
    (origin : Origin)
    {action : Action}
    {depth : Nat}
    {stage : Stage}
    (continues : Stage.Continues action depth stage)
    (settled : Option Outcome) :
    weight watchers limit (.task ⟨origin, stage, settled⟩) =
      (writesLeft stage * watchers + 1) *
        forest watchers (limit - depth) := by
  cases continues <;> simp [weight, writesLeft]

/-- Jobs that are owed to writes at a depth weigh one forest each. -/
theorem sum_weight_le
    {functions : Registry}
    {depth bound : Nat}
    {jobs : List Job}
    {known news : List Occurrence}
    (owed : AllOwed functions depth bound known jobs news) :
    (jobs.map (weight watchers limit)).sum ≤
      bound * forest watchers (limit - depth) := by
  have each :
      ∀ others : List Job,
        (∀ job ∈ others, Owed functions depth known job) →
        (others.map (weight watchers limit)).sum =
          others.countP isCharged *
            forest watchers (limit - depth) := by
    intro others
    induction others with
    | nil =>
        simp
    | cons job others inductionHypothesis =>
        intro allOwed
        obtain ⟨isOwed, othersOwed⟩ := List.forall_mem_cons.mp allOwed
        rw [List.map_cons, List.sum_cons,
          inductionHypothesis othersOwed, List.countP_cons]
        cases isOwed with
        | hides =>
            simp [weight, isCharged, Timer.work]
        | waits _ atDepth =>
            subst atDepth
            simp [weight, isCharged, Timer.work, Nat.add_mul,
              Nat.add_comm]
        | starts _ _ _ _ =>
            rw [weight_start_succ]
            simp [isCharged, Nat.add_mul, Nat.add_comm]
  rw [each jobs owed.owed]
  exact Nat.mul_le_mul_right _ owed.charged

/-! ## What a job leaves -/

/-- The weight of what becomes of a job. -/
def weightOf? : Option Job → Nat
  | some job =>
      weight watchers limit job
  | none =>
      0

theorem weightOf?_le_of_follows
    {action : Action}
    {depth : Nat}
    {own : Option Job}
    (follows : Follows action depth own) :
    weightOf? watchers limit own ≤ forest watchers (limit - depth) := by
  cases follows with
  | ends =>
      exact Nat.zero_le _
  | leads _ =>
      rw [weightOf?, weight_start_succ]

theorem performances_of_allOwed
    {functions : Registry}
    {depth bound : Nat}
    {jobs : List Job}
    {known news : List Occurrence}
    (owed : AllOwed functions depth bound known jobs news) :
    performances news = 0 := by
  refine performances_eq_zero ?_
  intro ticket action depth member
  cases owed.minor _ member with
  | aside isAside =>
      cases isAside

end

/-- A job that runs pays for the actions it carries out and leaves. -/
theorem Works.pays
    {functions : Registry}
    {watchers width limit ticket : Nat}
    {job : Job}
    {own : Option Job}
    {jobs : List Job}
    {news : List Occurrence}
    (works : Works functions limit watchers ticket job own jobs news)
    (le : watchers ≤ width) :
    performances news + weightOf? width limit own +
        (jobs.map (weight width limit)).sum ≤
      weight width limit job := by
  cases works with
  | waits =>
      simp [performances, weightOf?, weight, Timer.work]
  | passes aside =>
      have nothing : performances news = 0 := by
        refine performances_eq_zero ?_
        intro _ _ _ member
        cases aside _ member
      simp [nothing, weightOf?]
  | @fires timer firing _ work starts =>
      cases starts with
      | nothing =>
          simp [performances, weightOf?]
      | @task action _ =>
          have started :=
            weight_start_succ width limit .cascade action
              firing.context.depth none
          have fired :
              weight width limit (.timer timer) =
                forest width (limit - firing.context.depth) := by
            simp only [weight, work]
          simp [performances, weightOf?, started, fired]
  | @awaits origin stage action depth settled within continues =>
      have writes : writesLeft stage * width ≤ 1 * width := by
        refine Nat.mul_le_mul_right width ?_
        cases continues <;> simp [writesLeft]
      have rest :
          weight width limit (.task ⟨origin, stage, settled⟩) ≤
            (width + 1) * forest width (limit - depth) := by
        rw [weight_continues width limit origin continues settled]
        exact Nat.mul_le_mul_right _ (by omega)
      rw [weight_start width limit origin action within settled]
      simpa [performances, weightOf?] using rest
  | @begins origin action depth settled _ _ news within owed follows =>
      have later := sum_weight_le width limit owed
      have next := weightOf?_le_of_follows width limit follows
      have allowed :
          watchers * forest width (limit - depth) ≤
            width * forest width (limit - depth) :=
        Nat.mul_le_mul_right _ le
      have once :
          performances (.performed ticket action depth :: news) = 1 := by
        have nothing := performances_of_allOwed owed
        simpa [performances] using nothing
      rw [once, weight_start width limit origin action within settled,
        Nat.add_mul, Nat.one_mul]
      omega
  | @furthers origin stage action depth settled own _ _ continues owed
      follows =>
      have later := sum_weight_le width limit owed
      have next := weightOf?_le_of_follows width limit follows
      have allowed :
          writesLeft stage * watchers * forest width (limit - depth) ≤
            writesLeft stage * width * forest width (limit - depth) :=
        Nat.mul_le_mul_right _ (Nat.mul_le_mul_left _ le)
      rw [performances_of_allOwed owed,
        weight_continues width limit origin continues settled,
        Nat.add_mul, Nat.one_mul]
      omega

/-! ## Loads -/

section

variable (watchers limit : Nat)

theorem load_append
    (entries others : List (Ticketed Job)) :
    load watchers limit (entries ++ others) =
      load watchers limit entries + load watchers limit others := by
  rw [load, List.map_append, List.sum_append]
  rfl

theorem load_perm
    {entries others : List (Ticketed Job)}
    (perm : entries.Perm others) :
    load watchers limit entries = load watchers limit others :=
  (perm.map _).sum_eq

theorem load_numbered
    (next : Nat)
    (jobs : List Job) :
    load watchers limit (numbered next jobs) =
      (jobs.map (weight watchers limit)).sum := by
  induction jobs generalizing next with
  | nil =>
      rfl
  | cons job jobs inductionHypothesis =>
      rw [List.map_cons, List.sum_cons, ← inductionHypothesis (next + 1)]
      rfl

end

/-- A list whose jobs each have their match on another list weighs less. -/
theorem load_le_of_matched
    (watchers limit : Nat)
    {entries others : List (Ticketed Job)}
    (distinct : (entries.map Ticketed.ticket).Nodup)
    (matched :
      ∀ entry ∈ entries,
        ∃ other ∈ others,
          other.ticket = entry.ticket ∧
            weight watchers limit entry.job ≤
              weight watchers limit other.job) :
    load watchers limit entries ≤ load watchers limit others := by
  induction entries generalizing others with
  | nil =>
      exact Nat.zero_le _
  | cons entry entries inductionHypothesis =>
      rw [List.map_cons, List.nodup_cons] at distinct
      obtain ⟨⟨other, isOther, sameTicket, lighter⟩, laterMatched⟩ :=
        List.forall_mem_cons.mp matched
      obtain ⟨front, back, rfl⟩ := List.append_of_mem isOther
      -- The later jobs have other tickets, so this match is not theirs.
      have later :
          load watchers limit entries ≤
            load watchers limit (front ++ back) := by
        refine inductionHypothesis distinct.2 ?_
        intro third isThird
        obtain ⟨counterpart, isMatch, sameThird, lighterThird⟩ :=
          laterMatched third isThird
        refine ⟨counterpart, ?_, sameThird, lighterThird⟩
        have isOwn : counterpart ≠ other := by
          rintro rfl
          refine distinct.1 (List.mem_map.mpr ⟨third, isThird, ?_⟩)
          rw [← sameThird, sameTicket]
        simp only [List.mem_append, List.mem_cons] at isMatch ⊢
        tauto
      simp only [load, List.map_cons, List.sum_cons, List.map_append,
        List.sum_append] at later ⊢
      omega

end Session

end Mockup
