import Mathlib.Data.List.Basic
import Remittance.Service.LogSetup

/-! # Setting up the log again and again

The name of the level that a set-up asks for is the first one that is not empty of the level given,
the one of the environment and `INFO`, in upper case (`AsksFor`).

A log without a handler is new to a set-up: it gets the handler first, so it keeps it even if the
level is refused (`run_setUp_of_new`). Any other log takes every level alike and only gets its access
level (`run_setUp_again`). So what a fresh log goes through is told by the name that the first set-up
asks for (`history_fresh`), whatever the later ones ask for. -/

namespace Remittance.Log

variable {log : Log} {given : Option String} {env : Environment}

/-! ### The level asked for -/

/-- The set-up asks for the level of this name. -/
def AsksFor (given : Option String) (env : Environment) (name : String) : Prop :=
  ∃ passed asked rest, [given, env.lookup "LOG_LEVEL", some "INFO"] = passed ++ some asked :: rest ∧
    (∀ candidate ∈ passed, candidate = none ∨ candidate = some "") ∧ asked ≠ "" ∧
    name = Text.upper asked

/-- **Every set-up asks for a level.** -/
theorem asksFor_effectiveLevel (given : Option String) (env : Environment) :
    AsksFor given env (effectiveLevel given env) := by
  unfold AsksFor effectiveLevel
  generalize env.lookup "LOG_LEVEL" = surrounding
  by_cases hgiven : given = none ∨ given = some ""
  · by_cases hsurrounding : surrounding = none ∨ surrounding = some ""
    · refine ⟨[given, surrounding], "INFO", [], rfl, ?_, by decide, ?_⟩
      · simp [hgiven, hsurrounding]
      · rcases hgiven with rfl | rfl <;> rcases hsurrounding with rfl | rfl <;> rfl
    · obtain ⟨level, rfl⟩ := Option.ne_none_iff_exists'.mp (not_or.mp hsurrounding).1
      have hlevel : level ≠ "" := by simpa using hsurrounding
      refine ⟨[given], level, [some "INFO"], rfl, by simpa using hgiven, hlevel, ?_⟩
      rcases hgiven with rfl | rfl <;> simp [hlevel]
  · obtain ⟨level, rfl⟩ := Option.ne_none_iff_exists'.mp (not_or.mp hgiven).1
    have hlevel : level ≠ "" := by simpa using hgiven
    exact ⟨[], level, [surrounding, some "INFO"], rfl, by simp, hlevel, by simp [hlevel]⟩

/-! ### One set-up -/

/-- **A log without a handler** gets one, and then the level, unless it is unknown. -/
theorem run_setUp_of_new (h : log.formats = []) :
    (setUp given env).run log =
      match Level.number? (effectiveLevel given env) with
      | some n =>
        (.ok (), { rootLevel := n, formats := [lineFormat], accessLevel := Level.warning })
      | none => (.error ⟨effectiveLevel given env⟩, { log with formats := [lineFormat] }) := by
  obtain ⟨rootLevel, formats, accessLevel⟩ := log
  cases h
  simp only [setUp, setUpRoot]
  generalize effectiveLevel given env = name
  cases hlevel : Level.number? name <;> rfl

/-- **A log with a handler** takes every level, and its root stays as it is. -/
theorem run_setUp_again (h : log.formats ≠ []) :
    (setUp given env).run log = (.ok (), { log with accessLevel := Level.warning }) := by
  obtain ⟨rootLevel, formats, accessLevel⟩ := log
  cases formats with
  | nil => exact absurd rfl h
  | cons format formats => rfl

/-! ### Many set-ups -/

theorem history_again (h : log.formats ≠ []) (calls : List (Option String × Environment)) :
    history log calls =
      List.replicate calls.length (.ok (), { log with accessLevel := Level.warning }) := by
  induction calls generalizing log with
  | nil => rfl
  | cons call calls ih =>
    obtain ⟨given, env⟩ := call
    have hafter : (setUp given env).run log = (.ok (), { log with accessLevel := Level.warning }) :=
      run_setUp_again h
    have hformats : ({ log with accessLevel := Level.warning } : Log).formats ≠ [] := h
    rw [history, hafter, ih hformats, List.length_cons, List.replicate_succ]

/-- How a set-up ends, and the log after it. -/
abbrev Outcome := Except UnknownLevel Unit × Log

/-- The outcome of the set-up with the index `k` of a fresh log, if the first one asks for the level
`name`. -/
def outcomeOf (name : String) (k : Nat) : Outcome :=
  if k = 0 ∧ Level.number? name = none then
    (.error ⟨name⟩, { fresh with formats := [lineFormat] })
  else
    (.ok (), { rootLevel := (Level.number? name).getD Level.warning
               formats := [lineFormat]
               accessLevel := Level.warning })

theorem formats_outcomeOf (name : String) (k : Nat) :
    (outcomeOf name k).2.formats = [lineFormat] := by
  unfold outcomeOf
  split <;> rfl

theorem rootLevel_outcomeOf (name : String) (k : Nat) :
    (outcomeOf name k).2.rootLevel = (Level.number? name).getD Level.warning := by
  unfold outcomeOf
  split
  · next h => rw [h.2]; rfl
  · rfl

theorem outcomeOf_eq_error_iff {name : String} {k : Nat} {level : UnknownLevel} :
    (outcomeOf name k).1 = .error level ↔
      k = 0 ∧ Level.number? name = none ∧ level = ⟨name⟩ := by
  unfold outcomeOf
  by_cases h : k = 0 ∧ Level.number? name = none
  · rw [if_pos h, Except.error.injEq]
    constructor
    · rintro rfl
      exact ⟨h.1, h.2, rfl⟩
    · rintro ⟨-, -, rfl⟩
      rfl
  · rw [if_neg h]
    constructor
    · rintro ⟨⟩
    · rintro ⟨hk, hlevel, -⟩
      exact absurd ⟨hk, hlevel⟩ h

/-- The access level is set unless the first set-up is refused. -/
theorem accessLevel_outcomeOf (name : String) (k : Nat) :
    ((outcomeOf name k).1 = .ok () ∧ (outcomeOf name k).2.accessLevel = Level.warning) ∨
      (k = 0 ∧ (outcomeOf name k).1 ≠ .ok () ∧ (outcomeOf name k).2.accessLevel = 0) := by
  unfold outcomeOf
  by_cases h : k = 0 ∧ Level.number? name = none
  · rw [if_pos h]
    exact .inr ⟨h.1, by rintro ⟨⟩, rfl⟩
  · rw [if_neg h]
    exact .inl ⟨rfl, rfl⟩

/-- **What a fresh log goes through** is told by the name that the first set-up asks for. -/
theorem history_fresh (given : Option String) (env : Environment)
    (calls : List (Option String × Environment)) :
    history fresh ((given, env) :: calls) =
      (List.range (calls.length + 1)).map (outcomeOf (effectiveLevel given env)) := by
  generalize hname : effectiveLevel given env = name
  have hfirst : (setUp given env).run fresh = outcomeOf name 0 := by
    rw [run_setUp_of_new rfl, hname, outcomeOf]
    cases Level.number? name <;> rfl
  have hhandler : (outcomeOf name 0).2.formats ≠ [] := by
    rw [formats_outcomeOf]
    exact List.cons_ne_nil _ _
  have hlater (k : Nat) : outcomeOf name (k + 1) =
      (.ok (), { (outcomeOf name 0).2 with accessLevel := Level.warning }) := by
    unfold outcomeOf
    cases Level.number? name <;> rfl
  rw [history, hfirst, history_again hhandler, List.range_succ_eq_map, List.map_cons, List.map_map]
  refine congrArg _ (List.ext_getElem (by simp) fun k _ _ => ?_)
  rw [List.getElem_replicate, List.getElem_map, Function.comp_apply, hlater]

/-- One of the set-ups up to the one with the index `k` was not refused. -/
def Taken (outcomes : List Outcome) (k : Nat) : Prop :=
  ∃ j ≤ k, ∃ log, outcomes[j]? = some (.ok (), log)

/-- The outcomes for a fresh log whose first set-up asked for the level `name`. -/
structure SetUpFor (name : String) (outcomes : List Outcome) : Prop where
  handler : ∀ o ∈ outcomes, o.2.formats = [lineFormat]
  root : ∀ o ∈ outcomes, o.2.rootLevel = (Level.number? name).getD Level.warning
  refused_iff : ∀ k level, (∃ log, outcomes[k]? = some (.error level, log)) ↔
    k = 0 ∧ Level.number? name = none ∧ level = ⟨name⟩
  access : ∀ k o, outcomes[k]? = some o → Taken outcomes k → o.2.accessLevel = Level.warning
  noAccess : ∀ k o, outcomes[k]? = some o → ¬ Taken outcomes k → o.2.accessLevel = 0

theorem setUpFor_outcomes (name : String) (n : Nat) :
    SetUpFor name ((List.range (n + 1)).map (outcomeOf name)) := by
  have hget {k : Nat} {o : Outcome} :
      ((List.range (n + 1)).map (outcomeOf name))[k]? = some o ↔ k ≤ n ∧ outcomeOf name k = o := by
    rw [List.getElem?_map, Option.map_eq_some_iff]
    simp only [List.getElem?_eq_some_iff, List.getElem_range, List.length_range]
    constructor
    · rintro ⟨_, ⟨hk, rfl⟩, ho⟩
      exact ⟨by omega, ho⟩
    · rintro ⟨hk, ho⟩
      exact ⟨k, ⟨by omega, rfl⟩, ho⟩
  refine ⟨fun o ho => ?_, fun o ho => ?_, fun k level => ?_, fun k o ho htaken => ?_,
    fun k o ho htaken => ?_⟩
  · obtain ⟨k, -, rfl⟩ := List.mem_map.mp ho
    exact formats_outcomeOf name k
  · obtain ⟨k, -, rfl⟩ := List.mem_map.mp ho
    exact rootLevel_outcomeOf name k
  · rw [← outcomeOf_eq_error_iff]
    constructor
    · rintro ⟨log, hlog⟩
      rw [(hget.mp hlog).2]
    · intro h
      have hk : k ≤ n := by
        have := (outcomeOf_eq_error_iff.mp h).1
        omega
      exact ⟨(outcomeOf name k).2, hget.mpr ⟨hk, Prod.ext h rfl⟩⟩
  · obtain ⟨-, rfl⟩ := hget.mp ho
    rcases accessLevel_outcomeOf name k with ⟨-, haccess⟩ | ⟨rfl, hrefused, -⟩
    · exact haccess
    · obtain ⟨j, hj, log, hlog⟩ := htaken
      obtain rfl : j = 0 := by omega
      rw [(hget.mp hlog).2] at hrefused
      exact absurd rfl hrefused
  · obtain ⟨hk, rfl⟩ := hget.mp ho
    rcases accessLevel_outcomeOf name k with ⟨hok, -⟩ | ⟨-, -, haccess⟩
    · have hend : outcomeOf name k = (.ok (), (outcomeOf name k).2) := Prod.ext hok rfl
      exact absurd ⟨k, Nat.le_refl k, _, hget.mpr ⟨hk, hend⟩⟩ htaken
    · exact haccess

/-- **A log that is set up again and again.** However often a fresh log is set up, and whatever is
asked for, there is one handler after each set-up, with the format of the lines. The first set-up
decides on the level of the root for good: it is the one asked for, or the one of a fresh log if that
is unknown. Only the first set-up can be refused, and it is so exactly if its level is unknown. The
access level is set from the first set-up on that is not refused. -/
theorem history_setUpFor (given : Option String) (env : Environment)
    (calls : List (Option String × Environment)) :
    let name := effectiveLevel given env
    let outcomes := history fresh ((given, env) :: calls)
    AsksFor given env name ∧ outcomes.length = calls.length + 1 ∧ SetUpFor name outcomes := by
  intro name outcomes
  have houtcomes : outcomes = (List.range (calls.length + 1)).map (outcomeOf name) :=
    history_fresh given env calls
  refine ⟨asksFor_effectiveLevel given env, ?_, ?_⟩
  · rw [houtcomes, List.length_map, List.length_range]
  · rw [houtcomes]
    exact setUpFor_outcomes name calls.length

/-- A refused set-up leaves its handler behind, and so the next one does not set the level. -/
example : (history fresh [(some "loud", []), (none, [("LOG_LEVEL", "debug")])]).map Prod.snd =
    [{ rootLevel := 30, formats := [lineFormat], accessLevel := 0 },
      { rootLevel := 30, formats := [lineFormat], accessLevel := 30 }] := by
  decide +kernel

end Remittance.Log
