import Mathlib.Data.List.Basic
import Remittance.Proofs.Service.LogSetup
import Remittance.Proofs.Shape.Account
import Remittance.Service.Launch

/-! # What a launch makes of its environment

An environment gives a value for a name if the last of its variables of that name, in any casing,
has it (`Environment.Gives`), and it asks for a configuration if this has what is made of the values
given and a default where none is given (`Environment.Asks`). It is unfit if the level it gives is
unknown or its port is none (`Environment.Unfit`), and it is so exactly if it asks for nothing
(`Environment.exists_asks_iff`).

The level is checked twice, in the configuration and when the log is set up. The second check takes
the name in upper case once more, which changes nothing (`Level.upper_of_number?`), so it never
fails after the first (`Log.run_setUp`). `Launch.ofEnvironment_configured` tells what a launch does
in every environment. -/

namespace Remittance

open Shape

/-! ### What an environment gives -/

/-- The last variable of a name, in any casing, has the value. -/
def Environment.Gives (env : Environment) (name value : String) : Prop :=
  ∃ earlier casing later, env = earlier ++ (casing, value) :: later ∧
    casing.toLower = name.toLower ∧ ∀ v ∈ later, v.1.toLower ≠ name.toLower

/-- What is made of the value given for a name, or the default if none is given. -/
def Environment.Sets {α : Type} (env : Environment) (name : String) (default : α)
    (Reads : String → α → Prop) (a : α) : Prop :=
  (∃ given, env.Gives name given ∧ Reads given a) ∨
    ((∀ given, ¬ env.Gives name given) ∧ a = default)

/-- The text is read as the name of a level: in upper case, and without the blanks around it. -/
def Configuration.ReadsLevel (given name : String) : Prop :=
  name = Text.upper (Text.trim given) ∧ ∃ n, Level.number? name = some n

/-- The text is read as a port: as an integer from 1 to 65535. -/
def Configuration.ReadsPort (given : String) (port : Nat) : Prop :=
  Numeral.lenient given = .ok (port : Int) ∧ 1 ≤ port ∧ port ≤ 65535

/-- A configuration has what the environment sets. -/
structure Environment.Asks (env : Environment) (c : Configuration) : Prop where
  level : env.Sets "LOG_LEVEL" "INFO" Configuration.ReadsLevel c.level
  host : env.Sets "API_HOST" "0.0.0.0" (fun given host => given = host) c.host
  port : env.Sets "API_PORT" 8000 Configuration.ReadsPort c.port

/-- The level that the environment gives is unknown, or the port it gives is none. -/
def Environment.Unfit (env : Environment) : Prop :=
  (∃ given, env.Gives "LOG_LEVEL" given ∧ Level.number? (Text.upper (Text.trim given)) = none) ∨
    ∃ given, env.Gives "API_PORT" given ∧
      ∀ n : Int, Numeral.lenient given = .ok n → n < 1 ∨ 65535 < n

section Variables

variable {α : Type} {env : Environment} {name : String} {default a : α}

theorem Configuration.valueOf?_eq_some_iff {value : String} :
    valueOf? env name.toLower = some value ↔ env.Gives name value := by
  -- the last of those with the name is the first of them from the end
  simp only [valueOf?, List.getLast?_filter, Option.map_eq_some_iff, List.find?_eq_some_iff_append,
    beq_iff_eq]
  constructor
  · rintro ⟨⟨casing, _⟩, ⟨hname, later, earlier, henv, hlater⟩, rfl⟩
    refine ⟨earlier.reverse, casing, later.reverse, ?_, hname, fun v hv => ?_⟩
    · have := congrArg List.reverse henv
      simpa using this
    · simpa using hlater v (List.mem_reverse.mp hv)
  · rintro ⟨earlier, casing, later, rfl, hname, hlater⟩
    refine ⟨(casing, value), ⟨hname, later.reverse, earlier.reverse, by simp, fun v hv => ?_⟩, rfl⟩
    simpa using hlater v (List.mem_reverse.mp hv)

/-- The last variable of a name counts, whatever its casing. -/
example : Configuration.valueOf? [("LOG_LEVEL", "loud"), ("log_level", "info")] "log_level" =
    some "info" := by
  cbv

theorem Configuration.valueOf?_eq_none_iff :
    valueOf? env name.toLower = none ↔ ∀ value, ¬ env.Gives name value := by
  simp only [Option.eq_none_iff_forall_ne_some, ne_eq, valueOf?_eq_some_iff]

theorem Environment.Gives.eq {v w : String} (hv : env.Gives name v) (hw : env.Gives name w) :
    v = w := by
  rw [← Configuration.valueOf?_eq_some_iff] at hv hw
  rw [hv] at hw
  exact Option.some.inj hw

theorem Environment.exists_sets_iff {Reads : String → α → Prop} :
    (∃ a, env.Sets name default Reads a) ↔ ∀ given, env.Gives name given → ∃ a, Reads given a := by
  constructor
  · rintro ⟨a, ⟨given, hgiven, ha⟩ | ⟨hnone, -⟩⟩ w hw
    · rw [hw.eq hgiven]
      exact ⟨a, ha⟩
    · exact absurd hw (hnone w)
  · intro h
    by_cases hgiven : ∃ given, env.Gives name given
    · obtain ⟨given, hgiven⟩ := hgiven
      obtain ⟨a, ha⟩ := h given hgiven
      exact ⟨a, .inl ⟨given, hgiven, ha⟩⟩
    · exact ⟨default, .inr ⟨not_exists.mp hgiven, rfl⟩⟩

theorem Configuration.setting_eq_good_iff {check : String → Checked α} :
    setting env name default check = .good a ↔
      env.Sets name default (fun given a => check given = .good a) a := by
  unfold setting Environment.Sets
  cases hvalue : valueOf? env name.toLower with
  | none =>
    have hnone := valueOf?_eq_none_iff.mp hvalue
    simp [hnone, eq_comm]
  | some value =>
    have hgives := valueOf?_eq_some_iff.mp hvalue
    rw [Checked.under_eq_good_iff]
    constructor
    · intro h
      exact .inl ⟨value, hgives, h⟩
    · rintro (⟨given, hgiven, h⟩ | ⟨hnone, -⟩)
      · rw [hgives.eq hgiven]
        exact h
      · exact absurd hgives (hnone value)

end Variables

/-! ### What an environment asks for -/

theorem Shape.numeral_eq_good_iff {s : String} {n : Int} :
    numeral s = .good n ↔ Numeral.lenient s = .ok n := by
  unfold numeral
  split <;> simp_all [Checked.fail]

namespace Configuration

theorem exists_readsLevel_iff {given : String} :
    (∃ name, ReadsLevel given name) ↔ Level.number? (Text.upper (Text.trim given)) ≠ none := by
  simp only [ReadsLevel, exists_eq_left, Option.ne_none_iff_exists']

theorem exists_readsPort_iff {given : String} : (∃ port, ReadsPort given port) ↔
    ¬ ∀ n : Int, Numeral.lenient given = .ok n → n < 1 ∨ 65535 < n := by
  constructor
  · rintro ⟨port, hport, hlow, hhigh⟩ hnone
    have := hnone port hport
    omega
  · intro hsome
    obtain ⟨n, hn⟩ := not_forall.mp hsome
    obtain ⟨hread, hrange⟩ := Classical.not_imp.mp hn
    have hport : ((n.toNat : Nat) : Int) = n := Int.toNat_of_nonneg (by omega)
    exact ⟨n.toNat, by rw [hport, hread], by omega, by omega⟩

theorem level?_eq_good_iff {given name : String} :
    level? given = .good name ↔ ReadsLevel given name := by
  rw [level?, ReadsLevel, ← Option.isSome_iff_exists]
  generalize Text.upper (Text.trim given) = read
  by_cases hsome : (Level.number? read).isSome = true
  · rw [if_pos hsome, Checked.good.injEq]
    constructor
    · rintro rfl
      exact ⟨rfl, hsome⟩
    · exact fun h => h.1.symm
  · rw [if_neg hsome]
    constructor
    · rintro ⟨⟩
    · rintro ⟨rfl, h⟩
      exact absurd h hsome

theorem port?_eq_good_iff {given : String} {port : Nat} :
    port? given = .good port ↔ ReadsPort given port := by
  rw [port?, ReadsPort, Checked.andThen_eq_good_iff]
  simp only [numeral_eq_good_iff]
  constructor
  · rintro ⟨n, hn, h⟩
    split_ifs at h with hlow hhigh
    · cases h
    · cases h
    · cases h
      have hport : ((n.toNat : Nat) : Int) = n := Int.toNat_of_nonneg (by omega)
      rw [hport]
      exact ⟨hn, by omega, by omega⟩
  · rintro ⟨hn, hlow, hhigh⟩
    refine ⟨port, hn, ?_⟩
    rw [if_neg (by omega), if_neg (by omega), Int.toNat_natCast]

/-- **A configuration is read if the environment asks for it.** -/
theorem ofEnvironment_eq_good_iff {env : Environment} {c : Configuration} :
    ofEnvironment env = .good c ↔ env.Asks c := by
  simp only [ofEnvironment, Checked.seq_eq_good_iff, Checked.map_eq_good_iff, setting_eq_good_iff,
    level?_eq_good_iff, port?_eq_good_iff, Checked.good.injEq]
  constructor
  · rintro ⟨_, port, ⟨_, host, ⟨level, hlevel, rfl⟩, hhost, rfl⟩, hport, rfl⟩
    exact ⟨hlevel, hhost, hport⟩
  · rintro ⟨hlevel, hhost, hport⟩
    exact ⟨_, c.port, ⟨_, c.host, ⟨c.level, hlevel, rfl⟩, hhost, rfl⟩, hport, rfl⟩

end Configuration

namespace Environment

variable {env : Environment} {c : Configuration}

theorem Asks.eq {d : Configuration} (hc : env.Asks c) (hd : env.Asks d) : c = d := by
  rw [← Configuration.ofEnvironment_eq_good_iff] at hc hd
  rw [hc] at hd
  exact Checked.good.inj hd

theorem Asks.number? (h : env.Asks c) : ∃ n, Level.number? c.level = some n := by
  rcases h.level with ⟨given, -, -, hnumber⟩ | ⟨-, hdefault⟩
  · exact hnumber
  · exact ⟨Level.info, by rw [hdefault]; decide⟩

theorem Asks.port_range (h : env.Asks c) : 1 ≤ c.port ∧ c.port ≤ 65535 := by
  rcases h.port with ⟨given, -, -, hrange⟩ | ⟨-, hdefault⟩
  · exact hrange
  · omega

/-- **An environment asks for a configuration unless it is unfit.** -/
theorem exists_asks_iff : (∃ c, env.Asks c) ↔ ¬ env.Unfit := by
  simp only [Unfit, not_or, not_exists, not_and]
  constructor
  · rintro ⟨c, hc⟩
    refine ⟨fun given hgiven => ?_, fun given hgiven => ?_⟩
    · exact Configuration.exists_readsLevel_iff.mp (exists_sets_iff.mp ⟨_, hc.level⟩ given hgiven)
    · exact Configuration.exists_readsPort_iff.mp (exists_sets_iff.mp ⟨_, hc.port⟩ given hgiven)
  · rintro ⟨hlevel, hport⟩
    have hlevels : ∃ level, env.Sets "LOG_LEVEL" "INFO" Configuration.ReadsLevel level :=
      exists_sets_iff.mpr fun given hgiven =>
        Configuration.exists_readsLevel_iff.mpr (hlevel given hgiven)
    have hhosts : ∃ host, env.Sets "API_HOST" "0.0.0.0" (fun given host => given = host) host :=
      exists_sets_iff.mpr fun given _ => ⟨given, rfl⟩
    have hports : ∃ port, env.Sets "API_PORT" 8000 Configuration.ReadsPort port :=
      exists_sets_iff.mpr fun given hgiven =>
        Configuration.exists_readsPort_iff.mpr (hport given hgiven)
    obtain ⟨level, hlevel⟩ := hlevels
    obtain ⟨host, hhost⟩ := hhosts
    obtain ⟨port, hport⟩ := hports
    exact ⟨⟨level, host, port⟩, hlevel, hhost, hport⟩

end Environment

/-! ### Setting up the log -/

theorem Level.upper_of_number? {name : String} {n : Nat} (h : number? name = some n) :
    name ≠ "" ∧ Text.upper name = name := by
  have hnames : ∀ level ∈ numbers, level.1 ≠ "" ∧ Text.upper level.1 = level.1 := by decide
  obtain ⟨before, after, hsplit, -⟩ := List.lookup_eq_some_iff.mp h
  exact hnames (name, n) (by rw [hsplit]; simp)

namespace Log

/-- The log after it is set up with a level of the number `n`: its root gets a handler and the level
if it has no handler yet, and stays as it is otherwise. -/
def withLevel (log : Log) (n : Nat) : Log :=
  { (if log.formats = [] then { log with rootLevel := n, formats := [lineFormat] } else log) with
    accessLevel := Level.warning }

/-- **Setting up the log with the name of a level.** Whatever the environment gives and whatever the
log is like, the name is taken. -/
theorem run_setUp {name : String} {n : Nat} (h : Level.number? name = some n) (env : Environment)
    (log : Log) : (setUp (some name) env).run log = (.ok (), log.withLevel n) := by
  obtain ⟨hne, hupper⟩ := Level.upper_of_number? h
  have hlevel : effectiveLevel (some name) env = name := by
    simp [effectiveLevel, hne, hupper]
  by_cases hformats : log.formats = []
  · rw [run_setUp_of_new hformats, hlevel, h, withLevel, if_pos hformats]
  · rw [run_setUp_again hformats, withLevel, if_neg hformats]

end Log

/-! ### Launches -/

namespace Launch

theorem ofEnvironment_of_asks {env : Environment} {c : Configuration} (h : env.Asks c) (log : Log) :
    ∃ n, Level.number? c.level = some n ∧
      ofEnvironment env log = ⟨.ok { host := c.host, port := c.port }, log.withLevel n,
        if (log.withLevel n).rootLevel ≤ Level.info then [startingLine c] else []⟩ := by
  obtain ⟨n, hn⟩ := h.number?
  have hread := Configuration.ofEnvironment_eq_good_iff.mpr h
  refine ⟨n, hn, ?_⟩
  simp only [ofEnvironment, hread, Log.run_setUp hn, Log.logsInfo, decide_eq_true_eq]

theorem ofEnvironment_of_unfit {env : Environment} (h : env.Unfit) (log : Log) :
    ∃ issues, ofEnvironment env log = ⟨.error (.configuration issues), log, []⟩ := by
  cases hread : Configuration.ofEnvironment env with
  | good c =>
    have hasks := Configuration.ofEnvironment_eq_good_iff.mp hread
    exact absurd h (Environment.exists_asks_iff.mp ⟨c, hasks⟩)
  | bad issues => exact ⟨issues, by simp only [ofEnvironment, hread]⟩

/-- **What a launch does in any environment.** In an unfit one it ends with the issues of the
configuration and leaves the new log as it is, without a line. In any other it starts a server at
the host and the port that the environment asks for; the log has one handler, the level asked for
and no access lines below warnings, and tells that the server starts if that level lets it. The log
never refuses a level, neither in a launch nor of those that the configuration takes. -/
theorem ofEnvironment_configured (env : Environment) :
    ((env.Unfit ∧ ∃ issues, ofEnvironment env = ⟨.error (.configuration issues), .fresh, []⟩) ∨
      (¬ env.Unfit ∧ ∃ c n, env.Asks c ∧ (∀ d, env.Asks d → c = d) ∧ 1 ≤ c.port ∧ c.port ≤ 65535 ∧
        Level.number? c.level = some n ∧
        ofEnvironment env = ⟨.ok { host := c.host, port := c.port },
          { rootLevel := n, formats := [Log.lineFormat], accessLevel := Level.warning },
          if n ≤ Level.info then [startingLine c] else []⟩)) ∧
    (∀ log fault, (ofEnvironment env log).outcome ≠ .error (.log fault)) ∧
    ∀ text name log, Configuration.level? text = .good name →
      ((Log.setUp (some name) env).run log).1 = .ok () := by
  refine ⟨?_, fun log fault => ?_, fun text name log h => ?_⟩
  · by_cases hfit : env.Unfit
    · exact .inl ⟨hfit, ofEnvironment_of_unfit hfit .fresh⟩
    · obtain ⟨c, hc⟩ := Environment.exists_asks_iff.mpr hfit
      obtain ⟨n, hn, hlaunch⟩ := ofEnvironment_of_asks hc .fresh
      obtain ⟨hlow, hhigh⟩ := hc.port_range
      exact .inr ⟨hfit, c, n, hc, fun d hd => hc.eq hd, hlow, hhigh, hn, hlaunch⟩
  · by_cases hfit : env.Unfit
    · obtain ⟨issues, hlaunch⟩ := ofEnvironment_of_unfit hfit log
      rw [hlaunch]; rintro ⟨⟩
    · obtain ⟨c, hc⟩ := Environment.exists_asks_iff.mpr hfit
      obtain ⟨n, -, hlaunch⟩ := ofEnvironment_of_asks hc log
      rw [hlaunch]; rintro ⟨⟩
  · obtain ⟨-, n, hn⟩ := Configuration.level?_eq_good_iff.mp h
    rw [Log.run_setUp hn]

end Launch

end Remittance
