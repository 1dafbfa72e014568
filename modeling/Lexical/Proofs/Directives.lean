import Lexical.Log.Filter
import Mathlib.Data.List.Induction

/-! Which directive decides for a target, and what a filter then lets pass. -/
namespace Lexical.Log

variable {d e : Directive} {ds : List Directive} {target : String} {base base' : Threshold}
  {spec : String} {r : Record}

/-! ## The directive that decides -/

namespace Directive

/-- A directive speaks about its own targets, and about all if it names none. -/
def AppliesTo (d : Directive) (target : String) : Prop :=
  ∀ name ∈ d.target, name.toList <+: target.toList

/-- How much of a target a directive names. -/
def reach (d : Directive) : Nat := d.target.elim 0 (·.length + 1)

theorem closeness?_eq_some_iff {n : Nat} :
    d.closeness? target = some n ↔ d.AppliesTo target ∧ d.reach = n := by
  cases named : d.target with
  | none => simp [closeness?, AppliesTo, reach, named]
  | some name => simp [closeness?, AppliesTo, reach, named]

theorem closeness?_eq_none_iff : d.closeness? target = none ↔ ¬d.AppliesTo target := by
  cases closeness : d.closeness? target with
  | none =>
    simp only [true_iff]
    intro applies
    have close := closeness?_eq_some_iff.mpr ⟨applies, rfl⟩
    simp [closeness] at close
  | some n => simpa using (closeness?_eq_some_iff.mp closeness).1

end Directive

/-- Of the directives that speak about `target` none reaches further than `d`, and none behind `d`
reaches as far. -/
def Decides (ds : List Directive) (target : String) (d : Directive) : Prop :=
  ∃ before after, ds = before ++ d :: after ∧ d.AppliesTo target ∧
    (∀ e ∈ before, e.AppliesTo target → e.reach ≤ d.reach) ∧
    (∀ e ∈ after, e.AppliesTo target → e.reach < d.reach)

/-- Nothing is said about `target`. -/
def Silent (ds : List Directive) (target : String) : Prop := ∀ d ∈ ds, ¬d.AppliesTo target

theorem Decides.appliesTo (h : Decides ds target d) : d.AppliesTo target := by
  obtain ⟨_, _, _, applies, _⟩ := h
  exact applies

theorem Decides.mem (h : Decides ds target d) : d ∈ ds := by
  obtain ⟨_, _, rfl, _⟩ := h
  simp

theorem Decides.reach_le (h : Decides ds target d) (mem : e ∈ ds) (applies : e.AppliesTo target) :
    e.reach ≤ d.reach := by
  obtain ⟨before, after, rfl, -, before_le, after_lt⟩ := h
  rcases List.mem_append.mp mem with mem | mem
  · exact before_le e mem applies
  rcases List.mem_cons.mp mem with rfl | mem
  · exact Nat.le_refl _
  · exact Nat.le_of_lt (after_lt e mem applies)

/-- A directive more decides if it reaches as far as any before it; else it leaves the decision as
it was, unless it reaches as far as the one that decided. -/
theorem decides_concat : Decides (ds ++ [e]) target d ↔
    (d = e ∧ e.AppliesTo target ∧ ∀ c ∈ ds, c.AppliesTo target → c.reach ≤ e.reach) ∨
    (Decides ds target d ∧ (e.AppliesTo target → e.reach < d.reach)) := by
  constructor
  · rintro ⟨before, after, whole, applies, before_le, after_lt⟩
    rcases List.eq_nil_or_concat after with rfl | ⟨after, last, rfl⟩
    · obtain ⟨rfl, same⟩ := List.append_inj' whole rfl
      cases same
      exact .inl ⟨rfl, applies, before_le⟩
    · rw [List.concat_eq_append, ← List.cons_append, ← List.append_assoc] at whole
      obtain ⟨rfl, same⟩ := List.append_inj' whole rfl
      cases same
      rw [List.concat_eq_append] at after_lt
      refine .inr ⟨⟨before, after, rfl, applies, before_le, ?_⟩, after_lt e (by simp)⟩
      exact fun c mem => after_lt c (List.mem_append_left _ mem)
  · rintro (⟨rfl, applies, le⟩ | ⟨⟨before, after, rfl, applies, before_le, after_lt⟩, lt⟩)
    · exact ⟨ds, [], rfl, applies, le, by simp⟩
    · refine ⟨before, after ++ [e], by simp, applies, before_le, ?_⟩
      intro c mem
      rcases List.mem_append.mp mem with mem | mem
      · exact after_lt c mem
      · rw [List.mem_singleton.mp mem]
        exact lt

theorem Decides.unique {c : Directive} (h : Decides ds target c) (h' : Decides ds target d) :
    c = d := by
  induction ds using List.reverseRecOn with
  | nil => exact absurd h.mem List.not_mem_nil
  | append_singleton ds e ih =>
    rcases decides_concat.mp h with ⟨rfl, applies, le⟩ | ⟨earlier, lt⟩ <;>
      rcases decides_concat.mp h' with ⟨rfl, applies', le'⟩ | ⟨earlier', lt'⟩
    · rfl
    · have := le d earlier'.mem earlier'.appliesTo
      have := lt' applies
      omega
    · have := le' c earlier.mem earlier.appliesTo
      have := lt applies'
      omega
    · exact ih earlier earlier'

theorem decides_concat_of_not_appliesTo (h : ¬e.AppliesTo target) :
    Decides (ds ++ [e]) target d ↔ Decides ds target d := by
  simp [decides_concat, h]

theorem decides_concat_of_silent (silent : Silent ds target) (applies : e.AppliesTo target) :
    Decides (ds ++ [e]) target d ↔ d = e := by
  rw [decides_concat]
  constructor
  · rintro (⟨rfl, -⟩ | ⟨decides, -⟩)
    · rfl
    · exact absurd decides.appliesTo (silent d decides.mem)
  · rintro rfl
    exact .inl ⟨rfl, applies, fun c mem applies => absurd applies (silent c mem)⟩

theorem decides_concat_of_decides {b : Directive} (decides : Decides ds target b)
    (applies : e.AppliesTo target) :
    Decides (ds ++ [e]) target d ↔ d = if b.reach ≤ e.reach then e else b := by
  rw [decides_concat]
  by_cases far : b.reach ≤ e.reach
  · rw [if_pos far]
    constructor
    · rintro (⟨rfl, -⟩ | ⟨decides', lt⟩)
      · rfl
      · have := lt applies
        rw [decides'.unique decides] at this
        omega
    · rintro rfl
      exact .inl ⟨rfl, applies, fun c mem applies =>
        Nat.le_trans (decides.reach_le mem applies) far⟩
  · rw [if_neg far]
    constructor
    · rintro (⟨rfl, -, le⟩ | ⟨decides', -⟩)
      · exact absurd (le b decides.mem decides.appliesTo) far
      · exact decides'.unique decides
    · rintro rfl
      exact .inr ⟨decides, fun _ => by omega⟩

theorem silent_or_exists_decides (ds : List Directive) (target : String) :
    Silent ds target ∨ ∃ d, Decides ds target d := by
  induction ds using List.reverseRecOn with
  | nil => exact .inl (by simp [Silent])
  | append_singleton ds e ih =>
    by_cases applies : e.AppliesTo target
    · rcases ih with silent | ⟨d, decides⟩
      · exact .inr ⟨e, (decides_concat_of_silent silent applies).mpr rfl⟩
      · exact .inr ⟨_, (decides_concat_of_decides decides applies).mpr rfl⟩
    · rcases ih with silent | ⟨d, decides⟩
      · exact .inl (List.forall_mem_append.mpr ⟨silent, by simpa using applies⟩)
      · exact .inr ⟨d, (decides_concat_of_not_appliesTo applies).mpr decides⟩

/-- A directive for all targets in front decides where nothing else is said. -/
theorem decides_cons_all : Decides (⟨none, base⟩ :: ds) target d ↔
    Decides ds target d ∨ (d = ⟨none, base⟩ ∧ Silent ds target) := by
  have applies_all : (Directive.mk none base).AppliesTo target := by simp [Directive.AppliesTo]
  constructor
  · rintro ⟨before, after, whole, applies, before_le, after_lt⟩
    rcases List.cons_eq_append_iff.mp whole with ⟨rfl, same⟩ | ⟨before, rfl, rfl⟩
    · cases same
      exact .inr ⟨rfl, fun e mem applies => absurd (after_lt e mem applies) (Nat.not_lt_zero _)⟩
    · refine .inl ⟨before, after, rfl, applies, ?_, after_lt⟩
      exact fun e mem => before_le e (List.mem_cons_of_mem _ mem)
  · rintro (⟨before, after, rfl, applies, before_le, after_lt⟩ | ⟨rfl, silent⟩)
    · refine ⟨⟨none, base⟩ :: before, after, rfl, applies, ?_, after_lt⟩
      exact List.forall_mem_cons.mpr ⟨fun _ => Nat.zero_le _, before_le⟩
    · exact ⟨[], ds, rfl, applies_all, by simp, fun e mem applies => absurd applies (silent e mem)⟩

/-- Going through the directives from the first to the last finds the one that decides. -/
theorem Filter.decisive?_eq_some_iff {pattern : Option Pattern} :
    decisive? ⟨ds, pattern⟩ target = some d ↔ Decides ds target d := by
  induction ds using List.reverseRecOn generalizing d with
  | nil => simp [decisive?, Decides]
  | append_singleton ds e ih =>
    rw [decisive?, List.foldl_append, ← decisive?.eq_1 ⟨ds, pattern⟩, List.foldl_cons,
      List.foldl_nil]
    by_cases applies : e.AppliesTo target
    · have close := Directive.closeness?_eq_some_iff.mpr ⟨applies, rfl⟩
      cases best : decisive? ⟨ds, pattern⟩ target with
      | none =>
        have silent : Silent ds target := by
          apply (silent_or_exists_decides ds target).resolve_right
          rintro ⟨b, decides⟩
          simp [ih.mpr decides] at best
        rw [decides_concat_of_silent silent applies]
        simp [close, eq_comm]
      | some b =>
        have decides := ih.mp best
        have close' := Directive.closeness?_eq_some_iff.mpr ⟨decides.appliesTo, rfl⟩
        rw [decides_concat_of_decides decides applies]
        simp only [close, close', Option.bind_some]
        by_cases far : b.reach ≤ e.reach <;> simp [far, eq_comm]
    · have far := Directive.closeness?_eq_none_iff.mpr applies
      rw [decides_concat_of_not_appliesTo applies, ← ih]
      simp only [far]

/-! ## What a filter lets pass -/

/-- What the text `spec` says itself. -/
def Filter.own (spec : String) : Filter :=
  match Spec.parse? spec with
  | none => ⟨[], none⟩
  | some s => ⟨s.directives.filterMap Except.toOption, s.pattern.bind Except.toOption⟩

theorem Filter.ofSpec_eq (base : Threshold) (spec : String) :
    ofSpec base spec = ⟨⟨none, base⟩ :: (own spec).directives, (own spec).pattern⟩ := by
  rw [ofSpec, own]
  cases Spec.parse? spec <;> rfl

example : Filter.own "" = ⟨[], none⟩ := by decide +kernel

/-- The threshold for a target is that of the directive that decides, and `base` where nothing is
said. -/
inductive Governs (ds : List Directive) (base : Threshold) (target : String) : Threshold → Prop
  | directive {d : Directive} (decides : Decides ds target d) :
      Governs ds base target d.threshold
  | base (silent : Silent ds target) : Governs ds base target base

theorem governs_iff {t : Threshold} : Governs ds base target t ↔
    ∃ d, Decides (⟨none, base⟩ :: ds) target d ∧ d.threshold = t := by
  constructor
  · rintro (decides | silent)
    · exact ⟨_, decides_cons_all.mpr (.inl decides), rfl⟩
    · exact ⟨_, decides_cons_all.mpr (.inr ⟨rfl, silent⟩), rfl⟩
  · rintro ⟨d, decides, rfl⟩
    rcases decides_cons_all.mp decides with decides | ⟨rfl, silent⟩
    · exact .directive decides
    · exact .base silent

/-- A level for all targets stands in for `base`. -/
theorem governs_bare {t u : Threshold} (bare : ⟨none, t⟩ ∈ ds) :
    Governs ds base target u ↔ Governs ds base' target u := by
  have spoken : ¬Silent ds target := fun silent => silent _ bare (by simp [Directive.AppliesTo])
  constructor
  · rintro (decides | silent)
    · exact .directive decides
    · exact absurd silent spoken
  · rintro (decides | silent)
    · exact .directive decides
    · exact absurd silent spoken

/-- Every target has one threshold. -/
theorem existsUnique_governs (ds : List Directive) (base : Threshold) (target : String) :
    ∃! t, Governs ds base target t := by
  apply existsUnique_of_exists_of_unique
  · rcases silent_or_exists_decides ds target with silent | ⟨d, decides⟩
    · exact ⟨base, .base silent⟩
    · exact ⟨d.threshold, .directive decides⟩
  · intro t u first second
    obtain ⟨d, decides, rfl⟩ := governs_iff.mp first
    obtain ⟨e, decides', rfl⟩ := governs_iff.mp second
    rw [decides.unique decides']

/-- A record passes by its level and target, and by its message if a pattern is given. -/
structure Passes (base : Threshold) (spec : String) (r : Record) : Prop where
  level : ∃ t, Governs (Filter.own spec).directives base r.target t ∧ t.admits r.level
  message : ∀ pattern ∈ (Filter.own spec).pattern, pattern.occursIn r.message

theorem Filter.admits_ofSpec : (ofSpec base spec).admits r = true ↔ Passes base spec r := by
  have level : (((ofSpec base spec).decisive? r.target).any (·.threshold.admits r.level) = true) ↔
      ∃ t, Governs (own spec).directives base r.target t ∧ t.admits r.level := by
    rw [ofSpec_eq, Option.any_eq_true]
    simp only [decisive?_eq_some_iff, governs_iff]
    constructor
    · rintro ⟨d, decides, admits⟩
      exact ⟨_, ⟨d, decides, rfl⟩, admits⟩
    · rintro ⟨_, ⟨d, decides, rfl⟩, admits⟩
      exact ⟨d, decides, admits⟩
  have message : ((ofSpec base spec).pattern.all (·.occursIn r.message) = true) ↔
      ∀ pattern ∈ (own spec).pattern, pattern.occursIn r.message := by
    rw [ofSpec_eq]
    cases (own spec).pattern <;> simp
  rw [admits, Bool.and_eq_true, level, message]
  exact ⟨fun h => ⟨h.1, h.2⟩, fun h => ⟨h.level, h.message⟩⟩

instance (base : Threshold) (spec : String) (r : Record) : Decidable (Passes base spec r) :=
  decidable_of_iff _ Filter.admits_ofSpec

theorem passes_congr {r' : Record} (level : r.level = r'.level) (target : r.target = r'.target)
    (message : ∀ pattern ∈ (Filter.own spec).pattern,
      pattern.occursIn r.message = pattern.occursIn r'.message) :
    Passes base spec r ↔ Passes base spec r' := by
  constructor
  · rintro ⟨low, found⟩
    rw [level, target] at low
    exact ⟨low, fun pattern given => message pattern given ▸ found pattern given⟩
  · rintro ⟨low, found⟩
    rw [← level, ← target] at low
    exact ⟨low, fun pattern given => message pattern given ▸ found pattern given⟩

/-- A higher threshold where nothing is said lets pass what passed. -/
theorem Passes.mono (h : Passes base spec r) (le : base.rank ≤ base'.rank) :
    Passes base' spec r := by
  obtain ⟨⟨t, governs, admits⟩, message⟩ := h
  refine ⟨?_, message⟩
  cases governs with
  | directive decides => exact ⟨_, .directive decides, admits⟩
  | base silent =>
    refine ⟨_, .base silent, ?_⟩
    simp only [Threshold.admits, decide_eq_true_eq] at admits ⊢
    omega

end Lexical.Log
