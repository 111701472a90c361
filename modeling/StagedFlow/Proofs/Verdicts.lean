import Mathlib.Data.List.Nodup
import Mathlib.Data.List.Perm.Subperm
import StagedFlow.Proofs.Checks
import StagedFlow.Proofs.Interference

/-!
# The verdicts of tasks side by side

Few tasks side by side end with the first error that arises, many with the error of the first of
them that fails. Which one that is depends on where each of them pauses and on the world that each
of them finds, so that it cannot be told from the tasks alone. To speak of one run, the tasks are
run in a world with a second part, where each task that ends writes its verdict under its key.
Nobody reads that list, and the run goes on as it does without one.
-/

namespace StagedFlow.Task

variable {W κ ε φ α β : Type}

/-- The results of tasks that have ended, each under the key of its task, in this order. -/
abbrev Verdicts (κ φ : Type) := List (κ × Except φ Unit)

def Verdicts.good (keys : List κ) : Verdicts κ φ := keys.map fun key => (key, .ok ())

theorem Verdicts.not_perm_good {verdicts : Verdicts κ φ} {key : κ} {fault : φ}
    (h : (key, .error fault) ∈ verdicts) (keys : List κ) : ¬ verdicts.Perm (good keys) := by
  intro hperm
  obtain ⟨_, -, hgood⟩ := List.mem_map.mp (hperm.subset h)
  cases hgood

def tell (key : κ) (verdict : Except φ Unit) : W × Verdicts κ φ → W × Verdicts κ φ :=
  Prod.map id (· ++ [(key, verdict)])

/-- The task, which writes its verdict under a key when it ends. What it fails with is raised under
this key. -/
def telling (raise : κ → φ → ε) (key : κ) (t : Task W (Except φ Unit)) :
    Task (W × Verdicts κ φ) (Except ε Unit) :=
  t.beside.bind fun verdict => .act (tell key verdict) fun _ => .done (verdict.mapError (raise key))

/-- The first task does what the second one does. Besides, it writes a good verdict under each of
the keys that are left, in any order, up to a bad one, with which it ends. -/
inductive Tells (raise : κ → φ → ε) : List κ → Task (W × Verdicts κ φ) (Except ε α) →
    Task W (Except ε α) → Prop where
  | done (a : α) : Tells raise [] (.done (.ok a)) (.done (.ok a))
  | act {left : List κ} {change : W → W}
      {traced : W × Verdicts κ φ → Task (W × Verdicts κ φ) (Except ε α)}
      {plain : W → Task W (Except ε α)} (hnext : ∀ shared, Tells raise left (traced shared)
        (plain shared.1)) :
      Tells raise left (.act (Prod.map change id) traced) (.act change plain)
  | pause {left : List κ} {traced : Task (W × Verdicts κ φ) (Except ε α)}
      {plain : Task W (Except ε α)} (hnext : Tells raise left traced plain) :
      Tells raise left (.pause traced) (.pause plain)
  | told {left rest : List κ} {key : κ}
      {traced : W × Verdicts κ φ → Task (W × Verdicts κ φ) (Except ε α)}
      {plain : Task W (Except ε α)} (hleft : left.Perm (key :: rest))
      (hnext : ∀ shared, Tells raise rest (traced shared) plain) :
      Tells raise left (.act (tell key (.ok ())) traced) plain
  | failed (left : List κ) (key : κ) (fault : φ) :
      Tells raise left (.act (tell key (.error fault)) fun _ => .done (.error (raise key fault)))
        (.done (.error (raise key fault)))

/-- The verdicts that are written in a run, given how it ends: a good one under every key, or good
ones up to the one that ends it. -/
inductive Told (raise : κ → φ → ε) (left : List κ) : Except ε α → Verdicts κ φ → Prop where
  | all (a : α) {verdicts : Verdicts κ φ} (h : verdicts.Perm (Verdicts.good left)) :
      Told raise left (.ok a) verdicts
  | upTo {before : Verdicts κ φ} (key : κ) (fault : φ)
      (h : ∀ verdict ∈ before, verdict.2 = .ok ()) :
      Told raise left (.error (raise key fault)) (before ++ [(key, .error fault)])

namespace Told

variable {raise : κ → φ → ε} {left rest : List κ} {result : Except ε α} {verdicts : Verdicts κ φ}

/-- A good verdict comes before all others. -/
theorem cons {key : κ} (h : Told raise rest result verdicts) (hleft : left.Perm (key :: rest)) :
    Told raise left result ((key, .ok ()) :: verdicts) := by
  cases h with
  | all a hperm =>
    have hgood : (Verdicts.good left).Perm ((key, .ok ()) :: Verdicts.good rest) :=
      hleft.map fun key => ((key, .ok ()) : κ × Except φ Unit)
    exact .all a ((hperm.cons _).trans hgood.symm)
  | upTo last fault hbefore =>
    exact .upTo last fault (List.forall_mem_cons.mpr ⟨rfl, hbefore⟩)

theorem ok_iff (h : Told raise left result verdicts) :
    (∃ a, result = .ok a) ↔ verdicts.Perm (Verdicts.good left) := by
  cases h with
  | all a hperm => exact ⟨fun _ => hperm, fun _ => ⟨a, rfl⟩⟩
  | upTo key fault _ =>
    exact ⟨nofun, fun hperm => absurd hperm (Verdicts.not_perm_good List.mem_concat_self left)⟩

theorem error_iff (h : Told raise left result verdicts) (e : ε) :
    result = .error e ↔ ∃ before key fault, verdicts = before ++ [(key, .error fault)] ∧
      (∀ verdict ∈ before, verdict.2 = .ok ()) ∧ e = raise key fault := by
  constructor
  · intro hresult
    cases h with
    | all a _ => cases hresult
    | upTo key fault hbefore =>
      exact ⟨_, key, fault, rfl, hbefore, (Except.error.inj hresult).symm⟩
  · rintro ⟨before, key, fault, hverdicts, -, rfl⟩
    cases h with
    | all a hperm =>
      subst hverdicts
      exact absurd hperm (Verdicts.not_perm_good List.mem_concat_self left)
    | upTo last other _ =>
      obtain ⟨-, hlast⟩ := List.append_singleton_inj.mp hverdicts
      cases hlast
      rfl

end Told

namespace Tells

variable {raise : κ → φ → ε} {left right : List κ}
  {traced : Task (W × Verdicts κ φ) (Except ε α)} {plain : Task W (Except ε α)}

theorem telling (raise : κ → φ → ε) (key : κ) (t : Task W (Except φ Unit)) :
    Tells raise [key] (t.telling raise key)
      (t.map fun verdict => verdict.mapError (raise key)) := by
  induction t with
  | done verdict =>
    cases verdict with
    | error fault => exact .failed [key] key fault
    | ok => exact .told (.refl _) fun _ => .done ()
  | act change next ih => exact .act fun shared => ih shared.1
  | pause next ih => exact .pause ih

theorem map (h : Tells raise left traced plain) (f : α → β) :
    Tells raise left (traced.map fun result => result.map f)
      (plain.map fun result => result.map f) := by
  induction h with
  | done a => exact .done (f a)
  | act _ ih => exact .act ih
  | pause _ ih => exact .pause ih
  | told hleft _ ih => exact .told hleft ih
  | failed left key fault => exact .failed left key fault

/-- A task that takes its turn, before others that have the keys `right` left. -/
theorem tryTurn {k : Task (W × Verdicts κ φ) (Except ε α) →
      Task (W × Verdicts κ φ) (Except ε (β × α))}
    {k' : Task W (Except ε α) → Task W (Except ε (β × α))} (h : Tells raise left traced plain)
    (hk : ∀ {left traced plain}, Tells raise left traced plain →
      Tells raise (right ++ left) (k traced) (k' plain)) :
    Tells raise (right ++ left) (traced.tryTurn k) (plain.tryTurn k') := by
  induction h with
  | done a => exact .pause (hk (.done a))
  | act _ ih => exact .act ih
  | pause hnext _ => exact .pause (hk hnext)
  | told hleft _ ih =>
    exact .told ((hleft.append_left right).trans List.perm_middle) ih
  | failed left key fault => exact .failed _ key fault

theorem tryBoth {traced' : Task (W × Verdicts κ φ) (Except ε β)}
    {plain' : Task W (Except ε β)} (h : Tells raise left traced plain)
    (h' : Tells raise right traced' plain') :
    Tells raise (left ++ right) (traced.tryBoth traced') (plain.tryBoth plain') := by
  induction h generalizing right traced' plain' with
  | done a => exact h'.map (a, ·)
  | act _ ih => exact .act fun shared => ih shared h'
  | pause _ ih => exact h'.tryTurn ih
  | told hleft _ ih => exact .told (hleft.append_right right) fun shared => ih shared h'
  | failed left key fault => exact .failed _ key fault

/-- Tasks in rounds write their verdicts one by one. -/
theorem tryRounds (raise : κ → φ → ε) (tasks : List (κ × Task W (Except φ Unit))) :
    Tells raise (tasks.map Prod.fst)
      (Task.tryRounds (tasks.map fun task => task.2.telling raise task.1))
      (Task.tryRounds (tasks.map fun task => task.2.map fun verdict =>
        verdict.mapError (raise task.1))) := by
  induction tasks with
  | nil => exact .done []
  | cons task rest ih => exact ((telling raise task.1 task.2).tryBoth ih).map _

/-- The list of verdicts does not matter to a run; at the end it tells of the run. -/
theorem exists_told (h : Tells raise left traced plain) (others : List (W → W)) (w : W)
    (verdicts : Verdicts κ φ) :
    ∃ added, traced.amid (others.map (Prod.map · id)) (w, verdicts) =
        (plain.amid others w).beside (verdicts ++ added) ∧
      Told raise left (plain.amid others w).value added := by
  induction h generalizing others w verdicts with
  | done a => exact ⟨[], by rw [List.append_nil]; rfl, .all a (.refl _)⟩
  | act _ ih => exact ih (w, verdicts) others _ verdicts
  | pause _ ih =>
    cases others with
    | nil => exact ih [] w verdicts
    | cons f others => exact ih others (f w) verdicts
  | @told left rest key traced plain hleft _ ih =>
    obtain ⟨added, hrun, htold⟩ := ih (w, verdicts) others w (verdicts ++ [(key, .ok ())])
    exact ⟨(key, .ok ()) :: added, by rwa [List.append_cons], htold.cons hleft⟩
  | failed left key fault =>
    exact ⟨[(key, .error fault)], rfl, .upTo key fault (List.forall_mem_nil _)⟩

end Tells

/-! ### Tasks in order

Where the first task that fails counts, others may have failed before, and the run goes on. -/

/-- The verdicts that are written in such a run, given how it ends: a good one under every key, or
good ones under the keys in front of the one whose bad verdict ends it. -/
inductive ToldInOrder (raise : κ → φ → ε) : List κ → Except ε α → Verdicts κ φ → Prop where
  | all {keys : List κ} (a : α) {verdicts : Verdicts κ φ} (h : verdicts.Perm (Verdicts.good keys)) :
      ToldInOrder raise keys (.ok a) verdicts
  | first {before after : List κ} (key : κ) (fault : φ) {verdicts : Verdicts κ φ}
      (hbefore : ∀ earlier ∈ before, (earlier, .ok ()) ∈ verdicts)
      (hkey : (key, .error fault) ∈ verdicts)
      (honce : (verdicts.map Prod.fst).Subperm (before ++ key :: after)) :
      ToldInOrder raise (before ++ key :: after) (.error (raise key fault)) verdicts

namespace ToldInOrder

variable {raise : κ → φ → ε} {keys : List κ} {result : Except ε α} {verdicts more : Verdicts κ φ}

theorem ok_iff (h : ToldInOrder raise keys result verdicts) :
    (∃ a, result = .ok a) ↔ verdicts.Perm (Verdicts.good keys) := by
  cases h with
  | all a hperm => exact ⟨fun _ => hperm, fun _ => ⟨a, rfl⟩⟩
  | first key fault _ hkey _ =>
    exact ⟨nofun, fun hperm => absurd hperm (Verdicts.not_perm_good hkey _)⟩

/-- A good verdict under the first key. -/
theorem cons {key : κ} (h : ToldInOrder raise keys result verdicts)
    (hperm : more.Perm ((key, .ok ()) :: verdicts)) (f : α → β) :
    ToldInOrder raise (key :: keys) (result.map f) more := by
  cases h with
  | all a hgood => exact .all (f a) (hperm.trans (hgood.cons _))
  | @first before after last fault _ hbefore hkey honce =>
    have hsub : verdicts ⊆ more := fun verdict hverdict =>
      hperm.mem_iff.mpr (List.mem_cons_of_mem _ hverdict)
    have hgood : ∀ earlier ∈ key :: before, (earlier, .ok ()) ∈ more :=
      List.forall_mem_cons.mpr ⟨hperm.mem_iff.mpr List.mem_cons_self,
        fun earlier hearlier => hsub (hbefore earlier hearlier)⟩
    exact .first last fault hgood (hsub hkey)
      ((hperm.map Prod.fst).subperm.trans ((List.subperm_cons key).mpr honce))

/-- The first task that has no good verdict has a bad one, which ends the run. -/
theorem error_iff (h : ToldInOrder raise keys result verdicts) (hkeys : keys.Nodup) (e : ε) :
    result = .error e ↔ ∃ key fault, IsFirst (fun key => (key, .ok ()) ∉ verdicts) keys key ∧
      (key, .error fault) ∈ verdicts ∧ e = raise key fault := by
  cases h with
  | all a hperm =>
    exact ⟨nofun, fun ⟨_, _, _, hfault, _⟩ => absurd hperm (Verdicts.not_perm_good hfault _)⟩
  | @first before after key fault _ hbefore hkey honce =>
    obtain ⟨_, hwritten, hsub⟩ := honce
    have hone := List.inj_on_of_nodup_map (hwritten.nodup_iff.mp (hkeys.sublist hsub))
    have hbad : (key, .ok ()) ∉ verdicts := by
      intro hgood
      cases hone hkey hgood rfl
    have hfirst : IsFirst (fun key => (key, .ok ()) ∉ verdicts) (before ++ key :: after) key :=
      ⟨before, after, rfl, hbad, fun earlier hearlier => not_not.mpr (hbefore earlier hearlier)⟩
    constructor
    · intro hresult
      exact ⟨key, fault, hfirst, hkey, (Except.error.inj hresult).symm⟩
    · rintro ⟨other, last, hother, hlast, rfl⟩
      obtain rfl := hfirst.eq hother
      cases hone hkey hlast rfl
      rfl

end ToldInOrder

/-- A task that has yet to end, or the verdict with which it has ended, under a key. -/
inductive Check (W κ φ : Type) where
  | running (key : κ) (t : Task W (Except φ Unit))
  | ended (key : κ) (verdict : Except φ Unit)

namespace Check

def key : Check W κ φ → κ
  | running key _ => key
  | ended key _ => key

def written : Check W κ φ → Verdicts κ φ
  | running _ _ => []
  | ended key verdict => [(key, verdict)]

def plain (raise : κ → φ → ε) : Check W κ φ → Task W (Except ε Unit)
  | running key t => t.map fun verdict => verdict.mapError (raise key)
  | ended key verdict => .done (verdict.mapError (raise key))

def traced (raise : κ → φ → ε) : Check W κ φ → Task (W × Verdicts κ φ) (Except ε Unit)
  | running key t => t.telling raise key
  | ended key verdict => .done (verdict.mapError (raise key))

theorem sublist_written (checks : List (Check W κ φ)) :
    ((checks.flatMap written).map Prod.fst).Sublist (checks.map key) := by
  induction checks with
  | nil => exact .slnil
  | cons check rest ih =>
    cases check with
    | running key t => exact ih.cons key
    | ended key verdict => exact ih.cons_cons key

end Check

/-- Among the same others the first task does what the second one does. Besides, it writes verdicts,
which go with the two values. -/
def Alongside {β : Type} (traced : Task (W × Verdicts κ φ) α) (plain : Task W β)
    (R : Verdicts κ φ → α → β → Prop) : Prop :=
  ∀ others w verdicts, ∃ added a b others' w',
    traced.amid (others.map (Prod.map · id)) (w, verdicts) =
        ⟨a, others'.map (Prod.map · id), w', verdicts ++ added⟩ ∧
      plain.amid others w = ⟨b, others', w'⟩ ∧ R added a b

namespace Alongside

variable {γ δ : Type} {R : Verdicts κ φ → α → β → Prop} {Q : Verdicts κ φ → γ → δ → Prop}

theorem done {a : α} {b : β} (h : R [] a b) :
    Alongside (.done a : Task (W × Verdicts κ φ) α) (.done b) R :=
  fun others w verdicts => ⟨[], a, b, others, w, by rw [List.append_nil]; rfl, rfl, h⟩

theorem act {change : W → W} {traced : W × Verdicts κ φ → Task (W × Verdicts κ φ) α}
    {plain : W → Task W β} (h : ∀ shared, Alongside (traced shared) (plain shared.1) R) :
    Alongside (.act (Prod.map change id) traced) (.act change plain) R :=
  fun others w verdicts => h (w, verdicts) others (change w) verdicts

theorem pause {traced : Task (W × Verdicts κ φ) α} {plain : Task W β}
    (h : Alongside traced plain R) : Alongside (.pause traced) (.pause plain) R := by
  intro others w verdicts
  cases others with
  | nil => exact h [] w verdicts
  | cons f others => exact h others (f w) verdicts

theorem tell {key : κ} {verdict : Except φ Unit}
    {traced : W × Verdicts κ φ → Task (W × Verdicts κ φ) α} {plain : Task W β}
    (h : ∀ shared, Alongside (traced shared) plain fun added => R ((key, verdict) :: added)) :
    Alongside (.act (tell key verdict) traced) plain R := by
  intro others w verdicts
  obtain ⟨added, a, b, others', w', htraced, hplain, hadded⟩ :=
    h (w, verdicts) others w (verdicts ++ [(key, verdict)])
  rw [← List.append_cons] at htraced
  exact ⟨_, a, b, others', w', htraced, hplain, hadded⟩

theorem bind {traced : Task (W × Verdicts κ φ) α} {plain : Task W β}
    {k : α → Task (W × Verdicts κ φ) γ} {k' : β → Task W δ} (h : Alongside traced plain R)
    (hk : ∀ added a b, R added a b → Alongside (k a) (k' b) fun more => Q (added ++ more)) :
    Alongside (traced.bind k) (plain.bind k') Q := by
  intro others w verdicts
  obtain ⟨added, a, b, others', w', htraced, hplain, hadded⟩ := h others w verdicts
  obtain ⟨more, c, d, others'', w'', hc, hd, hmore⟩ :=
    hk added a b hadded others' w' (verdicts ++ added)
  rw [List.append_assoc] at hc
  rw [amid_bind, amid_bind, htraced, hplain]
  exact ⟨_, c, d, others'', w'', hc, hd, hmore⟩

theorem map {traced : Task (W × Verdicts κ φ) α} {plain : Task W β} {f : α → γ} {g : β → δ}
    (h : Alongside traced plain R) (hmap : ∀ added a b, R added a b → Q added (f a) (g b)) :
    Alongside (traced.map f) (plain.map g) Q := by
  intro others w verdicts
  obtain ⟨added, a, b, others', w', htraced, hplain, hadded⟩ := h others w verdicts
  rw [amid_map, amid_map, htraced, hplain]
  exact ⟨added, f a, g b, others', w', rfl, rfl, hmap added a b hadded⟩

theorem mono {Q : Verdicts κ φ → α → β → Prop} {traced : Task (W × Verdicts κ φ) α}
    {plain : Task W β} (h : Alongside traced plain R)
    (himp : ∀ added a b, R added a b → Q added a b) : Alongside traced plain Q := by
  intro others w verdicts
  obtain ⟨added, a, b, others', w', htraced, hplain, hadded⟩ := h others w verdicts
  exact ⟨added, a, b, others', w', htraced, hplain, himp added a b hadded⟩

theorem step (raise : κ → φ → ε) (check : Check W κ φ) :
    Alongside (check.traced raise).step (check.plain raise).step fun added a b =>
      ∃ left : Check W κ φ, left.key = check.key ∧ left.written = check.written ++ added ∧
        a = left.traced raise ∧ b = left.plain raise := by
  cases check with
  | ended key verdict => exact .done ⟨.ended key verdict, rfl, rfl, rfl, rfl⟩
  | running key t =>
    induction t with
    | done verdict => exact .tell fun _ => .done ⟨.ended key verdict, rfl, rfl, rfl, rfl⟩
    | act change next ih => exact .act fun shared => ih shared.1
    | pause next ih => exact .pause (.done ⟨.running key next, rfl, rfl, rfl, rfl⟩)

theorem stepAll (raise : κ → φ → ε) (checks : List (Check W κ φ)) :
    Alongside (Task.stepAll (checks.map (Check.traced raise)))
      (Task.stepAll (checks.map (Check.plain raise))) fun added a b =>
        ∃ left : List (Check W κ φ), left.map Check.key = checks.map Check.key ∧
          (left.flatMap Check.written).Perm (checks.flatMap Check.written ++ added) ∧
          a = left.map (Check.traced raise) ∧ b = left.map (Check.plain raise) := by
  induction checks with
  | nil => exact .done ⟨[], rfl, .refl _, rfl, rfl⟩
  | cons check rest ih =>
    refine (step raise check).bind fun added a b hstep => ?_
    obtain ⟨left, hkey, hwritten, rfl, rfl⟩ := hstep
    refine ih.map fun more as bs hrest => ?_
    obtain ⟨others, hkeys, hperm, rfl, rfl⟩ := hrest
    refine ⟨left :: others, ?_, ?_, rfl, rfl⟩
    · rw [List.map_cons, List.map_cons, hkey, hkeys]
    · rw [List.flatMap_cons, List.flatMap_cons, hwritten, List.append_assoc, List.append_assoc]
      refine ((hperm.append_left added).trans ?_).append_left _
      rw [← List.append_assoc, ← List.append_assoc]
      exact List.perm_append_comm.append_right more

/-- A verdict leads at once. -/
theorem lead_done (raise : κ → φ → ε) (key : κ) (verdict : Except φ Unit)
    (rest : List (Check W κ φ)) :
    Alongside
      ((Task.done (verdict.mapError (raise key))).lead (rest.map (Check.traced raise)))
      ((Task.done (verdict.mapError (raise key))).lead (rest.map (Check.plain raise)))
      fun added a b => added = [] ∧
        a = (verdict.mapError (raise key)).map (·, rest.map (Check.traced raise)) ∧
        b = (verdict.mapError (raise key)).map (·, rest.map (Check.plain raise)) := by
  cases verdict <;> exact .done ⟨rfl, rfl, rfl⟩

theorem lead (raise : κ → φ → ε) (check : Check W κ φ) (rest : List (Check W κ φ)) :
    Alongside ((check.traced raise).lead (rest.map (Check.traced raise)))
      ((check.plain raise).lead (rest.map (Check.plain raise))) fun added a b =>
        ∃ (verdict : Except φ Unit) (left : List (Check W κ φ)),
          left.map Check.key = rest.map Check.key ∧
          (check.written ++ rest.flatMap Check.written ++ added).Perm
            ((check.key, verdict) :: left.flatMap Check.written) ∧
          a = (verdict.mapError (raise check.key)).map (·, left.map (Check.traced raise)) ∧
          b = (verdict.mapError (raise check.key)).map (·, left.map (Check.plain raise)) := by
  cases check with
  | ended key verdict =>
    refine (lead_done raise key verdict rest).mono fun added a b ⟨hadded, ha, hb⟩ => ?_
    refine ⟨verdict, rest, rfl, ?_, ha, hb⟩
    rw [hadded, List.append_nil]
    rfl
  | running key t =>
    induction t generalizing rest with
    | done verdict =>
      refine .tell fun _ => (lead_done raise key verdict rest).mono
        fun added a b ⟨hadded, ha, hb⟩ => ⟨verdict, rest, rfl, ?_, ha, hb⟩
      rw [hadded]
      exact List.perm_append_singleton _ _
    | act change next ih => exact .act fun shared => ih shared.1 rest
    | pause next ih =>
      refine .pause ((stepAll raise rest).bind fun added a b ⟨left, hkeys, hperm, ha, hb⟩ => ?_)
      rw [ha, hb]
      refine (ih left).mono fun more c d ⟨verdict, last, hlast, hwritten, hc, hd⟩ => ?_
      refine ⟨verdict, last, hlast.trans hkeys, ?_, hc, hd⟩
      rw [← List.append_assoc]
      exact (hperm.symm.append_right more).trans hwritten

theorem tryInOrder (raise : κ → φ → ε) {n : Nat} {checks : List (Check W κ φ)}
    (hn : checks.length ≤ n) :
    Alongside (Task.tryInOrder n (checks.map (Check.traced raise)))
      (Task.tryInOrder n (checks.map (Check.plain raise))) fun added a b => a = b ∧
        ToldInOrder raise (checks.map Check.key) b (checks.flatMap Check.written ++ added) := by
  induction n generalizing checks with
  | zero =>
    obtain rfl := List.eq_nil_of_length_eq_zero (Nat.le_zero.mp hn)
    exact .done ⟨rfl, .all [] (.refl _)⟩
  | succ n ih =>
    cases checks with
    | nil => exact .done ⟨rfl, .all [] (.refl _)⟩
    | cons check rest =>
      refine (lead raise check rest).bind
        fun added a b ⟨verdict, left, hkeys, hperm, ha, hb⟩ => ?_
      cases verdict with
      | error fault =>
        rw [ha, hb]
        refine .done ⟨rfl, ?_⟩
        rw [List.append_nil]
        have hleft := Check.sublist_written left
        rw [hkeys] at hleft
        have honce := (hperm.map Prod.fst).subperm.trans
          ((List.subperm_cons check.key).mpr hleft.subperm)
        exact ToldInOrder.first check.key fault (List.forall_mem_nil _)
          (hperm.mem_iff.mpr List.mem_cons_self) honce
      | ok u =>
        rw [ha, hb]
        have hlength : left.length ≤ n := by
          rw [← List.length_map Check.key, hkeys, List.length_map]
          exact Nat.le_of_succ_le_succ hn
        refine (ih hlength).map fun more c d ⟨heq, htold⟩ => ⟨congrArg _ heq, ?_⟩
        rw [hkeys] at htold
        refine htold.cons ?_ _
        rw [← List.append_assoc]
        exact hperm.append_right more

theorem tryInOrder_telling (raise : κ → φ → ε) (tasks : List (κ × Task W (Except φ Unit))) :
    Alongside
      (Task.tryInOrder tasks.length (tasks.map fun task => task.2.telling raise task.1))
      (Task.tryInOrder tasks.length (tasks.map fun task => task.2.map fun verdict =>
        verdict.mapError (raise task.1)))
      fun added a b => a = b ∧ ToldInOrder raise (tasks.map Prod.fst) b added := by
  let running (task : κ × Task W (Except φ Unit)) : Check W κ φ := .running task.1 task.2
  have hwritten : (tasks.map running).flatMap Check.written = [] := by
    refine List.flatMap_eq_nil_iff.mpr fun check hcheck => ?_
    obtain ⟨task, -, rfl⟩ := List.mem_map.mp hcheck
    rfl
  have hlength : (tasks.map running).length = tasks.length := List.length_map running
  have h := tryInOrder raise (Nat.le_of_eq hlength)
  rw [hwritten, List.map_map, List.map_map, List.map_map] at h
  exact h

end Alongside

/-! ### Tasks side by side -/

/-- The bad verdict with which a run ends. Among few tasks it is the last one that is written, among
many the one of the first task that has no good one. -/
inductive Decisive (keys : List κ) (verdicts : Verdicts κ φ) (key : κ) (fault : φ) : Prop where
  | last {before : Verdicts κ φ} (hfew : keys.length ≤ mostInRounds)
      (hverdicts : verdicts = before ++ [(key, .error fault)])
      (hbefore : ∀ verdict ∈ before, verdict.2 = .ok ())
  | first (hmany : mostInRounds < keys.length)
      (hfirst : IsFirst (fun key => (key, .ok ()) ∉ verdicts) keys key)
      (hfault : (key, .error fault) ∈ verdicts)

structure Decides (raise : κ → φ → ε) (keys : List κ) (result : Except ε α)
    (verdicts : Verdicts κ φ) : Prop where
  ok_iff : (∃ a, result = .ok a) ↔ verdicts.Perm (Verdicts.good keys)
  error_iff (e : ε) :
    result = .error e ↔ ∃ key fault, Decisive keys verdicts key fault ∧ e = raise key fault

theorem Told.decides {raise : κ → φ → ε} {keys : List κ} {result : Except ε α}
    {verdicts : Verdicts κ φ} (h : Told raise keys result verdicts)
    (hfew : keys.length ≤ mostInRounds) : Decides raise keys result verdicts := by
  refine ⟨h.ok_iff, fun e => (h.error_iff e).trans ⟨?_, ?_⟩⟩
  · rintro ⟨before, key, fault, hverdicts, hbefore, rfl⟩
    exact ⟨key, fault, .last hfew hverdicts hbefore, rfl⟩
  · rintro ⟨key, fault, hdecisive, rfl⟩
    cases hdecisive with
    | last _ hverdicts hbefore => exact ⟨_, key, fault, hverdicts, hbefore, rfl⟩
    | first hmany _ _ => exact absurd hfew (Nat.not_le_of_gt hmany)

theorem ToldInOrder.decides {raise : κ → φ → ε} {keys : List κ} {result : Except ε α}
    {verdicts : Verdicts κ φ} (h : ToldInOrder raise keys result verdicts)
    (hmany : mostInRounds < keys.length) (hkeys : keys.Nodup) :
    Decides raise keys result verdicts := by
  refine ⟨h.ok_iff, fun e => (h.error_iff hkeys e).trans ⟨?_, ?_⟩⟩
  · rintro ⟨key, fault, hfirst, hfault, rfl⟩
    exact ⟨key, fault, .first hmany hfirst hfault, rfl⟩
  · rintro ⟨key, fault, hdecisive, rfl⟩
    cases hdecisive with
    | last hfew _ _ => exact absurd hfew (Nat.not_le_of_gt hmany)
    | first _ hfirst hfault => exact ⟨key, fault, hfirst, hfault, rfl⟩

/-- The list of verdicts does not matter to a run of tasks under distinct keys; at the end it
decides. -/
theorem exists_decides (raise : κ → φ → ε) {tasks : List (κ × Task W (Except φ Unit))}
    (hkeys : (tasks.map Prod.fst).Nodup) (others : List (W → W)) (w : W)
    (verdicts : Verdicts κ φ) :
    let plain := tasks.map fun task => task.2.map fun verdict => verdict.mapError (raise task.1)
    ∃ added, (tryAll (tasks.map fun task => task.2.telling raise task.1)).amid
          (others.map (Prod.map · id)) (w, verdicts) =
        ((tryAll plain).amid others w).beside (verdicts ++ added) ∧
      Decides raise (tasks.map Prod.fst) ((tryAll plain).amid others w).value added := by
  intro plain
  simp only [tryAll, plain, List.length_map]
  split
  · case isTrue hfew =>
    obtain ⟨added, hrun, htold⟩ := (Tells.tryRounds raise tasks).exists_told others w verdicts
    exact ⟨added, hrun, htold.decides (by rwa [List.length_map])⟩
  · case isFalse hmany =>
    obtain ⟨added, a, _, others', w', htraced, hplain, rfl, htold⟩ :=
      Alongside.tryInOrder_telling raise tasks others w verdicts
    rw [htraced, hplain]
    have hmany : mostInRounds < (tasks.map Prod.fst).length := by
      rw [List.length_map]
      exact Nat.lt_of_not_le hmany
    exact ⟨added, rfl, htold.decides hmany hkeys⟩

end StagedFlow.Task
