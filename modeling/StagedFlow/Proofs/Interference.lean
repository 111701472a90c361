import StagedFlow.Task

/-!
# Tasks among others

A task does not run alone: wherever it pauses, others may change the world before it goes on. `amid`
runs a task among such changes, which are given beforehand; whatever comes between the steps of a
task is one such list. A task that knows nothing of a second part of its world goes on in the same
way beside it, and leaves it as it is.
-/

namespace StagedFlow.Task

variable {W G α β : Type}

/-- How a run has ended: the value of the task, the changes of others that are still to come, and
the world. -/
structure Ending (W α : Type) where
  value : α
  others : List (W → W)
  world : W

/-- Runs a task among others: at each pause the next one of `others` changes the world. -/
def amid : Task W α → List (W → W) → W → Ending W α
  | done a, others, w => ⟨a, others, w⟩
  | act change next, others, w => (next w).amid others (change w)
  | pause next, [], w => next.amid [] w
  | pause next, f :: others, w => next.amid others (f w)

@[simp]
theorem bind_eq (t : Task W α) (k : α → Task W β) : t >>= k = t.bind k := rfl

@[simp]
theorem pure_eq (a : α) : (pure a : Task W α) = done a := rfl

@[simp]
theorem amid_done (a : α) (others : List (W → W)) (w : W) :
    (done a).amid others w = ⟨a, others, w⟩ := rfl

@[simp]
theorem amid_change (f : W → W) (others : List (W → W)) (w : W) :
    (change f).amid others w = ⟨(), others, f w⟩ := rfl

@[simp]
theorem amid_look (others : List (W → W)) (w : W) :
    (look : Task W W).amid others w = ⟨w, others, w⟩ := rfl

/-- What comes second starts where the first part has ended. -/
@[simp]
theorem amid_bind (t : Task W α) (k : α → Task W β) (others : List (W → W)) (w : W) :
    (t.bind k).amid others w =
      (k (t.amid others w).value).amid (t.amid others w).others (t.amid others w).world := by
  induction t generalizing others w with
  | done a => rfl
  | act f next ih => exact ih w others (f w)
  | pause next ih =>
    cases others with
    | nil => exact ih [] w
    | cons f others => exact ih others (f w)

@[simp]
theorem amid_map (f : α → β) (t : Task W α) (others : List (W → W)) (w : W) :
    (t.map f).amid others w =
      ⟨f (t.amid others w).value, (t.amid others w).others, (t.amid others w).world⟩ := by
  induction t generalizing others w with
  | done a => rfl
  | act g next ih => exact ih w others (g w)
  | pause next ih =>
    cases others with
    | nil => exact ih [] w
    | cons g others => exact ih others (g w)

/-- A run among no others is a run alone. -/
theorem amid_nil (t : Task W α) (w : W) : t.amid [] w = ⟨(t.run w).1, [], (t.run w).2⟩ := by
  induction t generalizing w with
  | done a => rfl
  | act f next ih => exact ih w (f w)
  | pause next ih => exact ih w

def Ending.beside (r : Ending W α) (g : G) : Ending (W × G) α :=
  ⟨r.value, r.others.map (Prod.map · id), (r.world, g)⟩

@[simp]
theorem amid_beside (t : Task W α) (others : List (W → W)) (w : W) (g : G) :
    (t.beside : Task (W × G) α).amid (others.map (Prod.map · id)) (w, g) =
      (t.amid others w).beside g := by
  induction t generalizing others w with
  | done a => rfl
  | act f next ih => exact ih w others (f w)
  | pause next ih =>
    cases others with
    | nil => exact ih [] w
    | cons f others => exact ih others (f w)

end StagedFlow.Task
