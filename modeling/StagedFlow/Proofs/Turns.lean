import StagedFlow.Proofs.Interleaving
import StagedFlow.Proofs.Keeping

/-!
# What happens in a turn

Among others a task can only answer for its own turns: what it finds at the start of a turn is
anybody's doing, except for its record. A duty relates the start of a turn to what the turn comes
to, and to every moment of it. If a task does its duty whatever was done to the world meanwhile, it
does so in every turn of every pool.
-/

namespace StagedFlow

variable {W G α β : Type}

namespace Task

/-- What a task answers for in its turns: what a turn comes to, since its start, and what holds at
every moment of it. -/
structure Duty (W G : Type) where
  turn : W × G → W × G → Prop
  moment : W × G → W → Prop
  refl : ∀ w, turn w w
  moment_of_turn : ∀ since now, turn since now → moment since now.1

variable {J : Duty W G}

/-- From the start of the turn to the next pause or the end, and likewise in all later turns, the
task does its duty. Values satisfy `Q`. -/
def Guards (J : Duty W G) (Q : α → G → Prop) : Task (W × G) α → W × G → W × G → Prop
  | done a, since, now => J.turn since now ∧ Q a now.2
  | act change next, since, now =>
    J.moment since (change now).1 ∧ (next now).Guards J Q since (change now)
  | pause next, since, now => J.turn since now ∧ ∀ w, next.Guards J Q (w, now.2) (w, now.2)

theorem Guards.mono {Q R : α → G → Prop} {t : Task (W × G) α} {since now : W × G}
    (h : t.Guards J Q since now) (hQ : ∀ a g, Q a g → R a g) : t.Guards J R since now := by
  induction t generalizing since now with
  | done a => exact ⟨h.1, hQ a now.2 h.2⟩
  | act change next ih => exact ⟨h.1, ih now h.2⟩
  | pause next ih => exact ⟨h.1, fun w => ih (h.2 w)⟩

theorem Guards.bind {Q : α → G → Prop} {R : β → G → Prop} {t : Task (W × G) α}
    {k : α → Task (W × G) β} {since now : W × G} (h : t.Guards J Q since now)
    (hk : ∀ a g, Q a g → ∀ since w, J.turn since (w, g) → (k a).Guards J R since (w, g)) :
    (t.bind k).Guards J R since now := by
  induction t generalizing since now with
  | done a => exact hk a now.2 h.2 since now.1 h.1
  | act change next ih => exact ⟨h.1, ih now h.2⟩
  | pause next ih => exact ⟨h.1, fun w => ih (h.2 w)⟩

theorem Guards.change {Q : Unit → G → Prop} {f : W × G → W × G} {since now : W × G}
    (hturn : J.turn since (f now)) (hQ : Q () (f now).2) :
    (Task.change f).Guards J Q since now :=
  ⟨J.moment_of_turn since (f now) hturn, hturn, hQ⟩

def guarding (J : Duty W G) : Logic (W × G) G where
  Holds g t Q := ∀ since w, J.turn since (w, g) → t.Guards J Q since (w, g)
  done hQ _ _ hJ := ⟨hJ, hQ⟩
  bind ht hk since w hJ := (ht since w hJ).bind fun a g ha => hk a g ha

/-- A task that knows nothing of the record does a duty that its manner cannot fail in. -/
theorem Keeps.guarding {m : Manner W} {Q : α → Prop} {t : Task W α} (h : t.Keeps m Q) {g : G}
    (hallows : ∀ f, m.allows f → ∀ since w, J.turn since (w, g) → J.turn since (f w, g)) :
    (guarding J).Holds g (t.beside : Task (W × G) α) fun a later => Q a ∧ later = g := by
  intro since w hJ
  induction h generalizing since w with
  | done h => exact ⟨hJ, h, rfl⟩
  | act hchange _ _ ih =>
    have hnext := hallows _ hchange since w hJ
    exact ⟨J.moment_of_turn since _ hnext, ih w since _ hnext⟩
  | pause _ ih => exact ⟨hJ, fun w => ih _ w (J.refl _)⟩

/-- A turn comes to what it should, and what is left of the task does its duty again. -/
theorem Guards.poll {Q : α → G → Prop} {t : Task (W × G) α} {since now : W × G}
    (h : t.Guards J Q since now) :
    J.turn since (t.poll now).2 ∧
      ∀ w, (t.poll now).1.Guards J Q (w, (t.poll now).2.2) (w, (t.poll now).2.2) := by
  induction t generalizing since now with
  | done a => exact ⟨h.1, fun w => ⟨J.refl _, h.2⟩⟩
  | act change next ih => exact ih now h.2
  | pause next ih => exact h

theorem Guards.moments {Q : α → G → Prop} {t : Task (W × G) α} {since now : W × G}
    (h : t.Guards J Q since now) (hnow : J.moment since now.1) {before : List (W → W)}
    (hbefore : before <+: t.made now) :
    J.moment since (before.foldl (fun w change => change w) now.1) := by
  induction t generalizing now before with
  | done a =>
    rw [List.prefix_nil.mp hbefore]
    exact hnow
  | act change next ih =>
    rcases List.prefix_cons_iff.mp hbefore with rfl | ⟨rest, rfl, hrest⟩
    · exact hnow
    · exact ih now h.2 h.1 hrest
  | pause next ih =>
    rw [List.prefix_nil.mp hbefore]
    exact hnow

/-- Turn by turn, a task comes to its end. -/
theorem acc_poll (t : Task W α) :
    Acc (fun later t : Task W α => (∀ a, t ≠ .done a) ∧ ∃ w, later = (t.poll w).1) t := by
  induction t with
  | done a => exact ⟨_, fun later h => absurd rfl (h.1 a)⟩
  | act change next ih =>
    refine ⟨_, fun later h => ?_⟩
    obtain ⟨-, w, rfl⟩ := h
    change Acc _ ((next w).poll (change w)).1
    -- What the task goes on with has ended, or it comes nearer to its end by this turn.
    by_cases hdone : ∃ a, next w = .done a
    · obtain ⟨a, ha⟩ := hdone
      have hnext := ih w
      rw [ha] at hnext ⊢
      exact hnext
    · exact (ih w).inv ⟨fun a ha => hdone ⟨a, ha⟩, change w, rfl⟩
  | pause next ih =>
    refine ⟨_, fun later h => ?_⟩
    obtain ⟨-, w, rfl⟩ := h
    exact ih

end Task

namespace Party

def Guards (J : Task.Duty W G) (Q : G → Prop) (party : Party W G α) : Prop :=
  ∀ w, party.task.Guards J (fun _ => Q) (w, party.record) (w, party.record)

variable {J : Task.Duty W G} {Q : G → Prop} {party : Party W G α}

theorem Guards.turn (h : party.Guards J Q) (w : W) :
    J.turn (w, party.record)
      ((party.task.poll (w, party.record)).2.1, (party.resumed w).record) ∧
      (party.resumed w).Guards J Q :=
  (h w).poll

theorem Guards.moments (h : party.Guards J Q) (w : W) {before : List (W → W)}
    (hbefore : before <+: party.task.made (w, party.record)) :
    J.moment (w, party.record) (before.foldl (fun w change => change w) w) :=
  Task.Guards.moments (h w) (J.moment_of_turn _ _ (J.refl _)) hbefore

theorem Guards.of_ends (h : party.Guards J Q) {a : α} (hends : party.Ends a) (w : W) :
    Q party.record := by
  have hdone := h w
  rw [show party.task = .done a from hends] at hdone
  exact hdone.2

/-- A party that has its turn again and again comes to its end. -/
theorem eventually_ends {parties : Nat → Party W G α}
    (hstep : ∀ n, parties (n + 1) = parties n ∨ ∃ w, parties (n + 1) = (parties n).resumed w)
    (hfair : ∀ n, ∃ m, n ≤ m ∧ ∃ w, parties (m + 1) = (parties m).resumed w) :
    ∃ n a, (parties n).Ends a := by
  suffices hfrom : ∀ t : Task (W × G) α, ∀ n, (parties n).task = t → ∃ n a, (parties n).Ends a from
    hfrom _ 0 rfl
  intro t
  induction t.acc_poll with
  | intro t _ ih =>
    intro n ht
    by_cases hends : ∃ a, t = .done a
    · obtain ⟨a, rfl⟩ := hends
      exact ⟨n, a, ht⟩
    have hturn : ∀ n w, (parties n).task = t → parties (n + 1) = (parties n).resumed w →
        ∃ n a, (parties n).Ends a := by
      intro n w ht hresumed
      refine ih (t.poll (w, (parties n).record)).1 ⟨fun a ha => hends ⟨a, ha⟩, _, rfl⟩ (n + 1) ?_
      rw [hresumed, resumed, ht]
    -- The next turn of the party is some steps away; until then it stays as it is.
    obtain ⟨m, hnm, w, hm⟩ := hfair n
    obtain ⟨d, rfl⟩ := Nat.exists_eq_add_of_le hnm
    induction d generalizing n with
    | zero => exact hturn n w ht hm
    | succ d ihd =>
      rcases hstep n with hsame | ⟨v, hresumed⟩
      · have harrange : n + (d + 1) = n + 1 + d := by omega
        exact ihd (n + 1) (hsame ▸ ht) (by omega) (harrange ▸ hm)
      · exact hturn n v ht hresumed

end Party

end StagedFlow
