import Mathlib.Data.List.Nodup
import StagedFlow.Hook.Registry

/-!
# What a registry of hooks takes

Hooks and observers are offered to a registry one after another, and some of them are refused. A
registry holds what it has taken, in this order, and nothing else. Whether it takes what comes next
depends on this alone: the list of a flow is kept by the flow's name, while stages are checked by
the kind of the token, so that tokens of several kinds may share one list.
-/

namespace StagedFlow

variable {W H : Type}

def HookBinding.key (hook : HookBinding H) : Stage × String := (hook.stage, hook.name)

namespace HookRegistry

inductive Offer (W H : Type) where
  | hook (token : FlowToken) (hook : HookBinding H)
  | observer (observer : Observer W)

def Offer.hookFor? (flow : String) : Offer W H → Option (HookBinding H)
  | hook token h => if token.name = flow then some h else none
  | observer _ => none

def Offer.observer? : Offer W H → Option (Observer W)
  | hook _ _ => none
  | observer o => some o

def offer (registry : HookRegistry W H) :
    Offer W H → Except RegistrationFault (HookRegistry W H)
  | .hook token hook => registry.register token hook
  | .observer observer => registry.observe observer

/-- The registry after some offers, and those of them that it has taken. One that is refused leaves
the registry as it is. -/
def offerAll : HookRegistry W H → List (Offer W H) → HookRegistry W H × List (Offer W H)
  | registry, [] => (registry, [])
  | registry, o :: rest =>
    match registry.offer o with
    | .ok later => (later.offerAll rest).map id (o :: ·)
    | .error _ => registry.offerAll rest

structure Holds (registry : HookRegistry W H) (taken : List (Offer W H)) : Prop where
  hooksFor_eq : ∀ flow, registry.hooksFor flow = taken.filterMap (Offer.hookFor? flow)
  observers_eq : registry.observers = taken.filterMap Offer.observer?
  keys_nodup : ∀ flow, ((registry.hooksFor flow).map HookBinding.key).Nodup
  names_nodup : (registry.observers.map Observer.name).Nodup
  /-- Each hook is at a stage of the kind that it was offered under. -/
  allowed : ∀ token hook, .hook token hook ∈ taken → token.kind.allows hook.stage = true

inductive Refuses (taken : List (Offer W H)) : Offer W H → RegistrationFault → Prop where
  | stage {token : FlowToken} {hook : HookBinding H} (h : token.kind.allows hook.stage = false) :
    Refuses taken (.hook token hook) (.notAllowed token hook.stage)
  | hook {token other : FlowToken} {hook earlier : HookBinding H}
    (h : token.kind.allows hook.stage = true) (htaken : .hook other earlier ∈ taken)
    (hflow : other.name = token.name) (hkey : earlier.key = hook.key) :
    Refuses taken (.hook token hook) (.duplicateHook token.name hook.stage hook.name)
  | observer {observer earlier : Observer W} (htaken : .observer earlier ∈ taken)
    (hname : earlier.name = observer.name) :
    Refuses taken (.observer observer) (.duplicateObserver observer.name)

/-- A registry has become another one by taking an offer: one list is longer by one entry, all
others are as they were. -/
structure Adds (registry later : HookRegistry W H) (o : Offer W H) : Prop where
  hooksFor_eq : ∀ flow, later.hooksFor flow = registry.hooksFor flow ++ (o.hookFor? flow).toList
  observers_eq : later.observers = registry.observers ++ o.observer?.toList

section Offers

variable {registry later : HookRegistry W H} {taken : List (Offer W H)} {token : FlowToken}
  {hook : HookBinding H} {observer : Observer W} {fault : RegistrationFault}

theorem hooksFor_concat (registry : HookRegistry W H) (name flow : String)
    (hook : HookBinding H) :
    hooksFor { registry with hooks := registry.hooks ++ [(name, hook)] } flow =
      registry.hooksFor flow ++ (if name = flow then some hook else none).toList := by
  rw [hooksFor, hooksFor, List.filter_append, List.map_append]
  by_cases hname : name = flow <;> simp [hname]

theorem any_key_iff (hooks : List (HookBinding H)) (hook : HookBinding H) :
    (hooks.any fun h => h.stage == hook.stage && h.name == hook.name) = true ↔
      hook.key ∈ hooks.map HookBinding.key := by
  rw [List.any_eq_true, List.mem_map]
  refine exists_congr fun h => and_congr_right fun _ => ?_
  rw [Bool.and_eq_true, beq_iff_eq, beq_iff_eq, HookBinding.key, HookBinding.key, Prod.mk.injEq]

theorem any_name_iff (observers : List (Observer W)) (name : String) :
    (observers.any fun o => o.name == name) = true ↔ name ∈ observers.map Observer.name := by
  rw [List.any_eq_true, List.mem_map]
  exact exists_congr fun o => and_congr_right fun _ => beq_iff_eq

theorem register_eq_error_iff :
    registry.register token hook = .error fault ↔
      token.kind.allows hook.stage = false ∧ fault = .notAllowed token hook.stage ∨
        token.kind.allows hook.stage = true ∧
          hook.key ∈ (registry.hooksFor token.name).map HookBinding.key ∧
            fault = .duplicateHook token.name hook.stage hook.name := by
  rw [register, ← any_key_iff]
  cases token.kind.allows hook.stage with
  | false => simpa using eq_comm
  | true =>
    cases (registry.hooksFor token.name).any fun h => h.stage == hook.stage && h.name == hook.name
    case false => simp
    case true => simpa using eq_comm

theorem register_eq_ok_iff :
    registry.register token hook = .ok later ↔
      token.kind.allows hook.stage = true ∧
        hook.key ∉ (registry.hooksFor token.name).map HookBinding.key ∧
          later = { registry with hooks := registry.hooks ++ [(token.name, hook)] } := by
  rw [register, ← any_key_iff]
  cases token.kind.allows hook.stage with
  | false => simp
  | true =>
    cases (registry.hooksFor token.name).any fun h => h.stage == hook.stage && h.name == hook.name
    case false => simpa using eq_comm
    case true => simp

theorem observe_eq_error_iff :
    registry.observe observer = .error fault ↔
      observer.name ∈ registry.observers.map Observer.name ∧
        fault = .duplicateObserver observer.name := by
  rw [observe, ← any_name_iff]
  cases registry.observers.any fun o => o.name == observer.name
  case false => simp
  case true => simpa using eq_comm

theorem observe_eq_ok_iff :
    registry.observe observer = .ok later ↔
      observer.name ∉ registry.observers.map Observer.name ∧
        later = { registry with observers := registry.observers ++ [observer] } := by
  rw [observe, ← any_name_iff]
  cases registry.observers.any fun o => o.name == observer.name
  case false => simpa using eq_comm
  case true => simp

theorem adds_of_offer {o : Offer W H} (h : registry.offer o = .ok later) :
    Adds registry later o := by
  cases o with
  | hook token hook =>
    obtain ⟨-, -, rfl⟩ := register_eq_ok_iff.mp h
    exact ⟨fun flow => registry.hooksFor_concat token.name flow hook, (List.append_nil _).symm⟩
  | observer observer =>
    obtain ⟨-, rfl⟩ := observe_eq_ok_iff.mp h
    exact ⟨fun flow => (List.append_nil _).symm, rfl⟩

end Offers

namespace Holds

variable {registry later : HookRegistry W H} {taken : List (Offer W H)}

theorem empty : (HookRegistry.empty : HookRegistry W H).Holds [] where
  hooksFor_eq _ := rfl
  observers_eq := rfl
  keys_nodup _ := List.nodup_nil
  names_nodup := List.nodup_nil
  allowed _ _ := nofun

/-- A key of a flow is taken by a hook that was offered for the flow's name. -/
theorem key_mem_iff (h : registry.Holds taken) (flow : String) (key : Stage × String) :
    key ∈ (registry.hooksFor flow).map HookBinding.key ↔
      ∃ other earlier, .hook other earlier ∈ taken ∧ other.name = flow ∧ earlier.key = key := by
  rw [h.hooksFor_eq, List.mem_map]
  constructor
  · rintro ⟨earlier, hearlier, hkey⟩
    obtain ⟨o, ho, hfor⟩ := List.mem_filterMap.mp hearlier
    cases o with
    | observer o => cases hfor
    | hook other found =>
      obtain ⟨hflow, hfound⟩ : other.name = flow ∧ found = earlier := by
        simpa [Offer.hookFor?] using hfor
      exact ⟨other, found, ho, hflow, hfound ▸ hkey⟩
  · rintro ⟨other, earlier, htaken, hflow, hkey⟩
    exact ⟨earlier, List.mem_filterMap.mpr ⟨_, htaken, if_pos hflow⟩, hkey⟩

theorem name_mem_iff (h : registry.Holds taken) (name : String) :
    name ∈ registry.observers.map Observer.name ↔
      ∃ earlier, .observer earlier ∈ taken ∧ earlier.name = name := by
  rw [h.observers_eq, List.mem_map]
  constructor
  · rintro ⟨earlier, hearlier, hname⟩
    obtain ⟨o, ho, hobserver⟩ := List.mem_filterMap.mp hearlier
    cases o with
    | hook token hook => cases hobserver
    | observer found =>
      cases hobserver
      exact ⟨_, ho, hname⟩
  · rintro ⟨earlier, htaken, hname⟩
    exact ⟨earlier, List.mem_filterMap.mpr ⟨_, htaken, rfl⟩, hname⟩

/-- What was taken decides whether an offer is refused, and why. -/
theorem offer_eq_error_iff (h : registry.Holds taken) (o : Offer W H)
    (fault : RegistrationFault) :
    registry.offer o = .error fault ↔ Refuses taken o fault := by
  cases o with
  | hook token hook =>
    refine register_eq_error_iff.trans ⟨?_, ?_⟩
    · rintro (⟨hstage, rfl⟩ | ⟨hallowed, hkey, rfl⟩)
      · exact .stage hstage
      · obtain ⟨other, earlier, htaken, hflow, hsame⟩ := (h.key_mem_iff _ _).mp hkey
        exact .hook hallowed htaken hflow hsame
    · rintro (⟨hstage⟩ | ⟨hallowed, htaken, hflow, hsame⟩)
      · exact .inl ⟨hstage, rfl⟩
      · exact .inr ⟨hallowed, (h.key_mem_iff _ _).mpr ⟨_, _, htaken, hflow, hsame⟩, rfl⟩
  | observer observer =>
    refine observe_eq_error_iff.trans ⟨?_, ?_⟩
    · rintro ⟨hname, rfl⟩
      obtain ⟨earlier, htaken, hsame⟩ := (h.name_mem_iff _).mp hname
      exact .observer htaken hsame
    · rintro ⟨⟩
      exact ⟨(h.name_mem_iff _).mpr ⟨_, ‹_›, ‹_›⟩, rfl⟩

/-- An offer that is taken is held behind the others. -/
theorem concat (h : registry.Holds taken) {o : Offer W H} (htaken : registry.offer o = .ok later) :
    later.Holds (taken ++ [o]) := by
  obtain ⟨hhooks, hobservers⟩ := adds_of_offer htaken
  have hsingle : ∀ {α : Type} (f : Offer W H → Option α), [o].filterMap f = (f o).toList :=
    fun f => by cases hf : f o <;> simp [hf]
  constructor
  case hooksFor_eq =>
    intro flow
    rw [hhooks, h.hooksFor_eq, List.filterMap_append, hsingle]
  case observers_eq => rw [hobservers, h.observers_eq, List.filterMap_append, hsingle]
  case keys_nodup =>
    intro flow
    rw [hhooks, List.map_append]
    cases o with
    | observer observer => exact (List.append_nil _).symm ▸ h.keys_nodup flow
    | hook token hook =>
      obtain ⟨-, hfree, -⟩ := register_eq_ok_iff.mp htaken
      by_cases hflow : token.name = flow
      · subst hflow
        simpa [Offer.hookFor?] using (h.keys_nodup token.name).concat hfree
      · simpa [Offer.hookFor?, hflow] using h.keys_nodup flow
  case names_nodup =>
    rw [hobservers, List.map_append]
    cases o with
    | hook token hook => exact (List.append_nil _).symm ▸ h.names_nodup
    | observer observer =>
      obtain ⟨hfree, -⟩ := observe_eq_ok_iff.mp htaken
      simpa [Offer.observer?] using h.names_nodup.concat hfree
  case allowed =>
    intro token hook hmem
    rcases List.mem_append.mp hmem with hold | hnew
    · exact h.allowed token hook hold
    · cases List.mem_singleton.mp hnew
      exact (register_eq_ok_iff.mp htaken).1

/-- Whatever is offered to a registry, it holds what it has taken. -/
theorem offerAll (h : registry.Holds taken) (offers : List (Offer W H)) :
    (registry.offerAll offers).1.Holds (taken ++ (registry.offerAll offers).2) := by
  induction offers generalizing registry taken with
  | nil => rwa [HookRegistry.offerAll, List.append_nil]
  | cons o rest ih =>
    rw [HookRegistry.offerAll]
    cases hoffer : registry.offer o with
    | error fault => exact ih h
    | ok later =>
      have hrest := ih (h.concat hoffer)
      rwa [List.append_assoc, List.singleton_append] at hrest

end Holds

theorem sublist_offerAll (registry : HookRegistry W H) (offers : List (Offer W H)) :
    (registry.offerAll offers).2.Sublist offers := by
  induction offers generalizing registry with
  | nil => exact .slnil
  | cons o rest ih =>
    rw [offerAll]
    cases registry.offer o with
    | error fault => exact (ih registry).cons o
    | ok later => exact (ih later).cons_cons o

/-- One more offer comes to the registry that the others have made. -/
theorem offerAll_concat (registry : HookRegistry W H) (offers : List (Offer W H))
    (o : Offer W H) :
    registry.offerAll (offers ++ [o]) =
      match (registry.offerAll offers).1.offer o with
      | .ok later => (later, (registry.offerAll offers).2 ++ [o])
      | .error _ => registry.offerAll offers := by
  induction offers generalizing registry with
  | nil =>
    rw [List.nil_append, offerAll, offerAll]
    cases registry.offer o <;> rfl
  | cons first rest ih =>
    rw [List.cons_append, offerAll, offerAll]
    cases registry.offer first with
    | error fault => exact ih registry
    | ok later =>
      simp only [ih later, Prod.map_fst, id_eq]
      cases (later.offerAll rest).1.offer o <;> rfl

end HookRegistry

/-! ### Lists that are made when they are asked for -/

/-- Hooks in lists under the names of flows. There is a list for every name that was asked for. -/
structure FlowLists (H : Type) where
  list? : String → Option (List (HookBinding H))

namespace FlowLists

open HookRegistry (Offer)

variable {lists : FlowLists H} {registry : HookRegistry W H}

def empty : FlowLists H := ⟨fun _ => none⟩

def listOf (lists : FlowLists H) (flow : String) : List (HookBinding H) :=
  (lists.list? flow).getD []

def put (lists : FlowLists H) (flow : String) (list : List (HookBinding H)) : FlowLists H :=
  ⟨Function.update lists.list? flow (some list)⟩

/-- Registers a hook in the list of its flow. The list is made before it is looked through, and is
there also when the hook is refused. -/
def register (lists : FlowLists H) (token : FlowToken) (hook : HookBinding H) :
    FlowLists H × Except RegistrationFault Unit :=
  if !token.kind.allows hook.stage then (lists, .error (.notAllowed token hook.stage))
  else
    let list := lists.listOf token.name
    let made := lists.put token.name list
    if list.any fun h => h.stage == hook.stage && h.name == hook.name then
      (made, .error (.duplicateHook token.name hook.stage hook.name))
    else (made.put token.name (list ++ [hook]), .ok ())

def offerAll : FlowLists H → List (Offer W H) → FlowLists H
  | lists, [] => lists
  | lists, .hook token hook :: rest => (lists.register token hook).1.offerAll rest
  | lists, .observer _ :: rest => lists.offerAll rest

def Answers (lists : FlowLists H) (registry : HookRegistry W H) : Prop :=
  ∀ flow, lists.listOf flow = registry.hooksFor flow

theorem listOf_put (lists : FlowLists H) (name flow : String) (list : List (HookBinding H)) :
    (lists.put name list).listOf flow = if flow = name then list else lists.listOf flow := by
  unfold listOf put
  dsimp only
  by_cases hflow : flow = name
  · rw [hflow, Function.update_self, if_pos rfl, Option.getD_some]
  · rw [Function.update_of_ne hflow, if_neg hflow]

/-- Making a list shows nowhere. -/
theorem Answers.made (h : lists.Answers registry) (name : String) :
    (lists.put name (lists.listOf name)).Answers registry := by
  intro flow
  rw [listOf_put, ← h flow]
  split
  case isTrue hflow => rw [hflow]
  case isFalse => rfl

/-- Lists and registry take the same hooks, and refuse the others for the same faults. -/
theorem Answers.register (h : lists.Answers registry) (token : FlowToken) (hook : HookBinding H) :
    (∃ fault, registry.register token hook = .error fault ∧
        (lists.register token hook).2 = .error fault ∧
          (lists.register token hook).1.Answers registry) ∨
      ∃ later, registry.register token hook = .ok later ∧
        (lists.register token hook).2 = .ok () ∧
          (lists.register token hook).1.Answers later := by
  have hmade := h.made token.name
  unfold FlowLists.register HookRegistry.register
  rw [h token.name] at hmade ⊢
  by_cases hstage : (!token.kind.allows hook.stage) = true
  · simp only [if_pos hstage]
    exact .inl ⟨_, rfl, rfl, h⟩
  · simp only [if_neg hstage]
    by_cases htaken : ((registry.hooksFor token.name).any fun h =>
        h.stage == hook.stage && h.name == hook.name) = true
    · simp only [if_pos htaken]
      exact .inl ⟨_, rfl, rfl, hmade⟩
    · simp only [if_neg htaken]
      refine .inr ⟨_, rfl, trivial, fun flow => ?_⟩
      rw [listOf_put, hmade flow, HookRegistry.hooksFor_concat]
      by_cases hflow : flow = token.name
      · rw [if_pos hflow, if_pos hflow.symm, hflow]
        rfl
      · rw [if_neg hflow, if_neg (Ne.symm hflow)]
        exact (List.append_nil _).symm

/-- Whatever is offered, the lists have the hooks that the registry has. -/
theorem Answers.offerAll (h : lists.Answers registry) (offers : List (Offer W H)) :
    (lists.offerAll offers).Answers (registry.offerAll offers).1 := by
  induction offers generalizing lists registry with
  | nil => exact h
  | cons o rest ih =>
    rw [HookRegistry.offerAll]
    cases o with
    | hook token hook =>
      obtain ⟨fault, hrefused, -, hsame⟩ | ⟨later, htaken, -, hlater⟩ := h.register token hook
      · rw [HookRegistry.offer, hrefused]
        exact ih hsame
      · rw [HookRegistry.offer, htaken]
        exact ih hlater
    | observer observer =>
      cases htaken : registry.offer (.observer observer) with
      | error fault => exact ih h
      | ok later =>
        have hadds := HookRegistry.adds_of_offer htaken
        exact ih fun flow => (h flow).trans
          ((hadds.hooksFor_eq flow).trans (List.append_nil _)).symm

end FlowLists

namespace HookRegistry

/-- **A registry holds what it has taken.** Whatever is offered to an empty registry, it holds a
part of the offers, in their order, and events reach the observers in this order. Lists that are
made before a hook is refused have the same hooks. The next offer is refused exactly for a stage
outside of its kind, which counts first, or for a key that is taken; then all stays as it was. If it
is taken, one list is longer by one entry. -/
theorem holds_offerAll (offers : List (Offer W H)) :
    let registry := ((empty : HookRegistry W H).offerAll offers).1
    let taken := ((empty : HookRegistry W H).offerAll offers).2
    taken.Sublist offers ∧ registry.Holds taken ∧
      ((FlowLists.empty : FlowLists H).offerAll offers).Answers registry ∧
      (∀ event w, Observer.emit registry.observers event w =
        (taken.filterMap Offer.observer?).foldl (fun w observer => observer.notify event w) w) ∧
      ∀ o,
        (∀ fault, registry.offer o = .error fault ↔ Refuses taken o fault) ∧
        (∀ fault, Refuses taken o fault →
          (empty : HookRegistry W H).offerAll (offers ++ [o]) = (registry, taken)) ∧
        ((∀ fault, ¬ Refuses taken o fault) → ∃ later, registry.offer o = .ok later ∧
          (empty : HookRegistry W H).offerAll (offers ++ [o]) = (later, taken ++ [o]) ∧
            Adds registry later o) := by
  intro registry taken
  have hholds : registry.Holds taken := Holds.empty.offerAll offers
  have hnext := (empty : HookRegistry W H).offerAll_concat offers
  have hlists : (FlowLists.empty : FlowLists H).Answers (empty : HookRegistry W H) := fun _ => rfl
  refine ⟨sublist_offerAll _ offers, hholds, hlists.offerAll offers, fun event w => ?_, fun o =>
    ⟨hholds.offer_eq_error_iff o, fun fault hrefuses => ?_, fun htakes => ?_⟩⟩
  · rw [Observer.emit, hholds.observers_eq]
  · have hrefused : registry.offer o = .error fault :=
      (hholds.offer_eq_error_iff o fault).mpr hrefuses
    rw [hnext, hrefused]
  · cases hoffer : registry.offer o with
    | error fault => exact absurd ((hholds.offer_eq_error_iff o fault).mp hoffer) (htakes fault)
    | ok later =>
      refine ⟨later, rfl, ?_, adds_of_offer hoffer⟩
      rw [hnext, hoffer]

end HookRegistry

end StagedFlow
