import Mathlib.Data.List.Forall2
import StagedFlow.Proofs.Finishing

/-!
# Servers that differ in names

A plugin may report a name of its own. Two programs are alike if they differ in nothing but the
names of the plugins that they add, and in what they do with stores that correspond; plugins and
servers are alike if all their parts are. Alike programs keep alike servers alike: they fail at the
same places, though the faults may name plugins differently. In particular plugins that record their
turns leave records that differ in names only.
-/

namespace StagedFlow

variable {S T α β : Type} {rel : S → T → Prop}

open ServerM

inductive Ends (rel : α → β → Prop) : Except ServerFault α → Except ServerFault β → Prop
  | ok {a : α} {b : β} (h : rel a b) : Ends rel (.ok a) (.ok b)
  | error (fault other : ServerFault) : Ends rel (.error fault) (.error other)

theorem Ends.map {α' β' : Type} {rel : α → β → Prop} {rel' : α' → β' → Prop}
    {ended : Except ServerFault α} {ended' : Except ServerFault β} (h : Ends rel ended ended')
    {f : α → α'} {g : β → β'} (hfg : ∀ a b, rel a b → rel' (f a) (g b)) :
    Ends rel' (ended.map f) (ended'.map g) := by
  cases h with
  | ok h => exact .ok (hfg _ _ h)
  | error fault fault' => exact .error fault fault'

/-- The same but for the names. -/
structure PluginInfo.Alike (info other : PluginInfo) : Prop where
  type : info.type = other.type
  unique : info.unique = other.unique
  dependencies : info.dependencies = other.dependencies

inductive Program.Alike (rel : S → T → Prop) : Program S → Program T → Prop
  | done : Alike rel .done .done
  | act {change : S → Except ServerFault S} {change' : T → Except ServerFault T}
      {next : Program S} {next' : Program T}
      (hchange : ∀ s t, rel s t → Ends rel (change s) (change' t)) (hnext : Alike rel next next') :
      Alike rel (.act change next) (.act change' next')
  | ask {note : Bool → S → S} {note' : Bool → T → T} {next : Program S} {next' : Program T}
      (question : Question) (hnote : ∀ answer s t, rel s t → rel (note answer s) (note' answer t))
      (hnext : Alike rel next next') :
      Alike rel (.ask question note next) (.ask question note' next')
  | guarded {test : S → Bool} {test' : T → Bool} {body next : Program S} {body' next' : Program T}
      (htest : ∀ s t, rel s t → test s = test' t) (hbody : Alike rel body body')
      (hnext : Alike rel next next') :
      Alike rel (.guarded test body next) (.guarded test' body' next')
  | add {info info' : PluginInfo} {build ready after next : Program S}
      {build' ready' after' next' : Program T} (hinfo : info.Alike info')
      (hbuild : Alike rel build build') (hready : Alike rel ready ready')
      (hafter : Alike rel after after') (hnext : Alike rel next next') :
      Alike rel (.add info build ready after next) (.add info' build' ready' after' next')
  | finish {next : Program S} {next' : Program T} (hnext : Alike rel next next') :
      Alike rel (.finish next) (.finish next')
  | cleanup {next : Program S} {next' : Program T} (hnext : Alike rel next next') :
      Alike rel (.cleanup next) (.cleanup next')

structure Plugin.Alike (rel : S → T → Prop) (plugin : Plugin S) (other : Plugin T) : Prop where
  info : plugin.info.Alike other.info
  build : plugin.build.Alike rel other.build
  ready : plugin.ready.Alike rel other.ready
  cleanup : plugin.cleanup.Alike rel other.cleanup

structure Server.Alike (rel : S → T → Prop) (server : Server S) (other : Server T) : Prop where
  store : rel server.store other.store
  progress : server.progress = other.progress
  pending : List.Forall₂ (Plugin.Alike rel) server.pending other.pending
  built : List.Forall₂ (Plugin.Alike rel) server.built other.built
  types : server.types = other.types

structure Together (rel : S → T → Prop) (ended : Except ServerFault Unit × Server S)
    (ended' : Except ServerFault Unit × Server T) : Prop where
  result : Ends (fun _ _ => True) ended.1 ended'.1
  server : ended.2.Alike rel ended'.2

/-- Alike servers stay alike. -/
def InStep (rel : S → T → Prop) (m : ServerM S Unit) (m' : ServerM T Unit) : Prop :=
  ∀ server other, server.Alike rel other → Together rel (exec m server) (exec m' other)

namespace InStep

variable {m next : ServerM S Unit} {m' next' : ServerM T Unit}

theorem bind (h : InStep rel m m') (hnext : InStep rel next next') :
    InStep rel (m >>= fun _ => next) (m' >>= fun _ => next') := by
  intro server other halike
  obtain ⟨hresult, hserver⟩ := h server other halike
  rw [exec_bind, exec_bind]
  generalize exec m server = ended at hresult hserver
  generalize exec m' other = ended' at hresult hserver
  obtain ⟨result, mid⟩ := ended
  obtain ⟨result', mid'⟩ := ended'
  cases hresult with
  | ok => exact hnext mid mid' hserver
  | error fault fault' => exact ⟨.error fault fault', hserver⟩

theorem branch {n : ServerM S Unit} {n' : ServerM T Unit} (p : Server S → Prop) [DecidablePred p]
    (p' : Server T → Prop) [DecidablePred p']
    (hp : ∀ server other, server.Alike rel other → (p server ↔ p' other))
    (hm : InStep rel m m') (hn : InStep rel n n') :
    InStep rel (get >>= fun s => if p s then m else n)
      (get >>= fun s => if p' s then m' else n') := by
  intro server other halike
  rw [exec_bind_of_ok (exec_get _), exec_bind_of_ok (exec_get _)]
  by_cases h : p server
  · rw [if_pos h, if_pos ((hp server other halike).mp h)]
    exact hm server other halike
  · rw [if_neg h, if_neg fun h' => h ((hp server other halike).mpr h')]
    exact hn server other halike

theorem forM {f : α → ServerM S Unit} {g : β → ServerM T Unit} {items : List α} {others : List β}
    (h : List.Forall₂ (fun a b => InStep rel (f a) (g b)) items others) :
    InStep rel (items.forM f) (others.forM g) := by
  induction h with
  | nil => exact fun _ _ halike => ⟨.ok trivial, halike⟩
  | cons hfirst _ ih =>
    rw [List.forM, List.forM]
    exact hfirst.bind ih

/-- An action that does not fail. -/
theorem modify {f : Server S → Server S} {g : Server T → Server T}
    (h : ∀ server other, server.Alike rel other → (f server).Alike rel (g other)) :
    InStep rel (modify f) (modify g) :=
  fun server other halike => ⟨.ok trivial, h server other halike⟩

theorem refuse : InStep rel Server.refuse Server.refuse := fun _ _ halike =>
  ⟨.error _ _, halike⟩

theorem act {change : S → Except ServerFault S} {change' : T → Except ServerFault T}
    (hchange : ∀ s t, rel s t → Ends rel (change s) (change' t)) :
    InStep rel (Server.act change) (Server.act change') := by
  intro server other halike
  have hends := hchange _ _ halike.store
  rw [Server.exec_act, Server.exec_act]
  generalize change server.store = result at hends
  generalize change' other.store = result' at hends
  cases hends with
  | ok h => exact ⟨.ok trivial, { halike with store := h }⟩
  | error fault fault' => exact ⟨.error fault fault', halike⟩

theorem enlist {info other : PluginInfo} (h : info.Alike other) :
    InStep rel (Server.enlist info) (Server.enlist other) := by
  intro server server' halike
  rw [Server.exec_enlist, Server.exec_enlist, ← h.unique, ← h.type, ← halike.types]
  split
  · exact ⟨.error _ _, halike⟩
  · exact ⟨.ok trivial, { halike with types := rfl }⟩

theorem suspend {plugin : Plugin S} {other : Plugin T} (h : plugin.Alike rel other) :
    InStep rel (Server.suspend plugin) (Server.suspend other) :=
  modify fun _ _ halike =>
    { halike with pending := List.rel_append halike.pending (.cons h .nil) }

theorem push {plugin : Plugin S} {other : Plugin T} (h : plugin.Alike rel other) :
    InStep rel (Server.push plugin) (Server.push other) :=
  modify fun _ _ halike => { halike with built := List.rel_append halike.built (.cons h .nil) }

theorem withBuilt {use : List (Plugin S) → ServerM S Unit} {use' : List (Plugin T) → ServerM T Unit}
    (h : ∀ plugins others, List.Forall₂ (Plugin.Alike rel) plugins others →
      InStep rel (use plugins) (use' others)) :
    InStep rel (Server.withBuilt use) (Server.withBuilt use') := by
  intro server other halike
  obtain ⟨hresult, hserver⟩ := h server.built other.built halike.built
    { server with built := [] } { other with built := [] } { halike with built := .nil }
  rw [Server.exec_withBuilt, Server.exec_withBuilt]
  generalize exec (use server.built) { server with built := [] } = ended at hresult hserver
  generalize exec (use' other.built) { other with built := [] } = ended' at hresult hserver
  obtain ⟨result, mid⟩ := ended
  obtain ⟨result', mid'⟩ := ended'
  cases hresult with
  | ok => exact ⟨.ok trivial, { hserver with built := halike.built }⟩
  | error fault fault' => exact ⟨.error fault fault', hserver⟩

end InStep

theorem Question.answer_eq {server : Server S} {other : Server T} (h : server.Alike rel other)
    (question : Question) : question.answer server = question.answer other := by
  cases question with
  | built => rw [answer, answer, h.progress]
  | added type => rw [answer, answer, h.types]

namespace Program.Alike

variable {p : Program S} {p' : Program T}

theorem run (h : p.Alike rel p') {finishing cleaning : ServerM S Unit}
    {finishing' cleaning' : ServerM T Unit} (hfinishing : InStep rel finishing finishing')
    (hcleaning : InStep rel cleaning cleaning') :
    InStep rel (p.run finishing cleaning) (p'.run finishing' cleaning') := by
  induction h with
  | done => exact fun _ _ halike => ⟨.ok trivial, halike⟩
  | act hchange _ ih => exact .bind (.act hchange) ih
  | ask question hnote _ ih =>
    refine .bind (.modify fun server other halike => ?_) ih
    rw [question.answer_eq halike]
    exact { halike with store := hnote _ _ _ halike.store }
  | guarded htest _ _ hbody ih =>
    refine .branch _ _ (fun server other halike => ?_) (.bind hbody ih) ih
    rw [htest _ _ halike.store]
  | add hinfo hbuild hready hafter _ ihbuild _ _ ih =>
    refine .bind (.enlist hinfo) (.branch _ _ (fun server other halike => ?_) ?_ ?_)
    · rw [halike.progress]
    · exact .bind ihbuild (.bind (.push ⟨hinfo, hbuild, hready, hafter⟩) ih)
    · exact .bind (.suspend ⟨hinfo, hbuild, hready, hafter⟩) ih
  | finish _ ih => exact .bind hfinishing ih
  | cleanup _ ih => exact .bind hcleaning ih

theorem depth_eq (h : p.Alike rel p') : p.depth = p'.depth := by
  induction h with
  | done => rfl
  | act _ _ ih | ask _ _ _ ih | finish _ ih | cleanup _ ih => exact ih
  | guarded _ _ _ hbody ih => rw [depth, depth, hbody, ih]
  | add _ _ _ _ _ hbuild _ hafter ih => rw [depth, depth, hbuild, hafter, ih]

end Program.Alike

namespace Server

theorem inStep_cleanupWithin (depth : Nat) :
    InStep rel (cleanupWithin depth) (cleanupWithin depth) := by
  induction depth with
  | zero => exact fun _ _ halike => ⟨.ok trivial, halike⟩
  | succ depth ih =>
    refine .withBuilt fun plugins others h => .forM ?_
    exact (List.rel_reverse h).imp fun _ _ halike => halike.cleanup.run .refuse ih

theorem depthOf_eq {plugins : List (Plugin S)} {others : List (Plugin T)}
    (h : List.Forall₂ (Plugin.Alike rel) plugins others) : depthOf plugins = depthOf others := by
  rw [depthOf, depthOf]
  generalize 0 = start
  induction h generalizing start with
  | nil => rfl
  | cons hfirst _ ih => rw [List.foldl_cons, List.foldl_cons, hfirst.cleanup.depth_eq, ih]

theorem inStep_cleanup : InStep rel cleanup cleanup := by
  intro server other halike
  rw [exec_cleanup, exec_cleanup, depthOf_eq halike.built]
  exact inStep_cleanupWithin _ server other halike

theorem inStep_call {p : Program S} {p' : Program T} (h : p.Alike rel p') :
    InStep rel (call p) (call p') := h.run .refuse inStep_cleanup

theorem inStep_buildAll {plugins : List (Plugin S)} {others : List (Plugin T)}
    (h : List.Forall₂ (Plugin.Alike rel) plugins others) :
    InStep rel (buildAll plugins) (buildAll others) :=
  .forM (h.imp fun _ _ halike => .bind (inStep_call halike.build) (.push halike))

theorem inStep_readyAll : InStep rel readyAll readyAll :=
  .withBuilt fun _ _ h => .forM (h.imp fun _ _ halike => inStep_call halike.ready)

/-- Alike servers are finished alike if their plugins are put in the same order. -/
theorem finish_together {server : Server S} {other : Server T} (halike : server.Alike rel other)
    (hprogress : server.progress = .notStarted)
    (hsorted : Ends (List.Forall₂ (Plugin.Alike rel)) (sorted server.built server.pending)
      (sorted other.built other.pending)) :
    Together rel (exec finish server) (exec finish other) := by
  have hprogress' : other.progress = .notStarted := halike.progress ▸ hprogress
  generalize hplugins : sorted server.built server.pending = found at hsorted
  generalize hothers : sorted other.built other.pending = found' at hsorted
  cases hsorted with
  | error fault fault' =>
    rw [exec_finish_of_error hprogress hplugins, exec_finish_of_error hprogress' hothers]
    exact ⟨.error fault fault', { halike with pending := .nil }⟩
  | ok h =>
    rw [exec_finish_of_ok hprogress hplugins, exec_finish_of_ok hprogress' hothers]
    refine ((inStep_buildAll h).bind (inStep_readyAll.bind (.modify fun _ _ halike => ?_))) _ _
      { halike with progress := rfl, pending := .nil }
    exact { halike with progress := rfl }

end Server

/-! ### Records -/

inductive Note.Alike (rel : S → T → Prop) : Note S → Note T → Prop
  | began (turn : Turn) {plugin : Plugin S} {other : Plugin T} (h : plugin.Alike rel other) :
      Alike rel (.began turn plugin) (.began turn other)
  | ended (turn : Turn) {plugin : Plugin S} {other : Plugin T} (h : plugin.Alike rel other) :
      Alike rel (.ended turn plugin) (.ended turn other)

structure Noted (rel : S → T → Prop) (s : S × List (Note S)) (t : T × List (Note T)) : Prop where
  store : rel s.1 t.1
  notes : List.Forall₂ (Note.Alike rel) s.2 t.2

namespace Program.Alike

variable {p last : Program S} {p' last' : Program T}

theorem andThen (h : p.Alike rel p') (hlast : last.Alike rel last') :
    (p.andThen last).Alike rel (p'.andThen last') := by
  induction h with
  | done => exact hlast
  | act hchange _ ih => exact .act hchange ih
  | ask question hnote _ ih => exact .ask question hnote ih
  | guarded htest hbody _ _ ih => exact .guarded htest hbody ih
  | add hinfo hbuild hready hafter _ _ _ _ ih => exact .add hinfo hbuild hready hafter ih
  | finish _ ih => exact .finish ih
  | cleanup _ ih => exact .cleanup ih

theorem write {note : Note S} {note' : Note T} {next : Program (S × List (Note S))}
    {next' : Program (T × List (Note T))} (hnote : note.Alike rel note')
    (hnext : next.Alike (Noted rel) next') :
    (Program.write note next).Alike (Noted rel) (Program.write note' next') :=
  .act (fun _ _ h => .ok ⟨h.store, List.rel_append h.notes (.cons hnote .nil)⟩) hnext

theorem noted {program : Program (S × List (Note S))} {program' : Program (T × List (Note T))}
    (h : program.Alike (Noted rel) program') (turn : Turn) {plugin : Plugin S} {other : Plugin T}
    (hplugin : plugin.Alike rel other) :
    (program.noted turn plugin).Alike (Noted rel) (program'.noted turn other) :=
  .write (.began turn hplugin) (h.andThen (.write (.ended turn hplugin) .done))

theorem recorded (h : p.Alike rel p') : p.recorded.Alike (Noted rel) p'.recorded := by
  induction h with
  | done => exact .done
  | act hchange _ ih =>
    exact .act (fun _ _ h => (hchange _ _ h.store).map fun _ _ hrel => ⟨hrel, h.notes⟩) ih
  | ask question hnote _ ih =>
    exact .ask question (fun answer _ _ h => ⟨hnote answer _ _ h.store, h.notes⟩) ih
  | guarded htest _ _ hbody ih => exact .guarded (fun _ _ h => htest _ _ h.store) hbody ih
  | add hinfo hbuild hready hafter _ ihbuild ihready ihafter ih =>
    have hplugin : Plugin.Alike rel ⟨_, _, _, _⟩ ⟨_, _, _, _⟩ := ⟨hinfo, hbuild, hready, hafter⟩
    exact .add hinfo (ihbuild.noted .build hplugin) (ihready.noted .ready hplugin)
      (ihafter.noted .cleanup hplugin) ih
  | finish _ ih => exact .finish ih
  | cleanup _ ih => exact .cleanup ih

end Program.Alike

theorem Plugin.Alike.recorded {plugin : Plugin S} {other : Plugin T} (h : plugin.Alike rel other) :
    plugin.recorded.Alike (Noted rel) other.recorded where
  info := h.info
  build := h.build.recorded.noted .build h
  ready := h.ready.recorded.noted .ready h
  cleanup := h.cleanup.recorded.noted .cleanup h

theorem Server.Alike.recorded {server : Server S} {other : Server T} (h : server.Alike rel other) :
    (server.recorded []).Alike (Noted rel) (other.recorded []) where
  store := ⟨h.store, .nil⟩
  progress := h.progress
  pending := List.rel_map (fun _ _ h => h.recorded) h.pending
  built := List.rel_map (fun _ _ h => h.recorded) h.built
  types := h.types

end StagedFlow
