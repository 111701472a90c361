import StagedFlow.Proofs.ServerSteps

/-!
# What plugins go through

The callbacks of a plugin are its turns. A server whose plugins write down when their turns begin
and end does what it does without; the record tells which plugins were built, made ready and cleaned
up, and in which order.
-/

namespace StagedFlow

variable {S : Type}

inductive Turn where
  | build
  | ready
  | cleanup
deriving DecidableEq

inductive Note (S : Type) where
  | began (turn : Turn) (plugin : Plugin S)
  | ended (turn : Turn) (plugin : Plugin S)

namespace Note

def plugin? (turn : Turn) : Note S → Option (Plugin S)
  | began kind plugin => if kind = turn then some plugin else none
  | ended _ _ => none

def turns (turn : Turn) (notes : List (Note S)) : List (Plugin S) := notes.filterMap (plugin? turn)

/-- The plugins whose builds end, in that order; left out are builds within turns of other kinds, of
which `depth` are open at first. -/
def kept : Nat → List (Note S) → List (Plugin S)
  | _, [] => []
  | depth, began turn _ :: rest => kept (if turn = .build then depth else depth + 1) rest
  | depth, ended turn plugin :: rest =>
    if turn = .build then
      if depth = 0 then plugin :: kept depth rest else kept depth rest
    else kept (depth - 1) rest

/-- A turn of a plugin, with what happens meanwhile. -/
def around (turn : Turn) (plugin : Plugin S) (notes : List (Note S)) : List (Note S) :=
  began turn plugin :: (notes ++ [ended turn plugin])

@[simp]
theorem turns_append (turn : Turn) (l r : List (Note S)) :
    turns turn (l ++ r) = turns turn l ++ turns turn r := List.filterMap_append

theorem turns_began_self (turn : Turn) (plugin : Plugin S) (notes : List (Note S)) :
    turns turn (began turn plugin :: notes) = plugin :: turns turn notes := by
  simp [turns, plugin?]

theorem turns_began_of_ne {turn other : Turn} (hne : other ≠ turn) (plugin : Plugin S)
    (notes : List (Note S)) : turns turn (began other plugin :: notes) = turns turn notes := by
  simp [turns, plugin?, hne]

theorem turns_around_self (turn : Turn) (plugin : Plugin S) (notes : List (Note S)) :
    turns turn (around turn plugin notes) = plugin :: turns turn notes := by
  simp [turns, around, plugin?]

theorem turns_around_of_ne {turn other : Turn} (hne : other ≠ turn) (plugin : Plugin S)
    (notes : List (Note S)) : turns turn (around other plugin notes) = turns turn notes := by
  simp [turns, around, plugin?, hne]

structure Balanced (notes : List (Note S)) : Prop where
  kept_append : ∀ depth rest, kept depth (notes ++ rest) = kept depth notes ++ kept depth rest
  kept_succ : ∀ depth, kept (depth + 1) notes = []

namespace Balanced

variable {l r notes : List (Note S)}

theorem nil : Balanced ([] : List (Note S)) := ⟨fun _ _ => rfl, fun _ => rfl⟩

theorem append (hl : Balanced l) (hr : Balanced r) : Balanced (l ++ r) where
  kept_append depth rest := by
    rw [List.append_assoc, hl.kept_append, hr.kept_append, hl.kept_append, List.append_assoc]
  kept_succ depth := by rw [hl.kept_append, hl.kept_succ, hr.kept_succ, List.append_nil]

/-- The plugins that a turn keeps. -/
theorem kept_around_append (h : Balanced notes) (turn : Turn) (plugin : Plugin S) (depth : Nat)
    (rest : List (Note S)) :
    kept depth (around turn plugin notes ++ rest) =
      (if turn = .build then
        kept depth notes ++ if depth = 0 then [plugin] else []
      else []) ++ kept depth rest := by
  rw [around, List.cons_append, List.append_assoc, kept, h.kept_append, List.singleton_append, kept]
  by_cases hturn : turn = .build
  · by_cases hdepth : depth = 0 <;> simp [hturn, hdepth]
  · simp [hturn, h.kept_succ]

theorem kept_around (h : Balanced notes) (turn : Turn) (plugin : Plugin S) (depth : Nat) :
    kept depth (around turn plugin notes) =
      if turn = .build then kept depth notes ++ if depth = 0 then [plugin] else []
      else [] := by
  have := h.kept_around_append turn plugin depth []
  simpa [kept] using this

theorem around (h : Balanced notes) (turn : Turn) (plugin : Plugin S) :
    Balanced (Note.around turn plugin notes) where
  kept_append depth rest := by rw [h.kept_around_append, h.kept_around]
  kept_succ depth := by rw [h.kept_around, h.kept_succ]; simp

end Balanced

end Note

/-! ### Recording -/

namespace Program

def andThen : Program S → Program S → Program S
  | done, last => last
  | act change next, last => act change (next.andThen last)
  | ask question note next, last => ask question note (next.andThen last)
  | guarded test body next, last => guarded test body (next.andThen last)
  | add info build ready after next, last => add info build ready after (next.andThen last)
  | finish next, last => finish (next.andThen last)
  | cleanup next, last => cleanup (next.andThen last)

theorem run_andThen (finishing cleaning : ServerM S Unit) (p last : Program S) :
    (p.andThen last).run finishing cleaning =
      p.run finishing cleaning >>= fun _ => last.run finishing cleaning := by
  induction p with
  | done => rw [andThen, run, pure_bind]
  | act _ _ ih | ask _ _ _ ih | finish _ ih | cleanup _ ih =>
    simp only [andThen, run, bind_assoc, ih]
  | guarded _ _ _ _ ih =>
    simp only [andThen, run, bind_assoc, ih]
    refine bind_congr fun server => ?_
    split <;> simp only [bind_assoc]
  | add _ _ _ _ _ _ _ _ ih =>
    simp only [andThen, run, bind_assoc, ih]
    refine bind_congr fun _ => bind_congr fun server => ?_
    split <;> simp only [bind_assoc]

def write (note : Note S) (next : Program (S × List (Note S))) : Program (S × List (Note S)) :=
  change (fun store => (store.1, store.2 ++ [note])) next

def noted (turn : Turn) (plugin : Plugin S) (program : Program (S × List (Note S))) :
    Program (S × List (Note S)) :=
  write (.began turn plugin) (program.andThen (write (.ended turn plugin) .done))

def recorded : Program S → Program (S × List (Note S))
  | done => done
  | act change next =>
    act (fun store => (change store.1).map fun s => (s, store.2)) next.recorded
  | ask question note next => ask question (fun b store => (note b store.1, store.2)) next.recorded
  | guarded test body next => guarded (fun store => test store.1) body.recorded next.recorded
  | add info build ready after next =>
    add info
      (noted .build ⟨info, build, ready, after⟩ build.recorded)
      (noted .ready ⟨info, build, ready, after⟩ ready.recorded)
      (noted .cleanup ⟨info, build, ready, after⟩ after.recorded)
      next.recorded
  | finish next => finish next.recorded
  | cleanup next => cleanup next.recorded

@[simp]
theorem depth_andThen (p last : Program S) : (p.andThen last).depth = max p.depth last.depth := by
  induction p with
  | done => simp [andThen, depth]
  | act _ _ ih | ask _ _ _ ih | finish _ ih | cleanup _ ih => simpa [andThen, depth] using ih
  | guarded _ _ _ _ ih => simp [andThen, depth, ih, Nat.max_assoc]
  | add _ _ _ _ _ _ _ _ ih => simp [andThen, depth, ih, Nat.max_assoc]

@[simp]
theorem depth_noted (turn : Turn) (plugin : Plugin S) (p : Program (S × List (Note S))) :
    (noted turn plugin p).depth = p.depth := by
  simp [noted, write, change, depth]

@[simp]
theorem depth_recorded (p : Program S) : p.recorded.depth = p.depth := by
  induction p with
  | done => rfl
  | act _ _ ih | ask _ _ _ ih | finish _ ih | cleanup _ ih => exact ih
  | guarded _ _ _ hbody ih => simp [recorded, depth, hbody, ih]
  | add _ _ _ _ _ hbuild _ hafter ih => simp [recorded, depth, hbuild, hafter, ih]

end Program

def Turn.callback : Turn → Plugin S → Program S
  | build, plugin => plugin.build
  | ready, plugin => plugin.ready
  | cleanup, plugin => plugin.cleanup

def Plugin.recorded (plugin : Plugin S) : Plugin (S × List (Note S)) where
  info := plugin.info
  build := .noted .build plugin plugin.build.recorded
  ready := .noted .ready plugin plugin.ready.recorded
  cleanup := .noted .cleanup plugin plugin.cleanup.recorded

theorem Turn.callback_recorded (turn : Turn) (plugin : Plugin S) :
    turn.callback plugin.recorded = .noted turn plugin (turn.callback plugin).recorded := by
  cases turn <;> rfl

def Server.recorded (server : Server S) (record : List (Note S)) :
    Server (S × List (Note S)) where
  store := (server.store, record)
  progress := server.progress
  pending := server.pending.map Plugin.recorded
  built := server.built.map Plugin.recorded
  types := server.types

open ServerM

/-- From a server, an action ends in `result` and `after`; so does the recording one, and it adds
`notes` to the record. -/
structure Records (m : ServerM S Unit) (m' : ServerM (S × List (Note S)) Unit) (server : Server S)
    (notes : List (Note S)) (result : Except ServerFault Unit) (after : Server S) : Prop where
  plain : exec m server = (result, after)
  recorded : ∀ record,
    exec m' (server.recorded record) = (result, after.recorded (record ++ notes))

namespace Records

variable {m : ServerM S Unit} {m' : ServerM (S × List (Note S)) Unit} {next : ServerM S Unit}
  {next' : ServerM (S × List (Note S)) Unit} {server mid after : Server S}
  {notes more : List (Note S)} {result : Except ServerFault Unit} {fault : ServerFault}

theorem done (server : Server S) : Records (pure ()) (pure ()) server [] (.ok ()) server where
  plain := rfl
  recorded record := by rw [List.append_nil]; rfl

theorem bind (h : Records m m' server notes (.ok ()) mid)
    (hnext : Records next next' mid more result after) :
    Records (m >>= fun _ => next) (m' >>= fun _ => next') server (notes ++ more) result after where
  plain := by rw [exec_bind_of_ok h.plain, hnext.plain]
  recorded record := by
    rw [exec_bind_of_ok (h.recorded record), hnext.recorded, List.append_assoc]

theorem bind_error (h : Records m m' server notes (.error fault) after) :
    Records (m >>= fun _ => next) (m' >>= fun _ => next') server notes (.error fault) after where
  plain := exec_bind_of_error h.plain
  recorded record := exec_bind_of_error (h.recorded record)

/-- What an action does and what it adds to the record are its own. -/
theorem unique {notes' : List (Note S)} {result' : Except ServerFault Unit} {after' : Server S}
    (h : Records m m' server notes result after) (h' : Records m m' server notes' result' after') :
    notes = notes' ∧ result = result' ∧ after = after' := by
  obtain ⟨hresult, hafter⟩ := Prod.mk.inj (h.plain.symm.trans h'.plain)
  have hrecord := (Prod.mk.inj ((h.recorded []).symm.trans (h'.recorded []))).2
  exact ⟨congrArg (fun server => server.store.2) hrecord, hresult, hafter⟩

/-- A callback that ends is recorded as a turn. -/
theorem noted {p : Program S} {refusing cleaning : ServerM S Unit}
    {refusing' cleaning' : ServerM (S × List (Note S)) Unit}
    (h : Records (p.run refusing cleaning) (p.recorded.run refusing' cleaning') server notes
      (.ok ()) after)
    (turn : Turn) (plugin : Plugin S) :
    Records (p.run refusing cleaning) ((p.recorded.noted turn plugin).run refusing' cleaning')
      server (Note.around turn plugin notes) (.ok ()) after where
  plain := h.plain
  recorded record := by
    show exec ((p.recorded.andThen _).run _ _)
        (server.recorded (record ++ [.began turn plugin])) = _
    rw [Program.run_andThen, exec_bind_of_ok (h.recorded _)]
    show (_, after.recorded (record ++ [_] ++ notes ++ [_])) = _
    simp [Note.around]

/-- A callback that fails is recorded as a turn that does not end. -/
theorem noted_error {p : Program S} {refusing cleaning : ServerM S Unit}
    {refusing' cleaning' : ServerM (S × List (Note S)) Unit}
    (h : Records (p.run refusing cleaning) (p.recorded.run refusing' cleaning') server notes
      (.error fault) after)
    (turn : Turn) (plugin : Plugin S) :
    Records (p.run refusing cleaning) ((p.recorded.noted turn plugin).run refusing' cleaning')
      server (.began turn plugin :: notes) (.error fault) after where
  plain := h.plain
  recorded record := by
    show exec ((p.recorded.andThen _).run _ _)
        (server.recorded (record ++ [.began turn plugin])) = _
    rw [Program.run_andThen, exec_bind_of_error (h.recorded _), List.append_assoc]
    rfl

theorem push (plugin : Plugin S) :
    Records (Server.push plugin) (Server.push plugin.recorded) server [] (.ok ())
      { server with built := server.built ++ [plugin] } where
  plain := Server.exec_push _ _
  recorded record := by simp [Server.recorded]

end Records

end StagedFlow
