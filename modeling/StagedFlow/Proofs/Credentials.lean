import Mathlib.Data.List.Induction
import StagedFlow.Proofs.Dispatching
import StagedFlow.Proofs.Events

/-!
# Credentials

A flow may demand credentials, and a request carries some if it has a header of one particular name.
Names are folded both when a header is set and when it is looked for, so that the order of the two
foldings and the spelling of the name do not matter: `Request.header?_withHeaders` says what is
found without any folding. A request without such a header goes no further along a chain than to the
first flow that demands one.
-/

namespace StagedFlow

variable {K : Type} {V : K → Type} {S W H : Type}

def SameLetter (a b : Char) : Prop :=
  a = b ∨ a.isUpper ∧ b.toNat = a.toNat + 32 ∨ b.isUpper ∧ a.toNat = b.toNat + 32

def SameName (a b : String) : Prop := List.Forall₂ SameLetter a.toList b.toList

instance : DecidableRel SameLetter := fun a b =>
  inferInstanceAs (Decidable (a = b ∨ a.isUpper ∧ b.toNat = a.toNat + 32 ∨
    b.isUpper ∧ a.toNat = b.toNat + 32))

instance : DecidableRel SameName := fun a b =>
  inferInstanceAs (Decidable (List.Forall₂ SameLetter a.toList b.toList))

theorem isUpper_eq (c : Char) : c.isUpper = decide (c.val ≥ 'A'.val ∧ c.val ≤ 'Z'.val) := rfl

theorem toNat_toLower (c : Char) :
    c.toLower.toNat = if c.isUpper then c.toNat + 32 else c.toNat := by
  rw [isUpper_eq]
  unfold Char.toLower
  split
  case isTrue h =>
    rw [if_pos (decide_eq_true h)]
    have hle : c.val.toNat ≤ 90 := UInt32.le_iff_toNat_le.mp h.2
    have hsum : c.val.toNat + 32 < 2 ^ 32 := by omega
    exact (UInt32.toNat_add _ _).trans (Nat.mod_eq_of_lt hsum)
  case isFalse h => rw [if_neg (by simpa using h)]

theorem isUpper_iff (c : Char) : c.isUpper ↔ 65 ≤ c.toNat ∧ c.toNat ≤ 90 := by
  rw [isUpper_eq, decide_eq_true_iff, ge_iff_le, UInt32.le_iff_toNat_le, UInt32.le_iff_toNat_le]
  rfl

theorem toLower_eq_toLower_iff (a b : Char) : a.toLower = b.toLower ↔ SameLetter a b := by
  rw [← Char.toNat_inj, toNat_toLower, toNat_toLower, SameLetter, ← Char.toNat_inj]
  -- No capital is 32 above a capital, so that folding keeps different letters apart.
  simp only [isUpper_iff]
  split <;> split <;> omega

theorem asciiLower_eq_iff (a b : String) : asciiLower a = asciiLower b ↔ SameName a b := by
  rw [← String.toList_inj, asciiLower, asciiLower, String.toList_map, String.toList_map,
    ← List.forall₂_eq_eq_eq, List.forall₂_map_left_iff, List.forall₂_map_right_iff, SameName]
  constructor
  case mp => exact fun h => h.imp fun a b => (toLower_eq_toLower_iff a b).mp
  case mpr => exact fun h => h.imp fun a b => (toLower_eq_toLower_iff a b).mpr

namespace Request

def withHeaders (request : Request) (headers : List (String × String)) : Request :=
  headers.foldl (fun request header => request.withHeader header.1 header.2) request

theorem withHeaders_concat (request : Request) (headers : List (String × String))
    (header : String × String) : request.withHeaders (headers ++ [header]) =
      (request.withHeaders headers).withHeader header.1 header.2 := by
  rw [withHeaders, List.foldl_append]
  rfl

theorem header?_withHeader_of_same (request : Request) {name sought : String} (value : String)
    (h : SameName name sought) : (request.withHeader name value).header? sought = some value := by
  rw [header?, withHeader, List.find?_cons_of_pos]
  · rfl
  · exact beq_iff_eq.mpr ((asciiLower_eq_iff name sought).mpr h)

theorem header?_withHeader_of_not_same (request : Request) {name sought : String} (value : String)
    (h : ¬SameName name sought) :
    (request.withHeader name value).header? sought = request.header? sought := by
  rw [header?, withHeader, List.find?_cons_of_neg, ← header?]
  exact fun heq => h ((asciiLower_eq_iff name sought).mp (beq_iff_eq.mp heq))

def IsLast (headers : List (String × String)) (sought : String) : Option String → Prop
  | some value => ∃ before name after, headers = before ++ (name, value) :: after ∧
      SameName name sought ∧ ∀ later ∈ after, ¬SameName later.1 sought
  | none => ∀ header ∈ headers, ¬SameName header.1 sought

theorem IsLast.concat {headers : List (String × String)} {sought name : String}
    {found : Option String} (h : IsLast headers sought found) (value : String)
    (hname : ¬SameName name sought) : IsLast (headers ++ [(name, value)]) sought found := by
  cases found with
  | none =>
    intro header hheader
    rcases List.mem_append.mp hheader with hold | hnew
    · exact h header hold
    · cases List.mem_singleton.mp hnew
      exact hname
  | some last =>
    obtain ⟨before, key, after, rfl, hkey, hafter⟩ := h
    refine ⟨before, key, after ++ [(name, value)], by simp, hkey, fun later hlater => ?_⟩
    rcases List.mem_append.mp hlater with hold | hnew
    · exact hafter later hold
    · cases List.mem_singleton.mp hnew
      exact hname

/-- What is found in a request that has had headers set. -/
theorem header?_withHeaders (request : Request) (hrequest : request.headers = [])
    (headers : List (String × String)) (sought : String) :
    IsLast headers sought ((request.withHeaders headers).header? sought) := by
  induction headers using List.reverseRecOn with
  | nil =>
    rw [withHeaders, List.foldl_nil, header?, hrequest]
    exact List.forall_mem_nil _
  | append_singleton headers header ih =>
    obtain ⟨name, value⟩ := header
    rw [withHeaders_concat]
    by_cases hname : SameName name sought
    · rw [header?_withHeader_of_same _ value hname]
      exact ⟨headers, name, [], rfl, hname, List.forall_mem_nil _⟩
    · rw [header?_withHeader_of_not_same _ value hname]
      exact ih.concat value hname

theorem IsLast.eq_none_iff {headers : List (String × String)} {sought : String}
    {found : Option String} (h : IsLast headers sought found) :
    found = none ↔ ∀ header ∈ headers, ¬SameName header.1 sought := by
  cases found with
  | none => exact ⟨fun _ => h, fun _ => rfl⟩
  | some value =>
    obtain ⟨before, name, after, rfl, hname, -⟩ := h
    refine ⟨nofun, fun hall => absurd hname (hall (name, value) ?_)⟩
    exact List.mem_append_right before List.mem_cons_self

end Request

/-! ### Requests without credentials -/

/-- Nobody can tell the one flow from the other who does not have it run: if it may be reached
without credentials it is the same flow, and if not it has the same route and guard. -/
structure Instance.Fronts (inst other : Instance K V W H) : Prop where
  access : other.definition.access = inst.definition.access
  route : other.definition.route = inst.definition.route
  guard : other.definition.guard = inst.definition.guard
  reached : inst.definition.access ≠ .authorized → other = inst

theorem Instance.Fronts.canActivate_eq {inst other : Instance K V W H} (h : inst.Fronts other)
    (request : Request) : other.canActivate request = inst.canActivate request := by
  rw [Instance.canActivate, Instance.canActivate, h.route, h.guard]

theorem Instance.refuses_eq_beq (inst : Instance K V W H) {request : Request}
    (hnone : request.header? "authorization" = none) :
    inst.refuses request = (inst.definition.access == .authorized) := by
  rw [Instance.refuses, hnone]
  exact Bool.and_true _

/-- A chain may be changed behind its fronts. -/
theorem dispatch_eq_of_fronts (p : Platform S W H) {request : Request} (deps : S)
    (hnone : request.header? "authorization" = none) {chain others : List (Instance K V W H)}
    (h : List.Forall₂ Instance.Fronts chain others) :
    dispatch p request deps others = dispatch p request deps chain := by
  induction h with
  | nil => rfl
  | @cons inst other rest restOthers hfronts _ ih =>
    cases hactive : inst.canActivate request with
    | false =>
      have hother : other.canActivate request = false :=
        (hfronts.canActivate_eq request).trans hactive
      rw [dispatch_of_inactive inst hactive, dispatch_of_inactive other hother, ih]
    | true =>
      have hother : other.canActivate request = true :=
        (hfronts.canActivate_eq request).trans hactive
      by_cases haccess : inst.definition.access = .authorized
      · have hrefuses := inst.refuses_eq_beq hnone
        have hrefusesOther := other.refuses_eq_beq hnone
        rw [hfronts.access] at hrefusesOther
        rw [beq_iff_eq.mpr haccess] at hrefuses hrefusesOther
        rw [dispatch_of_refuses inst hactive hrefuses,
          dispatch_of_refuses other hother hrefusesOther]
      · have hrefuses : inst.refuses request = false := by
          rw [inst.refuses_eq_beq hnone]
          exact beq_eq_false_iff_ne.mpr haccess
        rw [hfronts.reached haccess, dispatch_of_admits inst hactive hrefuses,
          dispatch_of_admits inst hactive hrefuses, ih]

theorem Dispatches.admitted {p : Platform S W H} {request : Request} {deps : S}
    {chain : List (Instance K V W H)} {others : List (W → W)} {w : W}
    {calls : List (Call K V S W H)} {ending : Task.Ending W Response}
    (h : Dispatches p request deps chain others w calls ending) :
    ∀ call ∈ calls, ¬(call.inst.definition.access = .authorized ∧
      request.header? "authorization" = none) := by
  induction h with
  | unmatched => exact List.forall_mem_nil _
  | skipped _ _ ih => exact ih
  | refused => exact List.forall_mem_nil _
  | decided _ hadmitted hcall _ => exact List.forall_mem_singleton.mpr (hcall ▸ hadmitted)
  | passed _ hadmitted hcall _ _ ih => exact List.forall_mem_cons.mpr ⟨hcall ▸ hadmitted, ih⟩

/-- Every event of a call is of its flow. -/
theorem Instance.flow_of_mem_delivered (p : Platform S W H) (inst : Instance K V W H) (place : Nat)
    (setting : Setting S W) {event : FlowEvent} (h : event ∈ inst.delivered p place setting) :
    event.flow = inst.name := by
  obtain ⟨history, hrecord⟩ := exists_history p inst setting
  rw [delivered, hrecord, events_marksOf, eventsOf] at h
  rcases List.mem_append.mp h with hbegin | hend
  · rcases List.mem_cons.mp hbegin with rfl | hvisit
    · rfl
    · obtain ⟨visit, -, rfl⟩ := List.mem_map.mp hvisit
      rfl
  · cases List.mem_singleton.mp hend
    cases inst.outcome p setting <;> rfl

structure Withholds (p : Platform S W H) (request : Request) (deps : S)
    (chain : List (Instance K V W H)) : Prop where
  /-- All that happens are the calls of other flows. -/
  calls : ∀ others w, ∃ calls, Told p request deps chain others w calls ∧
    ∀ call ∈ calls, call.inst.definition.access ≠ .authorized ∧
      ∀ place, ∀ event ∈ call.inst.delivered p place call.setting, event.flow = call.inst.name
  /-- Nothing depends on what the flows are that demand credentials. -/
  blind : ∀ chain', List.Forall₂ Instance.Fronts chain chain' →
    dispatch p request deps chain' = dispatch p request deps chain

theorem withholds_of_header?_eq_none (p : Platform S W H) {request : Request} (deps : S)
    (chain : List (Instance K V W H)) (hnone : request.header? "authorization" = none) :
    Withholds p request deps chain where
  calls others w := by
    obtain ⟨calls, htold⟩ := exists_told p request deps chain others w
    refine ⟨calls, htold, fun call hcall => ⟨fun haccess => ?_, fun place event hevent => ?_⟩⟩
    · exact htold.dispatches.admitted call hcall ⟨haccess, hnone⟩
    · exact call.inst.flow_of_mem_delivered p place call.setting hevent
  blind _ h := dispatch_eq_of_fronts p deps hnone h

/-- **Credentials.** A header is found under a name if one was set under it in any case, and then it
is the last one. A request without an authorization header does not make any flow run that demands
credentials, and one that has such a header is refused nowhere. -/
theorem header_and_credentials (p : Platform S W H) (method path : String) (body : Json)
    (headers : List (String × String)) :
    let request := ((Request.start method path).withBody body).withHeaders headers
    (∀ sought, Request.IsLast headers sought (request.header? sought)) ∧
      ((∀ header ∈ headers, ¬SameName header.1 "authorization") →
        ∀ (deps : S) (chain : List (Instance K V W H)), Withholds p request deps chain) ∧
      ((∃ header ∈ headers, SameName header.1 "authorization") →
        ∀ inst : Instance K V W H, inst.refuses request = false) := by
  intro request
  have hlast : ∀ sought, Request.IsLast headers sought (request.header? sought) :=
    Request.header?_withHeaders ((Request.start method path).withBody body) rfl headers
  refine ⟨hlast, fun hwithout deps chain => ?_, fun hwith inst => ?_⟩
  · exact withholds_of_header?_eq_none p deps chain ((hlast _).eq_none_iff.mpr hwithout)
  · obtain ⟨header, hheader, hname⟩ := hwith
    have hfound : request.header? "authorization" ≠ none := fun hnone =>
      (hlast _).eq_none_iff.mp hnone header hheader hname
    rw [Instance.refuses, Option.isNone_eq_false_iff.mpr (Option.isSome_iff_ne_none.mpr hfound)]
    exact Bool.and_false _

def Instance.locked : Instance Empty (fun _ => Unit) Nat (Option Interrupt) :=
  let answering := Instance.crossed [.own "connect" (some (.signal (.respond .null)))]
  { answering with definition := { answering.definition with access := .authorized } }

theorem header_and_credentials_locked :
    (¬SameName "x-authorization" "authorization" ∧
      Withholds .plain (((Request.start "GET" "/").withBody .null).withHeaders
        [("x-authorization", "t")]) none
        [.crossed [.own "connect" (some (.signal .next))], .locked]) ∧
      SameName "AuthoriZation" "authorization" ∧
        Instance.locked.refuses (((Request.start "GET" "/").withBody .null).withHeaders
          [("AuthoriZation", "t"), ("x", "u")]) = false := by
  have hother : ¬SameName "x-authorization" "authorization" := by decide
  have hsame : SameName "AuthoriZation" "authorization" := by decide
  refine ⟨⟨hother, ?_⟩, hsame, ?_⟩
  · exact (header_and_credentials .plain "GET" "/" .null [("x-authorization", "t")]).2.1
      (List.forall_mem_singleton.mpr hother) none _
  · exact (header_and_credentials .plain "GET" "/" .null
      [("AuthoriZation", "t"), ("x", "u")]).2.2 ⟨_, List.mem_cons_self, hsame⟩ _

end StagedFlow
