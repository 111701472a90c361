import StagedFlow.Auth.Config
import StagedFlow.Proofs.Forms

/-!
# Links that are told apart

A link is cut where its query and its fragment begin, at the first question mark and the first
number sign. In the links that are read no part holds a sign that would end it, since every part is
encoded or made of a few characters only. So a link comes apart into the parts that it was written
from, also when pairs were appended to its query.
-/

namespace StagedFlow

/-- Neither of the signs with which a query and a fragment begin is in the text. -/
def Unmarked (cs : List Char) : Prop := ∀ c ∈ cs, Url.isTailMark c = false

instance (cs : List Char) : Decidable (Unmarked cs) :=
  List.decidableBAll (fun c => Url.isTailMark c = false) cs

namespace Unmarked

variable {front back : List Char} {parts : List (List Char)}

theorem nil : Unmarked [] := nofun

theorem append (h : Unmarked front) (h' : Unmarked back) : Unmarked (front ++ back) :=
  List.forall_mem_append.mpr ⟨h, h'⟩

theorem cons {c : Char} (h : Url.isTailMark c = false) (h' : Unmarked back) :
    Unmarked (c :: back) :=
  List.forall_mem_cons.mpr ⟨h, h'⟩

theorem singleton {c : Char} (h : Url.isTailMark c = false) : Unmarked [c] := cons h nil

theorem ite {c : Prop} [Decidable c] (h : Unmarked front) (h' : Unmarked back) :
    Unmarked (if c then front else back) := by
  split
  · exact h
  · exact h'

theorem subset (h : Unmarked front) (h' : back ⊆ front) : Unmarked back := fun c hc => h c (h' hc)

theorem intercalate {separator : List Char} (h : Unmarked separator)
    (h' : ∀ part ∈ parts, Unmarked part) : Unmarked (List.intercalate separator parts) := by
  induction parts with
  | nil => exact nil
  | cons first rest ih =>
    obtain ⟨hfirst, hrest⟩ := List.forall_mem_cons.mp h'
    cases rest with
    | nil => rwa [List.intercalate_singleton]
    | cons second more =>
      rw [List.intercalate_cons_cons]
      exact (hfirst.append h).append (ih hrest)

end Unmarked

namespace Url

structure Parts where
  front : String
  query : Option String
  fragment : Option String
deriving DecidableEq

def behind : List Char → Option String
  | [] => none
  | _ :: rest => some (String.ofList rest)

/-- Cuts a link at the first number sign, and what is in front of it at the first question mark. -/
def cut (link : String) : Parts :=
  let body := link.toList.takeWhile (· != '#')
  { front := String.ofList (body.takeWhile (· != '?'))
    query := behind (body.dropWhile (· != '?'))
    fragment := behind (link.toList.dropWhile (· != '#')) }

def front (url : Url) : String :=
  url.scheme ++ ":"
    ++ (match url.authority with
      | some a => "//" ++ a
      | none => if url.path.startsWith "//" then "/." else "")
    ++ url.path

def parts (url : Url) : Parts := ⟨url.front, url.query, url.fragment⟩

/-- No part of the link holds a sign that would end it. -/
structure Separable (url : Url) : Prop where
  scheme : Unmarked url.scheme.toList
  authority : ∀ a ∈ url.authority, Unmarked a.toList
  path : Unmarked url.path.toList
  query : ∀ q ∈ url.query, '#' ∉ q.toList

def signed (sign : Char) : Option String → List Char
  | none => []
  | some part => sign :: part.toList

theorem behind_signed (sign : Char) (part : Option String) : behind (signed sign part) = part := by
  cases part with
  | none => rfl
  | some part => exact congrArg some String.ofList_toList

theorem toList_write (url : Url) : url.write.toList =
    url.front.toList ++ signed '?' url.query ++ signed '#' url.fragment := by
  change (url.front ++ _ ++ _).toList = _
  rw [String.toList_append, String.toList_append]
  cases url.query <;> cases url.fragment <;> simp [signed]

theorem Separable.front {url : Url} (h : url.Separable) : Unmarked url.front.toList := by
  rw [Url.front]
  simp only [String.toList_append]
  refine ((h.scheme.append (.singleton rfl)).append ?_).append h.path
  cases hauthority : url.authority with
  | some a =>
    rw [String.toList_append]
    have hslashes : Unmarked "//".toList := by decide
    exact hslashes.append (h.authority a hauthority)
  | none =>
    dsimp only
    split <;> decide

/-- A text is cut where a part begins that the test ends at. -/
theorem takeWhile_dropWhile_append {p : Char → Bool} {front back : List Char}
    (hfront : ∀ c ∈ front, p c = true) (hback : ∀ c ∈ back.head?, p c = false) :
    (front ++ back).takeWhile p = front ∧ (front ++ back).dropWhile p = back := by
  rw [List.takeWhile_append_of_pos hfront, List.dropWhile_append_of_pos hfront]
  cases back with
  | nil => exact ⟨List.append_nil front, rfl⟩
  | cons c rest =>
    have hc : ¬ p c = true := by simp [hback c rfl]
    rw [List.takeWhile_cons_of_neg hc, List.dropWhile_cons_of_neg hc, List.append_nil]
    exact ⟨rfl, rfl⟩

theorem head?_signed {sign : Char} {part : Option String} :
    ∀ c ∈ (signed sign part).head?, (c != sign) = false := by
  cases part with
  | none => exact nofun
  | some part =>
    rintro c ⟨⟩
    exact bne_self_eq_false sign

/-- A written link is cut into the parts that it was written from. -/
theorem Separable.cut_write {url : Url} (h : url.Separable) : cut url.write = url.parts := by
  have hnot : ∀ {sign : Char}, isTailMark sign = true → ∀ c ∈ url.front.toList,
      (c != sign) = true := by
    intro sign hsign c hc
    refine bne_iff_ne.mpr fun heq => ?_
    rw [← heq, h.front c hc] at hsign
    cases hsign
  have hbody : ∀ c ∈ url.front.toList ++ signed '?' url.query, (c != '#') = true := by
    refine List.forall_mem_append.mpr ⟨hnot rfl, ?_⟩
    have hquery := h.query
    cases hq : url.query with
    | none => exact nofun
    | some q =>
      rw [signed, List.forall_mem_cons]
      exact ⟨rfl, fun c hc => bne_iff_ne.mpr fun heq => hquery q hq (heq ▸ hc)⟩
  obtain ⟨htake, hdrop⟩ := takeWhile_dropWhile_append hbody head?_signed
  obtain ⟨hfront, hquery⟩ := takeWhile_dropWhile_append (hnot (show isTailMark '?' = true from rfl))
    head?_signed
  rw [cut, toList_write, htake, hdrop, hfront, hquery, behind_signed, behind_signed,
    String.ofList_toList]
  rfl

/-! ### What is written in the parts of a link -/

/-- What fails a test that both signs pass is neither of them. -/
theorem isTailMark_of_fails {p : Char → Bool} (hquery : p '?' = true) (hfragment : p '#' = true)
    {c : Char} (h : p c = false) : isTailMark c = false := by
  rw [isTailMark, Bool.or_eq_false_iff, beq_eq_false_iff_ne, beq_eq_false_iff_ne]
  constructor
  · rintro rfl
    rw [h] at hquery
    cases hquery
  · rintro rfl
    rw [h] at hfragment
    cases hfragment

theorem isTailMark_of_isMark {c : Char} (h : Form.isMark c = false) : isTailMark c = false :=
  isTailMark_of_fails (p := Form.isMark) rfl rfl h

/-- What is left unencoded decides which characters an encoded text has beside those of escapes. -/
theorem forall_mem_encodeUnless {P : Char → Prop} {keep : Char → Bool} {cs : List Char}
    (hescape : ∀ c, Form.isMark c = false → P c) (hkeep : ∀ c ∈ cs, keep c = true → P c) :
    ∀ c ∈ encodeUnless keep cs, P c := by
  intro c hc
  obtain ⟨d, hd, hc⟩ := List.mem_flatMap.mp hc
  split at hc
  case isTrue hplain =>
    cases List.mem_singleton.mp hc
    simp only [Bool.and_eq_true] at hplain
    exact hkeep _ hd hplain.2
  case isFalse =>
    obtain ⟨b, -, hc⟩ := List.mem_flatMap.mp hc
    exact hescape c (Form.isMark_of_mem_percent hc)

theorem unmarked_encodeUnless {keep : Char → Bool} {cs : List Char}
    (h : ∀ c ∈ cs, keep c = true → isTailMark c = false) : Unmarked (encodeUnless keep cs) :=
  forall_mem_encodeUnless (fun _ => isTailMark_of_isMark) h

/-- A test that drops both signs keeps neither. -/
theorem isTailMark_of_keepsIn {dropped : String} (hquery : '?' ∈ dropped.toList)
    (hfragment : '#' ∈ dropped.toList) {c : Char} (h : keepsIn dropped c = true) :
    isTailMark c = false := by
  rw [keepsIn, Bool.not_eq_true'] at h
  exact isTailMark_of_fails (List.contains_iff_mem.mpr hquery)
    (List.contains_iff_mem.mpr hfragment) h

theorem exists_of_mem_toDigits {base : Nat} (hbase : 1 < base) {n : Nat} {c : Char}
    (h : c ∈ Nat.toDigits base n) : ∃ d < base, c = Nat.digitChar d := by
  induction n using Nat.strongRecOn with
  | ind n ih =>
    rw [Nat.toDigits_eq_if hbase] at h
    split at h
    case isTrue hlt => exact ⟨n, hlt, List.mem_singleton.mp h⟩
    case isFalse hle =>
      rcases List.mem_append.mp h with h | h
      · exact ih (n / base) (Nat.div_lt_self (by omega) hbase) h
      · exact ⟨_, Nat.mod_lt n (by omega), List.mem_singleton.mp h⟩

theorem isTailMark_digitChar : ∀ d < 16, isTailMark (Nat.digitChar d) = false := by
  decide

theorem unmarked_toDigits {base : Nat} (hbase : 1 < base ∧ base ≤ 16) (n : Nat) :
    Unmarked (Nat.toDigits base n) := by
  intro c hc
  obtain ⟨d, hd, rfl⟩ := exists_of_mem_toDigits hbase.1 hc
  exact isTailMark_digitChar d (hd.trans_le hbase.2)

theorem unmarked_writeIpv4 (n : Nat) : Unmarked (Address.writeIpv4 n) := by
  refine .intercalate (by decide) fun part hpart => ?_
  obtain ⟨i, -, rfl⟩ := List.mem_map.mp hpart
  exact unmarked_toDigits (by decide) _

theorem unmarked_writeIpv6 (pieces : List Nat) : Unmarked (Address.writeIpv6 pieces) := by
  have hwrite : ∀ ps : List Nat, Unmarked (List.intercalate [':'] (ps.map Address.hex)) := by
    refine fun ps => .intercalate (by decide) fun part hpart => ?_
    obtain ⟨i, -, rfl⟩ := List.mem_map.mp hpart
    exact unmarked_toDigits (by decide) _
  rw [Address.writeIpv6]
  dsimp only
  split
  · exact hwrite _
  · exact ((hwrite _).append (by decide)).append (hwrite _)

theorem unmarked_bracketed {text host : List Char} (h : bracketed text = .ok host) :
    Unmarked host := by
  rw [bracketed] at h
  split at h
  case isFalse => cases h
  case isTrue =>
    split at h
    case h_2 => cases h
    case h_1 pieces _ =>
      cases h
      exact .append (.cons rfl (unmarked_writeIpv6 pieces)) (.singleton rfl)

theorem isTailMark_punycodeDigit : ∀ d < 36,
    isTailMark (Domain.Punycode.digitChar d) = false := by
  decide

theorem unmarked_numeral (bias place delta : Nat) :
    Unmarked (Domain.Punycode.numeral bias place delta) := by
  have hthreshold : ∀ place, Domain.Punycode.threshold place bias ≤ 26 := by
    intro place
    unfold Domain.Punycode.threshold
    split
    · omega
    · split <;> omega
  fun_induction Domain.Punycode.numeral bias place delta with
  | case1 place delta t hlt =>
    have := hthreshold place
    exact .singleton (isTailMark_punycodeDigit _ (by omega))
  | case2 place delta t hge ih =>
    have := hthreshold place
    have hmod := Nat.mod_lt (delta - t) (show 36 - t > 0 by omega)
    exact .cons (isTailMark_punycodeDigit _ (by omega)) ih

theorem unmarked_walk {s : Domain.Punycode.Encoder} (basic point : Nat) (c : Char)
    (h : Unmarked s.out) : Unmarked (s.walk basic point c).out := by
  unfold Domain.Punycode.Encoder.walk
  split
  · exact h
  · split
    · exact h.append (unmarked_numeral _ _ _)
    · exact h

theorem unmarked_run (label : List Char) (basic : Nat) (points : List Nat) (next : Nat)
    {s : Domain.Punycode.Encoder} (h : Unmarked s.out) :
    Unmarked (s.run label basic points next).out := by
  induction points generalizing next s with
  | nil => exact h
  | cons point rest ih =>
    have hfold : ∀ (cs : List Char) {s : Domain.Punycode.Encoder}, Unmarked s.out →
        Unmarked (cs.foldl (Domain.Punycode.Encoder.walk basic point) s).out := by
      intro cs
      induction cs with
      | nil => exact fun hs => hs
      | cons c cs ihfold => exact fun hs => ihfold (unmarked_walk basic point c hs)
    exact ih _ (hfold label h)

theorem unmarked_writeLabel {label : List Char} (h : Unmarked label) :
    Unmarked (Domain.writeLabel label) := by
  rw [Domain.writeLabel]
  split
  · exact h
  · refine .append (by decide) ?_
    rw [Domain.Punycode.encode]
    refine .append (.append (h.subset List.filter_sublist.subset) ?_) (unmarked_run _ _ _ _ .nil)
    split <;> decide

/-- No written name holds one of the signs, which are forbidden in it. -/
theorem unmarked_domain {name written : List Char} (h : Domain.write? name = some written) :
    Unmarked written := by
  simp only [Domain.write?, Option.bind_eq_bind, Option.bind_eq_some_iff] at h
  obtain ⟨kept, -, labels, -, h⟩ := h
  split at h
  case isFalse => cases h
  case isTrue hfits =>
    cases h
    refine .intercalate (by decide) fun part hpart => ?_
    obtain ⟨label, hlabel, rfl⟩ := List.mem_map.mp hpart
    refine unmarked_writeLabel fun c hc => ?_
    simp only [Bool.and_eq_true, Bool.not_eq_true', List.any_eq_false] at hfits
    have hallowed := hfits.2 label hlabel
    simp only [Bool.not_eq_true, List.any_eq_false] at hallowed
    exact isTailMark_of_fails (by decide) (by decide) (hallowed c hc)

theorem unmarked_readHost {text host : List Char} (h : readHost text = .ok host) :
    Unmarked host := by
  rw [readHost.eq_def] at h
  split at h
  case h_1 => exact unmarked_bracketed h
  case h_2 =>
    split at h
    case h_1 => cases h
    case h_2 => cases h
    case h_3 name _ hname =>
      obtain ⟨s, -, hwrite⟩ := Option.bind_eq_some_iff.mp hname
      split at h
      case isFalse =>
        cases h
        exact unmarked_domain hwrite
      case isTrue =>
        split at h
        case h_1 n _ =>
          cases h
          exact unmarked_writeIpv4 n
        case h_2 => cases h

theorem unmarked_readOpaqueHost {text host : List Char} (h : readOpaqueHost text = .ok host) :
    Unmarked host := by
  rw [readOpaqueHost.eq_def] at h
  split at h
  case h_1 => exact unmarked_bracketed h
  case h_2 =>
    split at h
    case isTrue => cases h
    case isFalse hallowed =>
      cases h
      refine unmarked_encodeUnless fun c hc _ => ?_
      simp only [Bool.not_eq_true, List.any_eq_false] at hallowed
      exact isTailMark_of_fails (by decide) (by decide) (hallowed c hc)

theorem unmarked_writeUser (text : List Char) : Unmarked (writeUser text) := by
  have hencode : ∀ cs, Unmarked (encodeUnless keepUser cs) := fun cs =>
    unmarked_encodeUnless fun c _ => isTailMark_of_keepsIn (by decide) (by decide)
  have hwritten : ∀ name word : List Char, Unmarked (encodeUnless keepUser name ++
      if word.isEmpty then [] else ':' :: encodeUnless keepUser word) := fun name word =>
    (hencode name).append (.ite .nil (.cons rfl (hencode word)))
  exact .ite .nil ((hwritten _ _).append (.singleton rfl))

theorem unmarked_readPort {scheme : String} {text port rest : List Char}
    (h : readPort scheme text = .ok (port, rest)) : Unmarked port := by
  unfold readPort at h
  dsimp only at h
  split at h
  · cases h
  · split at h
    · cases h
      exact .nil
    · cases h
      exact .cons rfl (unmarked_toDigits (by decide) _)

def Yields {ε α : Type} (P : α → Prop) (x : Except ε α) : Prop := ∀ a, x = .ok a → P a

namespace Yields

variable {ε α β : Type} {P : α → Prop} {Q : β → Prop}

theorem pure {a : α} (h : P a) : Yields P (Pure.pure a : Except ε α) := by
  rintro _ ⟨⟩
  exact h

theorem bind {x : Except ε β} {f : β → Except ε α} (h : Yields Q x)
    (hf : ∀ b, Q b → Yields P (f b)) : Yields P (x >>= f) := by
  cases x with
  | error e => exact nofun
  | ok b => exact hf b (h b rfl)

theorem guarded {c : Prop} [Decidable c] {e : ε} {x : Except ε α} (h : Yields P x) :
    Yields P (if c then (do throw e; x) else x) := by
  split
  · exact nofun
  · exact h

end Yields

theorem yields_readAuthority (scheme : String) (text : List Char) :
    Yields (fun read => Unmarked read.1) (readAuthority scheme text) := by
  have hparts : ∀ {user host port rest : List Char}, Unmarked host → Unmarked port →
      Yields (fun read => Unmarked read.1)
        (.ok (writeUser user ++ host ++ port, rest) : Except UrlFault (List Char × List Char)) :=
    fun hhost hport => .pure (((unmarked_writeUser _).append hhost).append hport)
  unfold readAuthority
  dsimp only
  split <;> refine .guarded (.guarded ?_) <;> split
  all_goals
    refine .bind (Q := Unmarked) ?_ fun host hhost => ?_
    · first | exact fun _ => unmarked_readHost | exact fun _ => unmarked_readOpaqueHost
    · split
      · exact .bind (fun _ => unmarked_readPort) fun read hport => .guarded (hparts hhost hport)
      · exact .bind (.pure .nil) fun read hport => .guarded (hparts hhost hport)

theorem unmarked_slash : Unmarked ['/'] := .singleton rfl

theorem unmarked_dropSlash {path : List Char} (h : Unmarked path) : Unmarked (dropSlash path) := by
  have hdropLast : Unmarked path.dropLast := h.subset (List.dropLast_sublist path).subset
  unfold dropSlash
  dsimp only
  split
  · exact h
  · split
    · exact h
    · exact hdropLast

theorem unmarked_pop (file : Bool) {path : List Char} (h : Unmarked path) :
    Unmarked (pop file path) := by
  unfold pop
  dsimp only
  split
  · exact h
  · exact h.subset (List.take_sublist _ _).subset

theorem unmarked_step (file last : Bool) {place : Place} {segment : List Char}
    (hplace : Unmarked place.path) (hsegment : Unmarked segment) :
    Unmarked (place.step file segment last).path := by
  have hslash : Unmarked (if last then [] else ['/']) := .ite .nil unmarked_slash
  unfold Place.step
  dsimp only
  split
  · split
    · exact unmarked_pop file (unmarked_dropSlash hplace)
    · exact (unmarked_pop file (unmarked_dropSlash hplace)).append hslash
  · split
    · dsimp only
      split
      · exact hplace
      · exact hplace.append (by decide)
    · split
      · exact ((hplace.append (hsegment.subset (List.take_sublist _ _).subset)).append
          (by decide)).append hslash
      · exact (hplace.append hsegment).append hslash

theorem unmarked_run_place (file : Bool) {place : Place} {segments : List (List Char)}
    (hplace : Unmarked place.path) (hsegments : ∀ segment ∈ segments, Unmarked segment) :
    Unmarked (place.run file segments).path := by
  fun_induction Place.run file place segments with
  | case1 => exact hplace
  | case2 place segment => exact unmarked_step file true hplace (hsegments segment (by simp))
  | case3 place segment rest _ ih =>
    obtain ⟨hsegment, hrest⟩ := List.forall_mem_cons.mp hsegments
    exact ih (unmarked_step file false hplace hsegment) hrest

/-- However a path goes on, its segments are encoded. -/
theorem unmarked_extend (special file : Bool) {place : Place} (text : List Char)
    (h : Unmarked place.path) : Unmarked (place.extend special file text).path := by
  have hsegments : ∀ text, ∀ segment ∈ (Form.split '/' text).map (encodeUnless keepPath),
      Unmarked segment := by
    intro text segment hsegment
    obtain ⟨piece, -, rfl⟩ := List.mem_map.mp hsegment
    exact unmarked_encodeUnless fun c _ => isTailMark_of_keepsIn (by decide) (by decide)
  have hstart : ∀ needsSlash : Bool, Unmarked
      (if needsSlash then { place with path := place.path ++ ['/'] } else place).path := by
    intro needsSlash
    cases needsSlash with
    | false => exact h
    | true => exact h.append (by decide)
  have hrun := fun needsSlash text =>
    unmarked_run_place file (hstart needsSlash) (hsegments text)
  unfold Place.extend
  dsimp only
  split
  · exact .cons rfl ((hrun _ _).subset (List.dropWhile_sublist _).subset)
  · exact hrun _ _

theorem notMem_encodeUnless {keep : Char → Bool} (h : keep '#' = false) (cs : List Char) :
    '#' ∉ encodeUnless keep cs := by
  have hall : ∀ c ∈ encodeUnless keep cs, c ≠ '#' := by
    refine forall_mem_encodeUnless (fun c hc => ?_) fun c _ hc => ?_ <;> rintro rfl
    · cases hc
    · rw [h] at hc
      cases hc
  exact fun hmem => hall _ hmem rfl

/-- Query and fragment leave a link separable. -/
theorem separable_withTail {url : Url} (hscheme : Unmarked url.scheme.toList)
    (hauthority : ∀ a ∈ url.authority, Unmarked a.toList) (hpath : Unmarked url.path.toList)
    (text : List Char) : (withTail url text).Separable := by
  refine ⟨hscheme, hauthority, hpath, ?_⟩
  have hkeep : ∀ special : Bool,
      (if special then keepSpecialQuery else keepQuery) '#' = false := by decide
  unfold withTail
  dsimp only
  intro q hq
  split at hq
  · cases hq
  · cases hq
    rw [String.toList_ofList]
    exact notMem_encodeUnless (hkeep _) _

theorem yields_readFromAuthority {scheme : String} (hscheme : Unmarked scheme.toList)
    (text : List Char) : Yields Separable (readFromAuthority scheme text) := by
  unfold readFromAuthority
  refine .bind (yields_readAuthority scheme text) fun read hauthority => .pure ?_
  refine separable_withTail hscheme ?_ ?_ _
  · rintro a ⟨⟩
    rwa [String.toList_ofList]
  · rw [String.toList_ofList]
    exact .ite .nil (unmarked_extend _ _ _ (by decide))

theorem separable_fileUrl {host : List Char} {place : Place} (hhost : Unmarked host)
    (hpath : Unmarked place.path) (tail : List Char) : (fileUrl host place tail).Separable := by
  refine separable_withTail (show Unmarked "file".toList by decide) ?_
    (by rwa [String.toList_ofList]) _
  rintro a ⟨⟩
  rwa [String.toList_ofList]

theorem yields_readFileFromHost (text : List Char) :
    Yields Separable (readFileFromHost text) := by
  have hroot : ∀ (hosted : Bool) (body : List Char),
      Unmarked ((Place.mk ['/'] hosted).extend true true body).path := fun hosted body =>
    unmarked_extend true true body unmarked_slash
  unfold readFileFromHost
  dsimp only
  split
  all_goals
    refine .bind (Q := Unmarked) ?_ fun host hhost => ?_
    · first | exact .pure .nil | exact fun _ => unmarked_readHost
    · have hlocal : Unmarked (if host == "localhost".toList then [] else host) :=
        .ite .nil hhost
      generalize (if host == "localhost".toList then [] else host) = kept at hlocal ⊢
      split
      · exact .pure (separable_fileUrl .nil (hroot _ _) _)
      · exact .pure (separable_fileUrl (.ite hlocal .nil) (hroot _ _) _)

theorem Separable.withTail {url : Url} (h : url.Separable) (text : List Char) :
    (Url.withTail url text).Separable :=
  separable_withTail h.scheme h.authority h.path text

theorem Separable.withTail_query {url : Url} (h : url.Separable) (text : List Char) :
    ({ Url.withTail url text with query := url.query } : Url).Separable :=
  ⟨h.scheme, h.authority, h.path, h.query⟩

theorem Separable.withoutFragment {url : Url} (h : url.Separable) : url.withoutFragment.Separable :=
  ⟨h.scheme, h.authority, h.path, h.query⟩

theorem Separable.authority_getD {url : Url} (h : url.Separable) :
    Unmarked (url.authority.getD "").toList := by
  cases hauthority : url.authority with
  | none => exact .nil
  | some a => exact h.authority a hauthority

def Based (base : Option Url) : Prop := ∀ b ∈ base, b.Separable

theorem Based.filter {base : Option Url} (h : Based base) (p : Url → Bool) :
    Based (base.filter p) := fun b hb =>
  h b (Option.mem_filter_iff.mp hb).1

theorem yields_rooted {base : Option Url} (h : Based base) (behind text : List Char) :
    Yields Separable (readFile.rooted base behind text) := by
  have hhost : Unmarked ((base.bind Url.authority).getD "").toList := by
    cases base with
    | none => exact .nil
    | some b => exact (h b rfl).authority_getD
  have hdrive : Unmarked
      ((base.map fun b => (b.path.toList.drop 1).takeWhile (· != '/')).getD []) := by
    cases base with
    | none => exact .nil
    | some b =>
      exact (h b rfl).path.subset fun c hc =>
        List.mem_of_mem_drop ((List.takeWhile_sublist _).subset hc)
  unfold readFile.rooted
  dsimp only
  split
  · exact .pure (separable_fileUrl .nil (unmarked_extend _ _ _ .nil) _)
  · split
    · exact .pure (separable_fileUrl .nil (unmarked_extend _ _ _ (.cons rfl hdrive)) _)
    · exact .pure (separable_fileUrl hhost (unmarked_extend _ _ _ .nil) _)

theorem yields_relative {base : Option Url} (h : Based base) (startsDrive : Bool)
    (text : List Char) : Yields Separable (readFile.relative base startsDrive text) := by
  have hroot : ∀ body, Unmarked ((Place.mk ['/'] false).extend true true body).path := fun body =>
    unmarked_extend true true body unmarked_slash
  unfold readFile.relative
  dsimp only
  split
  · exact .pure (separable_fileUrl .nil (hroot _) _)
  case h_2 b =>
    have hb := h b rfl
    split
    · exact .pure hb.withoutFragment
    · exact .pure (hb.withTail _)
    · exact .pure (hb.withTail_query _)
    · split
      · exact .pure (separable_fileUrl .nil (hroot _) _)
      · exact .pure (separable_fileUrl hb.authority_getD
          (unmarked_extend _ _ _ (unmarked_pop true hb.path)) _)

theorem yields_readFile {base : Option Url} (h : Based base) (text : List Char) :
    Yields Separable (readFile base text) := by
  unfold readFile
  dsimp only
  split
  · split
    · exact yields_readFileFromHost _
    · split
      · exact yields_rooted h _ _
      · exact yields_relative h _ _
  · split
    · exact yields_rooted h _ _
    · exact yields_relative h _ _
  · exact yields_relative h _ _

theorem yields_readRelative {base : Url} (h : base.Separable) (text : List Char) :
    Yields Separable (readRelative base text) := by
  have hpath : ∀ {path : List Char}, Unmarked path → ∀ text tail,
      let place := (Place.mk path true).extend (styleOf base.scheme).isSpecial false text
      (Url.withTail { base with path := String.ofList place.path } tail).Separable := by
    intro path hunmarked text tail
    refine separable_withTail ?_ ?_ ?_ tail
    · exact h.scheme
    · exact h.authority
    · rw [String.toList_ofList]
      exact unmarked_extend _ _ _ hunmarked
  have hpop := unmarked_pop false h.path
  unfold readRelative
  dsimp only
  split
  · exact .pure h.withoutFragment
  · exact .pure (h.withTail _)
  · exact .pure (h.withTail_query _)
  · split
    · split
      · exact yields_readFromAuthority h.scheme _
      · exact .pure (hpath unmarked_slash _ _)
    · exact .pure (hpath (.ite unmarked_slash hpop) _ _)

/-! ### Links that are read -/

theorem toNat_lt_of_isAlphanum {c : Char} (h : c.isAlphanum = true) : c.toNat < 128 := by
  have heq : c.isAlphanum =
      (decide (c.val ≥ 'A'.val ∧ c.val ≤ 'Z'.val) ||
        (decide (c.val ≥ 'a'.val) && decide (c.val ≤ 'z'.val)) ||
        (decide (c.val ≥ '0'.val) && decide (c.val ≤ '9'.val))) := rfl
  simp only [heq, Bool.or_eq_true, Bool.and_eq_true, decide_eq_true_eq,
    UInt32.le_iff_toNat_le] at h
  have hval : c.toNat = c.val.toNat := rfl
  have hz : 'z'.val.toNat = 122 := rfl
  have hZ : 'Z'.val.toNat = 90 := rfl
  have h9 : '9'.val.toNat = 57 := rfl
  omega

theorem isTailMark_toLower_ofNat : ∀ n < 128,
    ((Char.ofNat n).isAlphanum || Char.ofNat n == '+' || Char.ofNat n == '-' ||
      Char.ofNat n == '.') = true → isTailMark (Char.ofNat n).toLower = false := by
  decide

/-- The scheme of a link is made of letters, digits and a few signs. -/
theorem unmarked_scheme {text rest : List Char} {scheme : String}
    (h : scheme? text = some (scheme, rest)) : Unmarked scheme.toList := by
  unfold scheme? at h
  split at h
  · cases h
  · split at h
    · cases h
    · dsimp only at h
      split at h
      case h_2 => cases h
      case h_1 =>
        cases h
        rw [String.toList_ofList]
        intro c hc
        obtain ⟨d, hd, rfl⟩ := List.mem_map.mp hc
        have hscheme := List.mem_takeWhile_imp hd
        have hsmall : d.toNat < 128 := by
          simp only [Bool.or_eq_true, beq_iff_eq] at hscheme
          obtain ((hd | rfl) | rfl) | rfl := hscheme
          · exact toNat_lt_of_isAlphanum hd
          all_goals decide
        rw [← Char.ofNat_toNat d] at hscheme ⊢
        exact isTailMark_toLower_ofNat _ hsmall hscheme

theorem yields_readWithScheme {base : Option Url} (h : Based base) {scheme : String}
    (hscheme : Unmarked scheme.toList) (text : List Char) :
    Yields Separable (readWithScheme base scheme text) := by
  have hlone : ∀ {path : List Char}, Unmarked path → ∀ tail,
      (Url.withTail ⟨scheme, none, String.ofList path, none, none⟩ tail).Separable := by
    intro path hpath tail
    refine separable_withTail hscheme (by exact nofun) ?_ tail
    rwa [String.toList_ofList]
  unfold readWithScheme
  split
  · exact yields_readFile (h.filter _) text
  · split
    case h_1 b hb => exact yields_readRelative (h.filter _ b hb) text
    case h_2 => exact yields_readFromAuthority hscheme _
  · dsimp only
    split
    · exact yields_readFromAuthority hscheme _
    · exact .pure (hlone (unmarked_extend _ _ _ (by decide)) _)
    · refine .pure (hlone (unmarked_encodeUnless fun c hc _ => ?_) _)
      have hbody := List.mem_takeWhile_imp hc
      rwa [Bool.not_eq_true'] at hbody

/-- Links that are read are separable, also when they are relative to others. -/
theorem yields_resolve {base : Option Url} (h : Based base) (text : String) :
    Yields Separable (resolve base text) := by
  unfold resolve
  dsimp only
  split
  case h_1 scheme rest hscheme => exact yields_readWithScheme h (unmarked_scheme hscheme) rest
  case h_2 =>
    split
    · exact nofun
    case h_2 b =>
      have hb := h b rfl
      split
      · exact .pure (hb.withTail_query _)
      · split
        · exact nofun
        · split
          · exact yields_readFile h _
          · exact yields_readRelative hb _

theorem Separable.appendPair {url : Url} (h : url.Separable) (name value : String) :
    (url.appendPair name value).Separable := by
  have hpair : '#' ∉ Form.encodePair name value :=
    Form.notMem_encodePair (by decide) (by decide) name value
  refine ⟨h.scheme, h.authority, h.path, ?_⟩
  rintro _ ⟨⟩
  rw [String.toList_ofList, Form.append]
  split
  · exact hpair
  · rw [List.mem_append, List.mem_cons]
    rintro (hquery | heq | hpair')
    · cases hq : url.query with
      | none => simp [hq] at hquery
      | some q => exact h.query q hq (by simpa [hq] using hquery)
    · cases heq
    · exact hpair hpair'

/-- The links that there are: read alone or relative to others, and given pairs. -/
inductive Reached : Url → Prop where
  | read {text : String} {url : Url} (h : parse text = .ok url) : Reached url
  | joined {base url : Url} {text : String} (hbase : Reached base)
      (h : resolve (some base) text = .ok url) : Reached url
  | paired {url : Url} (name value : String) (h : Reached url) :
      Reached (url.appendPair name value)

theorem Reached.separable {url : Url} (h : url.Reached) : url.Separable := by
  induction h with
  | read h => exact yields_resolve (by exact nofun) _ _ h
  | joined _ h ih =>
    refine yields_resolve (fun b hb => ?_) _ _ h
    cases hb
    exact ih
  | paired name value _ ih => exact ih.appendPair name value

/-- What is written for links that differ in their queries only is the same only if these are. -/
theorem eq_of_write_query {url : Url} {query query' : String}
    (h : { url with query := some query }.write = { url with query := some query' }.write) :
    query = query' := by
  have hlists := congrArg String.toList h
  rw [toList_write, toList_write] at hlists
  change url.front.toList ++ '?' :: query.toList ++ signed '#' url.fragment =
    url.front.toList ++ '?' :: query'.toList ++ signed '#' url.fragment at hlists
  exact String.toList_inj.mp
    (List.cons.inj (List.append_cancel_left (List.append_cancel_right hlists))).2

end Url

/-! ### Links to authorize at -/

namespace AuthConfig

theorem separable_defaultBase : defaultBase.Separable := by
  refine ⟨show Unmarked "http".toList by decide, ?_,
    show Unmarked "/oauth/authorize".toList by decide, nofun⟩
  rintro _ ⟨⟩
  exact show Unmarked "localhost:3000".toList by decide

variable (config : AuthConfig) (app tool : String)

def authorizeQuery : String :=
  String.ofList (Form.append
    (Form.append (config.base.query.getD "").toList "app" app) "tool" tool)

theorem appendPair_appendPair_base : (config.base.appendPair "app" app).appendPair "tool" tool =
    { config.base with query := some (config.authorizeQuery app tool) } := by
  rw [Url.appendPair, Url.appendPair, authorizeQuery]
  cases config.base.query <;> simp

theorem authorizeUrl_eq : config.authorizeUrl app tool =
    { config.base with query := some (config.authorizeQuery app tool) }.write :=
  congrArg Url.write (config.appendPair_appendPair_base app tool)

theorem pairsBytes_authorizeQuery : Form.pairsBytes (config.authorizeQuery app tool).toList =
    Form.pairsBytes (config.base.query.getD "").toList ++
      [(Form.bytes "app", Form.bytes app), (Form.bytes "tool", Form.bytes tool)] := by
  rw [authorizeQuery, String.toList_ofList, Form.pairsBytes_append, Form.pairsBytes_append,
    List.append_assoc, List.cons_append, List.nil_append]

theorem pairs_authorizeQuery : Form.pairs (config.authorizeQuery app tool).toList =
    Form.pairs (config.base.query.getD "").toList ++
      [(some "app", some app), (some "tool", some tool)] := by
  rw [authorizeQuery, String.toList_ofList, Form.pairs_append, Form.pairs_append,
    List.append_assoc, List.cons_append, List.nil_append]

end AuthConfig

/-- **A link to authorize at tells app and tool.** It is the base with another query, which holds
the pairs of the query of the base and then app and tool, as bytes and as texts. The link is cut
into the parts of the base and this query, if the base is a link that was read, and no two pairs of
app and tool have one link. -/
theorem AuthConfig.exists_query_authorizeUrl (config : AuthConfig) (app tool : String) :
    ∃ query : String,
      config.authorizeUrl app tool = { config.base with query := some query }.write ∧
      Form.pairsBytes query.toList = Form.pairsBytes (config.base.query.getD "").toList ++
        [(Form.bytes "app", Form.bytes app), (Form.bytes "tool", Form.bytes tool)] ∧
      Form.pairs query.toList = Form.pairs (config.base.query.getD "").toList ++
        [(some "app", some app), (some "tool", some tool)] ∧
      (config.base = defaultBase ∨ config.base.Reached →
        Url.cut config.base.write = config.base.parts ∧
          Url.cut (config.authorizeUrl app tool) = { config.base.parts with query := some query }) ∧
      ∀ app' tool', config.authorizeUrl app' tool' = config.authorizeUrl app tool →
        app' = app ∧ tool' = tool := by
  refine ⟨config.authorizeQuery app tool, config.authorizeUrl_eq app tool,
    config.pairsBytes_authorizeQuery app tool, config.pairs_authorizeQuery app tool, ?_, ?_⟩
  · intro hbase
    have hseparable : config.base.Separable := by
      obtain hbase | hbase := hbase
      · rw [hbase]
        exact separable_defaultBase
      · exact hbase.separable
    have hlink := ((hseparable.appendPair "app" app).appendPair "tool" tool).cut_write
    rw [config.appendPair_appendPair_base app tool] at hlink
    refine ⟨hseparable.cut_write, ?_⟩
    rw [authorizeUrl_eq, hlink]
    rfl
  · intro app' tool' heq
    rw [authorizeUrl_eq, authorizeUrl_eq] at heq
    have hpairs := config.pairs_authorizeQuery app' tool'
    rw [Url.eq_of_write_query heq, pairs_authorizeQuery] at hpairs
    have hlast := List.append_cancel_left hpairs
    simp only [List.cons.injEq, Prod.mk.injEq, Option.some.injEq, true_and, and_true] at hlast
    exact ⟨hlast.1.symm, hlast.2.symm⟩

example : AuthConfig.default.authorizeUrl "a&b" "c d#é" =
    "http://localhost:3000/oauth/authorize?app=a%26b&tool=c+d%23%C3%A9" := by
  decide +kernel

end StagedFlow
