import Mathlib.Data.List.TakeWhile
import StagedFlow.Proofs.Checks
import StagedFlow.Render.Template

/-!
# Filling a template

A template divides from the left into plain text and placeholders, and this does not depend on what
is filled in. Filling puts the pieces together again, each placeholder replaced by its field, so
that what has been filled in is not looked at. The braces are ASCII, and no byte of a longer
character is: a search for them in the bytes of a template cuts it at the same places.
-/

namespace StagedFlow

structure Text.Trims (text trimmed : List Char) : Prop where
  blanks : ∃ left right, text = left ++ trimmed ++ right ∧ ∀ c ∈ left ++ right, isBlank c
  starts : ∀ c ∈ trimmed.head?, ¬ isBlank c
  ends : ∀ c ∈ trimmed.getLast?, ¬ isBlank c

theorem not_of_mem_head?_dropWhile {α : Type} {p : α → Bool} {items : List α} :
    ∀ a ∈ (items.dropWhile p).head?, ¬ p a := by
  intro a ha
  have hnot := List.head?_dropWhile_not p items
  rw [Option.mem_def.mp ha] at hnot
  simp [hnot]

theorem Text.trims_trimList (text : List Char) : Trims text (trimList text) := by
  obtain ⟨left, hleft, hfront⟩ : ∃ left, (∀ c ∈ left, isBlank c) ∧
      text = left ++ text.dropWhile isBlank :=
    ⟨_, fun c => List.mem_takeWhile_imp, List.takeWhile_append_dropWhile.symm⟩
  obtain ⟨right, hright, hback⟩ : ∃ right, (∀ c ∈ right, isBlank c) ∧
      text.dropWhile isBlank = trimList text ++ right := by
    refine ⟨((text.dropWhile isBlank).reverse.takeWhile isBlank).reverse,
      fun c hc => List.mem_takeWhile_imp (List.mem_reverse.mp hc), ?_⟩
    rw [trimList, ← List.reverse_append, List.takeWhile_append_dropWhile, List.reverse_reverse]
  refine ⟨⟨left, right, ?_, ?_⟩, fun c hc => ?_, ?_⟩
  · rw [List.append_assoc, ← hback, ← hfront]
  · exact List.forall_mem_append.mpr ⟨hleft, hright⟩
  · have hhead : c ∈ (text.dropWhile isBlank).head? := by
      rw [hback, List.head?_append, Option.mem_def.mp hc]
      rfl
    exact not_of_mem_head?_dropWhile c hhead
  · rw [trimList, List.getLast?_reverse]
    exact not_of_mem_head?_dropWhile

namespace Template

variable {α β : Type}

inductive Piece (α : Type) where
  | plain (text : List α)
  | field (inside : List α)
  | unclosed (rest : List α)

def Piece.map (f : List α → List β) : Piece α → Piece β
  | plain text => .plain (f text)
  | field inside => .field (f inside)
  | unclosed rest => .unclosed (f rest)

/-- What stands before and behind the first place of a text where a mark stands. -/
structure FirstAt (mark text before after : List α) : Prop where
  eq : text = before ++ mark ++ after
  first : ∀ before' after', text = before' ++ mark ++ after' → before.length ≤ before'.length

/-- A template divides from the left: plain text goes up to the first mark that opens a
placeholder, and this one up to the first mark behind that closes it. -/
inductive Divides (opening closing : List α) : List α → List (Piece α) → Prop
  | plain {text : List α} : ¬ opening <:+: text → Divides opening closing text [.plain text]
  | unclosed {text before rest : List α} : FirstAt opening text before rest →
      ¬ closing <:+: rest → Divides opening closing text [.plain before, .unclosed rest]
  | field {text before rest inside after : List α} {pieces : List (Piece α)} :
      FirstAt opening text before rest → FirstAt closing rest inside after →
      Divides opening closing after pieces →
      Divides opening closing text (.plain before :: .field inside :: pieces)

section Dividing

variable {mark text before after opening closing : List α} {pieces : List (Piece α)}

theorem FirstAt.isInfix (h : FirstAt mark text before after) : mark <:+: text :=
  ⟨before, after, h.eq.symm⟩

theorem FirstAt.unique (h : FirstAt mark text before after) {before' after' : List α}
    (h' : FirstAt mark text before' after') : before = before' ∧ after = after' := by
  have hlength : before.length = before'.length :=
    Nat.le_antisymm (h.first _ _ h'.eq) (h'.first _ _ h.eq)
  have heq := h.eq.symm.trans h'.eq
  rw [List.append_assoc, List.append_assoc] at heq
  obtain ⟨hbefore, hafter⟩ := List.append_inj heq hlength
  exact ⟨hbefore, List.append_cancel_left hafter⟩

theorem FirstAt.cons {a : α} (hhead : ¬ mark <+: a :: text)
    (h : FirstAt mark text before after) : FirstAt mark (a :: text) (a :: before) after := by
  refine ⟨by rw [h.eq]; rfl, fun before' after' heq => ?_⟩
  cases before' with
  | nil => exact absurd ⟨after', heq.symm⟩ hhead
  | cons b rest => exact Nat.succ_le_succ (h.first rest after' (List.cons.inj heq).2)

theorem Divides.unique (h : Divides opening closing text pieces) {pieces' : List (Piece α)}
    (h' : Divides opening closing text pieces') : pieces = pieces' := by
  induction h generalizing pieces' with
  | plain hnone =>
    cases h' with
    | plain => rfl
    | unclosed hopen => exact absurd hopen.isInfix hnone
    | field hopen => exact absurd hopen.isInfix hnone
  | unclosed hopen hnone =>
    cases h' with
    | plain hnone' => exact absurd hopen.isInfix hnone'
    | unclosed hopen' =>
      obtain ⟨rfl, rfl⟩ := hopen.unique hopen'
      rfl
    | field hopen' hclose =>
      obtain ⟨rfl, rfl⟩ := hopen.unique hopen'
      exact absurd hclose.isInfix hnone
  | field hopen hclose _ ih =>
    cases h' with
    | plain hnone => exact absurd hopen.isInfix hnone
    | unclosed hopen' hnone =>
      obtain ⟨rfl, rfl⟩ := hopen.unique hopen'
      exact absurd hclose.isInfix hnone
    | field hopen' hclose' hrest =>
      obtain ⟨rfl, rfl⟩ := hopen.unique hopen'
      obtain ⟨rfl, rfl⟩ := hclose.unique hclose'
      rw [ih hrest]

theorem Divides.iff_eq (h : Divides opening closing text pieces) (others : List (Piece α)) :
    Divides opening closing text others ↔ others = pieces :=
  ⟨fun h' => h'.unique h, fun heq => heq ▸ h⟩

end Dividing

theorem splitAt?_eq_none {m : Char} {text : List Char} (h : splitAt? m text = none) :
    ¬ [m, m] <:+: text := by
  fun_induction splitAt? m text with
  | case1 => simp
  | case2 a => exact fun hinfix => absurd hinfix.length_le (by simp)
  | case3 => cases h
  | case4 a b rest hneither ih =>
    rw [List.infix_cons_iff]
    rintro (hhead | htail)
    · obtain ⟨rfl, hrest⟩ := List.cons_prefix_cons.mp hhead
      exact hneither ⟨rfl, (List.cons_prefix_cons.mp hrest).1.symm⟩
    · exact ih (Option.map_eq_none_iff.mp h) htail

theorem splitAt?_eq_some {m : Char} {text before after : List Char}
    (h : splitAt? m text = some (before, after)) : FirstAt [m, m] text before after := by
  fun_induction splitAt? m text generalizing before after with
  | case1 => cases h
  | case2 => cases h
  | case3 a b rest hboth =>
    cases h
    rw [hboth.1, hboth.2]
    exact ⟨rfl, fun _ _ _ => Nat.zero_le _⟩
  | case4 a b rest hneither ih =>
    obtain ⟨⟨x, y⟩, hsplit, hpair⟩ := Option.map_eq_some_iff.mp h
    cases hpair
    refine (ih hsplit).cons fun hhead => ?_
    obtain ⟨rfl, hrest⟩ := List.cons_prefix_cons.mp hhead
    exact hneither ⟨rfl, (List.cons_prefix_cons.mp hrest).1.symm⟩

def bytes (text : List Char) : List UInt8 := text.flatMap String.utf8EncodeChar

theorem bytes_append (front back : List Char) : bytes (front ++ back) = bytes front ++ bytes back :=
  List.flatMap_append

theorem eq_nil_of_bytes_eq_nil {text : List Char} (h : bytes text = []) : text = [] := by
  cases text with
  | nil => rfl
  | cons c rest => exact absurd (List.append_eq_nil_iff.mp h).1 String.utf8EncodeChar_ne_nil

theorem utf8EncodeChar_of_ascii {m : Char} (hm : m.val.toNat < 128) :
    String.utf8EncodeChar m = [UInt8.ofNat m.val.toNat] :=
  if_pos (Nat.le_of_lt_succ hm)

/-- No byte of a longer character is one of ASCII. -/
theorem le_toNat_of_mem_utf8EncodeChar {c : Char} {x : UInt8} (hc : ¬ c.val.toNat < 128)
    (h : x ∈ String.utf8EncodeChar c) : 128 ≤ x.toNat := by
  have hbyte : ∀ n, 128 ≤ n % 256 → 128 ≤ (UInt8.ofNat n).toNat := fun n hn => by
    rwa [UInt8.toNat_ofNat']
  rw [String.utf8EncodeChar, if_neg (fun hle => hc (Nat.lt_succ_of_le hle))] at h
  split at h
  case isTrue =>
    simp only [List.mem_cons, List.not_mem_nil, or_false] at h
    rcases h with rfl | rfl <;> exact hbyte _ (by omega)
  case isFalse =>
    split at h
    case isTrue =>
      simp only [List.mem_cons, List.not_mem_nil, or_false] at h
      rcases h with rfl | rfl | rfl <;> exact hbyte _ (by omega)
    case isFalse =>
      simp only [List.mem_cons, List.not_mem_nil, or_false] at h
      rcases h with rfl | rfl | rfl | rfl <;> exact hbyte _ (by omega)

/-- A byte of ASCII is in the bytes of its own character only. -/
theorem eq_of_mem_utf8EncodeChar {c m : Char} (hm : m.val.toNat < 128)
    (h : UInt8.ofNat m.val.toNat ∈ String.utf8EncodeChar c) : c = m := by
  have hbyte : (UInt8.ofNat m.val.toNat).toNat = m.val.toNat := by
    rw [UInt8.toNat_ofNat']
    omega
  by_cases hc : c.val.toNat < 128
  · rw [utf8EncodeChar_of_ascii hc] at h
    have heq := congrArg UInt8.toNat (List.mem_singleton.mp h)
    rw [hbyte, UInt8.toNat_ofNat', Nat.mod_eq_of_lt (by omega)] at heq
    exact Char.ext (UInt32.toNat_inj.mp heq.symm)
  · have := le_toNat_of_mem_utf8EncodeChar hc h
    omega

/-- An ASCII character is found in the bytes of a text where it stands in the text. -/
theorem exists_of_bytes_eq {m : Char} (hm : m.val.toNat < 128) {text : List Char}
    {front back : List UInt8} (h : bytes text = front ++ bytes [m] ++ back) :
    ∃ before after, text = before ++ [m] ++ after ∧ bytes before = front ∧ bytes after = back := by
  have hmark : bytes [m] = [UInt8.ofNat m.val.toNat] := by
    rw [bytes, List.flatMap_singleton, utf8EncodeChar_of_ascii hm]
  rw [hmark, List.append_assoc, List.singleton_append] at h
  induction text generalizing front with
  | nil => simp [bytes] at h
  | cons c rest ih =>
    have hsplit : String.utf8EncodeChar c ++ bytes rest = _ := h
    -- the front reaches over the bytes of `c`, or ends right behind them, or `c` itself is `m`
    obtain ⟨front', rfl, hrest⟩ | ⟨middle, hc, hback⟩ := List.append_eq_append_iff.mp hsplit
    · obtain ⟨before, after, rfl, rfl, rfl⟩ := ih hrest
      exact ⟨c :: before, after, rfl, rfl, rfl⟩
    cases middle with
    | nil =>
      have hrest : bytes rest = [] ++ UInt8.ofNat m.val.toNat :: back := hback.symm
      obtain ⟨before, after, rfl, hbefore, rfl⟩ := ih hrest
      obtain rfl := eq_nil_of_bytes_eq_nil hbefore
      exact ⟨[c], after, rfl, (List.append_nil _).trans (hc.trans (List.append_nil _)), rfl⟩
    | cons x middle =>
      obtain ⟨rfl, rfl⟩ := List.cons.inj hback
      obtain rfl := eq_of_mem_utf8EncodeChar hm
        (hc ▸ List.mem_append_right _ List.mem_cons_self)
      rw [utf8EncodeChar_of_ascii hm, List.singleton_eq_append_iff] at hc
      obtain ⟨rfl, hc⟩ | ⟨-, hc⟩ := hc
      · cases hc
        exact ⟨[], rest, rfl, rfl, rfl⟩
      · cases hc

theorem exists_of_bytes_pair_eq {m : Char} (hm : m.val.toNat < 128) {text : List Char}
    {front back : List UInt8} (h : bytes text = front ++ bytes [m, m] ++ back) :
    ∃ before after, text = before ++ [m, m] ++ after ∧ bytes before = front ∧
      bytes after = back := by
  rw [← List.singleton_append, bytes_append, ← List.append_assoc, List.append_assoc _ _ back] at h
  obtain ⟨before, rest, rfl, rfl, hrest⟩ := exists_of_bytes_eq hm h
  obtain ⟨none, after, rfl, hnone, rfl⟩ :=
    exists_of_bytes_eq hm (show bytes rest = [] ++ bytes [m] ++ back from hrest)
  obtain rfl := eq_nil_of_bytes_eq_nil hnone
  exact ⟨before, after, by simp, rfl, rfl⟩

/-- The bytes of a text are cut where the text itself is cut. -/
theorem FirstAt.bytes {m : Char} (hm : m.val.toNat < 128) {text before after : List Char}
    (h : FirstAt [m, m] text before after) :
    FirstAt (bytes [m, m]) (bytes text) (bytes before) (bytes after) := by
  refine ⟨by rw [h.eq, bytes_append, bytes_append], fun front back heq => ?_⟩
  obtain ⟨before', after', htext, rfl, rfl⟩ := exists_of_bytes_pair_eq hm heq
  obtain ⟨more, rfl⟩ : before <+: before' :=
    List.prefix_of_prefix_length_le ⟨_, (List.append_assoc ..).symm.trans h.eq.symm⟩
      ⟨_, (List.append_assoc ..).symm.trans htext.symm⟩ (h.first _ _ htext)
  rw [bytes_append, List.length_append]
  exact Nat.le_add_right _ _

theorem not_infix_bytes {m : Char} (hm : m.val.toNat < 128) {text : List Char}
    (h : ¬ [m, m] <:+: text) : ¬ bytes [m, m] <:+: bytes text := by
  rintro ⟨front, back, heq⟩
  obtain ⟨before, after, htext, -, -⟩ := exists_of_bytes_pair_eq hm heq.symm
  exact h ⟨before, after, htext.symm⟩

/-- The bytes of a template divide as its characters do. -/
theorem Divides.bytes {a b : Char} (ha : a.val.toNat < 128) (hb : b.val.toNat < 128)
    {text : List Char} {pieces : List (Piece Char)} (h : Divides [a, a] [b, b] text pieces) :
    Divides (bytes [a, a]) (bytes [b, b]) (bytes text) (pieces.map (Piece.map bytes)) := by
  induction h with
  | plain hnone => exact .plain (not_infix_bytes ha hnone)
  | unclosed hopen hnone => exact .unclosed (hopen.bytes ha) (not_infix_bytes hb hnone)
  | field hopen hclose _ ih => exact .field (hopen.bytes ha) (hclose.bytes hb) ih

/-! ### Filling -/

def fieldName (inside : List Char) : String := String.ofList (Text.trimList inside)

def Piece.fill (tool : String) (output : Json) : Piece Char → Except RenderFault (List Char)
  | plain text => .ok text
  | field inside =>
    match output.field? (fieldName inside) with
    | some v => .ok (filler v).toList
    | none => .error (.missingField tool (fieldName inside))
  | unclosed _ => .error (.failed ("unterminated placeholder in template for '" ++ tool ++ "'"))

/-- A piece that cannot be filled: a placeholder that is not closed, or that names a field which
the output does not have. -/
def Piece.Faulty (output : Json) : Piece Char → Prop
  | plain _ => False
  | field inside => output.field? (fieldName inside) = none
  | unclosed _ => True

theorem Piece.faulty_iff (tool : String) (output : Json) (piece : Piece Char) :
    piece.Faulty output ↔ ∃ fault, piece.fill tool output = .error fault := by
  cases piece with
  | plain => simp [Faulty, fill]
  | field inside => cases hfield : output.field? (fieldName inside) <;> simp [Faulty, fill, hfield]
  | unclosed => simp [Faulty, fill]

theorem Piece.not_faulty_iff (tool : String) (output : Json) (piece : Piece Char) :
    ¬ piece.Faulty output ↔ ∃ given, piece.fill tool output = .ok given := by
  rw [faulty_iff tool]
  cases piece.fill tool output <;> simp

theorem fill_eq (tool : String) (output : Json) (text : List Char) :
    fill tool output text =
      match splitAt? '\x7b' text with
      | none => .ok text
      | some (before, rest) =>
        match splitAt? '\x7d' rest with
        | none => (Piece.unclosed rest).fill tool output
        | some (inside, after) =>
          match (Piece.field inside).fill tool output with
          | .error fault => .error fault
          | .ok value => (fill tool output after).map fun filled => before ++ value ++ filled := by
  rw [fill]
  split
  case h_1 hopen => rw [hopen]
  case h_2 before rest hopen =>
    simp only [hopen]
    split
    case h_1 hclose =>
      simp only [hclose]
      rfl
    case h_2 inside after hclose =>
      simp only [hclose, Piece.fill, fieldName]
      cases output.field? (String.ofList (Text.trimList inside)) <;> rfl

theorem exists_divides (text : List Char) :
    ∃ pieces, Divides ['\x7b', '\x7b'] ['\x7d', '\x7d'] text pieces ∧
      ∀ tool output,
        fill tool output text = (pieces.mapM (Piece.fill tool output)).map List.flatten := by
  -- the pieces come before the output, so the recursion of filling itself does not give them
  induction hlength : text.length using Nat.strongRecOn generalizing text with
  | ind n ih =>
    cases hopen : splitAt? '\x7b' text with
    | none =>
      refine ⟨_, .plain (splitAt?_eq_none hopen), fun tool output => ?_⟩
      rw [fill_eq, hopen]
      simp [Piece.fill, Except.map, bind, Except.bind, pure, Except.pure]
    | some parts =>
      obtain ⟨before, rest⟩ := parts
      cases hclose : splitAt? '\x7d' rest with
      | none =>
        refine ⟨_, .unclosed (splitAt?_eq_some hopen) (splitAt?_eq_none hclose),
          fun tool output => ?_⟩
        simp [fill_eq, hopen, hclose, Piece.fill, Except.map, bind, Except.bind]
      | some parts =>
        obtain ⟨inside, after⟩ := parts
        have hshorter : after.length < n := by
          have := length_of_splitAt? hopen
          have := length_of_splitAt? hclose
          omega
        obtain ⟨pieces, hdivides, hfill⟩ := ih _ hshorter after rfl
        refine ⟨_, .field (splitAt?_eq_some hopen) (splitAt?_eq_some hclose) hdivides,
          fun tool output => ?_⟩
        rw [fill_eq, hopen]
        simp only [hclose, hfill, List.mapM_cons]
        cases (Piece.field inside).fill tool output with
        | error fault => rfl
        | ok value =>
          cases pieces.mapM (Piece.fill tool output) with
          | error fault => rfl
          | ok filled => exact congrArg Except.ok (List.append_assoc before value filled.flatten)

/-- **A template is filled in one pass.** A template divides in one way into pieces, whatever is
filled in, and its bytes divide into the bytes of these pieces. Filling puts together what each
piece gives. It succeeds exactly if no piece is faulty, and otherwise fails as the first faulty
piece does; a template without a placeholder gives itself. -/
theorem exists_pieces (text : List Char) :
    ∃ pieces : List (Piece Char),
      (∀ others, Divides ['\x7b', '\x7b'] ['\x7d', '\x7d'] text others ↔ others = pieces) ∧
      (∀ others, Divides [0x7B, 0x7B] [0x7D, 0x7D] (bytes text) others ↔
        others = pieces.map (Piece.map bytes)) ∧
      (∀ inside, .field inside ∈ pieces → Text.Trims inside (fieldName inside).toList) ∧
      ∀ tool output,
        fill tool output text = (pieces.mapM (Piece.fill tool output)).map List.flatten ∧
        ((∃ filled, fill tool output text = .ok filled) ↔
          ∀ piece ∈ pieces, ¬ piece.Faulty output) ∧
        (∀ fault, fill tool output text = .error fault ↔
          ∃ piece, IsFirst (Piece.Faulty output) pieces piece ∧
            piece.fill tool output = .error fault) ∧
        (¬ ['\x7b', '\x7b'] <:+: text → fill tool output text = .ok text) := by
  obtain ⟨pieces, hdivides, hfill⟩ := exists_divides text
  have hbytes := hdivides.bytes (by decide) (by decide)
  refine ⟨pieces, hdivides.iff_eq, hbytes.iff_eq, fun inside _ => ?_,
    fun tool output => ⟨hfill tool output, ?_, fun fault => ?_, fun hnone => ?_⟩⟩
  · rw [fieldName, String.toList_ofList]
    exact Text.trims_trimList inside
  · rw [hfill]
    simp only [Piece.not_faulty_iff tool, ← exists_mapM_eq_ok_iff]
    cases pieces.mapM (Piece.fill tool output) <;> simp [Except.map]
  · have hfaulty : Piece.Faulty output = fun piece => ∃ e, piece.fill tool output = .error e :=
      funext fun piece => propext (Piece.faulty_iff tool output piece)
    rw [hfill, map_eq_error_iff, mapM_eq_error_iff, hfaulty]
  · rw [hfill, hdivides.unique (.plain hnone)]
    exact congrArg Except.ok (List.append_nil text)

end Template

end StagedFlow
