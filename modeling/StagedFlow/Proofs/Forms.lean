import Mathlib.Data.List.TakeWhile
import StagedFlow.Url.Basic

/-!
# Forms are read back

What is form-encoded is decoded to the bytes it was made from, whatever the text: the characters
that forms are put together with stand for themselves only where they are not part of a text. So the
pairs of a query that pairs were appended to are its own pairs and then these.
-/

namespace StagedFlow.Form

/-- The characters that forms are put together with, and those that part a form from a link. -/
def isMark (c : Char) : Bool := "&=#?".toList.contains c

/-- What stands for itself is read as it is, and is neither a percent sign nor a mark. -/
theorem isPlain_cases : ∀ n < 256, isPlain (UInt8.ofNat n) = true →
    plainBytes (Char.ofNat n) = [UInt8.ofNat n] ∧ Char.ofNat n ≠ '%' ∧
      isMark (Char.ofNat n) = false := by
  decide +kernel

theorem isMark_upperHexDigit : ∀ n < 16, isMark (Text.upperHexDigit n) = false := by
  decide

theorem isMark_of_mem_percent {b : UInt8} {c : Char} (h : c ∈ percent b) : isMark c = false := by
  have hb : b.toNat < 256 := b.toNat_lt
  simp only [percent, List.mem_cons, List.not_mem_nil, or_false] at h
  obtain rfl | rfl | rfl := h
  · rfl
  · exact isMark_upperHexDigit _ (by omega)
  · exact isMark_upperHexDigit _ (by omega)

theorem isMark_of_mem_encodeByte {b : UInt8} {c : Char} (h : c ∈ encodeByte b) :
    isMark c = false := by
  rw [encodeByte] at h
  split at h
  case isTrue hplain =>
    cases List.mem_singleton.mp h
    exact (isPlain_cases b.toNat b.toNat_lt (by rwa [UInt8.ofNat_toNat])).2.2
  case isFalse =>
    split at h
    case isTrue =>
      cases List.mem_singleton.mp h
      rfl
    case isFalse => exact isMark_of_mem_percent h

/-- No mark is left in an encoded text. -/
theorem isMark_of_mem_encode {s : String} {c : Char} (h : c ∈ encode s) : isMark c = false := by
  obtain ⟨b, -, hc⟩ := List.mem_flatMap.mp h
  exact isMark_of_mem_encodeByte hc

theorem decodeBytes_cons_of_ne {c : Char} (h : c ≠ '%') (rest : List Char) :
    decodeBytes (c :: rest) = plainBytes c ++ decodeBytes rest := by
  rw [decodeBytes]
  exact fun a b more hc _ => h hc

theorem decodeBytes_percent (b : UInt8) (rest : List Char) :
    decodeBytes (percent b ++ rest) = b :: decodeBytes rest := by
  have hb : b.toNat < 256 := b.toNat_lt
  have hhigh := Text.hexValue?_upperHexDigit (b.toNat / 16) (by omega)
  have hlow := Text.hexValue?_upperHexDigit (b.toNat % 16) (by omega)
  have hvalue : b.toNat / 16 * 16 + b.toNat % 16 = b.toNat := Nat.div_add_mod' _ _
  change decodeBytes ('%' :: _ :: _ :: rest) = _
  rw [decodeBytes, hhigh, hlow]
  simp only [hvalue, UInt8.ofNat_toNat]

/-- What is written for a byte is read as this byte. -/
theorem decodeBytes_encodeByte (b : UInt8) (rest : List Char) :
    decodeBytes (encodeByte b ++ rest) = b :: decodeBytes rest := by
  rw [encodeByte]
  split
  case isTrue hplain =>
    obtain ⟨hbytes, hpercent, -⟩ :=
      isPlain_cases b.toNat b.toNat_lt (by rwa [UInt8.ofNat_toNat])
    rw [List.singleton_append, decodeBytes_cons_of_ne hpercent, hbytes, UInt8.ofNat_toNat]
    rfl
  case isFalse =>
    split
    case isTrue hspace =>
      cases eq_of_beq hspace
      exact decodeBytes_cons_of_ne (by decide) rest
    case isFalse => exact decodeBytes_percent b rest

theorem decodeBytes_encode (s : String) : decodeBytes (encode s) = bytes s := by
  rw [encode]
  induction bytes s with
  | nil => rfl
  | cons b rest ih => rw [List.flatMap_cons, decodeBytes_encodeByte, ih]

def text? (bs : List UInt8) : Option String := String.fromUTF8? ⟨bs.toArray⟩

theorem text?_bytes (s : String) : text? (bytes s) = some s :=
  dif_pos s.isValidUTF8

/-! ### Pairs -/

theorem split_ne_nil (separator : Char) (cs : List Char) : split separator cs ≠ [] := by
  cases cs with
  | nil => exact nofun
  | cons c rest =>
    rw [split]
    split
    · exact nofun
    · split <;> exact nofun

/-- A text is split at a separator into what the two sides of it are split into. -/
theorem split_append_cons (separator : Char) (front back : List Char) :
    split separator (front ++ separator :: back) =
      split separator front ++ split separator back := by
  induction front with
  | nil =>
    rw [List.nil_append, split, split]
    cases hback : split separator back with
    | nil => exact absurd hback (split_ne_nil separator back)
    | cons piece more => exact if_pos rfl
  | cons c front ih =>
    rw [List.cons_append, split, split, ih]
    cases hfront : split separator front with
    | nil => exact absurd hfront (split_ne_nil separator front)
    | cons piece more =>
      dsimp only [List.cons_append]
      split <;> rfl

theorem split_of_notMem {separator : Char} {cs : List Char} (h : separator ∉ cs) :
    split separator cs = [cs] := by
  induction cs with
  | nil => rfl
  | cons c rest ih =>
    obtain ⟨hhead, hrest⟩ : separator ≠ c ∧ separator ∉ rest := by simpa using h
    rw [split, ih hrest]
    exact if_neg hhead.symm

def pairBytes (piece : List Char) : List UInt8 × List UInt8 :=
  (decodeBytes (piece.takeWhile (· != '=')), decodeBytes ((piece.dropWhile (· != '=')).drop 1))

def pairsBytes (query : List Char) : List (List UInt8 × List UInt8) :=
  ((split '&' query).filter fun piece => !piece.isEmpty).map pairBytes

/-- The pairs of a query are read from their bytes. -/
theorem pairs_eq (query : List Char) :
    pairs query = (pairsBytes query).map (Prod.map text? text?) := by
  rw [pairs, pairsBytes, List.map_map]
  rfl

theorem pairBytes_encodePair (name value : String) :
    pairBytes (encodePair name value) = (bytes name, bytes value) := by
  have hname : ∀ c ∈ encode name, (c != '=') = true := by
    intro c hc
    have hmark := isMark_of_mem_encode hc
    refine bne_iff_ne.mpr fun heq => ?_
    rw [heq] at hmark
    cases hmark
  rw [pairBytes, encodePair, List.takeWhile_append_of_pos hname,
    List.dropWhile_append_of_pos hname, List.takeWhile_cons_of_neg (by simp), List.append_nil,
    List.dropWhile_cons_of_neg (by simp), List.drop_one, List.tail_cons, decodeBytes_encode,
    decodeBytes_encode]

/-- Of the marks a pair holds only the sign between its name and its value. -/
theorem notMem_encodePair {c : Char} (hmark : isMark c = true) (hne : c ≠ '=')
    (name value : String) : c ∉ encodePair name value := by
  have hencode : ∀ s, c ∉ encode s := fun s hs => by
    rw [isMark_of_mem_encode hs] at hmark
    cases hmark
  rw [encodePair, List.mem_append, List.mem_cons]
  rintro (hname | heq | hvalue)
  · exact hencode name hname
  · exact hne heq
  · exact hencode value hvalue

/-- A pair that is appended comes behind the pairs of the query. -/
theorem pairsBytes_append (query : List Char) (name value : String) :
    pairsBytes (append query name value) = pairsBytes query ++ [(bytes name, bytes value)] := by
  have hpiece : pairsBytes (encodePair name value) = [(bytes name, bytes value)] := by
    have hfull : (encodePair name value).isEmpty = false := by
      rw [encodePair]
      cases encode name <;> rfl
    rw [pairsBytes, split_of_notMem (notMem_encodePair (by decide) (by decide) name value),
      List.filter_cons_of_pos (by rw [hfull]; rfl)]
    exact congrArg (fun pair => [pair]) (pairBytes_encodePair name value)
  rw [append]
  cases query with
  | nil => exact hpiece
  | cons c rest =>
    change pairsBytes ((c :: rest) ++ '&' :: encodePair name value) = _
    rw [← hpiece, pairsBytes, pairsBytes, pairsBytes, split_append_cons, List.filter_append,
      List.map_append]

theorem pairs_append (query : List Char) (name value : String) :
    pairs (append query name value) = pairs query ++ [(some name, some value)] := by
  rw [pairs_eq, pairsBytes_append, List.map_append, ← pairs_eq, List.map_singleton, Prod.map_apply,
    text?_bytes, text?_bytes]

end StagedFlow.Form
