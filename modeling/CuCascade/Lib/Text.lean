import Mathlib.Data.List.Basic
import Mathlib.Data.List.TakeWhile
import Mathlib.Data.Nat.Digits.Defs

/-!
# Texts: lines, numerals, integers

A text is a list of characters. Three things are done with texts here: cutting
them at a delimiter as `getline` does, reading digits in a base, and reading an
integer as `stoi` does, white space, sign and trailing characters included.

Writing and reading cancel: joined tokens are cut back into the tokens, and the
decimal numeral of a number is read back as the number. In the other direction
a numeral is determined by its width and its value up to the case of its
letters, and cutting it off on the left takes the value modulo a power of the
base.
-/

namespace Text

/-! ## Lines -/

/-- The lines `getline` gives until the text is used up. The delimiter is
dropped, and a text that ends with it has no empty last line. -/
def getlines (delim : Char) : List Char → List (List Char)
  | [] => []
  | c :: cs =>
      if c = delim then [] :: getlines delim cs
      else
        match getlines delim cs with
        | [] => [[c]]
        | token :: tokens => (c :: token) :: tokens

section

variable {delim : Char} {token cs : List Char}

theorem getlines_append_delim (h : delim ∉ token) :
    getlines delim (token ++ delim :: cs) = token :: getlines delim cs := by
  induction token with
  | nil => simp [getlines]
  | cons c token ih =>
      have hc : c ≠ delim := fun heq => h (heq ▸ List.mem_cons_self)
      rw [List.cons_append, getlines, if_neg hc,
        ih fun hmem => h (List.mem_cons_of_mem c hmem)]

theorem getlines_token (hne : token ≠ []) (h : delim ∉ token) :
    getlines delim token = [token] := by
  induction token with
  | nil => exact absurd rfl hne
  | cons c token ih =>
      have hc : c ≠ delim := fun heq => h (heq ▸ List.mem_cons_self)
      cases token with
      | nil => simp [getlines, hc]
      | cons d token =>
          rw [getlines, if_neg hc, ih (List.cons_ne_nil d token)
            fun hmem => h (List.mem_cons_of_mem c hmem)]

/-- Joined tokens are cut back into the tokens. -/
theorem getlines_intercalate {tokens : List (List Char)}
    (hne : ∀ token ∈ tokens, token ≠ []) (h : ∀ token ∈ tokens, delim ∉ token) :
    getlines delim ([delim].intercalate tokens) = tokens := by
  induction tokens with
  | nil => rfl
  | cons token tokens ih =>
      have hfirst := h token List.mem_cons_self
      cases tokens with
      | nil =>
          rw [List.intercalate_singleton]
          exact getlines_token (hne token List.mem_cons_self) hfirst
      | cons next tokens =>
          rw [List.intercalate_cons_cons, List.append_assoc, List.singleton_append,
            getlines_append_delim hfirst,
            ih (fun t ht => hne t (List.mem_cons_of_mem token ht))
              fun t ht => h t (List.mem_cons_of_mem token ht)]

end

/-- Where a character that stands behind a text without it is found. -/
theorem idxOf_append_cons {c : Char} {before : List Char} (h : c ∉ before)
    (after : List Char) : (before ++ c :: after).idxOf c = before.length := by
  rw [List.idxOf_append, if_neg h, List.idxOf_cons_self, Nat.zero_add]

theorem append_cons_inj {c : Char} {xs ys as bs : List Char} (hxs : c ∉ xs) (hys : c ∉ ys) :
    xs ++ c :: as = ys ++ c :: bs ↔ xs = ys ∧ as = bs := by
  constructor
  · intro h
    have hlen : xs.length = ys.length := by
      rw [← idxOf_append_cons hxs as, h, idxOf_append_cons hys]
    obtain ⟨hbefore, hafter⟩ := List.append_inj h hlen
    exact ⟨hbefore, (List.cons.inj hafter).2⟩
  · rintro ⟨rfl, rfl⟩
    rfl

/-! ## Classes of characters -/

theorem isDigit_iff (c : Char) : c.isDigit ↔ 48 ≤ c.toNat ∧ c.toNat ≤ 57 := by
  show (decide ('0'.val ≤ c.val) && decide (c.val ≤ '9'.val)) = true ↔ _
  rw [Bool.and_eq_true, decide_eq_true_iff, decide_eq_true_iff]
  exact and_congr UInt32.le_iff_toNat_le UInt32.le_iff_toNat_le

theorem isLower_iff (c : Char) : c.isLower ↔ 97 ≤ c.toNat ∧ c.toNat ≤ 122 := by
  show (decide ('a'.val ≤ c.val) && decide (c.val ≤ 'z'.val)) = true ↔ _
  rw [Bool.and_eq_true, decide_eq_true_iff, decide_eq_true_iff]
  exact and_congr UInt32.le_iff_toNat_le UInt32.le_iff_toNat_le

theorem isUpper_iff (c : Char) : c.isUpper ↔ 65 ≤ c.toNat ∧ c.toNat ≤ 90 := by
  show decide ('A'.val ≤ c.val ∧ c.val ≤ 'Z'.val) = true ↔ _
  rw [decide_eq_true_iff]
  exact and_congr UInt32.le_iff_toNat_le UInt32.le_iff_toNat_le

/-! ## Numerals -/

/-- The value of a digit, the letters counting from ten on; 36 for a character
that is a digit in no base. -/
def digit (c : Char) : Nat :=
  if c.isDigit then c.toNat - '0'.toNat
  else if c.isLower then c.toNat - 'a'.toNat + 10
  else if c.isUpper then c.toNat - 'A'.toNat + 10
  else 36

/-- The number a text of digits stands for. -/
def value (base : Nat) (cs : List Char) : Nat :=
  cs.foldl (fun n c => base * n + digit c) 0

section

variable {base : Nat} {cs ds : List Char}

theorem value_eq_ofDigits (base : Nat) (cs : List Char) :
    value base cs = Nat.ofDigits base (cs.reverse.map digit) := by
  rw [Nat.ofDigits_eq_foldr, List.foldr_map, List.foldr_reverse, value]
  simp only [Nat.cast_id, Nat.add_comm]

theorem value_append (base : Nat) (cs ds : List Char) :
    value base (cs ++ ds) = value base ds + base ^ ds.length * value base cs := by
  simp only [value_eq_ofDigits, List.reverse_append, List.map_append,
    Nat.ofDigits_append, List.length_map, List.length_reverse]

theorem value_lt (hbase : 1 < base) (h : ∀ c ∈ cs, digit c < base) :
    value base cs < base ^ cs.length := by
  have hlt := Nat.ofDigits_lt_base_pow_length (l := cs.reverse.map digit) hbase
    (by simpa using h)
  rwa [List.length_map, List.length_reverse, ← value_eq_ofDigits] at hlt

/-- A numeral cut off on the left has the value modulo a power of the base. -/
theorem value_drop (hbase : 1 < base) (h : ∀ c ∈ cs, digit c < base) (k : Nat) :
    value base (cs.drop (cs.length - k)) = value base cs % base ^ k := by
  by_cases hk : k ≤ cs.length
  · have hlen : (cs.drop (cs.length - k)).length = k := by
      rw [List.length_drop]
      omega
    have hlt := value_lt hbase fun c hc =>
      h c (List.mem_of_mem_drop (i := cs.length - k) hc)
    conv_rhs => rw [← List.take_append_drop (cs.length - k) cs, value_append, hlen]
    rw [hlen] at hlt
    rw [Nat.add_mul_mod_self_left, Nat.mod_eq_of_lt hlt]
  · have hshort : cs.length - k = 0 := by omega
    have hpow : base ^ cs.length ≤ base ^ k :=
      Nat.pow_le_pow_right (by omega) (by omega)
    rw [hshort, List.drop_zero, Nat.mod_eq_of_lt (lt_of_lt_of_le (value_lt hbase h) hpow)]

/-- At one width a number has one sequence of digits. -/
theorem map_digit_inj (hbase : 1 < base) (hcs : ∀ c ∈ cs, digit c < base)
    (hds : ∀ d ∈ ds, digit d < base) (hlen : cs.length = ds.length) :
    value base cs = value base ds ↔ cs.map digit = ds.map digit := by
  rw [value_eq_ofDigits, value_eq_ofDigits]
  constructor
  · intro h
    have hdigits := Nat.ofDigits_inj_of_len_eq hbase (by simp [hlen]) (by simpa using hcs)
      (by simpa using hds) h
    simpa only [List.map_reverse, List.reverse_inj] using hdigits
  · intro h
    rw [List.map_reverse, List.map_reverse, h]

end

/-! ## Lower case -/

theorem toNat_lt_of_digit {c : Char} (h : digit c < 36) : c.toNat < 128 := by
  unfold digit at h
  split at h
  · rename_i hdigit
    have hc := (isDigit_iff c).mp hdigit
    omega
  · split at h
    · rename_i hlower
      have hc := (isLower_iff c).mp hlower
      omega
    · split at h
      · rename_i hupper
        have hc := (isUpper_iff c).mp hupper
        omega
      · exact absurd h (by omega)

theorem toLower_of_not_isUpper {c : Char} (h : c.isUpper = false) : c.toLower = c := by
  refine dif_neg fun hupper => ?_
  rw [show c.isUpper = true from decide_eq_true hupper] at h
  cases h

/-- What `toLower` changes are letters, and it makes letters of them. -/
theorem toLower_of_isUpper {c : Char} (h : c.isUpper) :
    c.toLower.isUpper = false ∧ c.toLower.isLower := by
  have hall : ∀ n < 128, (Char.ofNat n).isUpper →
      (Char.ofNat n).toLower.isUpper = false ∧ (Char.ofNat n).toLower.isLower := by decide
  have hlt : c.toNat < 128 := by
    have hc := (isUpper_iff c).mp h
    omega
  have hc := hall c.toNat hlt
  rw [Char.ofNat_toNat] at hc
  exact hc h

@[simp] theorem toLower_toLower (c : Char) : c.toLower.toLower = c.toLower := by
  cases h : c.isUpper with
  | false => rw [toLower_of_not_isUpper h, toLower_of_not_isUpper h]
  | true => exact toLower_of_not_isUpper (toLower_of_isUpper h).1

/-- A character that is no letter comes from itself only. -/
theorem toLower_eq_iff {c d : Char} (hlower : d.isLower = false) (hupper : d.isUpper = false) :
    c.toLower = d ↔ c = d := by
  cases h : c.isUpper with
  | false => rw [toLower_of_not_isUpper h]
  | true =>
      refine iff_of_false ?_ ?_
      · rintro rfl
        rw [(toLower_of_isUpper h).2] at hlower
        cases hlower
      · rintro rfl
        rw [h] at hupper
        cases hupper

theorem mem_map_toLower_iff {d : Char} {cs : List Char} (hlower : d.isLower = false)
    (hupper : d.isUpper = false) : d ∈ cs.map Char.toLower ↔ d ∈ cs := by
  simp [toLower_eq_iff hlower hupper]

/-! ## Hexadecimal digits -/

/-- In lower case a hexadecimal digit is determined by its value. -/
theorem toLower_of_hex {c : Char} (h : digit c < 16) :
    c.toLower = Nat.digitChar (digit c) := by
  have hall : ∀ n < 128, digit (Char.ofNat n) < 16 →
      (Char.ofNat n).toLower = Nat.digitChar (digit (Char.ofNat n)) := by decide
  have hc := hall c.toNat (toNat_lt_of_digit (by omega))
  rw [Char.ofNat_toNat] at hc
  exact hc h

theorem digit_toLower {c : Char} (h : digit c < 16) : digit c.toLower = digit c := by
  have hall : ∀ n < 16, digit (Nat.digitChar n) = n := by decide
  rw [toLower_of_hex h]
  exact hall (digit c) h

/-- Two hexadecimal numerals are the same up to the case of their letters
exactly if they have the same width and the same value. -/
theorem map_toLower_inj {cs ds : List Char} (hcs : ∀ c ∈ cs, digit c < 16)
    (hds : ∀ d ∈ ds, digit d < 16) :
    cs.map Char.toLower = ds.map Char.toLower ↔
      cs.length = ds.length ∧ value 16 cs = value 16 ds := by
  have hlower : ∀ es : List Char, (∀ e ∈ es, digit e < 16) →
      es.map Char.toLower = (es.map digit).map Nat.digitChar := by
    intro es hes
    rw [List.map_map]
    exact List.map_congr_left fun e he => toLower_of_hex (hes e he)
  have hdigit : ∀ es : List Char, (∀ e ∈ es, digit e < 16) →
      es.map digit = (es.map Char.toLower).map digit := by
    intro es hes
    rw [List.map_map]
    exact List.map_congr_left fun e he => (digit_toLower (hes e he)).symm
  constructor
  · intro h
    have hlen : cs.length = ds.length := by simpa using congrArg List.length h
    refine ⟨hlen, (map_digit_inj (by decide) hcs hds hlen).mpr ?_⟩
    rw [hdigit cs hcs, hdigit ds hds, h]
  · rintro ⟨hlen, hvalue⟩
    rw [hlower cs hcs, hlower ds hds, (map_digit_inj (by decide) hcs hds hlen).mp hvalue]

/-- A hexadecimal numeral in any letter case. -/
structure HexNumeral where
  digits : List Char
  hex : ∀ c ∈ digits, digit c < 16
  nonempty : digits ≠ []

namespace HexNumeral

theorem hex_of_all {cs : List Char} (h : cs.all fun c => digit c < 16) :
    ∀ c ∈ cs, digit c < 16 := by
  simpa using h

variable {m n : HexNumeral}

def width (n : HexNumeral) : Nat := n.digits.length

def value (n : HexNumeral) : Nat := Text.value 16 n.digits

/-- The last `k` digits in lower case. -/
def lowerLast (k : Nat) (n : HexNumeral) : List Char :=
  (n.digits.drop (n.width - k)).map Char.toLower

/-- The numeral in lower case. -/
def lower (n : HexNumeral) : List Char := n.digits.map Char.toLower

theorem value_lt (n : HexNumeral) : n.value < 16 ^ n.width :=
  Text.value_lt (by decide) n.hex

theorem length_lowerLast (k : Nat) (n : HexNumeral) :
    (n.lowerLast k).length = min k n.width := by
  rw [lowerLast, List.length_map, List.length_drop]
  show n.width - (n.width - k) = min k n.width
  omega

theorem lower_inj : m.lower = n.lower ↔ m.width = n.width ∧ m.value = n.value :=
  map_toLower_inj m.hex n.hex

theorem lowerLast_inj (k : Nat) : m.lowerLast k = n.lowerLast k ↔
    min k m.width = min k n.width ∧ m.value % 16 ^ k = n.value % 16 ^ k := by
  rw [← length_lowerLast, ← length_lowerLast, lowerLast, lowerLast, List.length_map,
    List.length_map, map_toLower_inj (fun c hc => m.hex c (List.mem_of_mem_drop hc))
      fun c hc => n.hex c (List.mem_of_mem_drop hc)]
  exact and_congr_right fun _ => by
    rw [width, width, value_drop (by decide) m.hex, value_drop (by decide) n.hex]
    rfl

/-- What is not a hexadecimal digit does not occur in a numeral. -/
theorem notMem_digits {c : Char} (hc : 16 ≤ digit c) (n : HexNumeral) : c ∉ n.digits :=
  fun hmem => absurd (n.hex c hmem) (Nat.not_lt.mpr hc)

theorem notMem_lower {c : Char} (hc : 16 ≤ digit c) (hlower : c.isLower = false)
    (hupper : c.isUpper = false) (n : HexNumeral) : c ∉ n.lower := by
  rw [lower, mem_map_toLower_iff hlower hupper]
  exact n.notMem_digits hc

theorem notMem_lowerLast {c : Char} (hc : 16 ≤ digit c) (hlower : c.isLower = false)
    (hupper : c.isUpper = false) (k : Nat) (n : HexNumeral) : c ∉ n.lowerLast k := by
  rw [lowerLast, mem_map_toLower_iff hlower hupper]
  exact fun hmem => n.notMem_digits hc (List.mem_of_mem_drop hmem)

end HexNumeral

/-! ## Decimal numerals -/

theorem digit_of_isDigit {c : Char} (h : c.isDigit) : digit c = c.toNat - '0'.toNat :=
  if_pos h

theorem digit_lt_ten {c : Char} (h : c.isDigit) : digit c < 10 := by
  rw [digit_of_isDigit h]
  have hc := (isDigit_iff c).mp h
  show c.toNat - 48 < 10
  omega

theorem value_eq_ofDigitChars {cs : List Char} (h : ∀ c ∈ cs, c.isDigit) :
    value 10 cs = Nat.ofDigitChars 10 cs 0 := by
  rw [Nat.ofDigitChars_eq_foldl, value]
  refine List.foldl_ext _ _ _ fun n c hc => ?_
  rw [digit_of_isDigit (h c hc)]

theorem isDigit_toDigits (n : Nat) : ∀ c ∈ Nat.toDigits 10 n, c.isDigit := by
  intro c hc
  exact Nat.isDigit_of_mem_toDigits (by decide) (by decide) hc

/-- The decimal numeral of a number has the number as its value. -/
theorem value_toDigits (n : Nat) : value 10 (Nat.toDigits 10 n) = n := by
  rw [value_eq_ofDigitChars (isDigit_toDigits n), Nat.ofDigitChars_ten_toDigits]

/-! ## Integers -/

/-- What `stoi` throws: no conversion could be made, or the number is not an
`int`. -/
inductive StoiError where
  | invalidArgument | outOfRange
deriving DecidableEq, Repr

/-- `isspace`. -/
def isSpace (c : Char) : Bool := c = ' ' || ('\t' ≤ c && c ≤ '\r')

/-- The sign of an integer, and what follows it. -/
def splitSign : List Char → Int × List Char
  | '-' :: cs => (-1, cs)
  | '+' :: cs => (1, cs)
  | cs => (1, cs)

/-- In base 16 the digits may be announced. -/
def skipHexPrefix (base : Nat) (cs : List Char) : List Char :=
  if base = 16 ∧ (cs.take 2 = ['0', 'x'] ∨ cs.take 2 = ['0', 'X']) ∧
      (cs.drop 2).head?.any (fun c => digit c < 16) then
    cs.drop 2
  else cs

/-- `std::stoi` to an `int` of 32 bits. It reads as many digits as there are
and ignores what follows them. -/
def stoi (base : Nat) (cs : List Char) : Except StoiError Int :=
  let (sign, cs) := splitSign (cs.dropWhile isSpace)
  let digits := (skipHexPrefix base cs).takeWhile fun c => digit c < base
  if digits = [] then .error .invalidArgument
  else
    let n := sign * value base digits
    if -2 ^ 31 ≤ n ∧ n < 2 ^ 31 then .ok n else .error .outOfRange

theorem isSpace_of_isDigit {c : Char} (h : c.isDigit) : isSpace c = false := by
  have hall : ∀ n < 128, (Char.ofNat n).isDigit → isSpace (Char.ofNat n) = false := by
    decide
  have hlt := digit_lt_ten h
  have hc := hall c.toNat (toNat_lt_of_digit (by omega))
  rw [Char.ofNat_toNat] at hc
  exact hc h

theorem splitSign_of_isDigit {c : Char} {cs : List Char} (h : c.isDigit) :
    splitSign (c :: cs) = (1, c :: cs) := by
  unfold splitSign
  split
  · rename_i heq
    cases heq
    exact absurd h (by decide)
  · rename_i heq
    cases heq
    exact absurd h (by decide)
  · rfl

/-- A decimal numeral within the range is read as its value. -/
theorem stoi_decimal {cs : List Char} (hne : cs ≠ []) (h : ∀ c ∈ cs, c.isDigit)
    (hlt : value 10 cs < 2 ^ 31) : stoi 10 cs = .ok (value 10 cs) := by
  have hspace : cs.dropWhile isSpace = cs := by
    cases cs with
    | nil => rfl
    | cons c cs =>
        rw [List.dropWhile_cons_of_neg]
        simp [isSpace_of_isDigit (h c List.mem_cons_self)]
  have hsign : splitSign cs = (1, cs) := by
    cases cs with
    | nil => rfl
    | cons c cs => exact splitSign_of_isDigit (h c List.mem_cons_self)
  have hdigits : cs.takeWhile (fun c => digit c < 10) = cs := by
    rw [List.takeWhile_eq_self_iff]
    intro c hc
    simpa using digit_lt_ten (h c hc)
  have hrange : (-2 ^ 31 : Int) ≤ value 10 cs ∧ (value 10 cs : Int) < 2 ^ 31 := by omega
  simp only [stoi, hspace, hsign, skipHexPrefix, Nat.reduceEqDiff, false_and, if_false,
    hdigits, if_neg hne, Int.one_mul, if_pos hrange]

/-- Reading an integer undoes writing it. -/
theorem stoi_toDigits {n : Nat} (h : n < 2 ^ 31) : stoi 10 (Nat.toDigits 10 n) = .ok n := by
  have hread := stoi_decimal Nat.toDigits_ne_nil (isDigit_toDigits n)
    ((value_toDigits n).symm ▸ h)
  rwa [value_toDigits] at hread

/-- A decimal numeral contains no character that is not a digit. -/
theorem notMem_toDigits {c : Char} (hc : c.isDigit = false) (n : Nat) :
    c ∉ Nat.toDigits 10 n := by
  intro hmem
  rw [isDigit_toDigits n c hmem] at hc
  cases hc

end Text
