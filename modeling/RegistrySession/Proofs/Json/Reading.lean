import Mathlib.Tactic.SplitIfs
import RegistrySession.Json.Reader
import RegistrySession.Json.Printer

/-!
# Reading what was written

The text of a value is read into the tree of that value, whatever follows it.  Each part of the
writer is set against the part of the reader that takes it: an escape against what follows a
backslash, digits against the literal that they spell, and a value against the reader of values,
by induction on the value.  Numbers have to be whole, since a binary fraction need not be read as
the number that was written.
-/

namespace RegistrySession.Json

/-! ## Values without fractions -/

mutual

def allWhole : Json → Bool
  | .number (.real _) => false
  | .array items => allWholeItems items
  | .object members => allWholeMembers members
  | _ => true
termination_by structural value => value

def allWholeItems : List Json → Bool
  | [] => true
  | item :: rest => item.allWhole && allWholeItems rest
termination_by structural items => items

def allWholeMembers : List (String × Json) → Bool
  | [] => true
  | (_, value) :: rest => value.allWhole && allWholeMembers rest
termination_by structural members => members

end

namespace Reader

/-! ## Texts -/

theorem fourDigits_hexDigit {n : Nat} (h : n < 0x20) (rest : List Char) :
    fourDigits ('0' :: '0' :: hexDigit (n / 16) :: hexDigit n :: rest) = .ok n := by
  have hall : ∀ code : Fin 0x20,
      let digits := ['0', '0', hexDigit (code.val / 16), hexDigit code.val]
      ¬ (String.ofList digits).utf8ByteSize < 4 ∧ hexNumber? digits = some code.val := by
    decide
  obtain ⟨hsize, hvalue⟩ := hall ⟨n, h⟩
  have htaken : ('0' :: '0' :: hexDigit (n / 16) :: hexDigit n :: rest).take 4 =
      ['0', '0', hexDigit (n / 16), hexDigit n] := rfl
  simp only [fourDigits, htaken, if_neg hsize, hvalue]
  rfl

/-- An escape of a single letter. -/
theorem escaped_of_shortEscape? {letter c : Char} (h : shortEscape? letter = some c)
    (rest : List Char) :
    escaped ([letter] ++ rest) = .ok (c, [letter].length) ∧
      escapeLength ([letter] ++ rest) = .ok [letter].length := by
  have hne : letter ≠ 'u' := by
    rintro rfl
    simp [shortEscape?] at h
  rw [List.singleton_append, List.length_singleton]
  constructor
  · rw [escaped, h]
    exact fun hletter => hne hletter
  · rw [escapeLength, h]
    · rfl
    · exact fun hletter => hne hletter

/-- A character stands for itself, or is written as a backslash and letters that mean it. -/
theorem escape_cases (c : Char) :
    (escape c = [c] ∧ c ≠ '"' ∧ c ≠ '\\' ∧ 0x20 ≤ c.toNat) ∨
      ∃ letters, escape c = '\\' :: letters ∧ ∀ rest,
        escaped (letters ++ rest) = .ok (c, letters.length) ∧
          escapeLength (letters ++ rest) = .ok letters.length := by
  unfold escape
  split_ifs with hquote hslash hback hfeed hline hreturn htab hcontrol
  · exact .inr ⟨['"'], rfl, escaped_of_shortEscape? (by rw [hquote]; rfl)⟩
  · exact .inr ⟨['\\'], rfl, escaped_of_shortEscape? (by rw [hslash]; rfl)⟩
  · exact .inr ⟨['b'], rfl, escaped_of_shortEscape? (by rw [hback]; rfl)⟩
  · exact .inr ⟨['f'], rfl, escaped_of_shortEscape? (by rw [hfeed]; rfl)⟩
  · exact .inr ⟨['n'], rfl, escaped_of_shortEscape? (by rw [hline]; rfl)⟩
  · exact .inr ⟨['r'], rfl, escaped_of_shortEscape? (by rw [hreturn]; rfl)⟩
  · exact .inr ⟨['t'], rfl, escaped_of_shortEscape? (by rw [htab]; rfl)⟩
  · refine .inr ⟨_, rfl, fun rest => ?_⟩
    have hdigits := fourDigits_hexDigit hcontrol rest
    have hlow : isLowSurrogate c.toNat = false := by simp [isLowSurrogate]; omega
    have hhigh : isHighSurrogate c.toNat = false := by simp [isHighSurrogate]; omega
    constructor
    · simp [escaped, hdigits, hlow, hhigh, bind, Except.bind, Char.ofNat_toNat]
    · simp [escapeLength, hdigits, bind, Except.bind, pure, Except.pure]
  · exact .inl ⟨rfl, hquote, hslash, Nat.le_of_not_lt hcontrol⟩

/-- The letters of an escape are skipped once it was taken. -/
theorem textChars_skip (letters rest : List Char) :
    textChars letters.length (letters ++ rest) = textChars 0 rest := by
  induction letters with
  | nil => rfl
  | cons letter letters ih =>
    rw [List.length_cons, List.cons_append, textChars]
    exact ih

theorem afterText_skip (letters rest : List Char) :
    afterText letters.length (letters ++ rest) = afterText 0 rest := by
  induction letters with
  | nil => rfl
  | cons letter letters ih =>
    rw [List.length_cons, List.cons_append, afterText]
    exact ih

/-- Whatever stands for a character is read as that character. -/
theorem textChars_escape (c : Char) (rest : List Char) :
    textChars 0 (escape c ++ rest) = (textChars 0 rest).map (c :: ·) := by
  obtain ⟨hplain, hquote, hslash, hvisible⟩ | ⟨letters, hletters, hmeant⟩ := escape_cases c
  · rw [hplain, List.singleton_append, textChars, if_neg (Nat.not_lt.2 hvisible)]
    · cases textChars 0 rest <;> rfl
    · exact hquote
    · exact hslash
  · rw [hletters, List.cons_append, textChars, (hmeant rest).1]
    change (textChars letters.length (letters ++ rest) >>= _) = _
    rw [textChars_skip]
    cases textChars 0 rest <;> rfl

theorem afterText_escape (c : Char) (rest : List Char) :
    afterText 0 (escape c ++ rest) = afterText 0 rest := by
  obtain ⟨hplain, hquote, hslash, hvisible⟩ | ⟨letters, hletters, hmeant⟩ := escape_cases c
  · rw [hplain, List.singleton_append, afterText, if_neg (Nat.not_lt.2 hvisible)]
    · exact hquote
    · exact hslash
  · rw [hletters, List.cons_append, afterText, (hmeant rest).2]
    exact afterText_skip letters rest

/-- A text is read up to its closing quote. -/
theorem readText_escape (text : String) (rest : List Char) :
    readText (text.toList.flatMap escape ++ '"' :: rest) = (.ok text, .ok rest) := by
  have hchars : ∀ chars : List Char,
      textChars 0 (chars.flatMap escape ++ '"' :: rest) = .ok chars ∧
        afterText 0 (chars.flatMap escape ++ '"' :: rest) = .ok rest := by
    intro chars
    induction chars with
    | nil => exact ⟨by rw [List.flatMap_nil, List.nil_append, textChars], by
        rw [List.flatMap_nil, List.nil_append, afterText]⟩
    | cons c chars ih =>
      rw [List.flatMap_cons, List.append_assoc, textChars_escape, afterText_escape, ih.1]
      exact ⟨rfl, ih.2⟩
  obtain ⟨htext, hafter⟩ := hchars text.toList
  rw [readText, htext, hafter, Except.map, String.ofList_toList]

/-- A written text ends at the first quote that is not escaped. -/
theorem quote_append (text : String) (rest : List Char) :
    quote text ++ rest = '"' :: (text.toList.flatMap escape ++ '"' :: rest) := by
  simp [quote]

/-! ## Numbers -/

def endsNumber (c : Char) : Bool :=
  !isDigit c && c ≠ '.' && c ≠ 'e' && c ≠ 'E'

/-- What follows a number does not go on with it. -/
def Stops (rest : List Char) : Prop :=
  ∀ c ∈ rest.head?, endsNumber c = true

theorem isDigit_of_mem_toDigits {n : Nat} {c : Char} (h : c ∈ Nat.toDigits 10 n) :
    isDigit c = true := by
  have hdigit := Nat.isDigit_of_mem_toDigits (by decide) (by decide) h
  simpa [isDigit, Char.isDigit, Char.le_def] using hdigit

theorem exists_toDigits (n : Nat) : ∃ c more, Nat.toDigits 10 n = c :: more ∧ isDigit c = true := by
  obtain ⟨c, more, hdigits⟩ := List.exists_cons_of_ne_nil (Nat.toDigits_ne_nil (n := n) (b := 10))
  exact ⟨c, more, hdigits, isDigit_of_mem_toDigits (hdigits ▸ List.mem_cons_self)⟩

/-- A written number ends where its digits do. -/
theorem span_toDigits (n : Nat) {rest : List Char} (hrest : Stops rest) :
    (Nat.toDigits 10 n ++ rest).takeWhile isDigit = Nat.toDigits 10 n ∧
      (Nat.toDigits 10 n ++ rest).dropWhile isDigit = rest := by
  have hdigits : ∀ c ∈ Nat.toDigits 10 n, isDigit c = true := fun c => isDigit_of_mem_toDigits
  rw [List.takeWhile_append_of_pos hdigits, List.dropWhile_append_of_pos hdigits]
  cases rest with
  | nil => exact ⟨List.append_nil _, rfl⟩
  | cons c rest =>
    have hends : isDigit c = false := by
      have hstops := hrest c rfl
      simp only [endsNumber, Bool.and_eq_true, Bool.not_eq_true'] at hstops
      exact hstops.1.1.1
    simp [hends]

theorem digits_toDigits (n : Nat) {rest : List Char} (hrest : Stops rest) :
    digits (Nat.toDigits 10 n ++ rest) = .ok (Nat.toDigits 10 n, rest) := by
  obtain ⟨htaken, hleft⟩ := span_toDigits n hrest
  obtain ⟨c, more, hdigits, hdigit⟩ := exists_toDigits n
  rw [hdigits, List.cons_append] at htaken hleft ⊢
  rw [digits, if_pos hdigit, htaken, hleft]

/-- Only zero is written with a zero in front. -/
theorem head_toDigits_ne_zero {n : Nat} (h : 0 < n) :
    ∃ c more, Nat.toDigits 10 n = c :: more ∧ c ≠ '0' := by
  induction n using Nat.strongRecOn with
  | ind n ih =>
    rw [Nat.toDigits_eq_if (by decide)]
    by_cases hshort : n < 10
    · rw [if_pos hshort]
      exact ⟨n.digitChar, [], rfl, fun hzero => Nat.ne_of_gt h (Nat.digitChar_eq_zero.1 hzero)⟩
    · rw [if_neg hshort]
      obtain ⟨c, more, hdigits, hne⟩ := ih (n / 10) (by omega) (by omega)
      exact ⟨c, more ++ [(n % 10).digitChar], by rw [hdigits, List.cons_append], hne⟩

theorem wholeDigits_toDigits (n : Nat) {rest : List Char} (hrest : Stops rest) :
    wholeDigits (Nat.toDigits 10 n ++ rest) = .ok (Nat.toDigits 10 n, rest) := by
  rw [wholeDigits, digits_toDigits n hrest]
  rcases Nat.eq_zero_or_pos n with rfl | hpositive
  · rfl
  · obtain ⟨c, more, hdigits, hne⟩ := head_toDigits_ne_zero hpositive
    rw [hdigits]
    simp [bind, Except.bind, hne]

theorem fractionDigits_of_stops {rest : List Char} (hrest : Stops rest) :
    fractionDigits rest = .ok ([], rest) := by
  rw [fractionDigits]
  rintro more rfl
  exact absurd (hrest '.' rfl) (by decide)

theorem exponent_of_stops {rest : List Char} (hrest : Stops rest) :
    exponent rest = .ok (none, rest) := by
  rw [exponent]
  · rintro more rfl
    exact absurd (hrest 'e' rfl) (by decide)
  · rintro more rfl
    exact absurd (hrest 'E' rfl) (by decide)

end Reader

namespace Literal

/-- More digits make no number smaller. -/
theorem le_ofDigitChars (digits : List Char) (n : Nat) : n ≤ Nat.ofDigitChars 10 digits n := by
  induction digits generalizing n with
  | nil => exact Nat.le_refl n
  | cons c digits ih =>
    rw [Nat.ofDigitChars_cons]
    exact Nat.le_trans (by omega) (ih _)

/-- Where the significand has room for all digits, none is lost. -/
theorem append_eq_ofDigitChars (digits : List Char) (n : Nat)
    (h : Nat.ofDigitChars 10 digits n < UInt64.size) :
    append n digits = (Nat.ofDigitChars 10 digits n, digits.length) := by
  induction digits generalizing n with
  | nil => rfl
  | cons c digits ih =>
    rw [Nat.ofDigitChars_cons] at h ⊢
    have hroom : 10 * n + digitValue c < UInt64.size := Nat.lt_of_le_of_lt (le_ofDigitChars _ _) h
    rw [append]
    simp only [if_pos hroom]
    rw [digitValue, ih _ h]
    rfl

/-- The literal of a natural number that 64 bits have room for. -/
theorem ofDigits_toDigits (negative : Bool) {n : Nat} (h : n < UInt64.size) :
    ofDigits negative (Nat.toDigits 10 n) [] none = ⟨negative, n, 0, true⟩ := by
  have hvalue : Nat.ofDigitChars 10 (Nat.toDigits 10 n) 0 = n :=
    Nat.ofDigitChars_toDigits (by decide) (by decide)
  have hread := append_eq_ofDigitChars (Nat.toDigits 10 n) 0 (hvalue.symm ▸ h)
  rw [hvalue] at hread
  simp [ofDigits, hread, append]

/-- A literal without a point, an exponent or a minus in front of zero is whole. -/
theorem number?_of_plain {literal : Literal} {value : Int} (fits : Json.Fits value)
    (hplain : literal.plain = true)
    (hsign : literal.negative = true → 0 < literal.significand)
    (hvalue : (if literal.negative then -Int.ofNat literal.significand
      else (literal.significand : Int)) = value) :
    literal.number? = some (.whole value fits) := by
  subst hvalue
  exact dif_pos ⟨hplain, hsign, fits⟩

end Literal

namespace Reader

/-- A whole number is read back, with or without a sign. -/
theorem number_toDigits (n : Nat) {rest : List Char} (hrest : Stops rest) :
    number (Nat.toDigits 10 n ++ rest) =
        .ok (.ofDigits false (Nat.toDigits 10 n) [] none, rest) ∧
      number ('-' :: (Nat.toDigits 10 n ++ rest)) =
        .ok (.ofDigits true (Nat.toDigits 10 n) [] none, rest) := by
  have hunsigned : ∀ c ∈ (Nat.toDigits 10 n ++ rest).head?, c ≠ '-' := by
    intro c hc
    obtain ⟨first, more, hdigits, hdigit⟩ := exists_toDigits n
    rw [hdigits] at hc
    obtain rfl := Option.some.inj hc
    rintro rfl
    exact absurd hdigit (by decide)
  constructor
  · have hsign : ∀ more, Nat.toDigits 10 n ++ rest ≠ '-' :: more := fun more heq =>
      hunsigned '-' (by rw [heq]; rfl) rfl
    simp only [number, bind, Except.bind, wholeDigits_toDigits n hrest,
      fractionDigits_of_stops hrest, exponent_of_stops hrest]
    rfl
  · simp only [number, bind, Except.bind, wholeDigits_toDigits n hrest,
      fractionDigits_of_stops hrest, exponent_of_stops hrest]
    rfl

/-- A whole number is read as it was written. -/
theorem numberValue_chars (value : Int) (fits : Json.Fits value) {rest : List Char}
    (hrest : Stops rest) :
    numberValue ((Number.whole value fits).chars ++ rest) =
      (.number (some (.whole value fits)), some rest) := by
  have hlower := fits.1
  have hupper := fits.2
  have hsize : UInt64.size = 18446744073709551616 := rfl
  cases value with
  | ofNat n =>
    have hroom : n < UInt64.size := by
      rw [Int.ofNat_eq_natCast] at hupper
      omega
    have hnumber : (Literal.mk false n 0 true).number? = some (.whole (.ofNat n) fits) :=
      Literal.number?_of_plain fits rfl (fun h => absurd h Bool.false_ne_true) rfl
    rw [Number.chars, numberValue, (number_toDigits n hrest).1, Literal.ofDigits_toDigits _ hroom]
    simp only
    rw [hnumber]
  | negSucc n =>
    have hroom : n + 1 < UInt64.size := by omega
    have hnumber : (Literal.mk true (n + 1) 0 true).number? =
        some (.whole (.negSucc n) fits) :=
      Literal.number?_of_plain fits rfl (fun _ => Nat.succ_pos n) rfl
    rw [Number.chars, List.cons_append, numberValue, (number_toDigits (n + 1) hrest).2,
      Literal.ofDigits_toDigits _ hroom]
    simp only
    rw [hnumber]

/-! ## Values -/

theorem stops_cons {c : Char} (h : endsNumber c = true) (rest : List Char) : Stops (c :: rest) := by
  intro first hfirst
  obtain rfl := Option.some.inj hfirst
  exact h

theorem stops_itemChars (items : List Json) (rest : List Char) :
    Stops (itemChars items ++ rest) := by
  cases items with
  | nil => exact stops_cons rfl _
  | cons item items => exact stops_cons rfl _

theorem stops_memberChars (members : List (String × Json)) (rest : List Char) :
    Stops (memberChars members ++ rest) := by
  cases members with
  | nil => exact stops_cons rfl _
  | cons member members => exact stops_cons rfl _

theorem length_itemChars_pos (items : List Json) : 0 < (itemChars items).length := by
  cases items <;> exact Nat.succ_pos _

theorem length_memberChars_pos (members : List (String × Json)) :
    0 < (memberChars members).length := by
  cases members <;> exact Nat.succ_pos _

/-- How the text of a whole number begins. -/
theorem exists_chars_number (value : Int) (fits : Json.Fits value) :
    ∃ c more, (Number.whole value fits).chars = c :: more ∧ (c = '-' ∨ isDigit c = true) := by
  cases value with
  | ofNat n =>
    obtain ⟨c, more, hdigits, hdigit⟩ := exists_toDigits n
    exact ⟨c, more, hdigits, .inr hdigit⟩
  | negSucc n => exact ⟨'-', _, rfl, .inl rfl⟩

theorem skipSpace_cons {c : Char} (h : isSpace c = false) (rest : List Char) :
    skipSpace (c :: rest) = c :: rest := by
  rw [skipSpace, List.dropWhile_cons_of_neg (by rw [h]; exact Bool.false_ne_true)]

theorem isSpace_of_isDigit {c : Char} (h : isDigit c = true) : isSpace c = false := by
  rw [isSpace, Bool.eq_false_iff]
  intro hspace
  simp only [Bool.or_eq_true, decide_eq_true_eq] at hspace
  obtain ((rfl | rfl) | rfl) | rfl := hspace <;> exact absurd h (by decide)

/-- What begins like a number is read as one. -/
theorem value_of_numberStart {c : Char} (h : c = '-' ∨ isDigit c = true) (fuel : Nat)
    (rest : List Char) : Reader.value (fuel + 1) (c :: rest) = numberValue (c :: rest) := by
  have hspace : isSpace c = false := by
    rcases h with rfl | hdigit
    · rfl
    · exact isSpace_of_isDigit hdigit
  have hne : ∀ other : Char, other ≠ '-' → isDigit other = false → c ≠ other := by
    rintro other hsign hdigit rfl
    rcases h with rfl | hother
    · exact hsign rfl
    · exact Bool.false_ne_true (hdigit.symm.trans hother)
  have hnull := hne 'n' (by decide) (by decide)
  have htrue := hne 't' (by decide) (by decide)
  have hfalse := hne 'f' (by decide) (by decide)
  have hquote := hne '"' (by decide) (by decide)
  have harray := hne '[' (by decide) (by decide)
  have hobject := hne '\x7b' (by decide) (by decide)
  rw [Reader.value, skipSpace_cons hspace]
  -- the facts about other beginnings rule out the other branches
  simp [h]

/-- No text of a value begins with a blank or with a closing bracket. -/
theorem exists_chars {value : Json} (hwhole : value.allWhole = true) :
    ∃ c more, value.chars = c :: more ∧ isSpace c = false ∧ c ≠ ']' := by
  cases value with
  | null => exact ⟨_, _, rfl, rfl, by decide⟩
  | bool flag => cases flag <;> exact ⟨_, _, rfl, rfl, by decide⟩
  | text content => exact ⟨_, _, rfl, rfl, by decide⟩
  | array items => cases items <;> exact ⟨_, _, rfl, rfl, by decide⟩
  | object members => cases members <;> exact ⟨_, _, rfl, rfl, by decide⟩
  | number found =>
    cases found with
    | real _ => exact absurd hwhole Bool.false_ne_true
    | whole value fits =>
      obtain ⟨c, more, hchars, hfirst⟩ := exists_chars_number value fits
      refine ⟨c, more, hchars, ?_, ?_⟩
      · rcases hfirst with rfl | hdigit
        · rfl
        · exact isSpace_of_isDigit hdigit
      · rcases hfirst with rfl | hdigit
        · decide
        · rintro rfl
          exact absurd hdigit (by decide)

/-- An array is read by its items, unless it is closed at once. -/
theorem value_of_items {fuel : Nat} {c : Char} {more rest : List Char} {found : List Tree}
    (hspace : isSpace c = false) (hne : c ≠ ']')
    (hread : Reader.items fuel (c :: more) = (found, none, some rest)) :
    Reader.value (fuel + 1) ('[' :: c :: more) = (.array found none, some rest) := by
  rw [Reader.value, skipSpace_cons rfl]
  simp [skipSpace_cons hspace, hne, hread]

/-- An object is read by its members, the first of which begins with a quote. -/
theorem value_of_members {fuel : Nat} {more rest : List Char} {found : List (Name × Tree)}
    (hread : Reader.members fuel ('"' :: more) = (found, none, some rest)) :
    Reader.value (fuel + 1) ('\x7b' :: '"' :: more) = (.object found none, some rest) := by
  rw [Reader.value, skipSpace_cons rfl]
  simp [skipSpace_cons (show isSpace '"' = false from rfl), hread]

mutual

/-- What was written is read back as its tree, whatever comes after it. -/
theorem value_chars (value : Json) (fuel : Nat) (rest : List Char)
    (hwhole : value.allWhole = true) (hfuel : 2 * value.chars.length ≤ fuel) (hrest : Stops rest) :
    Reader.value fuel (value.chars ++ rest) = (value.tree, some rest) := by
  obtain ⟨fuel, rfl⟩ : ∃ less, fuel = less + 1 := by
    obtain ⟨c, more, hchars, -⟩ := exists_chars hwhole
    rw [hchars, List.length_cons] at hfuel
    exact ⟨fuel - 1, by omega⟩
  cases value with
  | null => rfl
  | bool flag => cases flag <;> rfl
  | text content =>
    rw [chars, quote_append, Reader.value, skipSpace_cons rfl]
    simp only [textValue, readText_escape]
    rfl
  | number found =>
    cases found with
    | real _ => exact absurd hwhole Bool.false_ne_true
    | whole value fits =>
      obtain ⟨c, more, hchars, hfirst⟩ := exists_chars_number value fits
      have hread := numberValue_chars value fits hrest
      rw [chars, hchars, List.cons_append, value_of_numberStart hfirst, ← List.cons_append,
        ← hchars, hread]
      rfl
  | array items =>
    cases items with
    | nil => rfl
    | cons item items =>
      have hroom : 2 * (itemChars (item :: items)).length ≤ fuel + 2 := by
        rw [chars, List.length_cons] at hfuel
        rw [itemChars, List.length_cons]
        omega
      have hread := items_itemChars (item :: items) fuel rest hwhole (List.cons_ne_nil _ _) hroom
      obtain ⟨c, more, hchars, hspace, hne⟩ := exists_chars (Bool.and_eq_true_iff.1 hwhole).1
      rw [itemChars, List.tail_cons, hchars, List.cons_append, List.cons_append] at hread
      rw [chars, hchars, List.cons_append, List.cons_append, List.cons_append]
      exact value_of_items hspace hne hread
  | object members =>
    cases members with
    | nil => rfl
    | cons member members =>
      obtain ⟨name, value⟩ := member
      have hroom : 2 * (memberChars ((name, value) :: members)).length ≤ fuel + 2 := by
        rw [chars, List.length_cons] at hfuel
        rw [memberChars, List.length_cons]
        omega
      have hread := members_memberChars ((name, value) :: members) fuel rest hwhole
        (List.cons_ne_nil _ _) hroom
      rw [memberChars, List.tail_cons, List.append_assoc, quote_append] at hread
      rw [chars, List.cons_append, List.append_assoc, quote_append]
      exact value_of_members hread
termination_by structural value

theorem items_itemChars (items : List Json) (fuel : Nat) (rest : List Char)
    (hwhole : allWholeItems items = true) (hne : items ≠ [])
    (hfuel : 2 * (itemChars items).length ≤ fuel + 2) :
    Reader.items fuel ((itemChars items).tail ++ rest) = (itemTrees items, none, some rest) := by
  cases items with
  | nil => exact absurd rfl hne
  | cons item items =>
    obtain ⟨hitem, hitems⟩ := Bool.and_eq_true_iff.1 hwhole
    obtain ⟨c, more, hchars, -⟩ := exists_chars hitem
    have hlength := congrArg List.length hchars
    rw [List.length_cons] at hlength
    have hpositive := length_itemChars_pos items
    rw [itemChars, List.length_cons, List.length_append] at hfuel
    obtain ⟨fuel, rfl⟩ : ∃ less, fuel = less + 1 := ⟨fuel - 1, by omega⟩
    have hread := value_chars item fuel (itemChars items ++ rest) hitem (by omega)
      (stops_itemChars items rest)
    rw [itemChars, List.tail_cons, List.append_assoc, Reader.items, hread]
    cases items with
    | nil =>
      simp only [itemChars, List.cons_append, skipSpace_cons (show isSpace ']' = false from rfl)]
      rfl
    | cons other others =>
      have hmore := items_itemChars (other :: others) fuel rest hitems (List.cons_ne_nil _ _)
        (by omega)
      rw [itemChars, List.tail_cons] at hmore
      simp only [itemChars, List.cons_append, skipSpace_cons (show isSpace ',' = false from rfl)]
      rw [hmore]
      rfl
termination_by structural items

theorem members_memberChars (members : List (String × Json)) (fuel : Nat) (rest : List Char)
    (hwhole : allWholeMembers members = true) (hne : members ≠ [])
    (hfuel : 2 * (memberChars members).length ≤ fuel + 2) :
    Reader.members fuel ((memberChars members).tail ++ rest) =
      (memberTrees members, none, some rest) := by
  cases members with
  | nil => exact absurd rfl hne
  | cons member members =>
    obtain ⟨name, value⟩ := member
    obtain ⟨hvalue, hmembers⟩ := Bool.and_eq_true_iff.1 hwhole
    obtain ⟨c, more, hchars, -⟩ := exists_chars hvalue
    have hlength := congrArg List.length hchars
    rw [List.length_cons] at hlength
    have hpositive := length_memberChars_pos members
    rw [memberChars, List.length_cons, List.length_append, List.length_cons,
      List.length_append] at hfuel
    obtain ⟨fuel, rfl⟩ : ∃ less, fuel = less + 1 := ⟨fuel - 1, by omega⟩
    have hread := value_chars value fuel (memberChars members ++ rest) hvalue (by omega)
      (stops_memberChars members rest)
    rw [memberChars, List.tail_cons, List.append_assoc, quote_append, Reader.members,
      skipSpace_cons rfl]
    simp only [readText_escape, List.cons_append, List.append_assoc,
      skipSpace_cons (show isSpace ':' = false from rfl), hread]
    cases members with
    | nil =>
      simp only [memberChars, List.cons_append,
        skipSpace_cons (show isSpace '\x7d' = false from rfl)]
      rfl
    | cons other others =>
      have hmore := members_memberChars (other :: others) fuel rest hmembers
        (List.cons_ne_nil _ _) (by omega)
      rw [memberChars, List.tail_cons] at hmore
      simp only [memberChars, List.cons_append,
        skipSpace_cons (show isSpace ',' = false from rfl)]
      rw [hmore]
      rfl
termination_by structural members

end

end Reader

/-- The text of a value without fractions is read into the tree of that value, and nothing is left
over. -/
theorem Document.read_render {value : Json} (hwhole : value.allWhole = true) :
    Document.read value.render = ⟨value.tree, false⟩ := by
  have hread := Reader.value_chars value (2 * value.chars.length + 2) [] hwhole
    (Nat.le_add_right _ 2) nofun
  rw [List.append_nil] at hread
  rw [Document.read, render, String.toList_ofList]
  simp only [hread]
  rfl

end RegistrySession.Json
